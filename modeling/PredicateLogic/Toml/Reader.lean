import PredicateLogic.Toml.Moment
import PredicateLogic.Toml.Number
import PredicateLogic.Toml.Value

/-!
# Reading keys and values of TOML

A value without quotes and brackets is cut off first, at the first character
that cannot belong to it, and classified as a whole afterwards. Values nest in
arrays and in tables in braces, to a bounded depth; the reader for one depth is
given the reader for the next one.
-/

namespace PredicateLogic.Toml

/-- The number of parts that a key must stay below, and of levels that nesting
must stay below. -/
def depthLimit : Nat := 80

/-- The text behind spaces and tabs. -/
def skipBlanks (cs : List Char) : List Char :=
  cs.dropWhile fun c => c == ' ' || c == '\t'

/-- The text behind blanks, line ends and comments. -/
def skipSpace : (inComment : Bool) → List Char → List Char
  | _, [] => []
  | inComment, c :: cs =>
    if c == '\n' then skipSpace false cs
    else if c == '\r' && endsLine cs then skipSpace inComment cs
    else if inComment then if isPlain c then skipSpace true cs else c :: cs
    else if c == '#' then skipSpace true cs
    else if c == ' ' || c == '\t' then skipSpace false cs
    else c :: cs

/-- Whether a character can stand in a key without quotes. -/
def isKeyChar (c : Char) : Bool :=
  c.isAlphanum || c == '_' || c == '-'

/-- Reads one part of a key. -/
def keyPart? : List Char → Option (String × List Char)
  | [] => none
  | c :: cs =>
    if c == '\x22' then basicText .content [] cs
    else if c == '\x27' then literalText [] cs
    else if isKeyChar c then
      some (String.ofList ((c :: cs).takeWhile isKeyChar),
        (c :: cs).dropWhile isKeyChar)
    else none

/-- Reads the parts of a key, with dots and blanks between them, up to a number
of parts. The accumulator holds the parts before, latest first. -/
def keyParts? :
    (left : Nat) → (done : List String) → List Char →
      Option (List String × List Char)
  | 0, _, _ => none
  | left + 1, done, cs => do
    let (part, cs) ← keyPart? (skipBlanks cs)
    match skipBlanks cs with
    | '.' :: cs => keyParts? left (part :: done) cs
    | cs => some (part :: done, cs)

/-- A key: the path to the table that it belongs to, and its last part. -/
structure Key where
  /-- The parts before the last one. -/
  path : List String
  last : String
deriving DecidableEq, Repr

/-- Reads a key with the blanks around it. Keys with too many parts are
refused. -/
def key? (cs : List Char) : Option (Key × List Char) := do
  match ← keyParts? (depthLimit - 1) [] cs with
  | (last :: before, rest) => some (⟨before.reverse, last⟩, rest)
  | ([], _) => none

/-- Whether a character can stand in a value without quotes and brackets. -/
def isScalarChar (c : Char) : Bool :=
  c.isAlphanum || c == '_' || c == '+' || c == '-' || c == '.' || c == ':'

/-- The value of a text without quotes and brackets. -/
def scalar? (cs : List Char) : Option Value :=
  if cs == "true".toList then some (.truth true)
  else if cs == "false".toList then some (.truth false)
  else if isMoment cs || isDate cs then some .moment
  else if isFloat cs then some .float
  else (integer? cs).map .integer

/-- The text behind a space and a time, if these come next. They belong to a
date before them. -/
def skipClock (cs : List Char) : List Char :=
  match cs with
  | ' ' :: behind =>
    if isClock (behind.takeWhile isScalarChar) then
      behind.dropWhile isScalarChar
    else cs
  | _ => cs

/-- Reads a value without quotes and brackets. -/
def scalarToken? (cs : List Char) : Option (Value × List Char) :=
  let token := cs.takeWhile isScalarChar
  let rest := cs.dropWhile isScalarChar
  (scalar? token).map fun value =>
    (value, if isDate token then skipClock rest else rest)

/-- Reads the elements of an array and the bracket behind them. The accumulator
holds the elements before, latest first. There are no more elements than
characters in the first argument, for which the text itself is taken. -/
def elements? (element? : List Char → Option (Value × List Char)) :
    (fuel : List Char) → (done : List Value) → List Char →
      Option (List Value × List Char)
  | [], _, _ => none
  | _ :: fuel, done, cs =>
    match skipSpace false cs with
    | ']' :: cs => some (done.reverse, cs)
    | cs => do
      let (value, cs) ← element? cs
      match skipSpace false cs with
      | ']' :: cs => some ((value :: done).reverse, cs)
      | ',' :: cs => elements? element? fuel (value :: done) cs
      | _ => none

/-- Reads a key, the equals sign and the value. -/
def member? (value? : List Char → Option (Value × List Char)) (cs : List Char) :
    Option (Key × Value × List Char) := do
  let (key, cs) ← key? cs
  let (value, cs) ← value? (skipBlanks (← mark? '=' cs))
  some (key, value, skipBlanks cs)

/-- Reads the members of a table in braces and the brace behind them, and adds
them to those before. There are no more members than characters in the first
argument, for which the text itself is taken. -/
def members? (value? : List Char → Option (Value × List Char)) :
    (fuel : List Char) → (done : Entries) → List Char →
      Option (Entries × List Char)
  | [], _, _ => none
  | _ :: fuel, done, cs => do
    let (key, value, cs) ← member? value? cs
    let done ← done.assign key.path key.last value
    match cs with
    | '}' :: cs => some (done, cs)
    | ',' :: cs => members? value? fuel done cs
    | _ => none

/-- Reads a table behind its opening brace. It stands on one line. -/
def braced? (value? : List Char → Option (Value × List Char)) (cs : List Char) :
    Option (Entries × List Char) :=
  match skipBlanks cs with
  | '}' :: cs => some ([], cs)
  | cs => members? value? cs [] cs

/-- Reads a value in which arrays and tables in braces nest to the given depth
at most. -/
def value? : (levels : Nat) → List Char → Option (Value × List Char)
  | 0, '[' :: _ => none
  | 0, '{' :: _ => none
  | levels + 1, '[' :: cs =>
    (elements? (value? levels) cs [] cs).map fun (elements, rest) =>
      (.array elements, rest)
  | levels + 1, '{' :: cs =>
    (braced? (value? levels) cs).map fun (entries, rest) =>
      (.inline entries, rest)
  | _, cs =>
    match quotedText? cs with
    | some (text, rest) => some (.text text, rest)
    | none => scalarToken? cs

end PredicateLogic.Toml
