/-!
# Quoted texts in TOML

Texts stand in double quotes, with escapes, or in single quotes, without. Three
quotes enclose a text over several lines; up to two more quotes may then stand
directly before the closing ones. Line ends within a text become line feeds.

The readers take the text behind the opening quotes and return the content
together with what follows the closing quotes.
-/

namespace PredicateLogic.Toml

/-- Whether a character may stand in a comment or a text as it is: a tab, or no
control character. -/
def isPlain (c : Char) : Bool :=
  c == '\t' || (0x20 ≤ c.toNat && c.toNat != 0x7F)

/-- The value of a hexadecimal digit. -/
def hexValue? (c : Char) : Option Nat :=
  if '0' ≤ c ∧ c ≤ '9' then some (c.toNat - 0x30)
  else if 'a' ≤ c ∧ c ≤ 'f' then some (c.toNat - 0x57)
  else if 'A' ≤ c ∧ c ≤ 'F' then some (c.toNat - 0x37)
  else none

/-- The character that a letter stands for behind a backslash. -/
def escaped? : Char → Option Char
  | 'b' => some '\x08'
  | 'f' => some '\x0c'
  | 'n' => some '\n'
  | 'r' => some '\r'
  | 't' => some '\t'
  | '\x22' => some '\x22'
  | '\x5c' => some '\x5c'
  | _ => none

/-- The progress of a reader of double-quoted text. -/
inductive QuoteState where
  /-- Outside escapes. -/
  | content
  /-- Behind a backslash. -/
  | opened
  /-- In the code of a character, with this many digits left. -/
  | code (left : Nat) (value : Nat)
  /-- Behind a backslash and blanks, before a line end. -/
  | lineEnd
  /-- Behind a backslash at a line end, where blanks and line ends are
  dropped. -/
  | trimming
deriving DecidableEq, Repr

/-- Goes on with the code of a character by one digit: the next state, and the
character if this was the last digit. There is no character for a surrogate or
beyond the last code point. -/
def codeStep? (left value : Nat) (c : Char) : Option (QuoteState × List Char) :=
  do
  let digit ← hexValue? c
  let value := 16 * value + digit
  if 1 < left then pure (.code (left - 1) value, [])
  else if value.isValidChar then pure (.content, [Char.ofNat value])
  else none

/-- Goes on behind a backslash: the next state, and the character if the escape
is complete. -/
def escapeStep? (c : Char) : Option (QuoteState × List Char) :=
  if c == 'u' then some (.code 4 0, [])
  else if c == 'U' then some (.code 8 0, [])
  else (escaped? c).map fun d => (.content, [d])

/-- Reads a text in double quotes on one line. The characters read are kept
latest first. -/
def basicText :
    QuoteState → (done : List Char) → List Char → Option (String × List Char)
  | _, _, [] => none
  | .opened, done, c :: cs => do
    let (state, read) ← escapeStep? c
    basicText state (read ++ done) cs
  | .code left value, done, c :: cs => do
    let (state, read) ← codeStep? left value c
    basicText state (read ++ done) cs
  | _, done, c :: cs =>
    if c == '\x22' then some (String.ofList done.reverse, cs)
    else if c == '\x5c' then basicText .opened done cs
    else if isPlain c then basicText .content (c :: done) cs
    else none

/-- Reads a text in single quotes on one line. -/
def literalText : (done : List Char) → List Char → Option (String × List Char)
  | _, [] => none
  | done, c :: cs =>
    if c == '\x27' then some (String.ofList done.reverse, cs)
    else if isPlain c then literalText (c :: done) cs
    else none

/-- Ends a text over several lines before a run of at least three quotes, of
which up to two belong to the text. The first quote of the run has been taken
from the rest. -/
def closing? (quote : Char) (done rest : List Char) :
    Option (String × List Char) :=
  let run := 1 + (rest.takeWhile (· == quote)).length
  if run < 3 then none
  else
    let extra := min 2 (run - 3)
    some (String.ofList (List.replicate extra quote ++ done).reverse,
      rest.drop (extra + 2))

/-- Whether a carriage return belongs to a line end, given the text behind
it. -/
def endsLine (rest : List Char) : Bool :=
  rest.head? == some '\n'

/-- Reads a text in three double quotes. -/
def basicLines :
    QuoteState → (done : List Char) → List Char → Option (String × List Char)
  | _, _, [] => none
  | .opened, done, c :: cs =>
    if c == ' ' || c == '\t' then basicLines .lineEnd done cs
    else if c == '\n' then basicLines .trimming done cs
    else if c == '\r' then
      if endsLine cs then basicLines .trimming done cs else none
    else do
      let (state, read) ← escapeStep? c
      basicLines state (read ++ done) cs
  | .code left value, done, c :: cs => do
    let (state, read) ← codeStep? left value c
    basicLines state (read ++ done) cs
  | .lineEnd, done, c :: cs =>
    if c == ' ' || c == '\t' then basicLines .lineEnd done cs
    else if c == '\n' then basicLines .trimming done cs
    else if c == '\r' && endsLine cs then basicLines .trimming done cs
    else none
  | state, done, c :: cs =>
    if state == .trimming &&
        (c == ' ' || c == '\t' || c == '\n' || (c == '\r' && endsLine cs)) then
      basicLines .trimming done cs
    else if c == '\x22' then
      match closing? c done cs with
      | some result => some result
      | none => basicLines .content (c :: done) cs
    else if c == '\x5c' then basicLines .opened done cs
    else if c == '\n' || isPlain c then basicLines .content (c :: done) cs
    else if c == '\r' && endsLine cs then basicLines .content done cs
    else none

/-- Reads a text in three single quotes. -/
def literalLines : (done : List Char) → List Char → Option (String × List Char)
  | _, [] => none
  | done, c :: cs =>
    if c == '\x27' then
      match closing? c done cs with
      | some result => some result
      | none => literalLines (c :: done) cs
    else if c == '\n' || isPlain c then literalLines (c :: done) cs
    else if c == '\r' && endsLine cs then literalLines done cs
    else none

/-- The text without a line end at its start. -/
def dropLineEnd : List Char → List Char
  | '\n' :: cs => cs
  | '\r' :: '\n' :: cs => cs
  | cs => cs

/-- Reads a quoted text of any of the four kinds. -/
def quotedText? : List Char → Option (String × List Char)
  | '\x22' :: '\x22' :: '\x22' :: cs => basicLines .content [] (dropLineEnd cs)
  | '\x22' :: cs => basicText .content [] cs
  | '\x27' :: '\x27' :: '\x27' :: cs => literalLines [] (dropLineEnd cs)
  | '\x27' :: cs => literalText [] cs
  | _ => none

end PredicateLogic.Toml
