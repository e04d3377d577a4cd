import PredicateLogic.Formula.Reading
import PredicateLogic.Unicode.Identifier

/-!
# Reading formulas

The grammar has one level for each priority, loosest first:

```
formula      := junction ( ("→" | "←" | "↔") junction )*
junction     := operand ( ("∧" | "∨" | "⊻") operand )*
operand      := "¬" operand | ("∀" | "∃") identifier operand | group | call
group        := "(" formula ")"
call         := identifier ( "(" ( formula ( "," formula )* )? ")" )?
```

A chain uses one connective throughout and groups to the left. White space may
stand between any two tokens. Where a group cannot be completed, a call is tried
at its place; where an argument list cannot be completed, the name before it is
read alone; where a right operand is missing, the chain ends before its
connective.

The number of nestings left bounds the recursion. It goes down by one on the way
into a formula, the operand of a negation and the body of a quantifier, and a
reader with none left refuses to go on. Chains nest only in the formula they
make, so its height is checked as well.
-/

namespace PredicateLogic

/-- The bound on the nesting of the text and on the height of formulas. -/
def maxNesting : Nat := 128

namespace Reader

/-- Reads a maximal run of identifier characters. -/
def identifier : Reader String := fun p =>
  match p.rest with
  | [] => .failure .identifier p
  | c :: cs =>
    if isIdentifierStart c then
      let name := c :: cs.takeWhile isIdentifierContinue
      .success (String.ofList name) (p.advance name.length)
    else .failure .identifier p

/-- A complaint at a place where a formula does not go on. -/
def missing (complaint : Complaint) : Reader Formula :=
  Reading.failure complaint

/-- Passes on a formula whose height is within the bound. -/
def bounded (f : Formula) (p : Place) : Reading Formula :=
  if f.height ≤ maxNesting then .success f p else .refusal f.span.start

/-- Reads with the given reader, if there is one nesting left for it. -/
def nested (inner : Option (Reader Formula)) : Reader Formula := fun p =>
  match inner with
  | none => .refusal p.offset
  | some read => read p

/-- Continues a chain of `op` that starts at the offset `start` and has been
read as `left` so far. Every further operand shortens the text, so the length of
the text is enough `fuel`. -/
def chain (op : Connective) (read : Reader Formula) (start : Nat) :
    (fuel : Nat) → (left : Formula) → Reader Formula
  | 0, left, p => .success left p
  | fuel + 1, left, p =>
    match Spelling.firstStarting? op.spellings p.skipBlanks.rest with
    | none => .success left p
    | some s =>
      let q := (p.skipBlanks.advance s.length).skipBlanks
      let right := read q
      match right.outcome with
      | none =>
        (right.followedBy (missing .rightOperand q)).followedBy
          (.success left p)
      | some (b, r) =>
        let joined := Formula.binary op left b ⟨start, r.offset⟩
        if joined.height ≤ maxNesting then
          right.followedBy (chain op read start fuel joined r)
        else right.followedBy (.refusal start)

/-- Reads operands that are joined by one of the connectives with the given
spellings. The first connective settles which one continues the chain. -/
def chained (spellings : List Spelling) (read : Reader Formula) :
    Reader Formula := fun p =>
  let first := read p
  match first.outcome with
  | none => first
  | some (a, q) =>
    match (Spelling.firstStarting? spellings q.skipBlanks.rest).bind
      Connective.ofSpelling? with
    | none => first
    | some op => first.followedBy (chain op read p.offset q.rest.length a q)

/-- Reads a chain of conjunctions or disjunctions, given the reader of
operands. -/
def junction (operand : Reader Formula) : Reader Formula :=
  chained Connective.junctionSpellings operand

/-- Reads a chain of implications or equivalences, given the reader of
operands. -/
def implication (operand : Reader Formula) : Reader Formula :=
  chained Connective.implicationSpellings (junction operand)

/-- Reads a formula, given the reader of its operands. -/
def formula (inner : Option (Reader Formula)) : Reader Formula := fun p =>
  let body := nested (inner.map implication) p
  match body.outcome with
  | none => body.followedBy (.failure .formula p)
  | some _ => body

/-- Ends an argument list, given the arguments from the last to the first. -/
def closeArguments (reversed : List Formula) : Reader (List Formula) := fun p =>
  if p.startsWith ')' then .success reversed.reverse (p.advance 1)
  else .failure .closingParenthesis p

/-- Reads the arguments behind those read so far. Every further argument
shortens the text, so the length of the text is enough `fuel`. -/
def furtherArguments (inner : Option (Reader Formula)) :
    (fuel : Nat) → (reversed : List Formula) → Reader (List Formula)
  | 0, reversed, p => closeArguments reversed p
  | fuel + 1, reversed, p =>
    if p.startsWith ',' then
      let q := (p.advance 1).skipBlanks
      let next := formula inner q
      match next.outcome with
      | none => next.followedBy (.failure .formula q)
      | some (a, r) =>
        next.followedBy
          (furtherArguments inner fuel (a :: reversed) r.skipBlanks)
    else closeArguments reversed p

/-- Reads the arguments of a call and the parenthesis behind them. -/
def arguments (inner : Option (Reader Formula)) : Reader (List Formula) :=
  fun p =>
  let first := formula inner p
  match first.outcome with
  | none => first.followedBy (closeArguments [] p)
  | some (a, q) =>
    first.followedBy (furtherArguments inner q.rest.length [a] q.skipBlanks)

/-- Reads a name, with its arguments if it has any. -/
def call (inner : Option (Reader Formula)) : Reader Formula := fun p =>
  let name := identifier p
  match name.outcome with
  | none => name.followedBy (.failure .constantOrVariable p)
  | some (n, q) =>
    let symbol : Reading Formula := .success (.symbol n ⟨p.offset, q.offset⟩) q
    if q.skipBlanks.startsWith '(' then
      let args := arguments inner (q.skipBlanks.advance 1).skipBlanks
      match args.outcome with
      | none => args.followedBy symbol
      | some (as, r) =>
        args.followedBy (bounded (.call n as ⟨p.offset, r.offset⟩) r)
    else symbol

/-- Reads a formula in parentheses at a place before the opening one. -/
def group (inner : Option (Reader Formula)) : Reader Formula := fun p =>
  let q := (p.advance 1).skipBlanks
  let body := formula inner q
  match body.outcome with
  | none => (body.followedBy (missing .formula q)).followedBy (call inner p)
  | some (f, r) =>
    if r.skipBlanks.startsWith ')' then
      body.followedBy (.success f (r.skipBlanks.advance 1))
    else
      (body.followedBy (missing .closingParenthesis r.skipBlanks)).followedBy
        (call inner p)

/-- Reads a quantified formula whose quantifier has been recognized by a
spelling of `length` characters. -/
def quantified (inner : Option (Reader Formula)) (quantifier : Quantifier)
    (length : Nat) :
    Reader Formula := fun p =>
  let q := (p.advance length).skipBlanks
  let name := identifier q
  match name.outcome with
  | none => name.followedBy (.failure .boundVariable q)
  | some (x, r) =>
    let body := nested inner r.skipBlanks
    match body.outcome with
    | none => body.followedBy (.failure .formula r.skipBlanks)
    | some (f, s) =>
      body.followedBy
        (bounded (.quantified quantifier x f ⟨p.offset, s.offset⟩) s)

/-- Reads a negated formula at a place before the sign, which is one
character. -/
def negation (inner : Option (Reader Formula)) : Reader Formula := fun p =>
  let q := (p.advance 1).skipBlanks
  let body := nested inner q
  match body.outcome with
  | none => body.followedBy (.failure .operand q)
  | some (f, r) =>
    body.followedBy (bounded (.negation f ⟨p.offset, r.offset⟩) r)

/-- Reads an operand, given the reader of operands one nesting further in. -/
def operandWith (inner : Option (Reader Formula)) : Reader Formula := fun p =>
  if (Spelling.firstStarting? negationSpellings p.rest).isSome then
    negation inner p
  else
    match (Spelling.firstStarting? Quantifier.spellings p.rest).bind fun s =>
        (Quantifier.ofSpelling? s).map fun quantifier =>
          (quantifier, s.length) with
    | some (quantifier, length) => quantified inner quantifier length p
    | none => if p.startsWith '(' then group inner p else call inner p

/-- Reads an operand with the given number of nestings left. -/
def operand : (left : Nat) → Reader Formula
  | 0 => operandWith none
  | left + 1 => operandWith (some (operand left))

/-- The reader of operands one nesting further in. -/
def operandBelow : (left : Nat) → Option (Reader Formula)
  | 0 => none
  | left + 1 => some (operand left)

end Reader

end PredicateLogic
