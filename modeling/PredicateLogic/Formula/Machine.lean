import PredicateLogic.Formula.Session
import PredicateLogic.Text.Cursor

/-!
# Reading on a cursor

A formula is read on a single cursor, which is moved forwards and set back where
an alternative fails. Along with it go a counter of the nestings entered so far
and a mark that is set when nesting first goes beyond the bound and is never
taken back. `Machine` is this state, and a `Run` is a piece of reading that
changes it.

`Reader` says what comes of reading at a place; here is how it comes about, one
operation on the cursor after the other. A run has no result if it looks at the
text from within a character or from beyond the end, or if it leaves a nesting
that it never entered. It has none either if it does not come to an end: a loop
may go through no more rounds than the text has characters and one, and the
operands that are being read at the same time have to fit on a stack of limited
size.

For each call the machine also keeps a record that nothing depends on: how deep
it went, and where the bound was met.
-/

namespace PredicateLogic

/-- The state of reading on a cursor. -/
structure Machine where
  /-- The text and the position in it. -/
  cursor : Cursor
  /-- The number of nestings entered and not yet left. -/
  depth : Nat
  /-- The offset at which nesting first went beyond the bound. -/
  tooDeep : Option Nat
  /-- The greatest depth since the call began. -/
  deepest : Nat
  /-- Where the bound was met since the call began, in order. -/
  refusals : List Nat

/-- A piece of reading. -/
abbrev Run (α : Type) := StateT Machine Option α

/-- What is reported of a text that is not a formula. -/
structure Machine.Error where
  /-- What was missing. -/
  message : String
  /-- The offset at which correction should begin. -/
  position : Nat
  /-- The offset up to which the text is a formula. -/
  consumed : Nat
deriving DecidableEq, Repr

namespace Machine

/-- A machine at the start of a text, which is normalized first. -/
def ofText (text : String) : Machine :=
  ⟨.ofText text, 0, none, 0, []⟩

/-!
# Operations
-/

/-- The offset of the cursor. -/
def position : Run Nat := fun m =>
  some (m.cursor.position, m)

/-- Up to `n` characters from the cursor on. -/
def peek (n : Nat) : Run (List Char) := fun m =>
  (m.cursor.peek? n).map fun cs => (cs, m)

/-- Moves the cursor by `n` characters, at most to the end. -/
def advance (n : Nat) : Run Unit := fun m =>
  (m.cursor.advance? n).map fun c => ((), { m with cursor := c })

/-- Whether the cursor stands at the end of the text. -/
def atEnd : Run Bool := fun m =>
  some (m.cursor.atEnd, m)

/-- Sets the cursor to an offset. -/
def seek (offset : Nat) : Run Unit := fun m =>
  some ((), { m with cursor := m.cursor.seek offset })

/-- Records a complaint at the cursor. -/
def fail (complaint : Complaint) : Run Unit := fun m =>
  some ((), { m with cursor := m.cursor.fail complaint.message })

/-- The text from an offset up to the cursor. -/
def textFrom (start : Nat) : Run String := fun m =>
  (Text.slice? ⟨start, m.cursor.position⟩ m.cursor.source).map fun cs =>
    (String.ofList cs, m)

/-- Moves the cursor behind the white space it stands before. -/
def skipBlanks : Run Unit := fun m =>
  m.cursor.skipBlanks?.map fun c => ((), { m with cursor := c })

/-- The greatest number of rounds that a loop may go through. -/
def rounds : Run Nat := fun m =>
  some (m.cursor.source.length + 1, m)

/-- Nothing comes of a loop that does not end or of a stack that overflows. -/
def exhausted {α : Type} : Run α := fun _ =>
  none

/-- Marks that the bound on nesting was met. Only the first time counts. -/
def refuse (offset : Nat) : Run Unit := fun m =>
  some ((),
    { m with
      tooDeep := m.tooDeep.or (some offset),
      refusals := m.refusals ++ [offset] })

/-- Where nesting first went beyond the bound. -/
def refusedAt : Run (Option Nat) := fun m =>
  some (m.tooDeep, m)

/-- Begins a call. -/
def restart : Run Unit := fun m =>
  some ((),
    { m with depth := 0, tooDeep := none, deepest := 0, refusals := [] })

/-- Enters a nesting, unless it is one too many. -/
def enter : Run Bool := do
  let m ← get
  if maxNesting ≤ m.depth then
    refuse m.cursor.position
    return false
  else
    set { m with depth := m.depth + 1, deepest := max m.deepest (m.depth + 1) }
    return true

/-- Leaves a nesting. -/
def leave : Run Unit := fun m =>
  if m.depth = 0 then none else some ((), { m with depth := m.depth - 1 })

/-- Passes on a formula that began at the offset `start`. If it is too high, the
cursor is set back there. -/
def build (start : Nat) (f : Formula) : Run (Option Formula) := do
  if f.height ≤ maxNesting then
    return some f
  else
    refuse f.span.start
    seek start
    return none

/-- Moves the cursor behind further characters of an identifier. -/
def skipIdentifier : (fuel : Nat) → Run Unit
  | 0 => exhausted
  | fuel + 1 => do
    match ← peek 1 with
    | [] => return
    | c :: _ =>
      if isIdentifierContinue c then
        advance 1
        skipIdentifier fuel
      else return

/-- Reads a maximal run of identifier characters. -/
def identifier : Run (Option String) := do
  match ← peek 1 with
  | [] =>
    fail .identifier
    return none
  | c :: _ =>
    if isIdentifierStart c then
      let start ← position
      advance 1
      skipIdentifier (← rounds)
      let name ← textFrom start
      return some name
    else
      fail .identifier
      return none

/-!
# Chains
-/

/-- The two levels of chains. -/
inductive Family where
  | implication
  | junction
deriving DecidableEq, Repr

namespace Family

/-- The spellings of the connectives of the level. -/
def spellings : Family → List Spelling
  | .implication => Connective.implicationSpellings
  | .junction => Connective.junctionSpellings

/-- The number of characters to look at for a connective. -/
def width : Family → Nat
  | .implication => 3
  | .junction => 1

end Family

/-- Continues a chain of `op` that starts at the offset `start` and has been
read as `left`. -/
def chain (family : Family) (operand : Run (Option Formula)) (op : Connective)
    (start : Nat) :
    (fuel : Nat) → (left : Formula) → Run (Option Formula)
  | 0, _ => exhausted
  | fuel + 1, left => do
    let behind ← position
    skipBlanks
    match Spelling.firstStarting? op.spellings (← peek family.width) with
    | none =>
      seek behind
      return some left
    | some s =>
      advance s.length
      skipBlanks
      match ← operand with
      | none =>
        fail .rightOperand
        seek behind
        return some left
      | some right =>
        let stop ← position
        match ← build start (.binary op left right ⟨start, stop⟩) with
        | none => return none
        | some joined => chain family operand op start fuel joined

/-- Reads operands that are joined by the connectives of a level. -/
def chained (family : Family) (operand : Run (Option Formula)) :
    Run (Option Formula) := do
  let start ← position
  match ← operand with
  | none => return none
  | some first =>
    let behind ← position
    skipBlanks
    let ahead ← peek family.width
    seek behind
    match (Spelling.firstStarting? family.spellings ahead).bind
      Connective.ofSpelling? with
    | none => return some first
    | some op => chain family operand op start (← rounds) first

/-!
# Levels

Each level is given the level of operands one nesting further in.
-/

/-- Reads one nesting further in. -/
def nested (level : Run (Option Formula)) : Run (Option Formula) := do
  if ← enter then
    let body ← level
    leave
    return body
  else return none

section

variable (inner : Run (Option Formula))

/-- Reads a formula. -/
def formula : Run (Option Formula) := do
  match ← nested (chained .implication (chained .junction inner)) with
  | none =>
    fail .formula
    return none
  | some f => return some f

/-- Ends the arguments of `x`. Where the parenthesis is missing, the name is
read alone. -/
def closeCall (start behind : Nat) (x : String) (reversed : List Formula) :
    Run (Option Formula) := do
  if (← peek 1) = [')'] then
    advance 1
    let stop ← position
    build start (.call x reversed.reverse ⟨start, stop⟩)
  else
    fail .closingParenthesis
    seek behind
    return some (.symbol x ⟨start, behind⟩)

/-- Reads the arguments of `x` behind those read so far, which are listed from
the last to the first. -/
def arguments (start behind : Nat) (x : String) :
    (fuel : Nat) → (reversed : List Formula) → Run (Option Formula)
  | 0, _ => exhausted
  | fuel + 1, reversed => do
    if (← peek 1) = [','] then
      advance 1
      skipBlanks
      match ← formula inner with
      | none =>
        fail .formula
        seek behind
        return some (.symbol x ⟨start, behind⟩)
      | some a =>
        skipBlanks
        arguments start behind x fuel (a :: reversed)
    else closeCall start behind x reversed

/-- Reads a name, with its arguments if it has any. -/
def call : Run (Option Formula) := do
  let start ← position
  match ← identifier with
  | none =>
    fail .constantOrVariable
    return none
  | some x =>
    let behind ← position
    skipBlanks
    if (← peek 1) = ['('] then
      advance 1
      skipBlanks
      match ← formula inner with
      | none => closeCall start behind x []
      | some a =>
        skipBlanks
        arguments inner start behind x (← rounds) [a]
    else
      seek behind
      return some (.symbol x ⟨start, behind⟩)

/-- Reads a formula in parentheses or a call. -/
def group : Run (Option Formula) := do
  if (← peek 1) = ['('] then
    let start ← position
    advance 1
    skipBlanks
    match ← formula inner with
    | none =>
      fail .formula
      seek start
      call inner
    | some f =>
      skipBlanks
      if (← peek 1) = [')'] then
        advance 1
        return some f
      else
        fail .closingParenthesis
        seek start
        call inner
  else call inner

/-- Reads a quantified formula or what may stand in its place. -/
def quantified : Run (Option Formula) := do
  let ahead ← peek 2
  match (Spelling.firstStarting? Quantifier.spellings ahead).bind fun s =>
      (Quantifier.ofSpelling? s).map fun quantifier =>
        (quantifier, s.length) with
  | none => group inner
  | some (quantifier, length) =>
    let start ← position
    advance length
    skipBlanks
    match ← identifier with
    | none =>
      fail .boundVariable
      seek start
      return none
    | some x =>
      skipBlanks
      match ← nested inner with
      | none =>
        fail .formula
        seek start
        return none
      | some a =>
        let stop ← position
        build start (.quantified quantifier x a ⟨start, stop⟩)

/-- Reads a negated formula or what may stand in its place. -/
def operandWith : Run (Option Formula) := do
  match Spelling.firstStarting? negationSpellings (← peek 1) with
  | none => quantified inner
  | some _ =>
    let start ← position
    advance 1
    skipBlanks
    match ← nested inner with
    | none =>
      fail .operand
      seek start
      return none
    | some a =>
      let stop ← position
      build start (.negation a ⟨start, stop⟩)

end

/-- Reads an operand, with the given number of operands that fit on the
stack. -/
def operand : (stack : Nat) → Run (Option Formula)
  | 0 => exhausted
  | stack + 1 => operandWith (operand stack)

/-!
# Whole texts
-/

/-- Complains at the cursor, sets it back to the offset `start` and reports the
complaint. -/
def reject (complaint : Complaint) (start consumed : Nat) :
    Run (Except Error Formula) := do
  fail complaint
  seek start
  let m ← get
  return .error ⟨m.cursor.error.getD Complaint.formula.message,
    m.cursor.errorPosition, consumed⟩

/-- Reads the text from the cursor on, up to its end, with the given number of
operands that fit on the stack. If it is not a formula, the cursor is set
back. -/
def parse (stack : Nat) : Run (Except Error Formula) := do
  let start ← position
  restart
  skipBlanks
  let body ← formula (operand stack)
  match ← refusedAt, body with
  | some offset, _ =>
    seek offset
    reject .tooDeep start start
  | none, none => reject .formula start start
  | none, some f =>
    skipBlanks
    if ← atEnd then return .ok f
    else reject .endOfInput start f.span.stop

/-- The machine after a text has been read from its start and then again from
the cursor on, the given number of times in all. -/
def afterCalls? (stack : Nat) (text : String) : (calls : Nat) → Option Machine
  | 0 => some (ofText text)
  | calls + 1 => do
    let m ← afterCalls? stack text calls
    let (_, m') ← parse stack m
    return m'

end Machine

end PredicateLogic
