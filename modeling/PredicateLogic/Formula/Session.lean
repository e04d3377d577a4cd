import PredicateLogic.Formula.Reader
import PredicateLogic.Unicode.Normalization

/-!
# Reading whole texts

A session reads one text, possibly several times. Each time the text from the
current place on must be one formula up to white space. A session that fails
stays where it was; one that succeeds ends up at the end of the text. Failures
are kept from one time to the next, and the latest one is reported.
-/

namespace PredicateLogic

/-- Why a text is not a formula. -/
structure SyntaxError where
  /-- What was missing. -/
  complaint : Complaint
  /-- The offset at which correction should begin. -/
  position : Nat
  /-- The offset up to which the text is a formula. -/
  consumed : Nat
deriving DecidableEq, Repr

namespace SyntaxError

/-- What is wrong, without the place. -/
def message (e : SyntaxError) : String :=
  e.complaint.message

/-- What is wrong and where. -/
def describe (e : SyntaxError) : String :=
  s!"{e.message} at offset {e.position}"

end SyntaxError

/-- The reading of one text. -/
structure Session where
  /-- Where reading goes on. -/
  place : Place
  /-- All failures so far, latest first. -/
  failures : List Failure

namespace Session

/-- A session at the start of a normalized text. -/
def start (source : List Char) : Session :=
  ⟨.start source, []⟩

/-- A session at the start of a text, which is normalized first. -/
def ofText (text : String) : Session :=
  start (Unicode.nfc text.toList)

/-- Records a complaint and reports it; the session stays where it is. -/
def fail (s : Session) (complaint : Complaint) (position consumed : Nat) :
    Except SyntaxError Formula × Session :=
  (.error ⟨complaint, position, consumed⟩,
    { s with failures := ⟨complaint, position⟩ :: s.failures })

/-- Reads the text from the current place on. -/
def read (s : Session) : Except SyntaxError Formula × Session :=
  let p := s.place.skipBlanks
  let reading := Reader.formula (Reader.operandBelow maxNesting) p
  let after := { s with failures := reading.failures ++ s.failures }
  match reading.tooDeep, reading.outcome with
  | some position, _ => after.fail .tooDeep position s.place.offset
  | none, none => after.fail .formula p.offset s.place.offset
  | none, some (f, q) =>
    if q.skipBlanks.atEnd then (.ok f, { after with place := q.skipBlanks })
    else after.fail .endOfInput q.skipBlanks.offset f.span.stop

/-- The latest failure of the session. -/
def lastFailure? (s : Session) : Option Failure :=
  s.failures.head?

end Session

namespace Formula

/-- The formula that a text denotes. The text is normalized first, and the spans
of the formula refer to its normalized form. -/
def parse (text : String) : Except SyntaxError Formula :=
  (Session.ofText text).read.1

end Formula

end PredicateLogic
