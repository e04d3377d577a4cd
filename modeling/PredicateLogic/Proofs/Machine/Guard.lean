import PredicateLogic.Proofs.Formula.Subformula
import PredicateLogic.Proofs.Grammar.Acceptance
import PredicateLogic.Proofs.Machine.Levels

/-!
# The bound on nesting

A machine and a session that read the same text the same number of times agree
on every result, on the place they end up at and on the failure recorded last
(`Machine.Follows`). So reading on a cursor always comes to an end, and what is
known of the readers holds of it.

A call begins at depth zero and ends there, never goes deeper than the bound,
and passes on no formula that is higher. Where it meets the bound, in whichever
alternative, it reports the first place where it did, whatever else happened.
-/

namespace PredicateLogic

/-- The error as a machine reports it. -/
def SyntaxError.reported (e : SyntaxError) : Machine.Error :=
  ⟨e.message, e.position, e.consumed⟩

namespace Session

/-- The session after a text has been read from its start and then again from
the current place on, the given number of times in all. -/
def afterCalls (text : String) : (calls : Nat) → Session
  | 0 => ofText text
  | calls + 1 => (afterCalls text calls).read.2

variable {s : Session}

theorem read_of_tooDeep {offset : Nat} (h : s.reading.tooDeep = some offset) :
    s.read.1 = .error ⟨.tooDeep, offset, s.place.offset⟩ := by
  rw [read_eq, h]
  rfl

theorem height_of_read {f : Formula} (h : s.read.1 = .ok f) :
    f.height ≤ maxNesting := by
  obtain ⟨q, hq, -⟩ := read_eq_ok_iff.mp h
  have hsound := Reader.formula_sound (Reader.operandBelow_sound maxNesting)
  exact (hsound _ f q hq).1

end Session

namespace Machine

variable {m m' : Machine} {s : Session} {p q : Place}

/-- The machine is where the session is, and both have recorded the same failure
last. -/
structure Follows (m : Machine) (s : Session) : Prop where
  place : m.cursor.place? = some s.place
  error : m.cursor.error = s.lastFailure?.map fun f => f.complaint.message
  errorPosition :
  m.cursor.errorPosition = (s.lastFailure?.map Failure.position).getD 0

theorem follows_ofText (text : String) :
    (ofText text).Follows (Session.ofText text) := by
  refine ⟨?_, rfl, rfl⟩
  rw [ofText, Cursor.ofText, Cursor.place?, Session.ofText, Session.start]
  generalize Unicode.nfc text.toList = source
  exact Place.at?_eq_some_iff.mpr ⟨Place.in_start source, rfl⟩

theorem reject_apply (complaint : Complaint) (consumed : Nat) :
    reject complaint p.offset consumed (m.movedTo q) =
      some (.error ⟨complaint.message, q.offset, consumed⟩,
        (m.noting ⟨complaint, q.offset⟩).movedTo p) := rfl

/-- What a call notes besides the result. -/
structure Guarded (s : Session) (m : Machine) : Prop where
  depth : m.depth = 0
  deepest : m.deepest ≤ maxNesting
  refusals : m.refusals.head? = s.reading.tooDeep

theorem follows_noting (hp : p.In m.cursor.source) (f : Failure)
    (fs : List Failure) :
    ((m.noting f).movedTo p).Follows ⟨p, f :: fs⟩ :=
  ⟨place?_movedTo hp, rfl, rfl⟩

/-- Behind a formula, both have recorded what its reading lists. -/
theorem Notes.follows {r : Reading Formula} (hnotes : m.restarted.Notes r m')
    (h : m.Follows s) (hq : q.In m'.cursor.source) :
    (m'.movedTo q).Follows { s.recording r with place := q } := by
  have herror : m'.cursor.error =
      (r.failures.head?.map fun f => f.complaint.message).or m.cursor.error :=
        hnotes.error
  have hposition : m'.cursor.errorPosition =
      (r.failures.head?.map Failure.position).getD m.cursor.errorPosition :=
        hnotes.errorPosition
  have hlast : ({ s.recording r with place := q } : Session).lastFailure? =
      r.failures.head?.or s.lastFailure? := List.head?_append
  refine ⟨place?_movedTo hq, herror.trans ?_, hposition.trans ?_⟩
  · rw [hlast, h.error, Option.map_or]
  · rw [hlast, h.errorPosition, Option.map_or, Option.getD_or]

theorem Guarded.noting (h : m.Guarded s) (f : Failure) :
    ((m.noting f).movedTo p).Guarded s :=
  ⟨h.depth, h.deepest, h.refusals⟩

/-- A call on a machine comes out as a call on a session that stands at the same
place, whatever the machine has recorded before. -/
theorem parse_at_place {stack : Nat} (hstack : maxNesting ≤ stack)
    (h : m.cursor.place? = some s.place) :
    ∃ m', parse stack m = some (s.read.1.mapError SyntaxError.reported, m') ∧
      m'.cursor.source = m.cursor.source ∧
      m'.cursor.place? = some s.read.2.place ∧
      (m.Follows s → m'.Follows s.read.2) ∧ m'.Guarded s := by
  have hp : s.place.In m.restarted.cursor.source :=
    (Place.at?_eq_some_iff.mp h).1
  have hbody : Performs
      (formula (operand stack) (m.restarted.movedTo s.place.skipBlanks))
      m.restarted s.reading s.place.skipBlanks :=
    formula_simulates (operand_simulatesBelow hstack)
      (Reader.operandBelow_extends maxNesting)
      m.restarted s.place.skipBlanks hp.skipBlanks (Nat.zero_add _)
  obtain ⟨m₁, hrun, hnotes⟩ := hbody
  have hguarded : m₁.Guarded s := by
    obtain ⟨refused, hrefused, hfirst⟩ := hnotes.refusals
    have hdeepest : m₁.deepest ≤ max 0 maxNesting := hnotes.deepest
    exact ⟨hnotes.depth, by omega, by rw [hrefused]; exact hfirst⟩
  have hsource : m₁.cursor.source = m.cursor.source := hnotes.source
  have hdeep : m₁.tooDeep = s.reading.tooDeep := hnotes.tooDeep
  have hp₁ : s.place.In m₁.cursor.source := hsource ▸ hp
  rw [← movedTo_of_place? h, parse, position_bind, restart_bind,
    skipBlanks_bind hp, run_bind hrun, refusedAt_bind, hdeep, Session.read_eq]
  cases hrefused : s.reading.tooDeep with
  | some offset =>
    exact ⟨_, reject_apply (p := s.place) (q := ⟨offset, []⟩) _ _, hsource,
      place?_movedTo hp₁, fun _ => follows_noting hp₁ ⟨.tooDeep, offset⟩ _,
      hguarded.noting _⟩
  | none =>
    cases hread : s.reading.outcome with
    | none =>
      rw [Reading.stop, hread]
      exact ⟨_, reject_apply _ _, hsource, place?_movedTo hp₁,
        fun _ => follows_noting hp₁ ⟨.formula, _⟩ _, hguarded.noting _⟩
    | some fq =>
      obtain ⟨f, q⟩ := fq
      have hextends :=
        Reader.formula_extends (Reader.operandBelow_extends maxNesting)
      have hq : q.In m₁.cursor.source :=
        hp₁.skipBlanks.passes (hextends.passes hread)
      rw [Reading.stop, hread]
      simp only [Option.map_some, Option.elim_some, skipBlanks_bind hq,
        atEnd_bind hq.skipBlanks]
      split
      · exact ⟨_, rfl, hsource, place?_movedTo hq.skipBlanks,
          fun hfollows =>
            hnotes.follows ((movedTo_of_place? h) ▸ hfollows) hq.skipBlanks,
          hguarded.depth, hguarded.deepest, hguarded.refusals⟩
      · exact ⟨_, reject_apply _ _, hsource, place?_movedTo hp₁,
          fun _ => follows_noting hp₁ ⟨.endOfInput, _⟩ _, hguarded.noting _⟩

theorem parse_apply {stack : Nat} (hstack : maxNesting ≤ stack)
    (h : m.Follows s) :
    ∃ m', parse stack m = some (s.read.1.mapError SyntaxError.reported, m') ∧
      m'.Follows s.read.2 ∧
      m'.Guarded s := by
  obtain ⟨m', hparse, -, -, hfollows, hguarded⟩ := parse_at_place hstack h.place
  exact ⟨m', hparse, hfollows h, hguarded⟩

/-- Both read a text any number of times, and the machine keeps the text. -/
theorem afterCalls_follows_of_source {stack : Nat} (hstack : maxNesting ≤ stack)
    (text : String) (calls : Nat) :
    ∃ m, afterCalls? stack text calls = some m ∧
      m.Follows (Session.afterCalls text calls) ∧
      m.cursor.source = Unicode.nfc text.toList := by
  induction calls with
  | zero =>
    have hsource : (ofText text).cursor.source = Unicode.nfc text.toList := by
      rw [ofText, Cursor.ofText]
    exact ⟨ofText text, rfl, follows_ofText text, hsource⟩
  | succ calls ih =>
    obtain ⟨m, hm, hfollows, hsource⟩ := ih
    obtain ⟨m', hparse, hsource', -, hfollows', -⟩ :=
      parse_at_place hstack hfollows.place
    refine ⟨m', ?_, hfollows' hfollows, hsource'.trans hsource⟩
    rw [afterCalls?, hm]
    simp only [Option.bind_eq_bind, Option.bind_some, hparse]
    rfl

theorem afterCalls_follows {stack : Nat} (hstack : maxNesting ≤ stack)
    (text : String) (calls : Nat) :
    ∃ m, afterCalls? stack text calls = some m ∧
      m.Follows (Session.afterCalls text calls) := by
  obtain ⟨m, hm, hfollows, -⟩ := afterCalls_follows_of_source hstack text calls
  exact ⟨m, hm, hfollows⟩

/-- However often a text has been read, the next call has a result, on a stack
with room for as many operands as the bound allows or more, and leaves the depth
at zero. It never goes deeper than the bound, and no formula that is passed on
is higher. Where the bound was met at all, the result is the complaint about it,
at the offset where it was met first and with nothing consumed. -/
theorem parse_guarded (spare : Nat) (text : String) (calls : Nat) :
    ∃ m result m', afterCalls? (maxNesting + spare) text calls = some m ∧
      parse (maxNesting + spare) m = some (result, m') ∧
      result =
        (Session.afterCalls text calls).read.1.mapError SyntaxError.reported ∧
      m'.depth = 0 ∧ m'.deepest ≤ maxNesting ∧
      (∀ f, result = .ok f → ∀ g ∈ f.subformulas, g.height ≤ maxNesting) ∧
      ∀ offset ∈ m'.refusals.head?,
        result =
          .error ⟨"Formula nested too deeply", offset, m.cursor.position⟩ := by
  have hstack := Nat.le_add_right maxNesting spare
  obtain ⟨m, hm, hfollows⟩ := afterCalls_follows hstack text calls
  obtain ⟨m', hparse, -, hguarded⟩ := parse_apply hstack hfollows
  refine ⟨m, _, m', hm, hparse, rfl, hguarded.depth, hguarded.deepest, ?_, ?_⟩
  · intro f hf g hg
    have hread : (Session.afterCalls text calls).read.1 = .ok f := by
      cases hresult : (Session.afterCalls text calls).read.1 with
      | error e =>
          rw [hresult] at hf; exact absurd hf (by simp [Except.mapError])
      | ok f' => rw [hresult] at hf; exact congrArg Except.ok (Except.ok.inj hf)
    exact Nat.le_trans (f.height_le_of_mem_subformulas g hg)
      (Session.height_of_read hread)
  · intro offset hoffset
    rw [Option.mem_def, hguarded.refusals] at hoffset
    rw [Session.read_of_tooDeep hoffset,
      ← (Place.at?_eq_some_iff.mp hfollows.place).2]
    rfl

-- The bound is met in the argument of a call. The name before it is then read
-- alone.
example :
    (parse maxNesting
      (ofText (String.ofList ('f' :: '(' :: List.replicate 127 '!')))).map
      (fun r => (r.2.refusals, r.2.deepest, r.2.depth)) =
        some ([129], 128, 0) := by
  decide +kernel

end Machine

end PredicateLogic
