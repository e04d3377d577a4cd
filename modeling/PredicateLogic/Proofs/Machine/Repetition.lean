import PredicateLogic.Proofs.Machine.Guard

/-!
# Calls in a row

A text may be read again and again on one machine. What comes of a call depends
on the text and the position of the cursor, and on nothing else that earlier
calls have left behind. A call that fails leaves the cursor where it was, so
from then on every call fails in the same way; a call that succeeds leaves it at
the end of the text, where no formula begins.
-/

namespace PredicateLogic

namespace Session

variable {s t : Session} {e : SyntaxError} {f : Formula}

/-- What comes of a call, and where it leaves the session, depends on the place
alone. -/
theorem read_congr (h : s.place = t.place) :
    s.read.1 = t.read.1 ∧ s.read.2.place = t.read.2.place := by
  have hreading : s.reading = t.reading := by rw [reading, reading, h]
  rw [read_eq, read_eq, hreading, h]
  split
  · exact ⟨rfl, h⟩
  · exact ⟨rfl, h⟩
  · split
    · exact ⟨rfl, rfl⟩
    · exact ⟨rfl, h⟩

theorem read_error_place (h : s.read.1 = .error e) :
    s.read.2.place = s.place := by
  rw [read_eq] at h ⊢
  split at h
  · rfl
  · rfl
  · split at h
    · exact absurd h (by simp)
    · next hend => rw [if_neg hend]; rfl

theorem read_ok_place (h : s.read.1 = .ok f) : s.read.2.place.rest = [] := by
  rw [read_eq] at h ⊢
  split at h
  · exact absurd h (fail_ne_ok _ _ _ _ f)
  · exact absurd h (fail_ne_ok _ _ _ _ f)
  · split at h
    · next hend => rw [if_pos hend]; simpa [Place.atEnd] using hend
    · exact absurd h (fail_ne_ok _ _ _ _ f)

/-- At the end of the text no formula begins. -/
theorem read_at_end (h : s.place.rest = []) :
    s.read.1 = .error ⟨.formula, s.place.offset, s.place.offset⟩ := by
  have hblanks : s.place.skipBlanks = s.place :=
    Place.skipWhile_eq_self (by simp [h])
  have hmisses : s.reading.Misses := by
    rw [reading, hblanks]
    exact Reader.formula_misses (maxNesting - 1) (by rw [h]; exact blocked_nil)
  rw [read_eq, hmisses.tooDeep, hmisses.outcome, hblanks]
  rfl

/-- Once a call has failed, all further calls fail in the same way. -/
theorem afterCalls_of_error {text : String} {calls : Nat}
    (h : (afterCalls text calls).read.1 = .error e) (more : Nat) :
    (afterCalls text (calls + more)).place = (afterCalls text calls).place ∧
      (afterCalls text (calls + more)).read.1 = .error e := by
  induction more with
  | zero => exact ⟨rfl, h⟩
  | succ more ih =>
      obtain ⟨hplace, hread⟩ := ih
      have hstays : (afterCalls text (calls + (more + 1))).place =
          (afterCalls text calls).place :=
        (read_error_place hread).trans hplace
      exact ⟨hstays, (read_congr hstays).1.trans h⟩

end Session

namespace Machine

variable {m m' : Machine} {stack : Nat}

/-- What a caller sees of a call: the result, and the text and the position of
the cursor. -/
def observed (r : Except Error Formula × Machine) :
    Except Error Formula × List Char × Nat :=
  (r.1, r.2.cursor.source, r.2.cursor.position)

theorem place?_congr (hsource : m.cursor.source = m'.cursor.source)
    (hposition : m.cursor.position = m'.cursor.position) :
    m.cursor.place? = m'.cursor.place? := by
  rw [Cursor.place?, Cursor.place?, hsource, hposition]

/-- Nothing comes of a call where the cursor stands at no place of the text. -/
theorem parse_of_place?_eq_none (h : m.cursor.place? = none) :
    parse stack m = none := by
  have hblanks : m.restarted.cursor.skipBlanks? = none := by
    rw [Cursor.skipBlanks?, Option.map_eq_none_iff]
    exact h
  have hstart : parse stack m = (skipBlanks m.restarted).bind fun r => _ := rfl
  rw [hstart, skipBlanks, hblanks]
  rfl

theorem position_of_place? {p : Place} (h : m.cursor.place? = some p) :
    m.cursor.position = p.offset :=
  (Cursor.offset_of_place? h).symm

theorem parse_congr (hstack : maxNesting ≤ stack)
    (hsource : m.cursor.source = m'.cursor.source)
    (hposition : m.cursor.position = m'.cursor.position) :
    (parse stack m).map observed = (parse stack m').map observed := by
  have hplace := place?_congr hsource hposition
  cases hp : m.cursor.place? with
  | none =>
      rw [parse_of_place?_eq_none hp, parse_of_place?_eq_none (hplace ▸ hp)]
  | some p =>
      obtain ⟨m₁, hrun, hsource₁, hplace₁, -⟩ :=
        parse_at_place (s := ⟨p, []⟩) hstack hp
      obtain ⟨m₂, hrun', hsource₂, hplace₂, -⟩ :=
        parse_at_place (s := ⟨p, []⟩) hstack (hplace ▸ hp)
      rw [hrun, hrun', Option.map_some, Option.map_some, observed,
        observed, hsource₁, hsource₂, hsource, position_of_place? hplace₁,
        position_of_place? hplace₂]

/-- From the given number of calls on, every call finds the cursor at the same
position, reports the same error and leaves the cursor there. -/
def FailsFrom (stack : Nat) (text : String) (calls position : Nat) (e : Error) :
    Prop :=
  ∀ more, ∃ m m', afterCalls? stack text (calls + more) = some m ∧
    m.cursor.position = position ∧
    parse stack m = some (.error e, m') ∧ m'.cursor.position = position

theorem failsFrom {text : String} {calls : Nat} {e : SyntaxError}
    (hstack : maxNesting ≤ stack)
    (h : (Session.afterCalls text calls).read.1 = .error e) :
    FailsFrom stack text calls (Session.afterCalls text calls).place.offset
      e.reported := by
  intro more
  obtain ⟨hplace, hread⟩ := Session.afterCalls_of_error h more
  obtain ⟨m, hm, hfollows⟩ := afterCalls_follows hstack text (calls + more)
  obtain ⟨m', hparse, -, hplace', -⟩ := parse_at_place hstack hfollows.place
  rw [hread] at hparse
  rw [Session.read_error_place hread, hplace] at hplace'
  exact ⟨m, m', hm, by rw [position_of_place? hfollows.place, hplace], hparse,
    position_of_place? hplace'⟩

/-- No call depends on anything but the text and the position of the cursor,
whatever else the machine is left with. However often a text has been read, the
next call has a result. If it is an error, the cursor stays, and so does the
error in all further calls. If it is a formula, the cursor is at the end of the
text, and all further calls miss a formula there and leave it there. -/
theorem parse_repeated (spare : Nat) :
    (∀ m m' : Machine, m.cursor.source = m'.cursor.source →
      m.cursor.position = m'.cursor.position →
      (parse (maxNesting + spare) m).map observed =
        (parse (maxNesting + spare) m').map observed) ∧
    ∀ text calls,
      ∃ m result m', afterCalls? (maxNesting + spare) text calls = some m ∧
      parse (maxNesting + spare) m = some (result, m') ∧
      (∀ e, result = .error e →
        FailsFrom (maxNesting + spare) text calls m.cursor.position e) ∧
      ∀ f, result = .ok f →
        m'.cursor.position = Text.size (Unicode.nfc text.toList) ∧
        FailsFrom (maxNesting + spare) text (calls + 1) m'.cursor.position
          ⟨"Expected formula", m'.cursor.position, m'.cursor.position⟩ := by
  have hstack := Nat.le_add_right maxNesting spare
  refine ⟨fun m m' => parse_congr hstack, fun text calls => ?_⟩
  obtain ⟨m, hm, hfollows, hsource⟩ :=
    afterCalls_follows_of_source hstack text calls
  obtain ⟨m', hparse, hsource', hplace', -⟩ :=
    parse_at_place hstack hfollows.place
  refine ⟨m, _, m', hm, hparse, ?_, ?_⟩
  · intro e he
    cases hread : (Session.afterCalls text calls).read.1 with
    | ok f => rw [hread] at he; exact absurd he (by simp [Except.mapError])
    | error e' =>
        rw [hread] at he
        obtain rfl : e'.reported = e := Except.error.inj he
        rw [position_of_place? hfollows.place]
        exact failsFrom hstack hread
  · intro f hf
    cases hread : (Session.afterCalls text calls).read.1 with
    | error e => rw [hread] at hf; exact absurd hf (by simp [Except.mapError])
    | ok g =>
        have hend := Session.read_ok_place hread
        have hposition := position_of_place? hplace'
        have hin := (Place.at?_eq_some_iff.mp hplace').1
        constructor
        · have hatEnd := hin.atEnd_eq
          rw [Place.atEnd, hend, List.isEmpty_nil, beq_iff_eq, hsource',
            hsource] at hatEnd
          rw [hposition, hatEnd]
        · have hagain := Session.read_at_end hend
          rw [← Session.afterCalls] at hagain
          rw [hposition]
          exact failsFrom hstack hagain

end Machine

end PredicateLogic
