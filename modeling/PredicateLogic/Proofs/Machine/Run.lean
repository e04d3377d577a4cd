import PredicateLogic.Formula.Machine
import PredicateLogic.Proofs.Machine.Cursor

/-!
# Operations at a place

A machine works as intended as long as its cursor stands at a place of its text.
`m.movedTo p` is the machine `m` with the cursor at `p`, and every operation on
the cursor takes such a machine to another one. There is one equation for each
of them, which drops the operation from the front of a run.
-/

namespace PredicateLogic

/-- A look at as many characters as the longest spelling has tells which one
comes first. -/
theorem Spelling.firstStarting?_take {l : List Spelling} {n : Nat}
    (h : ∀ s ∈ l, s.length ≤ n) (cs : List Char) :
    firstStarting? l (cs.take n) = firstStarting? l cs := by
  induction l with
  | nil => rfl
  | cons s l ih =>
    have hs : s.isPrefixOf (cs.take n) = s.isPrefixOf cs := by
      rw [Bool.eq_iff_iff, List.isPrefixOf_iff_prefix,
        List.isPrefixOf_iff_prefix, List.prefix_take_iff]
      exact and_iff_left (h s List.mem_cons_self)
    have hl := ih fun t ht => h t (List.mem_cons_of_mem s ht)
    simp only [firstStarting?, List.find?_cons, hs] at hl ⊢
    rw [hl]

namespace Machine

variable {α β : Type} {m m' : Machine} {p q : Place} {a : α} {x : Run α}
  {next : α → Run β}

theorem bind_apply (x : Run α) (next : α → Run β) (m : Machine) :
    (x >>= next) m = (x m).bind fun result => next result.1 result.2 := rfl

theorem run_bind (h : x m = some (a, m')) : (x >>= next) m = next a m' := by
  rw [bind_apply, h, Option.bind_some]

theorem get_bind (next : Machine → Run β) (m : Machine) :
    (get >>= next) m = next m m := rfl

@[simp] theorem pure_apply (a : α) (m : Machine) :
    (pure a : Run α) m = some (a, m) := rfl

/-- The machine with its cursor at a place. -/
def movedTo (m : Machine) (p : Place) : Machine :=
  { m with cursor := m.cursor.seek p.offset }

/-- The machine with a failure recorded on its cursor. -/
def noting (m : Machine) (f : Failure) : Machine :=
  { m with
    cursor :=
      { m.cursor with
        error := some f.complaint.message, errorPosition := f.position } }

/-- The machine with the bound on nesting met at an offset. -/
def refusing (m : Machine) (offset : Nat) : Machine :=
  { m with
    tooDeep := m.tooDeep.or (some offset),
    refusals := m.refusals ++ [offset] }

/-- The machine when a call begins. -/
def restarted (m : Machine) : Machine :=
  { m with depth := 0, tooDeep := none, deepest := 0, refusals := [] }

/-- The machine one nesting further in. -/
def entered (m : Machine) : Machine :=
  { m with depth := m.depth + 1, deepest := max m.deepest (m.depth + 1) }

/-- The machine one nesting further out. -/
def left (m : Machine) : Machine :=
  { m with depth := m.depth - 1 }

theorem entered_depth : m.entered.depth = m.depth + 1 := rfl

theorem left_deepest : m.left.deepest = m.deepest := rfl

theorem movedTo_of_place? (h : m.cursor.place? = some p) : m.movedTo p = m := by
  rw [movedTo, Cursor.seek_of_place? h]

theorem place?_movedTo (hp : p.In m.cursor.source) :
    (m.movedTo p).cursor.place? = some p :=
  Cursor.place?_seek hp

/-!
# The cursor
-/

@[simp] theorem position_bind {next : Nat → Run β} :
    (position >>= next) (m.movedTo p) = next p.offset (m.movedTo p) := rfl

@[simp] theorem peek_bind {next : List Char → Run β} {n : Nat}
    (hp : p.In m.cursor.source) :
    (peek n >>= next) (m.movedTo p) = next (p.peek n) (m.movedTo p) :=
  run_bind (by rw [peek, Cursor.peek?_of_place? (place?_movedTo hp)]; rfl)

@[simp] theorem advance_bind {next : Unit → Run β} {n : Nat}
    (hp : p.In m.cursor.source) :
    (advance n >>= next) (m.movedTo p) = next () (m.movedTo (p.advance n)) :=
  run_bind (by rw [advance, Cursor.advance?_of_place? (place?_movedTo hp)]; rfl)

@[simp] theorem atEnd_bind {next : Bool → Run β} (hp : p.In m.cursor.source) :
    (atEnd >>= next) (m.movedTo p) = next p.atEnd (m.movedTo p) :=
  run_bind (by rw [← hp.atEnd_eq]; rfl)

@[simp] theorem seek_bind {next : Unit → Run β} :
    (seek q.offset >>= next) (m.movedTo p) = next () (m.movedTo q) := rfl

@[simp] theorem fail_bind {next : Unit → Run β} {complaint : Complaint} :
    (fail complaint >>= next) (m.movedTo p) =
      next () ((m.noting ⟨complaint, p.offset⟩).movedTo p) := rfl

theorem textFrom_apply {part : List Char} (hp : p.In m.cursor.source)
    (h : p.Leads part q) :
    textFrom p.offset (m.movedTo q) =
      some (String.ofList part, m.movedTo q) := by
  have hslice : Text.slice? ⟨p.offset, q.offset⟩ m.cursor.source = some part :=
    hp.slice?_eq h
  rw [textFrom, movedTo, Cursor.seek, hslice]
  rfl

@[simp] theorem skipBlanks_bind {next : Unit → Run β}
    (hp : p.In m.cursor.source) :
    (skipBlanks >>= next) (m.movedTo p) = next () (m.movedTo p.skipBlanks) :=
  run_bind
    (by rw [skipBlanks, Cursor.skipBlanks?_of_place? (place?_movedTo hp)]; rfl)

@[simp] theorem rounds_bind {next : Nat → Run β} :
    (rounds >>= next) (m.movedTo p) =
      next (m.cursor.source.length + 1) (m.movedTo p) := rfl

theorem skipIdentifier_apply {fuel : Nat} (hp : p.In m.cursor.source)
    (hfuel : p.rest.length < fuel) :
    skipIdentifier fuel (m.movedTo p) =
      some ((), m.movedTo (p.skipWhile isIdentifierContinue)) := by
  induction fuel generalizing p with
  | zero => exact absurd hfuel (Nat.not_lt_zero _)
  | succ fuel ih =>
    rw [skipIdentifier, peek_bind hp, Place.peek]
    cases hrest : p.rest with
    | nil =>
      rw [Place.skipWhile_eq_self (by simp [hrest])]
      rfl
    | cons c cs =>
      simp only [List.take_succ_cons]
      split
      · next hc =>
        have hlength : (p.advance 1).rest.length < fuel := by
          rw [hrest, List.length_cons] at hfuel
          rw [Place.advance_rest, hrest, List.drop_succ_cons, List.drop_zero]
          omega
        rw [advance_bind hp, ih (hp.advance 1) hlength,
          Place.skipWhile_of_head hrest hc]
      · next hc =>
        have hhead : ∀ d ∈ p.rest.head?, isIdentifierContinue d = false := by
          simpa [hrest] using hc
        rw [Place.skipWhile_eq_self hhead, pure_apply]

/-!
# The depth
-/

@[simp] theorem restart_bind {next : Unit → Run β} :
    (restart >>= next) (m.movedTo p) = next () (m.restarted.movedTo p) := rfl

@[simp] theorem refusedAt_bind {next : Option Nat → Run β} :
    (refusedAt >>= next) (m.movedTo p) = next m.tooDeep (m.movedTo p) := rfl

theorem enter_bind_of_lt {next : Bool → Run β} (h : m.depth < maxNesting) :
    (enter >>= next) (m.movedTo p) = next true (m.entered.movedTo p) := by
  refine run_bind ?_
  have hle : ¬maxNesting ≤ (m.movedTo p).depth := Nat.not_le.mpr h
  rw [enter, get_bind, if_neg hle]
  rfl

theorem enter_bind_of_le {next : Bool → Run β} (h : maxNesting ≤ m.depth) :
    (enter >>= next) (m.movedTo p) =
      next false ((m.refusing p.offset).movedTo p) := by
  refine run_bind ?_
  have hle : maxNesting ≤ (m.movedTo p).depth := h
  rw [enter, get_bind, if_pos hle]
  rfl

theorem leave_bind {next : Unit → Run β} (h : m.depth ≠ 0) :
    (leave >>= next) (m.movedTo p) = next () (m.left.movedTo p) :=
  run_bind (if_neg h)

end Machine

end PredicateLogic
