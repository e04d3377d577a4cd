import PredicateLogic.Formula.Reading

/-!
# Readings within the bound

A reading may have an outcome although the bound on nesting was met on the way,
in an alternative that was given up. Such an outcome counts for nothing in the
end. `Reading.Yields` therefore asks for both: something was read, and the bound
was not met. In this sense a reading that follows another yields what the second
one yields, provided the first one did not meet the bound.
-/

namespace PredicateLogic

namespace Reading

variable {α β : Type}

/-- The reading read `a` up to the place `q`, and nesting never went beyond the
bound. -/
structure Yields (r : Reading α) (a : α) (q : Place) : Prop where
  outcome : r.outcome = some (a, q)
  tooDeep : r.tooDeep = none

theorem yields_success (a : α) (q : Place) : (success a q).Yields a q :=
  ⟨rfl, rfl⟩

@[simp] theorem success_yields_iff {a b : α} {p q : Place} :
    (success a p).Yields b q ↔ a = b ∧ p = q := by
  constructor
  · intro h
    simpa using h.outcome
  · rintro ⟨rfl, rfl⟩
    exact yields_success a p

@[simp] theorem not_failure_yields {complaint : Complaint} {a : α}
    {p q : Place} :
    ¬(failure complaint p).Yields a q := by
  intro h
  simpa using h.outcome

@[simp] theorem not_refusal_yields {offset : Nat} {a : α} {q : Place} :
    ¬(refusal offset).Yields a q := by
  intro h
  simpa using h.outcome

@[simp] theorem followedBy_yields_iff {first : Reading α} {second : Reading β}
    {b : β} {q : Place} :
    (first.followedBy second).Yields b q ↔
      first.tooDeep = none ∧ second.Yields b q := by
  constructor
  · intro h
    have hnone := h.tooDeep
    rw [followedBy_tooDeep, Option.or_eq_none_iff] at hnone
    exact ⟨hnone.1, h.outcome, hnone.2⟩
  · rintro ⟨hfirst, hsecond⟩
    refine ⟨hsecond.outcome, ?_⟩
    rw [followedBy_tooDeep, hfirst, hsecond.tooDeep, Option.or_none]

/-- Nothing was read, but nesting never went beyond the bound either. -/
structure Misses (r : Reading α) : Prop where
  outcome : r.outcome = none
  tooDeep : r.tooDeep = none

theorem misses_failure (complaint : Complaint) (p : Place) :
    (failure complaint p : Reading α).Misses :=
  ⟨rfl, rfl⟩

theorem Misses.followedBy {first : Reading α} {second : Reading β}
    (h : first.Misses) (h' : second.Misses) :
    (first.followedBy second).Misses :=
  ⟨h'.outcome,
    by rw [followedBy_tooDeep, h.tooDeep, h'.tooDeep, Option.or_none]⟩

end Reading

end PredicateLogic
