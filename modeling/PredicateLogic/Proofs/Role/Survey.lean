import PredicateLogic.Role.Analysis

/-!
# Surveys

A survey carries the role of the first unbound occurrence of each identifier,
and compares every later occurrence with it alone. As long as nothing has gone
wrong, this is as good as a comparison with all earlier occurrences, because
agreement is an equivalence relation. `Analysis.Surveyed` is the invariant that
says so.
-/

namespace PredicateLogic

namespace Role

/-- The role without the difference between predicates and functions. -/
def unlabelled : Role → Role
  | .function n => .predicate n
  | r => r

theorem agrees_iff (a b : Role) :
    a.agrees b = true ↔ a.unlabelled = b.unlabelled := by
  cases a <;> cases b <;> simp [agrees, unlabelled, arity?]

/-- Roles of places in a formula agree exactly if both or neither are applied,
and to as many arguments. -/
theorem agrees_iff_arity {a b : Role} (ha : a ≠ .bound) (hb : b ≠ .bound) :
    a.agrees b = true ↔ a.arity? = b.arity? := by
  cases a <;> cases b <;> simp_all [agrees, arity?]

end Role

namespace Occurrence

/-- Two unbound occurrences of one identifier that do not agree. -/
def Conflicts (a b : Occurrence) : Prop :=
  a.isBound = false ∧ b.isBound = false ∧ a.identifier = b.identifier ∧
    a.role.agrees b.role = false

/-- A bound variable that is applied. -/
def Misapplied (o : Occurrence) : Prop :=
  o.isBound = true ∧ o.role.arity?.isSome = true

/-- An occurrence breaks the rules behind others if it is a bound variable that
is applied, or if it does not agree with one of the others. -/
def Offends (before : List Occurrence) (o : Occurrence) : Prop :=
  o.Misapplied ∨ ∃ a ∈ before, a.Conflicts o

/-- Whether an occurrence of the identifier is unbound. -/
def isFree (x : String) (o : Occurrence) : Bool :=
  !o.isBound && o.identifier == x

theorem isFree_iff {x : String} {o : Occurrence} :
    o.isFree x = true ↔ o.isBound = false ∧ o.identifier = x := by
  simp [isFree]

end Occurrence

namespace Analysis

open Occurrence

/-- The roles recorded behind occurrences that break no rule. -/
structure Surveyed (before : List Occurrence)
    (recorded : List (String × Role)) : Prop where
  /-- The role of an identifier is that of its first unbound occurrence. -/
  first : ∀ x, recorded.lookup x = (before.find? (isFree x)).map role
  /-- Unbound occurrences of one identifier agree. -/
  agree : ∀ a ∈ before, ∀ b ∈ before, ¬a.Conflicts b
  /-- No bound variable is applied. -/
  unapplied : ∀ o ∈ before, ¬o.Misapplied

variable {before : List Occurrence} {recorded : List (String × Role)}
  {o : Occurrence}

theorem surveyed_nil : Surveyed [] [] :=
  ⟨fun _ => rfl, by simp, by simp⟩

/-- A role is recorded for an identifier that has none, if the occurrence is
unbound. -/
theorem lookup_record (x : String) :
    (record recorded o).lookup x =
      (recorded.lookup x).or (if isFree x o then some o.role else none) := by
  rw [record]
  cases hbound : o.isBound with
  | true => simp [isFree, hbound]
  | false =>
      by_cases hx : x = o.identifier
      · subst hx
        cases hlookup : recorded.lookup o.identifier with
        | none => simp [isFree, hbound]
        | some role => simp [hlookup]
      · have hne : (x == o.identifier) = false := by simpa using hx
        have hfree : isFree x o = false := by simp [isFree, Ne.symm hx]
        rw [hfree]
        split
        · simp
        · simp [List.lookup_cons, hne]

theorem Surveyed.lookup (h : Surveyed before recorded) (x : String) :
    (recorded.lookup x = none ∧ ∀ a ∈ before, a.isBound = false →
      a.identifier ≠ x) ∨
      ∃ a ∈ before, before.find? (isFree x) = some a ∧
        recorded.lookup x = some a.role ∧
        a.isBound = false ∧ a.identifier = x := by
  rw [h.first x]
  cases hfind : before.find? (isFree x) with
  | none =>
      refine .inl ⟨rfl, fun a ha hbound heq => ?_⟩
      rw [List.find?_eq_none] at hfind
      exact hfind a ha (isFree_iff.mpr ⟨hbound, heq⟩)
  | some a =>
      have hfree := isFree_iff.mp (List.find?_some hfind)
      exact .inr ⟨a, List.mem_of_find?_eq_some hfind, rfl, rfl, hfree⟩

/-- Nothing is wrong with an occurrence exactly if it does not break the rules
behind all earlier ones. -/
theorem misuse?_eq_none_iff (h : Surveyed before recorded) :
    misuse? recorded o = none ↔ ¬Offends before o := by
  cases hbound : o.isBound with
  | true =>
      have hconflict : ¬∃ a ∈ before, a.Conflicts o := by
        rintro ⟨a, -, -, hfree, -⟩
        rw [hbound] at hfree
        exact Bool.noConfusion hfree
      simp [misuse?, hbound, Offends, hconflict, Misapplied]
  | false =>
      have hmisapplied : ¬o.Misapplied := by
        rintro ⟨hfalse, -⟩
        rw [hbound] at hfalse
        exact Bool.noConfusion hfalse
      rw [misuse?, Offends, hbound]
      simp only [Bool.false_eq_true, if_false, hmisapplied, false_or]
      rcases h.lookup o.identifier with
        ⟨hnone, hother⟩ | ⟨a, ha, -, hsome, hfree, heq⟩
      · have hconflict : ¬∃ a ∈ before, a.Conflicts o := by
          rintro ⟨a, ha, hfree, -, heq, -⟩
          exact hother a ha hfree heq
        simp [hnone, hconflict]
      · rw [hsome]
        by_cases hagrees : a.role.agrees o.role = true
        · -- Whatever was free before agrees with the first occurrence, and so
          -- with this one.
          have hconflict : ¬∃ b ∈ before, b.Conflicts o := by
            rintro ⟨b, hb, hbfree, -, hbeq, hdisagrees⟩
            have hab : a.role.agrees b.role = true := by
              by_cases hab : a.role.agrees b.role = true
              · exact hab
              · exact absurd
                  ⟨hfree, hbfree, heq.trans hbeq.symm, by simpa using hab⟩
                  (h.agree a ha b hb)
            rw [Role.agrees_iff] at hagrees hab
            rw [← Bool.not_eq_true, Role.agrees_iff] at hdisagrees
            exact hdisagrees (hab.symm.trans hagrees)
          simp [hagrees, hconflict]
        · have hconflict : ∃ b ∈ before, b.Conflicts o :=
            ⟨a, ha, hfree, hbound, heq, by simpa using hagrees⟩
          simp [hagrees, hconflict]

theorem misuse?_eq_some (h : Surveyed before recorded) {m : Misuse}
    (hm : misuse? recorded o = some m) :
    (o.isBound = true ∧ m = .appliedVariable) ∨
      (o.isBound = false ∧ ∃ a, before.find? (isFree o.identifier) = some a ∧
        m = .conflict a.role) := by
  rw [misuse?] at hm
  cases hbound : o.isBound with
  | true =>
      rw [hbound] at hm
      simp only [if_true] at hm
      split at hm
      · exact .inl ⟨rfl, (Option.some.inj hm).symm⟩
      · exact absurd hm (by simp)
  | false =>
      rw [hbound] at hm
      simp only [Bool.false_eq_true, if_false] at hm
      rcases h.lookup o.identifier with ⟨hnone, -⟩ | ⟨a, -, hfind, hsome, -⟩
      · rw [hnone] at hm
        exact absurd hm (by simp)
      · rw [hsome] at hm
        simp only at hm
        split at hm
        · exact absurd hm (by simp)
        · exact .inr ⟨rfl, a, hfind, (Option.some.inj hm).symm⟩

theorem Surveyed.record (h : Surveyed before recorded)
    (ho : ¬Offends before o) :
    Surveyed (before ++ [o]) (record recorded o) := by
  rw [Offends, not_or] at ho
  obtain ⟨hmisapplied, hconflict⟩ := ho
  refine ⟨fun x => ?_, fun a ha b hb => ?_, fun a ha => ?_⟩
  · rw [lookup_record, h.first x, List.find?_append, List.find?_singleton,
      Option.map_or]
    cases isFree x o <;> rfl
  · rcases List.mem_append.mp ha with hmem | hmem <;>
      rcases List.mem_append.mp hb with hmem' | hmem'
    · exact h.agree a hmem b hmem'
    · obtain rfl := List.mem_singleton.mp hmem'
      exact fun hab => hconflict ⟨a, hmem, hab⟩
    · obtain rfl := List.mem_singleton.mp hmem
      rintro ⟨hafree, hbfree, heq, hdisagrees⟩
      refine hconflict ⟨b, hmem', hbfree, hafree, heq.symm, ?_⟩
      rw [← Bool.not_eq_true, Role.agrees_iff] at hdisagrees ⊢
      exact fun h => hdisagrees h.symm
    · obtain rfl := List.mem_singleton.mp hmem
      obtain rfl := List.mem_singleton.mp hmem'
      rintro ⟨-, -, -, hdisagrees⟩
      rw [← Bool.not_eq_true, Role.agrees_iff] at hdisagrees
      exact hdisagrees rfl
  · rcases List.mem_append.mp ha with hmem | hmem
    · exact h.unapplied a hmem
    · obtain rfl := List.mem_singleton.mp hmem
      exact hmisapplied

/-- A survey gets to the end, or stops at the first occurrence that breaks the
rules. -/
theorem survey_spec (os : List Occurrence) (h : Surveyed before recorded) :
    match (survey recorded os).error with
    | none => Surveyed (before ++ os) (survey recorded os).recorded
    | some e => ∃ passed o rest m recorded', os = passed ++ o :: rest ∧
        Surveyed (before ++ passed) recorded' ∧ misuse? recorded' o = some m ∧
        e = ⟨o.identifier, o.role, m, o.span⟩ := by
  induction os generalizing before recorded with
  | nil => simpa [survey] using h
  | cons o os ih =>
      rw [survey]
      cases hm : misuse? recorded o with
      | some m => exact ⟨[], o, os, m, recorded, rfl, by simpa using h, hm, rfl⟩
      | none =>
          have hnext := ih (h.record ((misuse?_eq_none_iff h).mp hm))
          simp only
          cases herror : (survey (record recorded o) os).error with
          | none =>
              rw [herror] at hnext
              simpa using hnext
          | some e =>
              rw [herror] at hnext
              obtain ⟨passed, b, rest, m, recorded', rfl, hsurveyed, hrest⟩ :=
                hnext
              refine ⟨o :: passed, b, rest, m, recorded', rfl, ?_, hrest⟩
              simpa using hsurveyed

end Analysis

end PredicateLogic
