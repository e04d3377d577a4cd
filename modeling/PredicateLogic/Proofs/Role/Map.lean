import Mathlib.Data.List.Basic
import Mathlib.Data.String.Basic
import PredicateLogic.Proofs.Role.Survey

/-!
# Role maps

A role map is a list in ascending order of identifiers. What insertion does to
it is said of the look-up, which is all that a reader of the map sees: the
inserted role is found, and all others stay. The order makes every identifier
stand in the map at most once.
-/

namespace PredicateLogic

theorem lookup_cons_eq (x y : String) (r : Role)
    (entries : List (String × Role)) :
    ((x, r) :: entries).lookup y =
      if y = x then some r else entries.lookup y := by
  rw [List.lookup_cons]
  by_cases hy : y = x
  · simp [hy]
  · rw [beq_eq_false_iff_ne.mpr hy, if_neg hy]

namespace RoleMap

/-- The identifiers of the map strictly ascend. -/
def Ascending (roles : RoleMap) : Prop :=
  roles.Pairwise fun a b => a.1 < b.1

variable {roles : RoleMap} {x y : String} {r : Role}

theorem lookup_insert :
    (roles.insert x r).lookup y = if y = x then some r else roles.lookup y := by
  induction roles with
  | nil => rw [insert, lookup_cons_eq]
  | cons entry roles ih =>
      obtain ⟨z, role⟩ := entry
      rw [insert]
      split
      · rw [lookup_cons_eq]
      · split
        · next hxz =>
          subst hxz
          rw [lookup_cons_eq, lookup_cons_eq]
          split <;> rfl
        · next hxz =>
          rw [lookup_cons_eq, lookup_cons_eq, ih]
          by_cases hyz : y = z
          · simp [hyz, Ne.symm hxz]
          · simp [hyz]

theorem lookup_insertIfNew :
    (roles.insertIfNew x r).lookup y =
      (roles.lookup y).or (if y = x then some r else none) := by
  rw [insertIfNew]
  split
  · next hx =>
    by_cases hy : y = x
    · obtain ⟨previous, hprevious⟩ := Option.isSome_iff_exists.mp hx
      simp [hy, hprevious]
    · simp [hy]
  · next hx =>
    rw [Option.not_isSome_iff_eq_none] at hx
    rw [lookup_insert]
    by_cases hy : y = x
    · simp [hy, hx]
    · simp [hy]

theorem mem_insert {entry : String × Role} (h : entry ∈ roles.insert x r) :
    entry = (x, r) ∨ entry ∈ roles := by
  induction roles with
  | nil => exact .inl (List.mem_singleton.mp h)
  | cons other roles ih =>
      obtain ⟨z, role⟩ := other
      rw [insert] at h
      split at h
      · exact List.mem_cons.mp h
      · split at h
        · exact (List.mem_cons.mp h).imp_right (List.mem_cons_of_mem _)
        · rcases List.mem_cons.mp h with rfl | h
          · exact .inr List.mem_cons_self
          · exact (ih h).imp_right (List.mem_cons_of_mem _)

theorem Ascending.insert (h : Ascending roles) :
    Ascending (roles.insert x r) := by
  induction roles with
  | nil => exact List.pairwise_singleton _ _
  | cons entry roles ih =>
      obtain ⟨z, role⟩ := entry
      obtain ⟨hfirst, hrest⟩ := List.pairwise_cons.mp h
      rw [RoleMap.insert]
      split
      · next hlt =>
        refine List.pairwise_cons.mpr ⟨fun other hother => ?_, h⟩
        rcases List.mem_cons.mp hother with rfl | hother
        · exact hlt
        · exact lt_trans hlt (hfirst other hother)
      · next hnot =>
        split
        · next heq =>
          subst heq
          exact List.pairwise_cons.mpr ⟨hfirst, hrest⟩
        · next hne =>
          refine List.pairwise_cons.mpr ⟨fun other hother => ?_, ih hrest⟩
          rcases mem_insert hother with rfl | hother
          · exact lt_of_le_of_ne (not_lt.mp hnot) (Ne.symm hne)
          · exact hfirst other hother

theorem Ascending.insertIfNew (h : Ascending roles) :
    Ascending (roles.insertIfNew x r) := by
  rw [RoleMap.insertIfNew]
  split
  · exact h
  · exact h.insert

/-- Of several roles for one identifier the last one is kept. -/
theorem lookup_foldl_insert (entries : List (String × Role)) :
    (entries.foldl (fun roles (x, r) => roles.insert x r) roles).lookup y =
      (entries.reverse.lookup y).or (roles.lookup y) := by
  induction entries generalizing roles with
  | nil => simp
  | cons entry entries ih =>
      obtain ⟨x, r⟩ := entry
      rw [List.foldl_cons, ih, lookup_insert, List.reverse_cons,
        List.lookup_append, Option.or_assoc]
      congr 1
      rw [lookup_cons_eq, List.lookup_nil]
      split <;> rfl

theorem lookup_foldl_insertIfNew (xs : List String) :
    (xs.foldl (fun roles x => roles.insertIfNew x r) roles).lookup y =
      (roles.lookup y).or (if y ∈ xs then some r else none) := by
  induction xs generalizing roles with
  | nil => simp
  | cons x xs ih =>
      rw [List.foldl_cons, ih, lookup_insertIfNew, Option.or_assoc]
      congr 1
      by_cases hy : y = x <;> simp [hy]

theorem ascending_foldl_insert (entries : List (String × Role))
    (h : Ascending roles) :
    Ascending (entries.foldl (fun roles (x, r) => roles.insert x r) roles) :=
  List.foldlRecOn entries _ h fun _ h _ _ => h.insert

theorem ascending_foldl_insertIfNew (xs : List String) (h : Ascending roles) :
    Ascending (xs.foldl (fun roles x => roles.insertIfNew x r) roles) :=
  List.foldlRecOn xs _ h fun _ h _ _ => h.insertIfNew

end RoleMap

/-- Where no identifier has two roles, the order of the entries makes no
difference. -/
theorem lookup_reverse {entries : List (String × Role)}
    (h : (entries.map Prod.fst).Nodup) (x : String) :
    entries.reverse.lookup x = entries.lookup x := by
  induction entries with
  | nil => rfl
  | cons entry entries ih =>
      obtain ⟨y, r⟩ := entry
      obtain ⟨hy, hentries⟩ := List.nodup_cons.mp h
      rw [List.reverse_cons, List.lookup_append, ih hentries]
      by_cases hx : x = y
      · subst hx
        have hnone : entries.lookup x = none := by
          rw [List.lookup_eq_none_iff]
          intro entry hentry
          have hne : x ≠ entry.1 := fun heq =>
            hy (List.mem_map.mpr ⟨entry, hentry, heq.symm⟩)
          simpa using hne
        simp [hnone]
      · rw [lookup_cons_eq, lookup_cons_eq, if_neg hx, if_neg hx,
          List.lookup_nil, Option.or_none]

namespace Analysis

/-- No identifier is recorded twice. -/
theorem nodup_survey (os : List Occurrence) {recorded : List (String × Role)}
    (h : (recorded.map Prod.fst).Nodup) :
    ((survey recorded os).recorded.map Prod.fst).Nodup := by
  induction os generalizing recorded with
  | nil => exact h
  | cons o os ih =>
      rw [survey]
      split
      · exact h
      · apply ih
        rw [record]
        split
        · exact h
        · next hnew =>
          rw [Bool.not_eq_true, Bool.or_eq_false_iff,
            Option.isSome_eq_false_iff, Option.isNone_iff_eq_none,
            List.lookup_eq_none_iff] at hnew
          refine List.nodup_cons.mpr ⟨fun hmem => ?_, h⟩
          obtain ⟨entry, hentry, heq⟩ := List.mem_map.mp hmem
          simpa [heq] using hnew.2 entry hentry

end Analysis

end PredicateLogic
