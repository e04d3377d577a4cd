import Mathlib.Algebra.Group.Nat.Defs
import PredicateLogic.Unicode.Decomposition

/-!
# Search trees for the tables

The tables are searched from their first entry on. That is enough to run, but to
check one table against another takes a search for every entry. An `Index` holds
the entries of an ascending table as a search tree, in which `find` has the
result of `lookupAscending`.
-/

namespace PredicateLogic.Unicode

variable {α : Type}

theorem lookupAscending_append {n : Nat} {after : List (Nat × α)}
    (h : lookupAscending n after = none) (before : List (Nat × α)) :
    lookupAscending n (before ++ after) = lookupAscending n before := by
  induction before with
  | nil => exact h
  | cons entry before ih =>
      rw [List.cons_append, lookupAscending, lookupAscending, ih]

theorem lookupAscending_append_of_lt {n : Nat} {before : List (Nat × α)}
    (h : ∀ e ∈ before, e.1 < n) (after : List (Nat × α)) :
    lookupAscending n (before ++ after) = lookupAscending n after := by
  induction before with
  | nil => rfl
  | cons entry before ih =>
      rw [List.forall_mem_cons] at h
      rw [List.cons_append, lookupAscending, if_neg (Nat.lt_asymm h.1),
        if_neg (Nat.ne_of_gt h.1), ih h.2]

/-- A search tree. -/
inductive Index (α : Type) where
  | leaf
  | node (left : Index α) (key : Nat) (value : α) (right : Index α)

namespace Index

/-- The value of a key. -/
def find : Index α → (n : Nat) → Option α
  | .leaf, _ => none
  | .node left key value right, n =>
    if n < key then left.find n
    else if n = key then some value
    else right.find n

/-- The entries in order. -/
def entries : Index α → List (Nat × α)
  | .leaf => []
  | .node left key value right => left.entries ++ (key, value) :: right.entries

/-- Whether the keys ascend from `low` on and stay below `high`. -/
def within (low high : Nat) : Index α → Bool
  | .leaf => true
  | .node left key _ right =>
    decide (low ≤ key ∧ key < high) && left.within low key &&
      right.within (key + 1) high

/-- The tree of a list with less than `2 ^ depth` entries. -/
def ofList : (depth : Nat) → List (Nat × α) → Index α
  | 0, _ => .leaf
  | depth + 1, l =>
    match l.drop (l.length / 2) with
    | [] => .leaf
    | (key, value) :: after =>
      .node (ofList depth (l.take (l.length / 2))) key value
        (ofList depth after)

theorem entries_ofList {depth : Nat} {l : List (Nat × α)}
    (h : l.length < 2 ^ depth) :
    (ofList depth l).entries = l := by
  induction depth generalizing l with
  | zero =>
      rw [Nat.pow_zero, Nat.lt_one_iff, List.length_eq_zero_iff] at h
      rw [h]
      rfl
  | succ depth ih =>
      rw [Nat.pow_succ] at h
      have hhalves := List.take_append_drop (l.length / 2) l
      have hlength := congrArg List.length hhalves
      rw [ofList]
      split
      · next hnil =>
        rw [List.drop_eq_nil_iff] at hnil
        obtain rfl : l = [] := List.length_eq_zero_iff.mp (by omega)
        rfl
      · next key value after hafter =>
        rw [hafter] at hhalves hlength
        simp only [List.length_append, List.length_take, List.length_cons]
          at hlength
        rw [entries, ih (by rw [List.length_take]; omega),
          ih (by omega), hhalves]

theorem mem_entries_of_within {t : Index α} {low high : Nat}
    (h : t.within low high = true) :
    ∀ e ∈ t.entries, low ≤ e.1 ∧ e.1 < high := by
  induction t generalizing low high with
  | leaf => simp [entries]
  | node left key value right ihl ihr =>
      simp only [within, Bool.and_eq_true, decide_eq_true_eq] at h
      obtain ⟨⟨⟨hlow, hhigh⟩, hleft⟩, hright⟩ := h
      intro e he
      rw [entries, List.mem_append, List.mem_cons] at he
      rcases he with he | rfl | he
      · have := ihl hleft e he
        omega
      · exact ⟨hlow, hhigh⟩
      · have := ihr hright e he
        omega

theorem find_eq {t : Index α} {low high : Nat} (h : t.within low high = true)
    (n : Nat) :
    t.find n = lookupAscending n t.entries := by
  induction t generalizing low high with
  | leaf => rfl
  | node left key value right ihl ihr =>
      simp only [within, Bool.and_eq_true] at h
      obtain ⟨⟨-, hleft⟩, hright⟩ := h
      rw [find, entries, ihl hleft, ihr hright]
      split
      · next hlt =>
        exact (lookupAscending_append
          (by rw [lookupAscending, if_pos hlt]) _).symm
      · next hlt =>
        have hbefore : ∀ e ∈ left.entries, e.1 < n := fun e he =>
          Nat.lt_of_lt_of_le (mem_entries_of_within hleft e he).2
            (Nat.le_of_not_lt hlt)
        rw [lookupAscending_append_of_lt hbefore, lookupAscending, if_neg hlt]

end Index

/-- The tree of the characters that decompose into several ones. It is large,
and nothing but the kernel should ever look into it. -/
@[irreducible] def expansionIndex : Index (List Nat) :=
  .ofList 11 expansions

theorem expansionIndex_find (n : Nat) :
    expansionIndex.find n = lookupAscending n expansions := by
  have hlength : expansions.length < 2 ^ 11 := by decide +kernel
  have hwithin : expansionIndex.within 0 0x110000 = true := by decide +kernel
  have hentries : expansionIndex.entries = expansions := by
    unfold expansionIndex
    exact Index.entries_ofList hlength
  rw [Index.find_eq hwithin, hentries]

end PredicateLogic.Unicode
