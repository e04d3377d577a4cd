import Mathlib.Data.List.Basic

/-!
# Parts with a separator between them

Parts of a list are joined by one separator between every two of them. Where the
parts have known lengths, each of them is found at an offset that the lengths
determine. Where none of them contains the separator, splitting gives them back,
which is `List.splitOn_intercalate`.
-/

namespace PredicateLogic

section

variable {α : Type} {sep : α}

theorem intercalate_cons (xs : List α) (xss : List (List α)) :
    [sep].intercalate (xs :: xss) = xs ++ xss.flatMap (sep :: ·) := by
  induction xss generalizing xs with
  | nil => simp
  | cons ys xss ih =>
      rw [List.intercalate_cons_cons, ih ys, List.flatMap_cons,
        List.append_assoc]
      rfl

theorem intercalate_concat {xss : List (List α)} (h : xss ≠ []) (xs : List α) :
    [sep].intercalate (xss ++ [xs]) =
      [sep].intercalate xss ++ ([sep] ++ xs) := by
  cases xss with
  | nil => exact absurd rfl h
  | cons ys xss =>
      rw [List.cons_append, intercalate_cons, intercalate_cons,
        List.flatMap_append]
      simp

/-- Separators aside, what stands between them are the members of the parts. -/
theorem mem_intercalate {x : α} {xss : List (List α)} (hx : x ≠ sep) :
    x ∈ [sep].intercalate xss ↔ ∃ xs ∈ xss, x ∈ xs := by
  cases xss with
  | nil => simp
  | cons xs xss => simp [intercalate_cons, hx]

/-- In front of other parts, empty parts leave nothing but their separators. -/
theorem intercalate_replicate_nil_append (n : Nat) {xss : List (List α)}
    (h : xss ≠ []) :
    [sep].intercalate (List.replicate n [] ++ xss) =
      List.replicate n sep ++ [sep].intercalate xss := by
  induction n with
  | zero => rfl
  | succ n ih =>
      have hne : List.replicate n [] ++ xss ≠ [] := by simp [h]
      rw [List.replicate_succ, List.cons_append,
        List.intercalate_cons_of_ne_nil hne, ih]
      rfl

/-- The offset of the part with the given index, where every part before it has
one of the given lengths and a separator behind it. -/
def partOffset : (lengths : List Nat) → (index : Nat) → Nat
  | [], _ | _ :: _, 0 => 0
  | length :: lengths, index + 1 => length + 1 + partOffset lengths index

theorem partOffset_cons_succ (length : Nat) (lengths : List Nat) (index : Nat) :
    partOffset (length :: lengths) (index + 1) =
      length + 1 + partOffset lengths index := rfl

/-- No separator stands behind the last part. -/
theorem length_intercalate (xss : List (List α)) :
    ([sep].intercalate xss).length =
      partOffset (xss.map List.length) xss.length - 1 := by
  induction xss with
  | nil => rfl
  | cons xs xss ih =>
      rw [List.map_cons, List.length_cons, partOffset_cons_succ]
      cases xss with
      | nil => simp [partOffset]
      | cons ys xss =>
          rw [List.intercalate_cons_cons, List.length_append,
            List.length_append, ih, List.length_singleton, List.map_cons,
            List.length_cons, partOffset_cons_succ]
          omega

/-- At its offset the part with the given index is found, whatever follows
behind the last part. -/
theorem prefix_drop_intercalate {xss : List (List α)} {index : Nat}
    {xs : List α} (h : xss[index]? = some xs) (rest : List α) :
    xs <+: ([sep].intercalate xss ++ rest).drop
      (partOffset (xss.map List.length) index) := by
  induction xss generalizing index with
  | nil => exact absurd h (by simp)
  | cons ys xss ih =>
      cases index with
      | zero =>
          obtain rfl : ys = xs := by simpa using h
          rw [intercalate_cons, List.append_assoc]
          exact List.prefix_append _ _
      | succ index =>
          have hne : xss ≠ [] := by
            rintro rfl
            exact absurd h (by simp)
          rw [List.getElem?_cons_succ] at h
          have hlength : ys.length + 1 = (ys ++ [sep]).length := by simp
          rw [List.map_cons, partOffset_cons_succ,
            List.intercalate_cons_of_ne_nil hne, ← List.drop_drop,
            List.append_assoc, hlength, List.drop_left]
          exact ih h

end

end PredicateLogic
