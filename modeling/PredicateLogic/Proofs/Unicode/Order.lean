import Mathlib.Data.List.Chain
import PredicateLogic.Proofs.Unicode.Boundary

/-!
# Canonical order

Marks of different classes may change places without any effect on the canonical
order of a text, and putting a text into canonical order does nothing else than
that. So a second time makes no difference.
-/

namespace PredicateLogic.Unicode

namespace Reordering

theorem insertMark_comm {j k : Nat} (hjk : j ≠ k) (c d : Char)
    (l : List (Nat × List Char)) :
    insertMark j c (insertMark k d l) = insertMark k d (insertMark j c l) := by
  induction l with
  | nil =>
      simp only [insertMark]
      grind
  | cons m l ih =>
      obtain ⟨i, es⟩ := m
      simp only [insertMark]
      grind [insertMark]

theorem add_mark {c : Char} (hc : combiningClass c ≠ 0) (s : Reordering) :
    add c s = ⟨insertMark (combiningClass c) c s.marks, s.rest⟩ := by
  rw [add]
  split
  · next h => exact absurd h hc
  · next k h => rw [h]

theorem add_comm {c d : Char} (hc : combiningClass c ≠ 0)
    (hd : combiningClass d ≠ 0) (hcd : combiningClass c ≠ combiningClass d)
    (s : Reordering) :
    add c (add d s) = add d (add c s) := by
  rw [add_mark hd, add_mark hc, add_mark hc, add_mark hd, insertMark_comm hcd]

/-- Every mark stands among those of its class, and the text behind them begins
with a starter. -/
structure Grouped (s : Reordering) : Prop where
  marks : ∀ m ∈ s.marks, ∀ d ∈ m.2, combiningClass d = m.1
  rest : ∀ d ∈ s.rest.head?, combiningClass d = 0

theorem forall_insertMark {c : Char} {l : List (Nat × List Char)}
    (hl : ∀ m ∈ l, ∀ d ∈ m.2, combiningClass d = m.1) :
    ∀ m ∈ insertMark (combiningClass c) c l,
      ∀ d ∈ m.2, combiningClass d = m.1 := by
  induction l with
  | nil => simp [insertMark]
  | cons m l ih =>
      obtain ⟨j, es⟩ := m
      obtain ⟨hm, hl⟩ := List.forall_mem_cons.mp hl
      rw [insertMark]
      split
      · exact List.forall_mem_cons.mpr ⟨hm, ih hl⟩
      · split
        · next hj =>
          exact List.forall_mem_cons.mpr
            ⟨List.forall_mem_cons.mpr ⟨rfl, hj ▸ hm⟩, hl⟩
        · exact List.forall_mem_cons.mpr
            ⟨by simp, List.forall_mem_cons.mpr ⟨hm, hl⟩⟩

theorem Grouped.foldr (cs : List Char) : Grouped (cs.foldr add ⟨[], []⟩) := by
  induction cs with
  | nil => exact ⟨by simp, by simp⟩
  | cons c cs ih =>
      rw [List.foldr_cons]
      by_cases hc : combiningClass c = 0
      · rw [add_starter hc]
        exact ⟨by simp, by simpa using hc⟩
      · rw [add_mark hc]
        exact ⟨forall_insertMark ih.marks, ih.rest⟩

/-- A mark is put behind the marks of smaller classes and before all others. -/
theorem exists_flatMap_insertMark {c : Char} {l : List (Nat × List Char)}
    (hl : ∀ m ∈ l, ∀ d ∈ m.2, combiningClass d = m.1)
    (hne : ∀ m ∈ l, m.2 ≠ []) :
    ∃ before after, l.flatMap (·.2) = before ++ after ∧
      (insertMark (combiningClass c) c l).flatMap (·.2) = before ++ c :: after ∧
      (∀ d ∈ before, combiningClass d < combiningClass c) ∧
      ∀ d ∈ after.head?, combiningClass c ≤ combiningClass d := by
  induction l with
  | nil => exact ⟨[], [], rfl, rfl, by simp, by simp⟩
  | cons m l ih =>
      obtain ⟨j, es⟩ := m
      obtain ⟨e, es, rfl⟩ :=
        List.exists_cons_of_ne_nil (hne _ List.mem_cons_self)
      obtain ⟨hm, hl⟩ := List.forall_mem_cons.mp hl
      obtain ⟨-, hne⟩ := List.forall_mem_cons.mp hne
      have hj : combiningClass e = j := hm e List.mem_cons_self
      rw [insertMark]
      split
      · next hlt =>
        obtain ⟨before, after, heq, hinsert, hbefore, hafter⟩ := ih hl hne
        refine ⟨e :: es ++ before, after, by simp [heq],
          by simp [hinsert], ?_, hafter⟩
        intro d hd
        rcases List.mem_append.mp hd with hd | hd
        · exact hm d hd ▸ hlt
        · exact hbefore d hd
      · next hle =>
        have hhead : combiningClass c ≤ combiningClass e := by omega
        split
        · exact ⟨[], _, rfl, rfl, by simp, by simpa using hhead⟩
        · exact ⟨[], _, rfl, rfl, by simp, by simpa using hhead⟩

end Reordering

/-- A mark in front of a text is moved behind the marks of smaller classes. -/
theorem exists_canonicalOrder_cons {c : Char} (hc : combiningClass c ≠ 0)
    (cs : List Char) :
    ∃ before after, canonicalOrder cs = before ++ after ∧
      canonicalOrder (c :: cs) = before ++ c :: after ∧
      (∀ d ∈ before, combiningClass d ≠ 0 ∧
        combiningClass d < combiningClass c) ∧
      ∀ d ∈ after.head?, combiningClass d = 0 ∨
        combiningClass c ≤ combiningClass d := by
  have hmarks := Reordering.HoldsMarks.foldr cs
  have hgrouped := Reordering.Grouped.foldr cs
  obtain ⟨before, after, heq, hinsert, hbefore, hafter⟩ :=
    Reordering.exists_flatMap_insertMark (c := c) hgrouped.marks fun m hm =>
      (hmarks m hm).1
  refine ⟨before, after ++ (cs.foldr Reordering.add ⟨[], []⟩).rest, ?_, ?_,
    fun d hd => ?_, fun d hd => ?_⟩
  · rw [canonicalOrder, Reordering.text, heq, List.append_assoc]
  · rw [canonicalOrder, List.foldr_cons, Reordering.add_mark hc,
      Reordering.text, hinsert, List.append_assoc]
    rfl
  · have hmem : d ∈ (cs.foldr Reordering.add ⟨[], []⟩).marks.flatMap (·.2) := by
      rw [heq]
      exact List.mem_append_left _ hd
    obtain ⟨m, hm, hdm⟩ := List.mem_flatMap.mp hmem
    exact ⟨(hmarks m hm).2 d hdm, hbefore d hd⟩
  · cases after with
    | nil => exact .inl (hgrouped.rest d hd)
    | cons e es => exact .inr (hafter d hd)

/-!
# What is in canonical order
-/

theorem canonicalOrder_perm (cs : List Char) : (canonicalOrder cs).Perm cs := by
  induction cs with
  | nil => exact .refl _
  | cons c cs ih =>
      by_cases hc : combiningClass c = 0
      · rw [canonicalOrder_starter_cons hc]
        exact ih.cons c
      · obtain ⟨before, after, heq, hcons, -, -⟩ :=
          exists_canonicalOrder_cons hc cs
        rw [heq] at ih
        rw [hcons]
        exact List.perm_middle.trans (ih.cons c)

/-- No mark stands before one of a smaller class. -/
def Ordered (cs : List Char) : Prop :=
  cs.IsChain fun c d =>
    combiningClass d = 0 ∨ combiningClass c ≤ combiningClass d

theorem ordered_canonicalOrder (cs : List Char) :
    Ordered (canonicalOrder cs) := by
  induction cs with
  | nil => exact .nil
  | cons c cs ih =>
      by_cases hc : combiningClass c = 0
      · rw [canonicalOrder_starter_cons hc, Ordered, List.isChain_cons]
        refine ⟨fun d _ => .inr ?_, ih⟩
        rw [hc]
        exact Nat.zero_le _
      · obtain ⟨before, after, heq, hcons, hbefore, hafter⟩ :=
          exists_canonicalOrder_cons hc cs
        rw [heq, Ordered, List.isChain_append] at ih
        rw [hcons, Ordered, List.isChain_append, List.isChain_cons]
        refine ⟨ih.1, ⟨hafter, ih.2.1⟩, fun d hd e he => .inr ?_⟩
        obtain rfl : c = e := by simpa using he
        exact Nat.le_of_lt (hbefore d (List.mem_of_getLast? hd)).2

/-!
# Changing places
-/

theorem canonicalOrder_swap {c d : Char} (hc : combiningClass c ≠ 0)
    (hd : combiningClass d ≠ 0) (hcd : combiningClass c ≠ combiningClass d)
    (before after : List Char) :
    canonicalOrder (before ++ c :: d :: after) =
      canonicalOrder (before ++ d :: c :: after) := by
  simp only [canonicalOrder, List.foldr_append, List.foldr_cons]
  rw [Reordering.add_comm hc hd hcd]

/-- A mark may be moved past marks of other classes. -/
theorem canonicalOrder_move {c : Char} (hc : combiningClass c ≠ 0)
    {ds : List Char}
    (hds : ∀ d ∈ ds, combiningClass d ≠ 0 ∧ combiningClass c ≠ combiningClass d)
    (before after : List Char) :
    canonicalOrder (before ++ (ds ++ c :: after)) =
      canonicalOrder (before ++ c :: (ds ++ after)) := by
  induction ds generalizing before with
  | nil => rfl
  | cons d ds ih =>
      obtain ⟨⟨hd, hcd⟩, hds⟩ := List.forall_mem_cons.mp hds
      calc canonicalOrder (before ++ (d :: ds ++ c :: after))
          = canonicalOrder ((before ++ [d]) ++ (ds ++ c :: after)) := by simp
        _ = canonicalOrder ((before ++ [d]) ++ c :: (ds ++ after)) := ih hds _
        _ = canonicalOrder (before ++ c :: d :: (ds ++ after)) := by
            rw [List.append_assoc, canonicalOrder_swap hc hd hcd]
            rfl

/-- A part of a text may be put into canonical order first. -/
theorem canonicalOrder_append_canonicalOrder (before cs : List Char) :
    canonicalOrder (before ++ canonicalOrder cs) =
      canonicalOrder (before ++ cs) := by
  induction cs generalizing before with
  | nil => rfl
  | cons c cs ih =>
      have hnext := ih (before ++ [c])
      rw [List.append_assoc, List.append_assoc] at hnext
      by_cases hc : combiningClass c = 0
      · rw [canonicalOrder_starter_cons hc]
        exact hnext
      · obtain ⟨first, second, heq, hcons, hfirst, -⟩ :=
          exists_canonicalOrder_cons hc cs
        have hne : ∀ d ∈ first, combiningClass d ≠ 0 ∧
            combiningClass c ≠ combiningClass d :=
          fun d hd => ⟨(hfirst d hd).1, Nat.ne_of_gt (hfirst d hd).2⟩
        rw [hcons, canonicalOrder_move hc hne, ← heq]
        exact hnext

theorem canonicalOrder_canonicalOrder (cs : List Char) :
    canonicalOrder (canonicalOrder cs) = canonicalOrder cs :=
  canonicalOrder_append_canonicalOrder [] cs

end PredicateLogic.Unicode
