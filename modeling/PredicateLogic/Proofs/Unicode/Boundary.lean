import PredicateLogic.Unicode.Normalization

/-!
# Where a text may be normalized piece by piece

Normalization reaches across a place in a text only to reorder marks or to take
up a character into an earlier one. Where the decomposed text goes on with a
starter that is not taken up, both sides may be normalized separately. This is
the case before and behind every separator of a printed formula.
-/

namespace PredicateLogic.Unicode

/-!
# Canonical order
-/

namespace Reordering

/-- The same marks with more text behind them. -/
def extend (s : Reordering) (tail : List Char) : Reordering :=
  ⟨s.marks, s.rest ++ tail⟩

theorem text_extend (s : Reordering) (tail : List Char) :
    (s.extend tail).text = s.text ++ tail := by
  simp [text, extend]

theorem add_extend (c : Char) (s : Reordering) (tail : List Char) :
    add c (s.extend tail) = (add c s).extend tail := by
  simp only [add]
  split
  · rw [text_extend]
    rfl
  · rfl

theorem foldr_add_extend (cs : List Char) (s : Reordering) (tail : List Char) :
    cs.foldr add (s.extend tail) = (cs.foldr add s).extend tail := by
  induction cs with
  | nil => rfl
  | cons c cs ih => rw [List.foldr_cons, ih, add_extend, List.foldr_cons]

theorem add_starter {c : Char} (hc : combiningClass c = 0) (s : Reordering) :
    add c s = ⟨[], c :: s.text⟩ := by
  rw [add, hc]

/-- No group of marks is empty, and no starter is among them. -/
def HoldsMarks (s : Reordering) : Prop :=
  ∀ m ∈ s.marks, m.2 ≠ [] ∧ ∀ c ∈ m.2, combiningClass c ≠ 0

theorem insertMark_ne_nil (k : Nat) (c : Char) (l : List (Nat × List Char)) :
    insertMark k c l ≠ [] := by
  cases l with
  | nil => simp [insertMark]
  | cons m l =>
      simp only [insertMark]
      split
      · simp
      · split <;> simp

theorem mem_insertMark {k : Nat} {c : Char} {l : List (Nat × List Char)} :
    ∀ m ∈ insertMark k c l, m ∈ l ∨
      ∃ ds, m.2 = c :: ds ∧ (ds = [] ∨ ∃ j, (j, ds) ∈ l) := by
  induction l with
  | nil =>
      intro m hm
      rw [insertMark, List.mem_singleton] at hm
      exact .inr ⟨[], by rw [hm], .inl rfl⟩
  | cons head l ih =>
      obtain ⟨j, es⟩ := head
      intro m hm
      rw [insertMark] at hm
      split at hm
      · rcases List.mem_cons.mp hm with rfl | hm
        · exact .inl (by simp)
        · rcases ih m hm with hl | ⟨ds, hds, hnil | ⟨i, hi⟩⟩
          · exact .inl (by simp [hl])
          · exact .inr ⟨ds, hds, .inl hnil⟩
          · exact .inr ⟨ds, hds, .inr ⟨i, by simp [hi]⟩⟩
      · split at hm
        · rcases List.mem_cons.mp hm with rfl | hm
          · exact .inr ⟨es, rfl, .inr ⟨j, by simp⟩⟩
          · exact .inl (by simp [hm])
        · rcases List.mem_cons.mp hm with rfl | hm
          · exact .inr ⟨[], rfl, .inl rfl⟩
          · exact .inl hm

theorem HoldsMarks.add {s : Reordering} (hs : s.HoldsMarks) (c : Char) :
    (add c s).HoldsMarks := by
  rw [Reordering.add]
  split
  · simp [HoldsMarks]
  · next k hk =>
    intro m hm
    rcases mem_insertMark m hm with hm | ⟨ds, hds, hnil | ⟨j, hj⟩⟩
    · exact hs m hm
    · subst hnil
      simp [hds, hk]
    · have hold := (hs (j, ds) hj).2
      simpa [hds, hk] using hold

theorem HoldsMarks.foldr (cs : List Char) :
    (cs.foldr Reordering.add ⟨[], []⟩).HoldsMarks := by
  induction cs with
  | nil => simp [HoldsMarks]
  | cons c cs ih => exact ih.add c

end Reordering

theorem canonicalOrder_starter_cons {d : Char} (hd : combiningClass d = 0)
    (ds : List Char) :
    canonicalOrder (d :: ds) = d :: canonicalOrder ds := by
  rw [canonicalOrder, List.foldr_cons, Reordering.add_starter hd]
  rfl

/-- Nothing is moved past a starter. -/
theorem canonicalOrder_append {d : Char} (hd : combiningClass d = 0)
    (cs ds : List Char) :
    canonicalOrder (cs ++ d :: ds) =
      canonicalOrder cs ++ canonicalOrder (d :: ds) := by
  have hstart : (d :: ds).foldr Reordering.add ⟨[], []⟩ =
      Reordering.extend ⟨[], []⟩ (canonicalOrder (d :: ds)) := by
    rw [canonicalOrder_starter_cons hd, List.foldr_cons,
      Reordering.add_starter hd]
    rfl
  rw [canonicalOrder, List.foldr_append, hstart, Reordering.foldr_add_extend,
    Reordering.text_extend]
  rfl

/-- A text that begins with a mark is ordered into one that begins with a
mark. -/
theorem canonicalOrder_mark_cons {d : Char} (hd : combiningClass d ≠ 0)
    (ds : List Char) :
    ∃ e es, canonicalOrder (d :: ds) = e :: es ∧ combiningClass e ≠ 0 := by
  have hmarks := Reordering.HoldsMarks.foldr (d :: ds)
  have hne : ((d :: ds).foldr Reordering.add ⟨[], []⟩).marks ≠ [] := by
    rw [List.foldr_cons, Reordering.add]
    split
    · next h => exact absurd h hd
    · exact Reordering.insertMark_ne_nil _ _ _
  rw [canonicalOrder, Reordering.text]
  rw [Reordering.HoldsMarks] at hmarks
  generalize (d :: ds).foldr Reordering.add ⟨[], []⟩ = s at hne hmarks ⊢
  rcases hm : s.marks with _ | ⟨⟨k, _ | ⟨e, es⟩⟩, l⟩
  · exact absurd hm hne
  · exact absurd rfl (hmarks (k, []) (by simp [hm])).1
  · refine ⟨e, es ++ (l.flatMap (·.2) ++ s.rest), by simp, ?_⟩
    exact (hmarks (k, e :: es) (by simp [hm])).2 e (by simp)

/-!
# Composition
-/

namespace Composing

/-- The same text with more text before it. -/
def behind (s : Composing) (before : List Char) : Composing :=
  { s with done := s.done ++ before }

theorem finish_behind (s : Composing) (before : List Char) :
    (s.behind before).finish = before.reverse ++ s.finish := by
  simp [finish, behind]

theorem step_some (done held : List Char) (k c : Char) :
    step ⟨done, some k, held⟩ c =
      match if blocks held c then none else compose? k c with
      | some r => ⟨done, some r, held⟩
      | none =>
        if combiningClass c = 0 then ⟨held ++ k :: done, some c, []⟩
        else ⟨done, some k, c :: held⟩ := rfl

theorem step_behind (s : Composing) (before : List Char) (c : Char) :
    step (s.behind before) c = (step s c).behind before := by
  rcases s with ⟨done, _ | k, held⟩
  · simp only [step, behind]
    split <;> rfl
  · rw [behind, step_some, step_some]
    cases if blocks held c then none else compose? k c with
    | some r => rfl
    | none =>
        by_cases hc : combiningClass c = 0
        · simp [hc, behind]
        · simp [hc, behind]

theorem foldl_step_behind (cs : List Char) (s : Composing)
    (before : List Char) :
    cs.foldl step (s.behind before) = (cs.foldl step s).behind before := by
  induction cs generalizing s with
  | nil => rfl
  | cons c cs ih => rw [List.foldl_cons, step_behind, ih, List.foldl_cons]

/-- Before the first starter no mark is held. -/
def Ready (s : Composing) : Prop :=
  s.starter = none → s.held = []

theorem Ready.step {s : Composing} (hs : s.Ready) (c : Char) :
    (step s c).Ready := by
  rcases s with ⟨done, _ | k, held⟩
  · obtain rfl : held = [] := hs rfl
    simp only [Composing.step]
    split <;> simp [Ready]
  · simp only [Composing.step]
    split
    · simp [Ready]
    · split <;> simp [Ready]

theorem Ready.foldl {s : Composing} (hs : s.Ready) (cs : List Char) :
    (cs.foldl Composing.step s).Ready := by
  induction cs generalizing s with
  | nil => exact hs
  | cons c cs ih => exact ih (hs.step c)

/-- A starter that is not taken up leaves the text before it as it is. -/
theorem step_starter {s : Composing} (hs : s.Ready) {d : Char}
    (hd : combiningClass d = 0)
    (htaken : ∀ k ∈ s.starter, s.held = [] → compose? k d = none) :
    step s d = behind ⟨[], some d, []⟩ s.finish.reverse := by
  rcases s with ⟨done, _ | k, held⟩
  · obtain rfl : held = [] := hs rfl
    simp [step, hd, behind, finish]
  · have hnone :
        (if blocks held d = true then none else compose? k d) = none := by
      cases held with
      | nil => rw [htaken k rfl rfl, ite_self]
      | cons e held => simp [blocks, hd]
    simp [step, hnone, hd, behind, finish]

end Composing

/-- The composition of a text before it is finished. -/
def compose (cs : List Char) : Composing :=
  (canonicalOrder (cs.flatMap decompose)).foldl Composing.step ⟨[], none, []⟩

theorem nfc_eq (cs : List Char) : nfc cs = (compose cs).finish := rfl

/-- A text may be normalized separately before and behind a starter that is not
taken up. -/
theorem nfc_append {xs ys ds : List Char} {d : Char}
    (hys : ys.flatMap decompose = d :: ds) (hd : combiningClass d = 0)
    (htaken : ∀ k ∈ (compose xs).starter, (compose xs).held = [] →
      compose? k d = none) :
    nfc (xs ++ ys) = nfc xs ++ nfc ys := by
  have hready : (compose xs).Ready := Composing.Ready.foldl (fun _ => rfl) _
  have hfirst : Composing.step ⟨[], none, []⟩ d = ⟨[], some d, []⟩ := by
    simp [Composing.step, hd]
  calc nfc (xs ++ ys)
      = ((canonicalOrder (d :: ds)).foldl Composing.step (compose xs)).finish
        := by
        rw [nfc, List.flatMap_append, hys, canonicalOrder_append hd,
          List.foldl_append]
        rfl
    _ = nfc xs ++
      ((canonicalOrder ds).foldl Composing.step ⟨[], some d, []⟩).finish := by
        rw [canonicalOrder_starter_cons hd, List.foldl_cons,
          Composing.step_starter hready hd htaken, Composing.foldl_step_behind,
          Composing.finish_behind, List.reverse_reverse]
        rfl
    _ = nfc xs ++ nfc ys := by
        rw [nfc_eq ys, compose, hys, canonicalOrder_starter_cons hd,
          List.foldl_cons, hfirst]

/-- The decomposed text does not begin with a mark. -/
def BeginsWithStarter (cs : List Char) : Prop :=
  ∀ d ∈ (cs.flatMap decompose).head?, combiningClass d = 0

/-- Decomposition brings no mark to the front of a text that it has not had
there before, provided that normalization leaves the text as it is. -/
theorem beginsWithStarter_of_nfc {cs : List Char} (hnfc : nfc cs = cs)
    (hcs : ∀ c ∈ cs.head?, combiningClass c = 0) : BeginsWithStarter cs := by
  intro d hd
  obtain ⟨ds, hds⟩ := List.head?_eq_some_iff.mp hd
  by_cases hmark : combiningClass d = 0
  · exact hmark
  · obtain ⟨e, es, hes, he⟩ := canonicalOrder_mark_cons hmark ds
    have hstep : Composing.step ⟨[], none, []⟩ e =
        Composing.behind ⟨[], none, []⟩ [e] := by
      simp [Composing.step, he, Composing.behind]
    have hhead : cs.head? = some e := by
      rw [← hnfc, nfc, hds, hes, List.foldl_cons, hstep,
        Composing.foldl_step_behind, Composing.finish_behind]
      rfl
    exact absurd (hcs e hhead) he

end PredicateLogic.Unicode
