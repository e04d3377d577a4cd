import PredicateLogic.Text.Offset

/-!
# Cutting a text

A text is cut at a byte offset exactly where its characters before the cut make
up that many bytes, and a span covers the characters between two such cuts. An
offset within the text at which there is no cut lies inside a character.
-/

namespace PredicateLogic

namespace Text

theorem moveBytes?_eq_some_iff {n : Nat}
    {before after first second : List Char} :
    moveBytes? n before after = some (first, second) ↔
      ∃ moved, after = moved ++ second ∧ first = before.reverse ++ moved ∧
        size moved = n := by
  induction after generalizing n before with
  | nil =>
      cases n with
      | zero =>
          simp only [moveBytes?, Option.some.injEq, Prod.mk.injEq]
          constructor
          · rintro ⟨rfl, rfl⟩
            exact ⟨[], rfl, by simp, rfl⟩
          · rintro ⟨moved, hmoved, rfl, -⟩
            obtain ⟨rfl, rfl⟩ := List.append_eq_nil_iff.mp hmoved.symm
            simp
      | succ n =>
          simp only [moveBytes?, reduceCtorEq, false_iff]
          rintro ⟨moved, hmoved, -, hsize⟩
          rw [(List.append_eq_nil_iff.mp hmoved.symm).1] at hsize
          simp at hsize
  | cons c after ih =>
      have hpos := c.utf8Size_pos
      cases n with
      | zero =>
          simp only [moveBytes?, Option.some.injEq, Prod.mk.injEq]
          constructor
          · rintro ⟨rfl, rfl⟩
            exact ⟨[], rfl, by simp, rfl⟩
          · rintro ⟨moved, hmoved, rfl, hsize⟩
            cases moved with
            | nil => exact ⟨by simp, hmoved⟩
            | cons d moved =>
                have := d.utf8Size_pos
                simp only [size_cons] at hsize
                omega
      | succ n =>
          rw [moveBytes?]
          split
          · next hle =>
            rw [ih]
            constructor
            · rintro ⟨moved, rfl, rfl, hsize⟩
              exact ⟨c :: moved, rfl, by simp, by rw [size_cons]; omega⟩
            · rintro ⟨moved, hmoved, rfl, hsize⟩
              cases moved with
              | nil => simp at hsize
              | cons d moved =>
                  obtain ⟨rfl, rfl⟩ := List.cons.inj hmoved
                  rw [size_cons] at hsize
                  exact ⟨moved, rfl, by simp, by omega⟩
          · next hle =>
            simp only [reduceCtorEq, false_iff]
            rintro ⟨moved, hmoved, -, hsize⟩
            cases moved with
            | nil => simp at hsize
            | cons d moved =>
                obtain ⟨rfl, -⟩ := List.cons.inj hmoved
                rw [size_cons] at hsize
                omega

/-- A text is cut where the characters before the cut have as many bytes as
asked for. -/
theorem splitAtByte?_eq_some_iff {n : Nat} {cs first second : List Char} :
    splitAtByte? n cs = some (first, second) ↔
      cs = first ++ second ∧ size first = n := by
  rw [splitAtByte?, moveBytes?_eq_some_iff]
  constructor
  · rintro ⟨moved, rfl, rfl, hsize⟩
    exact ⟨rfl, hsize⟩
  · rintro ⟨rfl, hsize⟩
    exact ⟨first, rfl, rfl, hsize⟩

theorem slice?_append (before part after : List Char) :
    slice? ⟨size before, size before + size part⟩ (before ++ (part ++ after)) =
      some part := by
  have hbefore : splitAtByte? (size before) (before ++ (part ++ after)) =
      some (before, part ++ after) := splitAtByte?_eq_some_iff.mpr ⟨rfl, rfl⟩
  have hpart : splitAtByte? (size part) (part ++ after) = some (part, after) :=
    splitAtByte?_eq_some_iff.mpr ⟨rfl, rfl⟩
  simp [slice?, hbefore, hpart]

/-- The offset lies inside a character of the text. -/
def Inside (cs : List Char) (n : Nat) : Prop :=
  ∃ before c after, cs = before ++ c :: after ∧ size before < n ∧
    n < size before + c.utf8Size

theorem exists_cut_or_inside {cs : List Char} {n : Nat} (h : n ≤ size cs) :
    (∃ first second, cs = first ++ second ∧ size first = n) ∨ Inside cs n := by
  induction cs generalizing n with
  | nil =>
      obtain rfl := Nat.le_zero.mp h
      exact .inl ⟨[], [], rfl, rfl⟩
  | cons c cs ih =>
      rcases Nat.eq_zero_or_pos n with rfl | hpos
      · exact .inl ⟨[], c :: cs, rfl, rfl⟩
      rcases Nat.lt_or_ge n c.utf8Size with hlt | hge
      · exact .inr ⟨[], c, cs, rfl, hpos, by rwa [size_nil, Nat.zero_add]⟩
      rw [size_cons] at h
      rcases ih (n := n - c.utf8Size) (by omega) with
        ⟨first, second, rfl, hsize⟩ |
        ⟨before, d, after, rfl, hlow, hhigh⟩
      · exact .inl ⟨c :: first, second, rfl, by rw [size_cons]; omega⟩
      · refine .inr ⟨c :: before, d, after, rfl, ?_, ?_⟩
          <;> rw [size_cons] <;> omega

theorem Inside.append {cs : List Char} {n : Nat} (h : Inside cs n)
    (first : List Char) :
    Inside (first ++ cs) (size first + n) := by
  obtain ⟨before, c, after, rfl, hlow, hhigh⟩ := h
  refine ⟨first ++ before, c, after, by rw [List.append_assoc], ?_, ?_⟩
    <;> rw [size_append] <;> omega

/-- A cut does not lie inside a character. -/
theorem not_inside_cut (first second : List Char) :
    ¬Inside (first ++ second) (size first) := by
  rintro ⟨before, c, after, happend, hlow, hhigh⟩
  rcases List.append_eq_append_iff.mp happend with
    ⟨other, rfl, -⟩ | ⟨other, rfl, hother⟩
  · rw [size_append] at hlow
    omega
  · cases other with
    | nil => simp at hlow
    | cons d other =>
        obtain ⟨rfl, -⟩ := List.cons.inj hother
        rw [size_append, size_cons] at hhigh
        omega

end Text

end PredicateLogic
