import PredicateLogic.Proofs.Text.Offset
import PredicateLogic.Text.Location

/-!
# Where a location lies

A span between two cuts of a text has a location. Its line and column say where
the text before the span ends: behind the lines that have come to an end in it,
and behind the characters of the line that has not.
-/

namespace PredicateLogic.Location

/-- The location is where the text `before` ends: `above` are the lines before,
`within` is what the line itself begins with. -/
def LiesBehind (loc : Location) (before : List Char) : Prop :=
  ∃ above within, before = above ++ within ∧
    (above = [] ∨ above.getLast? = some '\n') ∧
    '\n' ∉ within ∧ loc.line = above.count '\n' + 1 ∧
      loc.column = within.length + 1

/-- A text is cut behind its last line feed. -/
theorem exists_last_line (before : List Char) :
    ∃ above within, before = above ++ within ∧
      (above = [] ∨ above.getLast? = some '\n') ∧
      '\n' ∉ within ∧ before.count '\n' = above.count '\n' ∧
      (before.reverse.takeWhile (· != '\n')).length = within.length := by
  let test : Char → Bool := (· != '\n')
  have hsplit : before = (before.reverse.dropWhile test).reverse ++
      (before.reverse.takeWhile test).reverse := by
    rw [← List.reverse_append, List.takeWhile_append_dropWhile,
      List.reverse_reverse]
  have hwithin : '\n' ∉ (before.reverse.takeWhile test).reverse := by
    intro hmem
    have htest :=
      List.all_eq_true.mp List.all_takeWhile _ (List.mem_reverse.mp hmem)
    exact absurd htest (by decide)
  refine ⟨_, _, hsplit, ?_, hwithin, ?_, List.length_reverse.symm⟩
  · rw [List.getLast?_reverse, List.reverse_eq_nil_iff]
    have hhead := List.head?_dropWhile_not test before.reverse
    cases hdrop : before.reverse.dropWhile test with
    | nil => exact .inl rfl
    | cons c cs =>
        rw [hdrop] at hhead
        right
        simpa [test] using hhead
  · have hcount := congrArg (List.count '\n') hsplit
    rwa [List.count_append, List.count_eq_zero.mpr hwithin, Nat.add_zero]
      at hcount

variable {source before marked after : List Char} {span : Span}

/-- The ends of a span are moved into the text first. If they are cuts of the
text then, the span has a location. -/
theorem ofSpan?_eq_some (hsource : source = before ++ (marked ++ after))
    (hstart : min span.start (Text.size source) = Text.size before)
    (hstop : max (Text.size before) (min span.stop (Text.size source)) =
      Text.size before + Text.size marked) :
    ofSpan? source span =
      some ⟨before.count '\n' + 1,
        (before.reverse.takeWhile (· != '\n')).length + 1,
        max 1 (marked.takeWhile (· != '\n')).length⟩ := by
  have hbefore : Text.splitAtByte? (Text.size before) source =
      some (before, marked ++ after) :=
    Text.splitAtByte?_eq_some_iff.mpr ⟨hsource, rfl⟩
  have hmarked :
      Text.splitAtByte? (Text.size before + Text.size marked - Text.size before)
      (marked ++ after) = some (marked, after) :=
    Text.splitAtByte?_eq_some_iff.mpr ⟨rfl, (Nat.add_sub_cancel_left _ _).symm⟩
  simp only [ofSpan?, hstart, hstop, hbefore, hmarked, Option.bind_eq_bind,
    Option.bind_some]
  rfl

/-- The location is where the text before the span ends. -/
theorem exists_ofSpan?_of_clamped (span : Span)
    (hsource : source = before ++ (marked ++ after))
    (hstart : min span.start (Text.size source) = Text.size before)
    (hstop : max (Text.size before) (min span.stop (Text.size source)) =
      Text.size before + Text.size marked) :
    ∃ loc, ofSpan? source span = some loc ∧ loc.LiesBehind before ∧
      0 < loc.length := by
  obtain ⟨above, within, hbefore, habove, hwithin, hcount, hlength⟩ :=
    exists_last_line before
  refine ⟨_, ofSpan?_eq_some hsource hstart hstop, ?_,
    Nat.lt_of_lt_of_le Nat.one_pos (Nat.le_max_left _ _)⟩
  exact ⟨above, within, hbefore, habove, hwithin, by rw [hcount],
    by rw [hlength]⟩

/-- A span whose ends are cuts of the text stays as it is. -/
theorem exists_ofSpan? (before marked after : List Char) :
    ∃ loc, ofSpan? (before ++ (marked ++ after))
        ⟨Text.size before, Text.size before + Text.size marked⟩ = some loc ∧
      loc.LiesBehind before := by
  obtain ⟨loc, hloc, hlies, -⟩ := exists_ofSpan?_of_clamped
    ⟨Text.size before, Text.size before + Text.size marked⟩
    (List.append_assoc before marked after)
    (by simp only [Text.size_append]; omega)
    (by simp only [Text.size_append]; omega)
  rw [List.append_assoc] at hloc
  exact ⟨loc, hloc, hlies⟩

end PredicateLogic.Location
