import PredicateLogic.Proofs.Text.Line
import PredicateLogic.Proofs.Text.Location

/-!
# From lines and columns back to offsets

`Text.offsetAt?` finds the offset of a line and a column, by splitting the text
at its line feeds. It takes the location of a span back to where the span
starts, so different starts have different locations.
-/

namespace PredicateLogic

namespace Text

/-- The offset of a column in a line, both counted from one. The column behind
the last character of a line is one of its columns. -/
def offsetAt? (cs : List Char) (line column : Nat) : Option Nat :=
  let lines := cs.splitOn '\n'
  lines[line - 1]?.bind fun text =>
    if column - 1 ≤ text.length then
      some (size ((lines.take (line - 1)).flatMap (· ++ ['\n'])) +
        size (text.take (column - 1)))
    else none

theorem length_splitOn (cs : List Char) :
    (cs.splitOn '\n').length = cs.count '\n' + 1 := by
  induction cs with
  | nil => rfl
  | cons c cs ih =>
      rw [List.splitOn_cons_eq_if_modifyHead, List.count_cons]
      split
      · rw [List.length_cons, ih]
      · rw [List.length_modifyHead, ih, Nat.add_zero]

/-- Every line but the last one had a line feed behind it. -/
theorem flatMap_splitOn (cs : List Char) :
    (cs.splitOn '\n').flatMap (· ++ ['\n']) = cs ++ ['\n'] := by
  induction cs with
  | nil => rfl
  | cons c cs ih =>
      obtain ⟨line, lines, hlines⟩ :=
        List.exists_cons_of_ne_nil (List.splitOn_ne_nil '\n' cs)
      rw [List.splitOn_cons_eq_if_modifyHead, List.cons_append, ← ih, hlines]
      split
      · next hc =>
        obtain rfl := beq_iff_eq.mp hc
        rfl
      · rfl

variable {above line below : List Char}

/-- The lines above a line are split off first. -/
theorem IsLine.splitOn (h : IsLine above line below) :
    ∃ lines rest, (above ++ (line ++ below)).splitOn '\n' =
      lines ++ line :: rest ∧
      lines.length = above.count '\n' ∧
        lines.flatMap (· ++ ['\n']) = above := by
  have hline : ∃ rest, (line ++ below).splitOn '\n' = line :: rest := by
    rcases h.below_starts with rfl | hbelow
    · exact ⟨[], by rw [List.append_nil, List.splitOn_eq_singleton h.unbroken]⟩
    · obtain ⟨next, rfl⟩ := List.head?_eq_some_iff.mp hbelow
      exact ⟨_, List.splitOn_append_cons_self_of_not_mem h.unbroken next⟩
  obtain ⟨rest, hrest⟩ := hline
  rcases h.above_ends with rfl | habove
  · exact ⟨[], rest, hrest, rfl, rfl⟩
  · obtain ⟨ended, rfl⟩ := List.getLast?_eq_some_iff.mp habove
    refine ⟨ended.splitOn '\n', rest, ?_, ?_, flatMap_splitOn ended⟩
    · rw [List.append_assoc, List.singleton_append,
        List.splitOn_append_cons_self, hrest]
    · rw [length_splitOn, List.count_append, List.count_singleton_self]

/-- The columns of a line are counted from its beginning. -/
theorem offsetAt?_eq_some {within behind : List Char}
    (h : IsLine above (within ++ behind) below) :
    offsetAt? (above ++ (within ++ behind ++ below)) (above.count '\n' + 1)
      (within.length + 1) =
      some (size (above ++ within)) := by
  obtain ⟨lines, rest, hsplit, hlength, hlines⟩ := h.splitOn
  have hcolumn : within.length ≤ (within ++ behind).length := by
    rw [List.length_append]
    exact Nat.le_add_right _ _
  simp only [offsetAt?, hsplit, Nat.add_sub_cancel, ← hlength,
    List.getElem?_append_right (Nat.le_refl _), Nat.sub_self,
    List.getElem?_cons_zero,
    Option.bind_some, List.take_left, hlines, size_append]
  exact if_pos hcolumn

/-- Behind any part of a text, the number of line feeds and the length of the
last line say where it ends. -/
theorem offsetAt?_of_cut (before rest : List Char) :
    offsetAt? (before ++ rest) (before.count '\n' + 1)
      ((before.reverse.takeWhile (· != '\n')).length + 1) =
        some (size before) := by
  obtain ⟨above, within, rfl, habove, hwithin, hcount, hlength⟩ :=
    Location.exists_last_line before
  obtain ⟨behind, below, rfl, hbehind, hbelow⟩ := exists_line_end rest
  have hline : IsLine above (within ++ behind) below :=
    ⟨habove, by simp [hwithin, hbehind], hbelow⟩
  rw [hcount, hlength, List.append_assoc, ← List.append_assoc within]
  exact offsetAt?_eq_some hline

end Text

/-- The span with its ends moved into a text of the given size, the start
first. -/
def Span.clamp (span : Span) (total : Nat) : Span :=
  ⟨min span.start total, max (min span.start total) (min span.stop total)⟩

namespace Location

variable {source : List Char} {span : Span} {loc : Location}

/-- A span that has a location starts and ends at cuts of the text. -/
theorem exists_cuts (h : ofSpan? source span = some loc) :
    ∃ before marked after, source = before ++ (marked ++ after) ∧
      (span.clamp (Text.size source)).start = Text.size before ∧
      (span.clamp (Text.size source)).stop =
        Text.size before + Text.size marked := by
  simp only [ofSpan?, Option.bind_eq_bind, Option.bind_eq_some_iff] at h
  obtain ⟨⟨before, rest⟩, hbefore, ⟨marked, after⟩, hmarked, -⟩ := h
  obtain ⟨hsource, hstart⟩ := Text.splitAtByte?_eq_some_iff.mp hbefore
  obtain ⟨hrest, hstop⟩ := Text.splitAtByte?_eq_some_iff.mp hmarked
  dsimp only at hrest
  refine ⟨before, marked, after, by rw [hsource, hrest], hstart.symm, ?_⟩
  rw [hstart, hstop, Span.clamp]
  exact (Nat.add_sub_cancel' (Nat.le_max_left _ _)).symm

/-- A span has a location unless one of its ends, moved into the text, lies
inside a character. -/
theorem ofSpan?_eq_none_iff (source : List Char) (span : Span) :
    ofSpan? source span = none ↔
      Text.Inside source (span.clamp (Text.size source)).start ∨
        Text.Inside source (span.clamp (Text.size source)).stop := by
  constructor
  · intro hnone
    rcases Text.exists_cut_or_inside
        (Nat.min_le_right span.start (Text.size source)) with
      ⟨before, rest, hsource, hbefore⟩ | hinside
    · have hsize : Text.size source = Text.size before + Text.size rest := by
        rw [hsource, Text.size_append]
      have hstop :
          max (Text.size before) (min span.stop (Text.size source)) -
              Text.size before ≤ Text.size rest := by
        omega
      right
      rw [Span.clamp, ← hbefore]
      rcases Text.exists_cut_or_inside hstop with
        ⟨marked, after, hrest, hmarked⟩ | hinside
      · rw [ofSpan?_eq_some (hsource.trans (by rw [hrest])) hbefore.symm
          (by omega)] at hnone
        exact absurd hnone (by simp)
      · have h := hinside.append before
        rwa [← hsource, Nat.add_sub_cancel' (Nat.le_max_left _ _)] at h
    · exact .inl hinside
  · intro hinside
    rw [Option.eq_none_iff_forall_ne_some]
    intro loc hloc
    obtain ⟨before, marked, after, hsource, hbefore, hmarked⟩ :=
      exists_cuts hloc
    rw [hbefore, hmarked, ← Text.size_append, hsource] at hinside
    rcases hinside with h | h
    · exact Text.not_inside_cut before (marked ++ after) h
    · rw [← List.append_assoc] at h
      exact Text.not_inside_cut (before ++ marked) after h

/-- The characters up to the first line feed end with the text or before a line
feed. -/
theorem exists_covered (marked : List Char) :
    ∃ covered rest, marked = covered ++ rest ∧ '\n' ∉ covered ∧
      (rest = [] ∨ rest.head? = some '\n') ∧ marked.takeWhile (· != '\n') =
        covered := by
  obtain ⟨covered, rest, rfl, hcovered, hrest⟩ := Text.exists_line_end marked
  have hline : Text.IsLine [] covered rest := ⟨.inl rfl, hcovered, hrest⟩
  exact ⟨covered, rest, rfl, hcovered, hrest, hline.takeWhile⟩

/-- What a location says of a span whose ends lie in the text: its line and
column lead back to where the span starts, and its length counts the characters
from there up to the end of the span or up to a line feed before it, but is at
least one. -/
structure Describes (loc : Location) (source : List Char) (span : Span) :
    Prop where
  line_pos : 0 < loc.line
  column_pos : 0 < loc.column
  offset : Text.offsetAt? source loc.line loc.column = some span.start
  length : ∃ before covered rest, source = before ++ (covered ++ rest) ∧
    Text.size before = span.start ∧ '\n' ∉ covered ∧
    (Text.size (before ++ covered) = span.stop ∨
      Text.size (before ++ covered) ≤ span.stop ∧ rest.head? = some '\n') ∧
    loc.length = max 1 covered.length

theorem describes_of_ofSpan? (h : ofSpan? source span = some loc) :
    loc.Describes source (span.clamp (Text.size source)) := by
  obtain ⟨before, marked, after, hsource, hstart, hstop⟩ := exists_cuts h
  have hclamped : max (Text.size before) (min span.stop (Text.size source)) =
      Text.size before + Text.size marked := by
    rw [← hstop]
    exact congrArg (fun start => max start _) hstart.symm
  obtain rfl :=
    Option.some.inj ((ofSpan?_eq_some hsource hstart hclamped).symm.trans h)
  refine ⟨Nat.succ_pos _, Nat.succ_pos _, ?_, ?_⟩
  · rw [hstart, hsource]
    exact Text.offsetAt?_of_cut before _
  · obtain ⟨covered, rest, hmarked, hunbroken, hrest, htake⟩ :=
      exists_covered marked
    refine ⟨before, covered, rest ++ after,
      by rw [hsource, hmarked, List.append_assoc], hstart.symm, hunbroken, ?_,
      by rw [htake]⟩
    rw [hstop, hmarked, Text.size_append, Text.size_append]
    rcases hrest with rfl | hrest
    · exact .inl rfl
    · refine .inr ⟨by omega, ?_⟩
      rw [List.head?_append, hrest]
      rfl

/-- A span has a location unless one of its ends lies inside a character, after
the ends have been moved into the text. The location then describes the moved
span, and spans that start elsewhere have another line or another column. -/
theorem ofSpan?_identifies (source : List Char) :
    (∀ span, ofSpan? source span = none ↔
      Text.Inside source (span.clamp (Text.size source)).start ∨
        Text.Inside source (span.clamp (Text.size source)).stop) ∧
    (∀ span loc, ofSpan? source span = some loc →
      loc.Describes source (span.clamp (Text.size source))) ∧
    ∀ span span' loc loc', ofSpan? source span = some loc →
      ofSpan? source span' = some loc' →
      (span.clamp (Text.size source)).start ≠
        (span'.clamp (Text.size source)).start →
      ¬(loc.line = loc'.line ∧ loc.column = loc'.column) := by
  refine ⟨ofSpan?_eq_none_iff source, fun span loc => describes_of_ofSpan?, ?_⟩
  rintro span span' loc loc' h h' hne ⟨hline, hcolumn⟩
  have hoffset := (describes_of_ofSpan? h).offset
  rw [hline, hcolumn, (describes_of_ofSpan? h').offset] at hoffset
  exact hne (Option.some.inj hoffset).symm

/-- In `é` and `∀x` on two lines, a span from the `x` to beyond the end, one
that starts with the text and ends on the second line, and one with both ends
inside the quantifier. -/
theorem ofSpan?_identifies_second_line :
    let source := "é\n∀x".toList
    (ofSpan? source ⟨6, 99⟩ = some ⟨2, 2, 1⟩ ∧
      Describes ⟨2, 2, 1⟩ source ⟨6, 7⟩) ∧
      (ofSpan? source ⟨0, 6⟩ = some ⟨1, 1, 1⟩ ∧ ¬(2 = 1 ∧ 2 = 1)) ∧
      Text.Inside source 4 ∧ ofSpan? source ⟨4, 5⟩ = none := by
  intro source
  obtain ⟨hnone, hsome, hne⟩ := ofSpan?_identifies source
  have hlast : ofSpan? source ⟨6, 99⟩ = some ⟨2, 2, 1⟩ := by decide +kernel
  have hfirst : ofSpan? source ⟨0, 6⟩ = some ⟨1, 1, 1⟩ := by decide +kernel
  have hinside : Text.Inside source 4 :=
    ⟨['é', '\n'], '∀', ['x'], rfl, by decide, by decide⟩
  exact ⟨⟨hlast, hsome _ _ hlast⟩,
    ⟨hfirst, hne _ _ _ _ hlast hfirst (by decide)⟩, hinside,
    (hnone ⟨4, 5⟩).mpr (.inl hinside)⟩

end Location

end PredicateLogic
