import Mathlib.Data.List.DropRight
import Mathlib.Data.List.Forall2
import PredicateLogic.Proofs.Text.Line
import PredicateLogic.Proofs.Text.Separated
import PredicateLogic.TruthTable.Layout

/-!
# Tables are aligned and can be read back

A line of a table shows the texts of its columns, each filled up with spaces to
the width of its column, and a last text behind a bar. The widths are the same
for all lines, so every column starts at the same offset in all of them and so
does the bar. The truth values are found again at these offsets, if the two
glyphs differ by more than the spaces at their ends.
-/

namespace PredicateLogic.Tabulation

/-!
# Lines
-/

/-- The widths of the columns. -/
def columnWidths (t : Tabulation) (glyphs : Glyphs) : List Nat :=
  t.terms.map (columnWidth glyphs)

/-- What the lines show in turn, the head first: the texts of the columns and
the one behind the bar. -/
def contents (t : Tabulation) (heading : String) (glyphs : Glyphs) :
    List (List String × String) :=
  (t.terms, heading) :: t.rows.map fun r =>
    (r.values.map glyphs.of, glyphs.of r.result)

/-- The texts of the columns, filled up to their widths. -/
def padded (widths : List Nat) (cells : List String) : List (List Char) :=
  (cells.zip widths).map fun (cell, width) => (pad width cell).toList

/-- A line without its line feed. -/
def lineText (widths : List Nat) (cells : List String) (last : String) :
    List Char :=
  [' '].intercalate (padded widths cells) ++ (" │ ".toList ++ last.toList)

variable {widths : List Nat} {cells : List String} {last heading : String}
  {glyphs : Glyphs} {t : Tabulation}

theorem line_eq (widths : List Nat) (cells : List String) (last : String) :
    line widths cells last =
      String.ofList (lineText widths cells last) ++ "\n" := by
  rw [← String.toList_inj]
  simp [line, lineText, padded, String.toList_intercalate, Function.comp_def]

theorem render_eq (t : Tabulation) (heading : String) (glyphs : Glyphs) :
    t.render heading glyphs =
      Text.unlines ((t.contents heading glyphs).map fun content =>
        String.ofList
          (lineText (t.columnWidths glyphs) content.1 content.2)) := by
  rw [← Text.join_map_lineFeed, List.map_map, contents, List.map_cons,
    String.join_cons, List.map_map]
  simp [render, line_eq, columnWidths, Function.comp_def]

/-!
# Columns
-/

/-- The offset of the bar, with the space in front of it. -/
def barOffset (widths : List Nat) : Nat :=
  partOffset widths widths.length - 1

/-- A line shows the texts of its columns, each at the offset of the column and
filled up with spaces to its width, and behind the bar the last text. -/
structure Shows (widths : List Nat) (line : List Char) (cells : List String)
    (last : String) :
    Prop where
  columns : ∀ i cell width, cells[i]? = some cell → widths[i]? = some width →
    (line.drop (partOffset widths i)).take width =
      cell.toList ++ List.replicate (width - cell.length) ' '
  bar : ∃ before, line = before ++ (" │ ".toList ++ last.toList) ∧
    before.length = barOffset widths

/-- Every text has a column of its own and is not longer than its width. -/
abbrev Fits (cells : List String) (widths : List Nat) : Prop :=
  List.Forall₂ (fun cell width => cell.length ≤ width) cells widths

theorem toList_pad (width : Nat) (cell : String) :
    (pad width cell).toList =
      cell.toList ++ List.replicate (width - cell.length) ' ' := by
  simp [pad]

theorem lengths_padded (h : Fits cells widths) :
    (padded widths cells).map List.length = widths := by
  induction h with
  | nil => rfl
  | @cons cell width cells widths hle _ ih =>
      have hpad : (pad width cell).toList.length = width := by
        rw [toList_pad, List.length_append, String.length_toList,
          List.length_replicate]
        omega
      rw [padded, List.zip_cons_cons, List.map_cons, List.map_cons, hpad,
        ← padded, ih]

theorem lineText_shows (h : Fits cells widths) (last : String) :
    Shows widths (lineText widths cells last) cells last := by
  have hlengths := lengths_padded h
  refine ⟨fun i cell width hcell hwidth => ?_, _, rfl, ?_⟩
  · have hzip : (cells.zip widths)[i]? = some (cell, width) :=
      List.getElem?_zip_eq_some.mpr ⟨hcell, hwidth⟩
    have hpart : (padded widths cells)[i]? = some (pad width cell).toList := by
      rw [padded, List.getElem?_map, hzip]
      rfl
    have hlength : (pad width cell).toList.length = width := by
      rw [← hlengths, List.getElem?_map, hpart] at hwidth
      exact Option.some.inj hwidth
    have hprefix : (pad width cell).toList <+: (lineText widths cells last).drop
        (partOffset ((padded widths cells).map List.length) i) :=
      prefix_drop_intercalate hpart _
    rw [hlengths, List.prefix_iff_eq_take, hlength] at hprefix
    rw [← hprefix, toList_pad]
  · rw [length_intercalate, hlengths, barOffset, ← List.length_map List.length,
      hlengths]

/-- The columns are wide enough for the terms. -/
theorem fits_terms (t : Tabulation) (glyphs : Glyphs) :
    Fits t.terms (t.columnWidths glyphs) := by
  rw [Fits, columnWidths, List.forall₂_map_right_iff, List.forall₂_same]
  intro term _
  exact Nat.le_trans (Nat.le_max_left _ _) (Nat.le_max_left _ _)

theorem length_of_le_columnWidth (glyphs : Glyphs) (value : Bool)
    (term : String) :
    (glyphs.of value).length ≤ columnWidth glyphs term := by
  cases value with
  | true => exact Nat.le_trans (Nat.le_max_right _ _) (Nat.le_max_left _ _)
  | false => exact Nat.le_max_right _ _

/-- The columns are wide enough for the values of a row, if there is one value
for each term. -/
theorem fits_values {values : List Bool} (h : values.length = t.terms.length) :
    Fits (values.map glyphs.of) (t.columnWidths glyphs) := by
  rw [Fits, columnWidths, List.forall₂_map_left_iff, List.forall₂_map_right_iff,
    List.forall₂_iff_zip]
  exact ⟨h, fun {value term} _ => length_of_le_columnWidth glyphs value term⟩

/-!
# Line feeds
-/

theorem lineFeed_not_mem_padded (h : ∀ cell ∈ cells, '\n' ∉ cell.toList) :
    ∀ part ∈ padded widths cells, '\n' ∉ part := by
  intro part hpart hmem
  obtain ⟨⟨cell, width⟩, hzip, rfl⟩ := List.mem_map.mp hpart
  have hpad : '\n' ∈ (pad width cell).toList := hmem
  rw [toList_pad, List.mem_append] at hpad
  rcases hpad with hcell | hfill
  · exact h cell (List.of_mem_zip hzip).1 hcell
  · exact absurd (List.eq_of_mem_replicate hfill) (by decide)

theorem lineFeed_not_mem_lineText (hcells : ∀ cell ∈ cells, '\n' ∉ cell.toList)
    (hlast : '\n' ∉ last.toList) : '\n' ∉ lineText widths cells last := by
  intro hmem
  have hbar : '\n' ∉ " │ ".toList := by decide
  rw [lineText, List.mem_append, List.mem_append] at hmem
  rcases hmem with hcolumns | hend | hend
  · obtain ⟨part, hpart, hin⟩ := (mem_intercalate (by decide)).mp hcolumns
    exact lineFeed_not_mem_padded hcells part hpart hin
  · exact hbar hend
  · exact hlast hend

theorem lineFeed_not_mem_of (hyes : '\n' ∉ glyphs.yes.toList)
    (hno : '\n' ∉ glyphs.no.toList) (value : Bool) :
    '\n' ∉ (glyphs.of value).toList := by
  cases value with
  | true => exact hyes
  | false => exact hno

/-!
# Reading a table back
-/

/-- The characters without the spaces at their end. -/
def trimSpaces (cs : List Char) : List Char :=
  cs.rdropWhile (· == ' ')

/-- The truth value that a text shows, whatever spaces are at its end. -/
def valueOf (glyphs : Glyphs) (shown : List Char) : Bool :=
  trimSpaces shown == trimSpaces glyphs.yes.toList

/-- The row that a line shows in columns of the given widths. -/
def rowOf (glyphs : Glyphs) (widths : List Nat) (line : List Char) : Row where
  values := widths.mapIdx fun i width =>
    valueOf glyphs ((line.drop (partOffset widths i)).take width)
  result := valueOf glyphs (line.drop (barOffset widths + " │ ".length))

/-- The rows in the text of a table with the given terms. Its head is passed
over, and so is the empty text behind its last line feed. -/
def rowsOf (glyphs : Glyphs) (terms : List String) (text : String) : List Row :=
  (text.toList.splitOn '\n').tail.dropLast.map
    (rowOf glyphs (terms.map (columnWidth glyphs)))

theorem trimSpaces_append_replicate (cs : List Char) (n : Nat) :
    trimSpaces (cs ++ List.replicate n ' ') = trimSpaces cs := by
  induction n with
  | zero => rw [List.replicate_zero, List.append_nil]
  | succ n ih =>
      rw [List.replicate_succ', ← List.append_assoc, trimSpaces,
        List.rdropWhile_concat_pos _ _ _ (by decide), ← trimSpaces, ih]

theorem valueOf_of
    (h : trimSpaces glyphs.yes.toList ≠ trimSpaces glyphs.no.toList)
    (value : Bool) (n : Nat) :
    valueOf glyphs ((glyphs.of value).toList ++ List.replicate n ' ') =
      value := by
  rw [valueOf, trimSpaces_append_replicate]
  cases value with
  | true => exact beq_self_eq_true _
  | false => exact beq_eq_false_iff_ne.mpr h.symm

/-- The row of a line is found again in its columns and behind its bar. -/
theorem Shows.rowOf
    (h : trimSpaces glyphs.yes.toList ≠ trimSpaces glyphs.no.toList) {r : Row}
    (hlength : r.values.length = widths.length) {line : List Char}
    (hshows : Shows widths line (r.values.map glyphs.of) (glyphs.of r.result)) :
    Tabulation.rowOf glyphs widths line = r := by
  have hvalues : (Tabulation.rowOf glyphs widths line).values = r.values := by
    refine List.ext_getElem (by simp [Tabulation.rowOf, hlength])
      fun i hi hvalue => ?_
    have hwidth : i < widths.length := hlength ▸ hvalue
    have hcell :
        (r.values.map glyphs.of)[i]? = some (glyphs.of r.values[i]) := by
      rw [List.getElem?_map, List.getElem?_eq_getElem hvalue]
      rfl
    simp only [Tabulation.rowOf, List.getElem_mapIdx]
    rw [hshows.columns i _ _ hcell (List.getElem?_eq_getElem hwidth)]
    exact valueOf_of h _ _
  have hresult : (Tabulation.rowOf glyphs widths line).result = r.result := by
    obtain ⟨before, hline, hbefore⟩ := hshows.bar
    have hbar :
        barOffset widths + " │ ".length = (before ++ " │ ".toList).length := by
      rw [List.length_append, hbefore, String.length_toList]
    rw [Tabulation.rowOf, hbar, hline, ← List.append_assoc, List.drop_left]
    simpa using valueOf_of h r.result 0
  cases hr : Tabulation.rowOf glyphs widths line
  rw [hr] at hvalues hresult
  exact congrArg₂ Row.mk hvalues hresult

/-!
# Whole tables
-/

theorem contents_fit (hrows : ∀ r ∈ t.rows, r.values.length = t.terms.length) :
    ∀ content ∈ t.contents heading glyphs,
      Fits content.1 (t.columnWidths glyphs) := by
  intro content hcontent
  rcases List.mem_cons.mp hcontent with rfl | hrow
  · exact fits_terms t glyphs
  · obtain ⟨r, hr, rfl⟩ := List.mem_map.mp hrow
    exact fits_values (hrows r hr)

theorem lineFeed_not_mem_contents
    (hterms : ∀ term ∈ t.terms, '\n' ∉ term.toList)
    (hheading : '\n' ∉ heading.toList) (hyes : '\n' ∉ glyphs.yes.toList)
    (hno : '\n' ∉ glyphs.no.toList) :
    ∀ content ∈ t.contents heading glyphs,
      '\n' ∉ lineText widths content.1 content.2 := by
  intro content hcontent
  rcases List.mem_cons.mp hcontent with rfl | hrow
  · exact lineFeed_not_mem_lineText hterms hheading
  · obtain ⟨r, _, rfl⟩ := List.mem_map.mp hrow
    have hglyphs := lineFeed_not_mem_of hyes hno
    refine lineFeed_not_mem_lineText (fun cell hcell => ?_) (hglyphs r.result)
    obtain ⟨value, _, rfl⟩ := List.mem_map.mp hcell
    exact hglyphs value

/-- A table is laid out in one line for its head and one for each row in turn,
and all of them show their texts at the same offsets. If the glyphs differ by
more than the spaces at their ends, the rows are read back. -/
theorem render_aligned (t : Tabulation) (heading : String) (glyphs : Glyphs)
    (hrows : ∀ r ∈ t.rows, r.values.length = t.terms.length)
    (hterms : ∀ term ∈ t.terms, '\n' ∉ term.toList)
    (hheading : '\n' ∉ heading.toList) (hyes : '\n' ∉ glyphs.yes.toList)
    (hno : '\n' ∉ glyphs.no.toList) :
    ∃ lines, (t.render heading glyphs).toList.splitOn '\n' = lines ++ [[]] ∧
      List.Forall₂ (fun line content =>
        Shows (t.columnWidths glyphs) line content.1 content.2)
        lines (t.contents heading glyphs) ∧
      (trimSpaces glyphs.yes.toList ≠ trimSpaces glyphs.no.toList →
        rowsOf glyphs t.terms (t.render heading glyphs) = t.rows) := by
  let widths := t.columnWidths glyphs
  let shown (content : List String × String) : List Char :=
    lineText widths content.1 content.2
  have hfit : ∀ content ∈ t.contents heading glyphs,
      Fits content.1 (t.columnWidths glyphs) :=
    contents_fit hrows
  have hsplit : (t.render heading glyphs).toList.splitOn '\n' =
      (t.contents heading glyphs).map shown ++ [[]] := by
    rw [render_eq, Text.splitOn_unlines, List.map_map]
    · simp [shown, widths, Function.comp_def]
    · intro line hline
      obtain ⟨content, hcontent, rfl⟩ := List.mem_map.mp hline
      rw [String.toList_ofList]
      exact lineFeed_not_mem_contents hterms hheading hyes hno content hcontent
  refine ⟨_, hsplit, ?_, fun hglyphs => ?_⟩
  · rw [List.forall₂_map_left_iff, List.forall₂_same]
    intro content hcontent
    exact lineText_shows (hfit content hcontent) content.2
  · rw [rowsOf, hsplit, contents, List.map_cons, List.cons_append,
      List.tail_cons, List.dropLast_concat, List.map_map, List.map_map]
    refine (List.map_congr_left fun r hr => ?_).trans (List.map_id _)
    have hlength : r.values.length = (t.columnWidths glyphs).length := by
      rw [hrows r hr, columnWidths, List.length_map]
    exact (lineText_shows (fits_values (hrows r hr)) (glyphs.of r.result)).rowOf
      hglyphs hlength

/-- A table whose columns have different widths, because the texts in them are
wider than one of the terms. -/
theorem render_aligned_wide :
    let t : Tabulation :=
      ⟨["länger", "b"], [⟨[false, true], true⟩, ⟨[true, true], false⟩]⟩
    let glyphs : Glyphs := ⟨"ja ", "né"⟩
    ∃ lines, (t.render "länger ∧ b" glyphs).toList.splitOn '\n' =
      lines ++ [[]] ∧
      List.Forall₂ (fun line content => Shows [6, 3] line content.1 content.2)
        lines (t.contents "länger ∧ b" glyphs) ∧
      rowsOf glyphs t.terms (t.render "länger ∧ b" glyphs) = t.rows := by
  intro t glyphs
  obtain ⟨lines, hsplit, hshows, hrows⟩ :=
    render_aligned t "länger ∧ b" glyphs (by decide)
      (by decide) (by decide) (by decide) (by decide)
  have hwidths : t.columnWidths glyphs = [6, 3] := by decide
  rw [hwidths] at hshows
  exact ⟨lines, hsplit, hshows, hrows (by decide)⟩

end PredicateLogic.Tabulation
