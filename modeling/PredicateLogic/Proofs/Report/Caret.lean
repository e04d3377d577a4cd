import PredicateLogic.Proofs.Text.Line
import PredicateLogic.Proofs.Text.Location
import PredicateLogic.Report.Diagnostic

/-!
# Where the carets stand

An uncoloured diagnostic consists of five lines. The fourth one shows the line
of the source in which the span starts, behind a gutter with its number, and the
fifth one has the carets, behind a margin. The margin is one column wider than
the gutter together with the text before the span. So the carets stand one
column to the right of what they mark.
-/

namespace PredicateLogic

namespace Location

/-- What stands in front of the line of the source. -/
def gutter (loc : Location) : String :=
  loc.lineNumber ++ " " ++ "|" ++ " "

/-- What stands in front of the carets. -/
def margin (loc : Location) : String :=
  " " ++ Text.copies loc.lineNumber.length ' ' ++ " " ++ "|" ++ " " ++
    Text.copies (loc.column - 1) ' '

theorem not_mem_gutter (loc : Location) : '\n' ∉ loc.gutter.toList := by
  have hdigits := Text.not_mem_toString (c := '\n') (by decide) loc.line
  simpa [gutter, lineNumber, Text.copies] using hdigits

theorem not_mem_margin {c : Char} (hblank : c ≠ ' ') (hbar : c ≠ '|')
    (loc : Location) :
    c ∉ loc.margin.toList := by
  simp [margin, Text.copies, hblank, hbar]

/-- The margin is one column wider than what stands in front of the marked
text. -/
theorem length_margin {loc : Location} {within : List Char}
    (hcolumn : loc.column = within.length + 1) :
    loc.margin.toList.length = (loc.gutter.toList ++ within).length + 1 := by
  have hone : " ".length = 1 ∧ "|".length = 1 := ⟨rfl, rfl⟩
  simp only [margin, gutter, Text.copies, hcolumn, List.length_append,
    String.length_toList, String.length_append, String.length_ofList,
    List.length_replicate, hone]
  omega

end Location

/-- The lines of an uncoloured diagnostic. -/
theorem renderDiagnostic_eq (origin source title : String) (loc : Location) :
    renderDiagnostic false origin source title loc =
      Text.unlines
        ["error:" ++ " " ++ title,
          "-->" ++ " " ++ s!"{origin}:{loc.line}:{loc.column}",
          " " ++ Text.copies loc.lineNumber.length ' ' ++ " " ++ "|",
          loc.gutter ++
            String.ofList (Text.lineAt (loc.line - 1) source.toList),
          loc.margin ++ Text.copies loc.length '^'] := by
  have hpaint : ∀ style text, Text.paint false style text = text :=
    fun _ _ => rfl
  unfold renderDiagnostic
  simp only [hpaint, Text.unlines, Location.gutter, Location.margin,
    Location.underline, String.append_assoc, String.append_empty]

theorem splitOn_renderDiagnostic {origin source title : String} {loc : Location}
    (horigin : '\n' ∉ origin.toList) (htitle : '\n' ∉ title.toList)
    (hshown : '\n' ∉ Text.lineAt (loc.line - 1) source.toList) :
    ∃ top place bar,
      (renderDiagnostic false origin source title loc).toList.splitOn '\n' =
      [top, place, bar, loc.gutter.toList ++
        Text.lineAt (loc.line - 1) source.toList,
        loc.margin.toList ++ List.replicate loc.length '^', []] := by
  have hdigits : ∀ n : Nat, '\n' ∉ Nat.toDigits 10 n := fun n => by
    simpa using Text.not_mem_toString (c := '\n') (by decide) n
  refine ⟨("error:" ++ " " ++ title).toList,
    ("-->" ++ " " ++ s!"{origin}:{loc.line}:{loc.column}").toList,
    (" " ++ Text.copies loc.lineNumber.length ' ' ++ " " ++ "|").toList, ?_⟩
  rw [renderDiagnostic_eq, Text.splitOn_unlines]
  · simp only [List.map_cons, List.map_nil, String.toList_append,
      String.toList_ofList, Text.copies]
    rfl
  · have hmargin := loc.not_mem_margin (c := '\n') (by decide) (by decide)
    have hgutter := loc.not_mem_gutter
    have htext : ∀ text : String, toString text = text := fun _ => rfl
    simp [Text.copies, htext, horigin, htitle, hshown, hdigits,
      hmargin, hgutter]

/-- A diagnostic shows the line of the source in which the span starts, without
the carriage return of its line end, and has as many carets as the location
says. The carets stand one column to the right of where the span starts in the
line above them. -/
theorem renderDiagnostic_carets {origin source title : String}
    {before marked after : List Char} {span : Span}
    (horigin : '\n' ∉ origin.toList) (htitle : '\n' ∉ title.toList)
    (hsource : source.toList = before ++ (marked ++ after))
    (hstart : min span.start (Text.size source.toList) = Text.size before)
    (hstop : max (Text.size before) (min span.stop (Text.size source.toList)) =
      Text.size before + Text.size marked) :
    ∃ loc, Location.ofSpan? source.toList span = some loc ∧ 0 < loc.length ∧
      ∃ above within behind below shown, before = above ++ within ∧
        marked ++ after = behind ++ below ∧
        Text.IsLine above (within ++ behind) below ∧
        within ++ behind = shown ++ Text.lineReturn (within ++ behind) below ∧
        ∃ top place bar gutter margin,
          (renderDiagnostic false origin source title loc).toList.splitOn '\n' =
            [top, place, bar, gutter ++ shown,
              margin ++ List.replicate loc.length '^', []] ∧
          '^' ∉ margin ∧ margin.length = (gutter ++ within).length + 1 := by
  obtain ⟨loc, hloc, ⟨above, within, hbefore, habove, hwithin, hline, hcolumn⟩,
    hlength⟩ :=
    Location.exists_ofSpan?_of_clamped span hsource hstart hstop
  obtain ⟨behind, below, hrest, hbehind, hbelow⟩ :=
    Text.exists_line_end (marked ++ after)
  have hisLine : Text.IsLine above (within ++ behind) below :=
    ⟨habove, by simp [hwithin, hbehind], hbelow⟩
  have hcut : source.toList = above ++ (within ++ behind ++ below) := by
    rw [hsource, hbefore, hrest, List.append_assoc, List.append_assoc]
  have hshown := hisLine.lineAt
  rw [← hcut, show above.count '\n' = loc.line - 1 by omega] at hshown
  have hunbroken : '\n' ∉ Text.lineAt (loc.line - 1) source.toList := by
    intro hmem
    refine hisLine.unbroken ?_
    rw [← hshown]
    exact List.mem_append_left _ hmem
  obtain ⟨top, place, bar, hlines⟩ :=
    splitOn_renderDiagnostic horigin htitle hunbroken
  exact ⟨loc, hloc, hlength, above, within, behind, below,
    _, hbefore, hrest, hisLine, hshown.symm, top, place, bar, _, _, hlines,
    loc.not_mem_margin (by decide) (by decide), Location.length_margin hcolumn⟩

theorem renderDiagnostic_carets_second_line :
    ∃ loc, Location.ofSpan? "a ∧\r\n  b(c\r\n".toList ⟨9, 12⟩ = some loc ∧
      0 < loc.length ∧
      ∃ above within behind below shown, "a ∧\r\n  ".toList = above ++ within ∧
        "b(c".toList ++ "\r\n".toList = behind ++ below ∧
        Text.IsLine above (within ++ behind) below ∧
        within ++ behind = shown ++ Text.lineReturn (within ++ behind) below ∧
        ∃ top place bar gutter margin,
          (renderDiagnostic false "<formula>" "a ∧\r\n  b(c\r\n" "arity"
            loc).toList.splitOn '\n' =
            [top, place, bar, gutter ++ shown,
              margin ++ List.replicate loc.length '^', []] ∧
          '^' ∉ margin ∧ margin.length = (gutter ++ within).length + 1 :=
  renderDiagnostic_carets (by decide) (by decide) (by decide)
    (by decide) (by decide)

/-- The caret below `a )` stands in the column behind the parenthesis that it
marks. -/
theorem renderDiagnostic_beside :
    Location.ofSpan? "a )".toList ⟨2, 3⟩ = some ⟨1, 3, 1⟩ ∧
      ∃ top place bar shown carets,
        (renderDiagnostic false "<formula>" "a )" "t" ⟨1, 3, 1⟩).toList.splitOn
          '\n' =
          [top, place, bar, shown, carets, []] ∧
        shown.idxOf ')' = 9 ∧ carets.idxOf '^' = 10 := by
  refine ⟨by decide +kernel, "error: t".toList, "--> <formula>:1:3".toList,
    "      |".toList, "   1 | a )".toList, "      |   ^".toList, ?_,
    by decide, by decide⟩
  decide +kernel

end PredicateLogic
