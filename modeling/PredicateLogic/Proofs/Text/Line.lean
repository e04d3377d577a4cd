import PredicateLogic.Text.Line

/-!
# The lines of a text

`Text.IsLine above line below` says that `line` is a whole line of the text that
consists of the three parts. The line with the number of line feeds above it is
this line, except that a carriage return before its line feed counts as part of
the line end.
-/

namespace PredicateLogic.Text

/-- A line between the lines above it, which have all come to an end, and the
rest of the text from its own line feed on. -/
structure IsLine (above line below : List Char) : Prop where
  above_ends : above = [] ∨ above.getLast? = some '\n'
  unbroken : '\n' ∉ line
  below_starts : below = [] ∨ below.head? = some '\n'

/-- The carriage return that is part of the line end between a line and what is
below. -/
def lineReturn (line below : List Char) : List Char :=
  if below.head? = some '\n' ∧ line.getLast? = some '\r' then ['\r'] else []

theorem afterLineFeed?_cons_of_ne {c : Char} (hc : c ≠ '\n') (cs : List Char) :
    afterLineFeed? (c :: cs) = afterLineFeed? cs := by
  simp [afterLineFeed?, hc]

theorem lineAt_succ_cons_of_ne {c : Char} (hc : c ≠ '\n') (n : Nat)
    (cs : List Char) :
    lineAt (n + 1) (c :: cs) = lineAt (n + 1) cs := by
  rw [lineAt, lineAt, afterLineFeed?_cons_of_ne hc]

theorem lineAt_succ_lineFeed (n : Nat) (cs : List Char) :
    lineAt (n + 1) ('\n' :: cs) = lineAt n cs := by
  simp [lineAt, afterLineFeed?]

/-- Behind lines that have all come to an end, the next line is counted by their
line feeds. -/
theorem lineAt_count {above : List Char}
    (h : above = [] ∨ above.getLast? = some '\n') (cs : List Char) :
    lineAt (above.count '\n') (above ++ cs) = firstLine cs := by
  induction above with
  | nil => rfl
  | cons c above ih =>
      have hend : (c :: above).getLast? = some '\n' :=
        h.resolve_left (List.cons_ne_nil _ _)
      by_cases hc : c = '\n'
      · subst hc
        have habove : above = [] ∨ above.getLast? = some '\n' := by
          cases above with
          | nil => exact .inl rfl
          | cons d ds => exact .inr (by rwa [List.getLast?_cons_cons] at hend)
        rw [List.count_cons_self, List.cons_append, lineAt_succ_lineFeed,
          ih habove]
      · -- The line goes on, so some line feed is still to come.
        cases above with
        | nil => exact absurd (Option.some.inj hend) hc
        | cons d ds =>
            rw [List.getLast?_cons_cons] at hend
            have hpos : 0 < (d :: ds).count '\n' :=
              List.count_pos_iff.mpr (List.mem_of_getLast? hend)
            obtain ⟨n, hn⟩ :=
              Nat.exists_eq_add_one_of_ne_zero (Nat.ne_of_gt hpos)
            have hnext := ih (.inr hend)
            rw [List.count_cons_of_ne hc, List.cons_append, hn,
              lineAt_succ_cons_of_ne hc, ← hn]
            exact hnext

variable {above line below : List Char}

/-- A text goes on with the rest of its line. -/
theorem exists_line_end (cs : List Char) :
    ∃ behind below, cs = behind ++ below ∧ '\n' ∉ behind ∧
      (below = [] ∨ below.head? = some '\n') := by
  let test : Char → Bool := (· != '\n')
  refine ⟨cs.takeWhile test, cs.dropWhile test,
    List.takeWhile_append_dropWhile.symm, ?_, ?_⟩
  · intro hmem
    exact absurd (List.all_eq_true.mp List.all_takeWhile _ hmem) (by decide)
  · have hhead := List.head?_dropWhile_not test cs
    cases hdrop : cs.dropWhile test with
    | nil => exact .inl rfl
    | cons c rest =>
        rw [hdrop] at hhead
        right
        simpa [test] using hhead

theorem IsLine.ne_lineFeed (h : IsLine above line below) :
    ∀ c ∈ line, (c != '\n') = true := by
  intro c hc
  refine bne_iff_ne.mpr ?_
  rintro rfl
  exact h.unbroken hc

theorem IsLine.takeWhile (h : IsLine above line below) :
    (line ++ below).takeWhile (· != '\n') = line := by
  rw [List.takeWhile_append_of_pos h.ne_lineFeed]
  rcases h.below_starts with rfl | hbelow
  · simp
  · obtain ⟨rest, rfl⟩ := List.head?_eq_some_iff.mp hbelow
    simp

theorem IsLine.afterLineFeed? (h : IsLine above line below) :
    Text.afterLineFeed? (line ++ below) = below.tail? := by
  rw [Text.afterLineFeed?, List.dropWhile_append_of_pos h.ne_lineFeed]
  rcases h.below_starts with rfl | hbelow
  · rfl
  · obtain ⟨rest, rfl⟩ := List.head?_eq_some_iff.mp hbelow
    rfl

/-- The first line is shown without the carriage return of its line end. -/
theorem IsLine.firstLine (h : IsLine above line below) :
    Text.firstLine (line ++ below) ++ lineReturn line below = line := by
  rw [Text.firstLine, h.takeWhile, h.afterLineFeed?, lineReturn]
  rcases h.below_starts with rfl | hbelow
  · simp
  · obtain ⟨rest, rfl⟩ := List.head?_eq_some_iff.mp hbelow
    by_cases hreturn : line.getLast? = some '\r'
    · obtain ⟨shown, rfl⟩ := List.getLast?_eq_some_iff.mp hreturn
      simp
    · simp [hreturn]

/-- Every whole line is found by the number of line feeds above it. -/
theorem IsLine.lineAt (h : IsLine above line below) :
    Text.lineAt (above.count '\n') (above ++ (line ++ below)) ++
      lineReturn line below = line := by
  rw [lineAt_count h.above_ends, h.firstLine]

/-!
# Texts put together from lines
-/

/-- The text of some lines, each with a line feed behind it. -/
def unlines : List String → String
  | [] => ""
  | line :: lines => line ++ "\n" ++ unlines lines

theorem join_map_lineFeed (lines : List String) :
    String.join (lines.map (· ++ "\n")) = unlines lines := by
  induction lines with
  | nil => rfl
  | cons line lines ih => rw [List.map_cons, String.join_cons, ih, unlines]

theorem splitOn_unlines {lines : List String}
    (h : ∀ line ∈ lines, '\n' ∉ line.toList) :
    (unlines lines).toList.splitOn '\n' = lines.map String.toList ++ [[]] := by
  induction lines with
  | nil => rfl
  | cons line lines ih =>
      have hline := h line List.mem_cons_self
      have hlines := ih fun other hother =>
        h other (List.mem_cons_of_mem line hother)
      have hfeed : "\n".toList = ['\n'] := rfl
      rw [unlines, String.toList_append,
        String.toList_append, hfeed, List.append_assoc, List.singleton_append,
        List.splitOn_append_cons_self_of_not_mem hline, hlines]
      rfl

/-- Numbers do not break lines. -/
theorem not_mem_toString {c : Char} (hc : c.isDigit = false) (n : Nat) :
    c ∉ (toString n).toList := by
  intro hmem
  have hdigit := Nat.isDigit_of_mem_toDigits (by decide) (by decide)
    (by simpa using hmem : c ∈ Nat.toDigits 10 n)
  rw [hc] at hdigit
  exact Bool.noConfusion hdigit

end PredicateLogic.Text
