import PredicateLogic.Formula.Outline
import PredicateLogic.Proofs.Canonical.Written
import PredicateLogic.Proofs.Formula.Subformula
import PredicateLogic.Proofs.Text.Line
import PredicateLogic.Proofs.Text.Separated

/-!
# Outlines lose nothing

The lines of an outline, split at their spaces, say of every node how deep it
lies, of which kind it is, its label and its span (`Outline.Entry`). What lies
below a node is what follows it up to the next entry that is no deeper, so the
entries determine the formula, and the text of an outline determines them as
long as names have no spaces.
-/

namespace PredicateLogic

theorem Connective.ofSpelling?_glyph (op : Connective) :
    Connective.ofSpelling? [op.glyph] = some op := by
  cases op <;> rfl

theorem Connective.glyph_injective : Function.Injective Connective.glyph := by
  intro op op' h
  have hspelled := op.ofSpelling?_glyph
  rw [h, op'.ofSpelling?_glyph] at hspelled
  exact (Option.some.inj hspelled).symm

theorem Quantifier.ofSpelling?_glyph (q : Quantifier) :
    Quantifier.ofSpelling? [q.glyph] = some q := by
  cases q <;> rfl

theorem Quantifier.glyph_injective : Function.Injective Quantifier.glyph := by
  intro q q' h
  have hspelled := q.ofSpelling?_glyph
  rw [h, q'.ofSpelling?_glyph] at hspelled
  exact (Option.some.inj hspelled).symm

namespace Outline

/-!
# Lines
-/

/-- What a line of an outline says of a node. -/
structure Entry where
  depth : Nat
  kind : String
  label : String
  span : Span

/-- The text of a span, put together from what stands before, between and behind
its two dots. -/
def spanText (span : Span) : List Char :=
  ['.'].intercalate ['[' :: (toString span.start).toList, [],
    (toString span.stop).toList ++ [']']]

theorem splitOn_spanText (span : Span) : (spanText span).splitOn '.' =
    ['[' :: (toString span.start).toList, [], (toString span.stop).toList ++
      [']']] := by
  have hdigits := Text.not_mem_toString (c := '.') (by decide)
  have hstart := hdigits span.start
  have hstop := hdigits span.stop
  refine List.splitOn_intercalate '.' (fun piece hpiece => ?_)
    (List.cons_ne_nil _ _)
  simp only [List.mem_cons, List.not_mem_nil, or_false] at hpiece
  rcases hpiece with rfl | rfl | rfl <;> simp_all

theorem spanText_injective : Function.Injective spanText := by
  have hnumber :
      ∀ {n m : Nat}, (toString n).toList = (toString m).toList → n = m := by
    intro n m h
    have hdigits : Nat.toDigits 10 n = Nat.toDigits 10 m := by simpa using h
    rw [← Nat.ofDigitChars_ten_toDigits (n := n), hdigits,
      Nat.ofDigitChars_ten_toDigits]
  rintro ⟨start, stop⟩ ⟨start', stop'⟩ h
  have hpieces := splitOn_spanText ⟨start, stop⟩
  rw [h, splitOn_spanText] at hpieces
  simp only [List.cons.injEq, List.append_cancel_right_eq, true_and, and_true]
    at hpieces
  obtain ⟨hstart, hstop⟩ := hpieces
  rw [hnumber hstart, hnumber hstop]

theorem not_mem_spanText {c : Char} (hdigit : c.isDigit = false)
    (hsign : c ∉ ['[', '.', ']']) (span : Span) : c ∉ spanText span := by
  have hstart := Text.not_mem_toString hdigit span.start
  have hstop := Text.not_mem_toString hdigit span.stop
  simp_all [spanText, List.intercalate_cons_cons]

namespace Entry

variable {e : Entry}

/-- The pieces between the spaces of the line. In front of the kind there are as
many empty ones as the line is indented. -/
def pieces (e : Entry) : List (List Char) :=
  List.replicate (2 * e.depth) [] ++
    [e.kind.toList, e.label.toList, spanText e.span]

/-- The line, without its line feed. -/
def text (e : Entry) : String :=
  String.ofList ([' '].intercalate e.pieces)

theorem line_eq (e : Entry) :
    line e.depth e.kind e.label e.span = e.text ++ "\n" := by
  have htext : ∀ text : String, toString text = text := fun _ => rfl
  rw [← String.toList_inj, String.toList_append, text, String.toList_ofList,
    pieces, intercalate_replicate_nil_append _ (List.cons_ne_nil _ _)]
  simp [line, spanText, List.intercalate_cons_cons, htext]

theorem pieces_injective : Function.Injective pieces := by
  rintro ⟨depth, kind, label, span⟩ ⟨depth', kind', label', span'⟩ h
  have hlength := congrArg List.length h
  simp only [pieces, List.length_append, List.length_replicate,
    List.length_cons] at hlength
  obtain rfl : depth = depth' := by omega
  have hnode := List.append_cancel_left h
  simp only [List.cons.injEq, and_true] at hnode
  obtain ⟨hkind, hlabel, hspan⟩ := hnode
  rw [String.toList_injective hkind, String.toList_injective hlabel,
    spanText_injective hspan]

/-- Neither the kind nor the label has white space. -/
def Unbroken (e : Entry) : Prop :=
  ∀ c ∈ e.kind.toList ++ e.label.toList, Unicode.isWhiteSpace c = false

theorem Unbroken.not_mem_pieces (h : e.Unbroken) {c : Char}
    (hc : c ∈ [' ', '\n']) :
    ∀ piece ∈ e.pieces, c ∉ piece := by
  have hsigns : Unicode.isWhiteSpace c = true ∧ c.isDigit = false ∧
      c ∉ ['[', '.', ']'] := by
    rcases List.mem_pair.mp hc with rfl | rfl <;> decide
  obtain ⟨hblank, hdigit, hsign⟩ := hsigns
  have hnode : c ∉ e.kind.toList ++ e.label.toList := by
    intro hmem
    exact Bool.noConfusion (hblank.symm.trans (h c hmem))
  rw [List.mem_append, not_or] at hnode
  obtain ⟨hkind, hlabel⟩ := hnode
  intro piece hpiece
  simp only [pieces, List.mem_append, List.mem_replicate, List.mem_cons,
    List.not_mem_nil, or_false] at hpiece
  rcases hpiece with ⟨-, rfl⟩ | rfl | rfl | rfl
  · exact List.not_mem_nil
  · exact hkind
  · exact hlabel
  · exact not_mem_spanText hdigit hsign e.span

theorem Unbroken.splitOn_text (h : e.Unbroken) :
    e.text.toList.splitOn ' ' = e.pieces := by
  rw [text, String.toList_ofList]
  exact List.splitOn_intercalate ' ' (h.not_mem_pieces (by decide))
    (by simp [pieces])

theorem Unbroken.not_mem_text (h : e.Unbroken) : '\n' ∉ e.text.toList := by
  rw [text, String.toList_ofList, mem_intercalate (by decide)]
  rintro ⟨piece, hpiece, hmem⟩
  exact h.not_mem_pieces (by decide) piece hpiece hmem

end Entry

theorem linesAll_eq_flatMap (depth : Nat) (os : List Outline) :
    linesAll depth os = os.flatMap (lines depth) := by
  induction os with
  | nil => rfl
  | cons o os ih => rw [linesAll, ih, List.flatMap_cons]

end Outline

namespace Formula

open Outline (Entry)

variable {f g : Formula} {depth : Nat} {rest rest' : List Entry}

/-!
# Entries
-/

/-- The entry of a node. -/
def entry (depth : Nat) (f : Formula) : Entry :=
  ⟨depth, f.kind, f.label, f.span⟩

/-- The entries of a formula and of everything below it. -/
def entries (depth : Nat) (f : Formula) : List Entry :=
  (f.preorder depth).map fun (d, g) => g.entry d

theorem entries_eq (depth : Nat) (f : Formula) :
    f.entries depth =
      f.entry depth :: f.children.flatMap (entries (depth + 1)) := by
  rw [entries, preorder_eq, List.map_cons, List.map_flatMap]
  rfl

theorem outlineAll_eq_map (as : List Formula) :
    outlineAll as = as.map outline := by
  induction as with
  | nil => rfl
  | cons a as ih => rw [outlineAll, ih, List.map_cons]

theorem outline_eq (f : Formula) :
    f.outline = .node f.kind f.label f.span (f.children.map outline) := by
  cases f <;> simp [outline, children, outlineAll_eq_map]

/-- There is one line for each entry. -/
theorem lines_outline (f : Formula) :
    ∀ depth, f.outline.lines depth = (f.entries depth).map fun e =>
      e.text ++ "\n" := by
  induction f using uniform with
  | step f ih =>
      intro depth
      rw [outline_eq, Outline.lines, Outline.linesAll_eq_flatMap, entries_eq,
        List.map_cons, List.flatMap_map, List.map_flatMap, ← Entry.line_eq]
      exact congrArg _ (List.flatMap_congr fun a ha => ih a ha (depth + 1))

theorem render_outline (f : Formula) :
    f.outline.render = Text.unlines ((f.entries 0).map Entry.text) := by
  rw [Outline.render, lines_outline, ← Text.join_map_lineFeed, List.map_map]
  rfl

/-!
# From the entries back to the formula
-/

/-- A node is determined by what its line says and by what lies below it. -/
theorem eq_of_node (hkind : f.kind = g.kind) (hlabel : f.label = g.label)
    (hspan : f.span = g.span) (hchildren : f.children = g.children) :
    f = g := by
  cases f with
  | symbol x s => cases g <;> simp_all [kind, label, span, children]
  | negation a s => cases g <;> simp_all [kind, label, span, children]
  | binary op a b s =>
      cases g <;> simp_all [kind, label, span, children]
      exact Connective.glyph_injective hlabel
  | quantified q x a s =>
      cases g <;> simp_all [kind, label, span, children]
      exact Quantifier.glyph_injective hlabel.1
  | call x as s => cases g <;> simp_all [kind, label, span, children]

/-- The next entry, if there is one, lies no deeper. -/
def Returns (depth : Nat) (rest : List Entry) : Prop :=
  ∀ e ∈ rest.head?, e.depth ≤ depth

theorem Returns.flatMap (h : Returns depth rest) (as : List Formula) :
    Returns (depth + 1) (as.flatMap (entries (depth + 1)) ++ rest) := by
  cases as with
  | nil => exact fun e he => Nat.le_succ_of_le (h e he)
  | cons a as =>
      rw [List.flatMap_cons, entries_eq]
      intro e he
      obtain rfl : a.entry (depth + 1) = e := by simpa using he
      exact Nat.le_refl _

theorem not_returns_cons (b : Formula) (bs : List Formula) (rest : List Entry) :
    ¬Returns depth ((b :: bs).flatMap (entries (depth + 1)) ++ rest) := by
  rw [List.flatMap_cons, entries_eq]
  intro h
  exact Nat.not_succ_le_self depth (h (b.entry (depth + 1)) rfl)

/-- The entries of a formula end where the next one lies no deeper, and they are
those of no other formula. -/
def Decodes (f : Formula) : Prop :=
  ∀ {depth g rest rest'}, Returns depth rest → Returns depth rest' →
    f.entries depth ++ rest = g.entries depth ++ rest' → f = g ∧ rest = rest'

theorem decodes_children {as bs : List Formula} (ih : ∀ a ∈ as, a.Decodes)
    (hrest : Returns depth rest) (hrest' : Returns depth rest')
    (h : as.flatMap (entries (depth + 1)) ++ rest =
      bs.flatMap (entries (depth + 1)) ++ rest') :
    as = bs ∧ rest = rest' := by
  induction as generalizing bs with
  | nil =>
      rw [List.flatMap_nil, List.nil_append] at h
      cases bs with
      | nil => exact ⟨rfl, h⟩
      | cons b bs => exact absurd (h ▸ hrest) (not_returns_cons b bs rest')
  | cons a as ihas =>
      have has : ∀ b ∈ as, b.Decodes := fun b hb =>
        ih b (List.mem_cons_of_mem a hb)
      cases bs with
      | nil =>
          rw [List.flatMap_nil, List.nil_append] at h
          exact absurd (h ▸ hrest') (not_returns_cons a as rest)
      | cons b bs =>
          rw [List.flatMap_cons, List.flatMap_cons, List.append_assoc,
            List.append_assoc] at h
          obtain ⟨rfl, hmore⟩ :=
            ih a List.mem_cons_self (hrest.flatMap as) (hrest'.flatMap bs) h
          obtain ⟨rfl, rfl⟩ := ihas has hmore
          exact ⟨rfl, rfl⟩

theorem decodes (f : Formula) : f.Decodes := by
  induction f using uniform with
  | step f ih =>
      intro depth g rest rest' hrest hrest' h
      rw [entries_eq, entries_eq, List.cons_append, List.cons_append,
        List.cons.injEq] at h
      obtain ⟨hnode, hbelow⟩ := h
      simp only [entry, Entry.mk.injEq, true_and] at hnode
      obtain ⟨hkind, hlabel, hspan⟩ := hnode
      obtain ⟨hchildren, rfl⟩ := decodes_children ih hrest hrest' hbelow
      exact ⟨eq_of_node hkind hlabel hspan hchildren, rfl⟩

theorem entries_injective (depth : Nat) :
    Function.Injective (entries depth) := by
  intro f g h
  have hend : Returns depth [] := by simp [Returns]
  exact (f.decodes hend hend (congrArg (· ++ []) h)).1

/-!
# From the text back to the entries
-/

theorem names_subset_of_mem_children {a : Formula} (ha : a ∈ f.children) :
    a.names ⊆ f.names := by
  intro x hx
  cases f with
  | symbol _ _ => exact absurd ha List.not_mem_nil
  | negation b _ =>
      obtain rfl := List.mem_singleton.mp ha
      exact hx
  | binary _ b c _ =>
      rw [names, List.mem_append]
      rcases List.mem_pair.mp ha with rfl | rfl
      · exact .inl hx
      · exact .inr hx
  | quantified _ _ b _ =>
      obtain rfl := List.mem_singleton.mp ha
      exact List.mem_cons_of_mem _ hx
  | call _ as _ => exact List.mem_cons_of_mem _ (mem_namesAll.mpr ⟨a, ha, hx⟩)

theorem unbroken_entry (hf : ∀ x ∈ f.names, IsIdentifier x.toList)
    (depth : Nat) :
    (f.entry depth).Unbroken := by
  have hname : ∀ x ∈ f.names, ∀ c ∈ x.toList, Unicode.isWhiteSpace c = false :=
    fun x hx => isWhiteSpace_of_isIdentifier (hf x hx)
  have hkind : (f.kind.toList.all fun c => !Unicode.isWhiteSpace c) = true := by
    cases f <;> simp only [kind] <;> decide
  intro c hc
  rcases List.mem_append.mp hc with hc | hc
  · simpa using List.all_eq_true.mp hkind c hc
  · cases f with
    | symbol x _ | call x _ _ => exact hname x List.mem_cons_self c hc
    | negation _ _ =>
        obtain rfl : c = negationGlyph := by simpa [entry, label] using hc
        decide
    | binary op _ _ _ =>
        obtain rfl : c = op.glyph := by simpa [entry, label] using hc
        cases op <;> decide
    | quantified q x _ _ =>
        have hlabel : c = q.glyph ∨ c ∈ x.toList := by
          simpa [entry, label] using hc
        rcases hlabel with rfl | hc
        · cases q <;> decide
        · exact hname x List.mem_cons_self c hc

theorem unbroken_entries (hf : ∀ x ∈ f.names, IsIdentifier x.toList) :
    ∀ depth, ∀ e ∈ f.entries depth, e.Unbroken := by
  induction f using uniform with
  | step f ih =>
      intro depth
      rw [entries_eq, List.forall_mem_cons]
      refine ⟨unbroken_entry hf depth, fun e he => ?_⟩
      obtain ⟨a, ha, hea⟩ := List.mem_flatMap.mp he
      exact ih a ha (fun x hx => hf x (names_subset_of_mem_children ha hx))
        (depth + 1) e hea

/-- The text of an outline is split into lines, and the lines into the pieces of
their entries. -/
theorem map_pieces_entries (hf : ∀ x ∈ f.names, IsIdentifier x.toList) :
    ((f.outline.render.toList.splitOn '\n').dropLast.map fun line =>
      line.splitOn ' ') =
      (f.entries 0).map Entry.pieces := by
  have hunbroken := unbroken_entries hf 0
  rw [render_outline, Text.splitOn_unlines, List.dropLast_concat, List.map_map,
    List.map_map]
  · exact List.map_congr_left fun e he => (hunbroken e he).splitOn_text
  · intro line hline
    obtain ⟨e, he, rfl⟩ := List.mem_map.mp hline
    exact (hunbroken e he).not_mem_text

/-- Formulas with the same outline are equal, together with the spans of all
their parts. -/
theorem render_outline_eq_iff (hf : ∀ x ∈ f.names, IsIdentifier x.toList)
    (hg : ∀ x ∈ g.names, IsIdentifier x.toList) :
    f.outline.render = g.outline.render ↔ f = g := by
  constructor
  · intro h
    have hpieces := map_pieces_entries hf
    rw [h, map_pieces_entries hg] at hpieces
    exact (entries_injective 0 (Entry.pieces_injective.list_map hpieces)).symm
  · exact congrArg fun f : Formula => f.outline.render

/-- The outlines of `f(a(b))` and `f(a(),b)` have the same lines but for the
depth of `b`. -/
theorem render_outline_eq_iff_depth :
    let f : Formula := .call "f" [.call "a" [.symbol "b" ⟨4, 5⟩] ⟨2, 6⟩] ⟨0, 7⟩
    let g : Formula :=
      .call "f" [.call "a" [] ⟨2, 6⟩, .symbol "b" ⟨4, 5⟩] ⟨0, 7⟩
    ((∀ x ∈ f.names, IsIdentifier x.toList) ∧
      ∀ x ∈ g.names, IsIdentifier x.toList) ∧
      (f.outline.render = g.outline.render ↔ f = g) ∧
        f.outline.render ≠ g.outline.render := by
  intro f g
  have hnames : ∀ x ∈ ["f", "a", "b"], IsIdentifier x.toList := by
    decide +kernel
  have hiff := render_outline_eq_iff (f := f) (g := g) hnames hnames
  have hne : f ≠ g := by simp [f, g]
  exact ⟨⟨hnames, hnames⟩, hiff, fun h => hne (hiff.mp h)⟩

end Formula

end PredicateLogic
