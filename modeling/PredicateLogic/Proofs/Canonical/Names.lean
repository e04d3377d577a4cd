import PredicateLogic.Proofs.Canonical.RoundTrip
import PredicateLogic.Proofs.Grammar.Recovery

/-!
# The names of formulas that have been read

Every name in a formula that has been read is one of the tokens of its text.
What is cut out of a normalized text for a name is normalized as well, because
no mark follows it. So canonical text can be read wherever some text has been.
-/

namespace PredicateLogic

open Unicode

/-- The names in a formula are among the tokens that denote it. -/
theorem Derives.mem_of_mem_names {l : Level} {n : Nat} {ts : List Token}
    {f : Formula} (h : Derives l n ts f) :
    ∀ x ∈ f.names, .identifier x ∈ ts := by
  induction h with
  | symbol => simp [Formula.names]
  | emptyCall => simp [Formula.names, Formula.namesAll]
  | @call n y args s _ _ ih =>
      intro x hx
      rw [Formula.names, List.mem_cons] at hx
      rcases hx with rfl | hx
      · exact List.mem_cons_self
      · obtain ⟨f, hf, hxf⟩ := Formula.mem_namesAll.mp hx
        obtain ⟨a, ha, rfl⟩ := List.mem_map.mp hf
        have hxa := ih a ha x hxf
        have hxargs :
            .identifier x ∈ [Token.comma].intercalate (args.map Prod.fst) :=
          (mem_intercalate (by simp)).mpr ⟨a.1, List.mem_map_of_mem ha, hxa⟩
        simp [hxargs]
  | group _ ih => exact fun x hx => by simp [ih x hx]
  | negation _ ih => exact fun x hx => by simp [ih x hx]
  | quantified _ ih =>
      intro x hx
      rw [Formula.names, List.mem_cons] at hx
      rcases hx with rfl | hx
      · simp
      · simp [ih x hx]
  | next _ _ ihf ihg =>
      intro x hx
      rw [Formula.names, List.mem_append] at hx
      rcases hx with hx | hx
      · exact List.mem_append_left _ (ihf x hx)
      · exact List.mem_append_right _ (List.mem_cons_of_mem _ (ihg x hx))
  | first _ ih | junction _ _ ih | implication _ _ ih | formula _ ih => exact ih

/-- Every token of a text is spelled somewhere in it. -/
theorem Scan.exists_spelling {cs rest : List Char} {ts : List Token} {t : Token}
    (h : Scan cs ts rest) (ht : t ∈ ts) :
    ∃ before s after, cs = before ++ (s ++ after) ∧ t.Spells s ∧
      t.EndsBefore after := by
  induction h with
  | here => exact absurd ht List.not_mem_nil
  | @blank c cs ts rest _ _ ih =>
      obtain ⟨before, s, after, rfl, hs⟩ := ih ht
      exact ⟨c :: before, s, after, rfl, hs⟩
  | @token u s' cs ts rest hu hends _ ih =>
      rcases List.mem_cons.mp ht with rfl | ht
      · exact ⟨[], s', cs, rfl, hu, hends⟩
      · obtain ⟨before, s, after, rfl, hs⟩ := ih ht
        exact ⟨s' ++ before, s, after, by rw [List.append_assoc], hs⟩

/-- A name among the tokens of a normalized text is normalized. -/
theorem Scan.isName {cs : List Char} {ts : List Token} {x : String}
    (h : Scan cs ts []) (hnfc : nfc cs = cs) (hx : .identifier x ∈ ts) :
    IsName x := by
  obtain ⟨before, s, after, rfl, ⟨rfl, hident⟩, hends⟩ := h.exists_spelling hx
  refine ⟨hident, nfc_of_part hnfc ?_ (.inr fun c hc =>
    combiningClass_of_not_continue (hends c hc))⟩
  obtain ⟨c, ds, hxs, hstart, -⟩ := hident
  rw [hxs]
  intro d hd
  obtain rfl := Option.some.inj hd
  exact combiningClass_of_isIdentifierStart hstart

namespace Formula

variable {text : String} {f : Formula}

theorem isName_of_parse (h : parse text = .ok f) : ∀ x ∈ f.names, IsName x := by
  obtain ⟨ts, hscan, hts, -⟩ := accepts_of_parse h
  exact fun x hx => hscan.isName (nfc_nfc _) (hts.mem_of_mem_names x hx)

/-- Whatever has been read from some text is read from its canonical text. -/
theorem exists_parse_canonical (h : parse text = .ok f) :
    ∃ g, parse f.canonical = .ok g ∧ g.same f = true := by
  obtain ⟨ts, -, -, hheight⟩ := accepts_of_parse h
  exact parse_of_accepts
    (accepts_canonical (isName_of_parse h) (nesting_lt_of_parse h) hheight)

end Formula

end PredicateLogic
