import PredicateLogic.Proofs.Canonical.Nesting
import PredicateLogic.Proofs.Formula.Subformula
import PredicateLogic.Proofs.Grammar.Acceptance
import PredicateLogic.Proofs.Grammar.Layout

/-!
# What the spans of a formula cover

Every formula below a formula that was read was itself read somewhere, and it is
composed of what it was read from. `ReadIn` says so of one formula. It is
established where a formula is made, `readIn_of_level`, and the readers keep it
of whatever they have read before. `WrittenIn` is what remains of it without the
composition: the span covers a text that writes the formula.
-/

namespace PredicateLogic

namespace Reader

/-- The span of a formula covers a part of the text that writes the formula. -/
def WrittenIn (source : List Char) (g : Formula) : Prop :=
  ∃ p q : Place, p.In source ∧ p.Covers q ∧ g.span = ⟨p.offset, q.offset⟩ ∧
    DerivesOver .formula maxNesting g p.rest q.rest

/-- The formula was read from a part of the text, as it is composed. -/
def ReadIn (source : List Char) (g : Formula) : Prop :=
  ∃ p q : Place, p.In source ∧ p.Covers q ∧ p.Composes g q ∧
    DerivesOver .formula maxNesting g p.rest q.rest

variable {source : List Char} {inner : Option (Reader Formula)} {n : Nat}
  {p q : Place} {f : Formula}

theorem ReadIn.writtenIn (h : ReadIn source f) : WrittenIn source f := by
  obtain ⟨p, q, hp, hcovers, hcomposes, hderives⟩ := h
  exact ⟨p, q, hp, hcovers, hcomposes.span_eq, hderives⟩

/-- A formula that is read from all that lies between two places is read there,
also when it was read as a part of another one. -/
theorem readIn_of_level (hn : n < maxNesting) (hp : p.In source)
    (hcovers : p.Covers q) (hcomposes : p.Composes f q)
    (h : DerivesOver f.level n f p.rest q.rest) :
    ReadIn source f := by
  obtain ⟨hheight, ts, hts, hscan⟩ := h
  exact ⟨p, q, hp, hcovers, hcomposes, hheight, ts,
    hts.formula_of_level.mono hn, hscan⟩

/-- The formulas in what is read were themselves read from the text. -/
def Keeps (source : List Char) (read : Reader Formula) : Prop :=
  ∀ p f q, p.In source → (read p).Yields f q →
    ∀ g ∈ f.subformulas, ReadIn source g

/-- What is known of the reader one nesting further in, if there is one. -/
structure KeepsBelow (source : List Char) (inner : Option (Reader Formula))
    (n : Nat) : Prop where
  sound : SoundBelow inner n
  extent : ExtendsBelow inner
  keeps : ∀ read, inner = some read → Keeps source read

theorem nested_keeps (hinner : KeepsBelow source inner n) :
    Keeps source (nested inner) := by
  intro p f q hp h
  obtain ⟨read, hread, heq⟩ := nested_inv h.outcome
  exact hinner.keeps read hread p f q hp (heq ▸ h)

/-!
# Chains
-/

theorem chain_keeps {op : Connective} {read : Reader Formula}
    (hn : n < maxNesting) (hsound : Sound read (.below op) n)
    (hextends : Extends read) (hread : Keeps source read) {p₀ : Place}
    (hp₀ : p₀.In source) :
    ∀ {fuel : Nat} {left : Formula} {p : Place}, p₀.Wraps left p →
      DerivesOver (.chain op) n left p₀.rest p.rest →
      (∀ g ∈ left.subformulas, ReadIn source g) →
      (chain op read p₀.offset fuel left p).Yields f q →
      ∀ g ∈ f.subformulas, ReadIn source g := by
  intro fuel
  induction fuel with
  | zero =>
      intro left p _ _ hleft h
      obtain ⟨rfl, -⟩ := Reading.success_yields_iff.mp h
      exact hleft
  | succ fuel ih =>
      intro left p hwraps hderives hleft h
      rcases chain_inv h.outcome with
        ⟨rfl, -⟩ | ⟨s, ds, b, r, hs, hp, hb, hheight, heq⟩
      · exact hleft
      · rw [heq, Reading.followedBy_yields_iff] at h
        obtain ⟨hdeep, h⟩ := h
        have hbetween :=
          (Place.passes_skipBlanks p).trans (Place.passes_sign _ s.length)
        have hq : (p.skipBlanks.advance s.length).skipBlanks.In source :=
          (hp₀.passes hwraps.covers.reaches.passes).passes hbetween
        have hright := hextends _ b r hb
        have hjoined :=
          joined_sound hs hp hderives (hsound _ b r ⟨hb, hdeep⟩) hheight
        have hextent := joined_extends op hwraps hbetween hright
        have hcomposes := joined_composes op hwraps hbetween hright
        refine ih hextent hjoined
          ((Formula.forall_subformulas_iff _).mpr ⟨?_, ?_⟩) h
        · exact readIn_of_level hn hp₀ hextent.covers hcomposes hjoined
        · intro a ha
          rcases List.mem_pair.mp ha with rfl | rfl
          · exact hleft
          · exact hread _ a r hq ⟨hb, hdeep⟩

theorem chained_keeps {spellings : List Spelling} {read : Reader Formula}
    (hn : n < maxNesting)
    (hsound : ∀ s ∈ spellings, ∀ op, Connective.ofSpelling? s = some op →
      Sound read (.below op) n) (hextends : Extends read)
    (hread : Keeps source read) :
    Keeps source (chained spellings read) := by
  intro p f q hp h
  rcases chained_inv spellings read p with
    heq | ⟨s, hs, op, a, r, hsop, ha, heq⟩
  · exact hread p f q hp (heq ▸ h)
  · rw [heq, Reading.followedBy_yields_iff] at h
    obtain ⟨hdeep, h⟩ := h
    have hbelow := hsound s hs op hsop
    exact chain_keeps hn hbelow hextends hread hp (hextends p a r ha)
      (hbelow p a r ⟨ha, hdeep⟩).first (hread p a r hp ⟨ha, hdeep⟩) h

theorem implication_keeps {read : Reader Formula} (hn : n < maxNesting)
    (hsound : Sound read .operand n) (hextends : Extends read)
    (hread : Keeps source read) :
    Keeps source (implication read) := by
  have hjunction : Keeps source (junction read) := by
    refine chained_keeps hn (fun s hs op hop => ?_) hextends hread
    rw [Level.below, priority_of_junctionSpellings hs hop]
    exact hsound
  refine chained_keeps hn (fun s hs op hop => ?_)
    (chained_extends _ hextends) hjunction
  rw [Level.below, priority_of_implicationSpellings hs hop]
  exact junction_sound hsound

theorem formula_keeps (hn : n ≤ maxNesting)
    (hinner : KeepsBelow source inner n) :
    Keeps source (formula inner) := by
  intro p f q hp h
  obtain ⟨read, hread, heq⟩ := formula_inv h.outcome
  obtain ⟨m, rfl, hsound⟩ := hinner.sound read hread
  exact implication_keeps hn hsound (hinner.extent read hread)
    (hinner.keeps read hread) p f q hp
    (heq ▸ h)

/-!
# Arguments
-/

theorem furtherArguments_keeps (hn : n ≤ maxNesting)
    (hinner : KeepsBelow source inner n) {as : List Formula} :
    ∀ {fuel : Nat} {reversed : List Formula} {p : Place}, p.In source →
      (∀ a ∈ reversed, ∀ g ∈ a.subformulas, ReadIn source g) →
      (furtherArguments inner fuel reversed p).Yields as q →
      ∀ a ∈ as, ∀ g ∈ a.subformulas, ReadIn source g := by
  have hclose : ∀ {reversed : List Formula} {p : Place},
      (∀ a ∈ reversed, ∀ g ∈ a.subformulas, ReadIn source g) →
      (closeArguments reversed p).outcome = some (as, q) →
      ∀ a ∈ as, ∀ g ∈ a.subformulas, ReadIn source g := by
    intro reversed p hreversed h
    obtain ⟨-, rfl, -, -⟩ := closeArguments_inv h
    simpa using hreversed
  intro fuel
  induction fuel with
  | zero =>
      intro reversed p _ hreversed h
      exact hclose hreversed h.outcome
  | succ fuel ih =>
      intro reversed p hp hreversed h
      rcases furtherArguments_inv h.outcome with heq | ⟨a, r, -, ha, heq⟩
      · rw [heq] at h
        exact hclose hreversed h.outcome
      · rw [heq, Reading.followedBy_yields_iff] at h
        obtain ⟨hdeep, h⟩ := h
        have hnext := hp.passes (Place.passes_sign p 1)
        have hextent := (formula_extends hinner.extent).passes ha
        refine ih
          ((hnext.passes hextent).passes (Place.passes_skipBlanks r)) ?_ h
        rw [List.forall_mem_cons]
        exact ⟨formula_keeps hn hinner _ a r hnext ⟨ha, hdeep⟩, hreversed⟩

theorem arguments_keeps (hn : n ≤ maxNesting)
    (hinner : KeepsBelow source inner n) {as : List Formula} (hp : p.In source)
    (h : (arguments inner p).Yields as q) :
    ∀ a ∈ as, ∀ g ∈ a.subformulas, ReadIn source g := by
  rcases arguments_inv inner p with heq | ⟨a, r, ha, heq⟩
  · rw [heq, Reading.followedBy_yields_iff] at h
    obtain ⟨-, rfl, -, -⟩ := closeArguments_inv h.2.outcome
    simp
  · rw [heq, Reading.followedBy_yields_iff] at h
    obtain ⟨hdeep, h⟩ := h
    have hextent := (formula_extends hinner.extent).passes ha
    refine furtherArguments_keeps hn hinner
      ((hp.passes hextent).passes (Place.passes_skipBlanks r)) ?_ h
    simpa using formula_keeps hn hinner p a r hp ⟨ha, hdeep⟩

/-!
# Operands
-/

theorem call_keeps (hn : n < maxNesting) (hinner : KeepsBelow source inner n) :
    Keeps source (call inner) := by
  intro p f q hp h
  have hsound := call_sound hinner.sound p f q h
  have hcovers := (call_extends hinner.extent p f q h.outcome).covers
  have hcomposes := call_composes hinner.extent h.outcome
  rw [Formula.forall_subformulas_iff]
  obtain ⟨x, r, hx, ⟨rfl, rfl⟩ | ⟨as, -, has, rfl, -, heq⟩⟩ :=
    call_inv h.outcome
  · exact ⟨readIn_of_level hn hp hcovers hcomposes hsound,
      by simp [Formula.children]⟩
  · refine ⟨readIn_of_level hn hp hcovers hcomposes hsound, ?_⟩
    rw [heq, Reading.followedBy_yields_iff] at h
    have hr := hp.passes ((identifier_covers hx).reaches.passes.trans
      ((Place.passes_skipBlanks r).trans (Place.passes_sign _ 1)))
    exact arguments_keeps (Nat.le_of_lt hn) hinner hr ⟨has, h.1⟩

theorem group_keeps (hn : n < maxNesting) (hinner : KeepsBelow source inner n) :
    Keeps source (group inner) := by
  intro p f q hp h
  rcases group_inv h.outcome with ⟨first, heq⟩ | ⟨r, hf, -, rfl, heq⟩
  · rw [heq, Reading.followedBy_yields_iff] at h
    exact call_keeps hn hinner p f q hp h.2
  · rw [heq, Reading.followedBy_yields_iff] at h
    exact formula_keeps (Nat.le_of_lt hn) hinner _ f r
      (hp.passes (Place.passes_sign p 1)) ⟨hf, h.1⟩

theorem negation_keeps (hn : n < maxNesting)
    (hinner : KeepsBelow source inner n) {s ds : List Char}
    (hs : s ∈ negationSpellings) (hrest : p.rest = s ++ ds) (hp : p.In source)
    (h : (negation inner p).Yields f q) :
    ∀ g ∈ f.subformulas, ReadIn source g := by
  have hsound := negation_sound hinner.sound hs hrest h
  have hcovers := (negation_extends hinner.extent hs hrest h.outcome).covers
  have hcomposes := negation_composes hinner.extent hs hrest h.outcome
  obtain ⟨a, ha, rfl, -, heq⟩ := negation_inv h.outcome
  rw [heq, Reading.followedBy_yields_iff] at h
  rw [Formula.forall_subformulas_iff]
  refine ⟨readIn_of_level hn hp hcovers hcomposes hsound, ?_⟩
  simp only [Formula.children, List.forall_mem_singleton]
  exact nested_keeps hinner _ a q
    (hp.passes (Place.passes_sign p 1)) ⟨ha, h.1⟩

theorem quantified_keeps (hn : n < maxNesting)
    (hinner : KeepsBelow source inner n) {quantifier : Quantifier}
    {s ds : List Char} (hs : s ∈ Quantifier.spellings)
    (hq : Quantifier.ofSpelling? s = some quantifier) (hrest : p.rest = s ++ ds)
    (hp : p.In source)
    (h : (quantified inner quantifier s.length p).Yields f q) :
    ∀ g ∈ f.subformulas, ReadIn source g := by
  have hsound := quantified_sound hinner.sound hs hq hrest h
  have hcovers :=
    (quantified_extends hinner.extent hs hq hrest h.outcome).covers
  have hcomposes := quantified_composes hinner.extent hs hq hrest h.outcome
  obtain ⟨x, r, a, hx, ha, rfl, -, heq⟩ := quantified_inv h.outcome
  rw [heq, Reading.followedBy_yields_iff] at h
  rw [Formula.forall_subformulas_iff]
  refine ⟨readIn_of_level hn hp hcovers hcomposes hsound, ?_⟩
  have hr :=
    (hp.passes (Place.passes_advance p s.length)).passes (passes_identifier hx)
  simp only [Formula.children, List.forall_mem_singleton]
  exact nested_keeps hinner _ a q hr ⟨ha, h.1⟩

theorem operandWith_keeps (hn : n < maxNesting)
    (hinner : KeepsBelow source inner n) :
    Keeps source (operandWith inner) := by
  intro p f q hp h
  rcases operandWith_inv inner p with ⟨s, hs, ds, hrest, heq⟩ |
    ⟨s, hs, ds, quantifier, hrest, hq, heq⟩ | ⟨-, heq⟩ | heq
  · exact negation_keeps hn hinner hs hrest hp (heq ▸ h)
  · exact quantified_keeps hn hinner hs hq hrest hp (heq ▸ h)
  · exact group_keeps hn hinner p f q hp (heq ▸ h)
  · exact call_keeps hn hinner p f q hp (heq ▸ h)

theorem operandBelow_keeps (source : List Char) (n : Nat)
    (hn : n ≤ maxNesting) :
    KeepsBelow source (operandBelow n) n := by
  have hkeeps : ∀ n read, operandBelow n = some read → n ≤ maxNesting →
      Keeps source read := by
    refine operandBelow_induction fun n ih hn => ?_
    have hinner := fun read h => ih read h (Nat.le_of_succ_le hn)
    exact operandWith_keeps hn
      ⟨operandBelow_sound n, operandBelow_extends n, hinner⟩
  exact ⟨operandBelow_sound n, operandBelow_extends n,
    fun read h => hkeeps n read h hn⟩

/-- Every formula in a formula that is read was itself read from the text. -/
theorem formula_readIn (hp : p.In source)
    (h : (formula (operandBelow maxNesting) p).Yields f q) :
    ∀ g ∈ f.subformulas, ReadIn source g :=
  formula_keeps (Nat.le_refl _)
    (operandBelow_keeps source maxNesting (Nat.le_refl _)) p f q hp h

/-- Every formula in a formula that is read is written in the text. -/
theorem formula_writtenIn (hp : p.In source)
    (h : (formula (operandBelow maxNesting) p).Yields f q) :
    ∀ g ∈ f.subformulas, WrittenIn source g :=
  fun g hg => (formula_readIn hp h g hg).writtenIn

end Reader

theorem Formula.readIn_of_parse {text : String} {f g : Formula}
    (h : parse text = .ok f) (hg : g ∈ f.subformulas) :
    Reader.ReadIn (Unicode.nfc text.toList) g := by
  rw [parse, Session.ofText, Session.read_eq_ok_iff] at h
  obtain ⟨q, hq, -⟩ := h
  have hstart := (Place.in_start (Unicode.nfc text.toList)).passes
    (Place.passes_skipBlanks _)
  exact Reader.formula_readIn hstart hq g hg

end PredicateLogic
