import PredicateLogic.Proofs.Grammar.Outcome
import PredicateLogic.Proofs.Grammar.Stretch

/-!
# How far a formula extends

A reader that reads anything goes over a trimmed stretch of the text, and the
span of what it reads is this stretch, except that parentheses around a whole
formula do not belong to it. `Place.Wraps` says so; it holds of whatever is
read, also of what is given up later and of what is read beyond the bound on
nesting.
-/

namespace PredicateLogic

/-- The formula was read between two places: its span is all that lies between
them, or it stands in parentheses there. -/
inductive Place.Wraps : (p : Place) → (f : Formula) → (q : Place) → Prop
  | bare {p q : Place} {f : Formula} :
      p.Covers q → f.span = ⟨p.offset, q.offset⟩ → Wraps p f q
  | group {p q : Place} {f : Formula} :
      p.startsWith '(' = true → (p.advance 1).skipBlanks.Wraps f q →
      q.skipBlanks.startsWith ')' = true → Wraps p f (q.skipBlanks.advance 1)

theorem Place.Wraps.covers {p q : Place} {f : Formula} (h : p.Wraps f q) :
    p.Covers q := by
  induction h with
  | bare h _ => exact h
  | @group p q f hopening _ hclosing ih =>
      have hfirst : p.Reaches (p.advance 1) :=
        reaches_of_startsWith (t := .opening) rfl hopening
      exact hfirst.append_covers
        ((passes_skipBlanks _).trans
          (ih.reaches.passes.trans (passes_skipBlanks _)))
        (covers_of_closing hclosing)

namespace Reader

/-- Whatever is read is wrapped by the text that was read. -/
def Extends (read : Reader Formula) : Prop :=
  ∀ p f q, (read p).outcome = some (f, q) → p.Wraps f q

/-- The reader one nesting further in, if there is one, goes over what it
reads. -/
def ExtendsBelow (inner : Option (Reader Formula)) : Prop :=
  ∀ read, inner = some read → Extends read

variable {inner : Option (Reader Formula)} {p q : Place}
  {f : Formula} {x : String}

theorem Extends.passes {read : Reader Formula} (hread : Extends read)
    (h : (read p).outcome = some (f, q)) : p.Passes q :=
  (hread p f q h).covers.reaches.passes

theorem identifier_covers (h : (identifier p).outcome = some (x, q)) :
    p.Covers q := by
  obtain ⟨hrest, rfl, hname, hends⟩ := identifier_inv h
  exact ⟨_, Place.leads_advance hrest,
    Token.Spells.trimmed (t := .identifier x) ⟨rfl, hname⟩, .inr hends⟩

/-- Over an identifier, with the white space around it. -/
theorem passes_identifier
    (h : (identifier p.skipBlanks).outcome = some (x, q)) :
    p.Passes q.skipBlanks :=
  (Place.passes_skipBlanks p).trans
    ((identifier_covers h).reaches.passes.trans (Place.passes_skipBlanks q))

theorem nested_extends (hinner : ExtendsBelow inner) :
    Extends (nested inner) := by
  intro p f q h
  obtain ⟨read, hread, heq⟩ := nested_inv h
  exact hinner read hread p f q (heq ▸ h)

/-!
# Chains
-/

/-- A joined formula lies between the start of its first operand and the end of
its last one. -/
theorem joined_extends (op : Connective) {left b : Formula} {p₀ p q r : Place}
    (hleft : p₀.Wraps left p) (hbetween : p.Passes q) (hright : q.Wraps b r) :
    p₀.Wraps (.binary op left b ⟨p₀.offset, r.offset⟩) r :=
  .bare (hleft.covers.reaches.append_covers hbetween hright.covers) rfl

/-- Every further operand of a chain shortens the text. -/
theorem operand_shortens {op : Connective} {read : Reader Formula}
    (hread : Extends read) {s : Spelling}
    (hs : Spelling.firstStarting? op.spellings p.skipBlanks.rest = some s)
    (h : (read (p.skipBlanks.advance s.length).skipBlanks).outcome =
      some (f, q)) :
    q.rest.length < p.rest.length := by
  obtain ⟨hmem, ds, hds⟩ := Spelling.firstStarting?_eq_some hs
  have hblanks := p.passes_skipBlanks.length_le
  have hsign :=
    (Place.reaches_of_spells (t := .connective op) hmem hds).length_lt
  have hlength := ((Place.passes_skipBlanks _).trans (hread.passes h)).length_le
  omega

theorem chain_extends {op : Connective} {read : Reader Formula}
    (hread : Extends read) {p₀ : Place} :
    ∀ {fuel : Nat} {left : Formula} {p : Place}, p₀.Wraps left p →
      (chain op read p₀.offset fuel left p).outcome = some (f, q) →
        p₀.Wraps f q := by
  intro fuel
  induction fuel with
  | zero =>
      intro left p hleft h
      obtain ⟨rfl, rfl⟩ : left = f ∧ p = q := by simpa [chain] using h
      exact hleft
  | succ fuel ih =>
      intro left p hleft h
      rcases chain_inv h with ⟨rfl, rfl⟩ | ⟨s, -, b, r, -, -, hb, -, heq⟩
      · exact hleft
      · rw [heq, Reading.followedBy_outcome] at h
        have hbetween :=
          (Place.passes_skipBlanks p).trans (Place.passes_sign _ s.length)
        exact ih (joined_extends op hleft hbetween (hread _ b r hb)) h

theorem chained_extends (spellings : List Spelling) {read : Reader Formula}
    (hread : Extends read) :
    Extends (chained spellings read) := by
  intro p f q h
  rcases chained_inv spellings read p with heq | ⟨s, -, op, a, r, -, ha, heq⟩
  · exact hread p f q (heq ▸ h)
  · rw [heq, Reading.followedBy_outcome] at h
    exact chain_extends hread (hread p a r ha) h

theorem implication_extends {read : Reader Formula} (hread : Extends read) :
    Extends (implication read) :=
  chained_extends _ (chained_extends _ hread)

theorem formula_extends (hinner : ExtendsBelow inner) :
    Extends (formula inner) := by
  intro p f q h
  obtain ⟨read, hread, heq⟩ := formula_inv h
  exact implication_extends (hinner read hread) p f q (heq ▸ h)

/-!
# Arguments
-/

/-- Every further argument shortens the text. -/
theorem argument_shortens (hinner : ExtendsBelow inner)
    (hcomma : p.startsWith ',' = true)
    (h : (formula inner (p.advance 1).skipBlanks).outcome = some (f, q)) :
    q.skipBlanks.rest.length < p.rest.length := by
  have hsign := (Place.reaches_of_startsWith (t := .comma) rfl hcomma).length_lt
  have hargument := (formula_extends hinner).passes h
  have hlength := ((Place.passes_skipBlanks _).trans
    (hargument.trans (Place.passes_skipBlanks q))).length_le
  omega

/-- The end of an argument list lies behind a closing parenthesis. -/
theorem closeArguments_covers {reversed as : List Formula}
    (h : (closeArguments reversed p).outcome = some (as, q)) : p.Covers q := by
  obtain ⟨-, -, hclosing, rfl⟩ := closeArguments_inv h
  exact Place.covers_of_closing hclosing

theorem furtherArguments_covers (hinner : ExtendsBelow inner)
    {as : List Formula} :
    ∀ {fuel : Nat} {reversed : List Formula} {p : Place},
      (furtherArguments inner fuel reversed p).outcome = some (as, q) →
        p.Covers q := by
  intro fuel
  induction fuel with
  | zero =>
      intro reversed p h
      exact closeArguments_covers h
  | succ fuel ih =>
      intro reversed p h
      rcases furtherArguments_inv h with heq | ⟨a, r, hcomma, ha, heq⟩
      · rw [heq] at h
        exact closeArguments_covers h
      · rw [heq, Reading.followedBy_outcome] at h
        have hfirst : p.Reaches (p.advance 1) :=
          Place.reaches_of_startsWith (t := .comma) rfl hcomma
        have hnext := (formula_extends hinner _ a r ha).covers.reaches
        exact hfirst.append_covers ((Place.passes_skipBlanks _).trans
          (hnext.passes.trans (Place.passes_skipBlanks r))) (ih h)

theorem arguments_covers (hinner : ExtendsBelow inner) {as : List Formula}
    (h : (arguments inner p).outcome = some (as, q)) : p.Covers q := by
  rcases arguments_inv inner p with heq | ⟨a, r, ha, heq⟩
  · rw [heq, Reading.followedBy_outcome] at h
    exact closeArguments_covers h
  · rw [heq, Reading.followedBy_outcome] at h
    have hfirst := (formula_extends hinner p a r ha).covers.reaches
    exact hfirst.append_covers (Place.passes_skipBlanks r)
      (furtherArguments_covers hinner h)

/-!
# Operands
-/

theorem call_extends (hinner : ExtendsBelow inner) : Extends (call inner) := by
  intro p f q h
  obtain ⟨x, r, hx, ⟨rfl, rfl⟩ | ⟨as, -, has, rfl, -, -⟩⟩ := call_inv h
  · exact .bare (identifier_covers hx) rfl
  · have hbetween := (Place.passes_skipBlanks r).trans (Place.passes_sign _ 1)
    exact .bare ((identifier_covers hx).reaches.append_covers hbetween
      (arguments_covers hinner has)) rfl

theorem group_extends (hinner : ExtendsBelow inner)
    (hp : p.startsWith '(' = true)
    (h : (group inner p).outcome = some (f, q)) : p.Wraps f q := by
  rcases group_inv h with ⟨first, heq⟩ | ⟨r, hf, hclosing, rfl, -⟩
  · rw [heq, Reading.followedBy_outcome] at h
    exact call_extends hinner p f q h
  · exact .group hp (formula_extends hinner _ f r hf) hclosing

theorem negation_extends (hinner : ExtendsBelow inner) {s ds : List Char}
    (hs : s ∈ negationSpellings) (hp : p.rest = s ++ ds)
    (h : (negation inner p).outcome = some (f, q)) : p.Wraps f q := by
  have hsign := Place.reaches_of_spells (t := .negation) hs hp
  rw [length_of_mem_negationSpellings s hs] at hsign
  obtain ⟨a, ha, rfl, -, -⟩ := negation_inv h
  have hbody := (nested_extends hinner _ a q ha).covers
  exact .bare (hsign.append_covers (Place.passes_skipBlanks _) hbody) rfl

theorem quantified_extends (hinner : ExtendsBelow inner)
    {quantifier : Quantifier} {s ds : List Char} (hs : s ∈ Quantifier.spellings)
    (hq : Quantifier.ofSpelling? s = some quantifier) (hp : p.rest = s ++ ds)
    (h : (quantified inner quantifier s.length p).outcome = some (f, q)) :
    p.Wraps f q := by
  have hsign :=
    Place.reaches_of_spells (t := .quantifier quantifier) ⟨hs, hq⟩ hp
  obtain ⟨x, r, a, hx, ha, rfl, -, -⟩ := quantified_inv h
  have hbody := (nested_extends hinner _ a q ha).covers
  exact .bare (hsign.append_covers (passes_identifier hx) hbody) rfl

theorem operandWith_extends (hinner : ExtendsBelow inner) :
    Extends (operandWith inner) := by
  intro p f q h
  rcases operandWith_inv inner p with
    ⟨s, hs, ds, hp, heq⟩ | ⟨s, hs, ds, quantifier, hp, hq, heq⟩ |
    ⟨hopening, heq⟩ | heq
  · exact negation_extends hinner hs hp (heq ▸ h)
  · exact quantified_extends hinner hs hq hp (heq ▸ h)
  · exact group_extends hinner hopening (heq ▸ h)
  · exact call_extends hinner p f q (heq ▸ h)

theorem operandBelow_extends (n : Nat) : ExtendsBelow (operandBelow n) :=
  operandBelow_induction (motive := fun _ read => Extends read)
    (fun _ hinner => operandWith_extends hinner) n

end Reader

end PredicateLogic
