import PredicateLogic.Proofs.Grammar.Extent

/-!
# Where the bound on nesting is met

The offset that a reading remembers as the first one beyond the bound is always
one that an error may point at, `Place.Pointable`: the end of the text, or a
character that is no white space. Readers are only ever started at such places,
and they refuse to go on there, or at the start of a formula that has become too
high. This includes alternatives that are given up later.
-/

namespace PredicateLogic

/-- The offset is the end of the text, or that of a character other than white
space. -/
def Place.Pointable (source : List Char) (offset : Nat) : Prop :=
  ∃ p : Place, p.In source ∧ Unblanked p.rest ∧ p.offset = offset

theorem Place.In.pointable {p : Place} {source : List Char} (hp : p.In source)
    (hrest : Unblanked p.rest) : Pointable source p.offset :=
  ⟨p, hp, hrest, rfl⟩

/-- Where the reading met the bound, an error may point. -/
def Reading.Marks {α : Type} (source : List Char) (r : Reading α) : Prop :=
  ∀ offset, r.tooDeep = some offset → Place.Pointable source offset

namespace Reading

variable {α β : Type} {source : List Char}

theorem marks_of_tooDeep_eq_none {r : Reading α} (h : r.tooDeep = none) :
    r.Marks source := by
  intro offset hoffset
  exact absurd (h.symm.trans hoffset) (by simp)

theorem marks_success (a : α) (p : Place) : (success a p).Marks source :=
  marks_of_tooDeep_eq_none rfl

theorem marks_failure (complaint : Complaint) (p : Place) :
    (failure complaint p : Reading α).Marks source :=
  marks_of_tooDeep_eq_none rfl

theorem marks_refusal {offset : Nat} (h : Place.Pointable source offset) :
    (refusal offset : Reading α).Marks source := by
  intro other hother
  obtain rfl := Option.some.inj hother
  exact h

theorem Marks.followedBy {first : Reading α} {second : Reading β}
    (h : first.Marks source) (h' : second.Marks source) :
    (first.followedBy second).Marks source := by
  intro offset hoffset
  rw [followedBy_tooDeep, Option.or_eq_some_iff] at hoffset
  rcases hoffset with hfirst | ⟨-, hsecond⟩
  · exact h offset hfirst
  · exact h' offset hsecond

end Reading

namespace Reader

/-- Started at a place that is not before white space, the reader meets the
bound only where an error may point. -/
def Marks {α : Type} (source : List Char) (read : Reader α) : Prop :=
  ∀ p : Place, p.In source → Unblanked p.rest → (read p).Marks source

/-- The reader one nesting further in, if there is one, goes over what it reads
and meets the bound only where an error may point. -/
structure MarksBelow (source : List Char) (inner : Option (Reader Formula)) :
    Prop where
  extent : ExtendsBelow inner
  marks : ∀ read, inner = some read → Marks source read

variable {source : List Char} {inner : Option (Reader Formula)}
  {read : Reader Formula} {p q : Place} {f : Formula}

theorem identifier_marks (p : Place) : (identifier p).Marks source := by
  apply Reading.marks_of_tooDeep_eq_none
  rw [identifier]
  split
  · rfl
  · split <;> rfl

theorem nested_marks (hinner : MarksBelow source inner) :
    Marks source (nested inner) := by
  intro p hp hrest
  cases inner with
  | none => exact Reading.marks_refusal (hp.pointable hrest)
  | some read => exact hinner.marks read rfl p hp hrest

theorem bounded_marks (h : Place.Pointable source f.span.start) :
    (bounded f q).Marks source := by
  rw [bounded]
  split
  · exact Reading.marks_success f q
  · exact Reading.marks_refusal h

/-- Behind white space the reader is at a place where it may be started. -/
theorem Marks.behind {α : Type} {read : Reader α} (h : Marks source read)
    (hp : p.In source) :
    (read p.skipBlanks).Marks source :=
  h p.skipBlanks (hp.passes p.passes_skipBlanks) (unblanked_dropWhile p.rest)

/-!
# Chains
-/

theorem chain_marks {op : Connective} {start : Nat} (hread : Marks source read)
    (hextent : Extends read) (hstart : Place.Pointable source start) :
    ∀ {fuel : Nat} {left : Formula} {p : Place}, p.In source →
      (chain op read start fuel left p).Marks source := by
  intro fuel
  induction fuel with
  | zero => exact fun _ => Reading.marks_success _ _
  | succ fuel ih =>
      intro left p hp
      rw [chain]
      split
      · exact Reading.marks_success left p
      · next s hs =>
        have hsign : (p.skipBlanks.advance s.length).In source :=
          (hp.passes p.passes_skipBlanks).passes (Place.passes_advance _ _)
        have hright := hread.behind hsign
        simp only
        split
        · exact (hright.followedBy (Reading.marks_failure _ _)).followedBy
            (Reading.marks_success left p)
        · next b r hb =>
          have hr : r.In source :=
            hsign.passes ((Place.passes_skipBlanks _).trans (hextent.passes hb))
          split
          · exact hright.followedBy (ih hr)
          · exact hright.followedBy (Reading.marks_refusal hstart)

theorem chained_marks (spellings : List Spelling) (hread : Marks source read)
    (hextent : Extends read) : Marks source (chained spellings read) := by
  intro p hp hrest
  have hfirst := hread p hp hrest
  rcases chained_inv spellings read p with heq | ⟨s, -, op, a, r, -, ha, heq⟩
  · rw [heq]
    exact hfirst
  · rw [heq]
    exact hfirst.followedBy
      (chain_marks hread hextent (hp.pointable hrest)
        (hp.passes (hextent.passes ha)))

theorem formula_marks (hinner : MarksBelow source inner) :
    Marks source (formula inner) := by
  intro p hp hrest
  have hbody : (nested (inner.map implication) p).Marks source := by
    cases inner with
    | none => exact Reading.marks_refusal (hp.pointable hrest)
    | some read =>
        have hextent := hinner.extent read rfl
        exact chained_marks _ (chained_marks _ (hinner.marks read rfl) hextent)
          (chained_extends _ hextent) p hp hrest
  rw [formula]
  split
  · exact hbody.followedBy (Reading.marks_failure _ _)
  · exact hbody

/-!
# Arguments
-/

theorem closeArguments_marks (reversed : List Formula) (p : Place) :
    (closeArguments reversed p).Marks source := by
  rw [closeArguments]
  split
  · exact Reading.marks_success _ _
  · exact Reading.marks_failure _ _

theorem furtherArguments_marks (hinner : MarksBelow source inner) :
    ∀ {fuel : Nat} {reversed : List Formula} {p : Place}, p.In source →
      (furtherArguments inner fuel reversed p).Marks source := by
  intro fuel
  induction fuel with
  | zero => exact fun _ => closeArguments_marks _ _
  | succ fuel ih =>
      intro reversed p hp
      rw [furtherArguments]
      split
      · have hcomma := hp.passes (p.passes_advance 1)
        have hnext := (formula_marks hinner).behind hcomma
        simp only
        split
        · exact hnext.followedBy (Reading.marks_failure _ _)
        · next a r ha =>
          have hr : r.In source := hcomma.passes
            ((Place.passes_skipBlanks _).trans
              ((formula_extends hinner.extent).passes ha))
          exact hnext.followedBy (ih (hr.passes r.passes_skipBlanks))
      · exact closeArguments_marks _ _

theorem arguments_marks (hinner : MarksBelow source inner) :
    Marks source (arguments inner) := by
  intro p hp hrest
  have hfirst := formula_marks hinner p hp hrest
  rcases arguments_inv inner p with heq | ⟨a, r, ha, heq⟩
  · rw [heq]
    exact hfirst.followedBy (closeArguments_marks _ _)
  · have hr := hp.passes ((formula_extends hinner.extent).passes ha)
    rw [heq]
    exact hfirst.followedBy
      (furtherArguments_marks hinner (hr.passes r.passes_skipBlanks))

/-!
# Operands
-/

theorem call_marks (hinner : MarksBelow source inner) :
    Marks source (call inner) := by
  intro p hp hrest
  rw [call]
  simp only
  split
  · exact (identifier_marks p).followedBy (Reading.marks_failure _ _)
  · next x r hx =>
    have hr := (hp.passes (identifier_covers hx).reaches.passes).passes
      r.passes_skipBlanks
    split
    · have hargs :=
        (arguments_marks hinner).behind (hr.passes (Place.passes_advance _ 1))
      split
      · exact hargs.followedBy (Reading.marks_success _ _)
      · exact hargs.followedBy (bounded_marks (hp.pointable hrest))
    · exact Reading.marks_success _ _

theorem group_marks (hinner : MarksBelow source inner) :
    Marks source (group inner) := by
  intro p hp hrest
  have hbody := (formula_marks hinner).behind (hp.passes (p.passes_advance 1))
  have hcall := call_marks hinner p hp hrest
  rw [group]
  split
  · exact (hbody.followedBy (Reading.marks_failure _ _)).followedBy hcall
  · split
    · exact hbody.followedBy (Reading.marks_success _ _)
    · exact (hbody.followedBy (Reading.marks_failure _ _)).followedBy hcall

theorem negation_marks (hinner : MarksBelow source inner) :
    Marks source (negation inner) := by
  intro p hp hrest
  have hbody := (nested_marks hinner).behind (hp.passes (p.passes_advance 1))
  rw [negation]
  split
  · exact hbody.followedBy (Reading.marks_failure _ _)
  · exact hbody.followedBy (bounded_marks (hp.pointable hrest))

theorem quantified_marks (hinner : MarksBelow source inner)
    (quantifier : Quantifier) (length : Nat) :
    Marks source (quantified inner quantifier length) := by
  intro p hp hrest
  have hsign :=
    (hp.passes (p.passes_advance length)).passes (Place.passes_skipBlanks _)
  rw [quantified]
  simp only
  split
  · exact (identifier_marks _).followedBy (Reading.marks_failure _ _)
  · next x r hx =>
    have hbody := (nested_marks hinner).behind
      (hsign.passes (identifier_covers hx).reaches.passes)
    split
    · exact hbody.followedBy (Reading.marks_failure _ _)
    · exact hbody.followedBy (bounded_marks (hp.pointable hrest))

theorem operandWith_marks (hinner : MarksBelow source inner) :
    Marks source (operandWith inner) := by
  intro p hp hrest
  rcases operandWith_inv inner p with
    ⟨-, -, -, -, heq⟩ | ⟨s, -, -, quantifier, -, -, heq⟩ |
    ⟨-, heq⟩ | heq
  · exact heq ▸ negation_marks hinner p hp hrest
  · exact heq ▸ quantified_marks hinner quantifier s.length p hp hrest
  · exact heq ▸ group_marks hinner p hp hrest
  · exact heq ▸ call_marks hinner p hp hrest

theorem operandBelow_marks (source : List Char) (n : Nat) :
    MarksBelow source (operandBelow n) :=
  ⟨operandBelow_extends n,
    operandBelow_induction (motive := fun _ read => Marks source read)
    (fun n hinner => operandWith_marks ⟨operandBelow_extends n, hinner⟩) n⟩

end Reader

end PredicateLogic
