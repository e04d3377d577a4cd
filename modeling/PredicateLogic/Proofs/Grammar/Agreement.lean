import PredicateLogic.Proofs.Grammar.Acceptance
import PredicateLogic.Proofs.Grammar.Extent
import PredicateLogic.Proofs.Grammar.Spelled

/-!
# Only the tokens matter

Two texts that spell the same tokens are read side by side. At places where both
go on with the same tokens, `Place.Beside`, every reader comes to the same: it
meets the bound on nesting in both texts or in neither, and it reads nothing in
both, or formulas that are the same up to places where again both go on with the
same tokens. This holds of all sequences of tokens, whether they make up a
formula or not.

Spellings matter at one point on the way. A chain of converse implications takes
up the beginning of an equivalence sign in one of its spellings and not in the
other, and then fails to read an operand; `Place.Stops` says that this makes no
difference.
-/

namespace PredicateLogic

namespace Place

/-- Both texts go on with the same tokens. -/
def Abreast (p q : Place) : Prop :=
  ∃ ts, Scan p.rest ts [] ∧ Scan q.rest ts []

/-- Both texts go on with the same tokens, and not with white space. -/
def Beside (p q : Place) : Prop :=
  ∃ ts, p.Before ts ∧ q.Before ts

variable {p q : Place}

theorem Abreast.skipBlanks (h : p.Abreast q) :
    p.skipBlanks.Beside q.skipBlanks := by
  obtain ⟨ts, hp, hq⟩ := h
  exact ⟨ts, skipBlanks_before hp, skipBlanks_before hq⟩

/-!
# Decisions
-/

/-- A chain does not go on: no connective follows, or one that cannot be
followed by an operand. -/
def Stops (op : Connective) (p : Place) : Prop :=
  Spelling.firstStarting? op.spellings p.rest = none ∨
    ∃ s, Spelling.firstStarting? op.spellings p.rest = some s ∧
      Blocked (p.advance s.length).skipBlanks.rest

theorem Before.stops {op : Connective} {ts : List Token} (h : p.Before ts)
    (hts : ts.head? ≠ some (.connective op)) : p.Stops op := by
  by_cases hother : ∃ other us, ts = .connective other :: us
  · obtain ⟨other, us, rfl⟩ := hother
    refine h.firstStarting?_spellings_other ?_
    rintro rfl
    exact hts rfl
  · refine .inl (h.firstStarting?_spellings_eq_none ?_)
    rintro t ht other rfl
    obtain ⟨us, rfl⟩ := List.head?_eq_some_iff.mp ht
    exact absurd ⟨other, us, rfl⟩ hother

/-- Chains go on in both texts or in neither. -/
theorem Beside.connective (h : p.Beside q) (op : Connective) :
    (∃ s s', Spelling.firstStarting? op.spellings p.rest = some s ∧
        Spelling.firstStarting? op.spellings q.rest = some s' ∧
        (p.advance s.length).Abreast (q.advance s'.length)) ∨
      (p.Stops op ∧ q.Stops op) := by
  obtain ⟨ts, hp, hq⟩ := h
  by_cases hts : ts.head? = some (.connective op)
  · obtain ⟨us, rfl⟩ := List.head?_eq_some_iff.mp hts
    obtain ⟨s, hs, hscan⟩ := hp.firstStarting?_spellings
    obtain ⟨s', hs', hscan'⟩ := hq.firstStarting?_spellings
    exact .inl ⟨s, s', hs, hs', us, hscan, hscan'⟩
  · exact .inr ⟨hp.stops hts, hq.stops hts⟩

theorem Before.family_eq_none {op : Connective} {ts : List Token}
    (h : p.Before ts)
    (hts : ∀ other us, ts = .connective other :: us →
      other.priority ≠ op.priority) :
    Spelling.firstStarting? op.family p.rest = none := by
  refine h.firstStarting?_family_eq_none ?_
  rintro t ht other rfl
  obtain ⟨us, rfl⟩ := List.head?_eq_some_iff.mp ht
  exact hts other us rfl

/-- The same connective settles the chain in both texts. -/
theorem Beside.family (h : p.Beside q) (op : Connective) :
    (Spelling.firstStarting? op.family p.rest).bind Connective.ofSpelling? =
      (Spelling.firstStarting? op.family q.rest).bind
        Connective.ofSpelling? := by
  obtain ⟨ts, hp, hq⟩ := h
  by_cases hts :
      ∃ other us, ts = .connective other :: us ∧ other.priority = op.priority
  · obtain ⟨other, us, rfl, hpriority⟩ := hts
    have hfamily : op.family = other.family := by
      rw [Connective.family, Connective.family, hpriority]
    rw [hfamily, hp.firstStarting?_family, hq.firstStarting?_family]
  · have hother : ∀ other us, ts = .connective other :: us →
        other.priority ≠ op.priority :=
      fun other us hus hpriority => hts ⟨other, us, hus, hpriority⟩
    rw [hp.family_eq_none hother, hq.family_eq_none hother]

/-- A token of one character follows in both texts or in neither. -/
theorem Beside.startsWith (h : p.Beside q) {t : Token} {c : Char}
    (hc : (t, c) ∈ Before.punctuation) :
    (p.startsWith c = true ∧ q.startsWith c = true ∧
      (p.advance 1).Abreast (q.advance 1)) ∨
      (p.startsWith c = false ∧ q.startsWith c = false) := by
  obtain ⟨ts, hp, hq⟩ := h
  by_cases hts : ts.head? = some t
  · obtain ⟨us, rfl⟩ := List.head?_eq_some_iff.mp hts
    obtain ⟨hpc, hscan⟩ := hp.startsWith_punctuation hc
    obtain ⟨hqc, hscan'⟩ := hq.startsWith_punctuation hc
    exact .inl ⟨hpc, hqc, us, hscan, hscan'⟩
  · exact .inr ⟨hp.startsWith_punctuation_eq_false hc hts,
      hq.startsWith_punctuation_eq_false hc hts⟩

/-- The texts have both been read to the end, or neither. -/
theorem Beside.atEnd (h : p.Beside q) : p.atEnd = q.atEnd := by
  obtain ⟨ts, hp, hq⟩ := h
  cases ts with
  | nil => rw [Place.atEnd, Place.atEnd, hp.rest_eq_nil, hq.rest_eq_nil]
  | cons t ts =>
      obtain ⟨c, hc, -⟩ := hp.head
      obtain ⟨d, hd, -⟩ := hq.head
      rw [Place.atEnd, Place.atEnd, List.isEmpty_eq_false_iff.mpr,
        List.isEmpty_eq_false_iff.mpr]
      · rintro hnil
        simp [hnil] at hd
      · rintro hnil
        simp [hnil] at hc

end Place

/-!
# Readings
-/

/-- The readings come to the same. What they read is compared by a `view` of
it. -/
structure Reading.Agrees {α β : Type} (view : α → β) (r r' : Reading α) :
    Prop where
  outcome : Option.Rel (fun a b => view a.1 = view b.1 ∧ a.2.Abreast b.2)
    r.outcome r'.outcome
  tooDeep : r.tooDeep.isSome = r'.tooDeep.isSome

namespace Reading

variable {α α' β β' : Type} {view : α → β} {view' : α' → β'} {a b : α}
  {p q : Place}

theorem agrees_success (hab : view a = view b) (hpq : p.Abreast q) :
    (success a p).Agrees view (success b q) :=
  ⟨.some ⟨hab, hpq⟩, rfl⟩

theorem agrees_failure (view : α → β) (complaint : Complaint) (p q : Place) :
    (failure complaint p).Agrees view (failure complaint q) :=
  ⟨.none, rfl⟩

theorem agrees_refusal (view : α → β) (offset offset' : Nat) :
    (refusal offset).Agrees view (refusal offset') :=
  ⟨.none, rfl⟩

theorem Agrees.followedBy {first first' : Reading α}
    {second second' : Reading α'} (h : first.Agrees view first')
    (h' : second.Agrees view' second') :
    (first.followedBy second).Agrees view' (first'.followedBy second') :=
  ⟨h'.outcome, by
    rw [followedBy_tooDeep, followedBy_tooDeep, Option.isSome_or,
      Option.isSome_or, h.tooDeep, h'.tooDeep]⟩

theorem agrees_of_yields {r r' : Reading α} (h : r.Yields a p)
    (h' : r'.Yields b q) (hab : view a = view b) (hpq : p.Abreast q) :
    r.Agrees view r' :=
  ⟨by rw [h.outcome, h'.outcome]; exact .some ⟨hab, hpq⟩,
    by rw [h.tooDeep, h'.tooDeep]⟩

/-- Nothing is read in both texts, or the same. -/
theorem Agrees.cases {r r' : Reading α} (h : r.Agrees view r') :
    (r.outcome = none ∧ r'.outcome = none) ∨
      ∃ a b p q, r.outcome = some (a, p) ∧ r'.outcome = some (b, q) ∧
        view a = view b ∧
        p.Abreast q := by
  have houtcome := h.outcome
  cases hr : r.outcome with
  | none =>
      rw [hr] at houtcome
      cases hr' : r'.outcome with
      | none => exact .inl ⟨rfl, rfl⟩
      | some b => rw [hr'] at houtcome; cases houtcome
  | some a =>
      rw [hr] at houtcome
      cases hr' : r'.outcome with
      | none => rw [hr'] at houtcome; cases houtcome
      | some b =>
          rw [hr'] at houtcome
          cases houtcome with
          | some hab => exact .inr ⟨_, _, _, _, rfl, rfl, hab.1, hab.2⟩

end Reading

namespace Reader

/-- Beside each other, the reader comes to the same. -/
def Alike {α β : Type} (view : α → β) (read : Reader α) : Prop :=
  ∀ p q, p.Beside q → (read p).Agrees view (read q)

/-- A reader of operands for which only tokens matter. It goes over what it
reads, and it does not meet the bound where no operand begins. -/
structure Steady (read : Reader Formula) : Prop where
  alike : Alike Formula.bare read
  extent : Extends read
  misses : ∀ p : Place, Blocked p.rest → (read p).Misses

/-- The reader one nesting further in, if there is one, is steady. -/
def SteadyBelow (inner : Option (Reader Formula)) : Prop :=
  ∀ read, inner = some read → Steady read

theorem SteadyBelow.extends {inner : Option (Reader Formula)}
    (h : SteadyBelow inner) :
    ExtendsBelow inner :=
  fun read hread => (h read hread).extent

variable {inner : Option (Reader Formula)} {read : Reader Formula} {p q : Place}
  {f g : Formula}

theorem identifier_alike : Alike id identifier := by
  rintro p q ⟨ts, hp, hq⟩
  by_cases hts : ∃ x us, ts = .identifier x :: us
  · obtain ⟨x, us, rfl⟩ := hts
    obtain ⟨r, hr, hscan⟩ := identifier_before hp
    obtain ⟨r', hr', hscan'⟩ := identifier_before hq
    rw [hr, hr']
    exact Reading.agrees_success rfl ⟨us, hscan, hscan'⟩
  · have hother : ∀ t ∈ ts.head?, ∀ x, t ≠ .identifier x := by
      rintro t ht x rfl
      obtain ⟨us, rfl⟩ := List.head?_eq_some_iff.mp ht
      exact hts ⟨x, us, rfl⟩
    rw [identifier_before_other hp hother, identifier_before_other hq hother]
    exact Reading.agrees_failure id _ p q

theorem nested_alike (hinner : SteadyBelow inner) :
    Alike Formula.bare (nested inner) := by
  intro p q h
  cases inner with
  | none => exact Reading.agrees_refusal _ _ _
  | some read => exact (hinner read rfl).alike p q h

theorem height_eq_of_bare (h : f.bare = g.bare) : f.height = g.height :=
  Formula.height_eq_of_same ((Formula.same_iff_bare f g).mpr h)

theorem bounded_agrees (h : f.bare = g.bare) (hpq : p.Abreast q) :
    (bounded f p).Agrees Formula.bare (bounded g q) := by
  rw [bounded, bounded, height_eq_of_bare h]
  split
  · exact Reading.agrees_success h hpq
  · exact Reading.agrees_refusal _ _ _

/-!
# Chains
-/

section Chain

variable {op : Connective} {start start' fuel fuel' : Nat}
  {left left' : Formula}

theorem chain_stops (hread : Steady read) (h : p.skipBlanks.Stops op) :
    (chain op read start fuel left p).Yields left p := by
  cases fuel with
  | zero => exact Reading.yields_success left p
  | succ fuel =>
      rw [chain]
      rcases h with hnone | ⟨s, hs, hblocked⟩
      · rw [hnone]
        exact Reading.yields_success left p
      · have hmisses := hread.misses _ hblocked
        simp only [hs, hmisses.outcome, Reading.followedBy_yields_iff,
          Reading.followedBy_tooDeep, hmisses.tooDeep, missing,
          Reading.failure_tooDeep, Option.or_none, true_and]
        exact Reading.yields_success left p

theorem length_pos_of_firstStarting? {s : Spelling}
    (h : Spelling.firstStarting? op.spellings p.skipBlanks.rest = some s) :
    0 < p.rest.length := by
  obtain ⟨hs, ds, hds⟩ := Spelling.firstStarting?_eq_some h
  have hsign := (Place.reaches_of_spells (t := .connective op) hs hds).length_lt
  have hblanks := p.passes_skipBlanks.length_le
  omega

theorem chain_agrees (hread : Steady read) (hfuel : p.rest.length ≤ fuel)
    (hfuel' : q.rest.length ≤ fuel') (hleft : left.bare = left'.bare)
    (hpq : p.Abreast q) :
    (chain op read start fuel left p).Agrees Formula.bare
      (chain op read start' fuel' left' q) := by
  induction fuel generalizing fuel' left left' p q with
  | zero =>
      rcases hpq.skipBlanks.connective op with ⟨s, -, hs, -, -⟩ | ⟨hp, hq⟩
      · exact absurd (length_pos_of_firstStarting? hs) (by omega)
      · exact Reading.agrees_of_yields (chain_stops hread hp)
          (chain_stops hread hq) hleft hpq
  | succ fuel ih =>
      rcases hpq.skipBlanks.connective op with
        ⟨s, s', hs, hs', habreast⟩ | ⟨hp, hq⟩
      · have hpos := length_pos_of_firstStarting? hs'
        obtain ⟨fuel', rfl⟩ : ∃ k, fuel' = k + 1 := ⟨fuel' - 1, by omega⟩
        have hright := hread.alike _ _ habreast.skipBlanks
        rw [chain, chain]
        simp only [hs, hs']
        rcases hright.cases with
          ⟨hnone, hnone'⟩ | ⟨b, b', r, r', hb, hb', hbare, hrr'⟩
        · simp only [hnone, hnone']
          exact
            (hright.followedBy
              (Reading.agrees_failure Formula.bare _ _ _)).followedBy
              (Reading.agrees_success hleft hpq)
        · have hjoined : (Formula.binary op left b ⟨start, r.offset⟩).bare =
              (Formula.binary op left' b' ⟨start', r'.offset⟩).bare := by
            rw [Formula.bare, Formula.bare, hleft, hbare]
          have hshort := operand_shortens hread.extent hs hb
          have hshort' := operand_shortens hread.extent hs' hb'
          simp only [hb, hb', height_eq_of_bare hjoined]
          split
          · exact hright.followedBy (ih (by omega) (by omega) hjoined hrr')
          · exact hright.followedBy (Reading.agrees_refusal Formula.bare _ _)
      · exact Reading.agrees_of_yields (chain_stops hread hp)
          (chain_stops hread hq) hleft hpq

/-- The chains of a family are read alike. -/
theorem chained_alike (hread : Steady read) (op : Connective) :
    Alike Formula.bare (chained op.family read) := by
  intro p q h
  have hfirst := hread.alike p q h
  rw [chained, chained]
  rcases hfirst.cases with ⟨hp, hq⟩ | ⟨a, b, r, r', hp, hq, hab, hrr'⟩
  · simp only [hp, hq]
    exact hfirst
  · simp only [hp, hq, hrr'.skipBlanks.family op]
    split
    · exact hfirst
    · exact hfirst.followedBy
        (chain_agrees hread (Nat.le_refl _) (Nat.le_refl _) hab hrr')

end Chain

theorem junction_steady (hread : Steady read) : Steady (junction read) where
  alike := chained_alike hread .and
  extent := chained_extends _ hread.extent
  misses _ h := chained_misses _ (hread.misses _ h)

theorem implication_alike (hread : Steady read) :
    Alike Formula.bare (implication read) :=
  chained_alike (junction_steady hread) .implies

theorem formula_alike (hinner : SteadyBelow inner) :
    Alike Formula.bare (formula inner) := by
  intro p q h
  have hbody : (nested (inner.map implication) p).Agrees Formula.bare
      (nested (inner.map implication) q) := by
    cases inner with
    | none => exact Reading.agrees_refusal _ _ _
    | some read => exact implication_alike (hinner read rfl) p q h
  rw [formula, formula]
  rcases hbody.cases with ⟨hp, hq⟩ | ⟨a, b, r, r', hp, hq, -, -⟩
  · simp only [hp, hq]
    exact hbody.followedBy (Reading.agrees_failure Formula.bare _ _ _)
  · simp only [hp, hq]
    exact hbody

/-!
# Arguments
-/

section Arguments

variable {as bs : List Formula} {fuel fuel' : Nat}

theorem closeArguments_agrees (hab : as.map Formula.bare = bs.map Formula.bare)
    (h : p.Beside q) :
    (closeArguments as p).Agrees (List.map Formula.bare)
      (closeArguments bs q) := by
  rw [closeArguments, closeArguments]
  rcases h.startsWith (t := .closing) (c := ')') (by decide) with
    ⟨hp, hq, habreast⟩ | ⟨hp, hq⟩
  · rw [if_pos hp, if_pos hq]
    exact Reading.agrees_success
      (by rw [List.map_reverse, List.map_reverse, hab]) habreast
  · rw [hp, hq]
    exact Reading.agrees_failure _ _ _ _

theorem furtherArguments_eq_closeArguments (h : p.startsWith ',' = false) :
    furtherArguments inner fuel as p = closeArguments as p := by
  cases fuel with
  | zero => rfl
  | succ fuel =>
      rw [furtherArguments, h]
      rfl

theorem length_pos_of_startsWith {c : Char} (h : p.startsWith c = true) :
    0 < p.rest.length := by
  obtain ⟨ds, hds⟩ := List.head?_eq_some_iff.mp (Place.startsWith_iff.mp h)
  rw [hds]
  exact Nat.succ_pos _

theorem furtherArguments_agrees (hinner : SteadyBelow inner)
    (hfuel : p.rest.length ≤ fuel) (hfuel' : q.rest.length ≤ fuel')
    (hab : as.map Formula.bare = bs.map Formula.bare) (h : p.Beside q) :
    (furtherArguments inner fuel as p).Agrees (List.map Formula.bare)
      (furtherArguments inner fuel' bs q) := by
  induction fuel generalizing fuel' as bs p q with
  | zero =>
      rcases h.startsWith (t := .comma) (c := ',') (by decide) with
        ⟨hp, -, -⟩ | ⟨hp, hq⟩
      · exact absurd (length_pos_of_startsWith hp) (by omega)
      · rw [furtherArguments_eq_closeArguments hp,
          furtherArguments_eq_closeArguments hq]
        exact closeArguments_agrees hab h
  | succ fuel ih =>
      rcases h.startsWith (t := .comma) (c := ',') (by decide) with
        ⟨hp, hq, habreast⟩ | ⟨hp, hq⟩
      · have hpos := length_pos_of_startsWith hq
        obtain ⟨fuel', rfl⟩ : ∃ k, fuel' = k + 1 := ⟨fuel' - 1, by omega⟩
        have hnext := formula_alike hinner _ _ habreast.skipBlanks
        rw [furtherArguments, furtherArguments, if_pos hp, if_pos hq]
        rcases hnext.cases with
          ⟨hnone, hnone'⟩ | ⟨a, b, r, r', ha, hb, hbare, hrr'⟩
        · simp only [hnone, hnone']
          exact hnext.followedBy
            (Reading.agrees_failure (List.map Formula.bare) _ _ _)
        · have hshort := argument_shortens hinner.extends hp ha
          have hshort' := argument_shortens hinner.extends hq hb
          simp only [ha, hb]
          refine hnext.followedBy (ih (by omega) (by omega) ?_ hrr'.skipBlanks)
          rw [List.map_cons, List.map_cons, hbare, hab]
      · rw [furtherArguments_eq_closeArguments hp,
          furtherArguments_eq_closeArguments hq]
        exact closeArguments_agrees hab h

theorem arguments_alike (hinner : SteadyBelow inner) :
    Alike (List.map Formula.bare) (arguments inner) := by
  intro p q h
  have hfirst := formula_alike hinner p q h
  rw [arguments, arguments]
  rcases hfirst.cases with ⟨hp, hq⟩ | ⟨a, b, r, r', hp, hq, hab, hrr'⟩
  · simp only [hp, hq]
    exact hfirst.followedBy (closeArguments_agrees rfl h)
  · simp only [hp, hq]
    refine hfirst.followedBy
      (furtherArguments_agrees hinner ?_ ?_ ?_ hrr'.skipBlanks)
    · exact r.passes_skipBlanks.length_le
    · exact r'.passes_skipBlanks.length_le
    · simp [hab]

end Arguments

/-!
# Operands
-/

theorem call_alike (hinner : SteadyBelow inner) :
    Alike Formula.bare (call inner) := by
  intro p q h
  have hname := identifier_alike p q h
  rw [call, call]
  rcases hname.cases with ⟨hp, hq⟩ | ⟨x, y, r, r', hp, hq, hxy, hrr'⟩
  · simp only [hp, hq]
    exact hname.followedBy (Reading.agrees_failure Formula.bare _ _ _)
  · obtain rfl : x = y := hxy
    have hsymbol :
        (Reading.success (Formula.symbol x ⟨p.offset, r.offset⟩) r).Agrees
          Formula.bare
          (Reading.success (Formula.symbol x ⟨q.offset, r'.offset⟩) r') :=
      Reading.agrees_success rfl hrr'
    simp only [hp, hq]
    rcases hrr'.skipBlanks.startsWith (t := .opening) (c := '(') (by decide)
      with ⟨hopen, hopen', habreast⟩ | ⟨hopen, hopen'⟩
    · have hargs := arguments_alike hinner _ _ habreast.skipBlanks
      rw [if_pos hopen, if_pos hopen']
      rcases hargs.cases with
        ⟨hnone, hnone'⟩ | ⟨as, bs, s, s', has, hbs, hab, hss'⟩
      · simp only [hnone, hnone']
        exact hargs.followedBy hsymbol
      · simp only [has, hbs]
        refine hargs.followedBy (bounded_agrees ?_ hss')
        rw [Formula.bare, Formula.bare, Formula.bareAll_eq_map,
          Formula.bareAll_eq_map, hab]
    · simp only [hopen, hopen']
      exact hsymbol

theorem group_agrees (hinner : SteadyBelow inner) (h : p.Beside q)
    (habreast : (p.advance 1).Abreast (q.advance 1)) :
    (group inner p).Agrees Formula.bare (group inner q) := by
  have hbody := formula_alike hinner _ _ habreast.skipBlanks
  have hcall := call_alike hinner p q h
  have hmissing : ∀ complaint r r', (missing complaint r).Agrees Formula.bare
      (missing complaint r') := Reading.agrees_failure Formula.bare
  rw [group, group]
  rcases hbody.cases with ⟨hp, hq⟩ | ⟨f, g, r, r', hp, hq, hfg, hrr'⟩
  · simp only [hp, hq]
    exact (hbody.followedBy (hmissing _ _ _)).followedBy hcall
  · simp only [hp, hq]
    rcases hrr'.skipBlanks.startsWith (t := .closing) (c := ')')
        (by decide) with
      ⟨hclosing, hclosing', hbehind⟩ | ⟨hclosing, hclosing'⟩
    · rw [if_pos hclosing, if_pos hclosing']
      exact hbody.followedBy (Reading.agrees_success hfg hbehind)
    · simp only [hclosing, hclosing']
      exact (hbody.followedBy (hmissing _ _ _)).followedBy hcall

theorem negation_agrees (hinner : SteadyBelow inner)
    (habreast : (p.advance 1).Abreast (q.advance 1)) :
    (negation inner p).Agrees Formula.bare (negation inner q) := by
  have hbody := nested_alike hinner _ _ habreast.skipBlanks
  rw [negation, negation]
  rcases hbody.cases with ⟨hp, hq⟩ | ⟨f, g, r, r', hp, hq, hfg, hrr'⟩
  · simp only [hp, hq]
    exact hbody.followedBy (Reading.agrees_failure Formula.bare _ _ _)
  · simp only [hp, hq]
    exact hbody.followedBy
      (bounded_agrees (by rw [Formula.bare, Formula.bare, hfg]) hrr')

theorem quantified_agrees (hinner : SteadyBelow inner) (quantifier : Quantifier)
    {length length' : Nat}
    (habreast : (p.advance length).Abreast (q.advance length')) :
    (quantified inner quantifier length p).Agrees Formula.bare
      (quantified inner quantifier length' q) := by
  have hname := identifier_alike _ _ habreast.skipBlanks
  rw [quantified, quantified]
  rcases hname.cases with ⟨hp, hq⟩ | ⟨x, y, r, r', hp, hq, hxy, hrr'⟩
  · simp only [hp, hq]
    exact hname.followedBy (Reading.agrees_failure Formula.bare _ _ _)
  · obtain rfl : x = y := hxy
    have hbody := nested_alike hinner _ _ hrr'.skipBlanks
    simp only [hp, hq]
    rcases hbody.cases with ⟨hnone, hnone'⟩ | ⟨f, g, s, s', hf, hg, hfg, hss'⟩
    · simp only [hnone, hnone']
      exact hbody.followedBy (Reading.agrees_failure Formula.bare _ _ _)
    · simp only [hf, hg]
      exact hbody.followedBy
        (bounded_agrees (by rw [Formula.bare, Formula.bare, hfg]) hss')

/-- The first token says in both texts which kind of operand comes next. -/
theorem operandWith_alike (hinner : SteadyBelow inner) :
    Alike Formula.bare (operandWith inner) := by
  rintro p q ⟨ts, hp, hq⟩
  by_cases hcall :
      ∀ t ∈ ts.head?, t ≠ .negation ∧ (∀ q, t ≠ .quantifier q) ∧ t ≠ .opening
  · rw [operandWith_call hp hcall, operandWith_call hq hcall]
    exact call_alike hinner p q ⟨ts, hp, hq⟩
  · cases ts with
    | nil => exact absurd (by simp) hcall
    | cons t ts =>
        cases t with
        | negation =>
            obtain ⟨heq, hscan⟩ := operandWith_negation hp inner
            obtain ⟨heq', hscan'⟩ := operandWith_negation hq inner
            rw [heq, heq']
            exact negation_agrees hinner ⟨ts, hscan, hscan'⟩
        | quantifier quantifier =>
            obtain ⟨k, heq, hscan⟩ := operandWith_quantifier hp inner
            obtain ⟨k', heq', hscan'⟩ := operandWith_quantifier hq inner
            rw [heq, heq']
            exact quantified_agrees hinner quantifier ⟨ts, hscan, hscan'⟩
        | opening =>
            obtain ⟨heq, hscan⟩ := operandWith_opening hp inner
            obtain ⟨heq', hscan'⟩ := operandWith_opening hq inner
            rw [heq, heq']
            exact group_agrees hinner ⟨_, hp, hq⟩ ⟨ts, hscan, hscan'⟩
        | _ => exact absurd (by simp) hcall

theorem operandWith_steady (hinner : SteadyBelow inner) :
    Steady (operandWith inner) where
  alike := operandWith_alike hinner
  extent := operandWith_extends hinner.extends
  misses _ h := operandWith_misses inner h

theorem operandBelow_steady (n : Nat) : SteadyBelow (operandBelow n) :=
  operandBelow_induction (motive := fun _ read => Steady read)
    (fun _ hinner => operandWith_steady hinner) n

end Reader

/-!
# Texts
-/

theorem Session.ofText_rest (text : String) :
    (Session.ofText text).place.rest = Unicode.nfc text.toList :=
  Place.start_rest _

/-- Sessions at places abreast of each other read the same, or report the same
complaint. -/
theorem Session.read_agrees {s s' : Session} (h : s.place.Abreast s'.place) :
    (∃ f g, s.read.1 = .ok f ∧ s'.read.1 = .ok g ∧ f.same g = true) ∨
      ∃ e e', s.read.1 = .error e ∧ s'.read.1 = .error e' ∧
        e.complaint = e'.complaint := by
  have hreading : s.reading.Agrees Formula.bare s'.reading :=
    Reader.formula_alike (Reader.operandBelow_steady maxNesting) _ _
      h.skipBlanks
  have hdeep := hreading.tooDeep
  rw [read_eq, read_eq]
  cases hs : s.reading.tooDeep with
  | some offset =>
      rw [hs, Option.isSome_some, eq_comm] at hdeep
      obtain ⟨offset', hs'⟩ := Option.isSome_iff_exists.mp hdeep
      rw [hs']
      exact .inr ⟨_, _, rfl, rfl, rfl⟩
  | none =>
      rw [hs, Option.isSome_none, eq_comm, Option.isSome_eq_false_iff,
        Option.isNone_iff_eq_none] at hdeep
      rw [hdeep]
      rcases hreading.cases with
        ⟨hnone, hnone'⟩ | ⟨f, g, p, q, hf, hg, hfg, hpq⟩
      · rw [hnone, hnone']
        exact .inr ⟨_, _, rfl, rfl, rfl⟩
      · simp only [hf, hg, hpq.skipBlanks.atEnd]
        split
        · exact .inl ⟨f, g, rfl, rfl, (Formula.same_iff_bare f g).mpr hfg⟩
        · exact .inr ⟨_, _, rfl, rfl, rfl⟩

namespace Formula

/-- Only the sequence of tokens matters, not how they are spelled and what white
space stands around them: either both texts are read as the same formula, or
they are rejected for the same reason. -/
theorem parse_spelled {ts : List Token} {text text' : String}
    (hnames : ∀ x, .identifier x ∈ ts → IsName x) (h : Spelled text.toList ts)
    (h' : Spelled text'.toList ts) :
    (∃ f g, parse text = .ok f ∧ parse text' = .ok g ∧ f.same g = true) ∨
      ∃ e e', parse text = .error e ∧ parse text' = .error e' ∧
        e.message = e'.message := by
  have hnfc : ∀ x, .identifier x ∈ ts → Unicode.nfc x.toList = x.toList :=
    fun x hx => (hnames x hx).2
  have habreast :
      (Session.ofText text).place.Abreast (Session.ofText text').place := by
    refine ⟨ts, ?_, ?_⟩
    · rw [Session.ofText_rest]
      exact h.scan_nfc hnfc
    · rw [Session.ofText_rest]
      exact h'.scan_nfc hnfc
  rw [parse, parse]
  rcases Session.read_agrees habreast with hread | ⟨e, e', he, he', hcomplaint⟩
  · exact .inl hread
  · exact .inr ⟨e, e', he, he', congrArg Complaint.message hcomplaint⟩

/-- The chain of converse implications ends before the equivalence, whose sign
begins like its own in one of the texts. -/
theorem parse_spelled_mixed_chains :
    let ts : List Token :=
      [.identifier "a", .connective .impliedBy, .identifier "b",
        .connective .equivalent, .identifier "c"]
    (∀ x, .identifier x ∈ ts → IsName x) ∧ Spelled "a<-b<->c".toList ts ∧
      Spelled "a ← b\u2000↔c\n".toList ts ∧
      ((∃ f g, parse "a<-b<->c" = .ok f ∧ parse "a ← b\u2000↔c\n" = .ok g ∧
        f.same g = true) ∨
        ∃ e e', parse "a<-b<->c" = .error e ∧
          parse "a ← b\u2000↔c\n" = .error e' ∧
          e.message = e'.message) := by
  intro ts
  have hall : ∀ x ∈ ["a", "b", "c"], IsName x := by decide +kernel
  have hnames : ∀ x, .identifier x ∈ ts → IsName x := by
    intro x hx
    exact hall x (by simpa [ts] using hx)
  have hname : ∀ x ∈ ["a", "b", "c"], IsIdentifier x.toList := fun x hx =>
    (hall x hx).1
  have hblanks : [' ', '\u2000', '\n'].all Unicode.isWhiteSpace = true := by
    decide +kernel
  have hblank : ∀ c ∈ [' ', '\u2000', '\n'], Unicode.isWhiteSpace c = true :=
    List.all_eq_true.mp hblanks
  have hdense : Spelled "a<-b<->c".toList ts :=
    .name (x := "a") (hname _ (by simp)) (keepsApart_sign (by simp) _ _) <|
    .sign (s := ['<', '-']) (by simp)
      (by decide : ['<', '-'] ∈ Connective.impliedBy.spellings) <|
    .name (x := "b") (hname _ (by simp)) (keepsApart_sign (by simp) _ _) <|
    .sign (s := ['<', '-', '>']) (by simp)
      (by decide : ['<', '-', '>'] ∈ Connective.equivalent.spellings) <|
    .name (x := "c") (hname _ (by simp)) (by simp [KeepsApart]) .nil
  have hspaced : Spelled "a ← b\u2000↔c\n".toList ts :=
    .name (x := "a") (hname _ (by simp)) (keepsApart_sign (by simp) _ _) <|
    .blank (hblank ' ' (by simp)) <|
    .sign (s := ['←']) (by simp)
      (by decide : ['←'] ∈ Connective.impliedBy.spellings) <|
    .blank (hblank ' ' (by simp)) <|
    .name (x := "b") (hname _ (by simp)) (keepsApart_sign (by simp) _ _) <|
    .blank (hblank '\u2000' (by simp)) <|
    .sign (s := ['↔']) (by simp)
      (by decide : ['↔'] ∈ Connective.equivalent.spellings) <|
    .name (x := "c") (hname _ (by simp)) (by simp [KeepsApart]) <|
    .blank (hblank '\n' (by simp)) .nil
  exact ⟨hnames, hdense, hspaced, parse_spelled hnames hdense hspaced⟩

end Formula

end PredicateLogic
