import PredicateLogic.Proofs.Grammar.Outcome

/-!
# What is read derives

Whatever a reader yields has a derivation of the reader's level, from the tokens
between the place where it began and the place where it ended. The readers that
fall back to another alternative need no special care here: the alternative that
was read in the end has a derivation of its own.

There is one statement for each reader. Those that go on one nesting further in
are given what holds of the reader there, `SoundBelow`, and `operand_sound` puts
them together by induction on the nestings that are left.
-/

namespace PredicateLogic

namespace Reader

/-- The text `cs` writes the formula down to `rest`, and the height of the
formula is within the bound. -/
structure DerivesOver (l : Level) (n : Nat) (f : Formula)
    (cs rest : List Char) : Prop where
  height : f.height ≤ maxNesting
  tokens : ∃ ts, Derives l n ts f ∧ Scan cs ts rest

/-- Whatever is read is a formula of the level. -/
def Sound (read : Reader Formula) (l : Level) (n : Nat) : Prop :=
  ∀ p f q, (read p).Yields f q → DerivesOver l n f p.rest q.rest

/-- The reader one nesting further in, if there is one, reads operands that nest
less deep. -/
def SoundBelow (inner : Option (Reader Formula)) (n : Nat) : Prop :=
  ∀ read, inner = some read → ∃ m, n = m + 1 ∧ Sound read .operand m

variable {inner : Option (Reader Formula)} {n : Nat} {p q : Place} {f : Formula}

/-!
# Tokens and the bound
-/

/-- A token is read in front of what follows its spelling. -/
theorem scan_of_spells {t : Token} {s ds : List Char} {ts : List Token}
    {rest : List Char} (ht : t.Spells s) (hends : t.EndsBefore ds)
    (hp : p.rest = s ++ ds) (h : Scan (p.advance s.length).rest ts rest) :
    Scan p.rest (t :: ts) rest := by
  rw [Place.advance_rest_of_append hp] at h
  rw [hp]
  exact .token ht hends h

theorem scan_of_startsWith {t : Token} {c : Char} {ts : List Token}
    {rest : List Char} (ht : t.Spells [c]) (hends : ∀ cs, t.EndsBefore cs)
    (hp : p.startsWith c = true) (h : Scan (p.advance 1).rest ts rest) :
    Scan p.rest (t :: ts) rest := by
  obtain ⟨ds, hds⟩ := List.head?_eq_some_iff.mp (Place.startsWith_iff.mp hp)
  exact scan_of_spells ht (hends ds) hds h

/-- A name that is read is an identifier of the text that nothing continues. -/
theorem identifier_sound {x : String}
    (h : (identifier p).outcome = some (x, q)) :
    Scan p.rest [.identifier x] q.rest := by
  obtain ⟨hrest, -, hname, hends⟩ := identifier_inv h
  rw [hrest]
  exact .token ⟨rfl, hname⟩ hends .here

/-- What is read one nesting further in is read by a reader that has one nesting
less left. -/
theorem nested_sound (hinner : SoundBelow inner n)
    (h : (nested inner p).Yields f q) :
    ∃ m, n = m + 1 ∧ DerivesOver .operand m f p.rest q.rest := by
  obtain ⟨read, hread, heq⟩ := nested_inv h.outcome
  obtain ⟨m, hm, hsound⟩ := hinner read hread
  rw [heq] at h
  exact ⟨m, hm, hsound p f q h⟩

/-!
# Chains
-/

/-- A further operand extends the derivation of what has been read of a
chain. -/
theorem joined_sound {op : Connective} {s ds cs : List Char} {left b : Formula}
    {p r : Place} {span : Span} (hs : s ∈ op.spellings)
    (hp : p.skipBlanks.rest = s ++ ds)
    (hleft : DerivesOver (.chain op) n left cs p.rest)
    (hright : DerivesOver (.below op) n b
      (p.skipBlanks.advance s.length).skipBlanks.rest r.rest)
    (hheight : (Formula.binary op left b span).height ≤ maxNesting) :
    DerivesOver (.chain op) n (.binary op left b span) cs r.rest := by
  obtain ⟨-, ts, hts, hscan⟩ := hleft
  obtain ⟨-, us, hus, hscanus⟩ := hright
  have hnext : Scan p.skipBlanks.rest (.connective op :: us) r.rest :=
    scan_of_spells hs trivial hp hscanus.of_dropWhile
  exact ⟨hheight, _, .next hts hus, hscan.trans hnext.of_dropWhile⟩

/-- What continues a chain extends the derivation of what has been read of
it. -/
theorem chain_sound {op : Connective} {read : Reader Formula}
    (hread : Sound read (.below op) n) {start : Nat} {cs : List Char} :
    ∀ {fuel : Nat} {left : Formula} {p : Place}, DerivesOver (.chain op) n
      left cs p.rest →
      (chain op read start fuel left p).Yields f q →
        DerivesOver (.chain op) n f cs q.rest := by
  intro fuel
  induction fuel with
  | zero =>
      intro left p hleft h
      obtain ⟨rfl, rfl⟩ := Reading.success_yields_iff.mp h
      exact hleft
  | succ fuel ih =>
      intro left p hleft h
      rcases chain_inv h.outcome with
        ⟨rfl, rfl⟩ | ⟨s, ds, b, r, hs, hp, hb, hheight, heq⟩
      · exact hleft
      · rw [heq, Reading.followedBy_yields_iff] at h
        obtain ⟨hdeep, h⟩ := h
        exact ih (joined_sound hs hp hleft (hread _ b r ⟨hb, hdeep⟩) hheight) h

theorem DerivesOver.first {op : Connective} {cs rest : List Char}
    (h : DerivesOver (.below op) n f cs rest) :
    DerivesOver (.chain op) n f cs rest := by
  obtain ⟨hheight, ts, hts, hscan⟩ := h
  exact ⟨hheight, ts, .first hts, hscan⟩

/-- A level that consists of the chains of one priority. The first connective
settles which of them continues the chain. -/
theorem chained_sound (pr : Priority) {spellings : List Spelling}
    {read : Reader Formula} {l : Level}
    (hspellings : ∀ s ∈ spellings, ∀ op, Connective.ofSpelling? s = some op →
      op.priority = pr)
    (hbelow : ∀ op : Connective, op.priority = pr → Sound read (.below op) n)
    (hop : ∃ op : Connective, op.priority = pr)
    (hl : ∀ {op : Connective} {ts : List Token} {f : Formula},
      op.priority = pr → Derives (.chain op) n ts f → Derives l n ts f) :
    Sound (chained spellings read) l n := by
  intro p f q h
  rcases chained_inv spellings read p with
    heq | ⟨s, hs, op, a, r, hsop, ha, heq⟩
  · rw [heq] at h
    obtain ⟨op, hpr⟩ := hop
    obtain ⟨hheight, ts, hts, hscan⟩ := hbelow op hpr p f q h
    exact ⟨hheight, ts, hl hpr (.first hts), hscan⟩
  · rw [heq, Reading.followedBy_yields_iff] at h
    obtain ⟨hdeep, h⟩ := h
    have hpr := hspellings s hs op hsop
    have hfirst := (hbelow op hpr p a r ⟨ha, hdeep⟩).first
    obtain ⟨hheight, ts, hts, hscan⟩ := chain_sound (hbelow op hpr) hfirst h
    exact ⟨hheight, ts, hl hpr hts, hscan⟩

theorem junction_sound {read : Reader Formula} (h : Sound read .operand n) :
    Sound (junction read) .junction n := by
  refine chained_sound .junction
    (fun _ hs _ => priority_of_junctionSpellings hs) ?_ ⟨.and, rfl⟩
    Derives.junction
  intro op hop
  rw [Level.below, hop]
  exact h

theorem implication_sound {read : Reader Formula} (h : Sound read .operand n) :
    Sound (implication read) .implication n := by
  refine chained_sound .implication
    (fun _ hs _ => priority_of_implicationSpellings hs) ?_
    ⟨.implies, rfl⟩ Derives.implication
  intro op hop
  rw [Level.below, hop]
  exact junction_sound h

theorem formula_sound (h : SoundBelow inner n) :
    Sound (formula inner) .formula n := by
  intro p f q hf
  obtain ⟨read, hread, heq⟩ := formula_inv hf.outcome
  obtain ⟨m, rfl, hsound⟩ := h read hread
  rw [heq] at hf
  obtain ⟨hheight, ts, hts, hscan⟩ := implication_sound hsound p f q hf
  exact ⟨hheight, ts, .formula hts, hscan⟩

/-!
# Arguments
-/

/-- The tokens of a list of arguments that is not empty, with the closing
parenthesis. -/
def argumentTokens (args : List (List Token × Formula)) : List Token :=
  [.comma].intercalate (args.map Prod.fst) ++ [.closing]

theorem closeArguments_sound {reversed as : List Formula}
    (h : (closeArguments reversed p).outcome = some (as, q)) :
    as = reversed.reverse ∧ Scan p.rest [.closing] q.rest := by
  obtain ⟨-, rfl, hclosing, rfl⟩ := closeArguments_inv h
  exact ⟨rfl,
    scan_of_startsWith (t := .closing) rfl (fun _ => trivial) hclosing .here⟩

/-- The arguments read so far are `args`. -/
theorem furtherArguments_sound (hinner : SoundBelow inner n) {cs : List Char}
    {as : List Formula} :
    ∀ {fuel : Nat} (args : List (List Token × Formula)) {p : Place}, args ≠ [] →
      (∀ a ∈ args, Derives .formula n a.1 a.2) →
      Scan cs ([.comma].intercalate (args.map Prod.fst)) p.rest →
      (furtherArguments inner fuel (args.map Prod.snd).reverse p).Yields as q →
      ∃ args' : List (List Token × Formula), args' ≠ [] ∧
        as = args'.map Prod.snd ∧
        (∀ a ∈ args', Derives .formula n a.1 a.2) ∧
        Scan cs (argumentTokens args') q.rest := by
  intro fuel
  induction fuel with
  | zero =>
      intro args p hne hargs hscan h
      obtain ⟨rfl, hclosing⟩ := closeArguments_sound h.outcome
      exact ⟨args, hne, List.reverse_reverse _, hargs, hscan.trans hclosing⟩
  | succ fuel ih =>
      intro args p hne hargs hscan h
      rcases furtherArguments_inv h.outcome with heq | ⟨a, r, hcomma, ha, heq⟩
      · rw [heq] at h
        obtain ⟨rfl, hclosing⟩ := closeArguments_sound h.outcome
        exact ⟨args, hne, List.reverse_reverse _, hargs, hscan.trans hclosing⟩
      · rw [heq, Reading.followedBy_yields_iff] at h
        obtain ⟨hdeep, h⟩ := h
        obtain ⟨-, us, hus, hscanus⟩ := formula_sound hinner _ a r ⟨ha, hdeep⟩
        have hmore : Scan p.rest (.comma :: us) r.rest :=
          scan_of_startsWith rfl (fun _ => trivial) hcomma hscanus.of_dropWhile
        refine ih (args ++ [(us, a)]) (by simp) ?_ ?_ (by simpa using h)
        · intro b hb
          rcases List.mem_append.mp hb with hb | hb
          · exact hargs b hb
          · obtain rfl := List.mem_singleton.mp hb
            exact hus
        · rw [List.map_append, List.map_singleton,
            intercalate_concat (by simpa using hne)]
          exact (hscan.trans hmore).skip

/-- A list of arguments is empty, with a nesting left for them, or has a
derivation for each. -/
theorem arguments_sound (hinner : SoundBelow inner n) {as : List Formula}
    (h : (arguments inner p).Yields as q) :
    (as = [] ∧ (∃ m, n = m + 1) ∧ Scan p.rest [.closing] q.rest) ∨
      ∃ args : List (List Token × Formula), args ≠ [] ∧ as = args.map Prod.snd ∧
        (∀ a ∈ args, Derives .formula n a.1 a.2) ∧
        Scan p.rest (argumentTokens args) q.rest := by
  rcases arguments_inv inner p with heq | ⟨a, r, ha, heq⟩
  · rw [heq, Reading.followedBy_yields_iff] at h
    obtain ⟨hdeep, h⟩ := h
    obtain ⟨rfl, hclosing⟩ := closeArguments_sound h.outcome
    refine .inl ⟨rfl, ?_, hclosing⟩
    -- Without a nesting left, the attempt to read an argument would have met
    -- the bound.
    cases inner with
    | none => exact absurd hdeep (by simp [formula, nested])
    | some read =>
        obtain ⟨m, hm, -⟩ := hinner read rfl
        exact ⟨m, hm⟩
  · rw [heq, Reading.followedBy_yields_iff] at h
    obtain ⟨hdeep, h⟩ := h
    obtain ⟨-, ts, hts, hscan⟩ := formula_sound hinner p a r ⟨ha, hdeep⟩
    refine .inr (furtherArguments_sound hinner [(ts, a)] (by simp) ?_ ?_ h)
    · intro b hb
      obtain rfl := List.mem_singleton.mp hb
      exact hts
    · simpa [List.intercalate] using hscan.skip

/-!
# Operands
-/

theorem call_sound (hinner : SoundBelow inner n) :
    Sound (call inner) .operand n := by
  intro p f q h
  obtain ⟨x, r, hx, ⟨rfl, rfl⟩ | ⟨as, hopening, has, rfl, hheight, heq⟩⟩ :=
    call_inv h.outcome
  · exact ⟨Nat.zero_le _, _, .symbol, identifier_sound hx⟩
  · have hopen : ∀ {ts : List Token} {rest : List Char},
        Scan (r.skipBlanks.advance 1).skipBlanks.rest ts rest →
        Scan p.rest (.identifier x :: .opening :: ts) rest := by
      intro ts rest hscan
      have hnext : Scan r.skipBlanks.rest (.opening :: ts) rest :=
        scan_of_startsWith rfl (fun _ => trivial) hopening hscan.of_dropWhile
      exact (identifier_sound hx).trans hnext.of_dropWhile
    rw [heq, Reading.followedBy_yields_iff] at h
    rcases arguments_sound hinner ⟨has, h.1⟩ with
      ⟨rfl, ⟨m, rfl⟩, hclosing⟩ | ⟨args, hne, rfl, hargs, hscan⟩
    · exact ⟨hheight, _, .emptyCall, hopen hclosing⟩
    · exact ⟨hheight, _, .call hne hargs, hopen hscan⟩

theorem group_sound (hinner : SoundBelow inner n) (hp : p.startsWith '(' = true)
    (h : (group inner p).Yields f q) :
    DerivesOver .operand n f p.rest q.rest := by
  rcases group_inv h.outcome with ⟨first, heq⟩ | ⟨r, hf, hclosing, rfl, heq⟩
  · rw [heq, Reading.followedBy_yields_iff] at h
    exact call_sound hinner p f q h.2
  · rw [heq, Reading.followedBy_yields_iff] at h
    obtain ⟨hheight, ts, hts, hscan⟩ := formula_sound hinner _ f r ⟨hf, h.1⟩
    have hend :
        Scan r.skipBlanks.rest [.closing] (r.skipBlanks.advance 1).rest :=
      scan_of_startsWith rfl (fun _ => trivial) hclosing .here
    refine ⟨hheight, _, .group hts, ?_⟩
    exact scan_of_startsWith rfl (fun _ => trivial) hp
      (hscan.of_dropWhile.trans hend.of_dropWhile)

theorem negation_sound (hinner : SoundBelow inner n) {s ds : List Char}
    (hs : s ∈ negationSpellings) (hp : p.rest = s ++ ds)
    (h : (negation inner p).Yields f q) :
    DerivesOver .operand n f p.rest q.rest := by
  obtain ⟨a, ha, rfl, hheight, heq⟩ := negation_inv h.outcome
  rw [heq, Reading.followedBy_yields_iff] at h
  obtain ⟨m, rfl, -, ts, hts, hscan⟩ := nested_sound hinner ⟨ha, h.1⟩
  refine ⟨hheight, _, .negation hts, scan_of_spells hs trivial hp ?_⟩
  rw [length_of_mem_negationSpellings s hs]
  exact hscan.of_dropWhile

theorem quantified_sound (hinner : SoundBelow inner n) {quantifier : Quantifier}
    {s ds : List Char} (hs : s ∈ Quantifier.spellings)
    (hq : Quantifier.ofSpelling? s = some quantifier) (hp : p.rest = s ++ ds)
    (h : (quantified inner quantifier s.length p).Yields f q) :
    DerivesOver .operand n f p.rest q.rest := by
  obtain ⟨x, r, a, hx, ha, rfl, hheight, heq⟩ := quantified_inv h.outcome
  rw [heq, Reading.followedBy_yields_iff] at h
  obtain ⟨m, rfl, -, ts, hts, hscan⟩ := nested_sound hinner ⟨ha, h.1⟩
  have hname : Scan (p.advance s.length).rest (.identifier x :: ts) q.rest :=
    (identifier_sound hx).of_dropWhile.trans hscan.of_dropWhile
  exact ⟨hheight, _, .quantified hts, scan_of_spells ⟨hs, hq⟩ trivial hp hname⟩

theorem operandWith_sound (hinner : SoundBelow inner n) :
    Sound (operandWith inner) .operand n := by
  intro p f q h
  rcases operandWith_inv inner p with
    ⟨s, hs, ds, hp, heq⟩ | ⟨s, hs, ds, quantifier, hp, hq, heq⟩ |
    ⟨hopening, heq⟩ | heq
  · exact negation_sound hinner hs hp (heq ▸ h)
  · exact quantified_sound hinner hs hq hp (heq ▸ h)
  · exact group_sound hinner hopening (heq ▸ h)
  · exact call_sound hinner p f q (heq ▸ h)

theorem operandBelow_sound (n : Nat) : SoundBelow (operandBelow n) n :=
  operandBelow_induction
    (motive := fun n read => ∃ m, n = m + 1 ∧ Sound read .operand m)
    (fun n hinner => ⟨n, rfl, operandWith_sound hinner⟩) n

end Reader

end PredicateLogic
