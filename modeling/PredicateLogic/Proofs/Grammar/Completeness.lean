import PredicateLogic.Proofs.Grammar.Soundness

/-!
# What derives is read

Where the rest of the text consists of the tokens of a formula and of further
tokens that the formula may end before, the reader of its level reads a formula
that is the same and stops behind its tokens. The bound is never met on the way,
not even in an alternative that is given up.

The statement for a chain has two parts. A chain that may end is read. A chain
before another of its connectives is not read as such, but the reader arrives at
the same point: it would go on as from `Continues`.
-/

namespace PredicateLogic

namespace Level

/-- The reader of a level with `n` nestings left. -/
def reader (n : Nat) : Level → Reader Formula
  | .formula => Reader.formula (Reader.operandBelow n)
  | .implication => Reader.implication (Reader.operand n)
  | .junction => Reader.junction (Reader.operand n)
  | .operand => Reader.operand n
  | .chain op =>
    match op.priority with
    | .implication => Reader.implication (Reader.operand n)
    | _ => Reader.junction (Reader.operand n)

theorem reader_chain (op : Connective) (n : Nat) :
    (chain op).reader n = Reader.chained op.family ((below op).reader n) := by
  cases op <;> rfl

end Level

namespace Reader

theorem below_sound (op : Connective) (n : Nat) :
    Sound ((Level.below op).reader n) (.below op) n := by
  have hoperand : Sound (operand n) .operand n := by
    rw [operand_eq]
    exact operandWith_sound (operandBelow_sound n)
  rw [Level.below]
  split
  · exact junction_sound hoperand
  · exact hoperand

/-- The reading yields a formula that is the same as `f`, and the tokens `us`
are left. -/
def Reads (r : Reading Formula) (f : Formula) (us : List Token) : Prop :=
  ∃ g q, r.Yields g q ∧ g.same f = true ∧ Scan q.rest us []

/-- The reader of a chain of `op` at `p` goes on as from a point where it has
read a formula that is the same as `f`, and where the tokens `us` are left. -/
def Continues (op : Connective) (n : Nat) (p : Place) (f : Formula)
    (us : List Token) : Prop :=
  ∃ g q fuel, g.same f = true ∧ Scan q.rest us [] ∧ q.rest.length ≤ fuel ∧
    ∀ k r, (chain op ((Level.below op).reader n) p.offset fuel g q).Yields k r →
      ((Level.chain op).reader n p).Yields k r

variable {n : Nat} {p : Place} {op : Connective} {f g : Formula}
  {ts us : List Token}

theorem bounded_yields (hsame : g.same f = true)
    (hheight : f.height ≤ maxNesting) :
    (bounded g p).Yields g p := by
  rw [bounded, Formula.height_eq_of_same hsame, if_pos hheight]
  exact Reading.yields_success g p

/-!
# Chains
-/

theorem reads_first (hf : Reads ((Level.below op).reader n p) f us)
    (hus : (Level.chain op).StopsBefore us) :
    Reads ((Level.chain op).reader n p) f us := by
  obtain ⟨g, q, hg, hsame, hscan⟩ := hf
  refine ⟨g, q, ?_, hsame, hscan⟩
  have hstop := (Place.skipBlanks_before hscan).firstStarting?_family_eq_none
    hus.priority_ne
  rw [Level.reader_chain, chained]
  simp only [hg.outcome, hstop, Option.bind_none]
  exact hg

theorem continues_first
    (hf : Reads ((Level.below op).reader n p) f (.connective op :: us)) :
    Continues op n p f (.connective op :: us) := by
  obtain ⟨g, q, hg, hsame, hscan⟩ := hf
  refine ⟨g, q, q.rest.length, hsame, hscan, Nat.le_refl _, fun k r hk => ?_⟩
  rw [Level.reader_chain, chained]
  simp only [hg.outcome, (Place.skipBlanks_before hscan).firstStarting?_family]
  exact Reading.followedBy_yields_iff.mpr ⟨hg.tooDeep, hk⟩

/-- A further operand takes a chain from one point where it goes on to the
next. -/
theorem continues_next (hf : Continues op n p f (.connective op :: (ts ++ us)))
    (hg : ∀ q : Place, q.Before (ts ++ us) →
      Reads ((Level.below op).reader n q) g us) {s : Span}
    (hheight : (Formula.binary op f g s).height ≤ maxNesting) :
    Continues op n p (.binary op f g s) us := by
  obtain ⟨f', q, fuel, hsame, hscan, hfuel, hchain⟩ := hf
  obtain ⟨w, hw, hwscan⟩ :=
    (Place.skipBlanks_before hscan).firstStarting?_spellings
  obtain ⟨g', r, hg', hgsame, hgscan⟩ := hg _ (Place.skipBlanks_before hwscan)
  have hlength : r.rest.length < q.rest.length := by
    obtain ⟨-, vs, -, hvs⟩ := below_sound op n _ _ _ hg'
    obtain ⟨hmem, ds, hds⟩ := Spelling.firstStarting?_eq_some hw
    obtain ⟨c, v, rfl, -⟩ := (beginWithSigns_connective op).head hmem
    have hblanks :=
      (List.dropWhile_suffix Unicode.isWhiteSpace (l := q.rest)).length_le
    have hread := (hvs.of_dropWhile).suffix.length_le
    rw [Place.advance_rest_of_append hds] at hread
    rw [← Place.skipBlanks_rest, hds] at hblanks
    simp only [List.cons_append, List.length_cons, List.length_append]
      at hblanks
    omega
  have hjoined :
      (Formula.binary op f' g' ⟨p.offset, r.offset⟩).height ≤ maxNesting := by
    rw [Formula.height] at hheight ⊢
    rw [Formula.height_eq_of_same hsame, Formula.height_eq_of_same hgsame]
    exact hheight
  refine ⟨.binary op f' g' ⟨p.offset, r.offset⟩, r, fuel - 1, ?_, hgscan,
    by omega, ?_⟩
  · rw [Formula.same, hsame, hgsame, beq_self_eq_true]
    rfl
  · intro k r' hk
    apply hchain
    obtain ⟨fuel, rfl⟩ : ∃ m, fuel = m + 1 := ⟨fuel - 1, by omega⟩
    rw [chain, hw]
    simp only [hg'.outcome, if_pos hjoined]
    exact Reading.followedBy_yields_iff.mpr ⟨hg'.tooDeep, hk⟩

theorem reads_of_continues (hf : Continues op n p f us)
    (hus : (Level.chain op).StopsBefore us) :
    Reads ((Level.chain op).reader n p) f us := by
  obtain ⟨g, q, fuel, hsame, hscan, -, hchain⟩ := hf
  refine ⟨g, q, hchain g q ?_, hsame, hscan⟩
  have hstop := (Place.skipBlanks_before hscan).firstStarting?_spellings_eq_none
    hus.priority_ne
  cases fuel with
  | zero => exact Reading.yields_success g q
  | succ fuel =>
      rw [chain, hstop]
      exact Reading.yields_success g q

/-!
# Arguments
-/

variable {inner : Option (Reader Formula)} {args : List (List Token × Formula)}

/-- Every argument is read wherever an argument may end. -/
def ReadsArguments (inner : Option (Reader Formula))
    (args : List (List Token × Formula)) : Prop :=
  ∀ a ∈ args, ∀ p us, Place.Before p (a.1 ++ us) →
    Level.formula.StopsBefore us →
    Reads (formula inner p) a.2 us

theorem stopsBefore_further (args : List (List Token × Formula))
    (us : List Token) :
    Level.formula.StopsBefore
      (args.flatMap (fun a => .comma :: a.1) ++ .closing :: us) := by
  cases args with
  | nil => exact Level.stopsBefore_closing us
  | cons a args => exact Level.stopsBefore_comma _

theorem closeArguments_reads (h : p.Before (.closing :: us))
    (reversed : List Formula) :
    ∃ q, (closeArguments reversed p).Yields reversed.reverse q ∧
      Scan q.rest us [] := by
  refine ⟨p.advance 1, ?_, h.closing.2⟩
  rw [closeArguments, if_pos h.closing.1]
  exact Reading.yields_success _ _

/-- The arguments behind the first are read, each behind its comma, and the list
is closed. -/
theorem furtherArguments_reads (hinner : SoundBelow inner n)
    (hargs : ReadsArguments inner args) :
    ∀ {fuel : Nat} {p : Place} (reversed : List Formula), p.rest.length ≤ fuel →
      p.Before (args.flatMap (fun a => .comma :: a.1) ++ .closing :: us) →
      ∃ bs q, (furtherArguments inner fuel reversed p).Yields
        (reversed.reverse ++ bs) q ∧
        Formula.sameAll bs (args.map Prod.snd) = true ∧ Scan q.rest us [] := by
  induction args with
  | nil =>
      intro fuel p reversed hfuel h
      obtain ⟨q, hq, hscan⟩ := closeArguments_reads h reversed
      refine ⟨[], q, ?_, rfl, hscan⟩
      rw [List.append_nil]
      cases fuel with
      | zero => exact hq
      | succ fuel =>
          rw [furtherArguments, h.startsWith_eq_false (by decide) (by decide)]
          exact hq
  | cons a args ih =>
      intro fuel p reversed hfuel h
      rw [List.flatMap_cons, List.cons_append, List.cons_append,
        List.append_assoc] at h
      obtain ⟨hcomma, hscan⟩ := h.comma
      obtain ⟨b, r, hb, hsame, hrscan⟩ :=
        hargs a (by simp) _ _ (Place.skipBlanks_before hscan)
          (stopsBefore_further args us)
      have hlength : r.skipBlanks.rest.length < p.rest.length := by
        obtain ⟨-, vs, -, hvs⟩ := formula_sound hinner _ _ _ hb
        have hread := hvs.of_dropWhile.skip.suffix.length_le
        obtain ⟨ds, hds⟩ :=
          List.head?_eq_some_iff.mp (Place.startsWith_iff.mp hcomma)
        rw [Place.advance_rest, hds] at hread
        rw [Place.skipBlanks_rest, hds]
        exact Nat.lt_succ_of_le hread
      obtain ⟨fuel, rfl⟩ : ∃ m, fuel = m + 1 := ⟨fuel - 1, by omega⟩
      have hfuel' : r.skipBlanks.rest.length ≤ fuel := by omega
      obtain ⟨bs, q, hq, hsames, hscan⟩ :=
        ih (fun c hc => hargs c (by simp [hc]))
          (b :: reversed) hfuel' (Place.skipBlanks_before hrscan)
      refine ⟨b :: bs, q, ?_, by simp [Formula.sameAll, hsame, hsames], hscan⟩
      rw [furtherArguments, if_pos hcomma]
      simp only [hb.outcome]
      refine Reading.followedBy_yields_iff.mpr ⟨hb.tooDeep, ?_⟩
      simpa using hq

theorem arguments_reads (hinner : SoundBelow inner n) {a : List Token × Formula}
    (hargs : ReadsArguments inner (a :: args))
    (h : p.Before (a.1 ++
      (args.flatMap (fun a => .comma :: a.1) ++ .closing :: us))) :
    ∃ bs q, (arguments inner p).Yields bs q ∧
      Formula.sameAll bs ((a :: args).map Prod.snd) = true ∧
        Scan q.rest us [] := by
  obtain ⟨b, r, hb, hsame, hrscan⟩ :=
    hargs a (by simp) _ _ h (stopsBefore_further args us)
  obtain ⟨bs, q, hq, hsames, hscan⟩ :=
    furtherArguments_reads hinner (fun c hc => hargs c (by simp [hc])) [b]
      (List.dropWhile_suffix Unicode.isWhiteSpace (l := r.rest)).length_le
      (Place.skipBlanks_before hrscan)
  refine ⟨b :: bs, q, ?_, by simp [Formula.sameAll, hsame, hsames], hscan⟩
  rw [arguments]
  simp only [hb.outcome]
  exact Reading.followedBy_yields_iff.mpr ⟨hb.tooDeep, hq⟩

theorem arguments_reads_nil (h : p.Before (.closing :: us)) :
    ∃ q, (arguments (operandBelow (n + 1)) p).Yields [] q ∧
      Scan q.rest us [] := by
  obtain ⟨q, hq, hscan⟩ := closeArguments_reads h []
  have hmisses : (formula (operandBelow (n + 1)) p).Misses :=
    formula_misses n h.blocked_closing
  refine ⟨q, ?_, hscan⟩
  rw [arguments]
  simp only [hmisses.outcome]
  exact Reading.followedBy_yields_iff.mpr ⟨hmisses.tooDeep, hq⟩

/-!
# Operands
-/

theorem symbol_reads {x : String} {s : Span}
    (h : p.Before (.identifier x :: us)) (hus : Level.operand.StopsBefore us) :
    Reads (operand n p) (.symbol x s) us := by
  obtain ⟨q, hq, hscan⟩ := identifier_before h
  have hopening : q.skipBlanks.startsWith '(' = false :=
    (Place.skipBlanks_before hscan).startsWith_opening_eq_false fun t ht =>
      (hus t ht).1
  refine ⟨.symbol x ⟨p.offset, q.offset⟩, q, ?_, by simp [Formula.same], hscan⟩
  rw [operand_eq, operandWith_call h (by simp), call, hq]
  simp only [Reading.success_outcome, hopening]
  exact Reading.yields_success _ _

theorem call_reads {x : String} {as : List Formula} {s : Span}
    (h : p.Before (.identifier x :: .opening :: ts))
    (hargs : ∀ q : Place, q.Before ts →
      ∃ bs r, (arguments (operandBelow n) q).Yields bs r ∧
        Formula.sameAll bs as = true ∧ Scan r.rest us [])
    (hheight : (Formula.call x as s).height ≤ maxNesting) :
    Reads (operand n p) (.call x as s) us := by
  obtain ⟨q, hq, hscan⟩ := identifier_before h
  obtain ⟨hopening, hscan⟩ := (Place.skipBlanks_before hscan).opening
  obtain ⟨bs, r, hbs, hsames, hscan⟩ := hargs _ (Place.skipBlanks_before hscan)
  have hsame :
      (Formula.call x bs ⟨p.offset, r.offset⟩).same (.call x as s) = true := by
    simp [Formula.same, hsames]
  refine ⟨_, r, ?_, hsame, hscan⟩
  rw [operand_eq, operandWith_call h (by simp), call, hq]
  simp only [Reading.success_outcome, if_pos hopening, hbs.outcome]
  exact Reading.followedBy_yields_iff.mpr
    ⟨hbs.tooDeep, bounded_yields hsame hheight⟩

theorem group_reads (h : p.Before (.opening :: (ts ++ .closing :: us)))
    (hf : ∀ q : Place, q.Before (ts ++ .closing :: us) →
      Reads (formula (operandBelow n) q) f (.closing :: us)) :
    Reads (operand n p) f us := by
  obtain ⟨hgroup, hscan⟩ := operandWith_opening h (operandBelow n)
  obtain ⟨g, q, hg, hsame, hscan⟩ := hf _ (Place.skipBlanks_before hscan)
  obtain ⟨hclosing, hscan⟩ := (Place.skipBlanks_before hscan).closing
  refine ⟨g, q.skipBlanks.advance 1, ?_, hsame, hscan⟩
  rw [operand_eq, hgroup, group]
  simp only [hg.outcome, if_pos hclosing]
  exact Reading.followedBy_yields_iff.mpr
    ⟨hg.tooDeep, Reading.yields_success _ _⟩

theorem negation_reads {s : Span} (h : p.Before (.negation :: (ts ++ us)))
    (hf : ∀ q : Place, q.Before (ts ++ us) → Reads (operand n q) f us)
    (hheight : (Formula.negation f s).height ≤ maxNesting) :
    Reads (operand (n + 1) p) (.negation f s) us := by
  obtain ⟨hnegation, hscan⟩ := operandWith_negation h (operandBelow (n + 1))
  obtain ⟨g, q, hg, hgsame, hscan⟩ := hf _ (Place.skipBlanks_before hscan)
  have hsame : (Formula.negation g ⟨p.offset, q.offset⟩).same (.negation f s) =
      true := by
    rw [Formula.same, hgsame]
  refine ⟨_, q, ?_, hsame, hscan⟩
  rw [operand_eq, hnegation, negation]
  simp only [operandBelow, nested, hg.outcome]
  exact Reading.followedBy_yields_iff.mpr
    ⟨hg.tooDeep, bounded_yields hsame hheight⟩

theorem quantified_reads {quantifier : Quantifier} {x : String} {s : Span}
    (h : p.Before (.quantifier quantifier :: .identifier x :: (ts ++ us)))
    (hf : ∀ q : Place, q.Before (ts ++ us) → Reads (operand n q) f us)
    (hheight : (Formula.quantified quantifier x f s).height ≤ maxNesting) :
    Reads (operand (n + 1) p) (.quantified quantifier x f s) us := by
  obtain ⟨k, hquantified, hscan⟩ :=
    operandWith_quantifier h (operandBelow (n + 1))
  obtain ⟨r, hr, hscan⟩ := identifier_before (Place.skipBlanks_before hscan)
  obtain ⟨g, q, hg, hgsame, hscan⟩ := hf _ (Place.skipBlanks_before hscan)
  have hsame : (Formula.quantified quantifier x g ⟨p.offset, q.offset⟩).same
      (.quantified quantifier x f s) = true := by
    simp [Formula.same, hgsame]
  refine ⟨_, q, ?_, hsame, hscan⟩
  rw [operand_eq, hquantified, quantified, hr]
  simp only [Reading.success_outcome, operandBelow, nested, hg.outcome]
  exact Reading.followedBy_yields_iff.mpr
    ⟨hg.tooDeep, bounded_yields hsame hheight⟩

/-!
# Derivations
-/

theorem formula_reads (h : Reads (implication (operand n) p) f us) :
    Reads (formula (operandBelow (n + 1)) p) f us := by
  obtain ⟨g, q, hg, hsame, hscan⟩ := h
  refine ⟨g, q, ?_, hsame, hscan⟩
  rw [formula]
  simp only [operandBelow, Option.map_some, nested, hg.outcome]
  exact hg

theorem reads_of_derives {l : Level} (h : Derives l n ts f) :
    ∀ {p : Place} {us : List Token}, f.height ≤ maxNesting →
      p.Before (ts ++ us) →
      (l.StopsBefore us → Reads (l.reader n p) f us) ∧
      ∀ op vs, l = .chain op → us = .connective op :: vs →
        Continues op n p f us := by
  induction h with
  | symbol =>
      intro p us _ h
      exact ⟨symbol_reads h, fun op vs hl => Level.noConfusion hl⟩
  | emptyCall =>
      intro p us hheight h
      refine ⟨fun _ => call_reads h (fun q hq => ?_) hheight,
        fun op vs hl => Level.noConfusion hl⟩
      obtain ⟨r, hr, hscan⟩ := arguments_reads_nil hq
      exact ⟨[], r, hr, rfl, hscan⟩
  | @call n x args s hne _ ih =>
      intro p us hheight h
      refine ⟨fun _ => ?_, fun op vs hl => Level.noConfusion hl⟩
      cases args with
      | nil => exact absurd rfl hne
      | cons a args =>
          rw [List.map_cons, intercalate_cons, List.flatMap_map] at h
          simp only [List.cons_append, List.append_assoc, List.nil_append] at h
          refine call_reads h (fun q hq => ?_) hheight
          refine arguments_reads (operandBelow_sound n)
            (fun b hb r vs hr hvs => ?_) hq
          have hb' : b.2.height ≤ maxNesting := by
            have hle := Formula.height_le_heightAll
              (List.mem_map_of_mem (f := Prod.snd) hb)
            rw [Formula.height] at hheight
            omega
          exact (ih b hb hb' hr).1 hvs
  | group _ ih =>
      intro p us hheight h
      refine ⟨fun _ => ?_, fun op vs hl => Level.noConfusion hl⟩
      rw [List.append_assoc] at h
      exact group_reads h fun q hq =>
        (ih hheight hq).1 (Level.stopsBefore_closing us)
  | negation _ ih =>
      intro p us hheight h
      refine ⟨fun hus => ?_, fun op vs hl => Level.noConfusion hl⟩
      have hf := Nat.le_of_succ_le hheight
      exact negation_reads h (fun q hq => (ih hf hq).1 hus) hheight
  | quantified _ ih =>
      intro p us hheight h
      refine ⟨fun hus => ?_, fun op vs hl => Level.noConfusion hl⟩
      have hf := Nat.le_of_succ_le hheight
      exact quantified_reads h (fun q hq => (ih hf hq).1 hus) hheight
  | first _ ih =>
      intro p us hheight h
      refine ⟨fun hus => reads_first ((ih hheight h).1 hus.below) hus, ?_⟩
      rintro op vs hl rfl
      obtain rfl := Level.chain.inj hl
      exact continues_first
        ((ih hheight h).1 (Level.stopsBefore_connective _ vs))
  | @next op n ts ts' f g s _ _ ihf ihg =>
      intro p us hheight h
      have hboth := hheight
      rw [Formula.height] at hboth
      rw [List.append_assoc] at h
      have hfirst := (ihf (by omega) h).2 op _ rfl rfl
      refine ⟨fun hus => ?_, ?_⟩
      · refine reads_of_continues
          (continues_next hfirst (fun q hq => ?_) hheight) hus
        exact (ihg (by omega) hq).1 hus.below
      · rintro op' vs hl rfl
        obtain rfl := Level.chain.inj hl
        refine continues_next hfirst (fun q hq => ?_) hheight
        exact (ihg (by omega) hq).1 (Level.stopsBefore_connective _ vs)
  | junction hop _ ih | implication hop _ ih =>
      intro p us hheight h
      refine ⟨fun hus => ?_, fun op vs hl => Level.noConfusion hl⟩
      have hreads := (ih hheight h).1
      rw [Level.StopsBefore, Level.priority, Level.reader, hop] at hreads
      exact hreads hus
  | formula _ ih =>
      intro p us hheight h
      exact ⟨fun hus => formula_reads ((ih hheight h).1 hus),
        fun op vs hl => Level.noConfusion hl⟩

end Reader

end PredicateLogic
