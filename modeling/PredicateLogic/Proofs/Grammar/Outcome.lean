import PredicateLogic.Proofs.Grammar.Lookahead
import PredicateLogic.Proofs.Grammar.Reading

/-!
# The ways to read something

Each reader that reads anything does so in one of a few ways. There is one lemma
for each reader, which lists them and says for each which reading the result is
put together from. What holds of everything that is read follows from these
lemmas without another look at the readers.
-/

namespace PredicateLogic

namespace Reader

variable {inner : Option (Reader Formula)} {p q : Place} {f : Formula}

/-- A name is a maximal run of identifier characters. -/
theorem identifier_inv {x : String} (h : (identifier p).outcome = some (x, q)) :
    p.rest = x.toList ++ q.rest ∧ q = p.advance x.toList.length ∧
      IsIdentifier x.toList ∧
      EndsIdentifier q.rest := by
  rw [identifier] at h
  split at h
  · exact absurd h (by simp)
  · next c cs hp =>
    split at h
    · next hc =>
      simp only [Reading.success_outcome, Option.some.injEq, Prod.mk.injEq] at h
      obtain ⟨rfl, rfl⟩ := h
      have hsplit : p.rest = (c :: cs.takeWhile isIdentifierContinue) ++
          cs.dropWhile isIdentifierContinue := by
        rw [hp, List.cons_append, List.takeWhile_append_dropWhile]
      have hname : IsIdentifier (c :: cs.takeWhile isIdentifierContinue) :=
        ⟨c, _, rfl, hc, fun d hd => List.all_eq_true.mp List.all_takeWhile d hd⟩
      rw [String.toList_ofList, Place.advance_rest_of_append hsplit]
      exact ⟨hsplit, rfl, hname, endsIdentifier_dropWhile cs⟩
    · exact absurd h (by simp)

theorem nested_inv (h : (nested inner p).outcome = some (f, q)) :
    ∃ read, inner = some read ∧ nested inner p = read p := by
  cases inner with
  | none => exact absurd h (by simp [nested])
  | some read => exact ⟨read, rfl, rfl⟩

theorem bounded_inv {a : Formula} (h : (bounded a p).outcome = some (f, q)) :
    a = f ∧ p = q ∧ f.height ≤ maxNesting ∧ bounded a p = .success f q := by
  rw [bounded] at h ⊢
  split at h
  · next ha =>
    obtain ⟨rfl, rfl⟩ : a = f ∧ p = q := by simpa using h
    exact ⟨rfl, rfl, ha, if_pos ha⟩
  · exact absurd h (by simp)

/-!
# Chains
-/

/-- A chain ends, or it goes on behind a further operand. -/
theorem chain_inv {op : Connective} {read : Reader Formula} {start fuel : Nat}
    {left : Formula}
    (h : (chain op read start (fuel + 1) left p).outcome = some (f, q)) :
    (left = f ∧ p = q) ∨
      ∃ s ds b r, s ∈ op.spellings ∧ p.skipBlanks.rest = s ++ ds ∧
      (read (p.skipBlanks.advance s.length).skipBlanks).outcome = some (b, r) ∧
      (Formula.binary op left b ⟨start, r.offset⟩).height ≤ maxNesting ∧
      chain op read start (fuel + 1) left p =
        (read (p.skipBlanks.advance s.length).skipBlanks).followedBy
          (chain op read start fuel (.binary op left b ⟨start, r.offset⟩)
            r) := by
  rw [chain] at h ⊢
  split at h
  · exact .inl (by simpa using h)
  · next s hs =>
    obtain ⟨hmem, ds, hds⟩ := Spelling.firstStarting?_eq_some hs
    simp only at h
    split at h
    · exact .inl (by simpa using h)
    · next b r hb =>
      split at h
      · next hjoined =>
        exact .inr
          ⟨s, ds, b, r, hmem, hds, hb, hjoined, by simp [hb, hjoined]⟩
      · exact absurd h (by simp)

theorem priority_of_junctionSpellings {s : Spelling} {op : Connective}
    (hs : s ∈ Connective.junctionSpellings)
    (hop : Connective.ofSpelling? s = some op) :
    op.priority = .junction := by
  have hall : ∀ s ∈ Connective.junctionSpellings, ∀ op ∈ Connective.all,
      Connective.ofSpelling? s = some op → op.priority = .junction := by decide
  exact hall s hs op (List.mem_of_find?_eq_some hop) hop

theorem priority_of_implicationSpellings {s : Spelling} {op : Connective}
    (hs : s ∈ Connective.implicationSpellings)
    (hop : Connective.ofSpelling? s = some op) :
    op.priority = .implication := by
  have hall : ∀ s ∈ Connective.implicationSpellings, ∀ op ∈ Connective.all,
      Connective.ofSpelling? s = some op →
        op.priority = .implication := by decide
  exact hall s hs op (List.mem_of_find?_eq_some hop) hop

/-- The chains of a level begin with an operand, which may be all. -/
theorem chained_inv (spellings : List Spelling) (read : Reader Formula)
    (p : Place) :
    chained spellings read p = read p ∨ ∃ s ∈ spellings, ∃ op a r,
      Connective.ofSpelling? s = some op ∧ (read p).outcome = some (a, r) ∧
      chained spellings read p =
        (read p).followedBy (chain op read p.offset r.rest.length a r) := by
  rw [chained]
  split
  · exact .inl rfl
  · next a r ha =>
    split
    · exact .inl rfl
    · next op hop =>
      obtain ⟨s, hs, hsop⟩ := Option.bind_eq_some_iff.mp hop
      exact .inr ⟨s, (Spelling.firstStarting?_eq_some hs).1, op, a, r,
        hsop, ha, rfl⟩

theorem formula_inv (h : (formula inner p).outcome = some (f, q)) :
    ∃ read, inner = some read ∧ formula inner p = implication read p := by
  rw [formula] at h ⊢
  split at h
  · exact absurd h (by simp)
  · next a ha =>
    cases inner with
    | none => exact absurd h (by simp [nested])
    | some read => exact ⟨read, rfl, rfl⟩

/-!
# Arguments
-/

theorem closeArguments_inv {reversed as : List Formula}
    (h : (closeArguments reversed p).outcome = some (as, q)) :
    closeArguments reversed p = .success as q ∧ as = reversed.reverse ∧
      p.startsWith ')' = true ∧ q = p.advance 1 := by
  rw [closeArguments] at h ⊢
  split at h
  · next hclosing =>
    obtain ⟨rfl, rfl⟩ : reversed.reverse = as ∧ p.advance 1 = q := by
      simpa using h
    exact ⟨if_pos hclosing, rfl, hclosing, rfl⟩
  · exact absurd h (by simp)

/-- The list of arguments ends, or it goes on behind a further one. -/
theorem furtherArguments_inv {fuel : Nat} {reversed as : List Formula}
    (h : (furtherArguments inner (fuel + 1) reversed p).outcome =
      some (as, q)) :
    furtherArguments inner (fuel + 1) reversed p = closeArguments reversed p ∨
      ∃ a r, p.startsWith ',' = true ∧
        (formula inner (p.advance 1).skipBlanks).outcome = some (a, r) ∧
        furtherArguments inner (fuel + 1) reversed p =
          (formula inner (p.advance 1).skipBlanks).followedBy
            (furtherArguments inner fuel (a :: reversed) r.skipBlanks) := by
  rw [furtherArguments] at h ⊢
  split at h
  · next hcomma =>
    simp only at h
    split at h
    · exact absurd h (by simp)
    · next a r ha => exact .inr ⟨a, r, hcomma, ha, by simp [hcomma, ha]⟩
  · next hcomma => exact .inl (if_neg hcomma)

/-- There are no arguments, or there is a first one. -/
theorem arguments_inv (inner : Option (Reader Formula)) (p : Place) :
    arguments inner p = (formula inner p).followedBy (closeArguments [] p) ∨
      ∃ a r, (formula inner p).outcome = some (a, r) ∧ arguments inner p =
        (formula inner p).followedBy
          (furtherArguments inner r.rest.length [a] r.skipBlanks) := by
  rw [arguments]
  split
  · exact .inl rfl
  · next a r ha => exact .inr ⟨a, r, ha, rfl⟩

/-!
# Operands
-/

/-- A name is read alone, or together with the arguments behind it. -/
theorem call_inv (h : (call inner p).outcome = some (f, q)) :
    ∃ x r, (identifier p).outcome = some (x, r) ∧
      ((f = .symbol x ⟨p.offset, r.offset⟩ ∧ q = r) ∨
        ∃ as, r.skipBlanks.startsWith '(' = true ∧
          (arguments inner (r.skipBlanks.advance 1).skipBlanks).outcome =
            some (as, q) ∧
          f = .call x as ⟨p.offset, q.offset⟩ ∧ f.height ≤ maxNesting ∧
          call inner p =
            (arguments inner (r.skipBlanks.advance 1).skipBlanks).followedBy
            (.success f q)) := by
  rw [call] at h ⊢
  split at h
  · exact absurd h (by simp)
  · next x r hx =>
    refine ⟨x, r, hx, ?_⟩
    have hsymbol :
        (Reading.success (.symbol x ⟨p.offset, r.offset⟩) r).outcome =
        some (f, q) →
        f = .symbol x ⟨p.offset, r.offset⟩ ∧ q = r := by
      intro h
      obtain ⟨rfl, rfl⟩ := Prod.mk.inj (Option.some.inj h)
      exact ⟨rfl, rfl⟩
    simp only at h
    split at h
    · next hopening =>
      split at h
      · exact .inl (hsymbol h)
      · next as r' has =>
        obtain ⟨rfl, rfl, hheight, hsuccess⟩ := bounded_inv h
        exact .inr ⟨as, hopening, has, rfl, hheight,
          by simp [hopening, has, hsuccess]⟩
    · exact .inl (hsymbol h)

/-- A group is read up to its closing parenthesis, or a call is read in its
place. -/
theorem group_inv (h : (group inner p).outcome = some (f, q)) :
    (∃ first : Reading Formula,
      group inner p = first.followedBy (call inner p)) ∨
      ∃ r, (formula inner (p.advance 1).skipBlanks).outcome = some (f, r) ∧
        r.skipBlanks.startsWith ')' = true ∧ q = r.skipBlanks.advance 1 ∧
        group inner p = (formula inner (p.advance 1).skipBlanks).followedBy
          (.success f q) := by
  rw [group] at h ⊢
  split at h
  · exact .inl ⟨_, rfl⟩
  · next a r ha =>
    split at h
    · next hclosing =>
      obtain ⟨rfl, rfl⟩ := Prod.mk.inj (Option.some.inj h)
      exact .inr ⟨r, ha, hclosing, rfl, by simp [hclosing]⟩
    · next hclosing => exact .inl ⟨_, if_neg hclosing⟩

theorem negation_inv (h : (negation inner p).outcome = some (f, q)) :
    ∃ a, (nested inner (p.advance 1).skipBlanks).outcome = some (a, q) ∧
      f = .negation a ⟨p.offset, q.offset⟩ ∧ f.height ≤ maxNesting ∧
      negation inner p =
        (nested inner (p.advance 1).skipBlanks).followedBy (.success f q) := by
  rw [negation] at h ⊢
  split at h
  · exact absurd h (by simp)
  · next a r ha =>
    obtain ⟨rfl, rfl, hheight, hsuccess⟩ := bounded_inv h
    exact ⟨a, ha, rfl, hheight, by simp only [hsuccess]⟩

theorem quantified_inv {quantifier : Quantifier} {length : Nat}
    (h : (quantified inner quantifier length p).outcome = some (f, q)) :
    ∃ x r a, (identifier (p.advance length).skipBlanks).outcome = some (x, r) ∧
      (nested inner r.skipBlanks).outcome = some (a, q) ∧
      f = .quantified quantifier x a ⟨p.offset, q.offset⟩ ∧
      f.height ≤ maxNesting ∧
      quantified inner quantifier length p =
        (nested inner r.skipBlanks).followedBy (.success f q) := by
  rw [quantified] at h ⊢
  split at h
  · exact absurd h (by simp)
  · next x r hx =>
    simp only at h
    split at h
    · exact absurd h (by simp)
    · next a r' ha =>
      obtain ⟨rfl, rfl, hheight, hsuccess⟩ := bounded_inv h
      exact ⟨x, r, a, hx, ha, rfl, hheight, by simp only [ha, hsuccess]⟩

theorem operand_eq (n : Nat) : operand n = operandWith (operandBelow n) := by
  cases n <;> rfl

/-- What passes on from the reader one nesting further in to that of operands
holds at every nesting. -/
theorem operandBelow_induction {motive : Nat → Reader Formula → Prop}
    (step : ∀ n, (∀ read, operandBelow n = some read → motive n read) →
      motive (n + 1) (operandWith (operandBelow n))) :
    ∀ n read, operandBelow n = some read → motive n read := by
  intro n
  induction n with
  | zero => exact fun read h => absurd h (by simp [operandBelow])
  | succ n ih =>
      intro read h
      obtain rfl := Option.some.inj h
      rw [operand_eq]
      exact step n ih

/-- The kinds of operands. -/
theorem operandWith_inv (inner : Option (Reader Formula)) (p : Place) :
    (∃ s ∈ negationSpellings, ∃ ds, p.rest = s ++ ds ∧
        operandWith inner p = negation inner p) ∨
      (∃ s ∈ Quantifier.spellings, ∃ ds quantifier, p.rest = s ++ ds ∧
        Quantifier.ofSpelling? s = some quantifier ∧
        operandWith inner p = quantified inner quantifier s.length p) ∨
      (p.startsWith '(' = true ∧ operandWith inner p = group inner p) ∨
      operandWith inner p = call inner p := by
  rw [operandWith]
  split
  · next hsign =>
    obtain ⟨s, hs⟩ := Option.isSome_iff_exists.mp hsign
    obtain ⟨hmem, ds, hds⟩ := Spelling.firstStarting?_eq_some hs
    exact .inl ⟨s, hmem, ds, hds, rfl⟩
  · split
    · next quantifier length hsign =>
      obtain ⟨s, hs, hsq⟩ := Option.bind_eq_some_iff.mp hsign
      obtain ⟨hmem, ds, hds⟩ := Spelling.firstStarting?_eq_some hs
      obtain ⟨q', hq', heq⟩ := Option.map_eq_some_iff.mp hsq
      obtain ⟨rfl, rfl⟩ := Prod.mk.inj heq
      exact .inr (.inl ⟨s, hmem, ds, q', hds, hq', rfl⟩)
    · split
      · next hopening => exact .inr (.inr (.inl ⟨hopening, rfl⟩))
      · exact .inr (.inr (.inr rfl))

end Reader

end PredicateLogic
