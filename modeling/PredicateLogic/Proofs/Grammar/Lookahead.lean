import PredicateLogic.Formula.Reader
import PredicateLogic.Proofs.Grammar.Derivation
import PredicateLogic.Proofs.Grammar.Reading

/-!
# What the next token settles

The reader decides how to go on by comparing the rest of the text with
spellings. Where the rest of the text consists of tokens, `Place.Before p ts`,
each of these comparisons depends on the first token alone. There is one
statement for each decision, so that nothing beyond this module speaks of
characters.
-/

namespace PredicateLogic

namespace Place

/-- No white space follows, and the rest of the text consists of the tokens
`ts`. -/
structure Before (p : Place) (ts : List Token) : Prop where
  unblanked : Unblanked p.rest
  scan : Scan p.rest ts []

theorem skipBlanks_before {p : Place} {ts : List Token}
    (h : Scan p.rest ts []) :
    p.skipBlanks.Before ts :=
  ⟨unblanked_dropWhile p.rest, h.dropWhile⟩

theorem startsWith_iff {p : Place} {c : Char} :
    p.startsWith c = true ↔ p.rest.head? = some c := by
  rw [startsWith]
  cases p.rest with
  | nil => simp
  | cons d ds => simp [eq_comm (a := c)]

namespace Before

variable {p : Place} {t : Token} {ts : List Token}

theorem spelling (h : p.Before (t :: ts)) :
    ∃ s ds, p.rest = s ++ ds ∧ t.Spells s ∧ t.EndsBefore ds ∧ Scan ds ts [] :=
  h.scan.cons_inv h.unblanked

theorem rest_eq_nil (h : p.Before []) : p.rest = [] :=
  h.scan.nil_inv h.unblanked

/-- The place begins with one of the characters listed for the first token, or
with a starting character if it is a name. -/
theorem head (h : p.Before (t :: ts)) :
    ∃ c, p.rest.head? = some c ∧
      (c ∈ t.heads ∨ (∃ x, t = .identifier x) ∧
        isIdentifierStart c = true) := by
  obtain ⟨s, ds, hp, hs, -, -⟩ := h.spelling
  obtain ⟨c, r, rfl, hc⟩ := hs.head
  exact ⟨c, by rw [hp]; rfl, hc⟩

end Before

end Place

namespace Spelling

theorem firstStarting?_eq_some {l : List Spelling} {cs : List Char}
    {s : Spelling} (h : firstStarting? l cs = some s) :
    s ∈ l ∧ ∃ ds, cs = s ++ ds := by
  rw [firstStarting?] at h
  have hprefix := List.find?_some h
  obtain ⟨ds, hds⟩ := List.isPrefixOf_iff_prefix.mp hprefix
  exact ⟨List.mem_of_find?_eq_some h, ds, hds.symm⟩

theorem firstStarting?_eq_none {l : List Spelling} {cs : List Char}
    (h : ∀ s ∈ l, s.head? ≠ none ∧ s.head? ≠ cs.head?) :
    firstStarting? l cs = none := by
  rw [firstStarting?, List.find?_eq_none]
  intro s hs hstarts
  obtain ⟨hne, hhead⟩ := h s hs
  obtain ⟨ds, rfl⟩ := List.isPrefixOf_iff_prefix.mp hstarts
  cases s with
  | nil => exact hne rfl
  | cons c r => exact hhead rfl

end Spelling

namespace Place.Before

variable {p : Place} {t : Token} {ts : List Token} {l : List Spelling}

theorem firstStarting?_nil (h : p.Before []) (hl : BeginWithSigns l) :
    Spelling.firstStarting? l p.rest = none := by
  apply Spelling.firstStarting?_eq_none
  intro s hs
  obtain ⟨c, -, hc⟩ := List.mem_map.mp (hl s hs)
  rw [h.rest_eq_nil, ← hc]
  simp

/-- No spelling in a list matches when the token begins with other
characters. -/
theorem firstStarting?_eq_none (h : p.Before (t :: ts)) (hl : BeginWithSigns l)
    (ht : ∀ s ∈ l, s.head? ∉ t.heads.map some) :
    Spelling.firstStarting? l p.rest = none := by
  apply Spelling.firstStarting?_eq_none
  intro s hs
  obtain ⟨c, hc, hcs⟩ := List.mem_map.mp (hl s hs)
  obtain ⟨d, hd, hdt⟩ := h.head
  rw [hd, ← hcs]
  refine ⟨by simp, ?_⟩
  rintro hcd
  obtain rfl := Option.some.inj hcd
  rcases hdt with hdt | ⟨-, hdt⟩
  · refine ht s hs ?_
    rw [← hcs]
    exact List.mem_map_of_mem hdt
  · exact not_mem_signs_of_isIdentifierStart hdt hc

theorem startsWith_eq_false (h : p.Before (t :: ts)) {c : Char} (hc : c ∈ signs)
    (ht : c ∉ t.heads) : p.startsWith c = false := by
  rw [← Bool.not_eq_true, startsWith_iff]
  intro hhead
  obtain ⟨d, hd, hdt⟩ := h.head
  obtain rfl := Option.some.inj (hhead.symm.trans hd)
  rcases hdt with hdt | ⟨-, hdt⟩
  · exact ht hdt
  · exact not_mem_signs_of_isIdentifierStart hdt hc

theorem startsWith_nil (h : p.Before []) (c : Char) :
    p.startsWith c = false := by
  rw [Place.startsWith, h.rest_eq_nil]

/-- The tokens with a single spelling, which is one character. -/
def punctuation : List (Token × Char) :=
  [(.opening, '('), (.closing, ')'), (.comma, ',')]

theorem not_mem_heads_of_punctuation {u : Token} {c : Char}
    (h : (t, c) ∈ punctuation) (hu : u ≠ t) : c ∉ u.heads := by
  have hquantifier :
      ∀ e ∈ punctuation, e.2 ∉ Quantifier.spellings.filterMap List.head? := by
    decide
  have hothers : ∀ e ∈ punctuation, (∀ op : Connective, op ∈ Connective.all →
      e.2 ∉ (Token.connective op).heads) ∧ e.2 ∉ Token.negation.heads ∧
      ∀ e' ∈ punctuation, e'.1 = e.1 ∨ e.2 ∉ e'.1.heads := by
    decide
  obtain ⟨hconnective, hnegation, hpunctuation⟩ := hothers _ h
  cases u with
  | connective op => exact hconnective op (by cases op <;> decide)
  | negation => exact hnegation
  | quantifier q => exact hquantifier _ h
  | opening => exact (hpunctuation (.opening, '(') (by decide)).resolve_left hu
  | closing => exact (hpunctuation (.closing, ')') (by decide)).resolve_left hu
  | comma => exact (hpunctuation (.comma, ',') (by decide)).resolve_left hu
  | identifier x => simp [Token.heads]

theorem startsWith_punctuation_eq_false {c : Char} (h : p.Before ts)
    (hc : (t, c) ∈ punctuation) (hts : ts.head? ≠ some t) :
    p.startsWith c = false := by
  have hsigns : ∀ e ∈ punctuation, e.2 ∈ signs := by decide
  cases ts with
  | nil => exact h.startsWith_nil c
  | cons u ts =>
      refine h.startsWith_eq_false (hsigns _ hc)
        (not_mem_heads_of_punctuation hc ?_)
      exact fun hu => hts (congrArg some hu)

theorem startsWith_opening_eq_false (h : p.Before ts)
    (hts : ∀ t ∈ ts.head?, t ≠ .opening) : p.startsWith '(' = false :=
  h.startsWith_punctuation_eq_false (t := .opening) (by decide) fun hhead =>
    hts _ hhead rfl

/-- A token of one character is found and left behind. -/
theorem startsWith_punctuation {c : Char} (h : p.Before (t :: ts))
    (hc : (t, c) ∈ punctuation) :
    p.startsWith c = true ∧ Scan (p.advance 1).rest ts [] := by
  have hspells : ∀ s, t.Spells s → s = [c] := by
    intro s hs
    simp only [punctuation, List.mem_cons, Prod.mk.injEq, List.not_mem_nil,
      or_false] at hc
    rcases hc with ⟨rfl, rfl⟩ | ⟨rfl, rfl⟩ | ⟨rfl, rfl⟩ <;> exact hs
  obtain ⟨s, ds, hp, hs, -, hscan⟩ := h.spelling
  obtain rfl := hspells s hs
  exact ⟨by rw [startsWith_iff, hp]; rfl, by rw [advance_rest, hp]; exact hscan⟩

theorem opening (h : p.Before (.opening :: ts)) :
    p.startsWith '(' = true ∧ Scan (p.advance 1).rest ts [] :=
  h.startsWith_punctuation (by decide)

theorem closing (h : p.Before (.closing :: ts)) :
    p.startsWith ')' = true ∧ Scan (p.advance 1).rest ts [] :=
  h.startsWith_punctuation (by decide)

theorem comma (h : p.Before (.comma :: ts)) :
    p.startsWith ',' = true ∧ Scan (p.advance 1).rest ts [] :=
  h.startsWith_punctuation (by decide)

end Place.Before

/-!
# Operands

The first token of an operand says which kind of operand it is.
-/

namespace Reader

variable {p : Place} {ts : List Token} {inner : Option (Reader Formula)}

theorem operandWith_negation (h : p.Before (.negation :: ts))
    (inner : Option (Reader Formula)) :
    operandWith inner p = negation inner p ∧ Scan (p.advance 1).rest ts [] := by
  obtain ⟨s, ds, hp, hs, -, hscan⟩ := h.spelling
  have hone : (Spelling.firstStarting? negationSpellings p.rest).isSome ∧
      p.rest.drop 1 = ds := by
    simp only [Token.Spells, negationSpellings, List.mem_cons, List.not_mem_nil,
      or_false] at hs
    rcases hs with rfl | rfl | rfl <;> rw [hp] <;> exact ⟨rfl, rfl⟩
  refine ⟨?_, by rw [Place.advance_rest, hone.2]; exact hscan⟩
  rw [operandWith, if_pos hone.1]

theorem operandWith_of_not_negation
    (h : Spelling.firstStarting? negationSpellings p.rest = none) :
    operandWith inner p =
      match (Spelling.firstStarting? Quantifier.spellings p.rest).bind fun s =>
          (Quantifier.ofSpelling? s).map fun q => (q, s.length) with
      | some (q, length) => quantified inner q length p
      | none => if p.startsWith '(' then group inner p else call inner p := by
  rw [operandWith, h]
  rfl

theorem operandWith_quantifier {q : Quantifier}
    (h : p.Before (.quantifier q :: ts)) (inner : Option (Reader Formula)) :
    ∃ k, operandWith inner p = quantified inner q k p ∧
      Scan (p.advance k).rest ts [] := by
  have hnegation : Spelling.firstStarting? negationSpellings p.rest = none :=
    h.firstStarting?_eq_none beginWithSigns_negation (by
      exact (by decide : ∀ s ∈ negationSpellings,
        s.head? ∉ (Quantifier.spellings.filterMap List.head?).map some))
  obtain ⟨s, ds, hp, ⟨hs, hq⟩, -, hscan⟩ := h.spelling
  have hfirst :
      Spelling.firstStarting? Quantifier.spellings p.rest = some s := by
    rw [hp]
    simp only [Quantifier.spellings, List.mem_cons, List.not_mem_nil,
      or_false] at hs
    rcases hs with rfl | rfl | rfl | rfl | rfl | rfl <;> rfl
  refine ⟨s.length, ?_, ?_⟩
  · rw [operandWith_of_not_negation hnegation, hfirst, Option.bind_some, hq,
      Option.map_some]
  · rw [Place.advance_rest_of_append hp]
    exact hscan

theorem operandWith_eq_group_or_call
    (hnegation : Spelling.firstStarting? negationSpellings p.rest = none)
    (hquantifier : Spelling.firstStarting? Quantifier.spellings p.rest = none) :
    operandWith inner p =
      if p.startsWith '(' then group inner p else call inner p := by
  rw [operandWith_of_not_negation hnegation, hquantifier, Option.bind_none]

theorem operandWith_opening (h : p.Before (.opening :: ts))
    (inner : Option (Reader Formula)) :
    operandWith inner p = group inner p ∧ Scan (p.advance 1).rest ts [] := by
  refine ⟨?_, h.opening.2⟩
  rw [operandWith_eq_group_or_call
    (h.firstStarting?_eq_none beginWithSigns_negation (by decide))
    (h.firstStarting?_eq_none beginWithSigns_quantifier (by decide)),
    if_pos h.opening.1]

/-- Whatever is no sign of another operand is left to the reader of calls. -/
theorem operandWith_call (h : p.Before ts)
    (hts : ∀ t ∈ ts.head?, t ≠ .negation ∧ (∀ q, t ≠ .quantifier q) ∧
      t ≠ .opening) :
    operandWith inner p = call inner p := by
  cases ts with
  | nil =>
      rw [operandWith_eq_group_or_call
        (h.firstStarting?_nil beginWithSigns_negation)
        (h.firstStarting?_nil beginWithSigns_quantifier), h.startsWith_nil]
      rfl
  | cons t ts =>
      obtain ⟨hnegation, hquantifier, hopening⟩ := hts t rfl
      have hheads : (∀ s ∈ negationSpellings, s.head? ∉ t.heads.map some) ∧
          ∀ s ∈ Quantifier.spellings, s.head? ∉ t.heads.map some := by
        cases t with
        | connective op => cases op <;> decide
        | negation => exact absurd rfl hnegation
        | quantifier q => exact absurd rfl (hquantifier q)
        | opening | closing | comma => decide
        | identifier name => simp [Token.heads]
      rw [operandWith_eq_group_or_call
        (h.firstStarting?_eq_none beginWithSigns_negation hheads.1)
        (h.firstStarting?_eq_none beginWithSigns_quantifier hheads.2),
        h.startsWith_opening_eq_false fun u hu => (hts u hu).2.2]
      rfl

/-!
# Names
-/

theorem identifier_eq_success {s ds : List Char} (hp : p.rest = s ++ ds)
    (hs : IsIdentifier s) (hds : EndsIdentifier ds) :
    identifier p = .success (String.ofList s) (p.advance s.length) := by
  obtain ⟨c, r, rfl, hc, hr⟩ := hs
  rw [identifier, hp, List.cons_append]
  simp only [hc, if_true, takeWhile_run hr hds]

theorem identifier_before {x : String} (h : p.Before (.identifier x :: ts)) :
    ∃ q, identifier p = .success x q ∧ Scan q.rest ts [] := by
  obtain ⟨s, ds, hp, ⟨rfl, hs⟩, hds, hscan⟩ := h.spelling
  refine ⟨p.advance x.toList.length, ?_, ?_⟩
  · rw [identifier_eq_success hp hs hds, String.ofList_toList]
  · rw [Place.advance_rest_of_append hp]
    exact hscan

theorem identifier_eq_failure
    (h : ∀ c ∈ p.rest.head?, isIdentifierStart c = false) :
    identifier p = .failure .identifier p := by
  rw [identifier]
  cases hp : p.rest with
  | nil => rfl
  | cons c cs => simp [h c (by rw [hp]; rfl)]

theorem identifier_before_other (h : p.Before ts)
    (hts : ∀ t ∈ ts.head?, ∀ x, t ≠ .identifier x) :
    identifier p = .failure .identifier p := by
  apply identifier_eq_failure
  cases ts with
  | nil => simp [h.rest_eq_nil]
  | cons t ts =>
      obtain ⟨c, hc, hct⟩ := h.head
      rintro d hd
      obtain rfl := Option.some.inj (hc.symm.trans hd)
      rcases hct with hct | ⟨⟨x, hx⟩, -⟩
      · rw [← Bool.not_eq_true]
        intro hstart
        exact not_mem_signs_of_isIdentifierStart hstart
          (Token.mem_signs_of_mem_heads c hct)
      · exact absurd hx (hts t rfl x)

end Reader

/-!
# Places where no operand begins
-/

/-- The characters that the signs of operands begin with. -/
def operandSigns : List Char :=
  ['(', '¬', '!', '~', '∀', '∃', '\x5c']

/-- The text begins neither with the sign of an operand nor with a name. -/
def Blocked (cs : List Char) : Prop :=
  ∀ c ∈ cs.head?, c ∉ operandSigns ∧ isIdentifierStart c = false

theorem blocked_nil : Blocked [] := by
  simp [Blocked]

theorem blocked_cons_of_mem_signs {c : Char} (hc : c ∈ signs)
    (hsign : c ∉ operandSigns) (cs : List Char) : Blocked (c :: cs) := by
  intro d hd
  obtain rfl := Option.mem_some.mp hd
  refine ⟨hsign, ?_⟩
  rw [← Bool.not_eq_true]
  exact fun hstart => not_mem_signs_of_isIdentifierStart hstart hc

theorem Place.Before.blocked_closing {p : Place} {ts : List Token}
    (h : p.Before (.closing :: ts)) :
    Blocked p.rest := by
  obtain ⟨s, ds, hp, rfl, -, -⟩ := h.spelling
  rw [hp]
  exact blocked_cons_of_mem_signs (by decide) (by decide) ds

theorem Blocked.firstStarting?_eq_none {l : List Spelling} {cs : List Char}
    (h : Blocked cs) (hl : ∀ s ∈ l, s.head? ∈ operandSigns.map some) :
    Spelling.firstStarting? l cs = none := by
  apply Spelling.firstStarting?_eq_none
  intro s hs
  obtain ⟨c, hc, hcs⟩ := List.mem_map.mp (hl s hs)
  rw [← hcs]
  exact ⟨by simp, fun hhead => (h c hhead.symm).1 hc⟩

namespace Reader

variable {p : Place}

theorem operandWith_misses (inner : Option (Reader Formula))
    (h : Blocked p.rest) :
    (operandWith inner p).Misses := by
  have hopening : p.startsWith '(' = false := by
    rw [← Bool.not_eq_true, Place.startsWith_iff]
    exact fun hhead => (h '(' hhead).1 (by decide)
  rw [operandWith_eq_group_or_call (h.firstStarting?_eq_none (by decide))
      (h.firstStarting?_eq_none (by decide)), hopening, call,
    identifier_eq_failure fun c hc => (h c hc).2]
  exact (Reading.misses_failure _ p).followedBy (Reading.misses_failure _ p)

theorem operand_misses (n : Nat) (h : Blocked p.rest) :
    (operand n p).Misses := by
  cases n <;> exact operandWith_misses _ h

theorem chained_misses {read : Reader Formula} (spellings : List Spelling)
    (h : (read p).Misses) : (chained spellings read p).Misses := by
  rw [chained]
  simp only [h.outcome]
  exact h

theorem formula_misses (n : Nat) (h : Blocked p.rest) :
    (formula (operandBelow (n + 1)) p).Misses := by
  have himplication : (implication (operand n) p).Misses :=
    chained_misses _ (chained_misses _ (operand_misses n h))
  rw [formula]
  simp only [operandBelow, Option.map_some, nested, himplication.outcome]
  exact himplication.followedBy (Reading.misses_failure _ p)

end Reader

/-!
# Connectives

A chain looks for its own connective; before it has one, it looks for those of
its whole family.
-/

namespace Connective

/-- The spellings of the connectives that hold together as tightly as `op`. -/
def family (op : Connective) : List Spelling :=
  match op.priority with
  | .implication => implicationSpellings
  | _ => junctionSpellings

theorem beginWithSigns_family (op : Connective) : BeginWithSigns op.family := by
  cases op <;> decide

theorem mem_family {op : Connective} : ∀ s ∈ op.spellings, s ∈ op.family := by
  cases op <;> decide

theorem heads_of_priority_ne {op other : Connective}
    (h : other.priority ≠ op.priority) :
    ∀ s ∈ op.family, s.head? ∉ (Token.connective other).heads.map some := by
  cases op <;> cases other <;> first | exact absurd rfl h | decide

end Connective

namespace Place.Before

variable {p : Place} {op : Connective} {ts : List Token}

theorem firstStarting?_spellings (h : p.Before (.connective op :: ts)) :
    ∃ s, Spelling.firstStarting? op.spellings p.rest = some s ∧
      Scan (p.advance s.length).rest ts [] := by
  obtain ⟨s, ds, hp, hs, -, hscan⟩ := h.spelling
  refine ⟨s, ?_, ?_⟩
  · rw [hp]
    cases op <;>
      simp only [Token.Spells, Connective.spellings, List.mem_cons,
        List.not_mem_nil, or_false] at hs <;>
      rcases hs with rfl | rfl <;> rfl
  · rw [advance_rest_of_append hp]
    exact hscan

/-- The shorter spelling of a converse implication is never read in place of a
longer one, because no token begins with the character by which they differ. -/
theorem firstStarting?_family (h : p.Before (.connective op :: ts)) :
    (Spelling.firstStarting? op.family p.rest).bind Connective.ofSpelling? =
      some op := by
  obtain ⟨s, ds, hp, hs, -, hscan⟩ := h.spelling
  rw [hp]
  cases op <;>
    simp only [Token.Spells, Connective.spellings, List.mem_cons,
      List.not_mem_nil, or_false] at hs <;>
    rcases hs with rfl | rfl <;> try rfl
  cases ds with
  | nil => rfl
  | cons d ds =>
      have hd : ('>' == d) = false := by
        simpa using (hscan.head_ne_greater d rfl).symm
      simp [Connective.family, Connective.priority, Spelling.firstStarting?,
        Connective.implicationSpellings, List.isPrefixOf, hd,
        Connective.ofSpelling?,
        Connective.all, Connective.spellings]

/-- Tokens that do not begin with a connective of its family end a chain. -/
theorem firstStarting?_family_eq_none (h : p.Before ts)
    (hts : ∀ t ∈ ts.head?, ∀ other, t = .connective other →
      other.priority ≠ op.priority) :
    Spelling.firstStarting? op.family p.rest = none := by
  cases ts with
  | nil => exact h.firstStarting?_nil op.beginWithSigns_family
  | cons t ts =>
      apply h.firstStarting?_eq_none op.beginWithSigns_family
      cases t with
      | connective other =>
          exact Connective.heads_of_priority_ne (hts _ rfl other rfl)
      | identifier name => simp [Token.heads]
      | quantifier q =>
          exact (by cases op <;> decide : ∀ s ∈ op.family,
            s.head? ∉ (Quantifier.spellings.filterMap List.head?).map some)
      | negation | opening | closing | comma => cases op <;> decide

/-- A chain does not go on behind another connective. A chain of converse
implications takes up the beginning of a spelling of the equivalence, but no
operand begins with the character behind it. -/
theorem firstStarting?_spellings_other {other : Connective}
    (h : p.Before (.connective other :: ts)) (hop : other ≠ op) :
    Spelling.firstStarting? op.spellings p.rest = none ∨
      ∃ s, Spelling.firstStarting? op.spellings p.rest = some s ∧
        Blocked (p.advance s.length).skipBlanks.rest := by
  have hcases :
      (∀ s ∈ op.spellings, s.head? ∉ (Token.connective other).heads.map some) ∨
      (op = .impliedBy ∧ other = .equivalent) ∨
        (op = .equivalent ∧ other = .impliedBy) := by
    cases op <;> cases other <;>
      first | exact absurd rfl hop | exact .inl (by decide) | decide
  rcases hcases with hheads | ⟨rfl, rfl⟩ | ⟨rfl, rfl⟩
  · exact .inl (h.firstStarting?_eq_none (beginWithSigns_connective op) hheads)
  · obtain ⟨s, ds, hp, hs, -, -⟩ := h.spelling
    simp only [Token.Spells, Connective.spellings, List.mem_cons,
      List.not_mem_nil, or_false] at hs
    rcases hs with rfl | rfl
    · refine .inr ⟨['<', '-'], by rw [hp]; rfl, ?_⟩
      have hrest : (p.advance 2).rest = '>' :: ds := by
        rw [advance_rest, hp]
        rfl
      have hblank : Unicode.isWhiteSpace '>' = false := by decide +kernel
      have hstart : isIdentifierStart '>' = false := by decide +kernel
      intro c hc
      rw [skipBlanks_rest, List.length_cons, List.length_singleton, hrest,
        List.dropWhile_cons, hblank] at hc
      obtain rfl := Option.mem_some.mp hc
      exact ⟨by decide, hstart⟩
    · exact .inl (by rw [hp]; rfl)
  · obtain ⟨s, ds, hp, hs, -, hscan⟩ := h.spelling
    simp only [Token.Spells, Connective.spellings, List.mem_cons,
      List.not_mem_nil, or_false] at hs
    rcases hs with rfl | rfl
    · left
      rw [hp]
      cases ds with
      | nil => rfl
      | cons d ds =>
          have hd : ('>' == d) = false := by
            simpa using (hscan.head_ne_greater d rfl).symm
          simp [Spelling.firstStarting?, Connective.spellings,
            List.isPrefixOf, hd]
    · exact .inl (by rw [hp]; rfl)

theorem firstStarting?_spellings_eq_none (h : p.Before ts)
    (hts : ∀ t ∈ ts.head?, ∀ other, t = .connective other →
      other.priority ≠ op.priority) :
    Spelling.firstStarting? op.spellings p.rest = none := by
  have hfamily := h.firstStarting?_family_eq_none hts
  rw [Spelling.firstStarting?, List.find?_eq_none] at hfamily ⊢
  exact fun s hs => hfamily s (Connective.mem_family s hs)

end Place.Before

end PredicateLogic
