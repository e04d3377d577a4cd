import PredicateLogic.Formula.Connective
import PredicateLogic.Unicode.Identifier
import PredicateLogic.Unicode.WhiteSpace

/-!
# Tokens and the texts that write them

A text is a sequence of tokens with white space in between. `Scan cs ts rest`
says that the text `cs` begins with the tokens `ts` and goes on with `rest`.
Each operator may be written in any of its spellings, and an identifier is a
maximal run of identifier characters, so the relation looks one character ahead.

`Scan` is a relation and not a function because only texts that consist of
tokens have a meaning here. Where it holds up to the end of the text,
`Scan.cons_inv` finds the first token, once the white space before it is gone.
-/

namespace PredicateLogic

/-- The tokens of formulas. -/
inductive Token where
  /-- A sign that joins two formulas. -/
  | connective (op : Connective)
  /-- The sign of negation. -/
  | negation
  /-- A sign that binds a variable. -/
  | quantifier (q : Quantifier)
  /-- An opening parenthesis. -/
  | opening
  /-- A closing parenthesis. -/
  | closing
  /-- A comma. -/
  | comma
  /-- A name. -/
  | identifier (name : String)
deriving DecidableEq, Repr

/-- A starting character of identifiers, followed by further characters of
identifiers. -/
def IsIdentifier (cs : List Char) : Prop :=
  ∃ c ds, cs = c :: ds ∧ isIdentifierStart c = true ∧
    ∀ d ∈ ds, isIdentifierContinue d = true

theorem isIdentifier_cons {c : Char} {ds : List Char} :
    IsIdentifier (c :: ds) ↔
      (isIdentifierStart c && ds.all isIdentifierContinue) = true := by
  rw [Bool.and_eq_true, List.all_eq_true]
  constructor
  · rintro ⟨e, es, heq, hstart, hcontinue⟩
    obtain ⟨rfl, rfl⟩ := List.cons.inj heq
    exact ⟨hstart, hcontinue⟩
  · rintro ⟨hstart, hcontinue⟩
    exact ⟨c, ds, rfl, hstart, hcontinue⟩

instance : (cs : List Char) → Decidable (IsIdentifier cs)
  | [] => isFalse fun ⟨_, _, h, _⟩ => List.cons_ne_nil _ _ h.symm
  | _ :: _ => decidable_of_iff _ isIdentifier_cons.symm

/-- A text that does not begin with a further character of an identifier. -/
def EndsIdentifier (cs : List Char) : Prop :=
  ∀ c ∈ cs.head?, isIdentifierContinue c = false

/-- A text that does not begin with white space. -/
def Unblanked (cs : List Char) : Prop :=
  ∀ c ∈ cs.head?, Unicode.isWhiteSpace c = false

namespace Token

/-- Whether a spelling stands for a token. -/
def Spells (s : Spelling) : Token → Prop
  | .connective op => s ∈ op.spellings
  | .negation => s ∈ negationSpellings
  | .quantifier q =>
    s ∈ Quantifier.spellings ∧ Quantifier.ofSpelling? s = some q
  | .opening => s = ['(']
  | .closing => s = [')']
  | .comma => s = [',']
  | .identifier name => s = name.toList ∧ IsIdentifier s

/-- The characters that the spellings of a token begin with, unless it is a
name. -/
def heads : Token → List Char
  | .connective op => op.spellings.filterMap List.head?
  | .negation => negationSpellings.filterMap List.head?
  | .quantifier _ => Quantifier.spellings.filterMap List.head?
  | .opening => ['(']
  | .closing => [')']
  | .comma => [',']
  | .identifier _ => []

/-- Whether a token may end where a text goes on. Only identifiers have to
end. -/
def EndsBefore (cs : List Char) : Token → Prop
  | .identifier _ => EndsIdentifier cs
  | _ => True

theorem EndsBefore.of_append {t : Token} {cs rest : List Char}
    (h : t.EndsBefore (cs ++ rest)) :
    t.EndsBefore cs := by
  cases t with
  | identifier x =>
      intro c hc
      exact h c (by rw [List.head?_append, Option.mem_def.mp hc]; rfl)
  | _ => trivial

end Token

/-- The text `cs` begins with the tokens `ts`, written with any white space
before each of them, and goes on with `rest`. -/
inductive Scan :
    (cs : List Char) → (ts : List Token) → (rest : List Char) → Prop
  | here {cs : List Char} : Scan cs [] cs
  | blank {c : Char} {cs : List Char} {ts : List Token} {rest : List Char} :
      Unicode.isWhiteSpace c = true → Scan cs ts rest → Scan (c :: cs) ts rest
  | token {t : Token} {s : Spelling} {cs : List Char} {ts : List Token}
      {rest : List Char} :
      t.Spells s → t.EndsBefore cs → Scan cs ts rest →
        Scan (s ++ cs) (t :: ts) rest

/-!
# Characters

The characters that begin the signs neither belong to identifiers nor are white
space, and no white space belongs to identifiers. Both are read off the tables.
What is checked of the characters in a list is checked along the list: a
quantifier over characters could be decided only by running through all of them.
-/

/-- The characters that may begin a token other than an identifier. -/
def signs : List Char :=
  ['¬', '!', '~', '∀', '∃', '\x5c', '∧', '&', '∨', '|', '⊻', '^', '-', '→', '<',
    '←', '↔', '(', ')', ',']

theorem isIdentifierContinue_of_mem_signs :
    ∀ c ∈ signs, isIdentifierContinue c = false := by
  have hall : (signs.all fun c => !isIdentifierContinue c) = true := by
    decide +kernel
  simpa using hall

theorem isWhiteSpace_of_mem_signs :
    ∀ c ∈ signs, Unicode.isWhiteSpace c = false := by
  have hall : (signs.all fun c => !Unicode.isWhiteSpace c) = true := by
    decide +kernel
  simpa using hall

theorem isIdentifierContinue_of_isIdentifierStart {c : Char}
    (h : isIdentifierStart c = true) :
    isIdentifierContinue c = true := by
  rw [isIdentifierStart, Bool.or_eq_true, List.contains_iff_mem] at h
  rcases h with h | h
  · have hall : (['_', '‿', '⁀', '⁔'].all isIdentifierContinue) = true := by
      decide +kernel
    exact List.all_eq_true.mp hall c h
  · rw [isIdentifierContinue, Unicode.isXidContinue_of_isXidStart h,
      Bool.or_true]

theorem not_mem_signs_of_isIdentifierStart {c : Char}
    (h : isIdentifierStart c = true) :
    c ∉ signs := by
  intro hmem
  have hcontinue := isIdentifierContinue_of_isIdentifierStart h
  rw [isIdentifierContinue_of_mem_signs c hmem] at hcontinue
  exact Bool.noConfusion hcontinue

theorem isWhiteSpace_of_isIdentifierContinue {c : Char}
    (h : isIdentifierContinue c = true) :
    Unicode.isWhiteSpace c = false := by
  -- Each range is run through from its first code point on.
  have hranges : ∀ r ∈ Unicode.whiteSpaceRanges, ∀ k < r.2 + 1 - r.1,
      r.1 + k ≠ '_'.toNat ∧
        Unicode.inRanges (r.1 + k) Unicode.xidStartRanges = false ∧
        Unicode.inRanges (r.1 + k) Unicode.xidContinueOnlyRanges = false := by
    decide +kernel
  cases hblank : Unicode.isWhiteSpace c with
  | false => rfl
  | true =>
      obtain ⟨r, hr, hfirst, hlast⟩ := Unicode.exists_range_of_inRanges hblank
      have hk := hranges r hr (c.toNat - r.1) (by omega)
      rw [show r.1 + (c.toNat - r.1) = c.toNat by omega] at hk
      rw [isIdentifierContinue, Unicode.isXidContinue, Unicode.isXidStart,
        hk.2.1, hk.2.2] at h
      simp only [Bool.or_false, beq_iff_eq] at h
      exact absurd (congrArg Char.toNat h) hk.1

theorem Token.mem_signs_of_mem_heads {t : Token} :
    ∀ c ∈ t.heads, c ∈ signs := by
  have hall : (t.heads.all signs.contains) = true := by
    cases t with
    | connective op => cases op <;> decide
    | negation | opening | closing | comma | identifier name => rfl
    | quantifier q =>
        exact (by decide :
          (Quantifier.spellings.filterMap List.head?).all signs.contains = true)
  simpa using hall

def BeginWithSigns (spellings : List Spelling) : Prop :=
  ∀ s ∈ spellings, s.head? ∈ signs.map some

instance (spellings : List Spelling) : Decidable (BeginWithSigns spellings) :=
  inferInstanceAs (Decidable (∀ s ∈ spellings, s.head? ∈ signs.map some))

theorem beginWithSigns_connective (op : Connective) :
    BeginWithSigns op.spellings := by
  cases op <;> decide

theorem beginWithSigns_negation : BeginWithSigns negationSpellings := by
  decide

theorem length_of_mem_negationSpellings :
    ∀ s ∈ negationSpellings, s.length = 1 := by
  decide

theorem beginWithSigns_quantifier : BeginWithSigns Quantifier.spellings := by
  decide

theorem BeginWithSigns.head {l : List Spelling} (hl : BeginWithSigns l)
    {s : Spelling} (hs : s ∈ l) :
    ∃ c r, s = c :: r ∧ c ∈ l.filterMap List.head? := by
  obtain ⟨c, -, hc⟩ := List.mem_map.mp (hl s hs)
  cases s with
  | nil => simp at hc
  | cons d r => exact ⟨d, r, rfl, List.mem_filterMap.mpr ⟨d :: r, hs, rfl⟩⟩

/-- A spelling begins with one of the characters listed for its token, or with a
starting character if it is a name. -/
theorem Token.Spells.head {t : Token} {s : Spelling} (h : t.Spells s) :
    ∃ c r, s = c :: r ∧
      (c ∈ t.heads ∨ (∃ x, t = .identifier x) ∧
        isIdentifierStart c = true) := by
  have hlisted : ∀ {l : List Spelling}, BeginWithSigns l →
      l.filterMap List.head? = t.heads →
      s ∈ l → ∃ c r, s = c :: r ∧
        (c ∈ t.heads ∨ (∃ x, t = .identifier x) ∧
          isIdentifierStart c = true) := by
    intro l hl hheads hs
    obtain ⟨c, r, hcr, hc⟩ := hl.head hs
    exact ⟨c, r, hcr, .inl (hheads ▸ hc)⟩
  cases t with
  | connective op => exact hlisted (beginWithSigns_connective op) rfl h
  | negation => exact hlisted beginWithSigns_negation rfl h
  | quantifier q => exact hlisted beginWithSigns_quantifier rfl h.1
  | opening => exact ⟨'(', [], h, .inl (by decide)⟩
  | closing => exact ⟨')', [], h, .inl (by decide)⟩
  | comma => exact ⟨',', [], h, .inl (by decide)⟩
  | identifier name =>
      obtain ⟨-, c, r, rfl, hc, -⟩ := h
      exact ⟨c, r, rfl, .inr ⟨⟨name, rfl⟩, hc⟩⟩

theorem Token.Spells.unblanked {t : Token} {s cs : List Char} (h : t.Spells s) :
    Unblanked (s ++ cs) := by
  obtain ⟨c, r, rfl, hc⟩ := h.head
  intro d hd
  obtain rfl : c = d := by simpa using hd
  rcases hc with hc | ⟨-, hc⟩
  · exact isWhiteSpace_of_mem_signs c (mem_signs_of_mem_heads c hc)
  · exact isWhiteSpace_of_isIdentifierContinue
      (isIdentifierContinue_of_isIdentifierStart hc)

theorem isWhiteSpace_of_isIdentifier {cs : List Char} (h : IsIdentifier cs) :
    ∀ c ∈ cs, Unicode.isWhiteSpace c = false := by
  obtain ⟨c, ds, rfl, hstart, hcontinue⟩ := h
  intro d hd
  apply isWhiteSpace_of_isIdentifierContinue
  rcases List.mem_cons.mp hd with rfl | hd
  · exact isIdentifierContinue_of_isIdentifierStart hstart
  · exact hcontinue d hd

/-- The signs of tokens, each with the token that it stands for. -/
def signTable : List (Spelling × Token) :=
  (Connective.all.flatMap fun op => op.spellings.map fun s =>
    (s, .connective op)) ++
      negationSpellings.map (fun s => (s, .negation)) ++
      Quantifier.spellings.filterMap
        (fun s => (Quantifier.ofSpelling? s).map fun q => (s, .quantifier q)) ++
      [(['('], .opening), ([')'], .closing), ([','], .comma)]

theorem Token.Spells.mem_signTable {t : Token} {s : Spelling} (h : t.Spells s)
    (ht : ∀ x, t ≠ .identifier x) : (s, t) ∈ signTable := by
  have hpunctuation : ∀ u : Spelling × Token,
      u ∈ [(['('], .opening), ([')'], .closing), ([','], .comma)] →
        u ∈ signTable :=
    fun u hu => List.mem_append_right _ hu
  cases t with
  | connective op =>
      have hop : op ∈ Connective.all := by cases op <;> decide
      refine List.mem_append_left _
        (List.mem_append_left _ (List.mem_append_left _ ?_))
      exact List.mem_flatMap.mpr ⟨op, hop, List.mem_map.mpr ⟨s, h, rfl⟩⟩
  | negation =>
      refine List.mem_append_left _
        (List.mem_append_left _ (List.mem_append_right _ ?_))
      exact List.mem_map.mpr ⟨s, h, rfl⟩
  | quantifier q =>
      refine List.mem_append_left _ (List.mem_append_right _ ?_)
      exact List.mem_filterMap.mpr ⟨s, h.1, by rw [h.2]; rfl⟩
  | opening | closing | comma =>
      obtain rfl := h
      exact hpunctuation _ (by simp)
  | identifier x => exact absurd rfl (ht x)

/-- What is true of the spellings of all signs is true of every spelling that is
not a name. -/
theorem Token.Spells.of_all {t : Token} {s : Spelling} (h : t.Spells s)
    (ht : ∀ x, t ≠ .identifier x) (test : Spelling → Bool)
    (hall : (signTable.all fun e => test e.1) = true) : test s = true :=
  List.all_eq_true.mp hall _ (h.mem_signTable ht)

/-- No spelling contains white space. -/
theorem Token.Spells.isWhiteSpace {t : Token} {s : Spelling} (h : t.Spells s) :
    ∀ c ∈ s, Unicode.isWhiteSpace c = false := by
  by_cases ht : ∃ x, t = .identifier x
  · obtain ⟨x, rfl⟩ := ht
    exact isWhiteSpace_of_isIdentifier h.2
  · have hall := h.of_all (fun x hx => ht ⟨x, hx⟩)
      (fun s => s.all fun c => !Unicode.isWhiteSpace c)
      (by decide +kernel)
    simpa using hall

theorem unblanked_dropWhile (cs : List Char) :
    Unblanked (cs.dropWhile Unicode.isWhiteSpace) := by
  induction cs with
  | nil => simp [Unblanked]
  | cons c cs ih =>
      rw [List.dropWhile_cons]
      split
      · exact ih
      · simp_all [Unblanked]

theorem endsIdentifier_dropWhile (cs : List Char) :
    EndsIdentifier (cs.dropWhile isIdentifierContinue) := by
  intro d hd
  have hhead := List.head?_dropWhile_not isIdentifierContinue cs
  rw [Option.mem_def.mp hd] at hhead
  simpa using hhead

/-- A run of identifier characters is read up to its end. -/
theorem takeWhile_run {r ds : List Char}
    (hr : ∀ c ∈ r, isIdentifierContinue c = true) (hds : EndsIdentifier ds) :
    (r ++ ds).takeWhile isIdentifierContinue = r := by
  rw [List.takeWhile_append_of_pos hr]
  cases ds with
  | nil => simp
  | cons d ds => simp [hds d rfl]

theorem dropWhile_of_unblanked {cs : List Char} (h : Unblanked cs) :
    cs.dropWhile Unicode.isWhiteSpace = cs := by
  cases cs with
  | nil => rfl
  | cons c cs => simp [h c rfl]

namespace Scan

variable {cs ds es rest : List Char} {t : Token} {ts us : List Token}

theorem trans (h : Scan cs ts ds) (h' : Scan ds us es) :
    Scan cs (ts ++ us) es := by
  induction h with
  | here => exact h'
  | blank hc _ ih => exact blank hc (ih h')
  | token hs he _ ih => exact token hs he (ih h')

/-- White space may be left out before the tokens. -/
theorem of_dropWhile (h : Scan (cs.dropWhile Unicode.isWhiteSpace) ts rest) :
    Scan cs ts rest := by
  induction cs with
  | nil => exact h
  | cons c cs ih =>
      rw [List.dropWhile_cons] at h
      split at h
      · next hc => exact blank hc (ih h)
      · exact h

/-- White space may be left out behind the tokens. -/
theorem skip (h : Scan cs ts ds) :
    Scan cs ts (ds.dropWhile Unicode.isWhiteSpace) := by
  have hblanks : Scan ds [] (ds.dropWhile Unicode.isWhiteSpace) :=
    of_dropWhile here
  simpa using h.trans hblanks

/-- Up to the end of the text, white space before the tokens makes no
difference. -/
theorem dropWhile (h : Scan cs ts []) :
    Scan (cs.dropWhile Unicode.isWhiteSpace) ts [] := by
  generalize hrest : ([] : List Char) = rest at h
  induction h with
  | here => rw [← hrest]; exact here
  | blank hc _ ih =>
      rw [List.dropWhile_cons, if_pos hc]
      exact ih hrest
  | token hs he h _ =>
      rw [dropWhile_of_unblanked hs.unblanked]
      exact token hs he h

/-- A text that begins with a token and not with white space begins with a
spelling of it. -/
theorem cons_inv (h : Scan cs (t :: ts) rest) (hcs : Unblanked cs) :
    ∃ s ds, cs = s ++ ds ∧ t.Spells s ∧ t.EndsBefore ds ∧ Scan ds ts rest := by
  cases h with
  | blank hc _ =>
      have hfalse := hcs _ rfl
      rw [hc] at hfalse
      exact Bool.noConfusion hfalse
  | token hs he h => exact ⟨_, _, rfl, hs, he, h⟩

theorem nil_inv (h : Scan cs [] []) (hcs : Unblanked cs) : cs = [] := by
  cases h with
  | here => rfl
  | blank hc _ =>
      have hfalse := hcs _ rfl
      rw [hc] at hfalse
      exact Bool.noConfusion hfalse

theorem suffix (h : Scan cs ts rest) : rest <:+ cs := by
  induction h with
  | here => exact List.suffix_refl _
  | blank _ _ ih => exact ih.trans (List.suffix_cons _ _)
  | token _ _ _ ih => exact ih.trans (List.suffix_append _ _)

/-- A token of the text is also a token of the part of the text that was
read. -/
theorem of_append (h : Scan cs ts rest) :
    ∀ {read}, cs = read ++ rest → Scan read ts [] := by
  induction h with
  | here =>
      intro read hcs
      obtain rfl := List.self_eq_append_left.mp hcs
      exact here
  | @blank c cs ts rest hc h ih =>
      intro read hcs
      obtain ⟨before, rfl⟩ := h.suffix
      rw [← List.cons_append] at hcs
      obtain rfl := List.append_cancel_right hcs
      exact blank hc (ih rfl)
  | @token t s cs ts rest hs hends h ih =>
      intro read hcs
      obtain ⟨before, rfl⟩ := h.suffix
      rw [← List.append_assoc] at hcs
      obtain rfl := List.append_cancel_right hcs
      exact token hs (hends.of_append) (ih rfl)

/-- A text of tokens goes on with white space, a sign or an identifier. -/
theorem head (h : Scan cs ts []) :
    ∀ c ∈ cs.head?, Unicode.isWhiteSpace c = true ∨ c ∈ signs ∨
      isIdentifierStart c = true := by
  intro c hc
  cases h with
  | here => simp at hc
  | blank hblank _ =>
      obtain rfl := Option.mem_some.mp hc
      exact .inl hblank
  | token hs _ _ =>
      obtain ⟨d, r, rfl, hd⟩ := hs.head
      obtain rfl : d = c := by simpa using hc
      exact .inr (hd.imp (Token.mem_signs_of_mem_heads d) And.right)

/-- No token begins with the character by which the spelling of an equivalence
is longer than that of a converse implication. -/
theorem head_ne_greater (h : Scan cs ts []) : ∀ c ∈ cs.head?, c ≠ '>' := by
  rintro c hc rfl
  rcases h.head '>' hc with h | h | h <;> revert h <;> decide +kernel

end Scan

end PredicateLogic
