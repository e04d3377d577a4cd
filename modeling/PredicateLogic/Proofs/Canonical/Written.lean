import PredicateLogic.Formula.Printer
import PredicateLogic.Proofs.Formula.Same
import PredicateLogic.Proofs.Grammar.Derivation
import PredicateLogic.Proofs.Grammar.Spelled

/-!
# The tokens of canonical text

Canonical text spells the tokens of its formula: each operator by its glyph,
with single spaces. So nothing about its characters is needed elsewhere.
-/

namespace PredicateLogic

def wrapTokens (needed : Bool) (ts : List Token) : List Token :=
  if needed then .opening :: ts ++ [.closing] else ts

namespace Formula

mutual

/-- The tokens of the canonical text. -/
def tokens : Formula → List Token
  | .symbol x _ => [.identifier x]
  | .negation a _ => .negation :: wrapTokens (a.priority < .prefixed) a.tokens
  | .binary op a b _ =>
      wrapTokens (wrapsLeft op a) a.tokens ++
        .connective op :: wrapTokens (b.priority ≤ op.priority) b.tokens
  | .quantified q x a _ =>
      .quantifier q :: .identifier x ::
        wrapTokens (a.priority < .prefixed) a.tokens
  | .call x as _ =>
      .identifier x :: .opening :: [.comma].intercalate (tokensAll as) ++
        [.closing]

def tokensAll : List Formula → List (List Token)
  | [] => []
  | a :: as => a.tokens :: tokensAll as

end

mutual

/-- The names in a formula, those of bound variables included, in reading
order. -/
def names : Formula → List String
  | .symbol x _ => [x]
  | .negation a _ => a.names
  | .binary _ a b _ => a.names ++ b.names
  | .quantified _ x a _ => x :: a.names
  | .call x as _ => x :: namesAll as

def namesAll : List Formula → List String
  | [] => []
  | a :: as => a.names ++ namesAll as

end

theorem mem_namesAll {x : String} {as : List Formula} :
    x ∈ namesAll as ↔ ∃ a ∈ as, x ∈ a.names := by
  induction as with
  | nil => simp [namesAll]
  | cons a as ih => simp [namesAll, ih]

theorem tokensAll_eq_map (as : List Formula) :
    tokensAll as = as.map tokens := by
  induction as with
  | nil => rfl
  | cons a as ih => rw [tokensAll, ih, List.map_cons]

theorem mem_names_of_mem_wrapTokens {x : String} {needed : Bool} {f : Formula}
    (hf : .identifier x ∈ f.tokens → x ∈ f.names)
    (hx : .identifier x ∈ wrapTokens needed f.tokens) : x ∈ f.names := by
  cases needed with
  | false => exact hf hx
  | true => exact hf (by simpa [wrapTokens] using hx)

/-- The names among the tokens of a formula are those of the formula. -/
theorem mem_names_of_mem_tokens {x : String} {f : Formula}
    (hx : .identifier x ∈ f.tokens) :
    x ∈ f.names := by
  induction f using structural with
  | symbol y s => simpa [tokens, names] using hx
  | negation a s ih =>
      rw [tokens, List.mem_cons] at hx
      rw [names]
      exact mem_names_of_mem_wrapTokens ih (hx.resolve_left (by simp))
  | binary op a b s iha ihb =>
      rw [tokens, List.mem_append, List.mem_cons] at hx
      rw [names, List.mem_append]
      rcases hx with hx | hx | hx
      · exact .inl (mem_names_of_mem_wrapTokens iha hx)
      · exact absurd hx (by simp)
      · exact .inr (mem_names_of_mem_wrapTokens ihb hx)
  | quantified q y a s ih =>
      simp only [tokens, List.mem_cons, reduceCtorEq, false_or,
        Token.identifier.injEq] at hx
      rw [names, List.mem_cons]
      exact hx.imp_right (mem_names_of_mem_wrapTokens ih)
  | call y as s ih =>
      simp only [tokens, List.cons_append, List.mem_cons, List.mem_append,
        reduceCtorEq, false_or, Token.identifier.injEq, List.not_mem_nil,
        or_false] at hx
      rw [names, List.mem_cons]
      refine hx.imp_right fun hx => ?_
      obtain ⟨ts, hts, hx⟩ := (mem_intercalate (by simp)).mp hx
      rw [tokensAll_eq_map] at hts
      obtain ⟨a, ha, rfl⟩ := List.mem_map.mp hts
      exact mem_namesAll.mpr ⟨a, ha, ih a ha hx⟩

/-- The canonical text spells the tokens of the formula, whatever is written
behind it. -/
def Writes (f : Formula) : Prop :=
  ∀ cs ts, Spelled cs ts → KeepsApart cs ts →
    Spelled (f.print ++ cs) (f.tokens ++ ts)

variable {cs : List Char} {ts : List Token}

theorem spelled_space (h : Spelled cs ts) : Spelled (' ' :: cs) ts :=
  .blank (by decide +kernel) h

theorem keepsApart_space (cs : List Char) (ts : List Token) :
    KeepsApart (' ' :: cs) ts :=
  keepsApart_blank (by decide +kernel) cs ts

theorem spelled_closing (h : Spelled cs ts) :
    Spelled (')' :: cs) (.closing :: ts) :=
  .sign (s := [')']) (by simp) rfl h

theorem spelled_opening (h : Spelled cs ts) :
    Spelled ('(' :: cs) (.opening :: ts) :=
  .sign (s := ['(']) (by simp) rfl h

theorem spelled_connective (op : Connective) (h : Spelled cs ts) :
    Spelled (op.glyph :: cs) (.connective op :: ts) :=
  .sign (s := [op.glyph]) (by simp)
    (by cases op <;> decide : [op.glyph] ∈ op.spellings) h

theorem spelled_negation (h : Spelled cs ts) :
    Spelled (negationGlyph :: cs) (.negation :: ts) :=
  .sign (s := [negationGlyph]) (by simp)
    (by decide : [negationGlyph] ∈ negationSpellings) h

theorem spelled_quantifier (q : Quantifier) (h : Spelled cs ts) :
    Spelled (q.glyph :: cs) (.quantifier q :: ts) :=
  .sign (s := [q.glyph]) (by simp) (by cases q <;> exact ⟨by decide, rfl⟩) h

theorem Writes.wrap {f : Formula} (hf : f.Writes) (needed : Bool)
    (h : Spelled cs ts) (hcs : KeepsApart cs ts) :
    Spelled (wrap needed f.print ++ cs) (wrapTokens needed f.tokens ++ ts) := by
  cases needed with
  | false => exact hf cs ts h hcs
  | true =>
      have hbody := hf _ _ (spelled_closing h) (keepsApart_sign (by simp) _ _)
      simpa [Formula.wrap, wrapTokens] using spelled_opening hbody

theorem writes_further {as : List Formula} (has : ∀ a ∈ as, a.Writes)
    (h : Spelled cs ts) (hcs : KeepsApart cs ts) :
    Spelled (printFurtherArguments as ++ cs)
        ((tokensAll as).flatMap (fun us => .comma :: us) ++ ts) ∧
      KeepsApart (printFurtherArguments as ++ cs)
        ((tokensAll as).flatMap (fun us => .comma :: us) ++ ts) := by
  induction as with
  | nil => exact ⟨h, hcs⟩
  | cons a as ih =>
      obtain ⟨hrest, hends⟩ := ih fun b hb => has b (by simp [hb])
      have ha := has a (by simp) _ _ hrest hends
      constructor
      · simpa [printFurtherArguments, tokensAll] using
          Spelled.sign (t := .comma) (s := [',']) (by simp) rfl
          (spelled_space ha)
      · exact keepsApart_sign (t := .comma) (by simp) _ _

theorem writes_arguments {as : List Formula} (has : ∀ a ∈ as, a.Writes)
    (h : Spelled cs ts) (hcs : KeepsApart cs ts) :
    Spelled (printArguments as ++ cs)
      ([.comma].intercalate (tokensAll as) ++ ts) := by
  cases as with
  | nil => simpa [printArguments, tokensAll, List.intercalate] using h
  | cons a as =>
      have has' : ∀ b ∈ as, b.Writes := fun b hb => has b (by simp [hb])
      obtain ⟨hrest, hends⟩ := writes_further has' h hcs
      have ha := has a (by simp) _ _ hrest hends
      simpa [printArguments, tokensAll, intercalate_cons] using ha

theorem writes {f : Formula} (hf : ∀ x ∈ f.names, IsIdentifier x.toList) :
    f.Writes := by
  induction f using structural with
  | symbol x s =>
      intro cs ts h hcs
      exact .name (hf x (by simp [names])) hcs h
  | negation a s ih =>
      intro cs ts h hcs
      have ha := (ih hf).wrap (a.priority < .prefixed) h hcs
      exact spelled_negation ha
  | binary op a b s iha ihb =>
      intro cs ts h hcs
      have hb := (ihb fun x hx => hf x (by simp [names, hx])).wrap
        (b.priority ≤ op.priority) h hcs
      have hop := spelled_connective op (spelled_space hb)
      have ha :=
        (iha fun x hx => hf x (by simp [names, hx])).wrap (wrapsLeft op a)
          (spelled_space hop) (keepsApart_sign (by simp) _ _)
      simpa [print, tokens] using ha
  | quantified q x a s ih =>
      intro cs ts h hcs
      have hx := hf x (by simp [names])
      have ha : a.Writes := ih fun y hy => hf y (by simp [names, hy])
      have hbody : Spelled
          (x.toList ++
            ((if a.priority < .prefixed then Formula.wrap true a.print
              else ' ' :: a.print) ++ cs))
          (.identifier x ::
            (wrapTokens (a.priority < .prefixed) a.tokens ++ ts)) := by
        by_cases hloose : a.priority < .prefixed
        · have hwrapped := ha.wrap true h hcs
          simp only [hloose, if_true, decide_true]
          exact .name hx
            (keepsApart_sign (t := .opening) (by simp) _ _) hwrapped
        · simp only [hloose, if_false, decide_false]
          exact .name hx (keepsApart_space _ _) (spelled_space (ha cs ts h hcs))
      simpa [print, tokens] using spelled_quantifier q hbody
  | call x as s ih =>
      intro cs ts h hcs
      have has : ∀ a ∈ as, a.Writes := by
        intro a ha
        refine ih a ha fun y hy => hf y ?_
        simp [names, mem_namesAll.mpr ⟨a, ha, hy⟩]
      have hargs :=
        writes_arguments has (spelled_closing h) (keepsApart_sign (by simp) _ _)
      have hcall := Spelled.name (hf x (by simp [names]))
        (keepsApart_sign (t := .opening) (by simp) _ _) (spelled_opening hargs)
      simpa [print, tokens] using hcall

theorem spelled_print {f : Formula}
    (hf : ∀ x ∈ f.names, IsIdentifier x.toList) :
    Spelled f.print f.tokens := by
  have h := writes hf [] [] .nil ?_
  · rwa [List.append_nil, List.append_nil] at h
  · exact fun y hy => absurd hy (by simp)

end Formula

end PredicateLogic
