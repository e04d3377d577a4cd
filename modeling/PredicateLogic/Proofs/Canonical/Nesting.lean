import PredicateLogic.Proofs.Canonical.Written

/-!
# How deep canonical text nests

`Formula.nesting` is what the canonical text of a formula costs. Two facts make
it useful: the canonical tokens have a derivation within any bound from there
on, and no other tokens have a derivation for less. So whenever a formula has
been read at all, its canonical text is within the bound as well. Apart from
that, the canonical text never nests deeper than the formula is high.
-/

namespace PredicateLogic

namespace Formula

mutual

/-- The nesting of the canonical tokens, not counting the formula itself. -/
def nesting : Formula → Nat
  | .symbol _ _ => 0
  | .negation a _ => a.nesting + (decide (a.priority < .prefixed)).toNat + 1
  | .binary op a b _ =>
      max (a.nesting + (wrapsLeft op a).toNat)
        (b.nesting + (decide (b.priority ≤ op.priority)).toNat)
  | .quantified _ _ a _ =>
    a.nesting + (decide (a.priority < .prefixed)).toNat + 1
  | .call _ as _ => nestingAll as + 1

def nestingAll : List Formula → Nat
  | [] => 0
  | a :: as => max a.nesting (nestingAll as)

end

theorem nesting_le_nestingAll {a : Formula} {as : List Formula} (h : a ∈ as) :
    a.nesting ≤ nestingAll as := by
  induction as with
  | nil => simp at h
  | cons b as ih =>
      rw [nestingAll]
      rcases List.mem_cons.mp h with rfl | h
      · exact Nat.le_max_left _ _
      · exact Nat.le_trans (ih h) (Nat.le_max_right _ _)

theorem nestingAll_le {n : Nat} {as : List Formula}
    (h : ∀ a ∈ as, a.nesting ≤ n) :
    nestingAll as ≤ n := by
  induction as with
  | nil => exact Nat.zero_le n
  | cons a as ih =>
      rw [nestingAll]
      exact Nat.max_le.mpr ⟨h a (by simp), ih fun b hb => h b (by simp [hb])⟩

/-- The level of the grammar that a formula belongs to by itself. -/
def level : Formula → Level
  | .binary op _ _ _ => .chain op
  | _ => .operand

theorem level_of_prefixed_le {f : Formula} (h : ¬f.priority < .prefixed) :
    f.level = .operand := by
  cases f with
  | binary op a b s => exact absurd op.priority_lt_prefixed h
  | _ => rfl

end Formula

namespace Level

/-- What it costs to have a formula at a level: the formula itself, or the
parentheses around it. -/
def surcharge : Level → Formula → Nat
  | .formula, _ => 1
  | .implication, _ => 0
  | .junction, f => (decide (f.priority < .junction)).toNat
  | .operand, f => (decide (f.priority < .prefixed)).toNat
  | .chain op, f => (Formula.wrapsLeft op f).toNat

theorem surcharge_below (op : Connective) (f : Formula) :
    (below op).surcharge f = (decide (f.priority ≤ op.priority)).toNat := by
  have hpriority : ∀ op : Connective, ∀ pr : Priority,
      ((below op) = .junction ∧ (pr ≤ op.priority ↔ pr < .junction)) ∨
        ((below op) = .operand ∧ (pr ≤ op.priority ↔ pr < .prefixed)) := by
    intro op pr
    cases op <;> cases pr <;> decide
  rcases hpriority op f.priority with ⟨hop, hiff⟩ | ⟨hop, hiff⟩
  · rw [hop, surcharge, decide_eq_decide.mpr hiff]
  · rw [hop, surcharge, decide_eq_decide.mpr hiff]

theorem surcharge_operand_le (f : Formula) : operand.surcharge f ≤ 1 :=
  Bool.toNat_le _

/-- An operand of a connective is put in parentheses less often than one of a
prefix. -/
theorem surcharge_below_le (op : Connective) (f : Formula) :
    (below op).surcharge f ≤ operand.surcharge f := by
  rw [surcharge_below, surcharge]
  by_cases hle : f.priority ≤ op.priority
  · have hlt : f.priority < .prefixed :=
      Nat.lt_of_le_of_lt hle op.priority_lt_prefixed
    rw [decide_eq_true hlt]
    exact Bool.toNat_le _
  · rw [decide_eq_false hle]
    exact Nat.zero_le _

/-- A first operand is put in parentheses less often than a further one. -/
theorem surcharge_chain_le (op : Connective) (f : Formula) :
    (chain op).surcharge f ≤ (below op).surcharge f := by
  rw [surcharge_below, surcharge]
  by_cases hle : f.priority ≤ op.priority
  · rw [decide_eq_true hle]
    exact Bool.toNat_le _
  · have hlt : ¬f.priority < op.priority := fun h => hle (Nat.le_of_lt h)
    have hne : f.priority ≠ op.priority := fun h => hle (h ▸ Nat.le_refl _)
    have hbare : Formula.wrapsLeft op f = false := by
      simp [Formula.wrapsLeft, hlt, hne]
    rw [hbare]
    exact Nat.zero_le _

theorem surcharge_junction_le {op : Connective} (hop : op.priority = .junction)
    (f : Formula) :
    junction.surcharge f ≤ (chain op).surcharge f := by
  rw [surcharge, surcharge, Formula.wrapsLeft, hop]
  by_cases hlt : f.priority < .junction
  · simp [hlt]
  · simp [hlt]

end Level

namespace Derives

open Formula

variable {l : Level} {n : Nat} {ts : List Token} {f : Formula} {op : Connective}

/-- Whatever derives nests at least as deep as the canonical text. -/
theorem nesting_le (h : Derives l n ts f) : f.nesting + l.surcharge f ≤ n := by
  induction h with
  | symbol => exact Nat.zero_le _
  | emptyCall => exact Nat.succ_le_succ (Nat.zero_le _)
  | @call n x args s hne _ ih =>
      have hargs : ∀ a ∈ args.map Prod.snd, a.nesting + 1 ≤ n := by
        intro a ha
        obtain ⟨b, hb, rfl⟩ := List.mem_map.mp ha
        exact ih b hb
      obtain ⟨a, ha⟩ := List.exists_mem_of_ne_nil _
        (by simpa using hne : args.map Prod.snd ≠ [])
      have hn := hargs a ha
      have hall : nestingAll (args.map Prod.snd) ≤ n - 1 :=
        nestingAll_le fun b hb => Nat.le_sub_one_of_lt (hargs b hb)
      have hcall :
          Level.operand.surcharge (.call x (args.map Prod.snd) s) = 0 := rfl
      rw [nesting, hcall]
      omega
  | @group n ts f _ ih =>
      have hle := Level.surcharge_operand_le f
      rw [Level.surcharge] at ih
      omega
  | @negation n ts f s _ ih => exact Nat.succ_le_succ ih
  | @quantified n q x ts f s _ ih => exact Nat.succ_le_succ ih
  | @first op n ts f _ ih =>
      exact Nat.le_trans
        (Nat.add_le_add_left (Level.surcharge_chain_le op f) _) ih
  | @next op n ts us f g s _ _ ihf ihg =>
      have hchain : (Level.chain op).surcharge (.binary op f g s) = 0 := by
        cases op <;> rfl
      rw [Level.surcharge_below] at ihg
      rw [nesting, hchain]
      exact Nat.max_le.mpr ⟨ihf, ihg⟩
  | @junction op n ts f hop _ ih =>
      exact Nat.le_trans
        (Nat.add_le_add_left (Level.surcharge_junction_le hop f) _) ih
  | implication _ _ ih => exact Nat.le_trans (Nat.le_add_right _ _) ih
  | formula _ ih => exact Nat.succ_le_succ ih

/-!
# The canonical derivation
-/

theorem below_of_operand (h : Derives .operand n ts f) :
    Derives (.below op) n ts f := by
  have hjunction : Derives .junction n ts f :=
    @Derives.junction .and _ _ _ rfl (.first h)
  cases op with
  | and | or | xor => exact h
  | implies | impliedBy | equivalent => exact hjunction

/-- A formula stands bare below a connective that holds together more
loosely. -/
theorem below_of_level (hf : ¬f.priority ≤ op.priority)
    (h : Derives f.level n ts f) :
    Derives (.below op) n ts f := by
  cases f with
  | binary inner a b s =>
      rw [Formula.priority] at hf
      rcases op.priority_eq with hop | hop
      · rcases inner.priority_eq with hinner | hinner <;>
          exact absurd (by rw [hop, hinner]; decide) hf
      · rcases inner.priority_eq with hinner | hinner
        · rw [Level.below, hop]
          exact .junction hinner h
        · exact absurd (by rw [hop, hinner]; decide) hf
  | _ => exact below_of_operand h

theorem formula_of_level (h : Derives f.level n ts f) :
    Derives .formula (n + 1) ts f := by
  have hbelow : ∀ {op : Connective}, op.priority = .implication →
      Derives (.below op) n ts f →
      Derives .formula (n + 1) ts f :=
    fun hop hf => .formula (.implication hop (.first hf))
  cases f with
  | binary op a b s =>
      rcases op.priority_eq with hop | hop
      · exact @hbelow .implies rfl (.junction hop h)
      · exact .formula (.implication hop h)
  | _ => exact @hbelow .implies rfl (below_of_operand h)

/-- A formula stands bare before a connective whose chain it continues or that
holds together more loosely. -/
theorem chain_of_level (hf : wrapsLeft op f = false)
    (h : Derives f.level n ts f) :
    Derives (.chain op) n ts f := by
  rw [wrapsLeft, Bool.or_eq_false_iff, decide_eq_false_iff_not] at hf
  by_cases hle : f.priority ≤ op.priority
  · have heq : f.priority = op.priority := by
      have hrank := Nat.le_antisymm hle (Nat.le_of_not_lt hf.1)
      revert hrank
      cases f.priority <;> cases op.priority <;> decide
    have hcontinues : continuesChain op f = true := by
      simpa [heq] using hf.2
    cases f with
    | binary inner a b s =>
        obtain rfl : inner = op := by simpa [continuesChain] using hcontinues
        exact h
    | _ => exact absurd hcontinues (by simp [continuesChain])
  · exact .first (below_of_level hle h)

theorem wrapped {needed : Bool}
    (hf : ∀ m, f.nesting ≤ m → Derives f.level m f.tokens f)
    (hn : f.nesting + needed.toNat ≤ n)
    (hoperand : ∀ {ts}, Derives .operand n ts f → Derives l n ts f)
    (hbare : needed = false → Derives f.level n f.tokens f →
      Derives l n f.tokens f) :
    Derives l n (wrapTokens needed f.tokens) f := by
  cases needed with
  | false => exact hbare rfl (hf n hn)
  | true =>
      obtain ⟨m, rfl⟩ : ∃ m, n = m + 1 := ⟨n - 1, by simp at hn; omega⟩
      have hm : f.nesting ≤ m := by simpa using hn
      exact hoperand (.group (formula_of_level (hf m hm)))

theorem wrapped_operand (hf : ∀ m, f.nesting ≤ m → Derives f.level m f.tokens f)
    (hn : f.nesting + (decide (f.priority < .prefixed)).toNat ≤ n) :
    Derives .operand n (wrapTokens (f.priority < .prefixed) f.tokens) f := by
  refine wrapped hf hn id fun hneeded h => ?_
  rwa [level_of_prefixed_le (of_decide_eq_false hneeded)] at h

end Derives

namespace Formula

theorem derives_tokens (f : Formula) :
    ∀ n, f.nesting ≤ n → Derives f.level n f.tokens f := by
  induction f using structural with
  | symbol x s => exact fun n _ => .symbol
  | negation a s ih =>
      intro n hn
      obtain ⟨m, rfl⟩ : ∃ m, n = m + 1 := ⟨n - 1, by rw [nesting] at hn; omega⟩
      exact .negation (.wrapped_operand ih (Nat.le_of_succ_le_succ hn))
  | binary op a b s iha ihb =>
      intro n hn
      rw [nesting] at hn
      have hleft :
          Derives (.chain op) n (wrapTokens (wrapsLeft op a) a.tokens) a :=
        .wrapped iha (Nat.le_trans (Nat.le_max_left _ _) hn)
          (fun h => .first (.below_of_operand h)) .chain_of_level
      have hright : Derives (.below op) n
          (wrapTokens (b.priority ≤ op.priority) b.tokens) b :=
        .wrapped ihb (Nat.le_trans (Nat.le_max_right _ _) hn) .below_of_operand
          fun hneeded => .below_of_level (of_decide_eq_false hneeded)
      exact .next hleft hright
  | quantified q x a s ih =>
      intro n hn
      obtain ⟨m, rfl⟩ : ∃ m, n = m + 1 := ⟨n - 1, by rw [nesting] at hn; omega⟩
      exact .quantified (.wrapped_operand ih (Nat.le_of_succ_le_succ hn))
  | call x as s ih =>
      intro n hn
      rw [nesting] at hn
      obtain ⟨m, rfl⟩ : ∃ m, n = m + 1 := ⟨n - 1, by omega⟩
      cases as with
      | nil => exact .emptyCall
      | cons a as =>
          have hargs : ∀ b ∈ (a :: as).map fun b => (b.tokens, b),
              Derives .formula (m + 1) b.1 b.2 := by
            intro b hb
            obtain ⟨b, hmem, rfl⟩ := List.mem_map.mp hb
            have hle := nesting_le_nestingAll hmem
            exact .formula_of_level (ih b hmem m (by omega))
          have htokens : ((a :: as).map fun b => (b.tokens, b)).map Prod.fst =
              (a :: as).map tokens := by
            rw [List.map_map]
            rfl
          have hformulas : ((a :: as).map fun b => (b.tokens, b)).map Prod.snd =
              a :: as := by
            rw [List.map_map]
            exact List.map_id _
          have hcall := Derives.call (x := x) (s := s) (by simp) hargs
          rw [htokens, hformulas, ← tokensAll_eq_map] at hcall
          exact hcall

/-- The canonical text nests no deeper than the formula is high, and less deep
if a connective joins the formula. -/
theorem nesting_le_height (f : Formula) :
    f.nesting + (decide (f.priority < .prefixed)).toNat ≤ f.height := by
  induction f using structural with
  | symbol x s => exact Nat.le_refl 0
  | negation a s ih => exact Nat.succ_le_succ ih
  | binary op a b s iha ihb =>
      have hright := Level.surcharge_below_le op b
      have hleft := Nat.le_trans (Level.surcharge_chain_le op a)
        (Level.surcharge_below_le op a)
      rw [Level.surcharge_below, Level.surcharge] at hright
      rw [Level.surcharge, Level.surcharge] at hleft
      have hlast :=
        Bool.toNat_le (decide ((Formula.binary op a b s).priority < .prefixed))
      rw [nesting, height]
      omega
  | quantified q x a s ih => exact Nat.succ_le_succ ih
  | call x as s ih =>
      have hall : nestingAll as ≤ heightAll as := by
        refine nestingAll_le fun a ha => ?_
        exact Nat.le_trans (Nat.le_trans (Nat.le_add_right _ _) (ih a ha))
          (height_le_heightAll ha)
      exact Nat.succ_le_succ hall

end Formula

end PredicateLogic
