import PredicateLogic.Proofs.Formula.Same
import PredicateLogic.Proofs.Grammar.Token
import PredicateLogic.Proofs.Text.Separated

/-!
# The grammar of formulas

`Derives level n ts f` says that the tokens `ts` are a formula of a level, that
`f` is the tree they denote, and that no path of the derivation nests more than
`n` deep. A formula counts as one nesting, wherever it stands: by itself,
between parentheses or as an argument. So do an empty list of arguments, the
operand of a negation and the body of a quantifier.

The spans of `f` are not determined by the tokens, so any will do;
`Derives.of_same` makes this precise.
-/

namespace PredicateLogic

/-- The levels of the grammar. -/
inductive Level where
  | formula
  /-- Operands joined by one connective of the implication family. -/
  | implication
  /-- Operands joined by one conjunction or disjunction. -/
  | junction
  /-- What holds together by itself: a prefixed formula, a group, a call or a
  symbol. -/
  | operand
  /-- A chain of one connective, which may still have just one operand. -/
  | chain (op : Connective)
deriving DecidableEq, Repr

namespace Level

/-- The level of the operands of a connective. -/
def below (op : Connective) : Level :=
  match op.priority with
  | .implication => .junction
  | _ => .operand

/-- The connectives of a chain and of all tighter chains hold together more
tightly than this or equally. -/
def priority : Level → Priority
  | .formula | .implication => .implication
  | .junction => .junction
  | .operand => .prefixed
  | .chain op => op.priority

/-- Whether a formula of a level may end before the tokens `us`: they neither
turn its last name into a call nor continue one of its chains. -/
def StopsBefore (l : Level) (us : List Token) : Prop :=
  ∀ t ∈ us.head?, t ≠ .opening ∧ ∀ op, t = .connective op →
    op.priority < l.priority

theorem priority_lt_below (op : Connective) :
    op.priority < (below op).priority := by
  cases op <;> decide

/-- Whatever may follow a chain may follow its operands. -/
theorem StopsBefore.below {op : Connective} {us : List Token}
    (h : (chain op).StopsBefore us) : (below op).StopsBefore us := by
  intro t ht
  refine ⟨(h t ht).1, fun other hother => ?_⟩
  exact Nat.lt_trans ((h t ht).2 other hother) (priority_lt_below op)

theorem stopsBefore_connective (op : Connective) (us : List Token) :
    (below op).StopsBefore (.connective op :: us) := by
  intro t ht
  obtain rfl := Option.mem_some.mp ht
  refine ⟨by simp, fun other hother => ?_⟩
  obtain rfl := Token.connective.inj hother
  exact priority_lt_below op

theorem StopsBefore.priority_ne {op : Connective} {us : List Token}
    (h : (chain op).StopsBefore us) :
    ∀ t ∈ us.head?, ∀ other, t = .connective other →
      other.priority ≠ op.priority := by
  intro t ht other hother heq
  have hlt : other.priority < op.priority := (h t ht).2 other hother
  rw [heq] at hlt
  exact Nat.lt_irrefl _ hlt

/-- Only the priority of a level matters. -/
theorem StopsBefore.of_priority {l l' : Level} {us : List Token}
    (h : l.StopsBefore us) (hl : l.priority = l'.priority) :
    l'.StopsBefore us := by
  rw [StopsBefore, hl] at h
  exact h

theorem stopsBefore_closing (us : List Token) :
    formula.StopsBefore (.closing :: us) := by
  simp [StopsBefore]

theorem stopsBefore_comma (us : List Token) :
    formula.StopsBefore (.comma :: us) := by
  simp [StopsBefore]

end Level

/-- The tokens `ts` denote the formula `f` at a level, and no path of the
derivation nests more than `n` deep. -/
inductive Derives :
    (l : Level) → (n : Nat) → (ts : List Token) → (f : Formula) → Prop
  | symbol {n : Nat} {x : String} {s : Span} :
      Derives .operand n [.identifier x] (.symbol x s)
  /-- A name with an empty list of arguments. -/
  | emptyCall {n : Nat} {x : String} {s : Span} :
      Derives .operand (n + 1) [.identifier x, .opening, .closing]
        (.call x [] s)
  /-- A name with arguments, which are formulas with commas in between. -/
  | call {n : Nat} {x : String} {args : List (List Token × Formula)}
      {s : Span} :
      args ≠ [] → (∀ a ∈ args, Derives .formula n a.1 a.2) →
      Derives .operand n
        (.identifier x :: .opening ::
          [.comma].intercalate (args.map Prod.fst) ++ [.closing])
        (.call x (args.map Prod.snd) s)
  | group {n : Nat} {ts : List Token} {f : Formula} :
      Derives .formula n ts f →
        Derives .operand n (.opening :: ts ++ [.closing]) f
  | negation {n : Nat} {ts : List Token} {f : Formula} {s : Span} :
      Derives .operand n ts f →
        Derives .operand (n + 1) (.negation :: ts) (.negation f s)
  | quantified {n : Nat} {q : Quantifier} {x : String} {ts : List Token}
      {f : Formula} {s : Span} :
      Derives .operand n ts f →
      Derives .operand (n + 1) (.quantifier q :: .identifier x :: ts)
        (.quantified q x f s)
  /-- The first operand of a chain. -/
  | first {op : Connective} {n : Nat} {ts : List Token} {f : Formula} :
      Derives (.below op) n ts f → Derives (.chain op) n ts f
  /-- A further operand of a chain, which groups to the left. -/
  | next {op : Connective} {n : Nat} {ts us : List Token} {f g : Formula}
      {s : Span} :
      Derives (.chain op) n ts f → Derives (.below op) n us g →
      Derives (.chain op) n (ts ++ .connective op :: us) (.binary op f g s)
  | junction {op : Connective} {n : Nat} {ts : List Token} {f : Formula} :
      op.priority = .junction → Derives (.chain op) n ts f →
        Derives .junction n ts f
  | implication {op : Connective} {n : Nat} {ts : List Token} {f : Formula} :
      op.priority = .implication → Derives (.chain op) n ts f →
        Derives .implication n ts f
  | formula {n : Nat} {ts : List Token} {f : Formula} :
      Derives .implication n ts f → Derives .formula (n + 1) ts f

namespace Derives

theorem exists_arguments {n : Nat} {args : List (List Token × Formula)}
    {bs : List Formula}
    (h : ∀ a ∈ args, ∀ g : Formula, g.bare = a.2.bare →
      Derives .formula n a.1 g)
    (hbs : bs.map Formula.bare = (args.map Prod.snd).map Formula.bare) :
    ∃ args' : List (List Token × Formula),
      args'.map Prod.fst = args.map Prod.fst ∧
      args'.map Prod.snd = bs ∧ ∀ a ∈ args', Derives .formula n a.1 a.2 := by
  induction args generalizing bs with
  | nil => exact ⟨[], rfl, by simpa using hbs.symm, by simp⟩
  | cons a args ih =>
      cases bs with
      | nil => simp at hbs
      | cons b bs =>
          simp only [List.map_cons, List.cons.injEq] at hbs
          obtain ⟨args', hfst, hsnd, hall⟩ :=
            ih (fun c hc => h c (by simp [hc])) hbs.2
          refine ⟨(a.1, b) :: args', by simp [hfst], by simp [hsnd], ?_⟩
          intro c hc
          rcases List.mem_cons.mp hc with rfl | hc
          · exact h a (by simp) b hbs.1
          · exact hall c hc

/-- What nests within a bound nests within every greater one. -/
theorem mono {l : Level} {n m : Nat} {ts : List Token} {f : Formula}
    (h : Derives l n ts f) (hnm : n ≤ m) : Derives l m ts f := by
  induction h generalizing m with
  | symbol => exact symbol
  | emptyCall =>
      obtain ⟨m, rfl⟩ := Nat.exists_eq_add_of_le' (Nat.le_of_add_left_le hnm)
      exact emptyCall
  | call hne _ ih => exact call hne fun a ha => ih a ha hnm
  | group _ ih => exact group (ih hnm)
  | negation _ ih =>
      obtain ⟨m, rfl⟩ := Nat.exists_eq_add_of_le' (Nat.le_of_add_left_le hnm)
      exact negation (ih (Nat.le_of_succ_le_succ hnm))
  | quantified _ ih =>
      obtain ⟨m, rfl⟩ := Nat.exists_eq_add_of_le' (Nat.le_of_add_left_le hnm)
      exact quantified (ih (Nat.le_of_succ_le_succ hnm))
  | first _ ih => exact first (ih hnm)
  | next _ _ ihf ihg => exact next (ihf hnm) (ihg hnm)
  | junction hop _ ih => exact junction hop (ih hnm)
  | implication hop _ ih => exact implication hop (ih hnm)
  | formula _ ih =>
      obtain ⟨m, rfl⟩ := Nat.exists_eq_add_of_le' (Nat.le_of_add_left_le hnm)
      exact formula (ih (Nat.le_of_succ_le_succ hnm))

/-- The tokens determine no span. -/
theorem of_same {l : Level} {n : Nat} {ts : List Token} {f g : Formula}
    (h : Derives l n ts f) (hfg : f.same g = true) : Derives l n ts g := by
  replace hfg := ((Formula.same_iff_bare f g).mp hfg).symm
  induction h generalizing g with
  | symbol =>
      cases g <;> simp [Formula.bare] at hfg
      subst hfg
      exact symbol
  | emptyCall =>
      cases g <;> simp [Formula.bare, Formula.bareAll_eq_map] at hfg
      obtain ⟨rfl, rfl⟩ := hfg
      exact emptyCall
  | call hne _ ih =>
      cases g <;> simp only [Formula.bare, Formula.bareAll_eq_map, reduceCtorEq,
        Formula.call.injEq, and_true] at hfg
      obtain ⟨rfl, hbs⟩ := hfg
      obtain ⟨args', hfst, rfl, hall⟩ :=
        exists_arguments (fun a ha g hg => ih a ha hg) hbs
      rw [← hfst]
      refine call ?_ hall
      intro hnil
      rw [hnil, List.map_nil, eq_comm, List.map_eq_nil_iff] at hfst
      exact hne hfst
  | group _ ih => exact group (ih hfg)
  | negation _ ih =>
      cases g <;> simp [Formula.bare] at hfg
      exact negation (ih hfg)
  | quantified _ ih =>
      cases g <;> simp [Formula.bare] at hfg
      obtain ⟨rfl, rfl, hfg⟩ := hfg
      exact quantified (ih hfg)
  | first _ ih => exact first (ih hfg)
  | next _ _ ihf ihg =>
      cases g <;> simp [Formula.bare] at hfg
      obtain ⟨rfl, hf, hg⟩ := hfg
      exact next (ihf hf) (ihg hg)
  | junction hop _ ih => exact junction hop (ih hfg)
  | implication hop _ ih => exact implication hop (ih hfg)
  | formula _ ih => exact formula (ih hfg)

end Derives

end PredicateLogic
