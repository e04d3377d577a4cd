import PredicateLogic.Proofs.Grammar.Derivation

/-!
# Tokens denote at most one formula

The grammar reads its tokens in only one way, however deep they nest. Where a
text of tokens begins with two formulas, and both may end where they do, they
are made of the same tokens and are the same. This is `Level.Unique`, which is
shown by induction on the number of tokens.

A chain is derived from its end. To compare two chains from their beginning,
they are taken as lists of operands (`Derives.exists_operands`), in the same way
as the arguments of calls, with a connective or a comma before each further
item.
-/

namespace PredicateLogic

open Formula

/-!
# Lists of items
-/

/-- An item of a list without the spans of its formula. -/
def bareItem (item : List Token × Formula) : List Token × Formula :=
  (item.1, item.2.bare)

/-- Items with a separator before each of them. -/
def separated (sep : Token) (items : List (List Token × Formula)) :
    List Token :=
  items.flatMap fun item => sep :: item.1

/-- The operands of a chain, joined to the left. -/
def joined (op : Connective) (first : Formula) (others : List Formula) :
    Formula :=
  others.foldl (fun left right => .binary op left right noSpan) first

/-- The items of a list derive at a level. -/
def DeriveAt (l : Level) (items : List (List Token × Formula)) : Prop :=
  ∀ item ∈ items, ∃ n, Derives l n item.1 item.2

variable {l : Level} {n m k : Nat} {ts us vs ws : List Token} {f g : Formula}
  {op op' : Connective} {sep sep' : Token} {item item' : List Token × Formula}
  {items items' : List (List Token × Formula)}

theorem joined_concat (op : Connective) (first : Formula)
    (others : List Formula) (last : Formula) :
    joined op first (others ++ [last]) =
      .binary op (joined op first others) last noSpan :=
  List.foldl_append

theorem separated_cons (sep : Token) (item : List Token × Formula)
    (items : List (List Token × Formula)) :
    separated sep (item :: items) = sep :: (item.1 ++ separated sep items) := by
  simp [separated]

theorem separated_map_bareItem (sep : Token)
    (items : List (List Token × Formula)) :
    separated sep (items.map bareItem) = separated sep items := by
  rw [separated, List.flatMap_map]
  rfl

theorem intercalate_map_fst (item : List Token × Formula)
    (items : List (List Token × Formula)) :
    [.comma].intercalate ((item :: items).map Prod.fst) =
      item.1 ++ separated .comma items := by
  rw [List.map_cons, intercalate_cons, List.flatMap_map]
  rfl

namespace Derives

/-- No formula is empty, and none begins with a closing parenthesis. -/
theorem head (h : Derives l n ts f) : ∃ t us, ts = t :: us ∧ t ≠ .closing := by
  induction h with
  | symbol | emptyCall | call _ _ _ | group _ _ | negation _ _
  | quantified _ _ =>
      exact ⟨_, _, rfl, by simp⟩
  | first _ ih | junction _ _ ih | implication _ _ ih | formula _ ih => exact ih
  | next _ _ ih _ =>
      obtain ⟨t, us, rfl, ht⟩ := ih
      exact ⟨t, _, rfl, ht⟩

/-- A chain consists of operands with its connective in between. -/
theorem exists_operands (h : Derives (.chain op) n ts f) :
    ∃ item items, DeriveAt (.below op) (item :: items) ∧
      ts = item.1 ++ separated (.connective op) items ∧
      f.bare = joined op item.2.bare (items.map fun i => i.2.bare) := by
  generalize hl : Level.chain op = l at h
  induction h with
  | @first op' n ts f h _ =>
      obtain rfl := Level.chain.inj hl
      refine ⟨(ts, f), [], ?_, by simp [separated], rfl⟩
      intro item hitem
      obtain rfl := List.mem_singleton.mp hitem
      exact ⟨n, h⟩
  | @next op' n ts us f g s _ hg ih _ =>
      obtain rfl := Level.chain.inj hl
      obtain ⟨item, items, hitems, rfl, hbare⟩ := ih rfl
      refine ⟨item, items ++ [(us, g)], ?_, by simp [separated], ?_⟩
      · intro i hi
        rw [← List.cons_append] at hi
        rcases List.mem_append.mp hi with hi | hi
        · exact hitems i hi
        · obtain rfl := List.mem_singleton.mp hi
          exact ⟨n, hg⟩
      · rw [Formula.bare, hbare, List.map_append]
        exact (joined_concat op _ _ g.bare).symm
  | _ => exact Level.noConfusion hl

end Derives

/-!
# Comparing formulas
-/

/-- Two formulas of a level, the first of at most `k` tokens, are made of the
same tokens and are the same if the same tokens begin with both of them and both
may end there. -/
def Level.Unique (l : Level) (k : Nat) : Prop :=
  ∀ {n m ts us f g vs ws}, ts.length ≤ k → Derives l n ts f → Derives l m us g →
    ts ++ vs = us ++ ws → l.StopsBefore vs → l.StopsBefore ws →
      ts = us ∧ f.bare = g.bare

theorem stopsBefore_separated (hsep : ∀ us, l.StopsBefore (sep :: us))
    (hvs : l.StopsBefore vs) (items : List (List Token × Formula)) :
    l.StopsBefore (separated sep items ++ vs) := by
  cases items with
  | nil => exact hvs
  | cons item items =>
      rw [separated_cons]
      exact hsep _

/-- Two lists of items begin with the same item. -/
theorem unique_item (hl : l.Unique k) (hsep : ∀ us, l.StopsBefore (sep :: us))
    (hsep' : ∀ us, l.StopsBefore (sep' :: us)) (hvs : l.StopsBefore vs)
    (hws : l.StopsBefore ws) (hitems : DeriveAt l (item :: items))
    (hitems' : DeriveAt l (item' :: items'))
    (hk : (item.1 ++ separated sep items).length ≤ k)
    (heq : item.1 ++ (separated sep items ++ vs) =
      item'.1 ++ (separated sep' items' ++ ws)) :
    bareItem item = bareItem item' ∧ separated sep items ++ vs =
      separated sep' items' ++ ws := by
  obtain ⟨n, hitem⟩ := hitems item List.mem_cons_self
  obtain ⟨m, hitem'⟩ := hitems' item' List.mem_cons_self
  rw [List.length_append] at hk
  obtain ⟨hfst, hbare⟩ := hl (Nat.le_of_add_right_le hk) hitem hitem' heq
    (stopsBefore_separated hsep hvs _) (stopsBefore_separated hsep' hws _)
  rw [hfst] at heq
  exact ⟨Prod.ext hfst hbare, List.append_cancel_left heq⟩

/-- Two lists of items are the same if the same tokens begin with both of them,
and neither goes on where the other ends. -/
theorem unique_items (hl : l.Unique k) (hsep : ∀ us, l.StopsBefore (sep :: us))
    (hsep' : ∀ us, l.StopsBefore (sep' :: us)) (hvs : l.StopsBefore vs)
    (hws : l.StopsBefore ws) (hvs' : vs.head? ≠ some sep')
    (hws' : ws.head? ≠ some sep) (hitems : DeriveAt l (item :: items))
    (hitems' : DeriveAt l (item' :: items'))
    (hk : (item.1 ++ separated sep items).length ≤ k)
    (heq : item.1 ++ (separated sep items ++ vs) =
      item'.1 ++ (separated sep' items' ++ ws)) :
    (item :: items).map bareItem = (item' :: items').map bareItem ∧
      (items = [] ∨ sep = sep') := by
  induction items generalizing item item' items' with
  | nil =>
      obtain ⟨hitem, hrest⟩ :=
        unique_item hl hsep hsep' hvs hws hitems hitems' hk heq
      cases items' with
      | nil =>
          exact
            ⟨by rw [List.map_singleton, hitem, List.map_singleton], .inl rfl⟩
      | cons next' items' =>
          rw [separated_cons] at hrest
          exact absurd (congrArg List.head? hrest) hvs'
  | cons next items ih =>
      obtain ⟨hitem, hrest⟩ :=
        unique_item hl hsep hsep' hvs hws hitems hitems' hk heq
      rw [separated_cons, List.cons_append, List.append_assoc] at hrest
      cases items' with
      | nil => exact absurd (congrArg List.head? hrest).symm hws'
      | cons next' items' =>
          rw [separated_cons, List.cons_append, List.append_assoc] at hrest
          obtain ⟨hseps, hrest⟩ := List.cons.inj hrest
          rw [separated_cons, List.length_append, List.length_cons] at hk
          have hnext := ih (fun i hi => hitems i (List.mem_cons_of_mem _ hi))
            (fun i hi => hitems' i (List.mem_cons_of_mem _ hi)) (by omega) hrest
          exact ⟨List.cons_eq_cons.mpr ⟨hitem, hnext.1⟩, .inr hseps⟩

/-!
# Chains
-/

theorem below_eq_of_priority (h : op'.priority = op.priority) :
    Level.below op' = .below op := by
  rw [Level.below, Level.below, h]

/-- Two chains of one family are made of the same operands, and of the same
connective if they have any further operands. -/
theorem chain_unique (hbelow : (Level.below op).Unique k)
    (hop : op'.priority = op.priority) (hk : ts.length ≤ k)
    (h : Derives (.chain op) n ts f) (h' : Derives (.chain op') m us g)
    (heq : ts ++ vs = us ++ ws) (hvs : (Level.chain op).StopsBefore vs)
    (hws : (Level.chain op').StopsBefore ws) : ts = us ∧ f.bare = g.bare := by
  obtain ⟨item, items, hitems, rfl, hf⟩ := h.exists_operands
  obtain ⟨item', items', hitems', rfl, hg⟩ := h'.exists_operands
  have hbelow' := below_eq_of_priority hop
  rw [hbelow'] at hitems'
  rw [List.append_assoc, List.append_assoc] at heq
  have hvs' : vs.head? ≠ some (.connective op') := fun hhead =>
    Level.StopsBefore.priority_ne hvs _ hhead op' rfl hop
  have hws' : ws.head? ≠ some (.connective op) := fun hhead =>
    Level.StopsBefore.priority_ne hws _ hhead op rfl hop.symm
  obtain ⟨hlists, hseps⟩ :=
    unique_items hbelow (Level.stopsBefore_connective op)
      (fun us => hbelow' ▸ Level.stopsBefore_connective op' us)
      (Level.StopsBefore.below hvs)
      (hbelow' ▸ Level.StopsBefore.below hws) hvs' hws' hitems hitems' hk heq
  obtain ⟨hitem, hitems⟩ := List.cons.inj hlists
  obtain ⟨hfst, hbare⟩ := Prod.mk.inj hitem
  have hseparated :
      separated (.connective op) items = separated (.connective op') items' ∧
      joined op item.2.bare (items.map fun i => i.2.bare) =
        joined op' item'.2.bare (items'.map fun i => i.2.bare) := by
    rcases hseps with rfl | hseps
    · obtain rfl : items' = [] := by simpa using hitems
      exact ⟨rfl, hbare⟩
    · obtain rfl := Token.connective.inj hseps
      have hbares := congrArg (List.map Prod.snd) hitems
      rw [List.map_map, List.map_map] at hbares
      refine ⟨?_, by rw [hbare]; exact congrArg _ hbares⟩
      rw [← separated_map_bareItem, hitems, separated_map_bareItem]
  exact ⟨by rw [hfst, hseparated.1], by rw [hf, hg, hseparated.2]⟩

theorem junction_unique (h : Level.operand.Unique k) :
    Level.junction.Unique k := by
  intro n m ts us f g vs ws hk hf hg heq hvs hws
  cases hf with
  | @junction op _ _ _ hop hf =>
      cases hg with
      | @junction op' _ _ _ hop' hg =>
          have hbelow : (Level.below op).Unique k := by
            rw [Level.below, hop]
            exact h
          exact chain_unique hbelow (hop'.trans hop.symm) hk hf hg heq
            (Level.StopsBefore.of_priority hvs hop.symm)
            (Level.StopsBefore.of_priority hws hop'.symm)

theorem implication_unique (h : Level.operand.Unique k) :
    Level.implication.Unique k := by
  intro n m ts us f g vs ws hk hf hg heq hvs hws
  cases hf with
  | @implication op _ _ _ hop hf =>
      cases hg with
      | @implication op' _ _ _ hop' hg =>
          have hbelow : (Level.below op).Unique k := by
            rw [Level.below, hop]
            exact junction_unique h
          exact chain_unique hbelow (hop'.trans hop.symm) hk hf hg heq
            (Level.StopsBefore.of_priority hvs hop.symm)
            (Level.StopsBefore.of_priority hws hop'.symm)

theorem formula_unique (h : Level.operand.Unique k) :
    Level.formula.Unique k := by
  intro n m ts us f g vs ws hk hf hg heq hvs hws
  cases hf with
  | formula hf =>
      cases hg with
      | formula hg => exact implication_unique h hk hf hg heq hvs hws

/-!
# Operands
-/

theorem arguments_unique (h : Level.formula.Unique k)
    (hitems : DeriveAt .formula items) (hitems' : DeriveAt .formula items')
    (hk : ([.comma].intercalate (items.map Prod.fst)).length ≤ k)
    (heq : [.comma].intercalate (items.map Prod.fst) ++ .closing :: vs =
      [.comma].intercalate (items'.map Prod.fst) ++ .closing :: ws) :
    items.map bareItem = items'.map bareItem := by
  have hnonempty : ∀ {item items}, DeriveAt .formula (item :: items) → ∀ us vs,
      .closing :: us ≠
        [.comma].intercalate ((item :: items).map Prod.fst) ++ vs := by
    intro item items hitems us vs heq
    obtain ⟨n, hitem⟩ := hitems item List.mem_cons_self
    obtain ⟨t, ts, hts, ht⟩ := hitem.head
    rw [intercalate_map_fst, hts] at heq
    exact ht (List.cons.inj heq).1.symm
  cases items with
  | nil =>
      cases items' with
      | nil => rfl
      | cons item' items' => exact absurd heq (hnonempty hitems' _ _)
  | cons item items =>
      cases items' with
      | nil => exact absurd heq.symm (hnonempty hitems _ _)
      | cons item' items' =>
          rw [intercalate_map_fst] at hk
          rw [intercalate_map_fst, intercalate_map_fst, List.append_assoc,
            List.append_assoc] at heq
          exact (unique_items h Level.stopsBefore_comma Level.stopsBefore_comma
            (Level.stopsBefore_closing vs) (Level.stopsBefore_closing ws)
            (by simp) (by simp) hitems
            hitems' hk heq).1

/-- What the tokens `ts` behind its first token `t` make of an operand. An empty
list of arguments is a list of items like any other here. -/
def OperandShape (ts : List Token) (f : Formula) : (t : Token) → Prop
  | .identifier x => (ts = [] ∧ f.bare = .symbol x noSpan) ∨
      ∃ items, DeriveAt .formula items ∧
        ts = .opening ::
          ([.comma].intercalate (items.map Prod.fst) ++ [.closing]) ∧
        f.bare = .call x (items.map fun i => i.2.bare) noSpan
  | .opening => ∃ n us, Derives .formula n us f ∧ ts = us ++ [.closing]
  | .negation =>
    ∃ n a, Derives .operand n ts a ∧ f.bare = .negation a.bare noSpan
  | .quantifier q =>
    ∃ n x us a, Derives .operand n us a ∧ ts = .identifier x :: us ∧
        f.bare = .quantified q x a.bare noSpan
  | .connective _ | .closing | .comma => False

/-- The first token tells what kind of operand it is. -/
theorem Derives.operandShape {t : Token} (h : Derives .operand n (t :: ts) f) :
    OperandShape ts f t := by
  generalize hus : t :: ts = us at h
  cases h with
  | symbol =>
      obtain ⟨rfl, rfl⟩ := List.cons.inj hus
      exact .inl ⟨rfl, rfl⟩
  | emptyCall =>
      obtain ⟨rfl, rfl⟩ := List.cons.inj hus
      exact .inr ⟨[], by simp [DeriveAt], rfl, rfl⟩
  | call hne hargs =>
      obtain ⟨rfl, rfl⟩ := List.cons.inj hus
      refine .inr ⟨_, fun item hitem => ⟨_, hargs item hitem⟩, rfl, ?_⟩
      rw [Formula.bare, bareAll_eq_map, List.map_map]
      rfl
  | group h =>
      obtain ⟨rfl, rfl⟩ := List.cons.inj hus
      exact ⟨_, _, h, rfl⟩
  | negation h =>
      obtain ⟨rfl, rfl⟩ := List.cons.inj hus
      exact ⟨_, _, h, rfl⟩
  | quantified h =>
      obtain ⟨rfl, rfl⟩ := List.cons.inj hus
      exact ⟨_, _, _, _, h, rfl, rfl⟩

/-- A name is applied exactly if a parenthesis is opened behind it. -/
theorem name_unique {x : String} (h : Level.operand.Unique k)
    (hk : ts.length ≤ k) (hf : OperandShape ts f (.identifier x))
    (hg : OperandShape us g (.identifier x)) (heq : ts ++ vs = us ++ ws)
    (hvs : Level.operand.StopsBefore vs) (hws : Level.operand.StopsBefore ws) :
    ts = us ∧ f.bare = g.bare := by
  have hopening : ∀ {vs us : List Token}, Level.operand.StopsBefore vs →
      vs ≠ .opening :: us := by
    rintro vs us hvs rfl
    exact (hvs .opening rfl).1 rfl
  rcases hf with ⟨rfl, hf⟩ | ⟨items, hitems, rfl, hf⟩ <;>
    rcases hg with ⟨rfl, hg⟩ | ⟨items', hitems', rfl, hg⟩
  · exact ⟨rfl, hf.trans hg.symm⟩
  · exact absurd heq (hopening hvs)
  · exact absurd heq.symm (hopening hws)
  · simp only [List.cons_append, List.append_assoc, List.cons.injEq,
      List.nil_append, true_and] at heq
    simp only [List.length_cons, List.length_append] at hk
    have hlists :=
      arguments_unique (formula_unique h) hitems hitems' (by omega) heq
    have hfsts := congrArg (List.map Prod.fst) hlists
    have hsnds := congrArg (List.map Prod.snd) hlists
    rw [List.map_map, List.map_map] at hfsts hsnds
    have htokens : items.map Prod.fst = items'.map Prod.fst := hfsts
    have hbares : items.map (fun i => i.2.bare) = items'.map fun i =>
      i.2.bare := hsnds
    exact ⟨by rw [htokens], by rw [hf, hg, hbares]⟩

theorem operand_unique (h : Level.operand.Unique k) :
    Level.operand.Unique (k + 1) := by
  intro n m ts us f g vs ws hlength hf hg htokens hvs hws
  obtain ⟨t, ts, rfl, -⟩ := hf.head
  obtain ⟨u, us, rfl, -⟩ := hg.head
  obtain ⟨rfl, heq⟩ : t = u ∧ ts ++ vs = us ++ ws := List.cons.inj htokens
  have hk : ts.length ≤ k := Nat.le_of_succ_le_succ hlength
  have hfshape := hf.operandShape
  have hgshape := hg.operandShape
  -- Both operands are known by their shape now, and `ts` and `us` take further
  -- forms below.
  clear hf hg hlength htokens
  suffices hrest : ts = us ∧ f.bare = g.bare from ⟨by rw [hrest.1], hrest.2⟩
  cases t with
  | identifier x => exact name_unique h hk hfshape hgshape heq hvs hws
  | opening =>
      obtain ⟨n', ts, hts, rfl⟩ := hfshape
      obtain ⟨m', us, hus, rfl⟩ := hgshape
      rw [List.append_assoc, List.append_assoc] at heq
      rw [List.length_append] at hk
      obtain ⟨rfl, hbare⟩ :=
        formula_unique h (Nat.le_of_add_right_le hk) hts hus heq
          (Level.stopsBefore_closing vs) (Level.stopsBefore_closing ws)
      exact ⟨rfl, hbare⟩
  | negation =>
      obtain ⟨n', a, hts, hfbare⟩ := hfshape
      obtain ⟨m', b, hus, hgbare⟩ := hgshape
      obtain ⟨rfl, hbare⟩ := h hk hts hus heq hvs hws
      exact ⟨rfl, by rw [hfbare, hgbare, hbare]⟩
  | quantifier q =>
      obtain ⟨n', x, ts, a, hts, rfl, hfbare⟩ := hfshape
      obtain ⟨m', y, us, b, hus, rfl, hgbare⟩ := hgshape
      obtain ⟨hxy, hrest⟩ :
        Token.identifier x = .identifier y ∧ ts ++ vs = us ++ ws :=
        List.cons.inj heq
      obtain rfl := Token.identifier.inj hxy
      obtain ⟨rfl, hbare⟩ := h (Nat.le_of_succ_le hk) hts hus hrest hvs hws
      exact ⟨rfl, by rw [hfbare, hgbare, hbare]⟩
  | connective op | closing | comma => exact hfshape.elim

theorem unique_operand (k : Nat) : Level.operand.Unique k := by
  induction k with
  | zero =>
      intro n m ts us f g vs ws hk hf
      obtain ⟨t, ts, rfl, -⟩ := hf.head
      exact absurd hk (by simp)
  | succ k ih => exact operand_unique ih

/-- No tokens denote two formulas, whatever the bounds on their nesting. -/
theorem Derives.unique (hf : Derives .formula n ts f)
    (hg : Derives .formula m ts g) :
    f.same g = true := by
  have hstop : Level.formula.StopsBefore [] := by simp [Level.StopsBefore]
  have hunique : Level.formula.Unique ts.length :=
    formula_unique (unique_operand ts.length)
  exact (same_iff_bare f g).mpr
    (hunique (Nat.le_refl _) hf hg rfl hstop hstop).2

end PredicateLogic
