import PredicateLogic.Proofs.Formula.Binding
import PredicateLogic.Proofs.Role.Map
import PredicateLogic.Proofs.Role.Rejection

/-!
# What roles say

The roles of a formula that is not rejected describe every use of every
identifier. The survey records only the first unbound occurrence of each; what
it says of all others follows from the absence of errors. The scope of a symbol
is said twice, by the binders that the survey carries along and by
`Formula.occursFree`, and both agree on every formula.
-/

namespace PredicateLogic

namespace Formula

/-- The identifier `x` heads a call with `n` arguments at the place. -/
def CallsAt (f : Formula) (p : List Nat) (x : String) (n : Nat) : Prop :=
  ∃ as s, f.at? p = some (.call x as s) ∧ as.length = n

/-- The place is that of the first call headed by the identifier, in reading
order. -/
def FirstCallAt (f : Formula) (p : List Nat) (x : String) : Prop :=
  (∃ n, f.CallsAt p x n) ∧ ∀ q < p, ∀ n, ¬f.CallsAt q x n

end Formula

/-- The roles say of every identifier how it is used in the formula. -/
structure RoleMap.Describes (roles : RoleMap) (f : Formula) : Prop where
  /-- No identifier has two roles. -/
  ascending : roles.Ascending
  /-- The identifiers that have a role are those that occur or are bound. -/
  identifiers :
    ∀ x, (∃ r, roles.lookup x = some r) ↔ (∃ p, f.OccursAt p x) ∨ f.Binds x
  /-- The individual constants are the symbols that occur free. -/
  constant : ∀ x, roles.lookup x = some .constant ↔ f.occursFree x = true
  /-- The predicates and functions are the identifiers that head calls. -/
  applied : ∀ x n, (roles.lookup x = some (.predicate n) ∨
    roles.lookup x = some (.function n)) ↔
    ∃ p, f.CallsAt p x n
  /-- All calls of an identifier agree in the number of arguments, and none is
  enclosed by a quantifier of the identifier. -/
  calls :
    ∀ x n p q m, f.CallsAt p x n → f.CallsAt q x m → m = n ∧ ¬f.BoundAt q x
  /-- The first call decides whether the identifier is a function or a
  predicate: it is a function if the call is directly an argument of another
  one. -/
  label : ∀ x r, roles.lookup x = some r → r.arity?.isSome →
    ∃ p n, f.FirstCallAt p x ∧ f.CallsAt p x n ∧
      ((f.IsArgument p ∧ r = .function n) ∨
        (¬f.IsArgument p ∧ r = .predicate n))
  /-- The bound variables are the identifiers that are bound, and neither occur
  free nor head calls. -/
  bound : ∀ x, roles.lookup x = some .bound ↔
    f.Binds x ∧ f.occursFree x = false ∧ ∀ p n, ¬f.CallsAt p x n

namespace Formula

open Occurrence Analysis

variable {f : Formula} {p q : List Nat} {x : String} {r : Role} {n m : Nat}
  {roles : RoleMap}

/-!
# Places
-/

theorem CallsAt.occursAt (h : f.CallsAt p x n) : f.OccursAt p x := by
  obtain ⟨as, s, hp, -⟩ := h
  exact ⟨_, hp, rfl⟩

theorem CallsAt.unique (h : f.CallsAt p x n) (h' : f.CallsAt p x m) :
    n = m := by
  obtain ⟨as, s, hp, rfl⟩ := h
  obtain ⟨bs, t, hp', rfl⟩ := h'
  obtain ⟨-, rfl, -⟩ := Formula.call.inj (Option.some.inj (hp.symm.trans hp'))
  rfl

/-- An identifier that occurs at a place is a symbol there or heads a call. -/
theorem OccursAt.symbol_or_call (h : f.OccursAt p x) :
    (∃ s, f.at? p = some (.symbol x s)) ∨ ∃ n, f.CallsAt p x n := by
  obtain ⟨g, hg, hx⟩ := h
  cases g with
  | symbol y s =>
      obtain rfl := Option.some.inj hx
      exact .inl ⟨s, hg⟩
  | call y as s =>
      obtain rfl := Option.some.inj hx
      exact .inr ⟨as.length, as, s, hg, rfl⟩
  | negation a s => exact absurd hx (by simp [head?])
  | binary op a b s => exact absurd hx (by simp [head?])
  | quantified k y a s => exact absurd hx (by simp [head?])

theorem RoleAt.arity_eq_some_iff (h : f.RoleAt p r) (hx : f.OccursAt p x) :
    r.arity? = some n ↔ f.CallsAt p x n := by
  rcases h with ⟨y, s, hg, rfl⟩ | ⟨y, as, s, hg, hr⟩
  · constructor
    · intro harity
      exact absurd harity (by simp [Role.arity?])
    · rintro ⟨as, t, hg', -⟩
      exact absurd (hg.symm.trans hg') (by simp)
  · obtain rfl : y = x := OccursAt.unique ⟨_, hg, rfl⟩ hx
    have harity : r.arity? = some as.length := by
      rcases hr with ⟨-, rfl⟩ | ⟨-, rfl⟩ <;> rfl
    rw [harity, Option.some.injEq]
    constructor
    · intro hn
      exact ⟨as, s, hg, hn⟩
    · rintro ⟨bs, t, hg', rfl⟩
      obtain ⟨-, rfl, -⟩ :=
        Formula.call.inj (Option.some.inj (hg.symm.trans hg'))
      rfl

theorem RoleAt.eq_constant_iff (h : f.RoleAt p r) (hx : f.OccursAt p x) :
    r = .constant ↔ ∃ s, f.at? p = some (.symbol x s) := by
  rcases h with ⟨y, s, hg, rfl⟩ | ⟨y, as, s, hg, hr⟩
  · obtain rfl : y = x := OccursAt.unique ⟨_, hg, rfl⟩ hx
    simp [hg]
  · have hne : r ≠ .constant := by
      rcases hr with ⟨-, rfl⟩ | ⟨-, rfl⟩ <;> simp
    simp [hne, hg]

theorem OccursAt.exists_roleAt (h : f.OccursAt p x) : ∃ r, f.RoleAt p r := by
  rcases h.symbol_or_call with ⟨s, hp⟩ | ⟨n, as, s, hp, -⟩
  · exact ⟨_, .inl ⟨x, s, hp, rfl⟩⟩
  · by_cases harg : f.IsArgument p
    · exact ⟨_, .inr ⟨x, as, s, hp, .inl ⟨harg, rfl⟩⟩⟩
    · exact ⟨_, .inr ⟨x, as, s, hp, .inr ⟨harg, rfl⟩⟩⟩

/-!
# Recorded roles
-/

/-- The roles of a formula that is not rejected are the recorded ones, and bound
variables for what is left of the binders. -/
theorem exists_survey (h : f.analyze = .ok roles) :
    ∃ recorded, (recorded.map Prod.fst).Nodup ∧
      Surveyed (f.occurrences [] .formula) recorded ∧
      roles =
        f.binders.foldl (fun roles x => RoleMap.insertIfNew x .bound roles)
        (recorded.foldl (fun roles (x, r) => RoleMap.insert x r roles) []) := by
  have hspec := survey_spec (f.occurrences [] .formula) surveyed_nil
  refine ⟨f.survey.recorded, nodup_survey _ (by simp), ?_⟩
  rw [analyze] at h
  rw [Formula.survey] at h ⊢
  cases herror : (Analysis.survey [] (f.occurrences [] .formula)).error with
  | some e =>
      rw [herror] at h
      exact absurd h (by simp)
  | none =>
      rw [herror] at h hspec
      exact ⟨by simpa using hspec, (Except.ok.inj h).symm⟩

theorem ascending_of_analyze (h : f.analyze = .ok roles) : roles.Ascending := by
  obtain ⟨recorded, -, -, rfl⟩ := exists_survey h
  exact RoleMap.ascending_foldl_insertIfNew _
    (RoleMap.ascending_foldl_insert _ List.Pairwise.nil)

/-- The role of an identifier comes from the first place where it is unbound. If
there is none, the identifier is a bound variable, or does not occur at all. -/
theorem lookup_of_analyze (h : f.analyze = .ok roles) (x : String) :
    (∃ p r, f.FreeAt p x ∧ (∀ q < p, ¬f.FreeAt q x) ∧ f.RoleAt p r ∧
      roles.lookup x = some r) ∨
      ((∀ p, ¬f.FreeAt p x) ∧
        roles.lookup x = if x ∈ f.binders then some Role.bound else none) := by
  obtain ⟨recorded, hnodup, hsurveyed, rfl⟩ := exists_survey h
  obtain ⟨sites, hsites⟩ := exists_located f [] .formula
  rw [← hsites.occurrences] at hsurveyed
  rw [RoleMap.lookup_foldl_insertIfNew, RoleMap.lookup_foldl_insert,
    lookup_reverse hnodup, hsurveyed.first x, List.lookup_nil, Option.or_none]
  cases hfind : (sites.map Prod.snd).find? (isFree x) with
  | some a =>
      obtain ⟨p, hfree, hfirst, hrole⟩ := hsites.exists_first_free hfind
      exact .inl ⟨p, a.role, hfree, hfirst, hrole, rfl⟩
  | none =>
      refine .inr ⟨fun p hfree => ?_, rfl⟩
      obtain ⟨o, ho⟩ := hsites.complete p x hfree.1
      have hsite : IsSite [] .formula f p o := hsites.isSite _ ho
      exact List.find?_eq_none.mp hfind o (List.mem_map.mpr ⟨(p, o), ho, rfl⟩)
        (hsite.freeAt_iff.mp hfree)

theorem no_error_of_analyze (h : f.analyze = .ok roles) :
    ∀ e, f.analyze ≠ .error e := by
  intro e he
  exact absurd (h.symm.trans he) (by simp)

/-- Without an error no call is headed by a variable that is bound there. -/
theorem CallsAt.freeAt (h : f.analyze = .ok roles) (hcall : f.CallsAt p x n) :
    f.FreeAt p x := by
  have hoccurs := hcall.occursAt
  obtain ⟨as, s, hp, -⟩ := hcall
  exact ⟨hoccurs, not_boundAt_of_no_error (no_error_of_analyze h) hp⟩

/-- Wherever an identifier is unbound it is used as at the first of these
places, which its role says. -/
theorem exists_lookup_of_freeAt (h : f.analyze = .ok roles)
    (hfree : f.FreeAt p x) (hrole : f.RoleAt p r) :
    ∃ q r', f.FreeAt q x ∧ (∀ q' < q, ¬f.FreeAt q' x) ∧ f.RoleAt q r' ∧
      roles.lookup x = some r' ∧ r'.arity? = r.arity? := by
  rcases lookup_of_analyze h x with
    ⟨q, r', hq, hfirst, hrole', hlookup⟩ | ⟨hnone, -⟩
  · exact ⟨q, r', hq, hfirst, hrole', hlookup,
      arity_eq_of_no_error (no_error_of_analyze h) hq hfree hrole' hrole⟩
  · exact absurd hfree (hnone p)

theorem applied_iff (h : f.analyze = .ok roles) :
    (∃ r, roles.lookup x = some r ∧ r.arity? = some n) ↔
      ∃ p, f.CallsAt p x n := by
  constructor
  · rintro ⟨r, hr, harity⟩
    rcases lookup_of_analyze h x with
      ⟨p, r', hfree, -, hrole, hlookup⟩ | ⟨-, hlookup⟩
    · obtain rfl := Option.some.inj (hr.symm.trans hlookup)
      exact ⟨p, (hrole.arity_eq_some_iff hfree.1).mp harity⟩
    · have hbound : r = .bound := by
        rw [hr] at hlookup
        split at hlookup
        · exact Option.some.inj hlookup
        · exact absurd hlookup (by simp)
      rw [hbound] at harity
      exact absurd harity (by simp [Role.arity?])
  · rintro ⟨p, hcall⟩
    obtain ⟨r, hrole⟩ := hcall.occursAt.exists_roleAt
    obtain ⟨q, r', -, -, -, hlookup, harity⟩ :=
      exists_lookup_of_freeAt h (hcall.freeAt h) hrole
    exact ⟨r', hlookup,
      harity.trans ((hrole.arity_eq_some_iff hcall.occursAt).mpr hcall)⟩

/-- Where an identifier heads a call it has an arity, so all places where it is
unbound are calls. -/
theorem FreeAt.callsAt (h : f.analyze = .ok roles) (hfree : f.FreeAt q x)
    (hcall : f.CallsAt p x n) : f.CallsAt q x n := by
  obtain ⟨r, hrole⟩ := hfree.1.exists_roleAt
  obtain ⟨r', hrole'⟩ := hcall.occursAt.exists_roleAt
  have harity := arity_eq_of_no_error (no_error_of_analyze h) hfree
    (hcall.freeAt h) hrole hrole'
  rw [← hrole.arity_eq_some_iff hfree.1, harity]
  exact (hrole'.arity_eq_some_iff hcall.occursAt).mpr hcall

theorem occursFree_iff_lookup (h : f.analyze = .ok roles) :
    roles.lookup x = some .constant ↔ f.occursFree x = true := by
  rw [occursFree_iff]
  constructor
  · intro hconstant
    rcases lookup_of_analyze h x with
      ⟨p, r, hfree, -, hrole, hlookup⟩ | ⟨-, hlookup⟩
    · obtain rfl := Option.some.inj (hconstant.symm.trans hlookup)
      obtain ⟨s, hp⟩ := (hrole.eq_constant_iff hfree.1).mp rfl
      exact ⟨p, s, hp, hfree.2⟩
    · rw [hconstant] at hlookup
      split at hlookup <;> simp at hlookup
  · rintro ⟨p, s, hp, hbound⟩
    have hfree : f.FreeAt p x := ⟨⟨_, hp, rfl⟩, hbound⟩
    obtain ⟨q, r, hq, -, hrole, hlookup, harity⟩ :=
      exists_lookup_of_freeAt h hfree (.inl ⟨x, s, hp, rfl⟩)
    have hconstant : r = .constant := by
      have hne := hrole.ne_bound
      cases r <;> simp_all [Role.arity?]
    rw [hlookup, hconstant]

/-- An identifier that is unbound somewhere is an individual constant or heads a
call. -/
theorem forall_not_freeAt_iff (h : f.analyze = .ok roles) :
    (∀ p, ¬f.FreeAt p x) ↔
      f.occursFree x = false ∧ ∀ p n, ¬f.CallsAt p x n := by
  rw [← Bool.not_eq_true, occursFree_iff]
  constructor
  · intro hnone
    refine ⟨?_, fun p n hcall => hnone p (hcall.freeAt h)⟩
    rintro ⟨p, s, hp, hbound⟩
    exact hnone p ⟨⟨_, hp, rfl⟩, hbound⟩
  · rintro ⟨hsymbol, hcalls⟩ p ⟨hoccurs, hbound⟩
    rcases hoccurs.symbol_or_call with ⟨s, hp⟩ | ⟨n, hcall⟩
    · exact hsymbol ⟨p, s, hp, hbound⟩
    · exact hcalls p n hcall

theorem bound_iff_lookup (h : f.analyze = .ok roles) :
    roles.lookup x = some .bound ↔
      f.Binds x ∧ f.occursFree x = false ∧ ∀ p n, ¬f.CallsAt p x n := by
  rw [← forall_not_freeAt_iff h, ← mem_binders_iff]
  rcases lookup_of_analyze h x with
    ⟨p, r, hfree, -, hrole, hlookup⟩ | ⟨hnone, hlookup⟩
  · rw [hlookup, Option.some.injEq]
    exact ⟨fun hr => absurd hr hrole.ne_bound,
      fun hall => absurd hfree (hall.2 p)⟩
  · rw [hlookup]
    simp [hnone]

/-- The first call of an identifier is the first place where it is unbound. -/
theorem exists_label (h : f.analyze = .ok roles) (hr : roles.lookup x = some r)
    (harity : r.arity? = some n) :
    ∃ p, f.FirstCallAt p x ∧ f.CallsAt p x n ∧ f.RoleAt p r := by
  obtain ⟨q, hcall⟩ := (applied_iff h).mp ⟨r, hr, harity⟩
  rcases lookup_of_analyze h x with
    ⟨p, r', hfree, hfirst, hrole, hlookup⟩ | ⟨hnone, -⟩
  · obtain rfl := Option.some.inj (hr.symm.trans hlookup)
    have hp := hfree.callsAt h hcall
    exact ⟨p, ⟨⟨n, hp⟩, fun q' hlt m hq' => hfirst q' hlt (hq'.freeAt h)⟩,
      hp, hrole⟩
  · exact absurd (hcall.freeAt h) (hnone q)

/-- The roles of a formula that is not rejected say of every identifier how it
is used. -/
theorem analyze_describes {f : Formula} {roles : RoleMap}
    (h : f.analyze = .ok roles) :
    roles.Describes f where
  ascending := ascending_of_analyze h
  identifiers x := by
    constructor
    · rintro ⟨r, hr⟩
      rcases lookup_of_analyze h x with ⟨p, -, hfree, -⟩ | ⟨-, hlookup⟩
      · exact .inl ⟨p, hfree.1⟩
      · rw [hr] at hlookup
        split at hlookup
        · next hx => exact .inr ((mem_binders_iff f x).mp hx)
        · exact absurd hlookup (by simp)
    · intro hx
      rcases lookup_of_analyze h x with
        ⟨-, r, -, -, -, hlookup⟩ | ⟨hnone, hlookup⟩
      · exact ⟨r, hlookup⟩
      · have hbinds : f.Binds x := by
          rcases hx with ⟨p, hp⟩ | hx
          · by_contra hbinds
            exact hnone p ⟨hp, fun hbound => hbinds hbound.binds⟩
          · exact hx
        rw [if_pos ((mem_binders_iff f x).mpr hbinds)] at hlookup
        exact ⟨.bound, hlookup⟩
  constant x := occursFree_iff_lookup h
  applied x n := by
    rw [← applied_iff h]
    constructor
    · rintro (hlookup | hlookup)
      · exact ⟨_, hlookup, rfl⟩
      · exact ⟨_, hlookup, rfl⟩
    · rintro ⟨r, hlookup, harity⟩
      cases r <;> simp [Role.arity?] at harity <;> subst harity
      · exact .inl hlookup
      · exact .inr hlookup
  calls x n p q m hp hq :=
    ⟨hq.unique ((hq.freeAt h).callsAt h hp), (hq.freeAt h).2⟩
  label x r hr harity := by
    obtain ⟨n, hn⟩ := Option.isSome_iff_exists.mp harity
    obtain ⟨p, hfirst, hcall, hrole⟩ := exists_label h hr hn
    refine ⟨p, n, hfirst, hcall, ?_⟩
    obtain ⟨as, s, hp, rfl⟩ := hcall
    rcases hrole with ⟨y, t, hp', -⟩ | ⟨y, bs, t, hp', hr⟩
    · exact absurd (hp.symm.trans hp') (by simp)
    · obtain ⟨-, rfl, -⟩ :=
        Formula.call.inj (Option.some.inj (hp.symm.trans hp'))
      exact hr
  bound x := bound_iff_lookup h

theorem analyze_describes_shadowed_constant :
    let f : Formula :=
      .binary .and
        (.quantified .universal "x"
          (.call "P" [.symbol "x" noSpan, .symbol "c" noSpan] noSpan) noSpan)
        (.call "Q" [.call "P" [.symbol "x" noSpan, .call "f" [] noSpan] noSpan]
          noSpan) noSpan
    let roles : RoleMap :=
      [("P", .predicate 2), ("Q", .predicate 1), ("c", .constant),
        ("f", .function 0), ("x", .constant)]
    f.analyze = .ok roles ∧ roles.Describes f := by
  intro f roles
  have h : f.analyze = .ok roles := by decide +kernel
  exact ⟨h, analyze_describes h⟩

end Formula

end PredicateLogic
