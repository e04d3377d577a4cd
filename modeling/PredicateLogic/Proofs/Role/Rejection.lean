import PredicateLogic.Proofs.Role.Site
import PredicateLogic.Proofs.Role.Survey

/-!
# Which formulas are rejected

Analysis rejects a formula exactly if a bound variable is applied somewhere, or
two unbound occurrences of one identifier are used differently. It blames the
first place that breaks a rule. The survey of the occurrences is compared with
the places themselves by means of `Formula.Located`.
-/

namespace PredicateLogic.Formula

open Occurrence Analysis

/-- The identifier `x` occurs at the place, outside all quantifiers that bind
it. -/
def FreeAt (f : Formula) (p : List Nat) (x : String) : Prop :=
  f.OccursAt p x ∧ ¬f.BoundAt p x

/-- The identifier `x` breaks the rules at the place: it is a bound variable
that is applied, or it is unbound and used differently at an earlier place where
it is unbound. -/
def OffendsAt (f : Formula) (p : List Nat) (x : String) : Prop :=
  (f.BoundAt p x ∧ ∃ as s, f.at? p = some (.call x as s)) ∨
    (f.FreeAt p x ∧ ∃ q < p, f.FreeAt q x ∧
      ∃ previous role, f.RoleAt q previous ∧ f.RoleAt p role ∧
        previous.arity? ≠ role.arity?)

variable {f : Formula} {p q : List Nat} {x : String} {o a : Occurrence}
  {before after sites : List (List Nat × Occurrence)}

/-!
# Places and occurrences
-/

theorem IsSite.freeAt_iff (h : IsSite [] .formula f p o) :
    f.FreeAt p x ↔ o.isFree x = true := by
  rw [isFree_iff, ← Bool.not_eq_true, h.isBound_iff]
  constructor
  · rintro ⟨hx, hfree⟩
    obtain rfl := h.occursAt.unique hx
    exact ⟨hfree, rfl⟩
  · rintro ⟨hfree, rfl⟩
    exact ⟨h.occursAt, hfree⟩

/-- An occurrence is applied exactly if a call is found at its place. -/
theorem IsSite.arity_isSome_iff (h : IsSite [] .formula f p o) :
    o.role.arity?.isSome = true ↔
      ∃ as s, f.at? p = some (.call o.identifier as s) := by
  constructor
  · intro harity
    rcases h.roleAt with ⟨y, s, -, hrole⟩ | ⟨y, as, s, hg, -⟩
    · rw [hrole] at harity
      exact Bool.noConfusion harity
    · obtain rfl : y = o.identifier := OccursAt.unique ⟨_, hg, rfl⟩ h.occursAt
      exact ⟨as, s, hg⟩
  · rintro ⟨as, s, hg⟩
    rcases h.roleAt with ⟨y, t, hg', -⟩ | ⟨y, bs, t, -, ⟨-, hrole⟩ | ⟨-, hrole⟩⟩
    · exact absurd (hg.symm.trans hg') (by simp)
    · rw [hrole]
      rfl
    · rw [hrole]
      rfl

theorem IsSite.conflicts_iff (ha : IsSite [] .formula f q a)
    (ho : IsSite [] .formula f p o) :
    a.Conflicts o ↔ f.FreeAt q o.identifier ∧ f.FreeAt p o.identifier ∧
      ∃ previous role, f.RoleAt q previous ∧ f.RoleAt p role ∧
        previous.arity? ≠ role.arity? := by
  have hagrees := Role.agrees_iff_arity ha.roleAt.ne_bound ho.roleAt.ne_bound
  rw [ha.freeAt_iff, ho.freeAt_iff, isFree_iff, isFree_iff]
  constructor
  · rintro ⟨hafree, hofree, heq, hdisagrees⟩
    rw [← Bool.not_eq_true, hagrees] at hdisagrees
    exact ⟨⟨hafree, heq⟩, ⟨hofree, rfl⟩, _, _, ha.roleAt, ho.roleAt, hdisagrees⟩
  · rintro ⟨⟨hafree, heq⟩, ⟨hofree, -⟩, previous, role, hprevious,
      hrole, hdiffer⟩
    obtain rfl := ha.roleAt.unique hprevious
    obtain rfl := ho.roleAt.unique hrole
    rw [ne_eq, ← hagrees, Bool.not_eq_true] at hdiffer
    exact ⟨hafree, hofree, heq, hdiffer⟩

/-- The occurrences before one of them are those at smaller paths. -/
theorem Located.mem_before_iff
    (h : Located [] .formula f (before ++ (p, o) :: after)) :
    (q, a) ∈ before ↔ (q, a) ∈ before ++ (p, o) :: after ∧ q < p := by
  have hascending := h.ascending
  rw [List.pairwise_append, List.pairwise_cons] at hascending
  obtain ⟨-, ⟨hafter, -⟩, hbefore⟩ := hascending
  constructor
  · intro hq
    exact ⟨List.mem_append_left _ hq, hbefore _ hq (p, o) (by simp)⟩
  · rintro ⟨hq, hlt⟩
    rcases List.mem_append.mp hq with hq | hq
    · exact hq
    · rcases List.mem_cons.mp hq with heq | hq
      · obtain ⟨rfl, rfl⟩ := Prod.mk.inj heq
        exact absurd hlt (List.lt_irrefl _)
      · exact absurd hlt (List.lt_asymm (hafter _ hq))

theorem Located.exists_before
    (h : Located [] .formula f (before ++ (p, o) :: after))
    (hq : f.OccursAt q x) (hlt : q < p) :
    ∃ a, (q, a) ∈ before ∧ a.identifier = x := by
  obtain ⟨a, ha⟩ := h.complete q x hq
  exact ⟨a, h.mem_before_iff.mpr ⟨ha, hlt⟩, (h.isSite _ ha).occursAt.unique hq⟩

/-- An occurrence breaks the rules behind the earlier ones exactly if its place
does. -/
theorem Located.offendsAt_iff
    (h : Located [] .formula f (before ++ (p, o) :: after)) :
    f.OffendsAt p o.identifier ↔ o.Offends (before.map Prod.snd) := by
  have ho : IsSite [] .formula f p o := h.isSite (p, o) (by simp)
  have hsite : ∀ {q a}, (q, a) ∈ before → IsSite [] .formula f q a :=
    fun {q a} hq => h.isSite (q, a) (List.mem_append_left _ hq)
  constructor
  · rintro (⟨hbound, hcall⟩ | ⟨hfree, q, hlt, hq, hroles⟩)
    · exact .inl ⟨ho.isBound_iff.mpr hbound, ho.arity_isSome_iff.mpr hcall⟩
    · obtain ⟨a, ha, -⟩ := h.exists_before hq.1 hlt
      refine .inr ⟨a, List.mem_map.mpr ⟨(q, a), ha, rfl⟩, ?_⟩
      exact ((hsite ha).conflicts_iff ho).mpr ⟨hq, hfree, hroles⟩
  · rintro (⟨hbound, hcall⟩ | ⟨a, ha, hconflict⟩)
    · exact .inl ⟨ho.isBound_iff.mp hbound, ho.arity_isSome_iff.mp hcall⟩
    · obtain ⟨⟨q, a⟩, hq, rfl⟩ := List.mem_map.mp ha
      obtain ⟨hqfree, hfree, hroles⟩ :=
        ((hsite hq).conflicts_iff ho).mp hconflict
      exact .inr ⟨hfree, q, (h.mem_before_iff.mp hq).2, hqfree, hroles⟩

theorem exists_split {os rest : List Occurrence}
    (h : sites.map Prod.snd = os ++ o :: rest) :
    ∃ before p after, sites = before ++ (p, o) :: after ∧
      before.map Prod.snd = os := by
  obtain ⟨before, tail, rfl, hbefore, htail⟩ := List.map_eq_append_iff.mp h
  obtain ⟨⟨p, o⟩, after, rfl, rfl, -⟩ := List.map_eq_cons_iff.mp htail
  exact ⟨before, p, after, rfl, hbefore⟩

/-!
# Errors
-/

theorem analyze_eq_error_iff {e : AnalysisError} :
    f.analyze = .error e ↔
      (Analysis.survey [] (f.occurrences [] .formula)).error = some e := by
  rw [analyze, Formula.survey]
  cases (Analysis.survey [] (f.occurrences [] .formula)).error with
  | none => simp
  | some e' => simp

/-- Without an error nothing breaks the rules. -/
theorem exists_surveyed (h : ∀ e, f.analyze ≠ .error e) :
    ∃ sites recorded, Located [] .formula f sites ∧
      Surveyed (sites.map Prod.snd) recorded := by
  have hspec := survey_spec (f.occurrences [] .formula) surveyed_nil
  obtain ⟨sites, hsites⟩ := exists_located f [] .formula
  cases herror : (Analysis.survey [] (f.occurrences [] .formula)).error with
  | none =>
      rw [herror, List.nil_append, ← hsites.occurrences] at hspec
      exact ⟨sites, _, hsites, hspec⟩
  | some e => exact absurd (analyze_eq_error_iff.mpr herror) (h e)

theorem not_boundAt_of_no_error (h : ∀ e, f.analyze ≠ .error e)
    {as : List Formula} {s : Span} (hg : f.at? p = some (.call x as s)) :
    ¬f.BoundAt p x := by
  intro hbound
  obtain ⟨sites, recorded, hsites, hsurveyed⟩ := exists_surveyed h
  obtain ⟨o, ho⟩ := hsites.complete p x ⟨_, hg, rfl⟩
  have hsite : IsSite [] .formula f p o := hsites.isSite _ ho
  obtain rfl : x = o.identifier := OccursAt.unique ⟨_, hg, rfl⟩ hsite.occursAt
  have hmisapplied : o.Misapplied :=
    ⟨hsite.isBound_iff.mpr hbound, hsite.arity_isSome_iff.mpr ⟨as, s, hg⟩⟩
  exact hsurveyed.unapplied o (List.mem_map.mpr ⟨(p, o), ho, rfl⟩) hmisapplied

theorem arity_eq_of_no_error (h : ∀ e, f.analyze ≠ .error e)
    {previous role : Role} (hp : f.FreeAt p x) (hq : f.FreeAt q x)
    (hprevious : f.RoleAt p previous) (hrole : f.RoleAt q role) :
    previous.arity? = role.arity? := by
  by_contra hdiffer
  obtain ⟨sites, recorded, hsites, hsurveyed⟩ := exists_surveyed h
  obtain ⟨a, ha⟩ := hsites.complete p x hp.1
  obtain ⟨o, ho⟩ := hsites.complete q x hq.1
  have hasite : IsSite [] .formula f p a := hsites.isSite _ ha
  have hosite : IsSite [] .formula f q o := hsites.isSite _ ho
  obtain rfl := hosite.occursAt.unique hq.1
  have hconflicts : a.Conflicts o :=
    (hasite.conflicts_iff hosite).mpr
      ⟨hp, hq, previous, role, hprevious, hrole, hdiffer⟩
  exact hsurveyed.agree a (List.mem_map.mpr ⟨(p, a), ha, rfl⟩) o
    (List.mem_map.mpr ⟨(q, o), ho, rfl⟩) hconflicts

/-- An error is about an occurrence that breaks the rules behind earlier ones
that do not. -/
theorem exists_offender {e : AnalysisError} (h : f.analyze = .error e) :
    ∃ before p o after m recorded,
      Located [] .formula f (before ++ (p, o) :: after) ∧
      Surveyed (before.map Prod.snd) recorded ∧
      o.Offends (before.map Prod.snd) ∧
      misuse? recorded o = some m ∧ e = ⟨o.identifier, o.role, m, o.span⟩ := by
  have hspec := survey_spec (f.occurrences [] .formula) surveyed_nil
  rw [analyze_eq_error_iff.mp h] at hspec
  obtain ⟨passed, o, rest, m, recorded, hsplit, hsurveyed, hm, he⟩ := hspec
  obtain ⟨sites, hsites⟩ := exists_located f [] .formula
  have hmap := hsites.occurrences
  rw [hsplit] at hmap
  obtain ⟨before, p, after, rfl, rfl⟩ := exists_split hmap
  have hoffends : o.Offends (before.map Prod.snd) := by
    by_contra hnot
    rw [(misuse?_eq_none_iff hsurveyed).mpr hnot] at hm
    exact absurd hm (by simp)
  exact ⟨before, p, o, after, m, recorded, hsites, hsurveyed, hoffends, hm, he⟩

theorem Located.not_offendsAt {recorded : List (String × Role)}
    (h : Located [] .formula f (before ++ (p, o) :: after))
    (hsurveyed : Surveyed (before.map Prod.snd) recorded) (hlt : q < p) :
    ¬f.OffendsAt q x := by
  intro hoffends
  have hoccurs : f.OccursAt q x := by
    rcases hoffends with ⟨-, as, s, hg⟩ | ⟨hfree, -⟩
    · exact ⟨_, hg, rfl⟩
    · exact hfree.1
  obtain ⟨a, ha, rfl⟩ := h.exists_before hoccurs hlt
  obtain ⟨first, second, rfl⟩ := List.append_of_mem ha
  rw [List.append_assoc] at h
  rcases h.offendsAt_iff.mp hoffends with hmisapplied | ⟨b, hb, hconflict⟩
  · exact hsurveyed.unapplied a (by simp) hmisapplied
  · refine hsurveyed.agree b ?_ a (by simp) hconflict
    rw [List.map_append]
    exact List.mem_append_left _ hb

/-- The occurrence that settled the role of an identifier is at the first place
where it is unbound. -/
theorem Located.exists_first_free (h : Located [] .formula f sites)
    (hfind : (sites.map Prod.snd).find? (isFree x) = some a) :
    ∃ q, f.FreeAt q x ∧ (∀ r < q, ¬f.FreeAt r x) ∧ f.RoleAt q a.role := by
  obtain ⟨hfree, os, rest, hsplit, hnone⟩ :=
    List.find?_eq_some_iff_append.mp hfind
  obtain ⟨first, q, second, rfl, rfl⟩ := exists_split hsplit
  have ha : IsSite [] .formula f q a := h.isSite (q, a) (by simp)
  refine ⟨q, ha.freeAt_iff.mpr hfree, fun r hlt hr => ?_, ha.roleAt⟩
  obtain ⟨b, hb, -⟩ := h.exists_before hr.1 hlt
  have hbsite : IsSite [] .formula f r b :=
    h.isSite (r, b) (List.mem_append_left _ hb)
  have hbfree := hnone b (List.mem_map.mpr ⟨(r, b), hb, rfl⟩)
  rw [hbsite.freeAt_iff.mp hr] at hbfree
  exact Bool.noConfusion hbfree

theorem Located.exists_first
    (h : Located [] .formula f (before ++ (p, o) :: after))
    (hfind : (before.map Prod.snd).find? (isFree x) = some a) :
    ∃ q, f.FreeAt q x ∧ (∀ r < q, ¬f.FreeAt r x) ∧ f.RoleAt q a.role := by
  apply h.exists_first_free
  rw [List.map_append, List.find?_append, hfind, Option.some_or]

/-- A formula is rejected exactly if a bound variable is applied, or two unbound
occurrences of one identifier differ in whether and to how many arguments it is
applied. The error is about the first place that breaks a rule and says in which
role the identifier stands there, and in which role it first stood. -/
theorem analyze_rejects (f : Formula) :
    ((∃ e, f.analyze = .error e) ↔
      (∃ p x as s, f.at? p = some (.call x as s) ∧ f.BoundAt p x) ∨
        ∃ p q x previous role, f.FreeAt p x ∧ f.FreeAt q x ∧
          f.RoleAt p previous ∧ f.RoleAt q role ∧
          previous.arity? ≠ role.arity?) ∧
      ∀ e, f.analyze = .error e →
        ∃ p g x role, f.at? p = some g ∧ e.span = g.span ∧ f.RoleAt p role ∧
          f.OffendsAt p x ∧ (∀ q < p, ∀ y, ¬f.OffendsAt q y) ∧
          ((f.BoundAt p x ∧
              e.message =
                s!"Bound variable '{x}' cannot be used as a {role.name}") ∨
            ¬f.BoundAt p x ∧ ∃ q previous, f.FreeAt q x ∧
              (∀ r < q, ¬f.FreeAt r x) ∧ f.RoleAt q previous ∧
              e.message =
              s!"'{x}' is used as a {role.name} but was previously used as a {previous.name}") := by
  constructor
  · constructor
    · rintro ⟨e, he⟩
      obtain ⟨before, p, o, after, m, recorded, hlocated, -, hoffends, -⟩ :=
        exists_offender he
      rcases hlocated.offendsAt_iff.mpr hoffends with
        ⟨hbound, as, s, hg⟩ | ⟨hfree, q, -, hq, previous, role, hprevious,
          hrole, hdiffer⟩
      · exact .inl ⟨p, _, as, s, hg, hbound⟩
      · exact .inr ⟨q, p, _, previous, role, hq, hfree, hprevious,
          hrole, hdiffer⟩
    · intro hwrong
      by_contra hnone
      have hno : ∀ e, f.analyze ≠ .error e := fun e he => hnone ⟨e, he⟩
      rcases hwrong with
        ⟨p, x, as, s, hg, hbound⟩ | ⟨p, q, x, previous, role, hp, hq, hprevious,
          hrole, hdiffer⟩
      · exact not_boundAt_of_no_error hno hg hbound
      · exact hdiffer (arity_eq_of_no_error hno hp hq hprevious hrole)
  · intro e he
    obtain ⟨before, p, o, after, m, recorded, hlocated, hsurveyed,
      hoffends, hm, rfl⟩ :=
      exists_offender he
    have hsite : IsSite [] .formula f p o := hlocated.isSite (p, o) (by simp)
    obtain ⟨g, hg, hspan⟩ := hsite.span
    refine ⟨p, g, o.identifier, o.role, hg, hspan.symm, hsite.roleAt,
      hlocated.offendsAt_iff.mpr hoffends,
      fun q hlt y => hlocated.not_offendsAt hsurveyed hlt, ?_⟩
    rcases misuse?_eq_some hsurveyed hm with
      ⟨hbound, rfl⟩ | ⟨hfree, a, hfind, rfl⟩
    · exact .inl ⟨hsite.isBound_iff.mp hbound, rfl⟩
    · obtain ⟨q, hq, hfirst, hrole⟩ := hlocated.exists_first hfind
      refine .inr ⟨fun hbound => ?_, q, a.role, hq, hfirst, hrole, rfl⟩
      rw [hsite.isBound_iff.mpr hbound] at hfree
      exact Bool.noConfusion hfree

theorem analyze_rejects_applied_variable :
    let f : Formula :=
      .quantified .universal "x" (.call "x" [.symbol "y" noSpan] noSpan) noSpan
    ∃ e p x, f.analyze = .error e ∧ f.OffendsAt p x ∧
      ∀ q < p, ∀ y, ¬f.OffendsAt q y := by
  intro f
  have hbound : f.BoundAt [0] "x" :=
    ⟨[], [0], .universal, _, noSpan, rfl, by simp, rfl⟩
  obtain ⟨e, he⟩ :=
    (analyze_rejects f).1.mpr (.inl ⟨[0], "x", _, noSpan, rfl, hbound⟩)
  obtain ⟨p, g, x, role, -, -, -, hoffends, hfirst, -⟩ :=
    (analyze_rejects f).2 e he
  exact ⟨e, p, x, he, hoffends, hfirst⟩

end PredicateLogic.Formula
