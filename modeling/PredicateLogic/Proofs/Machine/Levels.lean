import PredicateLogic.Proofs.Grammar.Extent
import PredicateLogic.Proofs.Machine.Run

/-!
# The levels on a cursor

At each level, a run on the machine comes out as the reading at the place of the
cursor: it passes on the same formula, leaves the cursor at the place behind it
or, if there is none, where it stood before, and takes note of what the reading
lists. `Machine.Performs` says so of one run and `Machine.Simulates` of a level
at all places, where the depth of the machine and the nestings left to the
reader make up the bound.

Among the notes are the two that only the machine takes: the depth never exceeds
the bound, and the first place where the bound was met is the one the reading
remembers.
-/

namespace PredicateLogic

namespace Reading

variable {α β γ : Type}

/-- The place where reading goes on, for a reading at the place `p`. -/
def stop (r : Reading α) (p : Place) : Place :=
  r.outcome.elim p Prod.snd

@[simp] theorem success_followedBy (a : α) (p : Place) (r : Reading β) :
    (success a p).followedBy r = r := by
  simp [success, followedBy]

theorem followedBy_success {r : Reading α} {a : α} {p : Place}
    (h : r.outcome = some (a, p)) :
    r.followedBy (success a p) = r := by
  obtain ⟨outcome, failures, tooDeep⟩ := r
  obtain rfl : outcome = some (a, p) := h
  simp [success, followedBy]

theorem followedBy_assoc (first : Reading α) (second : Reading β)
    (third : Reading γ) :
    (first.followedBy second).followedBy third =
      first.followedBy (second.followedBy third) := by
  simp [followedBy, Option.or_assoc]

end Reading

namespace Reader

/-- The reading of a call of `x` whose arguments have been tried. Where they
cannot be read, the name is read alone. -/
def callWith (x : String) (p q : Place) (args : Reading (List Formula)) :
    Reading Formula :=
  match args.outcome with
  | none => args.followedBy (.success (.symbol x ⟨p.offset, q.offset⟩) q)
  | some (as, r) =>
    args.followedBy (bounded (.call x as ⟨p.offset, r.offset⟩) r)

theorem callWith_success (x : String) (p q r : Place) (as : List Formula) :
    callWith x p q (.success as r) =
      bounded (.call x as ⟨p.offset, r.offset⟩) r :=
  Reading.success_followedBy _ _ _

theorem callWith_followedBy {α : Type} (x : String) (p q : Place)
    (first : Reading α) (args : Reading (List Formula)) :
    callWith x p q (first.followedBy args) =
      first.followedBy (callWith x p q args) := by
  rw [callWith, callWith, Reading.followedBy_outcome]
  split <;> rw [Reading.followedBy_assoc]

/-- Behind its first operand, a chain goes on or is at its end. -/
theorem chained_of_outcome {spellings : List Spelling} {read : Reader Formula}
    {p q : Place} {a : Formula} (h : (read p).outcome = some (a, q)) :
    chained spellings read p = (read p).followedBy
      (match (Spelling.firstStarting? spellings q.skipBlanks.rest).bind
          Connective.ofSpelling? with
        | none => .success a q
        | some op => chain op read p.offset q.rest.length a q) := by
  rw [chained, h]
  simp only
  cases (Spelling.firstStarting? spellings q.skipBlanks.rest).bind
    Connective.ofSpelling? with
  | none => exact (Reading.followedBy_success h).symm
  | some op => rfl

/-- What is read at a place that is not before a sign. -/
def enclosed (inner : Option (Reader Formula)) : Reader Formula := fun p =>
  if p.startsWith '(' then group inner p else call inner p

/-- What is read at a place that is not before a negation. -/
def quantifiedOrEnclosed (inner : Option (Reader Formula)) : Reader Formula :=
  fun p =>
  match (Spelling.firstStarting? Quantifier.spellings p.rest).bind fun s =>
      (Quantifier.ofSpelling? s).map fun quantifier =>
        (quantifier, s.length) with
  | some (quantifier, length) => quantified inner quantifier length p
  | none => enclosed inner p

end Reader

namespace Machine

variable {α β : Type} {m m' m'' : Machine} {p q start : Place} {r : Reading α}
  {r' : Reading β}

/-- What a run that comes out as a reading leaves behind in the machine, besides
the position of the cursor. -/
structure Notes (m : Machine) (r : Reading α) (m' : Machine) : Prop where
  source : m'.cursor.source = m.cursor.source
  error : m'.cursor.error =
    (r.failures.head?.map fun f => f.complaint.message).or m.cursor.error
  errorPosition : m'.cursor.errorPosition =
    (r.failures.head?.map Failure.position).getD m.cursor.errorPosition
  depth : m'.depth = m.depth
  tooDeep : m'.tooDeep = m.tooDeep.or r.tooDeep
  deepest : m'.deepest ≤ max m.deepest maxNesting
  refusals : ∃ refused,
    m'.refusals = m.refusals ++ refused ∧ refused.head? = r.tooDeep

theorem notes_success (m : Machine) (a : α) (p : Place) :
    m.Notes (.success a p) m :=
  ⟨rfl, rfl, rfl, rfl, by simp, Nat.le_max_left _ _, [], by simp⟩

theorem notes_failure (m : Machine) (complaint : Complaint) (p : Place) :
    m.Notes (.failure complaint p : Reading α)
      (m.noting ⟨complaint, p.offset⟩) :=
  ⟨rfl, rfl, rfl, rfl, by simp [noting], Nat.le_max_left _ _, [],
    by simp [noting]⟩

theorem notes_refusal (m : Machine) (offset : Nat) :
    m.Notes (.refusal offset : Reading α) (m.refusing offset) :=
  ⟨rfl, rfl, rfl, rfl, rfl, Nat.le_max_left _ _, [offset], rfl, rfl⟩

theorem Notes.trans (h : m.Notes r m') (h' : m'.Notes r' m'') :
    m.Notes (r.followedBy r') m'' := by
  obtain ⟨refused, hrefused, hfirst⟩ := h.refusals
  obtain ⟨refused', hrefused', hfirst'⟩ := h'.refusals
  refine ⟨h'.source.trans h.source, ?_, ?_, h'.depth.trans h.depth, ?_, ?_,
    refused ++ refused', ?_, ?_⟩
  · rw [h'.error, h.error, Reading.followedBy, List.head?_append, Option.map_or,
      Option.or_assoc]
  · rw [h'.errorPosition, h.errorPosition, Reading.followedBy,
      List.head?_append, Option.map_or, Option.getD_or]
  · rw [h'.tooDeep, h.tooDeep, Reading.followedBy_tooDeep, Option.or_assoc]
  · have hdeepest := h.deepest
    have hdeepest' := h'.deepest
    omega
  · rw [hrefused', hrefused, List.append_assoc]
  · rw [List.head?_append, hfirst, hfirst', Reading.followedBy_tooDeep]

/-- What is noted one nesting further in stays noted when the nesting is
left. -/
theorem Notes.left (h : m.entered.Notes r m') (hm : m.depth < maxNesting) :
    m.Notes r m'.left := by
  have hdepth : m'.depth = m.depth + 1 := h.depth
  have hdeepest : m'.deepest ≤ max (max m.deepest (m.depth + 1)) maxNesting :=
    h.deepest
  refine ⟨h.source, h.error, h.errorPosition, ?_, h.tooDeep, ?_, h.refusals⟩
  · rw [Machine.left, hdepth, Nat.add_sub_cancel]
  · rw [left_deepest]
    omega

/-- A run passed on what the reading says, and the cursor stands behind it or,
if there is nothing, at the place where reading started. -/
def Performs (result : Option (Option α × Machine)) (m : Machine)
    (r : Reading α) (start : Place) : Prop :=
  ∃ m', result = some (r.outcome.map Prod.fst, m'.movedTo (r.stop start)) ∧
    m.Notes r m'

theorem performs_success (a : α) :
    Performs (some (some a, m.movedTo q)) m (.success a q) start :=
  ⟨m, rfl, m.notes_success a q⟩

theorem performs_failure (complaint : Complaint) :
    Performs
      (some ((none : Option α), (m.noting ⟨complaint, p.offset⟩).movedTo start))
      m (.failure complaint p) start :=
  ⟨_, rfl, m.notes_failure complaint p⟩

theorem performs_refusal (offset : Nat) :
    Performs (some ((none : Option α), (m.refusing offset).movedTo start)) m
      (.refusal offset) start :=
  ⟨_, rfl, m.notes_refusal offset⟩

/-- What has been noted before counts as well. -/
theorem Performs.after {result : Option (Option β × Machine)}
    (h : Performs result m' r' start) (hm : m.Notes r m') :
    Performs result m (r.followedBy r') start := by
  obtain ⟨m'', hresult, hm'⟩ := h
  exact ⟨m'', hresult, hm.trans hm'⟩

section Bind

variable {run : Run (Option α)} {next : Option α → Run (Option β)}
  (h : Performs (run (m.movedTo p)) m r q)
include h

/-- A run is followed by another one, which is given what the first one passed
on. -/
theorem Performs.bind
    (hnext : ∀ m', m'.cursor.source = m.cursor.source → m'.depth = m.depth →
      Performs (next (r.outcome.map Prod.fst) (m'.movedTo (r.stop q))) m' r'
        start) :
    Performs ((run >>= next) (m.movedTo p)) m (r.followedBy r') start := by
  obtain ⟨m', hrun, hm'⟩ := h
  rw [run_bind hrun]
  exact (hnext m' hm'.source hm'.depth).after hm'

theorem Performs.bind_none (hr : r.outcome = none)
    (hnext : ∀ m', m'.cursor.source = m.cursor.source → m'.depth = m.depth →
      Performs (next none (m'.movedTo q)) m' r' start) :
    Performs ((run >>= next) (m.movedTo p)) m (r.followedBy r') start := by
  refine h.bind ?_
  rwa [Reading.stop, hr]

theorem Performs.bind_some {a : α} {s : Place} (hr : r.outcome = some (a, s))
    (hnext : ∀ m', m'.cursor.source = m.cursor.source → m'.depth = m.depth →
      Performs (next (some a) (m'.movedTo s)) m' r' start) :
    Performs ((run >>= next) (m.movedTo p)) m (r.followedBy r') start := by
  refine h.bind ?_
  rwa [Reading.stop, hr]

end Bind

/-- With `n` nestings left, runs at any place come out as readings there. -/
def Simulates (run : Run (Option α)) (n : Nat) (read : Reader α) : Prop :=
  ∀ m p, p.In m.cursor.source → m.depth + n = maxNesting →
    Performs (run (m.movedTo p)) m (read p) p

/-- With `n` nestings left, runs one nesting further in come out as readings of
the given reader, which exists unless no nesting is left. -/
def SimulatesBelow (run : Run (Option Formula)) (n : Nat) :
    Option (Reader Formula) → Prop
  | none => n = 0
  | some read => ∃ k, n = k + 1 ∧ Simulates run k read

variable {n : Nat} {inner : Option (Reader Formula)} {read : Reader Formula}

/-!
# Names and bounds
-/

theorem identifier_apply (hp : p.In m.cursor.source) :
    (∃ x q, Reader.identifier p = .success x q ∧
        identifier (m.movedTo p) = some (some x, m.movedTo q)) ∨
      Reader.identifier p = .failure .identifier p ∧
        identifier (m.movedTo p) =
          some (none, (m.noting ⟨.identifier, p.offset⟩).movedTo p) := by
  rw [identifier, peek_bind hp, Reader.identifier, Place.peek]
  cases hrest : p.rest with
  | nil => exact .inr ⟨rfl, rfl⟩
  | cons c cs =>
    simp only [List.take_succ_cons, List.take_zero]
    by_cases hc : isIdentifierStart c = true
    · have hhead : p.Leads [c] (p.advance 1) := Place.leads_advance hrest
      have htail := (p.advance 1).leads_skipWhile isIdentifierContinue
      rw [Place.advance_rest, hrest, List.drop_succ_cons,
        List.drop_zero] at htail
      have hname : p.Leads (c :: cs.takeWhile isIdentifierContinue)
          (p.advance (c :: cs.takeWhile isIdentifierContinue).length) :=
        Place.leads_advance (by
          rw [hrest, List.cons_append, List.takeWhile_append_dropWhile])
      have hlength := Nat.lt_succ_of_le (hp.advance 1).length_le
      refine .inl ⟨_, _, if_pos hc, ?_⟩
      rw [if_pos hc, position_bind, advance_bind hp, rounds_bind,
        run_bind (skipIdentifier_apply (hp.advance 1) hlength),
        (hhead.trans htail).unique hname,
        run_bind (textFrom_apply hp hname), pure_apply]
    · refine .inr ⟨if_neg hc, ?_⟩
      rw [if_neg hc, fail_bind, pure_apply]

theorem build_of_le {f : Formula} (h : f.height ≤ maxNesting) (offset : Nat)
    (m : Machine) :
    build offset f m = some (some f, m) := by
  rw [build, if_pos h, pure_apply]

theorem build_of_lt {f : Formula} (h : ¬f.height ≤ maxNesting) :
    build p.offset f (m.movedTo q) =
      some (none, (m.refusing f.span.start).movedTo p) := by
  rw [build, if_neg h]
  rfl

theorem build_performs (f : Formula) :
    Performs (build p.offset f (m.movedTo q)) m (Reader.bounded f q) p := by
  rw [Reader.bounded]
  split
  · next h =>
    rw [build_of_le h]
    exact performs_success f
  · next h =>
    rw [build_of_lt h]
    exact performs_refusal _

/-!
# Nestings
-/

theorem nested_simulates {level : Run (Option Formula)}
    (h : SimulatesBelow level n inner) :
    Simulates (nested level) n (Reader.nested inner) := by
  intro m p hp hm
  rw [nested]
  cases inner with
  | none =>
    obtain rfl : n = 0 := h
    rw [enter_bind_of_le (by omega)]
    exact performs_refusal p.offset
  | some read =>
    obtain ⟨k, rfl, hread⟩ := h
    obtain ⟨m', hrun, hm'⟩ :=
      hread m.entered p hp (by rw [entered_depth]; omega)
    have hdepth : m'.depth ≠ 0 := by
      rw [hm'.depth, entered_depth]
      exact Nat.succ_ne_zero _
    rw [enter_bind_of_lt (by omega), if_pos rfl, run_bind hrun,
      leave_bind hdepth]
    exact ⟨m'.left, rfl, hm'.left (by omega)⟩

/-!
# Chains
-/

/-- A spelling of a connective is not longer than what is looked at in its
family. -/
theorem length_le_width {family : Family} {s : Spelling} {op : Connective}
    (hs : s ∈ family.spellings) (hop : Connective.ofSpelling? s = some op) :
    ∀ t ∈ op.spellings, t.length ≤ family.width := by
  have hall : ∀ family : Family, (family.spellings.all fun s =>
      (Connective.ofSpelling? s).all fun op =>
        op.spellings.all fun t => decide (t.length ≤ family.width)) = true := by
    intro family
    cases family <;> decide
  have hfamily := List.all_eq_true.mp (hall family) s hs
  rw [hop] at hfamily
  simpa using hfamily

theorem length_le_width_family (family : Family) :
    ∀ s ∈ family.spellings, s.length ≤ family.width := by
  cases family <;> decide

/-- A chain ends where no spelling of its connective follows. -/
theorem chain_of_none {family : Family} {operand : Run (Option Formula)}
    {op : Connective} {left : Formula} {offset fuel : Nat}
    (hfuel : p.rest.length < fuel)
    (hop : ∀ s ∈ op.spellings, s.length ≤ family.width)
    (hp : p.In m.cursor.source)
    (h : Spelling.firstStarting? op.spellings p.skipBlanks.rest = none) :
    chain family operand op offset fuel left (m.movedTo p) =
      some (some left, m.movedTo p) := by
  obtain ⟨fuel, rfl⟩ :=
    Nat.exists_eq_add_one_of_ne_zero (Nat.ne_zero_of_lt hfuel)
  rw [chain, position_bind, skipBlanks_bind hp, peek_bind hp.skipBlanks,
    Place.peek, Spelling.firstStarting?_take hop, h]
  rfl

/-- The reader may go on as long as the text is, and the machine for a number of
rounds that the text has no room for. Each further operand shortens the text. -/
theorem chain_performs {family : Family} {operand : Run (Option Formula)}
    {op : Connective} (hop : ∀ s ∈ op.spellings, s.length ≤ family.width)
    (hread : Simulates operand n read) (hextends : Reader.Extends read) :
    ∀ {fuel rounds : Nat} {left : Formula} {m : Machine} {p : Place},
      p.rest.length ≤ fuel → p.rest.length < rounds →
      p.In m.cursor.source → m.depth + n = maxNesting →
      Performs
        (chain family operand op start.offset rounds left (m.movedTo p)) m
        (Reader.chain op read start.offset fuel left p) start := by
  intro fuel
  induction fuel with
  | zero =>
    intro rounds left m p hfuel hrounds hp hm
    have hnone :
        Spelling.firstStarting? op.spellings p.skipBlanks.rest = none := by
      have hrest := List.length_eq_zero_iff.mp (Nat.le_zero.mp hfuel)
      rw [Place.skipBlanks_rest, hrest]
      cases op <;> rfl
    rw [chain_of_none hrounds hop hp hnone]
    exact performs_success left
  | succ fuel ih =>
    intro rounds left m p hfuel hrounds hp hm
    cases hs : Spelling.firstStarting? op.spellings p.skipBlanks.rest with
    | none =>
      rw [chain_of_none hrounds hop hp hs, Reader.chain, hs]
      exact performs_success left
    | some s =>
      obtain ⟨rounds, rfl⟩ :=
        Nat.exists_eq_add_one_of_ne_zero (Nat.ne_zero_of_lt hrounds)
      rw [chain, position_bind, skipBlanks_bind hp, peek_bind hp.skipBlanks,
        Place.peek, Spelling.firstStarting?_take hop, Reader.chain, hs]
      simp only [advance_bind hp.skipBlanks,
        skipBlanks_bind (hp.skipBlanks.advance _)]
      have hq : (p.skipBlanks.advance s.length).skipBlanks.In m.cursor.source :=
        (hp.skipBlanks.advance _).skipBlanks
      have hright := hread m _ hq hm
      cases hb : (read (p.skipBlanks.advance s.length).skipBlanks).outcome with
      | none =>
        simp only [Reading.followedBy_assoc]
        refine hright.bind_none hb fun m' _ _ => ?_
        simp only [fail_bind, seek_bind]
        exact (performs_success left).after (m'.notes_failure _ _)
      | some br =>
        obtain ⟨b, r⟩ := br
        have hr := hq.passes (hextends.passes hb)
        have hlength := Reader.operand_shortens hextends hs hb
        simp only
        split
        · next hjoined =>
          refine hright.bind_some hb fun m' hsource hdepth => ?_
          simp only [position_bind]
          rw [run_bind (build_of_le hjoined _ _)]
          exact ih (by omega) (by omega) (hsource ▸ hr) (hdepth ▸ hm)
        · next hjoined =>
          refine hright.bind_some hb fun m' _ _ => ?_
          simp only [position_bind]
          rw [run_bind (build_of_lt hjoined)]
          exact performs_refusal _

theorem chained_simulates (family : Family) {operand : Run (Option Formula)}
    (hread : Simulates operand n read) (hextends : Reader.Extends read) :
    Simulates (chained family operand) n
      (Reader.chained family.spellings read) := by
  intro m p hp hm
  rw [chained, position_bind]
  have hfirst := hread m p hp hm
  cases ha : (read p).outcome with
  | none =>
    obtain ⟨m', hrun, hm'⟩ := hfirst
    rw [ha] at hrun
    rw [run_bind hrun, Reader.chained, ha]
    exact ⟨m', by simp [ha], hm'⟩
  | some aq =>
    obtain ⟨a, q⟩ := aq
    have hq : q.In m.cursor.source := hp.passes (hextends.passes ha)
    rw [Reader.chained_of_outcome ha]
    refine hfirst.bind_some ha fun m' hsource hdepth => ?_
    have hq' : q.In m'.cursor.source := hsource ▸ hq
    simp only [position_bind, skipBlanks_bind hq', peek_bind hq'.skipBlanks,
      Place.peek, Spelling.firstStarting?_take (length_le_width_family family),
      seek_bind]
    cases hop :
      (Spelling.firstStarting? family.spellings q.skipBlanks.rest).bind
        Connective.ofSpelling? with
    | none => exact performs_success a
    | some op =>
      obtain ⟨s, hs, hsop⟩ := Option.bind_eq_some_iff.mp hop
      have hwidth := length_le_width (Spelling.firstStarting?_eq_some hs).1 hsop
      exact chain_performs hwidth hread hextends (Nat.le_refl _)
        (Nat.lt_succ_of_le hq'.length_le) hq' (hdepth ▸ hm)

/-!
# Formulas
-/

variable {deeper : Run (Option Formula)}
  (hinner : SimulatesBelow deeper n inner)
  (hextends : Reader.ExtendsBelow inner)
include hinner hextends

theorem formula_simulates :
    Simulates (formula deeper) n (Reader.formula inner) := by
  have hchains :
      SimulatesBelow (chained .implication (chained .junction deeper)) n
        (inner.map Reader.implication) := by
    cases inner with
    | none => exact hinner
    | some read =>
      obtain ⟨k, hk, hread⟩ := hinner
      have hoperand := hextends read rfl
      exact ⟨k, hk, chained_simulates .implication
        (chained_simulates .junction hread hoperand)
        (Reader.chained_extends _ hoperand)⟩
  intro m p hp hm
  have hbody := nested_simulates hchains m p hp hm
  rw [formula, Reader.formula]
  cases hf : (Reader.nested (inner.map Reader.implication) p).outcome with
  | none =>
    simp only
    refine hbody.bind_none hf fun m' _ _ => ?_
    simp only [fail_bind]
    exact performs_failure _
  | some fq =>
    obtain ⟨f, q⟩ := fq
    simp only
    rw [← Reading.followedBy_success hf]
    exact hbody.bind_some hf fun m' _ _ => performs_success f

/-!
# Calls
-/

omit hinner hextends in
theorem closeCall_performs {x : String} {reversed : List Formula}
    (hp : p.In m.cursor.source) :
    Performs (closeCall start.offset q.offset x reversed (m.movedTo p)) m
      (Reader.callWith x start q (Reader.closeArguments reversed p)) start := by
  rw [closeCall, peek_bind hp, Reader.closeArguments]
  simp only [Place.peek_one_eq_iff]
  split
  · next hclosing =>
    rw [advance_bind hp, position_bind, Reader.callWith_success]
    exact build_performs _
  · next hclosing =>
    rw [fail_bind, seek_bind]
    exact (performs_success _).after (m.notes_failure _ _)

/-- The bounds on the loop are those of `chain_performs`. -/
theorem arguments_performs {x : String} :
    ∀ {fuel rounds : Nat} {reversed : List Formula} {m : Machine} {p : Place},
      p.rest.length ≤ fuel → p.rest.length < rounds → p.In m.cursor.source →
      m.depth + n = maxNesting →
      Performs (arguments deeper start.offset q.offset x rounds reversed
        (m.movedTo p)) m
        (Reader.callWith x start q
          (Reader.furtherArguments inner fuel reversed p)) start := by
  intro fuel
  induction fuel with
  | zero =>
    intro rounds reversed m p hfuel hrounds hp hm
    obtain ⟨rounds, rfl⟩ :=
      Nat.exists_eq_add_one_of_ne_zero (Nat.ne_zero_of_lt hrounds)
    have hend : ¬p.startsWith ',' = true := by
      rw [Place.startsWith_iff,
        List.length_eq_zero_iff.mp (Nat.le_zero.mp hfuel)]
      simp
    rw [arguments, peek_bind hp]
    simp only [Place.peek_one_eq_iff, if_neg hend, Reader.furtherArguments]
    exact closeCall_performs hp
  | succ fuel ih =>
    intro rounds reversed m p hfuel hrounds hp hm
    obtain ⟨rounds, rfl⟩ :=
      Nat.exists_eq_add_one_of_ne_zero (Nat.ne_zero_of_lt hrounds)
    rw [arguments, peek_bind hp, Reader.furtherArguments]
    simp only [Place.peek_one_eq_iff]
    split
    · next hcomma =>
      rw [advance_bind hp, skipBlanks_bind (hp.advance 1)]
      have hnext :=
        formula_simulates hinner hextends m _ (hp.advance 1).skipBlanks hm
      cases ha : (Reader.formula inner (p.advance 1).skipBlanks).outcome with
      | none =>
        simp only [Reader.callWith_followedBy]
        refine hnext.bind_none ha fun m' _ _ => ?_
        simp only [fail_bind, seek_bind]
        exact (performs_success _).after (m'.notes_failure _ _)
      | some ar =>
        obtain ⟨a, r⟩ := ar
        have hbetween := (Reader.formula_extends hextends).passes ha
        have hlength := Reader.argument_shortens hextends hcomma ha
        simp only [Reader.callWith_followedBy]
        refine hnext.bind_some ha fun m' hsource hdepth => ?_
        have hr : r.In m'.cursor.source :=
          hsource ▸ (hp.advance 1).skipBlanks.passes hbetween
        simp only [skipBlanks_bind hr]
        exact ih (by omega) (by omega) hr.skipBlanks (hdepth ▸ hm)
    · exact closeCall_performs hp

theorem call_simulates : Simulates (call deeper) n (Reader.call inner) := by
  intro m p hp hm
  rw [call, position_bind, Reader.call]
  rcases identifier_apply hp with ⟨x, q, hname, hrun⟩ | ⟨hname, hrun⟩
  · have hq : q.In m.cursor.source :=
      hp.passes (Reader.identifier_covers
        (hname ▸ Reading.success_outcome x q)).reaches.passes
    rw [run_bind hrun, hname]
    simp only [Reading.success_outcome, position_bind, skipBlanks_bind hq,
      peek_bind hq.skipBlanks, Place.peek_one_eq_iff]
    split
    · next hopening =>
      have hs : (q.skipBlanks.advance 1).skipBlanks.In m.cursor.source :=
        (hq.skipBlanks.advance 1).skipBlanks
      rw [advance_bind hq.skipBlanks, skipBlanks_bind (hq.skipBlanks.advance 1)]
      have hfirst := formula_simulates hinner hextends m _ hs hm
      -- The reader tries the arguments first and looks at what came of them
      -- afterwards.
      change Performs _ m (Reader.callWith x p q
        (Reader.arguments inner (q.skipBlanks.advance 1).skipBlanks)) p
      rw [Reader.arguments]
      cases ha :
        (Reader.formula inner (q.skipBlanks.advance 1).skipBlanks).outcome with
      | none =>
        simp only [Reader.callWith_followedBy]
        refine hfirst.bind_none ha fun m' hsource _ => ?_
        exact closeCall_performs (hsource ▸ hs)
      | some ar =>
        obtain ⟨a, r⟩ := ar
        have hbetween := (Reader.formula_extends hextends).passes ha
        simp only [Reader.callWith_followedBy]
        refine hfirst.bind_some ha fun m' hsource hdepth => ?_
        have hr : r.In m'.cursor.source := hsource ▸ hs.passes hbetween
        simp only [skipBlanks_bind hr, rounds_bind]
        exact arguments_performs hinner hextends
          (Place.passes_skipBlanks r).length_le
          (Nat.lt_succ_of_le hr.skipBlanks.length_le) hr.skipBlanks
          (hdepth ▸ hm)
    · rw [seek_bind]
      exact performs_success _
  · rw [run_bind hrun, hname]
    simp only [Reading.failure_outcome, fail_bind]
    exact (performs_failure _).after (m.notes_failure _ _)

/-!
# Operands
-/

theorem group_simulates :
    Simulates (group deeper) n (Reader.enclosed inner) := by
  intro m p hp hm
  rw [group, peek_bind hp, Reader.enclosed]
  simp only [Place.peek_one_eq_iff]
  split
  · next hopening =>
    have hq : (p.advance 1).skipBlanks.In m.cursor.source :=
      (hp.advance 1).skipBlanks
    have hbody := formula_simulates hinner hextends m _ hq hm
    have hcall : ∀ {m' : Machine}, m'.cursor.source = m.cursor.source →
        m'.depth = m.depth →
        Performs (call deeper (m'.movedTo p)) m' (Reader.call inner p) p :=
      fun hsource hdepth =>
        call_simulates hinner hextends _ p (hsource ▸ hp) (hdepth ▸ hm)
    rw [position_bind, advance_bind hp, skipBlanks_bind (hp.advance 1),
      Reader.group]
    cases hf : (Reader.formula inner (p.advance 1).skipBlanks).outcome with
    | none =>
      simp only [Reading.followedBy_assoc]
      refine hbody.bind_none hf fun m' hsource hdepth => ?_
      simp only [fail_bind, seek_bind]
      refine Performs.after ?_ (m'.notes_failure _ _)
      exact hcall hsource hdepth
    | some fr =>
      obtain ⟨f, r⟩ := fr
      have hr := hq.passes ((Reader.formula_extends hextends).passes hf)
      simp only [Reading.followedBy_assoc]
      split
      · next hclosing =>
        refine hbody.bind_some hf fun m' hsource hdepth => ?_
        have hr' : r.In m'.cursor.source := hsource ▸ hr
        simp only [skipBlanks_bind hr', peek_bind hr'.skipBlanks,
          Place.peek_one_eq_iff, if_pos hclosing, advance_bind hr'.skipBlanks]
        exact performs_success f
      · next hclosing =>
        refine hbody.bind_some hf fun m' hsource hdepth => ?_
        have hr' : r.In m'.cursor.source := hsource ▸ hr
        simp only [skipBlanks_bind hr', peek_bind hr'.skipBlanks,
          Place.peek_one_eq_iff, if_neg hclosing, fail_bind, seek_bind]
        refine Performs.after ?_ (m'.notes_failure _ _)
        exact hcall hsource hdepth
  · exact call_simulates hinner hextends m p hp hm

theorem quantified_simulates :
    Simulates (quantified deeper) n (Reader.quantifiedOrEnclosed inner) := by
  intro m p hp hm
  rw [quantified, peek_bind hp, Place.peek,
    Spelling.firstStarting?_take (by decide), Reader.quantifiedOrEnclosed]
  cases (Spelling.firstStarting? Quantifier.spellings p.rest).bind fun s =>
      (Quantifier.ofSpelling? s).map fun quantifier =>
        (quantifier, s.length) with
  | none => exact group_simulates hinner hextends m p hp hm
  | some sign =>
    obtain ⟨quantifier, length⟩ := sign
    have hq : (p.advance length).skipBlanks.In m.cursor.source :=
      (hp.advance length).skipBlanks
    simp only [position_bind, advance_bind hp,
      skipBlanks_bind (hp.advance length), Reader.quantified]
    rcases identifier_apply hq with ⟨x, r, hname, hrun⟩ | ⟨hname, hrun⟩
    · have hr : r.In m.cursor.source :=
        hq.passes (Reader.identifier_covers
          (hname ▸ Reading.success_outcome x r)).reaches.passes
      have hbody := nested_simulates hinner m r.skipBlanks hr.skipBlanks hm
      simp only [run_bind hrun, skipBlanks_bind hr, hname,
        Reading.success_outcome]
      cases ha : (Reader.nested inner r.skipBlanks).outcome with
      | none =>
        refine hbody.bind_none ha fun m' _ _ => ?_
        simp only [fail_bind, seek_bind]
        exact performs_failure _
      | some as =>
        obtain ⟨a, s⟩ := as
        refine hbody.bind_some ha fun m' _ _ => ?_
        simp only [position_bind]
        exact build_performs _
    · simp only [run_bind hrun, hname, Reading.failure_outcome,
        fail_bind, seek_bind]
      exact (performs_failure _).after (m.notes_failure _ _)

theorem operandWith_simulates :
    Simulates (operandWith deeper) n (Reader.operandWith inner) := by
  intro m p hp hm
  rw [operandWith, peek_bind hp, Place.peek,
    Spelling.firstStarting?_take (by decide), Reader.operandWith]
  cases Spelling.firstStarting? negationSpellings p.rest with
  | none => exact quantified_simulates hinner hextends m p hp hm
  | some s =>
    have hq : (p.advance 1).skipBlanks.In m.cursor.source :=
      (hp.advance 1).skipBlanks
    have hbody := nested_simulates hinner m _ hq hm
    simp only [position_bind, advance_bind hp, skipBlanks_bind (hp.advance 1),
      Option.isSome_some, if_true, Reader.negation]
    cases ha : (Reader.nested inner (p.advance 1).skipBlanks).outcome with
    | none =>
      refine hbody.bind_none ha fun m' _ _ => ?_
      simp only [fail_bind, seek_bind]
      exact performs_failure _
    | some ar =>
      obtain ⟨a, r⟩ := ar
      refine hbody.bind_some ha fun m' _ _ => ?_
      simp only [position_bind]
      exact build_performs _

omit hinner hextends in
/-- A stack with room for the nestings left is large enough. -/
theorem operand_simulatesBelow {n stack : Nat} (h : n ≤ stack) :
    SimulatesBelow (operand stack) n (Reader.operandBelow n) := by
  induction n generalizing stack with
  | zero => rfl
  | succ n ih =>
    obtain ⟨stack, rfl⟩ :=
      Nat.exists_eq_add_one_of_ne_zero (Nat.ne_zero_of_lt h)
    refine ⟨n, rfl, ?_⟩
    rw [Reader.operand_eq, operand]
    exact operandWith_simulates (ih (Nat.le_of_succ_le_succ h))
      (Reader.operandBelow_extends n)

end Machine

end PredicateLogic
