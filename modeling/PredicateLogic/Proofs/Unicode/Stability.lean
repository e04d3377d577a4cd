import PredicateLogic.Proofs.Unicode.Decomposition
import PredicateLogic.Proofs.Unicode.Order

/-!
# Normalized texts

Composing a text changes neither the canonical order of its decomposition nor,
in particular, the length of it. The first makes a normalized text normalize to
itself. The second says which part of the result comes from which part of the
text, and so makes the parts of a normalized text normalized as well, where the
cuts are before starters or behind a closing parenthesis.
-/

namespace PredicateLogic.Unicode

theorem decompose_of_mem_canonicalOrder {cs : List Char} :
    ∀ c ∈ canonicalOrder (cs.flatMap decompose), decompose c = [c] := by
  intro c hc
  obtain ⟨d, -, hd⟩ :=
    List.mem_flatMap.mp ((canonicalOrder_perm _).mem_iff.mp hc)
  exact decompose_of_mem_decompose c hd

theorem flatMap_decompose {cs : List Char} (h : ∀ c ∈ cs, decompose c = [c]) :
    cs.flatMap decompose = cs :=
  (List.flatMap_congr h).trans (List.flatMap_singleton' cs)

/-!
# Composing one character
-/

namespace Composing

theorem step_cases {s : Composing} (hs : s.Ready) (c : Char) :
    (combiningClass c ≠ 0 ∧ s.starter = none ∧ s.held = [] ∧
      step s c = ⟨c :: s.done, none, []⟩) ∨
      (combiningClass c = 0 ∧
        step s c = ⟨s.held ++ s.starter.toList ++ s.done, some c, []⟩) ∨
      (combiningClass c ≠ 0 ∧ s.starter ≠ none ∧
        step s c = ⟨s.done, s.starter, c :: s.held⟩) ∨
      ∃ k r, s.starter = some k ∧ blocks s.held c = false ∧
        compose? k c = some r ∧
        step s c = ⟨s.done, some r, s.held⟩ := by
  rcases s with ⟨done, _ | k, held⟩
  · obtain rfl : held = [] := hs rfl
    by_cases hc : combiningClass c = 0
    · exact .inr (.inl ⟨hc, by simp [step, hc]⟩)
    · exact .inl ⟨hc, rfl, rfl, by simp [step, hc]⟩
  · rw [step_some]
    cases htaken : if blocks held c then none else compose? k c with
    | none =>
        by_cases hc : combiningClass c = 0
        · exact .inr (.inl ⟨hc, by simp [hc]⟩)
        · exact .inr (.inr (.inl ⟨hc, by simp, by simp [hc]⟩))
    | some r =>
        have hblocks : blocks held c = false := by
          rw [← Bool.not_eq_true]
          intro hblocks
          simp [hblocks] at htaken
        rw [hblocks] at htaken
        exact .inr (.inr (.inr ⟨k, r, rfl, hblocks,
          by simpa using htaken, rfl⟩))

/-- A character that is not taken up is put behind the text. -/
theorem finish_step {s : Composing} (hs : s.Ready) (c : Char) :
    (step s c).finish = s.finish ++ [c] ∨
      ∃ k r, s.starter = some k ∧ blocks s.held c = false ∧
        compose? k c = some r ∧
        step s c = ⟨s.done, some r, s.held⟩ := by
  rcases step_cases hs c with
    ⟨-, hnone, hheld, heq⟩ | ⟨-, heq⟩ | ⟨-, -, heq⟩ | htaken
  · exact .inl (by simp [heq, finish, hnone, hheld])
  · exact .inl (by simp [heq, finish])
  · exact .inl (by simp [heq, finish])
  · exact .inr htaken

/-- What is known of a text that is being composed from a decomposed and ordered
one, of which `rest` has not been read. -/
structure Regular (s : Composing) (rest : List Char) : Prop where
  ready : s.Ready
  starter : ∀ k ∈ s.starter, BeginsWithStarter [k]
  done : ∀ c ∈ s.done, combiningClass c = 0 → BeginsWithStarter [c]
  held : ∀ d ∈ s.held, decompose d = [d] ∧ combiningClass d ≠ 0
  /-- The mark held last has the greatest class. -/
  latest : ∀ d ∈ s.held, ∀ e ∈ s.held.head?, combiningClass d ≤ combiningClass e
  /-- The next mark has no smaller class. -/
  next : ∀ d ∈ s.held, ∀ c ∈ rest.head?, combiningClass c = 0 ∨
    combiningClass d ≤ combiningClass c

variable {s : Composing} {c : Char} {rest : List Char}

/-- A character that may be taken up has a greater class than the marks that are
held. -/
theorem Regular.lt_of_not_blocks (hs : s.Regular rest)
    (hblocks : blocks s.held c = false) :
    ∀ d ∈ s.held, combiningClass d < combiningClass c := by
  intro d hd
  obtain ⟨e, held, heq⟩ := List.exists_cons_of_ne_nil (List.ne_nil_of_mem hd)
  have hlast := hs.latest d hd e (by rw [heq]; rfl)
  rw [heq, blocks, decide_eq_false_iff_not] at hblocks
  omega

theorem beginsWithStarter_singleton (hc : decompose c = [c])
    (hclass : combiningClass c = 0) :
    BeginsWithStarter [c] := by
  simpa [BeginsWithStarter, hc] using hclass

theorem beginsWithStarter_compose {k r : Char} (hk : BeginsWithStarter [k])
    (h : compose? k c = some r) : BeginsWithStarter [r] := by
  rw [BeginsWithStarter, List.flatMap_singleton] at hk ⊢
  obtain ⟨d, ds, hd⟩ := List.exists_cons_of_ne_nil (decompose_ne_nil k)
  rw [hd] at hk
  rw [decompose_compose h, hd]
  exact hk

theorem Regular.step (hs : s.Regular (c :: rest)) (hc : decompose c = [c])
    (hordered : Ordered (c :: rest)) : (step s c).Regular rest := by
  rw [Ordered, List.isChain_cons] at hordered
  have hready := hs.ready.step c
  rcases step_cases hs.ready c with
    ⟨hclass, hnone, hheld, heq⟩ | ⟨hclass, heq⟩ | ⟨hclass, hsome, heq⟩ |
      ⟨k, r, hk, hblocks, hr, heq⟩ <;> rw [heq] at hready ⊢
  · refine ⟨hready, by simp, ?_, by simp, by simp, by simp⟩
    exact List.forall_mem_cons.mpr ⟨fun h => absurd h hclass, hs.done⟩
  · refine ⟨hready, by simpa using beginsWithStarter_singleton hc hclass, ?_,
      by simp, by simp, by simp⟩
    intro d hd
    simp only [List.append_assoc, List.mem_append, Option.mem_toList] at hd
    rcases hd with hd | hd | hd
    · exact fun h => absurd h (hs.held d hd).2
    · exact fun _ => hs.starter d hd
    · exact hs.done d hd
  · have hle : ∀ d ∈ s.held, combiningClass d ≤ combiningClass c := fun d hd =>
      (hs.next d hd c rfl).resolve_left hclass
    refine ⟨hready, hs.starter, hs.done,
      List.forall_mem_cons.mpr ⟨⟨hc, hclass⟩, hs.held⟩, ?_, ?_⟩
    · simpa using hle
    · intro d hd e he
      refine (hordered.1 e he).imp_right fun hce => ?_
      rcases List.mem_cons.mp hd with rfl | hd
      · exact hce
      · exact Nat.le_trans (hle d hd) hce
  · refine ⟨hready, ?_, hs.done, hs.held, hs.latest, ?_⟩
    · simpa using beginsWithStarter_compose (hs.starter k hk) hr
    · intro d hd e he
      exact (hordered.1 e he).imp_right fun hce =>
        Nat.le_trans (Nat.le_of_lt (hs.lt_of_not_blocks hblocks d hd)) hce

/-- A character that is taken up has been moved past the marks that are held. -/
theorem Regular.canonicalOrder_step (hs : s.Regular (c :: rest))
    (hc : decompose c = [c]) :
    canonicalOrder ((Composing.step s c).finish.flatMap decompose ++ rest) =
      canonicalOrder (s.finish.flatMap decompose ++ c :: rest) := by
  rcases finish_step hs.ready c with heq | ⟨k, r, hk, hblocks, hr, heq⟩
  · rw [heq, List.flatMap_append, List.flatMap_singleton, hc, List.append_assoc]
    rfl
  · have hheld : s.held.reverse.flatMap decompose = s.held.reverse :=
      flatMap_decompose fun d hd => (hs.held d (List.mem_reverse.mp hd)).1
    have hlt := hs.lt_of_not_blocks hblocks
    have hfinish : s.finish.flatMap decompose ++ c :: rest =
        (s.done.reverse.flatMap decompose ++ decompose k) ++
          (s.held.reverse ++ c :: rest) := by
      simp [finish, hk, hheld]
    have hstep : (Composing.step s c).finish.flatMap decompose ++ rest =
        (s.done.reverse.flatMap decompose ++ decompose k) ++
          c :: (s.held.reverse ++ rest) := by
      simp [finish, heq, hheld, decompose_compose hr]
    rw [hfinish, hstep]
    rcases hempty : s.held with _ | ⟨e, held⟩
    · rfl
    · rw [← hempty]
      refine (canonicalOrder_move ?_ (fun d hd => ?_) _ _).symm
      · exact Nat.ne_of_gt (Nat.zero_lt_of_lt (hlt e (by simp [hempty])))
      · have hd := List.mem_reverse.mp hd
        exact ⟨(hs.held d hd).2, Nat.ne_of_gt (hlt d hd)⟩

/-!
# Composing a text
-/

theorem Regular.foldl (hs : s.Regular rest)
    (hrest : ∀ c ∈ rest, decompose c = [c]) (hordered : Ordered rest) :
    (rest.foldl Composing.step s).Regular [] ∧
      canonicalOrder ((rest.foldl Composing.step s).finish.flatMap decompose) =
        canonicalOrder (s.finish.flatMap decompose ++ rest) := by
  induction rest generalizing s with
  | nil => exact ⟨hs, by rw [List.append_nil]; rfl⟩
  | cons c rest ih =>
      obtain ⟨hc, hrest⟩ := List.forall_mem_cons.mp hrest
      have hnext :=
        ih (hs.step hc hordered) hrest (List.isChain_cons.mp hordered).2
      rw [List.foldl_cons]
      exact ⟨hnext.1, hnext.2.trans (hs.canonicalOrder_step hc)⟩

end Composing

variable {cs xs ys : List Char}

theorem regular_compose (cs : List Char) : (compose cs).Regular [] ∧
    canonicalOrder ((nfc cs).flatMap decompose) =
      canonicalOrder (cs.flatMap decompose) := by
  have hstart : Composing.Regular ⟨[], none, []⟩
      (canonicalOrder (cs.flatMap decompose)) :=
    ⟨fun _ => rfl, by simp, by simp, by simp, by simp, by simp⟩
  have hrun :=
    hstart.foldl decompose_of_mem_canonicalOrder (ordered_canonicalOrder _)
  exact ⟨hrun.1, hrun.2.trans (canonicalOrder_canonicalOrder _)⟩

theorem canonicalOrder_nfc (cs : List Char) :
    canonicalOrder ((nfc cs).flatMap decompose) =
      canonicalOrder (cs.flatMap decompose) :=
  (regular_compose cs).2

/-- Normalizing a text once is enough. -/
theorem nfc_nfc (cs : List Char) : nfc (nfc cs) = nfc cs := by
  rw [nfc, canonicalOrder_nfc]
  rfl

/-- In a normalized text only marks decompose into a text that begins with a
mark. -/
theorem beginsWithStarter_of_mem {c : Char} (h : nfc cs = cs) (hc : c ∈ cs)
    (hclass : combiningClass c = 0) : BeginsWithStarter [c] := by
  have hregular := (regular_compose cs).1
  rw [← h, nfc_eq, Composing.finish, List.mem_reverse, List.append_assoc,
    List.mem_append, List.mem_append, Option.mem_toList] at hc
  rcases hc with hc | hc | hc
  · exact absurd hclass (hregular.held c hc).2
  · exact hregular.starter c hc
  · exact hregular.done c hc hclass

/-!
# Parts of normalized texts
-/

/-- The length of the decomposition. -/
def weight (cs : List Char) : Nat :=
  (cs.flatMap decompose).length

theorem weight_append (cs ds : List Char) :
    weight (cs ++ ds) = weight cs + weight ds := by
  rw [weight, List.flatMap_append, List.length_append]
  rfl

theorem weight_nfc (cs : List Char) : weight (nfc cs) = weight cs := by
  have hperm := (canonicalOrder_perm ((nfc cs).flatMap decompose)).symm
  rw [canonicalOrder_nfc] at hperm
  exact (hperm.trans (canonicalOrder_perm _)).length_eq

theorem eq_nil_of_weight_eq_zero (h : weight cs = 0) : cs = [] := by
  cases cs with
  | nil => rfl
  | cons c cs =>
      have hc := List.length_pos_of_ne_nil (decompose_ne_nil c)
      rw [weight, List.flatMap_cons, List.length_append] at h
      omega

/-- Of the initial segments of a text there is one of each weight at most. -/
theorem append_inj_of_weight {as bs : List Char} (h : xs ++ ys = as ++ bs)
    (hweight : weight xs = weight as) : xs = as ∧ ys = bs := by
  rcases List.append_eq_append_iff.mp h with ⟨ds, rfl, rfl⟩ | ⟨ds, rfl, rfl⟩
  · rw [weight_append] at hweight
    obtain rfl : ds = [] := eq_nil_of_weight_eq_zero (by omega)
    simp
  · rw [weight_append] at hweight
    obtain rfl : ds = [] := eq_nil_of_weight_eq_zero (by omega)
    simp

theorem weight_compose {k c r : Char} (h : compose? k c = some r) :
    weight [r] = weight [k] + 1 := by
  rw [weight, weight, List.flatMap_singleton, List.flatMap_singleton,
    decompose_compose h, List.length_append, List.length_singleton]

/-- A starter keeps its place and grows. -/
theorem exists_finish_foldl (cs : List Char) :
    ∀ {done held : List Char} {k : Char}, ∃ r more,
    (cs.foldl Composing.step ⟨done, some k, held⟩).finish =
      done.reverse ++ r :: more ∧
      weight [k] ≤ weight [r] := by
  induction cs with
  | nil => exact fun {done held k} =>
      ⟨k, held.reverse, by simp [Composing.finish], Nat.le_refl _⟩
  | cons c cs ih =>
      intro done held k
      have hready : Composing.Ready ⟨done, some k, held⟩ := fun h =>
        absurd h (by simp)
      rw [List.foldl_cons]
      rcases Composing.step_cases hready c with
        ⟨-, hnone, -⟩ | ⟨-, heq⟩ | ⟨-, -, heq⟩ | ⟨k', r, hk, -, hr, heq⟩
      · exact absurd hnone (by simp)
      · obtain ⟨r, more, hfinish, -⟩ := @ih (held ++ [k] ++ done) [] c
        refine ⟨k, held.reverse ++ r :: more, ?_, Nat.le_refl _⟩
        rw [heq]
        exact hfinish.trans (by simp)
      · rw [heq]
        exact ih
      · obtain rfl := Option.some.inj hk
        obtain ⟨r', more, hfinish, hle⟩ := @ih done held r
        rw [weight_compose hr] at hle
        exact ⟨r', more, by rw [heq, hfinish], Nat.le_of_succ_le hle⟩

/-- If the starter at the cut were taken up, no initial segment of the result
would have the weight of the part before the cut. -/
theorem nfc_append_inv (h : nfc (xs ++ ys) = xs ++ ys)
    (hys : BeginsWithStarter ys) :
    nfc xs = xs ∧ nfc ys = ys := by
  rcases hds : ys.flatMap decompose with _ | ⟨d, ds⟩
  · obtain rfl : ys = [] := eq_nil_of_weight_eq_zero (by rw [weight, hds]; rfl)
    exact ⟨by simpa using h, rfl⟩
  · have hd : combiningClass d = 0 := hys d (by rw [hds]; rfl)
    by_cases htaken : ∀ k ∈ (compose xs).starter, (compose xs).held = [] →
        compose? k d = none
    · rw [nfc_append hds hd htaken] at h
      exact append_inj_of_weight h (weight_nfc xs)
    · simp only [not_forall] at htaken
      obtain ⟨k, hk, hheld, hr⟩ := htaken
      obtain ⟨r, hr⟩ := Option.ne_none_iff_exists'.mp hr
      obtain ⟨done, hstate⟩ : ∃ done, compose xs = ⟨done, some k, []⟩ :=
        ⟨_, by rw [← hheld, ← Option.mem_def.mp hk]⟩
      obtain ⟨r', more, hfinish, hle⟩ :=
        @exists_finish_foldl (canonicalOrder ds) done [] r
      have hresult : xs ++ ys = done.reverse ++ r' :: more := by
        rw [← h, ← hfinish, nfc, List.flatMap_append, hds,
          canonicalOrder_append hd, List.foldl_append,
          canonicalOrder_starter_cons hd, List.foldl_cons]
        change
          (List.foldl Composing.step (Composing.step (compose xs) d) _).finish =
            _
        rw [hstate, Composing.step_some]
        simp [Composing.blocks, hr]
      have hbefore : weight xs = weight done.reverse + weight [k] := by
        rw [← weight_nfc xs, nfc_eq, hstate, ← weight_append]
        simp [Composing.finish]
      have hpos : 0 < weight [k] := by
        rw [weight, List.flatMap_singleton]
        exact List.length_pos_of_ne_nil (decompose_ne_nil k)
      rw [weight_compose hr] at hle
      exfalso
      rcases List.append_eq_append_iff.mp hresult with
        ⟨as, has, -⟩ | ⟨bs, hbs, hrest⟩
      · rw [has, weight_append] at hbefore
        omega
      · rw [hbs, weight_append] at hbefore
        cases bs with
        | nil =>
            have hnil : weight [] = 0 := rfl
            omega
        | cons b bs =>
            obtain ⟨rfl, -⟩ := List.cons.inj hrest
            rw [← List.singleton_append, weight_append] at hbefore
            omega

/-- A text of a normalized text that begins with a starter begins with one when
it is decomposed. -/
theorem beginsWithStarter_of_suffix {c : Char} {ds : List Char}
    (h : nfc cs = cs) (hds : c :: ds <:+ cs) (hc : combiningClass c = 0) :
    BeginsWithStarter (c :: ds) := by
  intro d hd
  refine beginsWithStarter_of_mem h (hds.subset List.mem_cons_self) hc d ?_
  obtain ⟨e, es, he⟩ := List.exists_cons_of_ne_nil (decompose_ne_nil c)
  rw [List.flatMap_cons, he] at hd
  rw [List.flatMap_singleton, he]
  exact hd

/-- A part of a normalized text is normalized if it begins with a starter, and
ends with a closing parenthesis or before a starter. -/
theorem nfc_of_part {before part after : List Char}
    (h : nfc (before ++ (part ++ after)) = before ++ (part ++ after))
    (hfirst : ∀ c ∈ part.head?, combiningClass c = 0)
    (hlast : part.getLast? = some ')' ∨
      ∀ c ∈ after.head?, combiningClass c = 0) :
    nfc part = part := by
  cases part with
  | nil => rfl
  | cons c cs =>
      have hstarter :=
        beginsWithStarter_of_suffix h (List.suffix_append _ _) (hfirst c rfl)
      have hpart := (nfc_append_inv h hstarter).2
      rcases hlast with hlast | hlast
      · obtain ⟨ds, hds⟩ := List.getLast?_eq_some_iff.mp hlast
        have hjoint : ')' ∈ joints := mem_joints_of_mem_separators (by decide)
        have hclosing := decompose_joint _ hjoint
        have hsplit : c :: cs ++ after = ds ++ ')' :: after := by rw [hds]; simp
        rw [hsplit] at hpart
        have hends := beginsWithStarter_of_suffix hpart (List.suffix_append _ _)
          (combiningClass_joint _ hjoint)
        rw [hds,
          nfc_append_joint hclosing hjoint, (nfc_append_inv hpart hends).1,
          nfc_joint_cons hclosing hjoint (by simp [BeginsWithStarter])]
        rfl
      · cases after with
        | nil => simpa using hpart
        | cons d ds =>
            have hends := beginsWithStarter_of_suffix hpart
              (List.suffix_append _ _) (hlast d rfl)
            exact (nfc_append_inv hpart hends).1

end PredicateLogic.Unicode
