import Mathlib.Data.List.Basic
import PredicateLogic.Proofs.Grammar.Token
import PredicateLogic.Proofs.Unicode.Index
import PredicateLogic.Proofs.Unicode.Separator

/-!
# Decomposition and composition

What a character decomposes into does not decompose any further, and a composite
decomposes into what its two characters decompose into. For Hangul syllables
both are a matter of arithmetic, for all other characters both are read off the
tables.

Where an identifier ends, no mark follows, since marks may continue identifiers.
-/

namespace PredicateLogic.Unicode

/-- Whether a code point is one of the Hangul syllables. -/
def IsSyllable (n : Nat) : Prop :=
  hangulBase ≤ n ∧ n < hangulBase + hangulCount

instance (n : Nat) : Decidable (IsSyllable n) :=
  inferInstanceAs (Decidable (_ ∧ _))

/-- What the tables say of a code point. -/
def tabled (n : Nat) : List Nat :=
  match expansionIndex.find n with
  | some ns => ns
  | none => match replacementIn n replacements with
    | some m => [m]
    | none => [n]

theorem decompose_eq_tabled {c : Char} (hc : ¬IsSyllable c.toNat) :
    decompose c = (tabled c.toNat).map Char.ofNat := by
  rw [IsSyllable] at hc
  simp only [decompose, if_neg hc, tabled, expansionIndex_find]
  cases lookupAscending c.toNat expansions with
  | some ns => rfl
  | none =>
      cases replacementIn c.toNat replacements with
      | some m => rfl
      | none => simp

theorem decompose_eq_hangulParts {c : Char} (hc : IsSyllable c.toNat) :
    decompose c = hangulParts (c.toNat - hangulBase) := by
  rw [IsSyllable] at hc
  rw [decompose, if_pos hc]

/-- Code points of characters that decompose into themselves. -/
def IsPlain (n : Nat) : Prop :=
  n.isValidChar ∧ ¬IsSyllable n ∧ tabled n = [n]

instance (n : Nat) : Decidable (IsPlain n) :=
  inferInstanceAs (Decidable (_ ∧ _))

theorem decompose_of_isPlain {c : Char} (h : IsPlain c.toNat) :
    decompose c = [c] := by
  obtain ⟨-, hsyllable, htabled⟩ := h
  rw [decompose_eq_tabled hsyllable, htabled, List.map_singleton,
    Char.ofNat_toNat]

theorem toNat_ofNat {n : Nat} (h : n.isValidChar) :
    (Char.ofNat n).toNat = n := by
  rw [Char.ofNat, dif_pos h]
  rfl

theorem decompose_ofNat {n : Nat} (h : IsPlain n) :
    decompose (Char.ofNat n) = [Char.ofNat n] :=
  decompose_of_isPlain (by rwa [toNat_ofNat h.1])

/-!
# The tables
-/

theorem isPlain_expansions : ∀ e ∈ expansions, ∀ n ∈ e.2, IsPlain n := by
  decide +kernel

theorem isPlain_replacements : ∀ e ∈ replacements, ∀ n ∈ e.2, IsPlain n := by
  decide +kernel

theorem isPlain_hangul :
    (∀ k < 19, IsPlain (0x1100 + k)) ∧ (∀ k < 21, IsPlain (0x1161 + k)) ∧
    ∀ k < 28, IsPlain (0x11A7 + k) := by
  decide +kernel

theorem tabled_compositions :
    ∀ g ∈ compositions, ∀ e ∈ g.2, e.2.isValidChar ∧ ¬IsSyllable e.2 ∧
    ¬IsSyllable e.1 ∧ tabled e.2 = tabled e.1 ++ [g.1] := by
  decide +kernel

theorem ne_nil_of_mem_expansions : ∀ e ∈ expansions, e.2 ≠ [] := by
  decide +kernel

theorem exists_run_of_replacementIn {n m : Nat} {runs : List (Nat × List Nat)}
    (h : replacementIn n runs = some m) : ∃ e ∈ runs, m ∈ e.2 := by
  induction runs with
  | nil => exact absurd h (by simp [replacementIn])
  | cons run runs ih =>
      obtain ⟨first, ns⟩ := run
      rw [replacementIn] at h
      split at h
      · exact absurd h (by simp)
      · split at h
        · exact ⟨_, List.mem_cons_self, List.mem_of_getElem? h⟩
        · obtain ⟨e, he, hm⟩ := ih h
          exact ⟨e, List.mem_cons_of_mem _ he, hm⟩

/-- A code point that the tables do not list stands for itself. -/
theorem tabled_cases (n : Nat) :
    (∃ ns, (n, ns) ∈ expansions ∧ tabled n = ns) ∨
      (∃ e ∈ replacements, ∃ m ∈ e.2, tabled n = [m]) ∨ tabled n = [n] := by
  rw [tabled, expansionIndex_find]
  cases hexpansion : lookupAscending n expansions with
  | some ns => exact .inl ⟨ns, lookupAscending_mem hexpansion, rfl⟩
  | none =>
      cases hreplacement : replacementIn n replacements with
      | some m =>
          obtain ⟨e, he, hm⟩ := exists_run_of_replacementIn hreplacement
          exact .inr (.inl ⟨e, he, m, hm, rfl⟩)
      | none => exact .inr (.inr rfl)

/-!
# Decomposition
-/

/-- What a syllable consists of does not decompose any further. -/
theorem decompose_of_mem_hangulParts {index : Nat}
    (hindex : index < hangulCount) :
    ∀ d ∈ hangulParts index, decompose d = [d] := by
  obtain ⟨hleading, hvowel, htrailing⟩ := isPlain_hangul
  rw [hangulCount] at hindex
  have hparts : ∀ d ∈ hangulParts index, d = Char.ofNat (0x1100 + index / 588) ∨
      d = Char.ofNat (0x1161 + index % 588 / 28) ∨
        d = Char.ofNat (0x11A7 + index % 28) := by
    intro d hd
    rw [hangulParts] at hd
    split at hd
    · rcases List.mem_pair.mp hd with rfl | rfl
      · exact .inl rfl
      · exact .inr (.inl rfl)
    · simpa using hd
  intro d hd
  rcases hparts d hd with rfl | rfl | rfl
  · exact decompose_ofNat (hleading _ (by omega))
  · exact decompose_ofNat (hvowel _ (by omega))
  · exact decompose_ofNat (htrailing _ (by omega))

/-- A decomposition is full. -/
theorem decompose_of_mem_decompose {c : Char} :
    ∀ d ∈ decompose c, decompose d = [d] := by
  by_cases hc : IsSyllable c.toNat
  · rw [decompose_eq_hangulParts hc]
    exact decompose_of_mem_hangulParts (by rw [IsSyllable] at hc; omega)
  · rw [decompose_eq_tabled hc]
    rcases tabled_cases c.toNat with ⟨ns, hmem, heq⟩ | ⟨e, he, m, hm, heq⟩ | heq
    · rw [heq]
      intro d hd
      obtain ⟨n, hn, rfl⟩ := List.mem_map.mp hd
      exact decompose_ofNat (isPlain_expansions _ hmem n hn)
    · rw [heq]
      simpa using decompose_ofNat (isPlain_replacements e he m hm)
    · rw [heq, List.map_singleton, Char.ofNat_toNat, List.forall_mem_singleton,
        decompose_eq_tabled hc, heq, List.map_singleton, Char.ofNat_toNat]

theorem decompose_ne_nil (c : Char) : decompose c ≠ [] := by
  by_cases hc : IsSyllable c.toNat
  · rw [decompose_eq_hangulParts hc, hangulParts]
    split <;> simp
  · rw [decompose_eq_tabled hc]
    rcases tabled_cases c.toNat with ⟨ns, hmem, heq⟩ | ⟨-, -, m, -, heq⟩ | heq
    · rw [heq]
      simpa using ne_nil_of_mem_expansions _ hmem
    · simp [heq]
    · simp [heq]

/-!
# Composition
-/

theorem toNat_ofNat_of_isSyllable {n : Nat} (h : IsSyllable n) :
    (Char.ofNat n).toNat = n := by
  rw [IsSyllable, hangulBase, hangulCount] at h
  exact toNat_ofNat (.inl (by omega))

theorem hangulParts_add {index t : Nat} (hindex : index % 28 = 0) (hpos : 0 < t)
    (ht : t < 28) :
    hangulParts (index + t) =
      hangulParts index ++ [Char.ofNat (0x11A7 + t)] := by
  have hleading : (index + t) / 588 = index / 588 := by omega
  have hvowel : (index + t) % 588 / 28 = index % 588 / 28 := by omega
  have htrailing : (index + t) % 28 = t := by omega
  simp only [hangulParts, hleading, hvowel, htrailing, hindex,
    if_neg (Nat.ne_of_gt hpos), if_true]
  rfl

theorem decompose_composeHangul {k c r : Char}
    (h : composeHangul? k.toNat c.toNat = some r) :
    decompose r = decompose k ++ [c] := by
  rw [composeHangul?] at h
  split at h
  · next hrange =>
    obtain ⟨hk, hk', hc, hc'⟩ := hrange
    obtain rfl := Option.some.inj h
    obtain ⟨index, hindex⟩ : ∃ index,
        index = (k.toNat - 0x1100) * 588 + (c.toNat - 0x1161) * 28 := ⟨_, rfl⟩
    have hsyllable : IsSyllable (hangulBase + index) := by
      rw [IsSyllable, hangulCount]
      omega
    have hleading : 0x1100 + index / 588 = k.toNat := by omega
    have hvowel : 0x1161 + index % 588 / 28 = c.toNat := by omega
    have hplain : decompose k = [k] := by
      refine decompose_of_isPlain ?_
      rw [← hleading]
      exact isPlain_hangul.1 _ (by omega)
    rw [Nat.add_assoc, ← hindex,
      decompose_eq_hangulParts (by rwa [toNat_ofNat_of_isSyllable hsyllable]),
      toNat_ofNat_of_isSyllable hsyllable, Nat.add_sub_cancel_left, hangulParts,
      if_pos (by omega), hleading, hvowel, hplain, Char.ofNat_toNat,
      Char.ofNat_toNat]
    rfl
  · split at h
    · next hrange =>
      obtain ⟨hk, hk', hindex, hc, hc'⟩ := hrange
      obtain rfl := Option.some.inj h
      obtain ⟨t, ht⟩ : ∃ t, t = c.toNat - 0x11A7 := ⟨_, rfl⟩
      have hsyllable : IsSyllable (k.toNat + t) := by
        rw [IsSyllable]
        rw [hangulCount] at hk' ⊢
        omega
      have hsum :
          k.toNat + t - hangulBase = k.toNat - hangulBase + t := by omega
      have hcode : 0x11A7 + t = c.toNat := by omega
      rw [← ht,
        decompose_eq_hangulParts (by rwa [toNat_ofNat_of_isSyllable hsyllable]),
        toNat_ofNat_of_isSyllable hsyllable, hsum,
        hangulParts_add hindex (by omega) (by omega), hcode, Char.ofNat_toNat,
        decompose_eq_hangulParts ⟨hk, hk'⟩]
    · exact absurd h (by simp)

/-- A composite decomposes into what the first character decomposes into and the
second one. -/
theorem decompose_compose {k c r : Char} (h : compose? k c = some r) :
    decompose r = decompose k ++ [c] := by
  rw [compose?] at h
  cases hhangul : composeHangul? k.toNat c.toNat with
  | some r' =>
      rw [hhangul] at h
      obtain rfl := Option.some.inj h
      exact decompose_composeHangul hhangul
  | none =>
      simp only [hhangul, Option.bind_eq_bind, Option.bind_eq_some_iff,
        Option.pure_def, Option.some.injEq] at h
      obtain ⟨group, hgroup, n, hn, rfl⟩ := h
      obtain ⟨hvalid, hr, hk, heq⟩ :=
        tabled_compositions _ (lookupAscending_mem hgroup) _
          (lookupAscending_mem hn)
      simp only at hr hk heq
      rw [decompose_eq_tabled (by rwa [toNat_ofNat hvalid]), toNat_ofNat hvalid,
        heq, List.map_append, ← decompose_eq_tabled hk, List.map_singleton,
        Char.ofNat_toNat]

/-!
# Marks in identifiers
-/

/-- Whether every range with a class lies in one of the other ranges. Both lists
are walked through side by side. -/
def covered : (fuel : Nat) → List (Nat × Nat × Nat) → List (Nat × Nat) → Bool
  | 0, _, _ => false
  | _ + 1, [], _ => true
  | _ + 1, _ :: _, [] => false
  | fuel + 1, (first, last, k) :: classes, (a, b) :: ranges =>
    if a ≤ b ∧ b < first then covered fuel ((first, last, k) :: classes) ranges
    else decide (a ≤ first ∧ last ≤ b) &&
      covered fuel classes ((a, b) :: ranges)

theorem inRanges_of_covered {fuel n : Nat} {classes : List (Nat × Nat × Nat)}
    {ranges : List (Nat × Nat)} (hcovered : covered fuel classes ranges = true)
    (hn : classInRanges n classes ≠ 0) : inRanges n ranges = true := by
  fun_induction covered fuel classes ranges with
  | case1 => exact absurd hcovered (by simp)
  | case2 => exact absurd rfl hn
  | case3 => exact absurd hcovered (by simp)
  | case4 fuel first last k classes a b ranges hbefore ih =>
      have hfirst : first ≤ n := by
        rw [classInRanges] at hn
        split at hn
        · exact absurd rfl hn
        · omega
      rw [inRanges, if_neg (by omega), if_neg (by omega)]
      exact ih hcovered hn
  | case5 fuel first last k classes a b ranges hbefore ih =>
      rw [Bool.and_eq_true, decide_eq_true_eq] at hcovered
      obtain ⟨⟨ha, hb⟩, hcovered⟩ := hcovered
      rw [classInRanges] at hn
      split at hn
      · exact absurd rfl hn
      · split at hn
        · rw [inRanges, if_neg (by omega), if_pos (by omega)]
        · exact ih hcovered hn

theorem isIdentifierContinue_of_mark {c : Char} (h : combiningClass c ≠ 0) :
    isIdentifierContinue c = true := by
  have hcovered :
      covered 2000 combiningClassRanges xidContinueOnlyRanges = true := by
    decide +kernel
  rw [isIdentifierContinue, isXidContinue, inRanges_of_covered hcovered h,
    Bool.or_true, Bool.or_true]

end PredicateLogic.Unicode
