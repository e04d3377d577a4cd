import PredicateLogic.Proofs.Unicode.Boundary
import PredicateLogic.Unicode.Identifier
import PredicateLogic.Unicode.WhiteSpace

/-!
# Separators and identifiers

The signs of a formula, however they are spelled, commas, parentheses and white
space compose with nothing but marks, and no identifier begins with a mark. A
text may therefore be normalized separately before and behind each of them. They
also decompose into themselves, except for two blanks that are replaced by
others. All of this is read off the tables.
-/

namespace PredicateLogic.Unicode

/-!
# Starters
-/

/-- Whether no code point lies in a range of both lists, which are walked
through side by side. -/
def apart : (fuel : Nat) → List (Nat × Nat) → List (Nat × Nat × Nat) → Bool
  | 0, _, _ => false
  | _ + 1, [], _ => true
  | _ + 1, _ :: _, [] => true
  | fuel + 1, (a, b) :: ranges, (first, last, k) :: classes =>
    if b < first then apart fuel ranges ((first, last, k) :: classes)
    else if last < a then apart fuel ((a, b) :: ranges) classes
    else false

theorem classInRanges_of_apart {fuel n : Nat} {ranges : List (Nat × Nat)}
    {classes : List (Nat × Nat × Nat)}
    (hapart : apart fuel ranges classes = true)
    (hn : inRanges n ranges = true) : classInRanges n classes = 0 := by
  fun_induction apart fuel ranges classes with
  | case1 => exact absurd hapart (by simp)
  | case2 => exact absurd hn (by simp [inRanges])
  | case3 => rfl
  | case4 fuel a b ranges first last k classes hbefore ih =>
      rw [inRanges] at hn
      split at hn
      · exact absurd hn (by simp)
      · split at hn
        · next hle => rw [classInRanges, if_pos (by omega)]
        · exact ih hapart hn
  | case5 fuel a b ranges first last k classes _ hbehind ih =>
      have hle : a ≤ n := by
        rw [inRanges] at hn
        split at hn
        · exact absurd hn (by simp)
        · omega
      rw [classInRanges]
      split
      · rfl
      · rw [if_neg (by omega)]
        exact ih hapart hn
  | case6 => exact absurd hapart (by simp)

/-- Nothing that an identifier may begin with is a mark. -/
theorem combiningClass_of_isIdentifierStart {c : Char}
    (h : isIdentifierStart c = true) :
    combiningClass c = 0 := by
  rw [isIdentifierStart, Bool.or_eq_true, List.contains_iff_mem] at h
  rcases h with h | h
  · have hall :
        (['_', '‿', '⁀', '⁔'].all fun d => combiningClass d == 0) = true := by
      decide +kernel
    exact beq_iff_eq.mp (List.all_eq_true.mp hall c h)
  · have hapart : apart 2000 xidStartRanges combiningClassRanges = true := by
      decide +kernel
    exact classInRanges_of_apart hapart h

/-!
# Separators
-/

/-- The characters of a printed formula that belong to no name. -/
def separators : List Char :=
  [' ', ',', '(', ')', '¬', '∀', '∃', '∧', '∨', '⊻', '→', '←', '↔']

/-- The further characters of the spellings of operators. -/
def spellingCharacters : List Char :=
  ['!', '~', '\x5c', 'A', 'a', 'E', 'e', '&', '|', '^', '-', '>', '<']

/-- The white space. -/
def blanks : List Char :=
  whiteSpaceRanges.flatMap fun r =>
    (List.range' r.1 (r.2 + 1 - r.1)).map Char.ofNat

/-- What normalization makes of white space. -/
def plainBlank (c : Char) : Char :=
  if c = '\u2000' then '\u2002' else if c = '\u2001' then '\u2003' else c

/-- The characters next to which a text may be cut. -/
def joints : List Char :=
  separators ++ spellingCharacters ++ blanks.map plainBlank

theorem mem_joints_of_mem_separators {c : Char} (hc : c ∈ separators) :
    c ∈ joints :=
  List.mem_append_left _ (List.mem_append_left _ hc)

theorem mem_blanks_of_isWhiteSpace {c : Char} (hc : isWhiteSpace c = true) :
    c ∈ blanks := by
  obtain ⟨r, hr, hfirst, hlast⟩ := exists_range_of_inRanges hc
  refine List.mem_flatMap.mpr
    ⟨r, hr, List.mem_map.mpr ⟨c.toNat, ?_, Char.ofNat_toNat c⟩⟩
  exact List.mem_range'_1.mpr ⟨hfirst, by omega⟩

/-- What the tables say of white space. -/
theorem tabled_blanks : ∀ c ∈ blanks,
    isWhiteSpace c = true ∧ decompose c = [plainBlank c] ∧
      isWhiteSpace (plainBlank c) = true ∧
      plainBlank (plainBlank c) = plainBlank c := by
  have hall :
      (blanks.all fun c => isWhiteSpace c && (decompose c == [plainBlank c] &&
        (isWhiteSpace (plainBlank c) &&
          plainBlank (plainBlank c) == plainBlank c))) = true := by
    decide +kernel
  simpa only [List.all_eq_true, Bool.and_eq_true, beq_iff_eq] using hall

theorem plainBlank_spec {c : Char} (hc : isWhiteSpace c = true) :
    decompose c = [plainBlank c] ∧ plainBlank c ∈ joints ∧
      isWhiteSpace (plainBlank c) = true := by
  have hmem := mem_blanks_of_isWhiteSpace hc
  obtain ⟨-, hdecompose, hplain, -⟩ := tabled_blanks c hmem
  exact ⟨hdecompose, List.mem_append_right _ (List.mem_map_of_mem hmem), hplain⟩

theorem plainBlank_of_not_isWhiteSpace {c : Char}
    (hc : isWhiteSpace c = false) : plainBlank c = c := by
  have hquad :
      isWhiteSpace '\u2000' = true ∧ isWhiteSpace '\u2001' = true := by decide
  have hne : c ≠ '\u2000' ∧ c ≠ '\u2001' := by
    constructor
    · rintro rfl
      exact Bool.noConfusion (hc.symm.trans hquad.1)
    · rintro rfl
      exact Bool.noConfusion (hc.symm.trans hquad.2)
  rw [plainBlank, if_neg hne.1, if_neg hne.2]

theorem decompose_joint : ∀ c ∈ joints, decompose c = [c] := by
  have hall : ((separators ++ spellingCharacters).all
      fun c => decompose c == [c]) = true := by
    decide +kernel
  simp only [List.all_eq_true, beq_iff_eq] at hall
  intro c hc
  rcases List.mem_append.mp hc with hc | hc
  · exact hall c hc
  · obtain ⟨d, hd, rfl⟩ := List.mem_map.mp hc
    obtain ⟨-, -, hblank, htwice⟩ := tabled_blanks d hd
    rw [(plainBlank_spec hblank).1, htwice]

/-- No joint is a mark, composes with a character before it, or is a Hangul
syllable or a part of one. -/
theorem tabled_joints : ∀ c ∈ joints,
    combiningClass c = 0 ∧ lookupAscending c.toNat compositions = none ∧
      ¬(0x1100 ≤ c.toNat ∧ c.toNat < 0x1113) ∧
      ¬(0x1161 ≤ c.toNat ∧ c.toNat < 0x1176) ∧
      ¬(0x11A8 ≤ c.toNat ∧ c.toNat < 0x11C3) ∧
      ¬(hangulBase ≤ c.toNat ∧ c.toNat < hangulBase + hangulCount) := by
  have hall : (joints.all fun c => combiningClass c == 0 &&
      ((lookupAscending c.toNat compositions).isNone &&
        (!(0x1100 ≤ c.toNat && c.toNat < 0x1113) &&
          (!(0x1161 ≤ c.toNat && c.toNat < 0x1176) &&
            (!(0x11A8 ≤ c.toNat && c.toNat < 0x11C3) &&
              !(hangulBase ≤ c.toNat &&
                c.toNat < hangulBase + hangulCount)))))) = true := by
    decide +kernel
  intro c hc
  have hspec := List.all_eq_true.mp hall c hc
  simp only [Bool.and_eq_true, beq_iff_eq, Option.isNone_iff_eq_none,
    Bool.not_eq_true', Bool.and_eq_false_iff, decide_eq_false_iff_not] at hspec
  obtain ⟨hclass, hlookup, hhangul⟩ := hspec
  exact ⟨hclass, hlookup, by omega⟩

theorem combiningClass_joint (c : Char) (hc : c ∈ joints) :
    combiningClass c = 0 :=
  (tabled_joints c hc).1

theorem lookupAscending_mem {α : Type} {n : Nat} {a : α}
    {entries : List (Nat × α)} (h : lookupAscending n entries = some a) :
    (n, a) ∈ entries := by
  induction entries with
  | nil => exact absurd h (by simp [lookupAscending])
  | cons entry entries ih =>
      obtain ⟨key, value⟩ := entry
      rw [lookupAscending] at h
      split at h
      · exact absurd h (by simp)
      · split at h
        · next heq =>
          obtain rfl := Option.some.inj h
          simp [heq]
        · simp [ih h]

/-- No joint is taken up into a character before it. -/
theorem compose?_joint {c : Char} (hc : c ∈ joints) (k : Char) :
    compose? k c = none := by
  obtain ⟨-, hlookup, -, hvowel, htrailing, -⟩ := tabled_joints c hc
  have hnone : composeHangul? k.toNat c.toNat = none := by
    rw [composeHangul?, if_neg (fun h => hvowel h.2.2),
      if_neg (fun h => htrailing h.2.2.2)]
  simp [compose?, hnone, hlookup]

/-- A joint takes up no starter behind it. -/
theorem compose?_joint_starter {c d : Char} (hc : c ∈ joints)
    (hd : combiningClass d = 0) : compose? c d = none := by
  have hmem : c.toNat ∈ joints.map Char.toNat := List.mem_map_of_mem hc
  have hgroups :
      ∀ g ∈ compositions, classInRanges g.1 combiningClassRanges ≠ 0 ∨
      ∀ n ∈ joints.map Char.toNat, lookupAscending n g.2 = none := by
    decide +kernel
  obtain ⟨-, -, hleading, -, -, hsyllable⟩ := tabled_joints c hc
  have hnone : composeHangul? c.toNat d.toNat = none := by
    rw [composeHangul?, if_neg (fun h => hleading ⟨h.1, h.2.1⟩),
      if_neg (fun h => hsyllable ⟨h.1, h.2.1⟩)]
  cases hgroup : lookupAscending d.toNat compositions with
  | none => simp [compose?, hnone, hgroup]
  | some group =>
      rcases hgroups _ (lookupAscending_mem hgroup) with hclass | hlookup
      · exact absurd hd hclass
      · simp [compose?, hnone, hgroup, hlookup _ hmem]

variable {c d : Char} {xs ys : List Char}

/-- A text may be cut before a character that decomposes into a joint. -/
theorem nfc_append_joint (hc : decompose c = [d]) (hd : d ∈ joints)
    (xs ys : List Char) :
    nfc (xs ++ c :: ys) = nfc xs ++ nfc (c :: ys) := by
  have hys : (c :: ys).flatMap decompose = d :: ys.flatMap decompose := by
    rw [List.flatMap_cons, hc]
    rfl
  exact nfc_append hys (combiningClass_joint d hd) fun k _ _ =>
    compose?_joint hd k

/-- A text may be cut behind a character that decomposes into a joint. -/
theorem nfc_joint_cons (hc : decompose c = [d]) (hd : d ∈ joints)
    (hys : BeginsWithStarter ys) :
    nfc (c :: ys) = d :: nfc ys := by
  have hcompose : compose [c] = ⟨[], some d, []⟩ := by
    have hclass := combiningClass_joint d hd
    rw [compose, List.flatMap_singleton, hc, canonicalOrder_starter_cons hclass]
    simp [canonicalOrder, Reordering.text, Composing.step, hclass]
  have hnfc : nfc [c] = [d] := by
    rw [nfc_eq, hcompose]
    rfl
  rcases hes : ys.flatMap decompose with _ | ⟨e, es⟩
  · have hempty : nfc (c :: ys) = nfc [c] := by
      simp [nfc, hes]
    rw [hempty, hnfc, nfc, hes]
    rfl
  · have he : combiningClass e = 0 := hys e (by rw [hes]; rfl)
    have happend : nfc ([c] ++ ys) = nfc [c] ++ nfc ys := by
      refine nfc_append hes he fun k hk _ => ?_
      rw [hcompose] at hk
      obtain rfl := Option.mem_some.mp hk
      exact compose?_joint_starter hd he
    rw [hnfc] at happend
    exact happend

theorem beginsWithStarter_joint_cons (hc : decompose c = [d]) (hd : d ∈ joints)
    (ys : List Char) :
    BeginsWithStarter (c :: ys) := by
  intro e he
  rw [List.flatMap_cons, hc] at he
  obtain rfl := Option.mem_some.mp he
  exact combiningClass_joint d hd

/-- Characters that are joints stay as they are in front of a text. -/
theorem nfc_joints_append (hxs : ∀ c ∈ xs, c ∈ joints)
    (hys : BeginsWithStarter ys) :
    nfc (xs ++ ys) = xs ++ nfc ys ∧ BeginsWithStarter (xs ++ ys) := by
  induction xs with
  | nil => exact ⟨rfl, hys⟩
  | cons c xs ih =>
      have hc : c ∈ joints := hxs c List.mem_cons_self
      obtain ⟨hnfc, hstarter⟩ := ih fun e he =>
        hxs e (List.mem_cons_of_mem c he)
      rw [List.cons_append, nfc_joint_cons (decompose_joint c hc) hc hstarter,
        hnfc]
      exact ⟨rfl, beginsWithStarter_joint_cons (decompose_joint c hc) hc _⟩

end PredicateLogic.Unicode
