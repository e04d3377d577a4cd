import Mathlib.Algebra.Group.Nat.Defs
import PredicateLogic.TruthTable.Counter

/-!
# Lists of truth values as numbers

`number` reads a list of truth values as a binary number, the first value most
significant, and `digits` writes a number as such a list. Going on to the next
list adds one, and there is no next list exactly behind the greatest number of
the length.
-/

namespace PredicateLogic

/-- The binary number with the given digits, the first one most significant. -/
def number : List Bool → Nat
  | [] => 0
  | b :: bs => 2 ^ bs.length * b.toNat + number bs

theorem number_lt (bs : List Bool) : number bs < 2 ^ bs.length := by
  induction bs with
  | nil => exact Nat.one_pos
  | cons b bs ih =>
      have hdigit : 2 ^ bs.length * b.toNat ≤ 2 ^ bs.length := by
        cases b <;> simp
      rw [number, List.length_cons, Nat.pow_succ]
      omega

theorem number_map_false {α : Type} (l : List α) :
    number (l.map fun _ => false) = 0 := by
  induction l with
  | nil => rfl
  | cons a l ih =>
      rw [List.map_cons, number, ih]
      rfl

theorem getElem?_eq_testBit {bs : List Bool} {i : Nat} (hi : i < bs.length) :
    bs[i]? = some ((number bs).testBit (bs.length - 1 - i)) := by
  induction bs generalizing i with
  | nil => exact absurd hi (Nat.not_lt_zero i)
  | cons b bs ih =>
      rw [number, Nat.testBit_two_pow_mul_add _ (number_lt bs),
        List.length_cons]
      cases i with
      | zero =>
          have hfirst : b.toNat.testBit 0 = b := by
            cases b <;> rfl
          simp [hfirst]
      | succ i =>
          have hlt : i < bs.length := Nat.lt_of_succ_lt_succ hi
          have hdigit :
              bs.length + 1 - 1 - (i + 1) = bs.length - 1 - i := by omega
          have hlow : bs.length - 1 - i < bs.length := by omega
          rw [List.getElem?_cons_succ, ih hlt, hdigit, if_pos hlow]

theorem nextAssignment?_spec (bs : List Bool) :
    match nextAssignment? bs with
    | some cs => cs.length = bs.length ∧ number cs = number bs + 1
    | none => number bs + 1 = 2 ^ bs.length := by
  induction bs with
  | nil => rfl
  | cons b bs ih =>
      rw [nextAssignment?]
      cases hnext : nextAssignment? bs with
      | some cs =>
          rw [hnext] at ih
          obtain ⟨hlength, hnumber⟩ := ih
          exact ⟨by simp [hlength],
            by simp [number, hlength, hnumber, Nat.add_assoc]⟩
      | none =>
          rw [hnext] at ih
          cases b with
          | false =>
              simp only [Bool.false_eq_true, if_false]
              constructor
              · simp
              · rw [number, number_map_false, number, List.length_map, ← ih]
                simp
          | true =>
              simp only [if_true, number, List.length_cons, Bool.toNat_true,
                Nat.pow_succ]
              omega

theorem number_of_nextAssignment? {bs cs : List Bool}
    (h : nextAssignment? bs = some cs) :
    cs.length = bs.length ∧ number cs = number bs + 1 := by
  have hspec := nextAssignment?_spec bs
  rwa [h] at hspec

theorem nextAssignment?_eq_none_iff {bs : List Bool} :
    nextAssignment? bs = none ↔ number bs + 1 = 2 ^ bs.length := by
  have hspec := nextAssignment?_spec bs
  constructor
  · intro h
    rwa [h] at hspec
  · intro h
    cases hnext : nextAssignment? bs with
    | none => rfl
    | some cs =>
        have hcs := number_of_nextAssignment? hnext
        have hlt := number_lt cs
        rw [hcs.1, hcs.2, h] at hlt
        exact absurd hlt (Nat.lt_irrefl _)

/-!
# Digits
-/

/-- The lowest `n` binary digits of a number, the first one most significant. -/
def digits (n k : Nat) : List Bool :=
  (List.range n).map fun i => k.testBit (n - 1 - i)

theorem length_digits (n k : Nat) : (digits n k).length = n := by
  simp [digits]

theorem getElem?_digits {n i : Nat} (k : Nat) (hi : i < n) :
    (digits n k)[i]? = some (k.testBit (n - 1 - i)) := by
  simp [digits, hi]

theorem eq_digits (bs : List Bool) : bs = digits bs.length (number bs) := by
  apply List.ext_getElem?
  intro i
  by_cases hi : i < bs.length
  · rw [getElem?_eq_testBit hi, getElem?_digits _ hi]
  · rw [List.getElem?_eq_none (Nat.le_of_not_lt hi),
      List.getElem?_eq_none (by rw [length_digits]; exact Nat.le_of_not_lt hi)]

theorem number_digits {n k : Nat} (hk : k < 2 ^ n) :
    number (digits n k) = k := by
  apply Nat.eq_of_testBit_eq
  intro j
  have hlt := number_lt (digits n k)
  rw [length_digits] at hlt
  by_cases hj : j < n
  · have hi : n - 1 - j < (digits n k).length := by
      rw [length_digits]
      omega
    have hdigit := getElem?_eq_testBit hi
    rw [length_digits] at hi hdigit
    rw [getElem?_digits k hi, show n - 1 - (n - 1 - j) = j by omega] at hdigit
    exact (Option.some.inj hdigit).symm
  · have hpow : 2 ^ n ≤ 2 ^ j :=
      Nat.pow_le_pow_right (by decide) (Nat.le_of_not_lt hj)
    rw [Nat.testBit_lt_two_pow (Nat.lt_of_lt_of_le hlt hpow),
      Nat.testBit_lt_two_pow (Nat.lt_of_lt_of_le hk hpow)]

/-- The digits of a number are followed by those of the next one, up to the
greatest. -/
theorem nextAssignment?_digits {n k : Nat} (hk : k < 2 ^ n) :
    nextAssignment? (digits n k) =
      if k + 1 < 2 ^ n then some (digits n (k + 1)) else none := by
  cases hnext : nextAssignment? (digits n k) with
  | none =>
      rw [nextAssignment?_eq_none_iff, number_digits hk, length_digits] at hnext
      rw [if_neg (by omega)]
  | some cs =>
      obtain ⟨hlength, hnumber⟩ := number_of_nextAssignment? hnext
      rw [length_digits] at hlength
      rw [number_digits hk] at hnumber
      have hlt := number_lt cs
      rw [hlength, hnumber] at hlt
      rw [if_pos hlt, eq_digits cs, hlength, hnumber]

end PredicateLogic
