import Mathlib.Data.List.Induction
import PredicateLogic.Proofs.TruthTable.Counter
import PredicateLogic.Proofs.TruthTable.Outcome
import PredicateLogic.TruthTable.Basic

/-!
# What a truth table says

A formula has a table exactly if it is propositional. The table has a column for
each identifier, in the order in which they first appear, and its rows run
through the binary numbers of as many digits. In each row the result is the
classical truth value of the formula.

Rows come one at a time. `stateAt k` is what is known before the row of the
number `k`, and `nextRow_stateAt` is the only step; everything about the first
rows, all rows and the end of the rows follows by induction.
-/

namespace PredicateLogic

/-!
# Columns
-/

/-- What is kept of a list stands in the order of first appearance. -/
theorem pairwise_idxOf_eraseDups (l : List String) :
    l.eraseDups.Pairwise fun x y => l.idxOf x < l.idxOf y := by
  induction l using List.reverseRecOn with
  | nil => simp
  | append_singleton l a ih =>
      have hold : ∀ x ∈ l.eraseDups, (l ++ [a]).idxOf x = l.idxOf x := by
        intro x hx
        rw [List.idxOf_append, if_pos (List.mem_eraseDups.mp hx)]
      have hkept : l.eraseDups.Pairwise fun x y =>
        (l ++ [a]).idxOf x < (l ++ [a]).idxOf y := by
        refine ih.imp_of_mem fun hx hy hlt => ?_
        rwa [hold _ hx, hold _ hy]
      rw [List.eraseDups_append]
      by_cases ha : a ∈ l
      · simpa [List.removeAll, ha] using hkept
      · have hlast :
            ∀ x ∈ l.eraseDups, (l ++ [a]).idxOf x < (l ++ [a]).idxOf a := by
          intro x hx
          rw [hold x hx, List.idxOf_append, if_neg ha]
          exact Nat.lt_of_lt_of_le
            (List.idxOf_lt_length_of_mem (List.mem_eraseDups.mp hx))
            (Nat.le_add_left _ _)
        have hnew : ([a].removeAll l).eraseDups = [a] := by
          simp [List.removeAll, ha, List.eraseDups_cons]
        rw [hnew, List.pairwise_append]
        exact ⟨hkept, List.pairwise_singleton _ _, by simpa using hlast⟩

namespace TruthTable

/-- Whether the column of an atom is true. -/
def Assigns (t : TruthTable) (values : List Bool) (x : String) : Prop :=
  values[t.terms.idxOf x]? = some true

/-- A table of a propositional formula whose columns are its terms. -/
def WellFormed (t : TruthTable) : Prop :=
  t.formula.isPropositional = true ∧ t.terms = t.formula.terms

theorem wellFormed_of_ofFormula? {f : Formula} {t : TruthTable}
    (h : ofFormula? f = some t) :
    t.formula = f ∧ t.WellFormed := by
  rw [ofFormula?] at h
  split at h
  · next hf =>
    obtain rfl := Option.some.inj h
    exact ⟨rfl, hf, rfl⟩
  · exact absurd h (by simp)

variable {t : TruthTable}

/-!
# Rows
-/

/-- Every list of the right length has its row, and its result is the truth
value. -/
theorem exists_row (ht : t.WellFormed) {values : List Bool}
    (hlength : values.length = t.terms.length) :
    ∃ result, t.row values = .ok ⟨values, result⟩ ∧
      (result = true ↔ t.formula.Holds (t.Assigns values)) := by
  have hlength' : t.formula.terms.length = values.length := by
    rw [← ht.2, hlength]
  obtain ⟨result, hresult, hholds⟩ :=
    Formula.evaluate_eq_ok hlength' (Formula.isPassable_terms ht.1)
  rw [← ht.2] at hresult hholds
  exact ⟨result, by rw [row, hresult]; rfl, hholds⟩

/-- The row of a number, with an arbitrary result if there were none. -/
def rowOf (t : TruthTable) (k : Nat) : Row :=
  match t.row (digits t.terms.length k) with
  | .ok r => r
  | .error _ => ⟨[], false⟩

theorem row_digits (ht : t.WellFormed) (k : Nat) :
    t.row (digits t.terms.length k) = .ok (t.rowOf k) ∧
      (t.rowOf k).values = digits t.terms.length k ∧
      ((t.rowOf k).result = true ↔
        t.formula.Holds (t.Assigns (t.rowOf k).values)) := by
  obtain ⟨result, hrow, hholds⟩ :=
    exists_row ht (length_digits t.terms.length k)
  rw [rowOf, hrow]
  exact ⟨rfl, rfl, hholds⟩

/-- The values of the row of a number, if it has that many digits. -/
def stateAt (t : TruthTable) (k : Nat) : Option (List Bool) :=
  if k < 2 ^ t.terms.length then some (digits t.terms.length k) else none

theorem firstValues_eq (t : TruthTable) : some t.firstValues = t.stateAt 0 := by
  have hlength : t.firstValues.length = t.terms.length := List.length_map _
  have hdigits := eq_digits t.firstValues
  rw [hlength, firstValues, number_map_false] at hdigits
  rw [stateAt, if_pos (Nat.two_pow_pos _), firstValues, hdigits]

def allRows (t : TruthTable) : List Row :=
  (List.range (2 ^ t.terms.length)).map t.rowOf

theorem length_allRows (t : TruthTable) :
    t.allRows.length = 2 ^ t.terms.length := by
  simp [allRows]

theorem getElem?_allRows (t : TruthTable) (k : Nat) :
    t.allRows[k]? =
      if k < 2 ^ t.terms.length then some (t.rowOf k) else none := by
  by_cases hk : k < 2 ^ t.terms.length
  · simp [allRows, hk]
  · simp [allRows, hk]

/-- One step takes the row of a number and goes on to the next number. -/
theorem nextRow_stateAt (ht : t.WellFormed) (k : Nat) :
    t.nextRow (t.stateAt k) = .ok (t.allRows[k]?, t.stateAt (k + 1)) := by
  rw [getElem?_allRows, stateAt]
  by_cases hk : k < 2 ^ t.terms.length
  · rw [if_pos hk, if_pos hk, nextRow, (row_digits ht k).1, stateAt,
      ← nextAssignment?_digits hk]
    rfl
  · rw [if_neg hk, if_neg hk, stateAt, if_neg (by omega)]
    rfl

/-- What asking for a row comes to after `k` rows have been asked for. -/
def request (t : TruthTable) :
    (k : Nat) → Except EvaluationError (Option Row × Option (List Bool))
  | 0 => t.nextRow (some t.firstValues)
  | k + 1 => do
    let (_, rest) ← t.request k
    t.nextRow rest

theorem request_eq (ht : t.WellFormed) (k : Nat) :
    t.request k = .ok (t.allRows[k]?, t.stateAt (k + 1)) := by
  induction k with
  | zero => rw [request, firstValues_eq, nextRow_stateAt ht]
  | succ k ih =>
      rw [request, ih]
      exact nextRow_stateAt ht (k + 1)

theorem collectRows_eq (ht : t.WellFormed) (limit : Nat) : ∀ k done,
    t.collectRows limit (t.stateAt k) done =
      .ok (done.reverse ++ (t.allRows.drop k).take limit) := by
  induction limit with
  | zero => simp [collectRows]
  | succ limit ih =>
      intro k done
      rw [collectRows, nextRow_stateAt ht]
      cases hrow : t.allRows[k]? with
      | none =>
          have hend : t.allRows.drop k = [] :=
            List.drop_eq_nil_of_le (List.getElem?_eq_none_iff.mp hrow)
          rw [hend]
          simp [bind, Except.bind]
      | some r =>
          obtain ⟨hk, hr⟩ := List.getElem?_eq_some_iff.mp hrow
          rw [List.drop_eq_getElem_cons hk, hr, List.take_succ_cons]
          have hnext := ih (k + 1) (r :: done)
          rw [List.reverse_cons, List.append_assoc] at hnext
          exact hnext

theorem firstRows_eq (ht : t.WellFormed) (limit : Nat) :
    t.firstRows limit = .ok (t.allRows.take limit) := by
  rw [firstRows, firstValues_eq, collectRows_eq ht, List.drop_zero]
  rfl

theorem rows_eq (ht : t.WellFormed) : t.rows = .ok t.allRows := by
  have hpow : Nat.pow 2 t.terms.length = t.allRows.length :=
    t.length_allRows.symm
  rw [rows, firstRows_eq ht, hpow, List.take_length]

/-- Exactly the propositional formulas have a table. It has a column for each
identifier, once, in the order of first appearance. It has a row for each binary
number of as many digits, in order, and no further one however often it is asked
for, and each result is the classical truth value. -/
theorem table_complete (f : Formula) :
    ((ofFormula? f).isSome = true ↔ ∀ g ∈ f.subformulas, ¬g.IsFirstOrder) ∧
      ∀ t, ofFormula? f = some t →
        (t.terms.Nodup ∧ (∀ x, x ∈ t.terms ↔ x ∈ f.leaves) ∧
          t.terms.Pairwise fun x y => f.leaves.idxOf x < f.leaves.idxOf y) ∧
        ∃ rows : List Row, rows.length = 2 ^ t.terms.length ∧
          t.rows = .ok rows ∧
          (∀ limit, t.firstRows limit = .ok (rows.take limit)) ∧
          (∀ k, ∃ rest, t.request k = .ok (rows[k]?, rest)) ∧
          ∀ (k : Nat) (r : Row), rows[k]? = some r →
            r.values.length = t.terms.length ∧
            (∀ i < t.terms.length,
              r.values[i]? = some (k.testBit (t.terms.length - 1 - i))) ∧
            (r.result = true ↔ f.Holds (t.Assigns r.values)) := by
  constructor
  · rw [← Formula.isPropositional_iff, ofFormula?]
    by_cases hf : f.isPropositional = true
    · simp [hf]
    · simp [hf]
  · intro t hft
    obtain ⟨rfl, ht⟩ := wellFormed_of_ofFormula? hft
    have hterms : t.terms = t.formula.leaves.eraseDups := by
      rw [ht.2, Formula.terms, Formula.atoms_eq_leaves ht.1]
    have horder := pairwise_idxOf_eraseDups t.formula.leaves
    rw [← hterms] at horder
    refine ⟨⟨?_, fun x => ?_, horder⟩, t.allRows, t.length_allRows, rows_eq ht,
      firstRows_eq ht, fun k => ⟨_, request_eq ht k⟩, fun k r hr => ?_⟩
    · refine List.Pairwise.imp ?_ horder
      rintro x y hlt rfl
      exact Nat.lt_irrefl _ hlt
    · rw [hterms]
      exact List.mem_eraseDups
    · rw [getElem?_allRows] at hr
      split at hr
      · obtain rfl := Option.some.inj hr
        obtain ⟨-, hvalues, hholds⟩ := row_digits ht k
        refine ⟨?_, fun i hi => ?_, hholds⟩
        · rw [hvalues, length_digits]
        · rw [hvalues, getElem?_digits k hi]
      · exact absurd hr (by simp)

theorem table_complete_converse :
    let f : Formula :=
      .binary .impliedBy (.symbol "a" Formula.noSpan)
        (.call "b" [] Formula.noSpan) Formula.noSpan
    ∃ t rows, ofFormula? f = some t ∧ t.terms = ["a", "b"] ∧ t.rows = .ok rows ∧
      rows.length = 4 ∧ ∀ r, rows[1]? = some r →
        (r.result = true ↔ f.Holds (t.Assigns r.values)) := by
  intro f
  have ht : ofFormula? f = some ⟨f, ["a", "b"]⟩ := rfl
  obtain ⟨rows, hlength, hrows, -, -, hrow⟩ := ((table_complete f).2 _ ht).2
  exact ⟨_, rows, ht, rfl, hrows, hlength, fun r hr => (hrow 1 r hr).2.2⟩

end TruthTable

end PredicateLogic
