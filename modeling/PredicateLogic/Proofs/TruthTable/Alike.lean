import PredicateLogic.TruthTable.Layout

/-!
# Tables that are alike

Two truth tables are alike if they have the same terms and their formulas have
the same truth value, or the same fault, under every assignment. Then everything
that is computed from them row by row is the same.
-/

namespace PredicateLogic.TruthTable

/-- The tables have the same terms, and their formulas evaluate in the same
way. -/
structure Alike (t u : TruthTable) : Prop where
  terms : t.terms = u.terms
  truth : ∀ assignment, t.formula.truth assignment = u.formula.truth assignment

variable {t u : TruthTable}

theorem Alike.row (h : t.Alike u) (values : List Bool) :
    t.row values = u.row values := by
  rw [TruthTable.row, TruthTable.row, Formula.evaluate, Formula.evaluate,
    h.terms, h.truth]

theorem Alike.nextRow (h : t.Alike u) (values : Option (List Bool)) :
    t.nextRow values = u.nextRow values := by
  cases values with
  | none => rfl
  | some values => rw [TruthTable.nextRow, TruthTable.nextRow, h.row]

theorem Alike.collectRows (h : t.Alike u) (limit : Nat)
    (values : Option (List Bool)) (done : List Row) :
    t.collectRows limit values done = u.collectRows limit values done := by
  induction limit generalizing values done with
  | zero => rfl
  | succ limit ih =>
      rw [TruthTable.collectRows, TruthTable.collectRows, h.nextRow]
      simp only [ih]

theorem Alike.firstRows (h : t.Alike u) (limit : Nat) :
    t.firstRows limit = u.firstRows limit := by
  rw [TruthTable.firstRows, TruthTable.firstRows, firstValues, firstValues,
    h.terms, h.collectRows]

theorem Alike.rows (h : t.Alike u) : t.rows = u.rows := by
  rw [TruthTable.rows, TruthTable.rows, h.terms, h.firstRows]

/-- Tables that are alike are laid out alike. -/
theorem Alike.ofTable (h : t.Alike u) :
    Tabulation.ofTable t = Tabulation.ofTable u := by
  rw [Tabulation.ofTable, Tabulation.ofTable, h.rows, h.terms]

end PredicateLogic.TruthTable
