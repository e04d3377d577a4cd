import PredicateLogic.Report.Check

/-!
# What a check finds

The verdict of a check is that of reading and, where analysis is asked for, that
of the analysis. What happened on the way makes no difference to it.
-/

namespace PredicateLogic

/-- A check reads the text and then analyzes the formula, if asked to. -/
theorem check_eq (text : String) (analyzing : Bool) :
    check text analyzing =
      match Formula.parse text with
      | .error e => .error (.malformed e)
      | .ok f =>
        if analyzing then
          match f.analyze with
          | .error e => .error (.inconsistent e)
          | .ok roles => .ok ⟨f, some roles⟩
        else .ok ⟨f, none⟩ := by
  rw [check, examine, Formula.parse]
  generalize (Session.ofText text).read = call
  obtain ⟨result, session⟩ := call
  cases result with
  | error e => rfl
  | ok f =>
      cases analyzing with
      | false => rfl
      | true =>
          simp only [if_true]
          cases f.analyze <;> rfl

/-- A formula passes the checks if it is read from the text and, if asked for,
its analysis finds roles. -/
theorem check_eq_ok_iff {text : String} {analyzing : Bool} {c : Checked} :
    check text analyzing = .ok c ↔
      Formula.parse text = .ok c.formula ∧
        ((analyzing = false ∧ c.roles = none) ∨
          (analyzing = true ∧ ∃ roles, c.formula.analyze = .ok roles ∧
            c.roles = some roles)) := by
  obtain ⟨formula, roles⟩ := c
  rw [check_eq]
  cases Formula.parse text with
  | error e => simp
  | ok f =>
      cases analyzing with
      | false => simp [eq_comm]
      | true =>
          constructor
          · intro h
            simp only [if_true] at h
            cases hanalyze : f.analyze with
            | error e => simp [hanalyze] at h
            | ok found =>
                obtain ⟨rfl, rfl⟩ : f = formula ∧ some found = roles := by
                  simpa [hanalyze] using h
                exact ⟨rfl, .inr ⟨rfl, found, hanalyze, rfl⟩⟩
          · rintro ⟨hf, ⟨hanalyzing, -⟩ | ⟨-, found, hanalyze, rfl⟩⟩
            · exact Bool.noConfusion hanalyzing
            · obtain rfl := Except.ok.inj hf
              simp only at hanalyze
              simp [hanalyze]

end PredicateLogic
