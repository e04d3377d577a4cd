import PredicateLogic.Proofs.Formula.Binding
import PredicateLogic.Proofs.Role.Site
import PredicateLogic.Role.Analysis

/-!
# Analysis without spans

An analysis looks at the spans of occurrences only to say where a misuse is.
Without spans it takes the same steps, and ends with the same roles or with the
same misuse.
-/

namespace PredicateLogic

/-- Two outcomes that agree once their errors are replaced are one result or two
errors. -/
theorem cases_of_mapError_eq {ε ε' α : Type} {replace : ε → ε'}
    {x y : Except ε α} (h : x.mapError replace = y.mapError replace) :
    (∃ a, x = .ok a ∧ y = .ok a) ∨
      ∃ e e', x = .error e ∧ y = .error e' ∧ replace e = replace e' := by
  cases x <;> cases y <;> simp_all [Except.mapError]

/-- The occurrence without its span. -/
def Occurrence.bare (o : Occurrence) : Occurrence :=
  { o with span := Formula.noSpan }

/-- The error without the place. -/
def AnalysisError.bare (e : AnalysisError) : AnalysisError :=
  { e with span := Formula.noSpan }

theorem AnalysisError.message_bare (e : AnalysisError) :
    e.bare.message = e.message :=
  rfl

namespace Analysis

/-- The progress without the place of an error. -/
def bare (a : Analysis) : Analysis :=
  { a with error := a.error.map AnalysisError.bare }

theorem survey_map_bare (recorded : List (String × Role))
    (os : List Occurrence) :
    survey recorded (os.map Occurrence.bare) = (survey recorded os).bare := by
  induction os generalizing recorded with
  | nil => rfl
  | cons o os ih =>
      have hmisuse : misuse? recorded o.bare = misuse? recorded o := rfl
      have hrecord : record recorded o.bare = record recorded o := rfl
      rw [List.map_cons, survey, survey, hmisuse, hrecord]
      cases misuse? recorded o with
      | none => exact ih _
      | some m => rfl

end Analysis

namespace Formula

theorem occurrences_bare (f : Formula) : ∀ binders position,
    f.bare.occurrences binders position =
      (f.occurrences binders position).map Occurrence.bare := by
  induction f using structural with
  | symbol n s => exact fun _ _ => rfl
  | negation a s ih => exact fun _ _ => ih _ _
  | binary op a b s iha ihb =>
      intro binders position
      rw [bare, occurrences, occurrences, iha, ihb, List.map_append]
  | quantified q x a s ih => exact fun _ _ => ih _ _
  | call n as s ih =>
      intro binders position
      have harguments : argumentOccurrences binders (bareAll as) =
          (argumentOccurrences binders as).map Occurrence.bare := by
        rw [argumentOccurrences_eq_flatMap, argumentOccurrences_eq_flatMap,
          bareAll_eq_map, List.flatMap_map, List.map_flatMap]
        exact List.flatMap_congr fun a ha => ih a ha binders .term
      rw [bare, occurrences, occurrences, harguments, bareAll_eq_map,
        List.length_map, List.map_cons]
      rfl

theorem binders_bare (f : Formula) : f.bare.binders = f.binders := by
  induction f using structural with
  | symbol n s => rfl
  | negation a s ih => exact ih
  | binary op a b s iha ihb => rw [bare, binders, binders, iha, ihb]
  | quantified q x a s ih => rw [bare, binders, binders, ih]
  | call n as s ih =>
      rw [bare, binders, binders, bindersAll_eq_flatMap, bindersAll_eq_flatMap,
        bareAll_eq_map, List.flatMap_map]
      exact List.flatMap_congr ih

theorem survey_bare (f : Formula) : f.bare.survey = f.survey.bare := by
  rw [survey, survey, occurrences_bare, Analysis.survey_map_bare]

/-- Without spans there are the same roles, or the same error apart from its
place. -/
theorem analyze_bare (f : Formula) :
    f.bare.analyze = f.analyze.mapError AnalysisError.bare := by
  rw [analyze, analyze, survey_bare, binders_bare, Analysis.bare]
  cases f.survey.error <;> rfl

/-- Of the same formulas, either both have the same roles or the same message
tells what is wrong with both. -/
theorem analyze_of_same {f g : Formula} (h : f.same g = true) :
    (∃ roles, f.analyze = .ok roles ∧ g.analyze = .ok roles) ∨
      ∃ e e', f.analyze = .error e ∧ g.analyze = .error e' ∧
        e.message = e'.message := by
  have hmapped : f.analyze.mapError AnalysisError.bare =
      g.analyze.mapError AnalysisError.bare := by
    rw [← analyze_bare, ← analyze_bare, (same_iff_bare f g).mp h]
  rcases cases_of_mapError_eq hmapped with hroles | ⟨e, e', hf, hg, hbare⟩
  · exact .inl hroles
  · refine .inr ⟨e, e', hf, hg, ?_⟩
    rw [← e.message_bare, hbare, e'.message_bare]

end Formula

end PredicateLogic
