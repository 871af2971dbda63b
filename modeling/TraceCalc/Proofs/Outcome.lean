/-
This file shows in which order the defects of a request to evaluate are reported.
-/

import TraceCalc.Outcome
import TraceCalc.Proofs.Environment
import TraceCalc.Proofs.Expr.Explanation
import TraceCalc.Proofs.Program.Explanation

namespace TraceCalc

/-- The last binding of a variable counts, in any spelling. -/
def lastBinding? (bindings : List (String × Int64)) (name : String) : Option Int64 :=
  (bindings.reverse.find? fun binding => Name.fold binding.1 = Name.fold name).map Prod.snd

/-- The first name in the list that no binding gives a value. -/
def firstUnbound? (bindings : List (String × Int64)) (names : List String) : Option String :=
  names.find? fun name => (lastBinding? bindings name).isNone

namespace Environment

/-- A later binding replaces an earlier one, and the values from before are kept otherwise. -/
theorem get?_insertMany (environment : Environment) (bindings : List (String × Int64))
    (name : String) :
    (environment.insertMany bindings).get? name =
      (lastBinding? bindings name).or (environment.get? name) := by
  induction bindings generalizing environment with
  | nil => rfl
  | cons binding rest inductionHypothesis =>
      have moved : environment.insertMany (binding :: rest) =
          (environment.insert binding.1 binding.2).insertMany rest := rfl
      rw [moved, inductionHypothesis, get?_insert, lastBinding?, lastBinding?, List.reverse_cons,
        List.find?_append]
      cases rest.reverse.find? fun later => Name.fold later.1 = Name.fold name with
      | some later => rfl
      | none =>
          by_cases same : Name.fold name = Name.fold binding.1
          · simp [same]
          · simp [same, Ne.symm same]

theorem get?_empty_insertMany (bindings : List (String × Int64)) (name : String) :
    (empty.insertMany bindings).get? name = lastBinding? bindings name := by
  rw [get?_insertMany, get?_empty, Option.or_none]

/-- The first parameter without a value is the leftmost variable without one. -/
theorem find?_parameters (bindings : List (String × Int64)) (expr : Expr) :
    (expr.parameters.find? fun name => ((empty.insertMany bindings).get? name).isNone) =
      firstUnbound? bindings expr.references := by
  simp only [get?_empty_insertMany]
  refine Name.find?_distinctFrom (fun name other same => ?_) (fun name known => ?_)
  · rw [lastBinding?, lastBinding?, same]
  · simp at known

end Environment

/-- A fault keeps the lines of the records and adds none. -/
theorem Run.outcome_of_error (records : List Record) (error : Error) :
    (Run.mk records (.error error)).outcome = ⟨recordLines records, none, some error⟩ := by
  simp [outcome, Outcome.after, Outcome.ofFailure]

section Phases

variable {source : String} {bindings : List (String × Int64)} {expr : Expr}

theorem evaluate_of_parse_eq_error {error : Error} (failure : Expr.parse source = .error error) :
    evaluate source bindings = .ofFailure error := by
  rw [evaluate, Program.build, failure]
  rfl

/-- The tokens before the one that is reported are viable, and with it they are not. -/
theorem evaluate_of_not_isDenotedBy {tokens : List Token}
    (scanned : Token.ofSource source = .ok tokens)
    (refused : ∀ expr, ¬ Expr.IsDenotedBy source expr) :
    ∃ mismatch before behind, tokens = before ++ mismatch.found :: behind ∧
      Expr.IsViable (before.map Token.kind) ∧
      ¬ Expr.IsViable ((before ++ [mismatch.found]).map Token.kind) ∧
      evaluate source bindings = .ofFailure (.misplacedToken mismatch source) := by
  cases read : Expr.parse source with
  | ok expr => exact absurd (Expr.parse_eq_ok_iff.mp read) (refused expr)
  | error error =>
      obtain ⟨mismatch, rfl, rejected⟩ := Expr.isRejected_of_parse scanned read
      obtain ⟨inner, rfl, _⟩ := Token.ofSource_eq_ok scanned
      obtain ⟨before, found, behind, reached, split, ran, missing, reported⟩ :=
        Expr.exists_found_of_isRejected rejected
      obtain ⟨rfl, _⟩ := Expr.explains_of_run? ran reported
      refine ⟨mismatch, before, behind, split, Expr.isViable_iff.mpr ⟨reached, ran⟩, ?_,
        evaluate_of_parse_eq_error read⟩
      rw [List.map_append]
      exact Expr.not_isViable_concat ran missing

/-- The variables are looked up before the expression is evaluated. -/
theorem evaluate_of_isDenotedBy (denoted : Expr.IsDenotedBy source expr) :
    evaluate source bindings =
      match firstUnbound? bindings expr.references with
      | some name => .ofFailure (.unbound name)
      | none => (expr.evaluate fun name => (lastBinding? bindings name).getD 0).outcome := by
  obtain ⟨program, built, parameters, ran⟩ :=
    Program.exists_build_of_parse (Expr.parse_eq_ok_iff.mpr denoted)
  have values : (Environment.empty.insertMany bindings).valueOf =
      fun name => (lastBinding? bindings name).getD 0 := by
    funext name
    rw [Environment.valueOf, Environment.get?_empty_insertMany]
  rw [evaluate, built]
  dsimp only
  rw [Environment.run_eq, parameters, Environment.find?_parameters, ran, values]
  cases firstUnbound? bindings expr.references <;> rfl

end Phases

/--
A request to evaluate reports the first defect in the order of the phases: the leftmost defect of
the text, the first misplaced token, the leftmost variable without a value, and the first division
in post-order that fails. Only then are there records, one for each operator before that division;
without any defect there is one for each operator, and the result comes behind them.
-/
theorem evaluate_reports_first_defect (source : String) (bindings : List (String × Int64)) :
    (∀ error, Token.ofSource source = .error error →
      ∃ before behind tokens, source.toList = before ++ behind ∧
        Token.Tokenizes [] before tokens ∧ error.IsDefect before behind ∧
        evaluate source bindings = .ofFailure error) ∧
    (∀ tokens, Token.ofSource source = .ok tokens → (∀ expr, ¬ Expr.IsDenotedBy source expr) →
      ∃ mismatch before behind, tokens = before ++ mismatch.found :: behind ∧
        Expr.IsViable (before.map Token.kind) ∧
        ¬ Expr.IsViable ((before ++ [mismatch.found]).map Token.kind) ∧
        evaluate source bindings = .ofFailure (.misplacedToken mismatch source)) ∧
    ∀ expr, Expr.IsDenotedBy source expr →
      (∀ name, firstUnbound? bindings expr.references = some name →
        evaluate source bindings = .ofFailure (.unbound name)) ∧
      (firstUnbound? bindings expr.references = none →
        let valuation := fun name => (lastBinding? bindings name).getD 0
        ∃ records, (∃ error before node behind,
            expr.operatorNodes = before ++ node :: behind ∧
            List.Forall₂ (Expr.IsShownBy valuation) before records ∧
            node.IsFault valuation error ∧ error.phase = .calculating ∧
            evaluate source bindings = ⟨recordLines records, none, some error⟩) ∨
          ∃ value, List.Forall₂ (Expr.IsShownBy valuation) expr.operatorNodes records ∧
            (expr.evaluate valuation).result = .ok value ∧
            evaluate source bindings = .ofOutput
              (recordLines records ++ ("result = " ++ Text.Decimal.write value ++ "\n"))) := by
  refine ⟨fun error failure => ?_, fun tokens scanned refused => ?_, fun expr denoted => ⟨?_, ?_⟩⟩
  · obtain ⟨before, behind, split, defect, fits⟩ := Token.exists_defect_of_ofSource failure
    exact ⟨before, behind, _, split, fits, defect,
      evaluate_of_parse_eq_error (Expr.parse_of_ofSource_eq_error failure).1⟩
  · exact evaluate_of_not_isDenotedBy scanned refused
  · intro name found
    rw [evaluate_of_isDenotedBy denoted, found]
  · intro bound valuation
    have ran : evaluate source bindings = _ := evaluate_of_isDenotedBy denoted
    rw [bound] at ran
    have signed := (Expr.isCanonical_of_parse
      (Expr.parse_eq_ok_iff.mpr denoted)).isWritable.isSigned
    cases evaluated : expr.evaluate valuation with
    | mk records result =>
        simp only [valuation] at evaluated
        simp only [evaluated] at ran
        refine ⟨records, ?_⟩
        cases result with
        | error error =>
            obtain ⟨before, node, behind, split, shown, fault⟩ :=
              Expr.exists_fault_of_evaluate signed evaluated
            rw [Run.outcome_of_error] at ran
            exact .inl ⟨error, before, node, behind, split, shown, fault, fault.phase_eq, ran⟩
        | ok value =>
            exact .inr ⟨value, Expr.forall₂_operatorNodes_of_evaluate signed evaluated, rfl, ran⟩

set_option maxRecDepth 8000 in
/-- Of two defects the earlier phase counts, and a fault keeps the records that were made before. -/
theorem evaluate_reports_first_defect_of_pairs :
    let quotient := Expr.binary false .divide 20
      (.unary false .minus (.reference false "y")) (.reference false "X")
    let bindings := [("X", 2), ("Y", 3), ("x", 0)]
    evaluate ")+#" [] = .ofFailure (.unexpectedCharacter '#' 2) ∧
      (∃ mismatch, evaluate "1/0+)" [] = .ofFailure (.misplacedToken mismatch "1/0+)")) ∧
      evaluate "1/0+y*X" [("x", 1)] = .ofFailure (.unbound "y") ∧
      (∃ error before node behind, quotient.operatorNodes = before ++ node :: behind ∧
        node.IsFault (fun name => (lastBinding? bindings name).getD 0) error) ∧
      evaluate "-y/X" bindings = ⟨"-y = -3\n", none, some (.divisionByZero (-3))⟩ := by
  intro quotient bindings
  have defect : Token.ofSource ")+#" = .error (.unexpectedCharacter '#' 2) := by cbv
  have scanned : Token.ofSource "1/0+)" = .ok [⟨.number "1" 1, 0⟩, ⟨.symbol .divide, 1⟩,
      ⟨.number "0" 0, 2⟩, ⟨.symbol .plus, 3⟩, ⟨.closing, 4⟩, Token.finish 5] := by cbv
  have refused : ∀ expr, ¬ Expr.IsDenotedBy "1/0+)" expr := by
    intro expr denoted
    have failure : Expr.parse "1/0+)" =
        .error (.misplacedToken (.operand ⟨.closing, 4⟩) "1/0+)") := by cbv
    rw [Expr.parse_eq_ok_iff.mpr denoted] at failure
    simp at failure
  have sum : Expr.IsDenotedBy "1/0+y*X" (.binary false .plus 10
      (.binary false .divide 20 (.number false 1) (.number false 0))
      (.binary false .times 20 (.reference false "y") (.reference false "X"))) :=
    Expr.parse_eq_ok_iff.mp (by cbv)
  have denoted : Expr.IsDenotedBy "-y/X" quotient := Expr.parse_eq_ok_iff.mp (by cbv)
  have fault : evaluate "-y/X" bindings =
      ⟨"-y = -3\n", none, some (.divisionByZero (-3))⟩ := by cbv
  obtain ⟨_, _, _, _, _, _, defective⟩ := (evaluate_reports_first_defect ")+#" []).1 _ defect
  obtain ⟨mismatch, _, _, _, _, _, misplaced⟩ :=
    (evaluate_reports_first_defect "1/0+)" []).2.1 _ scanned refused
  have unbound := ((evaluate_reports_first_defect "1/0+y*X" [("x", 1)]).2.2 _ sum).1 "y"
    (by decide +kernel)
  obtain ⟨_, ⟨error, before, node, behind, split, _, stopped, _⟩ | ⟨value, _, _, success⟩⟩ :=
    ((evaluate_reports_first_defect "-y/X" bindings).2.2 _ denoted).2 (by decide +kernel)
  · exact ⟨defective, ⟨mismatch, misplaced⟩, unbound,
      ⟨error, before, node, behind, split, stopped⟩, fault⟩
  · rw [fault] at success
    simp [Outcome.ofOutput] at success

end TraceCalc
