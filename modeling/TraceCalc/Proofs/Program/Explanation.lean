/-
This file shows that the label of every record is a source whose run gives the record again.
-/

import TraceCalc.Proofs.Environment
import TraceCalc.Proofs.Expr.Explanation

namespace TraceCalc

/-- Only names that occur are kept. -/
theorem Name.mem_of_mem_distinctFrom {seen names : List String} {name : String}
    (member : name ∈ distinctFrom seen names) : name ∈ names := by
  induction names generalizing seen with
  | nil => simp [distinctFrom] at member
  | cons first rest inductionHypothesis =>
      rw [distinctFrom] at member
      split at member
      next => exact List.mem_cons_of_mem _ (inductionHypothesis member)
      next =>
          rcases List.mem_cons.mp member with rfl | later
          · exact List.mem_cons_self
          · exact List.mem_cons_of_mem _ (inductionHypothesis later)

/-- An environment that binds the parameters of an expression binds those of its nodes. -/
theorem Environment.Binds.of_mem_operatorNodes {environment : Environment} {expr node : Expr}
    (bound : environment.Binds expr.parameters) (member : node ∈ expr.operatorNodes) :
    environment.Binds node.parameters := by
  intro name parameter
  have occurs := Expr.mem_references_of_mem_operatorNodes member
    (Name.mem_of_mem_distinctFrom parameter)
  obtain ⟨kept, found, same⟩ := Name.exists_mem_distinct occurs
  rw [← environment.get?_congr same]
  exact bound kept found

namespace Program

/-- The program of a source calculates its expression with the values of any environment. -/
theorem exists_build_of_parse {source : String} {expr : Expr}
    (success : Expr.parse source = .ok expr) :
    ∃ program, build source = .ok program ∧ program.parameters = expr.parameters ∧
      ∀ environment : Environment,
        program.run (expr.parameters.map environment.valueOf) =
          expr.evaluate environment.valueOf := by
  have signed := (Expr.isCanonical_of_parse success).isWritable.isSigned
  have covered := expr.isCovered_parameters
  obtain ⟨segment, lowered⟩ := expr.exists_lowerFrom signed covered 0
  refine ⟨⟨expr.parameters, segment.instructions, segment.labels⟩, ?_, rfl, ?_⟩
  · rw [build, success]
    simp only [Except.bind, ofExpr, lowered]
    rfl
  · intro environment
    rw [run_ofSegment covered lowered (by rw [List.length_map])]
    exact Expr.evaluate_congr fun name occurs =>
      environment.argumentOf_map_valueOf (covered name occurs)

/--
Every record of a run explains itself, also before a fault. Its label is the source of a program,
and the run of this program in the same environment gives the value of the record and makes again
the records that end with it, one for each operator of the node that the label shows.
-/
theorem build_label {source : String} {program : Program} (built : build source = .ok program)
    (environment : Environment) (bound : environment.Binds program.parameters) :
    ∃ expr, Expr.parse source = .ok expr ∧
      ∀ (index : Nat) (record : Record),
        (environment.run program).records[index]? = some record →
        ∃ node explanation arguments before behind,
          expr.operatorNodes[index]? = some node ∧ Expr.parse record.label = .ok node ∧
          build record.label = .ok explanation ∧
          environment.bind explanation.parameters = .ok arguments ∧
          (explanation.run arguments).result = .ok record.value ∧
          (environment.run program).records =
            before ++ (explanation.run arguments).records ++ behind ∧
          (explanation.run arguments).records.length = node.operatorNodes.length ∧
          before.length + node.operatorNodes.length = index + 1 := by
  obtain ⟨expr, success, _⟩ := build_eq_ok built
  obtain ⟨_, same, parameters, evaluated⟩ := exists_build_of_parse success
  obtain rfl := Except.ok.inj (built.symm.trans same)
  refine ⟨expr, success, fun index record found => ?_⟩
  have canonical := Expr.isCanonical_of_parse success
  rw [environment.run_eq, bound.find?_eq_none, parameters] at found ⊢
  simp only [evaluated] at found ⊢
  obtain ⟨inside, _⟩ := List.getElem?_eq_some_iff.mp found
  obtain ⟨node, block, value, place, recorded, result, initial, split⟩ :=
    Expr.areRecorded_evaluate environment.valueOf canonical.isWritable.isSigned index inside
  obtain rfl := Option.some.inj (recorded.symm.trans found)
  have member := List.mem_of_getElem? place
  have nodeCanonical := canonical.of_mem_operatorNodes member
  have reread := nodeCanonical.parse_text_eq_ok
  obtain ⟨explanation, rebuilt, own, again⟩ := exists_build_of_parse reread
  rw [parameters] at bound
  have nodeBound := bound.of_mem_operatorNodes member
  have counted := Expr.length_records_evaluate nodeCanonical.isWritable.isSigned result
  have total := congrArg List.length split
  rw [List.length_append, List.length_take, counted] at total
  refine ⟨node, explanation, _, initial,
    (expr.evaluate environment.valueOf).records.drop (index + 1), place, reread, rebuilt,
    (own ▸ nodeBound).bind_eq_ok, ?_, ?_, ?_, ?_⟩
  · rw [own, again, result]
  · rw [own, again, result, split, List.take_append_drop]
  · rw [own, again, result, counted]
  · omega

set_option maxRecDepth 8000 in
/-- A record before a division by zero is explained under other spellings of its variables. -/
theorem build_label_of_spellings :
    let environment := (Environment.empty.insert "X" 2).insert "y" 5
    let quotient := Program.mk ["x", "y"]
      [.load 0, .const 1, .combine .plus, .trace 0, .load 0, .combine .times, .trace 1, .load 1,
        .load 1, .combine .minus, .trace 2, .combine .divide, .trace 3]
      ["(x+1)", "(x+1)*X", "(y-Y)", "(x+1)*X/(y-Y)"]
    build "(x + 1)*X/(y-Y)" = .ok quotient ∧ environment.Binds quotient.parameters ∧
      (environment.run quotient).result = .error (.divisionByZero 6) ∧
      ∃ explanation arguments before behind, build "(x+1)*X" = .ok explanation ∧
        environment.bind explanation.parameters = .ok arguments ∧
        (explanation.run arguments).result = .ok 6 ∧
        (environment.run quotient).records =
          before ++ (explanation.run arguments).records ++ behind ∧
        before.length + (explanation.run arguments).records.length = 2 := by
  intro environment quotient
  have built : build "(x + 1)*X/(y-Y)" = .ok quotient := by cbv
  have bound : environment.Binds quotient.parameters := by decide +kernel
  have found : (environment.run quotient).records[1]? = some ⟨"(x+1)*X", 6⟩ := by decide +kernel
  have fault : (environment.run quotient).result = .error (.divisionByZero 6) := by decide +kernel
  obtain ⟨_, _, explained⟩ := build_label built environment bound
  obtain ⟨_, explanation, arguments, before, behind, _, _, rebuilt, bindings, value, split, counted,
    place⟩ := explained 1 _ found
  exact ⟨built, bound, fault, explanation, arguments, before, behind, rebuilt, bindings, value,
    split, counted ▸ place⟩

end Program

end TraceCalc
