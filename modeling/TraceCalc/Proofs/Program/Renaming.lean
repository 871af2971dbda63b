/-
This file shows that the names of variables do not matter to a program and its runs.
-/

import TraceCalc.Proofs.Expr.Correspondence
import TraceCalc.Proofs.Name.Repetition
import TraceCalc.Proofs.Program.Safety

namespace TraceCalc

/-- A renaming of the parameters keeps the slots of the names. -/
theorem Expr.slot?_of_isRenaming {alike : String → String → Prop} {parameters others : List String}
    {name other : String} (renames : Name.IsRenaming alike)
    (places : List.Forall₂ alike parameters others) (names : alike name other) :
    slot? (parameters.map Name.fold) name = slot? (others.map Name.fold) other := by
  induction places with
  | nil => rfl
  | cons here _ inductionHypothesis =>
      rw [slot?, slot?] at inductionHypothesis
      rw [slot?, slot?, List.map_cons, List.map_cons, List.idxOf?_cons, List.idxOf?_cons,
        inductionHypothesis]
      simp only [beq_iff_eq]
      exact if_congr (renames _ _ _ _ here names) rfl rfl

/-- The runs give one result, and their records report the same values in one order. -/
structure Run.SameValues (run other : Run) : Prop where
  result : run.result = other.result
  values : run.records.map Record.value = other.records.map Record.value

namespace Program

section Labels

variable {labels others : List String}

/-- A step shows its label in a record and does nothing else with it. -/
theorem map_value_step (same : labels.length = others.length) (arguments stack : List Int64)
    (instruction : Instruction) :
    (instruction.step labels arguments stack).map
        (fun (next, records) => (next, records.map Record.value)) =
      (instruction.step others arguments stack).map
        (fun (next, records) => (next, records.map Record.value)) := by
  cases instruction with
  | const _ => rfl
  | load _ => rfl
  | negate => rfl
  | combine _ => rfl
  | trace label =>
      cases stack with
      | nil => rfl
      | cons value below =>
          by_cases inside : label < labels.length
          · have otherInside := same ▸ inside
            simp only [Instruction.step, List.getElem?_eq_getElem inside,
              List.getElem?_eq_getElem otherInside]
            rfl
          · have otherOutside := same ▸ inside
            simp only [Instruction.step, List.getElem?_eq_none (Nat.le_of_not_lt inside),
              List.getElem?_eq_none (Nat.le_of_not_lt otherOutside), same]

/-- A run does not depend on the text of its labels. -/
theorem sameValues_runFrom (same : labels.length = others.length) (arguments stack : List Int64)
    (code : List Instruction) :
    (runFrom labels arguments stack code).SameValues (runFrom others arguments stack code) := by
  induction code generalizing stack with
  | nil => cases stack <;> exact ⟨rfl, rfl⟩
  | cons instruction rest inductionHypothesis =>
      have stepped := map_value_step same arguments stack instruction
      rw [runFrom_cons, runFrom_cons]
      generalize instruction.step labels arguments stack = outcome at stepped ⊢
      generalize instruction.step others arguments stack = otherOutcome at stepped ⊢
      -- The outcomes are of one kind, since a label changes the text of a record only.
      rcases outcome with error | ⟨next, records⟩ <;>
        rcases otherOutcome with otherError | ⟨otherNext, otherRecords⟩
      · cases stepped
        exact ⟨rfl, rfl⟩
      · cases stepped
      · cases stepped
      · obtain ⟨rfl, values⟩ := Prod.mk.inj (Except.ok.inj stepped)
        obtain ⟨results, later⟩ := inductionHypothesis next
        refine ⟨results, ?_⟩
        simp only [Run.after, List.map_append, values, later]

end Labels

/--
Expressions that repeat their variables in the same places have the same code over their own
parameters, and with enough arguments it gives the same result and the same values on the way,
whatever the names are.
-/
theorem run_sameValues_of_samePattern {first second : Expr} {program other : Program}
    (lowered : ofExpr first first.parameters = .ok program)
    (otherLowered : ofExpr second second.parameters = .ok other)
    (form : first.Corresponds (fun _ _ => True) second)
    (pattern : Name.SamePattern first.references second.references) :
    program.instructions = other.instructions ∧
      program.parameters.length = other.parameters.length ∧
      program.labels.length = other.labels.length ∧ program.stackDepth = other.stackDepth ∧
      ∀ arguments, program.parameters.length ≤ arguments.length →
        (program.run arguments).IsRegular ∧
          (program.run arguments).SameValues (other.run arguments) := by
  have renamed : first.Corresponds
      (fun name renamed => (name, renamed) ∈ first.references.zip second.references) second :=
    form.of_zip fun _ member => member
  have places := pattern.isRenaming.forall₂_distinct renamed.forall₂_references
  obtain ⟨instructions, labels⟩ := ofExpr_congr renamed
    (Expr.slot?_of_isRenaming pattern.isRenaming places) lowered otherLowered
  have parameters : program.parameters.length = other.parameters.length := by
    obtain ⟨_, _, rfl⟩ := ofExpr_eq_ok lowered
    obtain ⟨_, _, rfl⟩ := ofExpr_eq_ok otherLowered
    exact places.length_eq
  refine ⟨instructions.symm, parameters, labels.symm, ?_, fun arguments enough => ?_⟩
  · rw [stackDepth, stackDepth, instructions]
  · refine ⟨(isWellFormed_of_ofExpr lowered).isRegular_run enough, ?_⟩
    rw [run_of_le enough, run_of_le (parameters ▸ enough), instructions]
    exact sameValues_runFrom labels.symm arguments [] _

/-- Other letters, also when one of them stood for another variable, leave the run as it is. -/
theorem run_sameValues_of_samePattern_of_product :
    let first := Expr.binary false .plus Operator.plus.precedence
      (.binary false .times Operator.times.precedence (.reference false "x") (.reference false "X"))
      (.reference false "y")
    let second := Expr.binary false .plus Operator.plus.precedence
      (.binary false .times Operator.times.precedence (.reference true "Ä") (.reference false "ä"))
      (.reference false "x")
    let code := [.load 0, .load 0, .combine .times, .trace 0, .load 1, .combine .plus, .trace 1]
    let program := Program.mk ["x", "y"] code ["x*X", "x*X+y"]
    let other := Program.mk ["Ä", "x"] code ["(Ä)*ä", "(Ä)*ä+x"]
    ofExpr first first.parameters = .ok program ∧ ofExpr second second.parameters = .ok other ∧
      first.Corresponds (fun _ _ => True) second ∧
      Name.SamePattern first.references second.references ∧
      program.stackDepth = other.stackDepth ∧ (program.run [3, 4]).IsRegular ∧
      (program.run [3, 4]).SameValues (other.run [3, 4]) := by
  intro first second code program other
  have lowered : ofExpr first first.parameters = .ok program := by cbv
  have otherLowered : ofExpr second second.parameters = .ok other := by cbv
  have form : first.Corresponds (fun _ _ => True) second :=
    .binary .plus (.binary .times (.reference trivial) (.reference trivial)) (.reference trivial)
  have pattern : Name.SamePattern first.references second.references := by decide +kernel
  obtain ⟨_, _, _, depths, runs⟩ :=
    run_sameValues_of_samePattern lowered otherLowered form pattern
  obtain ⟨regular, values⟩ := runs [3, 4] (Nat.le_refl 2)
  exact ⟨lowered, otherLowered, form, pattern, depths, regular, values⟩

end Program

end TraceCalc
