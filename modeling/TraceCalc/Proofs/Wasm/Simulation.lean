/-
This file shows that an emitted module calculates and reports what the program does.
-/

import TraceCalc.Proofs.Program.Evaluation
import TraceCalc.Proofs.Wasm.Execution
import Mathlib.Data.List.Forall2

namespace TraceCalc

open Wasm

/-- The call passes the value of the record and the index of its label. -/
def Record.IsReportedBy (labels : List String) (call : Call) (record : Record) : Prop :=
  ∃ index : Int32, call = ⟨0, [.i32 index, .i64 record.value]⟩ ∧ 0 ≤ index.toInt ∧
    labels[index.toInt.toNat]? = some record.label

/-- A value is returned alone, and a fault of the calculation is a trap. -/
def Run.IsFollowedBy (result : Except Halt (List Value)) (run : Run) : Prop :=
  match run.result with
  | .ok value => result = .ok [.i64 value]
  | .error error => error.phase = .calculating ∧ result = .error .trap

/-- The execution makes the calls for the records of the run and ends like it. -/
structure Run.IsSimulatedBy (labels : List String) (execution : Execution) (run : Run) : Prop where
  reported : List.Forall₂ (Record.IsReportedBy labels) execution.calls run.records
  followed : run.IsFollowedBy execution.result

namespace Run.IsSimulatedBy

variable {labels : List String} {execution : Execution} {run : Run}
  (simulated : run.IsSimulatedBy labels execution)

include simulated

/-- The run decides how the execution ends. -/
theorem cases : (∃ value, run.result = .ok value ∧ execution.result = .ok [.i64 value]) ∨
    ∃ error, run.result = .error error ∧ error.phase = .calculating ∧
      execution.result = .error .trap := by
  have followed := simulated.followed
  rw [Run.IsFollowedBy] at followed
  cases found : run.result with
  | ok value =>
      rw [found] at followed
      exact .inl ⟨value, rfl, followed⟩
  | error error =>
      rw [found] at followed
      exact .inr ⟨error, rfl, followed⟩

/-- A function with one result can be left. -/
theorem leave_eq : execution.leave 1 = execution := by
  rw [Execution.leave]
  rcases simulated.cases with ⟨value, _, same⟩ | ⟨error, _, _, same⟩
  · rw [same]
    rfl
  · rw [same]

theorem result_eq_ok_iff {values : List Value} : execution.result = .ok values ↔
    ∃ value, values = [.i64 value] ∧ run.result = .ok value := by
  rcases simulated.cases with ⟨value, found, same⟩ | ⟨error, found, _, same⟩
  · rw [same, found]
    constructor
    · intro returned
      exact ⟨value, (Except.ok.inj returned).symm, rfl⟩
    · rintro ⟨other, rfl, equal⟩
      rw [Except.ok.inj equal]
  · simp [same, found]

theorem result_eq_trap_iff : execution.result = .error .trap ↔
    ∃ error, run.result = .error error ∧ error.phase = .calculating := by
  rcases simulated.cases with ⟨value, found, same⟩ | ⟨error, found, phase, same⟩
  · simp [same, found]
  · rw [same, found]
    exact ⟨fun _ => ⟨error, rfl, phase⟩, fun _ => rfl⟩

theorem result_ne_stuck : execution.result ≠ .error .stuck := by
  rcases simulated.cases with ⟨value, _, same⟩ | ⟨error, _, _, same⟩ <;> simp [same]

end Run.IsSimulatedBy

namespace Wasm

/-- A state holds the arguments and the scratch value in its locals. -/
def wordState (arguments : List Int64) (scratch : Int64) (stack : List Int64) : State :=
  ⟨(arguments ++ [scratch]).map .i64, stack.map .i64⟩

/-- The operands of a calculation are the two values on top. -/
theorem step_calculate (source : Module) (operator : Operator) (arguments stack : List Int64)
    (scratch left right : Int64) :
    (wordState arguments scratch (right :: left :: stack)).step source (.calculate operator) =
      match calculate? operator left right with
      | some value => .ok (wordState arguments scratch (value :: stack), [])
      | none => .error .trap := by
  cases found : calculate? operator left right with
  | none => simp only [State.step, wordState, List.map_cons, found]
  | some value => simp only [State.step, wordState, List.map_cons, found]

end Wasm

namespace Program

variable {program : Program} {arguments : List Int64} (stack : List Int64)

section Steps

theorem execute_const (scratch value : Int64) (rest : List Operation) :
    (wordState arguments scratch stack).execute program.toModule
        (Instruction.operations program.scratch (.const value) ++ rest) =
      (wordState arguments scratch (value :: stack)).execute program.toModule rest := by
  rw [Instruction.operations, List.singleton_append, State.execute_of_ok rfl]
  rfl

/-- A product with minus one is the negated value, also for the smallest value. -/
theorem execute_negate (scratch value : Int64) (rest : List Operation) :
    (wordState arguments scratch (value :: stack)).execute program.toModule
        (Instruction.operations program.scratch .negate ++ rest) =
      (wordState arguments scratch (-value :: stack)).execute program.toModule rest := by
  have product : calculate? .times value (-1) = some (-value) := by
    rw [calculate?_eq, Operator.apply_times, Int64.mul_neg, Int64.mul_one]
    rfl
  have multiplied := step_calculate program.toModule .times arguments stack scratch value (-1)
  rw [product] at multiplied
  rw [Instruction.operations, List.cons_append, State.execute_of_ok rfl, Execution.after_nil]
  exact State.execute_of_ok multiplied rest

theorem execute_combine (operator : Operator) (scratch left right : Int64)
    (rest : List Operation) :
    (wordState arguments scratch (right :: left :: stack)).execute program.toModule
        (Instruction.operations program.scratch (.combine operator) ++ rest) =
      match operator.apply left right with
      | .ok value => (wordState arguments scratch (value :: stack)).execute program.toModule rest
      | .error _ => .halt .trap := by
  have calculated := step_calculate program.toModule operator arguments stack scratch left right
  rw [calculate?_eq] at calculated
  cases applied : operator.apply left right with
  | ok value =>
      rw [applied] at calculated
      exact State.execute_of_ok calculated rest
  | error error =>
      rw [applied] at calculated
      exact State.execute_of_error calculated rest

end Steps

section Emitted

variable (fits : program.parameters.length < 2 ^ 32 - 1)
  (enough : arguments.length = program.parameters.length)

include fits enough

theorem getElem?_scratch (scratch : Int64) :
    (wordState arguments scratch stack).locals[program.scratch.toNat]? = some (.i64 scratch) := by
  rw [toNat_scratch fits, ← enough]
  simp [wordState]

/-- The scratch local takes the top of the stack. -/
theorem step_scratch (scratch value : Int64) :
    (wordState arguments scratch (value :: stack)).step program.toModule
      (.localSet program.scratch) = .ok (wordState arguments value stack, []) := by
  have bound : program.scratch.toNat <
      (wordState arguments scratch (value :: stack)).locals.length := by
    rw [toNat_scratch fits, ← enough]
    simp [wordState]
  rw [State.step_localSet rfl bound, toNat_scratch fits, ← enough]
  simp [wordState]

theorem execute_load {slot : Nat} {value : Int64} (found : arguments[slot]? = some value)
    (scratch : Int64) (rest : List Operation) :
    (wordState arguments scratch stack).execute program.toModule
        (Instruction.operations program.scratch (.load slot) ++ rest) =
      (wordState arguments scratch (value :: stack)).execute program.toModule rest := by
  obtain ⟨inside, _⟩ := List.getElem?_eq_some_iff.mp found
  have small : (UInt32.ofNat slot).toNat = slot := by
    rw [UInt32.toNat_ofNat']
    exact Nat.mod_eq_of_lt (by omega)
  have loaded : (wordState arguments scratch stack).locals[(UInt32.ofNat slot).toNat]? =
      some (.i64 value) := by
    rw [small, wordState, List.map_append, List.getElem?_append_left (by simpa using inside),
      List.getElem?_map, found]
    rfl
  exact State.execute_of_ok (State.step_localGet loaded) rest

/-- The operations of a trace report the top value and leave it where it was. -/
theorem execute_trace (labelled : program.labels.length ≤ 2 ^ 31) {label : Nat} {text : String}
    (found : program.labels[label]? = some text) (scratch value : Int64)
    (rest : List Operation) :
    ∃ call, Record.IsReportedBy program.labels call ⟨text, value⟩ ∧
      (wordState arguments scratch (value :: stack)).execute program.toModule
          (Instruction.operations program.scratch (.trace label) ++ rest) =
        ((wordState arguments value (value :: stack)).execute program.toModule rest).after
          [call] := by
  obtain ⟨inside, _⟩ := List.getElem?_eq_some_iff.mp found
  have index : (Int32.ofNat label).toInt = label := Int32.toInt_ofNat_of_lt (by omega)
  have loaded := getElem?_scratch stack fits enough value
  -- Between the label and the call, the stack does not belong to a `wordState`.
  generalize kept : wordState arguments value stack = state at loaded
  have loadedAbove : (state.push (.i32 (Int32.ofNat label))).locals[program.scratch.toNat]? =
      some (.i64 value) := loaded
  have called : ((state.push (.i32 (Int32.ofNat label))).push (.i64 value)).step
      program.toModule (.call 0) =
        .ok (state, [⟨0, [.i32 (Int32.ofNat label), .i64 value]⟩]) := rfl
  have restored : state.push (.i64 value) = wordState arguments value (value :: stack) := by
    rw [← kept]
    rfl
  refine ⟨⟨0, [.i32 (Int32.ofNat label), .i64 value]⟩, ⟨Int32.ofNat label, rfl, ?_, ?_⟩, ?_⟩
  · omega
  · rw [index, Int.toNat_natCast, found]
  · simp only [Instruction.operations, List.cons_append, List.nil_append]
    rw [State.execute_of_ok (step_scratch stack fits enough scratch value), kept,
      State.execute_of_ok rfl, State.execute_of_ok (State.step_localGet loadedAbove),
      State.execute_of_ok called, State.execute_of_ok (State.step_localGet loaded), restored]
    rfl

/-- From every balanced state, the operations follow the instructions. -/
theorem runFrom_isSimulatedBy (labelled : program.labels.length ≤ 2 ^ 31)
    {instructions : List Instruction}
    (within : ∀ instruction ∈ instructions,
      instruction.IsWithin program.parameters.length program.labels.length)
    (scratch : Int64) (balanced : heightFrom stack.length instructions = some 1) :
    (runFrom program.labels arguments stack instructions).IsSimulatedBy program.labels
      ((wordState arguments scratch stack).execute program.toModule
        (instructions.flatMap (Instruction.operations program.scratch))) := by
  induction instructions generalizing stack scratch with
  | nil =>
      rw [heightFrom, Option.some.injEq, List.length_eq_one_iff] at balanced
      obtain ⟨value, rfl⟩ := balanced
      exact ⟨.nil, rfl⟩
  | cons instruction rest inductionHypothesis =>
      obtain ⟨instructionWithin, restWithin⟩ := List.forall_mem_cons.mp within
      obtain ⟨operands, restBalanced⟩ := heightFrom_cons_eq_some balanced
      rw [List.flatMap_cons]
      cases instruction with
      | const value =>
          rw [runFrom_const, execute_const]
          exact inductionHypothesis (value :: stack) restWithin scratch restBalanced
      | load slot =>
          have inside : slot < arguments.length := enough ▸ instructionWithin
          have found := List.getElem?_eq_getElem inside
          rw [runFrom_load found, execute_load stack fits enough found]
          exact inductionHypothesis (_ :: stack) restWithin scratch restBalanced
      | negate =>
          obtain ⟨value, below, rfl⟩ := List.exists_cons_of_length_pos operands
          rw [runFrom_negate, execute_negate]
          exact inductionHypothesis (-value :: below) restWithin scratch restBalanced
      | combine operator =>
          obtain ⟨right, tail, rfl⟩ :=
            List.exists_cons_of_length_pos (Nat.lt_of_succ_lt operands)
          obtain ⟨left, below, rfl⟩ :=
            List.exists_cons_of_length_pos (Nat.lt_of_succ_lt_succ operands)
          rw [runFrom_combine, execute_combine]
          cases applied : operator.apply left right with
          | ok value => exact inductionHypothesis (value :: below) restWithin scratch restBalanced
          | error error => exact ⟨.nil, Operator.phase_of_apply applied, rfl⟩
      | trace label =>
          obtain ⟨value, below, rfl⟩ := List.exists_cons_of_length_pos operands
          have found := List.getElem?_eq_getElem instructionWithin
          obtain ⟨call, reported, executed⟩ :=
            execute_trace below fits enough labelled found scratch value
              (rest.flatMap (Instruction.operations program.scratch))
          rw [runFrom_trace found, executed]
          have later := inductionHypothesis (value :: below) restWithin value restBalanced
          exact ⟨.cons reported later.reported, later.followed⟩

omit fits in
/-- Every local but the scratch local starts with its argument. -/
theorem invoke_eq_execute : program.toModule.invoke 1 (arguments.map .i64) =
    ((wordState arguments 0 []).execute program.toModule
      (program.instructions.flatMap (Instruction.operations program.scratch))).leave 1 := by
  have typed : (arguments.map Value.i64).map Value.type =
      List.replicate program.parameters.length .i64 := by
    rw [List.map_map, ← enough]
    exact List.map_const'
  have locals : arguments.map Value.i64 ++ [.i64 0] = (arguments ++ [0]).map .i64 := by
    rw [List.map_append, List.map_singleton]
  rw [wordState, ← locals]
  exact if_pos typed

end Emitted

/--
Every source that can be built has a well formed program, and a well formed program has a valid
function that makes the same reports, returns the same value and traps on the same faults.
-/
theorem invoke_iff_run :
    (∀ source program, build source = .ok program → program.IsWellFormed) ∧
    ∀ program : Program, program.parameters.length < 2 ^ 32 - 1 → program.labels.length ≤ 2 ^ 31 →
      program.IsWellFormed → ∀ arguments : List Int64,
      arguments.length = program.parameters.length →
        let execution := program.toModule.invoke 1 (arguments.map .i64)
        let run := program.run arguments
        program.body.declaredTypes = [.i64] ∧
        program.toModule.IsValidFunction 1
          ⟨List.replicate program.parameters.length .i64, [.i64]⟩ program.body ∧
        List.Forall₂ (Record.IsReportedBy program.labels) execution.calls run.records ∧
        (∀ values, execution.result = .ok values ↔
          ∃ value, values = [.i64 value] ∧ run.result = .ok value) ∧
        (execution.result = .error .trap ↔
          ∃ error, run.result = .error error ∧ error.phase = .calculating) ∧
        execution.result ≠ .error .stuck := by
  refine ⟨fun source program => isWellFormed_of_build, ?_⟩
  intro program fits labelled wellFormed arguments enough
  have simulated := runFrom_isSimulatedBy [] fits enough labelled wellFormed.within 0
    wellFormed.balanced
  rw [← run_of_le (Nat.le_of_eq enough.symm)] at simulated
  have left := invoke_eq_execute enough
  rw [simulated.leave_eq] at left
  simp only [left]
  exact ⟨rfl, isValidFunction fits wellFormed, simulated.reported,
    fun _ => simulated.result_eq_ok_iff, simulated.result_eq_trap_iff, simulated.result_ne_stuck⟩

/-- A quotient is returned, and the one quotient that is too large is a trap. -/
theorem invoke_iff_run_of_quotient :
    let program : Program := ⟨["x", "y"],
      [.load 0, .load 1, .combine .divide, .trace 0], ["x/y"]⟩
    program.IsWellFormed ∧
      (program.toModule.invoke 1 [.i64 7, .i64 2]).result = .ok [.i64 3] ∧
      (program.toModule.invoke 1 [.i64 Int64.minValue, .i64 (-1)]).result = .error .trap := by
  intro program
  have wellFormed : program.IsWellFormed := ⟨by decide, by decide⟩
  have small : program.parameters.length < 2 ^ 32 - 1 := by decide
  have labelled : program.labels.length ≤ 2 ^ 31 := by decide
  obtain ⟨_, _, _, returns, _⟩ :=
    invoke_iff_run.2 program small labelled wellFormed [7, 2] rfl
  obtain ⟨_, _, _, _, traps, _⟩ :=
    invoke_iff_run.2 program small labelled wellFormed [Int64.minValue, -1] rfl
  exact ⟨wellFormed, (returns [.i64 3]).mpr ⟨3, rfl, rfl⟩, traps.mpr ⟨_, rfl, rfl⟩⟩

end Program

end TraceCalc
