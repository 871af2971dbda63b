/-
This file defines how functions without branches run.
-/

import TraceCalc.Proofs.Arithmetic.Exact
import TraceCalc.Proofs.Wasm.Validation

namespace TraceCalc.Wasm

/-- Every value carries its type. -/
inductive Value where
  | i32 (value : Int32)
  | i64 (value : Int64)
  deriving DecidableEq, Repr

namespace Value

def type : Value → ValueType
  | .i32 _ => .i32
  | .i64 _ => .i64

/-- A local that is not a parameter starts as zero. -/
def zero : ValueType → Value
  | .i32 => .i32 0
  | .i64 => .i64 0

end Value

/-- A division has no result where the exact quotient does not exist or does not fit. -/
def calculate? (operator : Operator) (left right : Int64) : Option Int64 :=
  match operator with
  | .plus => some (Int64.ofInt (left.toInt + right.toInt))
  | .minus => some (Int64.ofInt (left.toInt - right.toInt))
  | .times => some (Int64.ofInt (left.toInt * right.toInt))
  | .divide =>
      if right.toInt = 0 then none
      else if left.toInt.tdiv right.toInt = 2 ^ 63 then none
      else some (Int64.ofInt (left.toInt.tdiv right.toInt))

/-- Only the smallest dividend has a quotient that is one too large. -/
theorem tdiv_eq_iff (left right : Int64) :
    left.toInt.tdiv right.toInt = 2 ^ 63 ↔ left.toInt = -2 ^ 63 ∧ right.toInt = -1 := by
  have lower : -2 ^ 63 ≤ left.toInt := left.le_toInt
  have upper : left.toInt < 2 ^ 63 := left.toInt_lt
  constructor
  · intro large
    have magnitude : left.toInt.natAbs / right.toInt.natAbs = 2 ^ 63 := by
      have same := Int.natAbs_tdiv left.toInt right.toInt
      rw [large] at same
      exact same.symm
    have small : left.toInt.natAbs ≤ 2 ^ 63 := by omega
    have unit : right.toInt.natAbs = 1 := by
      have atLeast : 2 ^ 63 * right.toInt.natAbs ≤ left.toInt.natAbs := by
        rw [← magnitude]
        exact Nat.div_mul_le_self _ _
      have nonzero : right.toInt.natAbs ≠ 0 := by
        intro zero
        rw [zero, Nat.div_zero] at magnitude
        omega
      omega
    rcases Int.natAbs_eq right.toInt with positive | negative
    · rw [unit] at positive
      rw [positive, Int.natCast_one, Int.tdiv_one] at large
      omega
    · rw [unit] at negative
      rw [negative, Int.natCast_one, Int.tdiv_neg, Int.tdiv_one] at large
      exact ⟨by omega, negative⟩
  · rintro ⟨smallest, minusOne⟩
    rw [smallest, minusOne]
    rfl

/-- The calculation traps exactly where the operator fails. -/
theorem calculate?_eq (operator : Operator) (left right : Int64) :
    calculate? operator left right = (operator.apply left right).toOption := by
  rw [Operator.apply_eq_onWords, Operator.onWords]
  cases operator with
  | plus => rfl
  | minus => rfl
  | times => rfl
  | divide =>
      simp only [calculate?, Operator.fault?, tdiv_eq_iff, Operator.exact]
      by_cases zero : right.toInt = 0
      · simp only [if_pos zero]
        rfl
      · simp only [if_neg zero]
        by_cases large : left.toInt = -2 ^ 63 ∧ right.toInt = -1
        · simp only [if_pos large]
          rfl
        · simp only [if_neg large]
          rfl

/-- The first arguments of a call lay lowest on the stack. -/
structure Call where
  function : UInt32
  arguments : List Value
  deriving DecidableEq, Repr

/-- A trap ends a valid function; an invalid one may have no next step at all. -/
inductive Halt where
  | trap
  | stuck
  deriving DecidableEq, Repr

/-- The stack starts with its top. -/
structure State where
  locals : List Value
  stack : List Value
  deriving DecidableEq, Repr

/-- The calls that were made stay made when the execution halts. -/
structure Execution where
  calls : List Call
  result : Except Halt (List Value)

namespace Execution

/-- An execution that halts at once makes no calls. -/
def halt (reason : Halt) : Execution := ⟨[], .error reason⟩

/-- The calls were made before the execution. -/
def after (calls : List Call) (execution : Execution) : Execution :=
  ⟨calls ++ execution.calls, execution.result⟩

@[simp] theorem after_nil (execution : Execution) : execution.after [] = execution := rfl

/-- A function is left with exactly as many values as it has results. -/
def leave (count : Nat) (execution : Execution) : Execution :=
  match execution.result with
  | .ok values =>
      if values.length = count then execution else ⟨execution.calls, .error .stuck⟩
  | .error _ => execution

end Execution

namespace State

def push (state : State) (value : Value) : State :=
  { state with stack := value :: state.stack }

/--
An operation gives the next state and the calls of imported functions that it makes. Only imported
functions without results are called here.
-/
def step (source : Module) (state : State) : Operation → Except Halt (State × List Call)
  | .const32 value => .ok (state.push (.i32 value), [])
  | .const64 value => .ok (state.push (.i64 value), [])
  | .localGet index =>
      match state.locals[index.toNat]? with
      | some value => .ok (state.push value, [])
      | none => .error .stuck
  | .localSet index =>
      match state.stack with
      | value :: rest =>
          if index.toNat < state.locals.length then
            .ok (⟨state.locals.set index.toNat value, rest⟩, [])
          else .error .stuck
      | [] => .error .stuck
  | .call function =>
      match source.functionType? function with
      | some ⟨parameters, []⟩ =>
          let arguments := (state.stack.take parameters.length).reverse
          if function.toNat < source.imports.length ∧ arguments.map Value.type = parameters then
            .ok (⟨state.locals, state.stack.drop parameters.length⟩, [⟨function, arguments⟩])
          else .error .stuck
      | _ => .error .stuck
  | .calculate operator =>
      match state.stack with
      | .i64 right :: .i64 left :: rest =>
          match calculate? operator left right with
          | some value => .ok (⟨state.locals, .i64 value :: rest⟩, [])
          | none => .error .trap
      | _ => .error .stuck

/-- The operations are executed in turn; at their end, the stack is the result. -/
def execute (source : Module) (state : State) : List Operation → Execution
  | [] => ⟨[], .ok state.stack.reverse⟩
  | operation :: rest =>
      match state.step source operation with
      | .error reason => .halt reason
      | .ok (next, calls) => (next.execute source rest).after calls

variable {source : Module} {state next : State} {operation : Operation} {calls : List Call}

theorem execute_of_ok (success : state.step source operation = .ok (next, calls))
    (rest : List Operation) :
    state.execute source (operation :: rest) = (next.execute source rest).after calls := by
  rw [execute, success]

theorem execute_of_error {reason : Halt} (failure : state.step source operation = .error reason)
    (rest : List Operation) :
    state.execute source (operation :: rest) = .halt reason := by
  rw [execute, failure]

theorem step_localGet {index : UInt32} {value : Value}
    (found : state.locals[index.toNat]? = some value) :
    state.step source (.localGet index) = .ok (state.push value, []) := by
  simp only [step, found]

theorem step_localSet {index : UInt32} {value : Value} {rest : List Value}
    (top : state.stack = value :: rest) (bound : index.toNat < state.locals.length) :
    state.step source (.localSet index) =
      .ok (⟨state.locals.set index.toNat value, rest⟩, []) := by
  simp only [step, top, if_pos bound]

end State

/-- The arguments are the first locals of the function. -/
def Module.invoke (source : Module) (function : UInt32) (arguments : List Value) : Execution :=
  match source.functionType? function, source.body? function with
  | some type, some body =>
      if arguments.map Value.type = type.parameters then
        let locals := arguments ++ body.declaredTypes.map Value.zero
        (State.execute source ⟨locals, []⟩ body.operations).leave type.results.length
      else .halt .stuck
  | _, _ => .halt .stuck

end TraceCalc.Wasm
