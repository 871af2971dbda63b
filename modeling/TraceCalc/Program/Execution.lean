/-
This file runs programs on a stack of values.
-/

import TraceCalc.Arithmetic
import TraceCalc.Program

namespace TraceCalc

/-- A record reports the value of the expression that the label shows. -/
structure Record where
  label : String
  value : Int64
  deriving DecidableEq, Repr

/-- A record is shown on a line of this form. -/
def Record.text (record : Record) : String :=
  record.label ++ " = " ++ Text.Decimal.write record.value

/-- A run leaves its records also when it fails. -/
structure Run where
  records : List Record
  result : Except Error Int64

namespace Run

/-- A run that fails at once makes no records. -/
def fail (error : Error) : Run := ⟨[], .error error⟩

/-- The records were made before the run. -/
def after (records : List Record) (run : Run) : Run :=
  ⟨records ++ run.records, run.result⟩

@[simp] theorem after_nil (run : Run) : run.after [] = run := rfl

@[simp] theorem after_after (first second : List Record) (run : Run) :
    (run.after second).after first = run.after (first ++ second) := by
  simp [after]

end Run

/-- The right operand lies above the left one. -/
def Operator.combine (operator : Operator) : List Int64 → Except Error (List Int64)
  | right :: left :: rest => (operator.apply left right).map (· :: rest)
  | _ => .error .stackUnderflow

/-- A step gives the new stack and the records that it makes. -/
def Instruction.step (labels : List String) (arguments stack : List Int64) :
    Instruction → Except Error (List Int64 × List Record)
  | .const value => .ok (value :: stack, [])
  | .load slot =>
      match arguments[slot]? with
      | some value => .ok (value :: stack, [])
      | none => .error (.indexOutOfRange arguments.length slot)
  | .negate =>
      match stack with
      | value :: rest => .ok (-value :: rest, [])
      | [] => .error .stackUnderflow
  | .combine operator => (operator.combine stack).map fun next => (next, [])
  | .trace label =>
      match stack, labels[label]? with
      | [], _ => .error .stackUnderflow
      | value :: _, some text => .ok (stack, [⟨text, value⟩])
      | _ :: _, none => .error (.indexOutOfRange labels.length label)

namespace Program

/-- The result is the top of the stack after the last instruction. -/
def runFrom (labels : List String) (arguments : List Int64) :
    List Int64 → List Instruction → Run
  | value :: _, [] => ⟨[], .ok value⟩
  | [], [] => Run.fail .stackUnderflow
  | stack, instruction :: rest =>
      match instruction.step labels arguments stack with
      | .error error => Run.fail error
      | .ok (next, records) => (runFrom labels arguments next rest).after records

/-- Every variable needs an argument before the first instruction runs. -/
def run (program : Program) (arguments : List Int64) : Run :=
  match program.parameters[arguments.length]? with
  | some name => Run.fail (.unbound name)
  | none => runFrom program.labels arguments [] program.instructions

end Program

end TraceCalc
