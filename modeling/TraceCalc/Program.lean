/-
This file defines the flat code of an expression.
-/

import TraceCalc.Operator
import TraceCalc.Text.Decimal

namespace TraceCalc

/-- An instruction works on a stack of values; a trace reports the top value and keeps it. -/
inductive Instruction where
  | const (value : Int64)
  | load (slot : Nat)
  | negate
  | combine (operator : Operator)
  | trace (label : Nat)
  deriving DecidableEq, Repr

namespace Instruction

/-- The journal shows an instruction in this form. -/
def text : Instruction → String
  | .const value => "Const(" ++ Text.Decimal.write value ++ ")"
  | .load slot => "Load(" ++ slot.repr ++ ")"
  | .negate => "Neg"
  | .combine .plus => "Add"
  | .combine .minus => "Sub"
  | .combine .times => "Mul"
  | .combine .divide => "Div"
  | .trace label => "Trace(" ++ label.repr ++ ")"

/-- An instruction changes the height of the stack by at most one. -/
def heightAfter (height : Nat) : Instruction → Nat
  | .const _ | .load _ => height + 1
  | .negate | .trace _ => height
  | .combine _ => height - 1

end Instruction

/-- A program binds its argument number `i` to the parameter number `i`. -/
structure Program where
  parameters : List String
  instructions : List Instruction
  labels : List String
  deriving DecidableEq, Repr

namespace Program

/-- The peak is the greatest height that the stack reaches from a given height. -/
def peakFrom (height : Nat) : List Instruction → Nat
  | [] => height
  | instruction :: rest => max height (peakFrom (instruction.heightAfter height) rest)

/-- The stack never holds more values than this. -/
def stackDepth (program : Program) : Nat := peakFrom 0 program.instructions

end Program

end TraceCalc
