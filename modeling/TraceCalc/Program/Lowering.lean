/-
This file lowers expressions to programs.
-/

import TraceCalc.Expr.Reader
import TraceCalc.Program

namespace TraceCalc

/-- A segment is a run of instructions with the labels that its traces introduce. -/
structure Segment where
  instructions : List Instruction
  labels : List String
  deriving DecidableEq, Repr

namespace Segment

/-- A value needs one instruction and no label. -/
def single (instruction : Instruction) : Segment := ⟨[instruction], []⟩

/-- The second segment runs after the first one. -/
def append (first second : Segment) : Segment :=
  ⟨first.instructions ++ second.instructions, first.labels ++ second.labels⟩

/-- The instructions work on the value of the segment, and the trace reports what they leave. -/
def close (segment : Segment) (firstLabel : Nat) (code : List Instruction) (label : String) :
    Segment :=
  ⟨segment.instructions ++ code ++ [.trace (firstLabel + segment.labels.length)],
    segment.labels ++ [label]⟩

end Segment

/-- A sign is plain code: the positive one needs none. -/
def Operator.signCode? : Operator → Option (List Instruction)
  | .plus => some []
  | .minus => some [.negate]
  | .times | .divide => none

namespace Expr

/-- A variable is loaded from the first slot whose key is its folded name. -/
def slot? (keys : List String) (name : String) : Option Nat :=
  keys.idxOf? (Name.fold name)

/-- The operands come before their operator, and every operator is traced under its own text. -/
def lowerFrom (keys : List String) (firstLabel : Nat) : Expr → Except Error Segment
  | .number _ value => .ok (.single (.const value))
  | .reference _ name =>
      match slot? keys name with
      | some slot => .ok (.single (.load slot))
      | none => .error (.missingVariable name)
  | .unary grouped operator operand => do
      let segment ← lowerFrom keys firstLabel operand
      match operator.signCode? with
      | some code => .ok (segment.close firstLabel code (unary grouped operator operand).text)
      | none => .error (.unsupportedSign operator)
  | .binary grouped operator precedence left right => do
      let first ← lowerFrom keys firstLabel left
      let second ← lowerFrom keys (firstLabel + first.labels.length) right
      .ok ((first.append second).close firstLabel [.combine operator]
        (binary grouped operator precedence left right).text)

end Expr

namespace Program

/-- The parameters fix the slots and must cover the expression. -/
def ofExpr (expr : Expr) (parameters : List String) : Except Error Program :=
  (expr.lowerFrom (parameters.map Name.fold) 0).map fun segment =>
    ⟨parameters, segment.instructions, segment.labels⟩

/-- The parameters of a source are the variables of its expression. -/
def build (source : String) : Except Error Program :=
  (Expr.parse source).bind fun expr => ofExpr expr expr.parameters

end Program

end TraceCalc
