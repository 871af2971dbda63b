/-
This file evaluates expressions directly, from left to right.
-/

import TraceCalc.Expr
import TraceCalc.Program.Execution
import TraceCalc.Proofs.Arithmetic.Exact

namespace TraceCalc

namespace Run

/-- A value is there without a record. -/
def done (value : Int64) : Run := ⟨[], .ok value⟩

/-- The next run needs the value of the first one and adds its records to those of the first. -/
def andThen (run : Run) (next : Int64 → Run) : Run :=
  match run.result with
  | .ok value => (next value).after run.records
  | .error error => ⟨run.records, .error error⟩

/-- A value is reported under a text, and a fault is not reported. -/
def report (text : String) : Except Error Int64 → Run
  | .ok value => ⟨[⟨text, value⟩], .ok value⟩
  | .error error => fail error

theorem after_andThen (records : List Record) (run : Run) (next : Int64 → Run) :
    (run.after records).andThen next = (run.andThen next).after records := by
  cases run with
  | mk made result => cases result <;> simp [andThen, after]

theorem andThen_assoc (run : Run) (next last : Int64 → Run) :
    (run.andThen next).andThen last = run.andThen fun value => (next value).andThen last := by
  cases run with
  | mk made result =>
      cases result with
      | ok value => exact after_andThen made (next value) last
      | error error => rfl

end Run

namespace Operator

/-- A sign keeps the value or negates it in 64 bits; the other operators need two operands. -/
def onWord (operator : Operator) (value : Int64) : Except Error Int64 :=
  match operator with
  | .plus => .ok value
  | .minus => .ok (Int64.ofInt (-value.toInt))
  | .times | .divide => .error (.unsupportedSign operator)

end Operator

namespace Expr

/-- Every operator with one operand is a sign. -/
def IsSigned : Expr → Prop
  | .number _ _ => True
  | .reference _ _ => True
  | .unary _ operator operand => operator.isSign = true ∧ operand.IsSigned
  | .binary _ _ _ left right => left.IsSigned ∧ right.IsSigned

instance decidableIsSigned : (expr : Expr) → Decidable expr.IsSigned
  | .number _ _ => inferInstanceAs (Decidable True)
  | .reference _ _ => inferInstanceAs (Decidable True)
  | .unary _ _ operand =>
      letI := decidableIsSigned operand
      inferInstanceAs (Decidable (_ ∧ _))
  | .binary _ _ _ left right =>
      letI := decidableIsSigned left
      letI := decidableIsSigned right
      inferInstanceAs (Decidable (_ ∧ _))

/-- Every operator reports its value under its own text once its operands have their values. -/
def evaluate (valuation : String → Int64) : Expr → Run
  | .number _ value => .done value
  | .reference _ name => .done (valuation name)
  | .unary grouped operator operand =>
      (operand.evaluate valuation).andThen fun value =>
        .report (unary grouped operator operand).text (operator.onWord value)
  | .binary grouped operator precedence left right =>
      (left.evaluate valuation).andThen fun first =>
        (right.evaluate valuation).andThen fun second =>
          .report (binary grouped operator precedence left right).text
            (operator.onWords first second)

/-- The nodes with operators are listed after their operands. -/
def operatorNodes : Expr → List Expr
  | .number _ _ => []
  | .reference _ _ => []
  | .unary grouped operator operand => operand.operatorNodes ++ [unary grouped operator operand]
  | .binary grouped operator precedence left right =>
      left.operatorNodes ++ right.operatorNodes ++ [binary grouped operator precedence left right]

end Expr

namespace Run

/-- The labels follow the texts: all of them are used, or a fault stopped the run before the end. -/
def Follows (run : Run) (texts : List String) : Prop :=
  match run.result with
  | .ok _ => run.records.map Record.label = texts
  | .error error => error.phase = .calculating ∧
      ∃ missing, missing ≠ [] ∧ run.records.map Record.label ++ missing = texts

theorem follows_done (value : Int64) : (done value).Follows [] := rfl

theorem follows_report_onWords (text : String) (operator : Operator) (left right : Int64) :
    (report text (operator.onWords left right)).Follows [text] := by
  unfold Operator.onWords
  split
  next error failed => exact ⟨Operator.phase_of_fault? failed, [text], by simp, rfl⟩
  next => rfl

theorem follows_report_onWord (text : String) {operator : Operator}
    (sign : operator.isSign = true) (value : Int64) :
    (report text (operator.onWord value)).Follows [text] := by
  cases operator with
  | plus => rfl
  | minus => rfl
  | times => simp [Operator.isSign] at sign
  | divide => simp [Operator.isSign] at sign

/-- The texts of two runs in turn are the texts of both. -/
theorem Follows.andThen {run : Run} {next : Int64 → Run} {first second : List String}
    (start : run.Follows first) (continued : ∀ value, (next value).Follows second) :
    (run.andThen next).Follows (first ++ second) := by
  cases run with
  | mk made result =>
      cases result with
      | error error =>
          obtain ⟨fault, missing, nonempty, split⟩ := start
          refine ⟨fault, missing ++ second, by simp [nonempty], ?_⟩
          rw [← List.append_assoc]
          exact congrArg (· ++ second) split
      | ok value =>
          have used : made.map Record.label = first := start
          have tail := continued value
          simp only [Run.andThen]
          revert tail
          cases next value with
          | mk later outcome =>
              intro tail
              cases outcome with
              | ok final =>
                  have usedLater : later.map Record.label = second := tail
                  simp [Follows, after, used, usedLater]
              | error error =>
                  obtain ⟨fault, missing, nonempty, split⟩ := tail
                  refine ⟨fault, missing, nonempty, ?_⟩
                  simp only [after, List.map_append, used, List.append_assoc]
                  exact congrArg (first ++ ·) split

end Run

/-- The records are those of the operators in post-order, up to the first fault. -/
theorem Expr.follows_evaluate (valuation : String → Int64) (expr : Expr)
    (signed : expr.IsSigned) :
    (expr.evaluate valuation).Follows (expr.operatorNodes.map Expr.text) := by
  induction expr with
  | number grouped value => exact Run.follows_done value
  | reference grouped name => exact Run.follows_done _
  | unary grouped operator operand operandHypothesis =>
      rw [operatorNodes, List.map_append]
      exact (operandHypothesis signed.2).andThen fun value =>
        Run.follows_report_onWord _ signed.1 value
  | binary grouped operator precedence left right leftHypothesis rightHypothesis =>
      rw [operatorNodes, List.map_append, List.map_append, List.append_assoc]
      refine (leftHypothesis signed.1).andThen fun first => ?_
      exact (rightHypothesis signed.2).andThen fun second =>
        Run.follows_report_onWords _ operator first second

/-- A run without a fault has one record for each node. -/
theorem Expr.length_records_evaluate {valuation : String → Int64} {expr : Expr}
    {records : List Record} {value : Int64} (signed : expr.IsSigned)
    (evaluated : expr.evaluate valuation = ⟨records, .ok value⟩) :
    records.length = expr.operatorNodes.length := by
  have follows := expr.follows_evaluate valuation signed
  rw [evaluated] at follows
  simpa using congrArg List.length follows

end TraceCalc
