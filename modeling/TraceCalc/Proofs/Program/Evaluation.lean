/-
This file shows that the program of an expression calculates what the expression denotes.
-/

import TraceCalc.Proofs.Expr.Fault
import TraceCalc.Proofs.Program.Visits

namespace TraceCalc

/-- The first parameter that denotes the variable has the argument in the same place. -/
def argumentOf (parameters : List String) (arguments : List Int64) (name : String) : Int64 :=
  arguments.getD (parameters.findIdx fun parameter => Name.fold parameter = Name.fold name) 0

/-- The slot of a variable holds the argument of the variable. -/
theorem getElem?_eq_argumentOf {parameters : List String} {arguments : List Int64} {name : String}
    {slot : Nat} (enough : parameters.length ≤ arguments.length)
    (covered : ∃ parameter ∈ parameters, Name.fold parameter = Name.fold name)
    (found : Expr.slot? (parameters.map Name.fold) name = some slot) :
    arguments[slot]? = some (argumentOf parameters arguments name) := by
  rw [Expr.slot?_eq_findIdx covered] at found
  have bound : (parameters.findIdx fun parameter => Name.fold parameter = Name.fold name) <
      parameters.length := List.findIdx_lt_length_of_exists (by simpa using covered)
  have same := Option.some.inj found
  rw [same] at bound
  have inside : slot < arguments.length := by omega
  rw [argumentOf, same, List.getD_eq_getElem?_getD, List.getElem?_eq_getElem inside]
  rfl

namespace Program

section Steps

variable {labels : List String} {arguments stack : List Int64} {rest : List Instruction}

theorem runFrom_const (value : Int64) :
    runFrom labels arguments stack (.const value :: rest) =
      runFrom labels arguments (value :: stack) rest := by
  cases stack <;> rfl

theorem runFrom_load {slot : Nat} {value : Int64} (found : arguments[slot]? = some value) :
    runFrom labels arguments stack (.load slot :: rest) =
      runFrom labels arguments (value :: stack) rest := by
  cases stack <;> simp [runFrom, Instruction.step, found]

theorem runFrom_negate (value : Int64) :
    runFrom labels arguments (value :: stack) (.negate :: rest) =
      runFrom labels arguments (-value :: stack) rest := rfl

theorem runFrom_combine (operator : Operator) (left right : Int64) :
    runFrom labels arguments (right :: left :: stack) (.combine operator :: rest) =
      match operator.apply left right with
      | .ok value => runFrom labels arguments (value :: stack) rest
      | .error error => Run.fail error := by
  cases applied : operator.apply left right <;>
    simp [runFrom, Instruction.step, Operator.combine, applied, Except.map]

theorem runFrom_trace {label : Nat} {text : String} {value : Int64}
    (found : labels[label]? = some text) :
    runFrom labels arguments (value :: stack) (.trace label :: rest) =
      (runFrom labels arguments (value :: stack) rest).after [⟨text, value⟩] := by
  simp [runFrom, Instruction.step, found]

/-- The code of a sign works on the top of the stack and cannot fail. -/
theorem runFrom_signCode (labels : List String) (arguments stack : List Int64)
    (rest : List Instruction) {operator : Operator} {code : List Instruction}
    (found : operator.signCode? = some code) (value : Int64) :
    ∃ result, operator.onWord value = .ok result ∧
      runFrom labels arguments (value :: stack) (code ++ rest) =
        runFrom labels arguments (result :: stack) rest := by
  rcases Operator.signCode?_eq_some found with ⟨rfl, rfl⟩ | ⟨rfl, rfl⟩
  · exact ⟨value, rfl, rfl⟩
  · refine ⟨-value, ?_, runFrom_negate value⟩
    simp [Operator.onWord]

end Steps

/-- A label behind the labels of a segment is the next one of the whole list. -/
theorem getElem?_label (before inner later : List String) (text : String) :
    (before ++ (inner ++ [text]) ++ later)[before.length + inner.length]? = some text := by
  simp [List.append_assoc]

/-- The code of an expression leaves its value on the stack, and the code after it goes on. -/
theorem runFrom_lowerFrom {parameters : List String} {arguments : List Int64}
    (enough : parameters.length ≤ arguments.length) (expr : Expr)
    (covered : expr.IsCovered parameters) {segment : Segment} (before later : List String)
    (lowered : expr.lowerFrom (parameters.map Name.fold) before.length = .ok segment)
    (stack : List Int64) (rest : List Instruction) :
    runFrom (before ++ segment.labels ++ later) arguments stack (segment.instructions ++ rest) =
      (expr.evaluate (argumentOf parameters arguments)).andThen fun value =>
        runFrom (before ++ segment.labels ++ later) arguments (value :: stack) rest := by
  induction expr generalizing before later segment stack rest with
  | number grouped value =>
      rw [Expr.lowerFrom, Except.ok.injEq] at lowered
      subst lowered
      exact runFrom_const value
  | reference grouped name =>
      obtain ⟨slot, found, rfl⟩ := Expr.lowerFrom_reference_eq_ok lowered
      exact runFrom_load
        (getElem?_eq_argumentOf enough (covered name (List.mem_singleton_self name)) found)
  | unary grouped operator operand operandHypothesis =>
      obtain ⟨inner, code, operandLowered, sign, rfl⟩ := Expr.lowerFrom_unary_eq_ok lowered
      simp only [Segment.close, Expr.evaluate, Run.andThen_assoc]
      generalize (Expr.unary grouped operator operand).text = text
      have label := getElem?_label before inner.labels later text
      have operandRun := operandHypothesis covered before ([text] ++ later) operandLowered stack
        (code ++ .trace (before.length + inner.labels.length) :: rest)
      simp only [List.append_assoc, List.singleton_append] at operandRun label ⊢
      rw [operandRun]
      congr 1
      funext value
      obtain ⟨result, meaning, ran⟩ := runFrom_signCode (before ++ (inner.labels ++ text :: later))
        arguments stack (.trace (before.length + inner.labels.length) :: rest) sign value
      rw [ran, runFrom_trace label, meaning]
      rfl
  | binary grouped operator precedence left right leftHypothesis rightHypothesis =>
      obtain ⟨first, second, leftLowered, rightLowered, rfl⟩ := Expr.lowerFrom_binary_eq_ok lowered
      rw [← List.length_append] at rightLowered
      simp only [Segment.close, Segment.append, Expr.evaluate, Run.andThen_assoc]
      generalize (Expr.binary grouped operator precedence left right).text = text
      have label := getElem?_label before (first.labels ++ second.labels) later text
      have leftRun := leftHypothesis covered.left before (second.labels ++ [text] ++ later)
        leftLowered stack (second.instructions ++ .combine operator ::
          .trace (before.length + (first.labels ++ second.labels).length) :: rest)
      simp only [List.append_assoc, List.cons_append, List.nil_append] at leftRun label ⊢
      rw [leftRun]
      congr 1
      funext leftValue
      have rightRun := rightHypothesis covered.right (before ++ first.labels) (text :: later)
        rightLowered (leftValue :: stack) (.combine operator ::
          .trace (before.length + (first.labels ++ second.labels).length) :: rest)
      simp only [List.append_assoc] at rightRun
      rw [rightRun]
      congr 1
      funext rightValue
      rw [runFrom_combine, Operator.apply_eq_onWords]
      cases operator.onWords leftValue rightValue with
      | ok value => exact runFrom_trace label
      | error error => rfl

/-- With an argument for every parameter, nothing stops a program before its first instruction. -/
theorem run_of_le {program : Program} {arguments : List Int64}
    (enough : program.parameters.length ≤ arguments.length) :
    program.run arguments = runFrom program.labels arguments [] program.instructions := by
  rw [run, List.getElem?_eq_none enough]

/-- The first parameter without an argument is reported before any instruction runs. -/
theorem run_of_lt {program : Program} {arguments : List Int64}
    (few : arguments.length < program.parameters.length) :
    program.run arguments = Run.fail (.unbound program.parameters[arguments.length]) := by
  rw [run, List.getElem?_eq_getElem few]

/-- A program of an expression runs like the evaluation of the expression. -/
theorem run_ofSegment {expr : Expr} {parameters : List String} {segment : Segment}
    (covered : expr.IsCovered parameters)
    (lowered : expr.lowerFrom (parameters.map Name.fold) 0 = .ok segment) {arguments : List Int64}
    (enough : parameters.length ≤ arguments.length) :
    (Program.mk parameters segment.instructions segment.labels).run arguments =
      expr.evaluate (argumentOf parameters arguments) := by
  have ran := runFrom_lowerFrom enough expr covered [] [] lowered [] []
  simp only [List.nil_append, List.append_nil] at ran
  rw [run_of_le enough, ran]
  cases expr.evaluate (argumentOf parameters arguments) with
  | mk records result => cases result <;> simp [Run.andThen, Run.after, runFrom]

/--
Recursion and visits in turn give one program, and its run is the direct evaluation. The records
are those of the operators in post-order up to the first fault, which is that of the next operator
in this order, and its message names the dividend. Without enough arguments nothing is evaluated.
-/
theorem run_eq_evaluate (expr : Expr) (parameters : List String) (signed : expr.IsSigned)
    (covered : expr.IsCovered parameters) :
    ∃ program, ofExpr expr parameters = .ok program ∧ ofVisits expr parameters = .ok program ∧
      (∀ arguments : List Int64, parameters.length ≤ arguments.length →
        program.run arguments = expr.evaluate (argumentOf parameters arguments) ∧
          (program.run arguments).Follows (expr.operatorNodes.map Expr.text) ∧
          ∀ records error, program.run arguments = ⟨records, .error error⟩ →
            ∃ node, expr.operatorNodes[records.length]? = some node ∧
              node.FailsWith (argumentOf parameters arguments) error.message) ∧
      ∀ (arguments : List Int64) (few : arguments.length < parameters.length),
        program.run arguments = Run.fail (.unbound parameters[arguments.length]) ∧
          (Error.unbound parameters[arguments.length]).message =
            "Variable " ++ parameters[arguments.length] ++ " is not set." := by
  obtain ⟨segment, lowered⟩ := expr.exists_lowerFrom signed covered 0
  have built : ofExpr expr parameters =
      .ok ⟨parameters, segment.instructions, segment.labels⟩ := by
    rw [ofExpr, lowered]
    rfl
  refine ⟨_, built, (ofVisits_eq_ofExpr expr parameters).trans built, ?_, ?_⟩
  · intro arguments enough
    rw [run_ofSegment covered lowered enough]
    refine ⟨rfl, expr.follows_evaluate _ signed, fun records error failed => ?_⟩
    obtain ⟨node, place, fault⟩ := Expr.exists_isFault_of_evaluate signed failed
    exact ⟨node, place, fault.failsWith⟩
  · intro arguments few
    exact ⟨run_of_lt few, Error.message_unbound _⟩

/-- Two spellings of a variable share the first parameter that denotes it. -/
theorem run_eq_evaluate_of_spellings :
    let expr := Expr.unary false .minus
      (.binary true .divide 7 (.reference false "x") (.reference false "Y"))
    let parameters := ["X", "y", "Y"]
    expr.IsSigned ∧ expr.IsCovered parameters ∧
      ∃ program, ofExpr expr parameters = .ok program ∧ ofVisits expr parameters = .ok program ∧
        program.run [7, 2, 0] = ⟨[⟨"(x/Y)", 3⟩, ⟨"-(x/Y)", -3⟩], .ok (-3)⟩ ∧
        (∃ error, program.run [7, 0, 2] = Run.fail error ∧
          error.message = "arithmetic fault: Attempted to divide 7 by zero") ∧
        (∃ error, program.run [Int64.minValue, -1, 2] = Run.fail error ∧
          error.message = "arithmetic fault: Overflow in -9223372036854775808 / -1") ∧
        program.run [7, 2] = Run.fail (.unbound "Y") ∧
          (Error.unbound "Y").message = "Variable Y is not set." := by
  intro expr parameters
  have signed : expr.IsSigned := by decide
  have covered : expr.IsCovered parameters := by decide +kernel
  obtain ⟨program, built, visited, complete, missing⟩ :=
    run_eq_evaluate expr parameters signed covered
  have ran (dividend divisor other : Int64) : program.run [dividend, divisor, other] =
      expr.evaluate (argumentOf parameters [dividend, divisor, other]) :=
    (complete [dividend, divisor, other] (Nat.le_refl 3)).1
  have bound (dividend divisor other : Int64) :
      argumentOf parameters [dividend, divisor, other] "x" = dividend ∧
        argumentOf parameters [dividend, divisor, other] "Y" = divisor := by
    have places : (parameters.findIdx fun parameter => Name.fold parameter = Name.fold "x") = 0 ∧
        (parameters.findIdx fun parameter => Name.fold parameter = Name.fold "Y") = 1 := by
      decide +kernel
    simp only [argumentOf, places.1, places.2]
    exact ⟨rfl, rfl⟩
  simp only [expr, Expr.evaluate, bound] at ran
  exact ⟨signed, covered, program, built, visited, ran 7 2 0,
    ⟨_, ran 7 0 2, Error.message_divisionByZero 7⟩,
    ⟨_, ran Int64.minValue (-1) 2, Error.message_divisionOverflow Int64.minValue (-1)⟩,
    missing [7, 2] (Nat.lt_succ_self 2)⟩

end Program

end TraceCalc
