/-
This file shows when a program gives the exact values of its expression.
-/

import TraceCalc.Proofs.Program.Safety

namespace TraceCalc

/-- A word represents the integers of this range and no others. -/
def IsInt64 (value : Int) : Prop := -2 ^ 63 ≤ value ∧ value < 2 ^ 63

instance (value : Int) : Decidable (IsInt64 value) := inferInstanceAs (Decidable (_ ∧ _))

theorem isInt64_toInt (word : Int64) : IsInt64 word.toInt :=
  ⟨word.le_toInt, word.toInt_lt⟩

theorem IsInt64.toInt_ofInt {value : Int} (isInt64 : IsInt64 value) :
    (Int64.ofInt value).toInt = value :=
  Int64.toInt_ofInt_of_le isInt64.1 isInt64.2

namespace Operator

/-- Only the minus sign changes a value. -/
def exactSign (operator : Operator) (value : Int) : Int :=
  match operator with
  | .minus => -value
  | .plus | .times | .divide => value

/-- A quotient needs its exact operands, and it has to be a word itself. -/
def IsExactOn (operator : Operator) (left right : Int) : Prop :=
  match operator with
  | .plus | .minus | .times => True
  | .divide => IsInt64 left ∧ IsInt64 right ∧ right ≠ 0 ∧ IsInt64 (left.tdiv right)

/-- A sign maps the word of an exact value to the word of the next exact value. -/
theorem onWord_ofInt {operator : Operator} (sign : operator.isSign = true) (value : Int) :
    operator.onWord (Int64.ofInt value) = .ok (Int64.ofInt (operator.exactSign value)) := by
  cases operator with
  | plus => rfl
  | minus => rw [onWord, exactSign, Int64.ofInt_neg, Int64.ofInt_toInt, Int64.ofInt_neg]
  | times => simp [isSign] at sign
  | divide => simp [isSign] at sign

/-- Two exact operands with an exact quotient that is a word do not lead to a fault. -/
theorem fault?_divide {left right : Int64} (divisor : right.toInt ≠ 0)
    (quotient : IsInt64 (left.toInt.tdiv right.toInt)) : divide.fault? left right = none := by
  rw [fault?, if_neg divisor, if_neg]
  rintro ⟨least, minusOne⟩
  rw [least, minusOne] at quotient
  exact absurd quotient (by decide)

/-- The operators map the words of exact values to the words of exact values. -/
theorem onWords_ofInt {operator : Operator} {left right : Int}
    (exactly : operator.IsExactOn left right) :
    operator.onWords (Int64.ofInt left) (Int64.ofInt right) =
      .ok (Int64.ofInt (operator.exact left right)) := by
  cases operator with
  | plus => simp only [onWords, fault?, exact, Int64.ofInt_add, Int64.ofInt_toInt]
  | minus => simp only [onWords, fault?, exact, Int64.ofInt_sub, Int64.ofInt_toInt]
  | times => simp only [onWords, fault?, exact, Int64.ofInt_mul, Int64.ofInt_toInt]
  | divide =>
      obtain ⟨dividend, divisor, nonzero, quotient⟩ := exactly
      rw [← dividend.toInt_ofInt, ← divisor.toInt_ofInt] at quotient
      rw [← divisor.toInt_ofInt] at nonzero
      rw [onWords, fault?_divide nonzero quotient, dividend.toInt_ofInt, divisor.toInt_ofInt]

end Operator

namespace Expr

/-- The exact value is calculated with unbounded integers. -/
def exactValue (valuation : String → Int64) : Expr → Int
  | .number _ value => value.toInt
  | .reference _ name => (valuation name).toInt
  | .unary _ operator operand => operator.exactSign (operand.exactValue valuation)
  | .binary _ operator _ left right =>
      operator.exact (left.exactValue valuation) (right.exactValue valuation)

/-- Only a division has a divisor. -/
def divisor? : Expr → Option Expr
  | .binary _ .divide _ _ right => some right
  | _ => none

/-- No operator of the expression divides. -/
def IsDivisionFree (expr : Expr) : Prop :=
  ∀ node ∈ expr.operatorNodes, node.divisor? = none

/-- Every exact value is a word, and no exact divisor is zero. Leaves are words by themselves. -/
def StaysInRange (valuation : String → Int64) (expr : Expr) : Prop :=
  ∀ node ∈ expr.operatorNodes,
    IsInt64 (node.exactValue valuation) ∧ node.divisor?.map (exactValue valuation) ≠ some 0

instance (expr : Expr) : Decidable expr.IsDivisionFree :=
  inferInstanceAs (Decidable (∀ node ∈ expr.operatorNodes, _))

instance (valuation : String → Int64) (expr : Expr) : Decidable (expr.StaysInRange valuation) :=
  inferInstanceAs (Decidable (∀ node ∈ expr.operatorNodes, _))

/-- Every division of the expression is exact. -/
def DividesExactly (valuation : String → Int64) : Expr → Prop
  | .number _ _ => True
  | .reference _ _ => True
  | .unary _ _ operand => operand.DividesExactly valuation
  | .binary _ operator _ left right =>
      left.DividesExactly valuation ∧ right.DividesExactly valuation ∧
        operator.IsExactOn (left.exactValue valuation) (right.exactValue valuation)

/-- The record of a node shows the lowest 64 bits of its exact value. -/
def exactRecord (valuation : String → Int64) (node : Expr) : Record :=
  ⟨node.text, Int64.ofInt (node.exactValue valuation)⟩

section Operands

variable {valuation : String → Int64} {grouped : Bool} {operator : Operator}
  {precedence : Precedence} {operand left right : Expr}

/-- What holds for every operator holds for the operators of the operand. -/
theorem forall_operand {property : Expr → Prop}
    (every : ∀ node ∈ (unary grouped operator operand).operatorNodes, property node) :
    ∀ node ∈ operand.operatorNodes, property node :=
  fun node member => every node (List.mem_append_left _ member)

theorem forall_binary_iff {property : Expr → Prop} :
    (∀ node ∈ (binary grouped operator precedence left right).operatorNodes, property node) ↔
      (∀ node ∈ left.operatorNodes, property node) ∧
        (∀ node ∈ right.operatorNodes, property node) ∧
          property (binary grouped operator precedence left right) := by
  simp only [operatorNodes, List.forall_mem_append, List.forall_mem_singleton, and_assoc]

end Operands

/-- Without a division, no value is too large to be continued in 64 bits. -/
theorem IsDivisionFree.dividesExactly (valuation : String → Int64) {expr : Expr}
    (free : expr.IsDivisionFree) : expr.DividesExactly valuation := by
  induction expr with
  | number grouped value => trivial
  | reference grouped name => trivial
  | unary grouped operator operand operandHypothesis =>
      exact operandHypothesis (forall_operand free)
  | binary grouped operator precedence left right leftHypothesis rightHypothesis =>
      obtain ⟨leftFree, rightFree, root⟩ := forall_binary_iff.mp free
      refine ⟨leftHypothesis leftFree, rightHypothesis rightFree, ?_⟩
      cases operator with
      | plus => trivial
      | minus => trivial
      | times => trivial
      | divide => simp [divisor?] at root

/-- The value of the whole expression is one of the values in range, or that of a leaf. -/
theorem StaysInRange.isInt64 {valuation : String → Int64} {expr : Expr}
    (inRange : expr.StaysInRange valuation) : IsInt64 (expr.exactValue valuation) := by
  cases expr with
  | number grouped value => exact isInt64_toInt value
  | reference grouped name => exact isInt64_toInt (valuation name)
  | unary grouped operator operand =>
      exact (inRange _ (List.mem_append_right _ (List.mem_singleton_self _))).1
  | binary grouped operator precedence left right =>
      exact (inRange _ (List.mem_append_right _ (List.mem_singleton_self _))).1

theorem StaysInRange.dividesExactly {valuation : String → Int64} {expr : Expr}
    (inRange : expr.StaysInRange valuation) : expr.DividesExactly valuation := by
  induction expr with
  | number grouped value => trivial
  | reference grouped name => trivial
  | unary grouped operator operand operandHypothesis =>
      exact operandHypothesis (forall_operand inRange)
  | binary grouped operator precedence left right leftHypothesis rightHypothesis =>
      obtain ⟨leftInRange, rightInRange, result, divisor⟩ := forall_binary_iff.mp inRange
      refine ⟨leftHypothesis leftInRange, rightHypothesis rightInRange, ?_⟩
      cases operator with
      | plus => trivial
      | minus => trivial
      | times => trivial
      | divide =>
          have leftWord := StaysInRange.isInt64 leftInRange
          have rightWord := StaysInRange.isInt64 rightInRange
          exact ⟨leftWord, rightWord, by simpa [divisor?] using divisor, result⟩

/-- Where every division is exact, the records and the result keep the lowest 64 bits. -/
theorem evaluate_of_dividesExactly {valuation : String → Int64} {expr : Expr}
    (signed : expr.IsSigned) (exactly : expr.DividesExactly valuation) :
    expr.evaluate valuation = ⟨expr.operatorNodes.map (exactRecord valuation),
      .ok (Int64.ofInt (expr.exactValue valuation))⟩ := by
  -- A word may differ from its exact value here, as only a division needs the two to be equal.
  induction expr with
  | number grouped value => rw [exactValue, Int64.ofInt_toInt]; rfl
  | reference grouped name => rw [exactValue, Int64.ofInt_toInt]; rfl
  | unary grouped operator operand operandHypothesis =>
      rw [evaluate, operandHypothesis signed.2 exactly, operatorNodes, List.map_append]
      simp only [Run.andThen, Operator.onWord_ofInt signed.1]
      rfl
  | binary grouped operator precedence left right leftHypothesis rightHypothesis =>
      obtain ⟨leftExactly, rightExactly, root⟩ := exactly
      rw [evaluate, leftHypothesis signed.1 leftExactly, rightHypothesis signed.2 rightExactly,
        operatorNodes, List.map_append, List.map_append, List.append_assoc]
      simp only [Run.andThen, Operator.onWords_ofInt root]
      rfl

/-- A run gives the exact values of all operators up to a reduction, and so does its result. -/
structure IsCalculated (valuation : String → Int64) (reduce : Int → Int) (expr : Expr)
    (run : Run) : Prop where
  result : run.result.map Int64.toInt = .ok (reduce (expr.exactValue valuation))
  records : (run.records.map fun record => (record.label, record.value.toInt)) =
    expr.operatorNodes.map fun node => (node.text, reduce (node.exactValue valuation))

/-- A reduction that agrees with 64 bits on all values describes the evaluation. -/
theorem isCalculated_evaluate {valuation : String → Int64} {reduce : Int → Int} {expr : Expr}
    (signed : expr.IsSigned) (exactly : expr.DividesExactly valuation)
    (root : (Int64.ofInt (expr.exactValue valuation)).toInt = reduce (expr.exactValue valuation))
    (nodes : ∀ node ∈ expr.operatorNodes,
      (Int64.ofInt (node.exactValue valuation)).toInt = reduce (node.exactValue valuation)) :
    expr.IsCalculated valuation reduce (expr.evaluate valuation) := by
  rw [evaluate_of_dividesExactly signed exactly]
  constructor
  case result => exact congrArg Except.ok root
  case records =>
    rw [List.map_map]
    refine List.map_congr_left fun node member => ?_
    exact congrArg (node.text, ·) (nodes node member)

end Expr

namespace Program

/--
Without a division, a run reports every exact value modulo 2 ^ 64 and cannot fail. With divisions,
it reports the exact values themselves where all of them are words and no exact divisor is zero.
-/
theorem run_isCalculated {source : String} {program : Program}
    (built : build source = .ok program) :
    ∃ expr, Expr.parse source = .ok expr ∧
      ∀ arguments : List Int64, program.parameters.length ≤ arguments.length →
        let valuation := argumentOf program.parameters arguments
        (expr.IsDivisionFree →
          expr.IsCalculated valuation (·.bmod (2 ^ 64)) (program.run arguments)) ∧
        (expr.StaysInRange valuation → expr.IsCalculated valuation id (program.run arguments)) := by
  obtain ⟨expr, success, lowered⟩ := build_eq_ok built
  have signed := (Expr.isCanonical_of_parse success).isWritable.isSigned
  obtain ⟨segment, found, rfl⟩ := ofExpr_eq_ok lowered
  refine ⟨expr, success, fun arguments enough => ?_⟩
  rw [run_ofSegment expr.isCovered_parameters found enough]
  constructor
  · intro free
    exact Expr.isCalculated_evaluate signed (free.dividesExactly _) Int64.toInt_ofInt
      fun _ _ => Int64.toInt_ofInt
  · intro inRange
    exact Expr.isCalculated_evaluate signed inRange.dividesExactly inRange.isInt64.toInt_ofInt
      fun node member => (inRange node member).1.toInt_ofInt

set_option maxRecDepth 8000 in
/-- An overflow is reduced in the first run, and the second one stays at the bounds of a word. -/
theorem run_isCalculated_of_bounds :
    let square := Program.mk ["x"]
      [.load 0, .load 0, .combine .times, .trace 0, .load 0, .combine .minus, .trace 1]
      ["x*X", "x*X-x"]
    let ratio := Program.mk ["a", "b"]
      [.load 0, .load 1, .combine .divide, .trace 0, .load 1, .combine .plus, .trace 1]
      ["a/b", "a/b+b"]
    let difference := Expr.binary false .minus 10
      (.binary false .times 20 (.reference false "x") (.reference false "X"))
      (.reference false "x")
    let sum := Expr.binary false .plus 10
      (.binary false .divide 20 (.reference false "a") (.reference false "b"))
      (.reference false "b")
    (build "x*X-x" = .ok square ∧ difference.IsDivisionFree ∧
      difference.IsCalculated (argumentOf ["x"] [Int64.minValue]) (·.bmod (2 ^ 64))
        (square.run [Int64.minValue]) ∧
      difference.exactValue (argumentOf ["x"] [Int64.minValue]) = 2 ^ 126 + 2 ^ 63) ∧
    build "a/b+b" = .ok ratio ∧
      sum.StaysInRange (argumentOf ["a", "b"] [Int64.minValue + 1, -1]) ∧
      sum.IsCalculated (argumentOf ["a", "b"] [Int64.minValue + 1, -1]) id
        (ratio.run [Int64.minValue + 1, -1]) := by
  intro square ratio difference sum
  have squareBuilt : build "x*X-x" = .ok square := by cbv
  have ratioBuilt : build "a/b+b" = .ok ratio := by cbv
  have differenceParsed : Expr.parse "x*X-x" = .ok difference := by cbv
  have sumParsed : Expr.parse "a/b+b" = .ok sum := by cbv
  have free : difference.IsDivisionFree := by decide +kernel
  have inRange : sum.StaysInRange (argumentOf ["a", "b"] [Int64.minValue + 1, -1]) := by
    decide +kernel
  obtain ⟨_, parsed, reduced⟩ := run_isCalculated squareBuilt
  obtain rfl := Except.ok.inj (parsed.symm.trans differenceParsed)
  obtain ⟨_, parsed, precise⟩ := run_isCalculated ratioBuilt
  obtain rfl := Except.ok.inj (parsed.symm.trans sumParsed)
  have large : difference.exactValue (argumentOf ["x"] [Int64.minValue]) = 2 ^ 126 + 2 ^ 63 := by
    decide +kernel
  exact ⟨⟨squareBuilt, free, (reduced [Int64.minValue] (by decide)).1 free, large⟩, ratioBuilt,
    inRange, (precise [Int64.minValue + 1, -1] (by decide)).2 inRange⟩

end Program

end TraceCalc
