/-
This file compares the structure of two expressions, with any relation between their names.
-/

import Mathlib.Data.List.Forall2
import TraceCalc.Proofs.Program.Lowering

namespace TraceCalc

namespace Expr

/--
The expressions have the same shape, operators and literals, and names in the same places are alike.
Their marks and their precedences have no part in it.
-/
inductive Corresponds (alike : String → String → Prop) : Expr → Expr → Prop
  | number {grouped otherGrouped : Bool} (value : Int64) :
      Corresponds alike (.number grouped value) (.number otherGrouped value)
  | reference {grouped otherGrouped : Bool} {name other : String} (names : alike name other) :
      Corresponds alike (.reference grouped name) (.reference otherGrouped other)
  | unary {grouped otherGrouped : Bool} (operator : Operator) {operand other : Expr}
      (inner : Corresponds alike operand other) :
      Corresponds alike (.unary grouped operator operand) (.unary otherGrouped operator other)
  | binary {grouped otherGrouped : Bool} {precedence otherPrecedence : Precedence}
      (operator : Operator) {left right otherLeft otherRight : Expr}
      (before : Corresponds alike left otherLeft) (behind : Corresponds alike right otherRight) :
      Corresponds alike (.binary grouped operator precedence left right)
        (.binary otherGrouped operator otherPrecedence otherLeft otherRight)

namespace Corresponds

variable {alike loose : String → String → Prop} {first second : Expr}

/-- The names of corresponding expressions are alike one by one. -/
theorem forall₂_references (form : first.Corresponds alike second) :
    List.Forall₂ alike first.references second.references := by
  induction form with
  | number value => exact .nil
  | reference names => exact .cons names .nil
  | unary operator _ inner => exact inner
  | binary operator _ _ before behind => exact List.rel_append before behind

/-- The names in the same places decide which relation holds between all names. -/
theorem of_zip (form : first.Corresponds loose second)
    (names : ∀ pair ∈ first.references.zip second.references, alike pair.1 pair.2) :
    first.Corresponds alike second := by
  induction form with
  | number value => exact .number value
  | reference _ => exact .reference (names _ List.mem_cons_self)
  | unary operator _ inner => exact .unary operator (inner names)
  | binary operator left _ before behind =>
      rw [references, references, List.zip_append left.forall₂_references.length_eq,
        List.forall_mem_append] at names
      exact .binary operator (before names.1) (behind names.2)

/-- Expressions whose names have the same slots have the same code and as many labels. -/
theorem exists_lowerFrom {keys otherKeys : List String} {firstLabel : Nat} {segment : Segment}
    (form : first.Corresponds alike second)
    (slots : ∀ {name other : String}, alike name other → slot? keys name = slot? otherKeys other)
    (lowered : first.lowerFrom keys firstLabel = .ok segment) :
    ∃ found, second.lowerFrom otherKeys firstLabel = .ok found ∧
      found.instructions = segment.instructions ∧ found.labels.length = segment.labels.length := by
  induction form generalizing firstLabel segment with
  | number value =>
      rw [lowerFrom, Except.ok.injEq] at lowered
      exact ⟨segment, by rw [lowerFrom, lowered], rfl, rfl⟩
  | reference names =>
      obtain ⟨slot, found, rfl⟩ := lowerFrom_reference_eq_ok lowered
      rw [slots names] at found
      exact ⟨_, by rw [lowerFrom, found], rfl, rfl⟩
  | unary operator _ inner =>
      obtain ⟨operandSegment, code, operandLowered, sign, rfl⟩ := lowerFrom_unary_eq_ok lowered
      obtain ⟨found, foundLowered, instructions, labels⟩ := inner operandLowered
      refine ⟨_, by rw [lowerFrom, foundLowered, sign]; rfl, ?_, ?_⟩
      · rw [Segment.close, Segment.close, instructions, labels]
      · simp only [Segment.close, List.length_append, labels, List.length_singleton]
  | binary operator _ _ before behind =>
      obtain ⟨left, right, leftLowered, rightLowered, rfl⟩ := lowerFrom_binary_eq_ok lowered
      obtain ⟨foundLeft, foundLeftLowered, leftCode, leftLabels⟩ := before leftLowered
      obtain ⟨foundRight, foundRightLowered, rightCode, rightLabels⟩ := behind rightLowered
      rw [← leftLabels] at foundRightLowered
      refine ⟨_, by
        rw [lowerFrom, foundLeftLowered]
        simp only [bind, Except.bind, foundRightLowered]
        rfl, ?_, ?_⟩
      · simp only [Segment.close, Segment.append, List.length_append, leftCode, rightCode,
          leftLabels, rightLabels]
      · simp only [Segment.close, Segment.append, List.length_append, leftLabels, rightLabels,
          List.length_singleton]

end Corresponds

end Expr

namespace Program

/-- An expression with signs and parameters for its variables has a program. -/
theorem exists_ofExpr {expr : Expr} {parameters : List String} (signed : expr.IsSigned)
    (covered : expr.IsCovered parameters) : ∃ program, ofExpr expr parameters = .ok program := by
  obtain ⟨segment, lowered⟩ := expr.exists_lowerFrom signed covered 0
  exact ⟨_, by rw [ofExpr, lowered]; rfl⟩

/-- Programs of corresponding expressions have the same code if the slots of their names agree. -/
theorem ofExpr_congr {alike : String → String → Prop} {first second : Expr}
    {parameters otherParameters : List String} {program other : Program}
    (form : first.Corresponds alike second)
    (slots : ∀ {name renamed : String}, alike name renamed →
      Expr.slot? (parameters.map Name.fold) name =
        Expr.slot? (otherParameters.map Name.fold) renamed)
    (lowered : ofExpr first parameters = .ok program)
    (otherLowered : ofExpr second otherParameters = .ok other) :
    other.instructions = program.instructions ∧ other.labels.length = program.labels.length := by
  obtain ⟨segment, found, rfl⟩ := ofExpr_eq_ok lowered
  obtain ⟨otherSegment, otherFound, rfl⟩ := ofExpr_eq_ok otherLowered
  obtain ⟨again, foundAgain, instructions, labels⟩ := form.exists_lowerFrom slots found
  obtain rfl : otherSegment = again := Except.ok.inj (otherFound.symm.trans foundAgain)
  exact ⟨instructions, labels⟩

end Program

end TraceCalc
