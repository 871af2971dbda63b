/-
This file states when an expression can be lowered and what its parts contribute.
-/

import TraceCalc.Program.Lowering
import TraceCalc.Proofs.Expr.Evaluation

namespace TraceCalc

theorem Operator.exists_signCode? {operator : Operator} (sign : operator.isSign = true) :
    ∃ code, operator.signCode? = some code := by
  cases operator with
  | plus => exact ⟨[], rfl⟩
  | minus => exact ⟨[.negate], rfl⟩
  | times => simp [isSign] at sign
  | divide => simp [isSign] at sign

/-- The positive sign has no code, and the negative one has a single instruction. -/
theorem Operator.signCode?_eq_some {operator : Operator} {code : List Instruction}
    (found : operator.signCode? = some code) :
    operator = .plus ∧ code = [] ∨ operator = .minus ∧ code = [.negate] := by
  cases operator with
  | plus => exact .inl ⟨rfl, (Option.some.inj found).symm⟩
  | minus => exact .inr ⟨rfl, (Option.some.inj found).symm⟩
  | times => simp [signCode?] at found
  | divide => simp [signCode?] at found

namespace Expr

/-- Every variable of the expression is denoted by some parameter. -/
def IsCovered (parameters : List String) (expr : Expr) : Prop :=
  ∀ name ∈ expr.references, ∃ parameter ∈ parameters, Name.fold parameter = Name.fold name

instance (parameters : List String) (expr : Expr) : Decidable (expr.IsCovered parameters) :=
  inferInstanceAs (Decidable (∀ name ∈ expr.references, ∃ parameter ∈ parameters, _))

theorem IsCovered.left {parameters : List String} {grouped : Bool} {operator : Operator}
    {precedence : Precedence} {left right : Expr}
    (covered : (binary grouped operator precedence left right).IsCovered parameters) :
    left.IsCovered parameters :=
  fun name member => covered name (List.mem_append_left _ member)

theorem IsCovered.right {parameters : List String} {grouped : Bool} {operator : Operator}
    {precedence : Precedence} {left right : Expr}
    (covered : (binary grouped operator precedence left right).IsCovered parameters) :
    right.IsCovered parameters :=
  fun name member => covered name (List.mem_append_right _ member)

/-- The slot of a variable is the place of the first parameter that denotes it. -/
theorem slot?_eq_findIdx {parameters : List String} {name : String}
    (covered : ∃ parameter ∈ parameters, Name.fold parameter = Name.fold name) :
    slot? (parameters.map Name.fold) name =
      some (parameters.findIdx fun parameter => Name.fold parameter = Name.fold name) := by
  rw [slot?, List.idxOf?, List.findIdx?_map]
  apply List.findIdx?_eq_some_of_exists
  simpa using covered

section Inversion

variable {keys : List String} {firstLabel : Nat} {grouped : Bool} {operator : Operator}
  {segment : Segment}

theorem lowerFrom_reference_eq_ok {name : String}
    (lowered : (reference grouped name).lowerFrom keys firstLabel = .ok segment) :
    ∃ slot, slot? keys name = some slot ∧ segment = .single (.load slot) := by
  rw [lowerFrom] at lowered
  split at lowered
  next slot found =>
      simp only [Except.ok.injEq] at lowered
      exact ⟨slot, found, lowered.symm⟩
  next => simp at lowered

theorem lowerFrom_unary_eq_ok {operand : Expr}
    (lowered : (unary grouped operator operand).lowerFrom keys firstLabel = .ok segment) :
    ∃ inner code, operand.lowerFrom keys firstLabel = .ok inner ∧
      operator.signCode? = some code ∧
      segment = inner.close firstLabel code (unary grouped operator operand).text := by
  rw [lowerFrom] at lowered
  cases operandLowered : operand.lowerFrom keys firstLabel with
  | error error => simp [operandLowered, bind, Except.bind] at lowered
  | ok inner =>
      simp only [operandLowered, bind, Except.bind] at lowered
      split at lowered
      next code found =>
          simp only [Except.ok.injEq] at lowered
          exact ⟨inner, code, rfl, found, lowered.symm⟩
      next => simp at lowered

theorem lowerFrom_binary_eq_ok {precedence : Precedence} {left right : Expr}
    (lowered :
      (binary grouped operator precedence left right).lowerFrom keys firstLabel = .ok segment) :
    ∃ first second, left.lowerFrom keys firstLabel = .ok first ∧
      right.lowerFrom keys (firstLabel + first.labels.length) = .ok second ∧
      segment = (first.append second).close firstLabel [.combine operator]
        (binary grouped operator precedence left right).text := by
  rw [lowerFrom] at lowered
  cases leftLowered : left.lowerFrom keys firstLabel with
  | error error => simp [leftLowered, bind, Except.bind] at lowered
  | ok first =>
      simp only [leftLowered, bind, Except.bind] at lowered
      cases rightLowered : right.lowerFrom keys (firstLabel + first.labels.length) with
      | error error => simp [rightLowered] at lowered
      | ok second =>
          simp only [rightLowered, Except.ok.injEq] at lowered
          exact ⟨first, second, rfl, rightLowered, lowered.symm⟩

end Inversion

/-- An expression with signs and parameters for its variables has a program. -/
theorem exists_lowerFrom {parameters : List String} (expr : Expr) (signed : expr.IsSigned)
    (covered : expr.IsCovered parameters) (firstLabel : Nat) :
    ∃ segment, expr.lowerFrom (parameters.map Name.fold) firstLabel = .ok segment := by
  induction expr generalizing firstLabel with
  | number grouped value => exact ⟨_, rfl⟩
  | reference grouped name =>
      have found := slot?_eq_findIdx (covered name (List.mem_singleton_self name))
      exact ⟨_, by rw [lowerFrom, found]⟩
  | unary grouped operator operand operandHypothesis =>
      obtain ⟨inner, lowered⟩ := operandHypothesis signed.2 covered firstLabel
      obtain ⟨code, found⟩ := Operator.exists_signCode? signed.1
      exact ⟨_, by rw [lowerFrom, lowered, found]; rfl⟩
  | binary grouped operator precedence left right leftHypothesis rightHypothesis =>
      obtain ⟨first, leftLowered⟩ := leftHypothesis signed.1 covered.left firstLabel
      obtain ⟨second, rightLowered⟩ :=
        rightHypothesis signed.2 covered.right (firstLabel + first.labels.length)
      exact ⟨_, by
        rw [lowerFrom, leftLowered]
        simp only [bind, Except.bind, rightLowered]
        rfl⟩

end Expr

namespace Program

theorem ofExpr_eq_ok {expr : Expr} {parameters : List String} {program : Program}
    (lowered : ofExpr expr parameters = .ok program) :
    ∃ segment, expr.lowerFrom (parameters.map Name.fold) 0 = .ok segment ∧
      program = ⟨parameters, segment.instructions, segment.labels⟩ := by
  rw [ofExpr] at lowered
  cases found : expr.lowerFrom (parameters.map Name.fold) 0 with
  | error error => simp [found, Except.map] at lowered
  | ok segment =>
      simp only [found, Except.map, Except.ok.injEq] at lowered
      exact ⟨segment, rfl, lowered.symm⟩

/-- A program of a source is the program of an expression with its own parameters. -/
theorem build_eq_ok {source : String} {program : Program} (built : build source = .ok program) :
    ∃ expr, Expr.parse source = .ok expr ∧ ofExpr expr expr.parameters = .ok program := by
  rw [build] at built
  cases found : Expr.parse source with
  | error error => simp [found, Except.bind] at built
  | ok expr =>
      simp only [found, Except.bind] at built
      exact ⟨expr, rfl, built⟩

end Program

end TraceCalc
