/-
This file shows that the height of the stack is known before a program runs.
-/

import TraceCalc.Program.Execution
import TraceCalc.Proofs.Program.Lowering

namespace TraceCalc

namespace Instruction

/-- An instruction needs this many values on the stack. -/
def operands : Instruction → Nat
  | .const _ | .load _ => 0
  | .negate | .trace _ => 1
  | .combine _ => 2

/-- The slots and the labels of the instruction lie below the counts. -/
def IsWithin (slots labels : Nat) : Instruction → Prop
  | .load slot => slot < slots
  | .trace label => label < labels
  | .const _ | .negate | .combine _ => True

instance (slots labels : Nat) : (instruction : Instruction) →
    Decidable (instruction.IsWithin slots labels)
  | .load slot => inferInstanceAs (Decidable (slot < slots))
  | .trace label => inferInstanceAs (Decidable (label < labels))
  | .const _ | .negate | .combine _ => inferInstanceAs (Decidable True)

/-- Larger counts admit the same instruction. -/
theorem IsWithin.mono {slots labels moreSlots moreLabels : Nat} {instruction : Instruction}
    (within : instruction.IsWithin slots labels) (slotsLe : slots ≤ moreSlots)
    (labelsLe : labels ≤ moreLabels) : instruction.IsWithin moreSlots moreLabels := by
  cases instruction with
  | trace label => exact Nat.lt_of_lt_of_le within labelsLe
  | load slot => exact Nat.lt_of_lt_of_le within slotsLe
  | _ => trivial

/-- The code of a sign has no slots and no labels. -/
theorem isWithin_of_mem_signCode {operator : Operator} {code : List Instruction}
    (found : operator.signCode? = some code) (slots labels : Nat) :
    ∀ instruction ∈ code, instruction.IsWithin slots labels := by
  rcases Operator.signCode?_eq_some found with ⟨_, rfl⟩ | ⟨_, rfl⟩
  · exact List.forall_mem_nil _
  · exact List.forall_mem_singleton.mpr trivial

end Instruction

namespace Program

/-- The height after the instructions exists when none of them lacks operands. -/
def heightFrom (height : Nat) : List Instruction → Option Nat
  | [] => some height
  | instruction :: rest =>
      if instruction.operands ≤ height then heightFrom (instruction.heightAfter height) rest
      else none

/-- The instructions find what they need and leave one value. -/
structure IsWellFormed (program : Program) : Prop where
  within : ∀ instruction ∈ program.instructions,
    instruction.IsWithin program.parameters.length program.labels.length
  balanced : heightFrom 0 program.instructions = some 1

theorem heightFrom_cons_eq_some {instruction : Instruction} {rest : List Instruction}
    {height final : Nat} (balanced : heightFrom height (instruction :: rest) = some final) :
    instruction.operands ≤ height ∧
      heightFrom (instruction.heightAfter height) rest = some final := by
  rw [heightFrom] at balanced
  split at balanced
  next enough => exact ⟨enough, balanced⟩
  next => simp at balanced

theorem heightFrom_cons {instruction : Instruction} {rest : List Instruction} {height : Nat}
    (enough : instruction.operands ≤ height) :
    heightFrom height (instruction :: rest) = heightFrom (instruction.heightAfter height) rest := by
  rw [heightFrom, if_pos enough]

/-- The instructions behind the first ones start where the first ones end. -/
theorem heightFrom_append (height : Nat) (first second : List Instruction) :
    heightFrom height (first ++ second) =
      (heightFrom height first).bind (heightFrom · second) := by
  induction first generalizing height with
  | nil => rfl
  | cons instruction rest inductionHypothesis =>
      rw [List.cons_append, heightFrom, heightFrom]
      split
      next => exact inductionHypothesis _
      next => rfl

/-- The code of a sign leaves the height as it is. -/
theorem heightFrom_signCode {operator : Operator} {code : List Instruction}
    (found : operator.signCode? = some code) (height : Nat) (rest : List Instruction) :
    heightFrom (height + 1) (code ++ rest) = heightFrom (height + 1) rest := by
  rcases Operator.signCode?_eq_some found with ⟨_, rfl⟩ | ⟨_, rfl⟩
  · rfl
  · exact heightFrom_cons (Nat.le_add_left 1 height)

/-- The code of an expression puts one value on the stack, whatever lies below it. -/
theorem heightFrom_lowerFrom {keys : List String} {firstLabel : Nat} {expr : Expr}
    {segment : Segment} (lowered : expr.lowerFrom keys firstLabel = .ok segment) (height : Nat)
    (rest : List Instruction) :
    heightFrom height (segment.instructions ++ rest) = heightFrom (height + 1) rest := by
  induction expr generalizing firstLabel segment height rest with
  | number grouped value =>
      rw [Expr.lowerFrom, Except.ok.injEq] at lowered
      rw [← lowered]
      exact heightFrom_cons (Nat.zero_le height)
  | reference grouped name =>
      obtain ⟨slot, _, rfl⟩ := Expr.lowerFrom_reference_eq_ok lowered
      exact heightFrom_cons (Nat.zero_le height)
  | unary grouped operator operand operandHypothesis =>
      obtain ⟨inner, code, operandLowered, sign, rfl⟩ := Expr.lowerFrom_unary_eq_ok lowered
      simp only [Segment.close, List.append_assoc, List.singleton_append]
      rw [operandHypothesis operandLowered, heightFrom_signCode sign,
        heightFrom_cons (by simp [Instruction.operands])]
      rfl
  | binary grouped operator precedence left right leftHypothesis rightHypothesis =>
      obtain ⟨first, second, leftLowered, rightLowered, rfl⟩ := Expr.lowerFrom_binary_eq_ok lowered
      simp only [Segment.close, Segment.append, List.append_assoc, List.cons_append,
        List.nil_append]
      rw [leftHypothesis leftLowered, rightHypothesis rightLowered,
        heightFrom_cons (by simp [Instruction.operands]),
        heightFrom_cons (by simp [Instruction.operands, Instruction.heightAfter])]
      rfl

/-- The slots of an expression denote its parameters, and its labels are the next ones. -/
theorem isWithin_of_lowerFrom {keys : List String} {firstLabel : Nat} {expr : Expr}
    {segment : Segment} (lowered : expr.lowerFrom keys firstLabel = .ok segment) :
    ∀ instruction ∈ segment.instructions,
      instruction.IsWithin keys.length (firstLabel + segment.labels.length) := by
  induction expr generalizing firstLabel segment with
  | number grouped value =>
      rw [Expr.lowerFrom, Except.ok.injEq] at lowered
      rw [← lowered]
      exact List.forall_mem_singleton.mpr trivial
  | reference grouped name =>
      obtain ⟨slot, found, rfl⟩ := Expr.lowerFrom_reference_eq_ok lowered
      have inside : slot < keys.length := by
        rw [Expr.slot?, List.idxOf?, List.findIdx?_eq_some_iff_getElem] at found
        exact found.1
      exact List.forall_mem_singleton.mpr inside
  | unary grouped operator operand operandHypothesis =>
      obtain ⟨inner, code, operandLowered, sign, rfl⟩ := Expr.lowerFrom_unary_eq_ok lowered
      simp only [Segment.close, List.forall_mem_append, List.forall_mem_singleton,
        List.length_append, List.length_singleton]
      refine ⟨⟨?_, Instruction.isWithin_of_mem_signCode sign _ _⟩, ?_⟩
      · intro instruction member
        exact (operandHypothesis operandLowered instruction member).mono (Nat.le_refl _) (by omega)
      · change firstLabel + inner.labels.length < _
        omega
  | binary grouped operator precedence left right leftHypothesis rightHypothesis =>
      obtain ⟨first, second, leftLowered, rightLowered, rfl⟩ := Expr.lowerFrom_binary_eq_ok lowered
      simp only [Segment.close, Segment.append, List.forall_mem_append, List.forall_mem_singleton,
        List.length_append, List.length_singleton]
      refine ⟨⟨⟨?_, ?_⟩, trivial⟩, ?_⟩
      · intro instruction member
        exact (leftHypothesis leftLowered instruction member).mono (Nat.le_refl _) (by omega)
      · intro instruction member
        exact (rightHypothesis rightLowered instruction member).mono (Nat.le_refl _) (by omega)
      · change firstLabel + (first.labels.length + second.labels.length) < _
        omega

/-- Every program of an expression is well formed. -/
theorem isWellFormed_of_ofExpr {expr : Expr} {parameters : List String} {program : Program}
    (lowered : ofExpr expr parameters = .ok program) : program.IsWellFormed := by
  obtain ⟨segment, found, rfl⟩ := ofExpr_eq_ok lowered
  constructor
  · have within := isWithin_of_lowerFrom found
    rwa [List.length_map, Nat.zero_add] at within
  · have balanced := heightFrom_lowerFrom found 0 []
    rwa [List.append_nil] at balanced

/-- Every source that can be built is built as a well formed program. -/
theorem isWellFormed_of_build {source : String} {program : Program}
    (built : build source = .ok program) : program.IsWellFormed := by
  obtain ⟨_, _, lowered⟩ := build_eq_ok built
  exact isWellFormed_of_ofExpr lowered

/-- A step changes the height of the stack as the instruction says. -/
theorem length_of_step {labels : List String} {arguments stack next : List Int64}
    {instruction : Instruction} {records : List Record}
    (success : instruction.step labels arguments stack = .ok (next, records)) :
    next.length = instruction.heightAfter stack.length := by
  cases instruction with
  | const value =>
      simp only [Instruction.step, Except.ok.injEq, Prod.mk.injEq] at success
      rw [← success.1]
      rfl
  | load slot =>
      cases found : arguments[slot]? with
      | none => simp [Instruction.step, found] at success
      | some value =>
          simp only [Instruction.step, found, Except.ok.injEq, Prod.mk.injEq] at success
          rw [← success.1]
          rfl
  | negate =>
      cases stack with
      | nil => simp [Instruction.step] at success
      | cons value rest =>
          simp only [Instruction.step, Except.ok.injEq, Prod.mk.injEq] at success
          rw [← success.1]
          rfl
  | combine operator =>
      match stack with
      | [] | [_] => simp [Instruction.step, Operator.combine, Except.map] at success
      | right :: left :: rest =>
          cases applied : operator.apply left right with
          | error error =>
              simp [Instruction.step, Operator.combine, applied, Except.map] at success
          | ok value =>
              simp only [Instruction.step, Operator.combine, applied, Except.map, Except.ok.injEq,
                Prod.mk.injEq] at success
              rw [← success.1]
              rfl
  | trace label =>
      cases stack with
      | nil => simp [Instruction.step] at success
      | cons value rest =>
          cases found : labels[label]? with
          | none => simp [Instruction.step, found] at success
          | some text =>
              simp only [Instruction.step, found, Except.ok.injEq, Prod.mk.injEq] at success
              rw [← success.1]
              rfl

end Program

end TraceCalc
