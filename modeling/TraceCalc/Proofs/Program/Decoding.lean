/-
This file reads expressions back from flat code.
-/

import TraceCalc.Proofs.Expr.Correspondence
import TraceCalc.Proofs.Name.Repetition

namespace TraceCalc

namespace Expr

/-- The plain form keeps the structure, the literals and the keys of the variables. -/
def plain : Expr → Expr
  | .number _ value => .number false value
  | .reference _ name => .reference false (Name.fold name)
  | .unary _ operator operand => .unary false operator operand.plain
  | .binary _ operator _ left right =>
      .binary false operator operator.precedence left.plain right.plain

/-- Expressions of one plain form differ in their marks, precedences and spellings only. -/
theorem corresponds_of_plain_eq {first second : Expr} (same : first.plain = second.plain) :
    first.Corresponds Name.SameKey second := by
  induction first generalizing second with
  | number grouped value =>
      cases second with
      | number otherGrouped other =>
          obtain ⟨_, rfl⟩ := Expr.number.inj same
          exact .number value
      | _ => simp [plain] at same
  | reference grouped name =>
      cases second with
      | reference otherGrouped other => exact .reference (Expr.reference.inj same).2
      | _ => simp [plain] at same
  | unary grouped operator operand inner =>
      cases second with
      | unary otherGrouped other otherOperand =>
          obtain ⟨_, rfl, operands⟩ := Expr.unary.inj same
          exact .unary operator (inner operands)
      | _ => simp [plain] at same
  | binary grouped operator precedence left right before behind =>
      cases second with
      | binary otherGrouped other otherPrecedence otherLeft otherRight =>
          obtain ⟨_, rfl, _, lefts, rights⟩ := Expr.binary.inj same
          exact .binary operator (before lefts) (behind rights)
      | _ => simp [plain] at same

/-- The slot of a name holds its key. -/
theorem getElem?_of_slot? {keys : List String} {name : String} {slot : Nat}
    (found : slot? keys name = some slot) : keys[slot]? = some (Name.fold name) := by
  rw [slot?, List.idxOf?, List.findIdx?_eq_some_iff_getElem] at found
  obtain ⟨inside, same, _⟩ := found
  rw [List.getElem?_eq_getElem inside, eq_of_beq same]

end Expr

/-- While code is read, its expressions wait on a stack, and the top one may lack its trace. -/
structure Decoding where
  stack : List Expr
  untraced : Bool

namespace Decoding

/-- A trace completes the operator before it; without one, it is the trace of a positive sign. -/
def step (keys : List String) (decoding : Decoding) : Instruction → Option Decoding
  | .const value => some ⟨.number false value :: decoding.stack, false⟩
  | .load slot => keys[slot]?.map fun key => ⟨.reference false key :: decoding.stack, false⟩
  | .negate =>
      match decoding.stack with
      | operand :: below => some ⟨.unary false .minus operand :: below, true⟩
      | [] => none
  | .combine operator =>
      match decoding.stack with
      | right :: left :: below =>
          some ⟨.binary false operator operator.precedence left right :: below, true⟩
      | _ => none
  | .trace _ =>
      match decoding.untraced, decoding.stack with
      | true, stack => some ⟨stack, false⟩
      | false, operand :: below => some ⟨.unary false .plus operand :: below, false⟩
      | false, [] => none

/-- The instructions are read in their order. -/
def run (keys : List String) (decoding : Decoding) (code : List Instruction) : Option Decoding :=
  code.foldlM (step keys) decoding

/-- The code of an expression puts its plain form on the stack, and the code after it goes on. -/
theorem run_lowerFrom {keys : List String} {firstLabel : Nat} {expr : Expr} {segment : Segment}
    (lowered : expr.lowerFrom keys firstLabel = .ok segment) (stack : List Expr)
    (rest : List Instruction) :
    run keys ⟨stack, false⟩ (segment.instructions ++ rest) =
      run keys ⟨expr.plain :: stack, false⟩ rest := by
  -- The right operand is read above the left one, so the stack is arbitrary.
  induction expr generalizing firstLabel segment stack rest with
  | number grouped value =>
      rw [Expr.lowerFrom, Except.ok.injEq] at lowered
      rw [← lowered]
      rfl
  | reference grouped name =>
      obtain ⟨slot, found, rfl⟩ := Expr.lowerFrom_reference_eq_ok lowered
      simp only [Segment.single, List.singleton_append, run, List.foldlM_cons, step,
        Expr.getElem?_of_slot? found]
      rfl
  | unary grouped operator operand inner =>
      obtain ⟨segment, code, operandLowered, sign, rfl⟩ := Expr.lowerFrom_unary_eq_ok lowered
      simp only [Segment.close, List.append_assoc]
      rw [inner operandLowered]
      rcases Operator.signCode?_eq_some sign with ⟨rfl, rfl⟩ | ⟨rfl, rfl⟩ <;> rfl
  | binary grouped operator precedence left right before behind =>
      obtain ⟨first, second, leftLowered, rightLowered, rfl⟩ := Expr.lowerFrom_binary_eq_ok lowered
      simp only [Segment.close, Segment.append, List.append_assoc]
      rw [before leftLowered, behind rightLowered]
      rfl

end Decoding

namespace Program

/-- The instructions of a program are read as the plain form of its expression. -/
theorem run_decoding_ofExpr {expr : Expr} {parameters : List String} {program : Program}
    (lowered : ofExpr expr parameters = .ok program) :
    Decoding.run (parameters.map Name.fold) ⟨[], false⟩ program.instructions =
      some ⟨[expr.plain], false⟩ := by
  obtain ⟨segment, found, rfl⟩ := ofExpr_eq_ok lowered
  have read := Decoding.run_lowerFrom found [] []
  rwa [List.append_nil] at read

/--
Two expressions have the same instructions over their common parameters exactly if they have the
same shape, operators and literals, and one variable wherever the other has it.
-/
theorem instructions_eq_iff_corresponds {first second : Expr} {parameters : List String}
    (firstSigned : first.IsSigned) (secondSigned : second.IsSigned)
    (firstCovered : first.IsCovered parameters) (secondCovered : second.IsCovered parameters) :
    ∃ program other, ofExpr first parameters = .ok program ∧
      ofExpr second parameters = .ok other ∧
      (program.instructions = other.instructions ↔ first.Corresponds Name.SameKey second) := by
  obtain ⟨program, lowered⟩ := exists_ofExpr firstSigned firstCovered
  obtain ⟨other, otherLowered⟩ := exists_ofExpr secondSigned secondCovered
  refine ⟨program, other, lowered, otherLowered, ?_, ?_⟩
  · intro same
    have read := run_decoding_ofExpr lowered
    rw [same, run_decoding_ofExpr otherLowered] at read
    simp only [Option.some.injEq, Decoding.mk.injEq, List.cons.injEq, and_true] at read
    exact Expr.corresponds_of_plain_eq read.symm
  · intro form
    have slots {name renamed : String} (same : Name.SameKey name renamed) :
        Expr.slot? (parameters.map Name.fold) name =
          Expr.slot? (parameters.map Name.fold) renamed := by
      rw [Expr.slot?, Expr.slot?, same]
    exact (ofExpr_congr form slots lowered otherLowered).1.symm

/-- Marks and spellings are lost in the code, and the order of two signs is kept. -/
theorem instructions_eq_iff_corresponds_of_signs :
    let first := Expr.unary true .plus (.unary false .minus (.reference false "x"))
    let second := Expr.unary false .plus (.unary true .minus (.reference true "X"))
    let third := Expr.unary false .minus (.unary false .plus (.reference false "x"))
    first.IsSigned ∧ second.IsSigned ∧ third.IsSigned ∧ first.IsCovered ["X"] ∧
      second.IsCovered ["X"] ∧ third.IsCovered ["X"] ∧
      (∃ program other, ofExpr first ["X"] = .ok program ∧ ofExpr second ["X"] = .ok other ∧
        program.instructions = other.instructions) ∧
      ∃ program other, ofExpr first ["X"] = .ok program ∧ ofExpr third ["X"] = .ok other ∧
        program.instructions ≠ other.instructions := by
  intro first second third
  have signed : first.IsSigned ∧ second.IsSigned ∧ third.IsSigned := by decide
  have covered : first.IsCovered ["X"] ∧ second.IsCovered ["X"] ∧ third.IsCovered ["X"] := by
    decide +kernel
  have alike : first.Corresponds Name.SameKey second :=
    .unary .plus (.unary .minus (.reference (by decide +kernel)))
  have different : ¬ first.Corresponds Name.SameKey third := by
    change ¬ Expr.Corresponds _ (.unary _ .plus _) (.unary _ .minus _)
    intro form
    cases form
  obtain ⟨program, other, lowered, otherLowered, same⟩ :=
    instructions_eq_iff_corresponds signed.1 signed.2.1 covered.1 covered.2.1
  obtain ⟨again, last, loweredAgain, lastLowered, unlike⟩ :=
    instructions_eq_iff_corresponds signed.1 signed.2.2 covered.1 covered.2.2
  exact ⟨signed.1, signed.2.1, signed.2.2, covered.1, covered.2.1, covered.2.2,
    ⟨program, other, lowered, otherLowered, same.mpr alike⟩,
    again, last, loweredAgain, lastLowered, fun equal => different (unlike.mp equal)⟩

end Program

end TraceCalc
