/-
This file states the typing rules for function bodies and shows that emitted bodies follow them.
-/

import TraceCalc.Proofs.Program.Height
import TraceCalc.Wasm.Emission
import Mathlib.Algebra.Group.Nat.Defs

namespace TraceCalc

namespace Wasm

namespace Module

/-- Imported functions come before the functions with bodies. -/
def functionType? (source : Module) (function : UInt32) : Option FunctionType :=
  ((source.imports.map Import.type ++ source.functions)[function.toNat]?).bind fun type =>
    source.types[type.toNat]?

/-- An imported function has no body in the module. -/
def body? (source : Module) (function : UInt32) : Option Body :=
  if function.toNat < source.imports.length then none
  else source.bodies[function.toNat - source.imports.length]?

end Module

/-- A group declares as many locals as its count says. -/
def Body.declaredTypes (body : Body) : List ValueType :=
  body.locals.flatMap fun group => List.replicate group.count.toNat group.type

/-- An operation takes operands from the top of the stack and puts its results there. -/
inductive HasType (source : Module) (locals : List ValueType) : Operation → FunctionType → Prop
  | const32 (value : Int32) : HasType source locals (.const32 value) ⟨[], [.i32]⟩
  | const64 (value : Int64) : HasType source locals (.const64 value) ⟨[], [.i64]⟩
  | localGet {index : UInt32} {type : ValueType} (found : locals[index.toNat]? = some type) :
      HasType source locals (.localGet index) ⟨[], [type]⟩
  | localSet {index : UInt32} {type : ValueType} (found : locals[index.toNat]? = some type) :
      HasType source locals (.localSet index) ⟨[type], []⟩
  | call {function : UInt32} {type : FunctionType}
      (found : source.functionType? function = some type) :
      HasType source locals (.call function) type
  | calculate (operator : Operator) :
      HasType source locals (.calculate operator) ⟨[.i64, .i64], [.i64]⟩

/-- The types list the stack from the bottom; an operation leaves what lies below its operands. -/
inductive Transforms (source : Module) (locals : List ValueType) :
    List Operation → List ValueType → List ValueType → Prop
  | nil (types : List ValueType) : Transforms source locals [] types types
  | cons {operation : Operation} {rest : List Operation} {type : FunctionType}
      {before after : List ValueType} (below : List ValueType)
      (typed : HasType source locals operation type) (split : before = below ++ type.parameters)
      (later : Transforms source locals rest (below ++ type.results) after) :
      Transforms source locals (operation :: rest) before after

/-- The parameters are the first locals; exactly the results are left on an empty stack. -/
def Module.IsValidFunction (source : Module) (function : UInt32) (type : FunctionType)
    (body : Body) : Prop :=
  source.functionType? function = some type ∧ source.body? function = some body ∧
    Transforms source (type.parameters ++ body.declaredTypes) body.operations [] type.results

/-- A second sequence goes on with what the first one leaves. -/
theorem Transforms.append {source : Module} {locals : List ValueType}
    {first second : List Operation} {before between after : List ValueType}
    (started : Transforms source locals first before between)
    (ended : Transforms source locals second between after) :
    Transforms source locals (first ++ second) before after := by
  induction started with
  | nil types => exact ended
  | cons below typed split _ inductionHypothesis =>
      exact .cons below typed split (inductionHypothesis ended)

end Wasm

open Wasm

namespace Program

/-- The stack of a program holds only 64-bit values. -/
def wordTypes (height : Nat) : List ValueType := List.replicate height .i64

theorem wordTypes_succ (height : Nat) : wordTypes (height + 1) = wordTypes height ++ [.i64] :=
  List.replicate_succ'

/-- Function number zero receives the index of a label and a value. -/
theorem functionType?_trace (program : Program) :
    program.toModule.functionType? 0 = some ⟨[.i32, .i64], []⟩ := rfl

section Emitted

variable {program : Program} (fits : program.parameters.length < 2 ^ 32 - 1)

include fits

theorem toNat_scratch : program.scratch.toNat = program.parameters.length := by
  rw [scratch, UInt32.toNat_ofNat']
  exact Nat.mod_eq_of_lt (by omega)

theorem getElem?_localTypes {index : Nat} (bound : index ≤ program.parameters.length) :
    (wordTypes (program.parameters.length + 1))[(UInt32.ofNat index).toNat]? = some .i64 := by
  rw [UInt32.toNat_ofNat', Nat.mod_eq_of_lt (by omega), wordTypes, List.getElem?_replicate,
    if_pos (by omega)]

/-- The operations of an instruction change the stack as the instruction does. -/
theorem transforms_operations {instruction : Instruction} {height : Nat}
    (within : instruction.IsWithin program.parameters.length program.labels.length)
    (enough : instruction.operands ≤ height) :
    Transforms program.toModule (wordTypes (program.parameters.length + 1))
      (instruction.operations program.scratch) (wordTypes height)
      (wordTypes (instruction.heightAfter height)) := by
  have scratchType : (wordTypes (program.parameters.length + 1))[program.scratch.toNat]? =
      some .i64 := getElem?_localTypes fits (Nat.le_refl _)
  cases instruction with
  | const value =>
      refine .cons (wordTypes height) (.const64 value) (List.append_nil _).symm ?_
      rw [← wordTypes_succ]
      exact .nil _
  | load slot =>
      refine .cons (wordTypes height) (.localGet (getElem?_localTypes fits (Nat.le_of_lt within)))
        (List.append_nil _).symm ?_
      rw [← wordTypes_succ]
      exact .nil _
  | negate =>
      obtain ⟨below, rfl⟩ := Nat.exists_eq_add_of_le' (show 1 ≤ height from enough)
      refine .cons (wordTypes (below + 1)) (.const64 (-1)) (List.append_nil _).symm ?_
      refine .cons (wordTypes below) (.calculate .times) ?_ ?_
      · rw [wordTypes_succ, List.append_assoc]
        rfl
      · rw [← wordTypes_succ]
        exact .nil _
  | combine operator =>
      obtain ⟨below, rfl⟩ := Nat.exists_eq_add_of_le' (show 2 ≤ height from enough)
      refine .cons (wordTypes below) (.calculate operator) ?_ ?_
      · rw [wordTypes_succ (below + 1), wordTypes_succ below, List.append_assoc]
        rfl
      · rw [← wordTypes_succ]
        exact .nil _
  | trace label =>
      obtain ⟨below, rfl⟩ := Nat.exists_eq_add_of_le' (show 1 ≤ height from enough)
      refine .cons (wordTypes below) (.localSet scratchType) (wordTypes_succ below) ?_
      refine .cons (wordTypes below) (.const32 (Int32.ofNat label)) rfl ?_
      refine .cons (wordTypes below ++ [.i32]) (.localGet scratchType) (by simp) ?_
      refine .cons (wordTypes below) (.call (functionType?_trace program)) (by simp) ?_
      refine .cons (wordTypes below) (.localGet scratchType) rfl ?_
      rw [← wordTypes_succ]
      exact .nil _

/-- Instructions that are balanced become operations that are. -/
theorem transforms_flatMap {instructions : List Instruction} {height final : Nat}
    (within : ∀ instruction ∈ instructions,
      instruction.IsWithin program.parameters.length program.labels.length)
    (balanced : heightFrom height instructions = some final) :
    Transforms program.toModule (wordTypes (program.parameters.length + 1))
      (instructions.flatMap (Instruction.operations program.scratch)) (wordTypes height)
      (wordTypes final) := by
  induction instructions generalizing height with
  | nil =>
      rw [heightFrom, Option.some.injEq] at balanced
      rw [balanced]
      exact .nil _
  | cons instruction rest inductionHypothesis =>
      obtain ⟨instructionWithin, restWithin⟩ := List.forall_mem_cons.mp within
      obtain ⟨enough, restBalanced⟩ := heightFrom_cons_eq_some balanced
      rw [List.flatMap_cons]
      exact (transforms_operations fits instructionWithin enough).append
        (inductionHypothesis restWithin restBalanced)

/-- The only function with a body follows the typing rules. -/
theorem isValidFunction (wellFormed : program.IsWellFormed) :
    program.toModule.IsValidFunction 1
      ⟨List.replicate program.parameters.length .i64, [.i64]⟩ program.body := by
  refine ⟨rfl, rfl, ?_⟩
  have transformed := transforms_flatMap fits wellFormed.within wellFormed.balanced
  rw [wordTypes_succ program.parameters.length] at transformed
  exact transformed

end Emitted

end Program

end TraceCalc
