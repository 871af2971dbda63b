/-
This file states what a decoder finds in the module of a program.
-/

import Mathlib.Data.List.Forall2
import TraceCalc.Proofs.Wasm.ShortestForm
import TraceCalc.Wasm.Emission

namespace TraceCalc

open Wasm

/-- An instruction becomes these operations; the scratch local comes right after the parameters. -/
inductive Instruction.ExpandsTo (arity : Nat) : Instruction → List Operation → Prop
  | const (value : Int64) : ExpandsTo arity (.const value) [.const64 value]
  | load {slot : Nat} {index : UInt32} (reduced : index.toNat = slot % 2 ^ 32) :
      ExpandsTo arity (.load slot) [.localGet index]
  | negate {factor : Int64} (negative : factor.toInt = -1) :
      ExpandsTo arity .negate [.const64 factor, .calculate .times]
  | combine (operator : Operator) : ExpandsTo arity (.combine operator) [.calculate operator]
  | trace {label : Nat} {scratch : UInt32} {number : Int32} (behind : scratch.toNat = arity)
      (wrapped : number.toInt = Int.bmod label (2 ^ 32)) :
      ExpandsTo arity (.trace label)
        [.localSet scratch, .const32 number, .localGet scratch, .call 0, .localGet scratch]

/-- The operations are determined by the instruction. -/
theorem Instruction.ExpandsTo.eq_operations {arity : Nat} {instruction : Instruction}
    {operations : List Operation} (expanded : instruction.ExpandsTo arity operations) :
    operations = instruction.operations (UInt32.ofNat arity) := by
  cases expanded with
  | const value => rfl
  | load reduced =>
      have same := UInt32.toNat_inj.mp (reduced.trans UInt32.toNat_ofNat'.symm)
      rw [same]
      rfl
  | negate negative =>
      have same := Int64.toInt_inj.mp (negative.trans (by decide : -1 = (-1 : Int64).toInt))
      rw [same]
      rfl
  | combine operator => rfl
  | trace behind wrapped =>
      have same := Int32.toInt_inj.mp (wrapped.trans Int32.toInt_ofNat'.symm)
      rw [same, ← behind, UInt32.ofNat_toNat]
      rfl

namespace Program

variable {program : Program}

/-- A module that is small enough has room for every parameter and for the scratch local. -/
theorem length_parameters_lt (small : program.toModule.encode.length < 2 ^ 32) :
    program.parameters.length < 2 ^ 32 - 1 := by
  have counted := length_le_flatMap ValueType.encode_ne_nil
    (List.replicate program.parameters.length .i64)
  have listed :
      (FunctionType.encode ⟨List.replicate program.parameters.length .i64, [.i64]⟩).length ≤
      (program.toModule.types.flatMap FunctionType.encode).length :=
    length_encode_le_flatMap (List.mem_cons_of_mem _ List.mem_cons_self)
  rw [List.length_replicate] at counted
  rw [FunctionType.encode, encodeVector, List.length_append, List.length_cons,
    List.length_append] at listed
  dsimp only at listed
  simp only [Module.encode, Module.typeContent, encodeSection, encodeSized, encodeVector,
    List.length_append, List.length_cons] at small
  omega

theorem expandsTo_operations (bound : program.parameters.length < 2 ^ 32)
    (instruction : Instruction) :
    instruction.ExpandsTo program.parameters.length (instruction.operations program.scratch) := by
  cases instruction with
  | const value => exact .const value
  | load slot => exact .load UInt32.toNat_ofNat'
  | negate => exact .negate (by decide)
  | combine operator => exact .combine operator
  | trace label =>
      have behind : program.scratch.toNat = program.parameters.length := by
        rw [scratch, UInt32.toNat_ofNat', Nat.mod_eq_of_lt bound]
      exact .trace behind Int32.toInt_ofNat'

/-- The only body declares one local. -/
theorem totalCount_locals_lt (program : Program) :
    ∀ body ∈ program.toModule.bodies, ByteReader.totalCount body.locals < 2 ^ 32 := by
  intro body member
  rw [List.mem_singleton.mp member]
  show ByteReader.totalCount [⟨1, .i64⟩] < 2 ^ 32
  decide

theorem decode_encode_toModule (small : program.toModule.encode.length < 2 ^ 32) (strict : Bool) :
    Module.decode strict program.toModule.encode = some program.toModule :=
  Module.decode_encode strict ⟨rfl, program.totalCount_locals_lt, small⟩

theorem isComplete_toModule (program : Program) : program.toModule.IsComplete := by
  constructor
  case types | imports | functions | exports => exact List.cons_ne_nil _ _

/--
A program of any instructions becomes a module that a decoder reads to its last byte. The two types
stay apart, and the operations of the body are those of the instructions in their order.
-/
theorem decode_toModule (program : Program) (small : program.toModule.encode.length < 2 ^ 32) :
    ∃ expansions, List.Forall₂ (Instruction.ExpandsTo program.parameters.length)
        program.instructions expansions ∧
      ∀ strict, Module.decode strict program.toModule.encode = some
        { types := [⟨[.i32, .i64], []⟩,
            ⟨List.replicate program.parameters.length .i64, [.i64]⟩]
          imports := [⟨"env", "trace", 0⟩]
          functions := [1]
          exports := [⟨"evaluate", 1⟩]
          bodies := [⟨[⟨1, .i64⟩], expansions.flatten⟩] } := by
  have bound := length_parameters_lt small
  refine ⟨program.instructions.map (Instruction.operations program.scratch), ?_, ?_⟩
  · rw [List.forall₂_map_right_iff, List.forall₂_same]
    intro instruction _
    exact expandsTo_operations (by omega) instruction
  · intro strict
    rw [← List.flatMap_def]
    exact decode_encode_toModule small strict

/-- The constant needs a second byte for its sign, and slot and label are reduced to 32 bits. -/
theorem decode_toModule_of_reduced :
    let program : Program := ⟨["x"],
      [.const (-65), .load (2 ^ 32), .combine .divide, .negate, .trace (2 ^ 31)], []⟩
    let bytes := [0x00, 0x61, 0x73, 0x6D, 0x01, 0x00, 0x00, 0x00,
      0x01, 0x0B, 0x02, 0x60, 0x02, 0x7F, 0x7E, 0x00, 0x60, 0x01, 0x7E, 0x01, 0x7E,
      0x02, 0x0D, 0x01, 0x03, 0x65, 0x6E, 0x76, 0x05, 0x74, 0x72, 0x61, 0x63, 0x65, 0x00, 0x00,
      0x03, 0x02, 0x01, 0x01,
      0x07, 0x0C, 0x01, 0x08, 0x65, 0x76, 0x61, 0x6C, 0x75, 0x61, 0x74, 0x65, 0x00, 0x01,
      0x0A, 0x1D, 0x01, 0x1B, 0x01, 0x01, 0x7E, 0x42, 0xBF, 0x7F, 0x20, 0x00, 0x7F,
      0x42, 0x7F, 0x7E, 0x21, 0x01, 0x41, 0x80, 0x80, 0x80, 0x80, 0x78, 0x20, 0x01,
      0x10, 0x00, 0x20, 0x01, 0x0B]
    program.toModule.encode = bytes ∧ bytes.length < 2 ^ 32 ∧
      Module.decode true bytes = some
        { types := [⟨[.i32, .i64], []⟩, ⟨[.i64], [.i64]⟩]
          imports := [⟨"env", "trace", 0⟩]
          functions := [1]
          exports := [⟨"evaluate", 1⟩]
          bodies := [⟨[⟨1, .i64⟩],
            [.const64 (-65), .localGet 0, .calculate .divide, .const64 (-1), .calculate .times,
              .localSet 1, .const32 (-2147483648), .localGet 1, .call 0, .localGet 1]⟩] } := by
  intro program bytes
  have named {name : String} (short : name.toUTF8.data.toList.length < 128) :
      encodeName name =
        UInt8.ofNat name.toUTF8.data.toList.length :: name.toUTF8.data.toList := by
    rw [encodeName, encodeSized, Leb128.unsigned_of_lt short]
    rfl
  have env : encodeName "env" = [0x03, 0x65, 0x6E, 0x76] := (named (by decide)).trans rfl
  have trace : encodeName "trace" = [0x05, 0x74, 0x72, 0x61, 0x63, 0x65] :=
    (named (by decide)).trans rfl
  have evaluate : encodeName "evaluate" =
      [0x08, 0x65, 0x76, 0x61, 0x6C, 0x75, 0x61, 0x74, 0x65] := (named (by decide)).trans rfl
  have encoded : program.toModule.encode = bytes := by
    simp [program, bytes, toModule, body, scratch, Instruction.operations, Module.encode,
      Module.typeContent, encodeSection, encodeSized, encodeVector, encodeIndex,
      FunctionType.encode, ValueType.encode, Import.encode, Export.encode, Body.encode,
      LocalGroup.encode, Operation.encode, header, Leb128.unsigned, Leb128.signed, env, trace,
      evaluate]
  have small : bytes.length < 2 ^ 32 := by decide
  have fits : program.toModule.encode.length < 2 ^ 32 := encoded ▸ small
  obtain ⟨expansions, expanded, decoded⟩ := decode_toModule program fits
  have operations : expansions = program.instructions.map (Instruction.operations 1) := by
    rw [← List.forall₂_eq_eq_eq, List.forall₂_map_right_iff]
    exact expanded.flip.imp fun _ _ expansion => expansion.eq_operations
  have found := decoded true
  rw [encoded, operations] at found
  exact ⟨encoded, small, found⟩

/-- A strict decoder finds the module in the emitted bytes only, where every integer is short. -/
theorem decode_eq_some_toModule_iff (small : program.toModule.encode.length < 2 ^ 32)
    {bytes : List UInt8} :
    Module.decode true bytes = some program.toModule ↔ bytes = program.toModule.encode := by
  constructor
  · exact Module.eq_encode_of_decode program.isComplete_toModule
  · rintro rfl
    exact decode_encode_toModule small true

end Program

end TraceCalc
