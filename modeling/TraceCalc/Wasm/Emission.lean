/-
This file emits programs as WebAssembly modules.
-/

import TraceCalc.Program
import TraceCalc.Wasm.Module

namespace TraceCalc

open Wasm

/-- A trace keeps the value in the scratch local while the label and the value are reported. -/
def Instruction.operations (scratch : UInt32) : Instruction → List Operation
  | .const value => [.const64 value]
  | .load slot => [.localGet (UInt32.ofNat slot)]
  | .negate => [.const64 (-1), .calculate .times]
  | .combine operator => [.calculate operator]
  | .trace label =>
      [.localSet scratch, .const32 (Int32.ofNat label), .localGet scratch, .call 0,
        .localGet scratch]

namespace Program

/-- The scratch local comes right after the parameters. -/
def scratch (program : Program) : UInt32 := UInt32.ofNat program.parameters.length

/-- The body needs one local besides the parameters. -/
def body (program : Program) : Body where
  locals := [⟨1, .i64⟩]
  operations := program.instructions.flatMap (Instruction.operations program.scratch)

/-- The module imports the receiver of the traces and exports the evaluation. -/
def toModule (program : Program) : Module where
  types := [⟨[.i32, .i64], []⟩, ⟨List.replicate program.parameters.length .i64, [.i64]⟩]
  imports := [⟨"env", "trace", 0⟩]
  functions := [1]
  exports := [⟨"evaluate", 1⟩]
  bodies := [program.body]

end Program

end TraceCalc
