/-
This file defines the part of WebAssembly modules that programs need.
-/

import TraceCalc.Operator

namespace TraceCalc.Wasm

/-- Labels are 32-bit integers, and all other values are 64-bit integers. -/
inductive ValueType where
  | i32
  | i64
  deriving DecidableEq, Repr

/-- A function takes its parameters from the stack and leaves its results there. -/
structure FunctionType where
  parameters : List ValueType
  results : List ValueType
  deriving DecidableEq, Repr

/-- Calculations take two 64-bit operands; the division is the signed one. -/
inductive Operation where
  | const32 (value : Int32)
  | const64 (value : Int64)
  | localGet (index : UInt32)
  | localSet (index : UInt32)
  | call (function : UInt32)
  | calculate (operator : Operator)
  deriving DecidableEq, Repr

/-- A group declares consecutive locals of one type. -/
structure LocalGroup where
  count : UInt32
  type : ValueType
  deriving DecidableEq, Repr

/-- The parameters of the function come before its locals. -/
structure Body where
  locals : List LocalGroup
  operations : List Operation
  deriving DecidableEq, Repr

/-- An imported function is found by the names of its module and of itself. -/
structure Import where
  moduleName : String
  name : String
  type : UInt32
  deriving DecidableEq, Repr

/-- An exported function can be called by its name. -/
structure Export where
  name : String
  function : UInt32
  deriving DecidableEq, Repr

/-- Imported functions are numbered first; the function number `i` here has the body number `i`. -/
structure Module where
  types : List FunctionType
  imports : List Import
  functions : List UInt32
  exports : List Export
  bodies : List Body
  deriving DecidableEq, Repr

end TraceCalc.Wasm
