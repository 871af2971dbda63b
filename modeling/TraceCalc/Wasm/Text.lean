/-
This file writes WebAssembly modules in the text format. The laws that it follows are stated in
TraceCalc.Proofs.Wasm.Laws.
-/

import TraceCalc.Error
import TraceCalc.Wasm.Binary

namespace TraceCalc.Wasm

/-- A value type is written as its keyword. -/
def ValueType.text : ValueType → String
  | .i32 => "i32"
  | .i64 => "i64"

/-- A list of types needs no entry when it is empty. -/
def typeEntry (keyword : String) (types : List ValueType) : String :=
  if types.isEmpty then ""
  else " (" ++ " ".intercalate (keyword :: types.map ValueType.text) ++ ")"

/-- The parameters come before the results. -/
def FunctionType.text (type : FunctionType) : String :=
  typeEntry "param" type.parameters ++ typeEntry "result" type.results

/-- Every operation is written as its keyword and its immediate value. -/
def Operation.text : Operation → String
  | .const32 value => "i32.const " ++ value.toInt.repr
  | .const64 value => "i64.const " ++ value.toInt.repr
  | .localGet index => "local.get " ++ index.toNat.repr
  | .localSet index => "local.set " ++ index.toNat.repr
  | .call function => "call " ++ function.toNat.repr
  | .calculate .plus => "i64.add"
  | .calculate .minus => "i64.sub"
  | .calculate .times => "i64.mul"
  | .calculate .divide => "i64.div_s"

/-- Every local of the group is written on its own. -/
def LocalGroup.text (group : LocalGroup) : String :=
  "(" ++ " ".intercalate ("local" :: List.replicate group.count.toNat group.type.text) ++ ")"

/-- A comment shows the number that the entry has in its index space. -/
def numberComment (number : Nat) : String := "(;" ++ number.repr ++ ";)"

/-- A type is shown with its number. -/
def typeLine (entry : FunctionType × Nat) : String :=
  "  (type " ++ numberComment entry.2 ++ " (func" ++ entry.1.text ++ "))"

/-- An import is shown with the number of its function and with its type. -/
def Import.line (entry : Import × Nat) : String :=
  "  (import \"" ++ entry.1.moduleName ++ "\" \"" ++ entry.1.name ++ "\" (func " ++
    numberComment entry.2 ++ " (type " ++ entry.1.type.toNat.repr ++ ")))"

/-- An export is shown with the number of its function. -/
def Export.line (entry : Export) : String :=
  "  (export \"" ++ entry.name ++ "\" (func " ++ entry.function.toNat.repr ++ "))"

/-- The locals and the operations stand on lines of their own. -/
def Body.lines (body : Body) : List String :=
  (body.locals.map LocalGroup.text ++ body.operations.map Operation.text).map ("    " ++ ·)

namespace Module

/-- A function shows the parameters and the results of its type. -/
def functionLines (source : Module) (entry : (UInt32 × Body) × Nat) : List String :=
  let type := source.types[entry.1.1.toNat]?.getD ⟨[], []⟩
  let opening := "  (func " ++ numberComment entry.2 ++ " (type " ++ entry.1.1.toNat.repr ++ ")" ++
    type.text
  [opening] ++ entry.1.2.lines ++ ["  )"]

/-- The fields of a module stand between its parentheses. -/
def lines (source : Module) : List String :=
  ["(module"] ++
    source.types.zipIdx.map typeLine ++
    source.imports.zipIdx.map Import.line ++
    ((source.functions.zip source.bodies).zipIdx source.imports.length).flatMap
      source.functionLines ++
    source.exports.map Export.line ++
    [")"]

/-- A function type with more parameters has no text. -/
def parameterLimit : Nat := 1000

/-- The search gives the place of the parameter count in the binary format. -/
def oversizedFrom (offset : Nat) : List FunctionType → Option Nat
  | [] => none
  | type :: rest =>
      if parameterLimit < type.parameters.length then some (offset + 1)
      else oversizedFrom (offset + type.encode.length) rest

/-- The types follow the header, the section number, the section size and their own count. -/
def typesOffset (source : Module) : Nat :=
  header.length + 1 + (Leb128.unsigned source.typeContent.length).length +
    (Leb128.unsigned source.types.length).length

/-- The text has no line feed at its end. -/
def text (source : Module) : Except Error String :=
  match oversizedFrom source.typesOffset source.types with
  | some offset => .error (.tooManyParameters offset)
  | none => .ok ("\n".intercalate source.lines)

end Module

end TraceCalc.Wasm
