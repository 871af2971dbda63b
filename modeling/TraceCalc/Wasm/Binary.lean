/-
This file writes WebAssembly modules in the binary format. The laws that it follows are stated in
TraceCalc.Proofs.Wasm.Laws.
-/

import TraceCalc.Wasm.Leb128
import TraceCalc.Wasm.Module

namespace TraceCalc.Wasm

/-- The length of a vector comes before its elements. -/
def encodeVector {α : Type} (encode : α → List UInt8) (elements : List α) : List UInt8 :=
  Leb128.unsigned elements.length ++ elements.flatMap encode

/-- The size of the content comes before the content. -/
def encodeSized (content : List UInt8) : List UInt8 :=
  Leb128.unsigned content.length ++ content

/-- A name is the sequence of its UTF-8 bytes. -/
def encodeName (name : String) : List UInt8 :=
  encodeSized name.toUTF8.data.toList

/-- Indices and counts are unsigned. -/
def encodeIndex (index : UInt32) : List UInt8 :=
  Leb128.unsigned index.toNat

/-- A value type is one byte. -/
def ValueType.encode : ValueType → List UInt8
  | .i32 => [0x7F]
  | .i64 => [0x7E]

/-- The code `0x60` marks a function type. -/
def FunctionType.encode (type : FunctionType) : List UInt8 :=
  0x60 :: encodeVector ValueType.encode type.parameters ++
    encodeVector ValueType.encode type.results

/-- Every operation is written as its code and its immediate value. -/
def Operation.encode : Operation → List UInt8
  | .const32 value => 0x41 :: Leb128.signed value.toInt
  | .const64 value => 0x42 :: Leb128.signed value.toInt
  | .localGet index => 0x20 :: encodeIndex index
  | .localSet index => 0x21 :: encodeIndex index
  | .call function => 0x10 :: encodeIndex function
  | .calculate .plus => [0x7C]
  | .calculate .minus => [0x7D]
  | .calculate .times => [0x7E]
  | .calculate .divide => [0x7F]

/-- The count comes before the type. -/
def LocalGroup.encode (group : LocalGroup) : List UInt8 :=
  encodeIndex group.count ++ group.type.encode

/-- The code `0x0B` ends a body. -/
def Body.encode (body : Body) : List UInt8 :=
  encodeSized <|
    encodeVector LocalGroup.encode body.locals ++ body.operations.flatMap Operation.encode ++ [0x0B]

/-- The code `0x00` marks an imported function. -/
def Import.encode (entry : Import) : List UInt8 :=
  encodeName entry.moduleName ++ encodeName entry.name ++ 0x00 :: encodeIndex entry.type

/-- The code `0x00` marks an exported function. -/
def Export.encode (entry : Export) : List UInt8 :=
  encodeName entry.name ++ 0x00 :: encodeIndex entry.function

/-- A section is its number and its sized content. -/
def encodeSection (number : UInt8) (content : List UInt8) : List UInt8 :=
  number :: encodeSized content

/-- A module opens with its magic number and the version of the format. -/
def header : List UInt8 := [0x00, 0x61, 0x73, 0x6D, 0x01, 0x00, 0x00, 0x00]

namespace Module

/-- The types are the content of the first section. -/
def typeContent (source : Module) : List UInt8 :=
  encodeVector FunctionType.encode source.types

/-- The sections are written in the order of their numbers. -/
def encode (source : Module) : List UInt8 :=
  header ++
    encodeSection 1 source.typeContent ++
    encodeSection 2 (encodeVector Import.encode source.imports) ++
    encodeSection 3 (encodeVector encodeIndex source.functions) ++
    encodeSection 7 (encodeVector Export.encode source.exports) ++
    encodeSection 10 (encodeVector Body.encode source.bodies)

end Module

end TraceCalc.Wasm
