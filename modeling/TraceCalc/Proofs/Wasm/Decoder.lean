/-
This file reads the part of the WebAssembly binary format that programs need.
-/

import TraceCalc.Proofs.Wasm.Leb128
import TraceCalc.Wasm.Binary

namespace TraceCalc.Wasm

/-- A reader takes a value from the front of the bytes, or it refuses them. -/
abbrev ByteReader (α : Type) := StateT (List UInt8) Option α

namespace ByteReader

variable {α : Type}

def byte : ByteReader UInt8
  | [] => none
  | found :: rest => some (found, rest)

def literal (expected : UInt8) : ByteReader Unit := do
  guard ((← byte) = expected)

def take (count : Nat) : ByteReader (List UInt8) := fun bytes =>
  if bytes.length < count then none else some (bytes.take count, bytes.drop count)

/-- No byte may be left when the value is complete. -/
def whole (reader : ByteReader α) (bytes : List UInt8) : Option α :=
  match reader bytes with
  | some (value, []) => some value
  | _ => none

def many (reader : ByteReader α) : Nat → ByteReader (List α)
  | 0 => pure []
  | count + 1 => do
      let first ← reader
      let others ← many reader count
      pure (first :: others)

variable (strict : Bool)

/-- Sizes, counts and indices have 32 bits. -/
def unsigned : ByteReader Nat := Leb128.readUnsigned strict 32

def index : ByteReader UInt32 := do
  let value ← unsigned strict
  pure (UInt32.ofNat value)

def signed (width : Nat) : ByteReader Int := Leb128.readSigned strict width

def vector (reader : ByteReader α) : ByteReader (List α) := do
  let count ← unsigned strict
  many reader count

def block : ByteReader (List UInt8) := do
  let size ← unsigned strict
  take size

/-- The content must be exactly as long as its size says. -/
def sized (reader : ByteReader α) : ByteReader α := do
  let content ← block strict
  StateT.lift (reader.whole content)

def name : ByteReader String := do
  let content ← block strict
  StateT.lift (String.fromUTF8? (ByteArray.mk content.toArray))

def valueType : ByteReader ValueType := do
  match ← byte with
  | 0x7F => pure .i32
  | 0x7E => pure .i64
  | _ => failure

def functionType : ByteReader FunctionType := do
  literal 0x60
  let parameters ← vector strict valueType
  let results ← vector strict valueType
  pure ⟨parameters, results⟩

/-- The code was read before, and only some operations have an immediate value. -/
def operation : UInt8 → ByteReader Operation
  | 0x41 => do pure (.const32 (Int32.ofInt (← signed strict 32)))
  | 0x42 => do pure (.const64 (Int64.ofInt (← signed strict 64)))
  | 0x20 => do pure (.localGet (← index strict))
  | 0x21 => do pure (.localSet (← index strict))
  | 0x10 => do pure (.call (← index strict))
  | 0x7C => pure (.calculate .plus)
  | 0x7D => pure (.calculate .minus)
  | 0x7E => pure (.calculate .times)
  | 0x7F => pure (.calculate .divide)
  | _ => failure

section Termination

variable {β : Type} {reader : ByteReader α} {next : α → ByteReader β} {bytes rest : List UInt8}

/-- Of two readers in a row, the second one starts where the first one ends. -/
theorem bind_eq_some {result : β} (found : (reader >>= next) bytes = some (result, rest)) :
    ∃ value middle, reader bytes = some (value, middle) ∧
      next value middle = some (result, rest) := by
  obtain ⟨⟨value, middle⟩, early, late⟩ := Option.bind_eq_some_iff.mp found
  exact ⟨value, middle, early, late⟩

theorem pure_eq_some {value result : α}
    (found : (pure value : ByteReader α) bytes = some (result, rest)) :
    result = value ∧ rest = bytes := by
  obtain ⟨rfl, rfl⟩ := Prod.mk.inj (Option.some.inj found)
  exact ⟨rfl, rfl⟩

/-- A reader does not give back bytes that were read before. -/
def Shortens (reader : ByteReader α) : Prop :=
  ∀ bytes value rest, reader bytes = some (value, rest) → rest.length ≤ bytes.length

theorem shortens_pure (value : α) : Shortens (pure value) := by
  intro bytes other rest found
  obtain ⟨-, rfl⟩ := pure_eq_some found
  exact Nat.le_refl _

theorem Shortens.bind (first : Shortens reader) (second : ∀ value, Shortens (next value)) :
    Shortens (reader >>= next) := by
  intro bytes result rest found
  obtain ⟨value, middle, early, late⟩ := bind_eq_some found
  exact Nat.le_trans (second value _ _ _ late) (first _ _ _ early)

theorem shortens_index : Shortens (index strict) := by
  apply Shortens.bind
  case first =>
    intro bytes value rest found
    exact Nat.le_trans (Nat.le_add_left _ _) (Leb128.length_unsigned_le found)
  case second => exact fun value => shortens_pure (UInt32.ofNat value)

theorem shortens_signed (width : Nat) : Shortens (signed strict width) := by
  intro bytes value rest found
  exact Nat.le_trans (Nat.le_add_left _ _) (Leb128.length_signed_le found)

theorem shortens_operation (code : UInt8) : Shortens (operation strict code) := by
  unfold operation
  split
  case h_1 => exact (shortens_signed strict 32).bind fun value => shortens_pure _
  case h_2 => exact (shortens_signed strict 64).bind fun value => shortens_pure _
  case h_3 | h_4 | h_5 => exact (shortens_index strict).bind fun index => shortens_pure _
  case h_6 | h_7 | h_8 | h_9 => exact shortens_pure _
  case h_10 => exact fun _ _ _ found => nomatch found

end Termination

/-- The code `0x0B` ends the operations. -/
def operations : List UInt8 → Option (List Operation × List UInt8)
  | [] => none
  | code :: bytes =>
      if code = 0x0B then some ([], bytes)
      else
        match success : operation strict code bytes with
        | none => none
        | some (first, rest) =>
            have := shortens_operation strict code _ _ _ success
            (operations rest).map fun others => (first :: others.1, others.2)
  termination_by bytes => bytes.length
  decreasing_by exact Nat.lt_succ_of_le this

def localGroup : ByteReader LocalGroup := do
  let count ← index strict
  let type ← valueType
  pure ⟨count, type⟩

/-- The groups declare so many locals together. -/
def totalCount : List LocalGroup → Nat
  | [] => 0
  | group :: rest => group.count.toNat + totalCount rest

/-- All locals of a function together are counted with 32 bits. -/
def body : ByteReader Body := sized strict do
  let locals ← vector strict (localGroup strict)
  guard (totalCount locals < 2 ^ 32)
  let operations ← (operations strict : ByteReader (List Operation))
  pure ⟨locals, operations⟩

def importEntry : ByteReader Import := do
  let moduleName ← name strict
  let entryName ← name strict
  literal 0x00
  let type ← index strict
  pure ⟨moduleName, entryName, type⟩

def exportEntry : ByteReader Export := do
  let entryName ← name strict
  literal 0x00
  let function ← index strict
  pure ⟨entryName, function⟩

/-- A section that is left out has no entries. -/
def entries (number : UInt8) (reader : ByteReader α) : ByteReader (List α)
  | [] => some ([], [])
  | found :: rest =>
      if found = number then sized strict (vector strict reader) rest else some ([], found :: rest)

/-- The sections stand in the order of their numbers, and every function has a body. -/
def wholeModule : ByteReader Module := do
  header.forM literal
  let types ← entries strict 1 (functionType strict)
  let imports ← entries strict 2 (importEntry strict)
  let functions ← entries strict 3 (index strict)
  let exports ← entries strict 7 (exportEntry strict)
  let bodies ← entries strict 10 (body strict)
  guard (functions.length = bodies.length)
  pure ⟨types, imports, functions, exports, bodies⟩

end ByteReader

/-- A module is decoded to its last byte; a strict decoder accepts only the shortest integers. -/
def Module.decode (strict : Bool) (bytes : List UInt8) : Option Module :=
  (ByteReader.wholeModule strict).whole bytes

end TraceCalc.Wasm
