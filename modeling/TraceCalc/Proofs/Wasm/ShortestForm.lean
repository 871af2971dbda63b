/-
This file shows that a strict decoder accepts a module only in the form in which it is written.
-/

import TraceCalc.Proofs.Wasm.RoundTrip

namespace TraceCalc.Wasm

open ByteReader

/-- The reader finds a value only where the bytes that are written for it stand. -/
def ReadsOnly {α : Type} (reader : ByteReader α) (encode : α → List UInt8) : Prop :=
  ∀ bytes value rest, reader bytes = some (value, rest) → bytes = encode value ++ rest

section Readers

variable {α : Type} {reader : ByteReader α} {encode : α → List UInt8} {bytes rest : List UInt8}
  {value : α}

theorem guard_eq_some {condition : Prop} [Decidable condition] {passed : Unit}
    (found : (guard condition : ByteReader Unit) bytes = some (passed, rest)) :
    condition ∧ rest = bytes := by
  by_cases holds : condition
  · have passed : (guard condition : ByteReader Unit) = pure () := if_pos holds
    rw [passed] at found
    exact ⟨holds, (pure_eq_some found).2⟩
  · have failed : (guard condition : ByteReader Unit) = failure := if_neg holds
    rw [failed] at found
    exact nomatch found

theorem lift_eq_some {answer : Option α}
    (found : (StateT.lift answer : ByteReader α) bytes = some (value, rest)) :
    answer = some value ∧ rest = bytes := by
  obtain ⟨other, known, same⟩ := Option.bind_eq_some_iff.mp found
  obtain ⟨rfl, rfl⟩ := Prod.mk.inj (Option.some.inj same)
  exact ⟨known, rfl⟩

theorem byte_eq_some {found : UInt8} (success : byte bytes = some (found, rest)) :
    bytes = found :: rest := by
  cases bytes with
  | nil => exact nomatch success
  | cons first others =>
      obtain ⟨rfl, rfl⟩ := Prod.mk.inj (Option.some.inj success)
      rfl

theorem readsOnly_literal (expected : UInt8) :
    ReadsOnly (literal expected) fun _ => [expected] := by
  intro bytes passed rest found
  obtain ⟨first, middle, taken, checked⟩ := bind_eq_some found
  obtain ⟨rfl, rfl⟩ := guard_eq_some checked
  exact byte_eq_some taken

theorem take_eq_some {count : Nat} {content : List UInt8}
    (found : take count bytes = some (content, rest)) :
    bytes = content ++ rest ∧ content.length = count := by
  rw [take] at found
  split at found
  · cases found
  next enough =>
    obtain ⟨rfl, rfl⟩ := Prod.mk.inj (Option.some.inj found)
    exact ⟨(List.take_append_drop count bytes).symm, by rw [List.length_take]; omega⟩

theorem whole_eq_some (found : reader.whole bytes = some value) :
    reader bytes = some (value, []) := by
  rw [whole] at found
  split at found
  next read => rw [read, Option.some.inj found]
  next => cases found

/-- As many values are taken as were counted. -/
theorem many_eq_some (only : ReadsOnly reader encode) {count : Nat} {elements : List α}
    (found : many reader count bytes = some (elements, rest)) :
    bytes = elements.flatMap encode ++ rest ∧ elements.length = count := by
  induction count generalizing bytes elements with
  | zero =>
      obtain ⟨rfl, rfl⟩ := pure_eq_some found
      exact ⟨rfl, rfl⟩
  | succ count inductionHypothesis =>
      obtain ⟨first, middle, taken, later⟩ := bind_eq_some found
      obtain ⟨others, last, behind, built⟩ := bind_eq_some later
      obtain ⟨rfl, rfl⟩ := pure_eq_some built
      obtain ⟨split, counted⟩ := inductionHypothesis behind
      rw [only _ _ _ taken, split, List.flatMap_cons, List.append_assoc, List.length_cons, counted]
      exact ⟨rfl, rfl⟩

end Readers

section Encodings

variable {α : Type} {reader : ByteReader α} {encode : α → List UInt8}

theorem readsOnly_unsigned : ReadsOnly (unsigned true) Leb128.unsigned :=
  fun _ _ _ found => Leb128.eq_unsigned_append found

theorem readsOnly_index : ReadsOnly (index true) encodeIndex := by
  intro bytes index rest found
  obtain ⟨value, middle, taken, built⟩ := bind_eq_some found
  obtain ⟨rfl, rfl⟩ := pure_eq_some built
  have same : (UInt32.ofNat value).toNat = value :=
    UInt32.toNat_ofNat_of_lt' (Leb128.readUnsigned_lt taken)
  rw [encodeIndex, same]
  exact readsOnly_unsigned _ _ _ taken

theorem ReadsOnly.vector (only : ReadsOnly reader encode) :
    ReadsOnly (ByteReader.vector true reader) (encodeVector encode) := by
  intro bytes elements rest found
  obtain ⟨count, middle, counted, taken⟩ := bind_eq_some found
  obtain ⟨split, rfl⟩ := many_eq_some only taken
  rw [readsOnly_unsigned _ _ _ counted, split, encodeVector, List.append_assoc]

theorem readsOnly_block : ReadsOnly (block true) encodeSized := by
  intro bytes content rest found
  obtain ⟨size, middle, measured, taken⟩ := bind_eq_some found
  obtain ⟨split, rfl⟩ := take_eq_some taken
  rw [readsOnly_unsigned _ _ _ measured, split, encodeSized, List.append_assoc]

theorem ReadsOnly.sized (only : ReadsOnly reader encode) :
    ReadsOnly (ByteReader.sized true reader) fun value => encodeSized (encode value) := by
  intro bytes value rest found
  obtain ⟨content, middle, taken, lifted⟩ := bind_eq_some found
  obtain ⟨inside, rfl⟩ := lift_eq_some lifted
  have exactly := only _ _ _ (whole_eq_some inside)
  rw [List.append_nil] at exactly
  rw [readsOnly_block _ _ _ taken, exactly]

theorem readsOnly_name : ReadsOnly (ByteReader.name true) encodeName := by
  intro bytes name rest found
  obtain ⟨content, middle, taken, lifted⟩ := bind_eq_some found
  obtain ⟨decoded, rfl⟩ := lift_eq_some lifted
  rw [String.fromUTF8?] at decoded
  split at decoded
  next valid =>
    rw [← Option.some.inj decoded]
    exact readsOnly_block _ _ _ taken
  next => exact nomatch decoded

theorem readsOnly_valueType : ReadsOnly valueType ValueType.encode := by
  intro bytes type rest found
  obtain ⟨code, middle, taken, matched⟩ := bind_eq_some found
  rw [byte_eq_some taken]
  split at matched
  · obtain ⟨rfl, rfl⟩ := pure_eq_some matched
    rfl
  · obtain ⟨rfl, rfl⟩ := pure_eq_some matched
    rfl
  · exact nomatch matched

theorem readsOnly_functionType : ReadsOnly (functionType true) FunctionType.encode := by
  intro bytes type rest found
  obtain ⟨_, _, marked, found⟩ := bind_eq_some found
  obtain ⟨parameters, _, first, found⟩ := bind_eq_some found
  obtain ⟨results, _, second, built⟩ := bind_eq_some found
  obtain ⟨rfl, rfl⟩ := pure_eq_some built
  rw [readsOnly_literal _ _ _ _ marked, readsOnly_valueType.vector _ _ _ first,
    readsOnly_valueType.vector _ _ _ second, FunctionType.encode]
  simp only [List.append_assoc, List.cons_append, List.nil_append]

/-- The code and the immediate value are those of the operation. -/
theorem cons_eq_encode_append {code : UInt8} {bytes rest : List UInt8} {found : Operation}
    (success : operation true code bytes = some (found, rest)) :
    code :: bytes = found.encode ++ rest := by
  unfold operation at success
  split at success
  case h_1 =>
    obtain ⟨value, middle, taken, built⟩ := bind_eq_some success
    obtain ⟨rfl, rfl⟩ := pure_eq_some built
    obtain ⟨above, below⟩ := Leb128.readSigned_bounds taken
    rw [Operation.encode, Int32.toInt_ofInt_of_le above below, Leb128.eq_signed_append taken]
    rfl
  case h_2 =>
    obtain ⟨value, middle, taken, built⟩ := bind_eq_some success
    obtain ⟨rfl, rfl⟩ := pure_eq_some built
    obtain ⟨above, below⟩ := Leb128.readSigned_bounds taken
    rw [Operation.encode, Int64.toInt_ofInt_of_le above below, Leb128.eq_signed_append taken]
    rfl
  case h_3 | h_4 | h_5 =>
    obtain ⟨index, middle, taken, built⟩ := bind_eq_some success
    obtain ⟨rfl, rfl⟩ := pure_eq_some built
    rw [Operation.encode, readsOnly_index _ _ _ taken]
    rfl
  case h_6 | h_7 | h_8 | h_9 =>
    obtain ⟨rfl, rfl⟩ := pure_eq_some success
    rfl
  case h_10 => exact nomatch success

theorem operations_eq_some {bytes rest : List UInt8} {sequence : List Operation}
    (found : operations true bytes = some (sequence, rest)) :
    bytes = sequence.flatMap Operation.encode ++ [0x0B] ++ rest := by
  fun_induction operations true bytes generalizing sequence with
  | case1 => exact nomatch found
  | case2 bytes =>
      obtain ⟨rfl, rfl⟩ := Prod.mk.inj (Option.some.inj found)
      rfl
  | case3 => exact nomatch found
  | case4 code bytes continued first middle success shorter inductionHypothesis =>
      obtain ⟨⟨others, last⟩, behind, built⟩ := Option.map_eq_some_iff.mp found
      obtain ⟨rfl, rfl⟩ := Prod.mk.inj built
      have split := inductionHypothesis behind
      rw [cons_eq_encode_append success, split, List.flatMap_cons]
      simp only [List.append_assoc]

theorem readsOnly_localGroup : ReadsOnly (localGroup true) LocalGroup.encode := by
  intro bytes group rest found
  obtain ⟨count, _, counted, found⟩ := bind_eq_some found
  obtain ⟨type, _, typed, built⟩ := bind_eq_some found
  obtain ⟨rfl, rfl⟩ := pure_eq_some built
  rw [readsOnly_index _ _ _ counted, readsOnly_valueType _ _ _ typed, LocalGroup.encode,
    List.append_assoc]

theorem readsOnly_body : ReadsOnly (body true) Body.encode := by
  apply ReadsOnly.sized
  intro bytes body rest found
  obtain ⟨locals, _, declared, found⟩ := bind_eq_some found
  obtain ⟨_, _, checked, later⟩ := bind_eq_some found
  obtain ⟨-, rfl⟩ := guard_eq_some checked
  obtain ⟨operations, _, listed, built⟩ := bind_eq_some later
  obtain ⟨rfl, rfl⟩ := pure_eq_some built
  rw [readsOnly_localGroup.vector _ _ _ declared, operations_eq_some listed]
  simp only [List.append_assoc]

theorem readsOnly_importEntry : ReadsOnly (importEntry true) Import.encode := by
  intro bytes entry rest found
  obtain ⟨moduleName, _, first, found⟩ := bind_eq_some found
  obtain ⟨name, _, second, found⟩ := bind_eq_some found
  obtain ⟨_, _, marked, found⟩ := bind_eq_some found
  obtain ⟨type, _, typed, built⟩ := bind_eq_some found
  obtain ⟨rfl, rfl⟩ := pure_eq_some built
  rw [readsOnly_name _ _ _ first, readsOnly_name _ _ _ second, readsOnly_literal _ _ _ _ marked,
    readsOnly_index _ _ _ typed, Import.encode]
  simp only [List.append_assoc, List.cons_append, List.nil_append]

theorem readsOnly_exportEntry : ReadsOnly (exportEntry true) Export.encode := by
  intro bytes entry rest found
  obtain ⟨name, _, named, found⟩ := bind_eq_some found
  obtain ⟨_, _, marked, found⟩ := bind_eq_some found
  obtain ⟨function, _, numbered, built⟩ := bind_eq_some found
  obtain ⟨rfl, rfl⟩ := pure_eq_some built
  rw [readsOnly_name _ _ _ named, readsOnly_literal _ _ _ _ marked,
    readsOnly_index _ _ _ numbered, Export.encode]
  simp only [List.append_assoc, List.cons_append, List.nil_append]

/-- Only a section without entries can be left out. -/
theorem entries_eq_some (only : ReadsOnly reader encode) {number : UInt8}
    {bytes rest : List UInt8} {elements : List α} (filled : elements ≠ [])
    (found : entries true number reader bytes = some (elements, rest)) :
    bytes = encodeSection number (encodeVector encode elements) ++ rest := by
  cases bytes with
  | nil =>
      obtain ⟨rfl, _⟩ := Prod.mk.inj (Option.some.inj found)
      exact absurd rfl filled
  | cons first others =>
      rw [entries] at found
      split at found
      next same =>
        rw [only.vector.sized _ _ _ found, same, encodeSection, List.cons_append]
      next =>
        obtain ⟨rfl, _⟩ := Prod.mk.inj (Option.some.inj found)
        exact absurd rfl filled

theorem literals_eq_some {expected bytes rest : List UInt8} {passed : Unit}
    (found : (expected.forM literal : ByteReader Unit) bytes = some (passed, rest)) :
    bytes = expected ++ rest := by
  induction expected generalizing bytes with
  | nil =>
      obtain ⟨-, rfl⟩ := pure_eq_some found
      rfl
  | cons first others inductionHypothesis =>
      obtain ⟨_, middle, taken, later⟩ := bind_eq_some found
      rw [readsOnly_literal _ _ _ _ taken, inductionHypothesis later]
      rfl

end Encodings

namespace Module

/-- Every section has an entry; every function has a body, so that the bodies need no clause. -/
structure IsComplete (source : Module) : Prop where
  types : source.types ≠ []
  imports : source.imports ≠ []
  functions : source.functions ≠ []
  exports : source.exports ≠ []

/-- No other bytes are decoded as the module. -/
theorem eq_encode_of_decode {bytes : List UInt8} {source : Module} (complete : source.IsComplete)
    (found : decode true bytes = some source) : bytes = source.encode := by
  have read := whole_eq_some found
  obtain ⟨_, _, opened, read⟩ := bind_eq_some read
  obtain ⟨types, _, typed, read⟩ := bind_eq_some read
  obtain ⟨imports, _, imported, read⟩ := bind_eq_some read
  obtain ⟨functions, _, declared, read⟩ := bind_eq_some read
  obtain ⟨exports, _, exported, read⟩ := bind_eq_some read
  obtain ⟨bodies, _, defined, read⟩ := bind_eq_some read
  obtain ⟨_, _, checked, built⟩ := bind_eq_some read
  obtain ⟨paired, rfl⟩ := guard_eq_some checked
  obtain ⟨rfl, rfl⟩ := pure_eq_some built
  have filled : bodies ≠ [] := by
    rw [← List.length_pos_iff, ← paired]
    exact List.length_pos_iff.mpr complete.functions
  rw [literals_eq_some opened, entries_eq_some readsOnly_functionType complete.types typed,
    entries_eq_some readsOnly_importEntry complete.imports imported,
    entries_eq_some readsOnly_index complete.functions declared,
    entries_eq_some readsOnly_exportEntry complete.exports exported,
    entries_eq_some readsOnly_body filled defined, encode, typeContent]
  simp only [List.append_assoc, List.append_nil]

end Module

end TraceCalc.Wasm
