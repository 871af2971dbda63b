/-
This file shows that an encoded module is decoded as the same module.
-/

import TraceCalc.Proofs.Wasm.Decoder

namespace TraceCalc.Wasm

open ByteReader

/-- The reader takes exactly these bytes for the value, whatever follows them. -/
def Reads {α : Type} (reader : ByteReader α) (bytes : List UInt8) (value : α) : Prop :=
  ∀ rest, reader (bytes ++ rest) = some (value, rest)

section Readers

variable {α β : Type} {reader : ByteReader α} {bytes : List UInt8} {value : α}

theorem reads_pure (value : α) : Reads (pure value) [] value := fun _ => rfl

/-- Two readers in a row take the bytes of both values. -/
theorem Reads.bind {next : α → ByteReader β} {second : List UInt8} {result : β}
    (early : Reads reader bytes value) (late : Reads (next value) second result) :
    Reads (reader >>= next) (bytes ++ second) result := by
  intro rest
  rw [List.append_assoc]
  exact Option.bind_eq_some_iff.mpr ⟨_, early (second ++ rest), late rest⟩

/-- What comes last need not take any bytes. -/
theorem Reads.finish {next : α → ByteReader β} {result : β} (early : Reads reader bytes value)
    (late : Reads (next value) [] result) : Reads (reader >>= next) bytes result := by
  have whole := early.bind late
  rwa [List.append_nil] at whole

theorem Reads.map (found : Reads reader bytes value) (build : α → β) :
    Reads (do pure (build (← reader))) bytes (build value) :=
  found.finish (reads_pure (build value))

/-- A condition that holds takes no bytes. -/
theorem Reads.guarded {condition : Prop} [Decidable condition] (holds : condition)
    (found : Reads reader bytes value) :
    Reads (do guard condition; reader) bytes value := by
  intro rest
  have passed : (guard condition : ByteReader Unit) = pure () := if_pos holds
  rw [passed, pure_bind]
  exact found rest

theorem reads_lift {answer : Option α} (found : answer = some value) :
    Reads (StateT.lift answer) [] value := by
  intro rest
  rw [found]
  rfl

theorem reads_literal (expected : UInt8) : Reads (literal expected) [expected] () := by
  intro rest
  have passed : (guard (expected = expected) : ByteReader Unit) = pure () := if_pos rfl
  exact (congrFun passed rest : _)

theorem reads_take (bytes : List UInt8) : Reads (take bytes.length) bytes bytes := by
  intro rest
  rw [take, if_neg (by simp), List.take_left, List.drop_left]

theorem Reads.whole_eq (found : Reads reader bytes value) : reader.whole bytes = some value := by
  have complete := found []
  rw [List.append_nil] at complete
  rw [whole, complete]

theorem Reads.many {encode : α → List UInt8} {elements : List α}
    (each : ∀ element ∈ elements, Reads reader (encode element) element) :
    Reads (many reader elements.length) (elements.flatMap encode) elements := by
  induction elements with
  | nil => exact reads_pure []
  | cons element rest inductionHypothesis =>
      obtain ⟨first, others⟩ := List.forall_mem_cons.mp each
      exact first.bind ((inductionHypothesis others).map (element :: ·))

end Readers

section Lengths

variable {α : Type} {encode : α → List UInt8}

/-- Elements that are not empty need at least one byte each. -/
theorem length_le_flatMap (filled : ∀ element, encode element ≠ []) (elements : List α) :
    elements.length ≤ (elements.flatMap encode).length := by
  induction elements with
  | nil => exact Nat.le_refl 0
  | cons element rest inductionHypothesis =>
      have positive := List.length_pos_iff.mpr (filled element)
      rw [List.flatMap_cons, List.length_append, List.length_cons]
      omega

theorem length_encode_le_flatMap {element : α} {elements : List α} (member : element ∈ elements) :
    (encode element).length ≤ (elements.flatMap encode).length := by
  obtain ⟨before, after, rfl⟩ := List.append_of_mem member
  rw [List.flatMap_append, List.flatMap_cons, List.length_append, List.length_append]
  omega

end Lengths

section Encodings

variable {α : Type} (strict : Bool)

theorem reads_unsigned {value : Nat} (fits : value < 2 ^ 32) :
    Reads (unsigned strict) (Leb128.unsigned value) value :=
  Leb128.readUnsigned_unsigned fits

theorem reads_index (index : UInt32) :
    Reads (ByteReader.index strict) (encodeIndex index) index := by
  have found := (reads_unsigned strict index.toNat_lt).map UInt32.ofNat
  rwa [UInt32.ofNat_toNat] at found

/-- The elements of a vector are smaller than the vector. -/
theorem Reads.vector {reader : ByteReader α} {encode : α → List UInt8} {elements : List α}
    (filled : ∀ element, encode element ≠ [])
    (each : ∀ element ∈ elements, (encode element).length < 2 ^ 32 →
      Reads reader (encode element) element)
    (small : (encodeVector encode elements).length < 2 ^ 32) :
    Reads (ByteReader.vector strict reader) (encodeVector encode elements) elements := by
  rw [encodeVector, List.length_append] at small
  have count := length_le_flatMap filled elements
  apply (reads_unsigned strict (by omega)).bind
  apply Reads.many
  intro element member
  have part : (encode element).length ≤ _ := length_encode_le_flatMap member
  exact each element member (by omega)

theorem reads_block {content : List UInt8} (small : (encodeSized content).length < 2 ^ 32) :
    Reads (block strict) (encodeSized content) content := by
  rw [encodeSized, List.length_append] at small
  exact (reads_unsigned strict (by omega)).bind (reads_take content)

theorem Reads.sized {reader : ByteReader α} {content : List UInt8} {value : α}
    (inside : Reads reader content value) (small : (encodeSized content).length < 2 ^ 32) :
    Reads (ByteReader.sized strict reader) (encodeSized content) value :=
  (reads_block strict small).finish (reads_lift inside.whole_eq)

theorem reads_name {name : String} (small : (encodeName name).length < 2 ^ 32) :
    Reads (ByteReader.name strict) (encodeName name) name := by
  have decoded : String.fromUTF8? (ByteArray.mk name.toUTF8.data.toList.toArray) = some name := by
    rw [Array.toArray_toList]
    exact dif_pos name.isValidUTF8
  exact (reads_block strict small).finish (reads_lift decoded)

theorem reads_valueType (type : ValueType) : Reads valueType type.encode type := by
  cases type with
  | i32 => exact fun _ => rfl
  | i64 => exact fun _ => rfl

theorem ValueType.encode_ne_nil (type : ValueType) : type.encode ≠ [] := by
  cases type <;> exact List.cons_ne_nil _ _

theorem reads_functionType {type : FunctionType} (small : type.encode.length < 2 ^ 32) :
    Reads (functionType strict) type.encode type := by
  rw [FunctionType.encode, List.length_append, List.length_cons] at small
  have typed {types : List ValueType}
      (small : (encodeVector ValueType.encode types).length < 2 ^ 32) :
      Reads (vector strict valueType) (encodeVector ValueType.encode types) types :=
    .vector strict ValueType.encode_ne_nil (fun type _ _ => reads_valueType type) small
  exact (reads_literal 0x60).bind
    (.bind (typed (by omega)) ((typed (by omega)).map (FunctionType.mk type.parameters)))

/-- The first byte of an operation is its code, and the other bytes are its immediate value. -/
theorem exists_encode_eq_cons (operation : Operation) :
    ∃ code immediate, operation.encode = code :: immediate ∧ code ≠ 0x0B ∧
      Reads (ByteReader.operation strict code) immediate operation := by
  cases operation with
  | const32 value =>
      have found : Reads (signed strict 32) (Leb128.signed value.toInt) value.toInt :=
        Leb128.readSigned_signed (by decide) value.le_toInt value.toInt_lt
      have built := found.map fun value => Operation.const32 (Int32.ofInt value)
      rw [Int32.ofInt_toInt] at built
      exact ⟨_, _, rfl, by decide, built⟩
  | const64 value =>
      have found : Reads (signed strict 64) (Leb128.signed value.toInt) value.toInt :=
        Leb128.readSigned_signed (by decide) value.le_toInt value.toInt_lt
      have built := found.map fun value => Operation.const64 (Int64.ofInt value)
      rw [Int64.ofInt_toInt] at built
      exact ⟨_, _, rfl, by decide, built⟩
  | localGet index =>
      exact ⟨_, _, rfl, by decide, (reads_index strict index).map Operation.localGet⟩
  | localSet index =>
      exact ⟨_, _, rfl, by decide, (reads_index strict index).map Operation.localSet⟩
  | call function =>
      exact ⟨_, _, rfl, by decide, (reads_index strict function).map Operation.call⟩
  | calculate operator =>
      cases operator <;> exact ⟨_, _, rfl, by decide, reads_pure _⟩

/-- An operation that does not end the body is followed by the others. -/
theorem operations_cons {code : UInt8} {bytes rest : List UInt8} {first : Operation}
    (continued : code ≠ 0x0B) (success : operation strict code bytes = some (first, rest)) :
    operations strict (code :: bytes) =
      (operations strict rest).map fun others => (first :: others.1, others.2) := by
  rw [operations, if_neg continued]
  split
  next refused =>
    rw [success] at refused
    cases refused
  next other remaining found =>
    rw [success] at found
    obtain ⟨rfl, rfl⟩ := Prod.mk.inj (Option.some.inj found)
    rfl

theorem reads_operations (sequence : List Operation) :
    Reads (operations strict) (sequence.flatMap Operation.encode ++ [0x0B]) sequence := by
  induction sequence with
  | nil =>
      intro rest
      rw [List.flatMap_nil, List.nil_append, List.singleton_append, operations, if_pos rfl]
  | cons first others inductionHypothesis =>
      obtain ⟨code, immediate, encoded, continued, found⟩ := exists_encode_eq_cons strict first
      intro rest
      rw [List.flatMap_cons, encoded, List.cons_append, List.cons_append, List.cons_append,
        List.append_assoc, List.append_assoc,
        operations_cons strict continued (found _), ← List.append_assoc, inductionHypothesis]
      rfl

theorem reads_localGroup (group : LocalGroup) : Reads (localGroup strict) group.encode group :=
  (reads_index strict group.count).bind
    ((reads_valueType group.type).map (LocalGroup.mk group.count))

theorem LocalGroup.encode_ne_nil (group : LocalGroup) : group.encode ≠ [] :=
  List.append_ne_nil_of_right_ne_nil _ group.type.encode_ne_nil

theorem reads_body {body : Body}
    (few : totalCount body.locals < 2 ^ 32)
    (small : body.encode.length < 2 ^ 32) : Reads (ByteReader.body strict) body.encode body := by
  refine .sized strict ?_ small
  rw [Body.encode, encodeSized, List.length_append, List.append_assoc, List.length_append] at small
  rw [List.append_assoc]
  apply Reads.bind
  case early =>
    apply Reads.vector strict LocalGroup.encode_ne_nil
    · exact fun group _ _ => reads_localGroup strict group
    · omega
  case late =>
    apply Reads.guarded few
    exact (reads_operations strict body.operations).map (Body.mk body.locals)

theorem reads_importEntry {entry : Import} (small : entry.encode.length < 2 ^ 32) :
    Reads (importEntry strict) entry.encode entry := by
  rw [Import.encode, List.append_assoc, List.length_append, List.length_append] at small
  rw [Import.encode, List.append_assoc]
  apply (reads_name strict (by omega)).bind
  apply (reads_name strict (by omega)).bind
  apply (reads_literal 0x00).bind
  exact (reads_index strict entry.type).map (Import.mk entry.moduleName entry.name)

theorem reads_exportEntry {entry : Export} (small : entry.encode.length < 2 ^ 32) :
    Reads (exportEntry strict) entry.encode entry := by
  rw [Export.encode, List.length_append] at small
  apply (reads_name strict (by omega)).bind
  apply (reads_literal 0x00).bind
  exact (reads_index strict entry.function).map (Export.mk entry.name)

/-- A section is taken by its number. -/
theorem Reads.entries {reader : ByteReader α} {encode : α → List UInt8} {elements : List α}
    (number : UInt8) (filled : ∀ element, encode element ≠ [])
    (each : ∀ element ∈ elements, (encode element).length < 2 ^ 32 →
      Reads reader (encode element) element)
    (small : (encodeSection number (encodeVector encode elements)).length < 2 ^ 32) :
    Reads (ByteReader.entries strict number reader)
      (encodeSection number (encodeVector encode elements)) elements := by
  intro rest
  rw [encodeSection, List.length_cons] at small
  rw [encodeSection, List.cons_append, ByteReader.entries, if_pos rfl]
  apply Reads.sized strict _ (by omega)
  apply Reads.vector strict filled each
  rw [encodeSized, List.length_append] at small
  omega

theorem reads_literals (expected : List UInt8) : Reads (expected.forM literal) expected () := by
  induction expected with
  | nil => exact reads_pure ()
  | cons first rest inductionHypothesis => exact (reads_literal first).bind inductionHypothesis

end Encodings

theorem encodeIndex_ne_nil (index : UInt32) : encodeIndex index ≠ [] :=
  Leb128.unsigned_ne_nil index.toNat

theorem encodeSized_ne_nil (content : List UInt8) : encodeSized content ≠ [] :=
  List.append_ne_nil_of_left_ne_nil (Leb128.unsigned_ne_nil content.length) content

theorem FunctionType.encode_ne_nil (type : FunctionType) : type.encode ≠ [] :=
  List.cons_ne_nil _ _

theorem Body.encode_ne_nil (body : Body) : body.encode ≠ [] := encodeSized_ne_nil _

theorem Import.encode_ne_nil (entry : Import) : entry.encode ≠ [] :=
  List.append_ne_nil_of_right_ne_nil _ (List.cons_ne_nil _ _)

theorem Export.encode_ne_nil (entry : Export) : entry.encode ≠ [] :=
  List.append_ne_nil_of_right_ne_nil _ (List.cons_ne_nil _ _)

namespace Module

/-- The format has 32 bits for every size, and for the number of locals of a function. -/
structure IsEncodable (source : Module) : Prop where
  paired : source.functions.length = source.bodies.length
  few : ∀ body ∈ source.bodies, totalCount body.locals < 2 ^ 32
  small : source.encode.length < 2 ^ 32

/-- Every part of an encoded module is read back, and no byte is left. -/
theorem decode_encode (strict : Bool) {source : Module} (encodable : source.IsEncodable) :
    decode strict source.encode = some source := by
  -- The sizes of all parts follow from the size of the whole module.
  have small := encodable.small
  simp only [encode, typeContent, List.length_append] at small
  have types : Reads (entries strict 1 (functionType strict)) _ source.types :=
    .entries strict 1 FunctionType.encode_ne_nil (fun _ _ => reads_functionType strict) (by omega)
  have imports : Reads (entries strict 2 (importEntry strict)) _ source.imports :=
    .entries strict 2 Import.encode_ne_nil (fun _ _ => reads_importEntry strict) (by omega)
  have functions : Reads (entries strict 3 (index strict)) _ source.functions :=
    .entries strict 3 encodeIndex_ne_nil (fun index _ _ => reads_index strict index) (by omega)
  have exports : Reads (entries strict 7 (exportEntry strict)) _ source.exports :=
    .entries strict 7 Export.encode_ne_nil (fun _ _ => reads_exportEntry strict) (by omega)
  have bodies : Reads (entries strict 10 (body strict)) _ source.bodies :=
    .entries strict 10 Body.encode_ne_nil
      (fun body member => reads_body strict (encodable.few body member)) (by omega)
  apply Reads.whole_eq
  simp only [encode, List.append_assoc]
  apply (reads_literals header).bind
  apply types.bind
  apply imports.bind
  apply functions.bind
  apply exports.bind
  apply bodies.finish
  exact (reads_pure source).guarded encodable.paired

end Module

end TraceCalc.Wasm
