/-
This file states the laws of the two formats. The writer and the printer obey them, and for the
modules of programs the laws leave no choice.
-/

import TraceCalc.Proofs.Wasm.Emission
import TraceCalc.Wasm.Text

namespace TraceCalc

namespace Wasm

section Words

/-- A value type is shown as its keyword. -/
inductive ValueType.IsShownAs : ValueType → String → Prop
  | i32 : IsShownAs .i32 "i32"
  | i64 : IsShownAs .i64 "i64"

/-- A space stands before every keyword. -/
inductive AreShownAs : List ValueType → String → Prop
  | nil : AreShownAs [] ""
  | cons {type : ValueType} {types : List ValueType} {word words : String}
      (first : type.IsShownAs word) (others : AreShownAs types words) :
      AreShownAs (type :: types) (" " ++ word ++ words)

/-- The types stand in parentheses, and nothing is shown if there are none. -/
inductive IsEntry (keyword : String) : List ValueType → String → Prop
  | empty : IsEntry keyword [] ""
  | filled {types : List ValueType} {words : String} (present : types ≠ [])
      (shown : AreShownAs types words) : IsEntry keyword types (" (" ++ keyword ++ words ++ ")")

/-- The parameters come before the results. -/
inductive FunctionType.IsShownAs (type : FunctionType) : String → Prop
  | entries {first second : String} (parameters : IsEntry "param" type.parameters first)
      (results : IsEntry "result" type.results second) : IsShownAs type (first ++ second)

/-- An operation is shown as its keyword and its immediate value. -/
inductive Operation.IsShownAs : Operation → String → Prop
  | const32 (value : Int32) : IsShownAs (.const32 value) ("i32.const " ++ value.toInt.repr)
  | const64 (value : Int64) : IsShownAs (.const64 value) ("i64.const " ++ value.toInt.repr)
  | localGet (index : UInt32) : IsShownAs (.localGet index) ("local.get " ++ index.toNat.repr)
  | localSet (index : UInt32) : IsShownAs (.localSet index) ("local.set " ++ index.toNat.repr)
  | call (function : UInt32) : IsShownAs (.call function) ("call " ++ function.toNat.repr)
  | plus : IsShownAs (.calculate .plus) "i64.add"
  | minus : IsShownAs (.calculate .minus) "i64.sub"
  | times : IsShownAs (.calculate .times) "i64.mul"
  | divide : IsShownAs (.calculate .divide) "i64.div_s"

variable {text : String}

theorem ValueType.isShownAs_iff {type : ValueType} : type.IsShownAs text ↔ text = type.text := by
  constructor
  · intro shown
    cases shown <;> rfl
  · rintro rfl
    cases type with
    | i32 => exact .i32
    | i64 => exact .i64

theorem areShownAs_iff {types : List ValueType} :
    AreShownAs types text ↔ text = String.join (types.map fun type => " " ++ type.text) := by
  induction types generalizing text with
  | nil =>
      constructor
      · intro shown
        cases shown
        rfl
      · rintro rfl
        exact .nil
  | cons type types inductionHypothesis =>
      rw [List.map_cons, String.join_cons]
      constructor
      · intro shown
        cases shown with
        | cons first others =>
            rw [ValueType.isShownAs_iff.mp first, inductionHypothesis.mp others]
      · rintro rfl
        exact .cons (ValueType.isShownAs_iff.mpr rfl) (inductionHypothesis.mpr rfl)

/-- Words with spaces between them are the first word and the others with a space before each. -/
theorem intercalate_cons_eq_join (first : String) (others : List String) :
    " ".intercalate (first :: others) = first ++ String.join (others.map (" " ++ ·)) := by
  induction others generalizing first with
  | nil => simp
  | cons second others inductionHypothesis =>
      rw [String.intercalate_cons_cons, inductionHypothesis, List.map_cons, String.join_cons,
        String.append_assoc, String.append_assoc]

theorem isEntry_iff {keyword : String} {types : List ValueType} :
    IsEntry keyword types text ↔ text = typeEntry keyword types := by
  have filled (present : types ≠ []) : typeEntry keyword types =
      " (" ++ keyword ++ String.join (types.map fun type => " " ++ type.text) ++ ")" := by
    rw [typeEntry, if_neg (by simpa using present), intercalate_cons_eq_join, List.map_map,
      ← String.append_assoc]
    rfl
  constructor
  · intro entry
    cases entry with
    | empty => rfl
    | filled present shown => rw [filled present, areShownAs_iff.mp shown]
  · rintro rfl
    by_cases present : types = []
    · rw [present]
      exact .empty
    · rw [filled present]
      exact .filled present (areShownAs_iff.mpr rfl)

theorem FunctionType.isShownAs_iff {type : FunctionType} :
    type.IsShownAs text ↔ text = type.text := by
  constructor
  · rintro ⟨parameters, results⟩
    rw [isEntry_iff.mp parameters, isEntry_iff.mp results]
    rfl
  · rintro rfl
    exact .entries (isEntry_iff.mpr rfl) (isEntry_iff.mpr rfl)

theorem Operation.isShownAs_iff {operation : Operation} :
    operation.IsShownAs text ↔ text = operation.text := by
  constructor
  · intro shown
    cases shown <;> rfl
  · rintro rfl
    cases operation with
    | const32 value => exact .const32 value
    | const64 value => exact .const64 value
    | localGet index => exact .localGet index
    | localSet index => exact .localSet index
    | call function => exact .call function
    | calculate operator =>
        cases operator with
        | plus => exact .plus
        | minus => exact .minus
        | times => exact .times
        | divide => exact .divide

end Words

section Lines

/-- A type is shown behind its number. -/
inductive IsTypeLine : FunctionType × Nat → String → Prop
  | numbered {type : FunctionType} {number : Nat} {signature : String}
      (shown : type.IsShownAs signature) :
      IsTypeLine (type, number)
        ("  (type " ++ ("(;" ++ number.repr ++ ";)") ++ " (func" ++ signature ++ "))")

/-- The function has one local, and every operation stands on its own line. -/
inductive IsFunctionBlock (types : List FunctionType) :
    (UInt32 × Body) × Nat → List String → Prop
  | lines {index : UInt32} {operations : List Operation} {number : Nat} {type : FunctionType}
      {valueType : ValueType} {signature word : String} {texts : List String}
      (known : types[index.toNat]? = some type) (typed : type.IsShownAs signature)
      (named : valueType.IsShownAs word)
      (shown : List.Forall₂ Operation.IsShownAs operations texts) :
      IsFunctionBlock types ((index, ⟨[⟨1, valueType⟩], operations⟩), number)
        (("  (func " ++ ("(;" ++ number.repr ++ ";)") ++ " (type " ++ index.toNat.repr ++ ")" ++
            signature) ::
          ("    (local " ++ word ++ ")") :: (texts.map ("    " ++ ·) ++ ["  )"]))

/-- The fields stand in their order between the parentheses of the module. -/
inductive Module.IsLaidOut (source : Module) : List String → Prop
  | fields {types : List String} {blocks : List (List String)}
      (shown : List.Forall₂ IsTypeLine source.types.zipIdx types)
      (defined : List.Forall₂ (IsFunctionBlock source.types)
        ((source.functions.zip source.bodies).zipIdx source.imports.length) blocks) :
      IsLaidOut source (["(module"] ++ types ++
        (source.imports.zipIdx.map fun entry =>
          "  (import \"" ++ entry.1.moduleName ++ "\" \"" ++ entry.1.name ++ "\" (func " ++
            ("(;" ++ entry.2.repr ++ ";)") ++ " (type " ++ entry.1.type.toNat.repr ++ ")))") ++
        blocks.flatten ++
        (source.exports.map fun entry =>
          "  (export \"" ++ entry.name ++ "\" (func " ++ entry.function.toNat.repr ++ "))") ++
        [")"])

theorem isTypeLine_iff {entry : FunctionType × Nat} {line : String} :
    IsTypeLine entry line ↔ line = typeLine entry := by
  constructor
  · rintro ⟨shown⟩
    rw [FunctionType.isShownAs_iff.mp shown]
    rfl
  · rintro rfl
    exact .numbered (FunctionType.isShownAs_iff.mpr rfl)

/-- Every line is determined by the element that it shows. -/
theorem forall₂_iff_eq_map {α β : Type} {relation : α → β → Prop} {write : α → β}
    {elements : List α} {lines : List β}
    (each : ∀ element ∈ elements, ∀ line, relation element line ↔ line = write element) :
    List.Forall₂ relation elements lines ↔ lines = elements.map write := by
  induction elements generalizing lines with
  | nil => exact List.forall₂_nil_left_iff
  | cons element elements inductionHypothesis =>
      obtain ⟨first, others⟩ := List.forall_mem_cons.mp each
      rw [List.forall₂_cons_left_iff, List.map_cons]
      constructor
      · rintro ⟨line, rest, shown, later, rfl⟩
        rw [(first line).mp shown, (inductionHypothesis others).mp later]
      · rintro rfl
        exact ⟨_, _, (first _).mpr rfl, (inductionHypothesis others).mpr rfl, rfl⟩

theorem isFunctionBlock_iff {source : Module} {index : UInt32} {body : Body} {number : Nat}
    {lines : List String} (known : index.toNat < source.types.length)
    (single : ∃ type, body.locals = [⟨1, type⟩]) :
    IsFunctionBlock source.types ((index, body), number) lines ↔
      lines = source.functionLines ((index, body), number) := by
  obtain ⟨valueType, declared⟩ := single
  obtain ⟨locals, operations⟩ := body
  subst declared
  have declaration : "    " ++ (LocalGroup.mk 1 valueType).text =
      "    (local " ++ valueType.text ++ ")" := by
    cases valueType <;> decide
  have spelled : source.functionLines ((index, ⟨[⟨1, valueType⟩], operations⟩), number) =
      ("  (func " ++ numberComment number ++ " (type " ++ index.toNat.repr ++ ")" ++
          source.types[index.toNat].text) ::
        ("    (local " ++ valueType.text ++ ")") ::
          ((operations.map Operation.text).map ("    " ++ ·) ++ ["  )"]) := by
    rw [Module.functionLines, Body.lines, List.getElem?_eq_getElem known, ← declaration]
    rfl
  have listed {texts : List String} :
      List.Forall₂ Operation.IsShownAs operations texts ↔ texts = operations.map Operation.text :=
    forall₂_iff_eq_map fun operation _ text => operation.isShownAs_iff
  rw [spelled]
  constructor
  · rintro ⟨found, typed, named, shown⟩
    rw [List.getElem?_eq_getElem known, Option.some.injEq] at found
    rw [FunctionType.isShownAs_iff.mp typed, ValueType.isShownAs_iff.mp named, listed.mp shown,
      found]
    rfl
  · rintro rfl
    exact .lines (List.getElem?_eq_getElem known) (FunctionType.isShownAs_iff.mpr rfl)
      (ValueType.isShownAs_iff.mpr rfl) (listed.mpr rfl)

end Lines

namespace Module

/-- A plain module has names of letters, which need no escape, and functions with one local. -/
structure IsPlain (source : Module) : Prop where
  results : ∀ type ∈ source.types, type.results.length ≤ 1
  imports : ∀ entry ∈ source.imports, entry.type.toNat < source.types.length ∧
    (entry.moduleName ++ entry.name).toList.all Char.isAlpha = true
  functions : ∀ index ∈ source.functions, index.toNat < source.types.length
  exports : ∀ entry ∈ source.exports, entry.name.toList.all Char.isAlpha = true
  paired : source.functions.length = source.bodies.length
  single : ∀ body ∈ source.bodies, ∃ type, body.locals = [⟨1, type⟩]

/-- Its lines are the only layout of a plain module. -/
theorem isLaidOut_iff {source : Module} (plain : source.IsPlain) {lines : List String} :
    source.IsLaidOut lines ↔ lines = source.lines := by
  have types {texts : List String} :
      List.Forall₂ IsTypeLine source.types.zipIdx texts ↔
        texts = source.types.zipIdx.map typeLine :=
    forall₂_iff_eq_map fun _ _ _ => isTypeLine_iff
  have functions {blocks : List (List String)} :
      List.Forall₂ (IsFunctionBlock source.types)
          ((source.functions.zip source.bodies).zipIdx source.imports.length) blocks ↔
        blocks = ((source.functions.zip source.bodies).zipIdx source.imports.length).map
          source.functionLines := by
    refine forall₂_iff_eq_map fun ⟨⟨index, body⟩, number⟩ member block => ?_
    obtain ⟨declared, defined⟩ := List.of_mem_zip (List.fst_mem_of_mem_zipIdx member)
    exact isFunctionBlock_iff (plain.functions index declared) (plain.single body defined)
  have written : source.lines = ["(module"] ++ source.types.zipIdx.map typeLine ++
      source.imports.zipIdx.map Import.line ++
      (((source.functions.zip source.bodies).zipIdx source.imports.length).map
        source.functionLines).flatten ++ source.exports.map Export.line ++ [")"] := by
    rw [Module.lines, List.flatMap_def]
  rw [written]
  constructor
  · rintro ⟨shown, defined⟩
    rw [types.mp shown, functions.mp defined]
    rfl
  · rintro rfl
    exact .fields (types.mpr rfl) (functions.mpr rfl)

section Limit

variable {source : Module} {before behind : List FunctionType} {type : FunctionType}

/-- The bytes before the parameter count of the type that follows these types. -/
def bytesBeforeCount (source : Module) (before : List FunctionType) : List UInt8 :=
  header ++ 0x01 :: (Leb128.unsigned source.typeContent.length ++
    (Leb128.unsigned source.types.length ++ (before.flatMap FunctionType.encode ++ [0x60])))

/-- The number of parameters stands behind these bytes. -/
theorem bytesBeforeCount_append_isPrefix (split : source.types = before ++ type :: behind) :
    source.bytesBeforeCount before ++ Leb128.unsigned type.parameters.length <+:
      source.encode := by
  have opened : encodeSection 1 source.typeContent =
      0x01 :: (Leb128.unsigned source.typeContent.length ++
        (Leb128.unsigned source.types.length ++ source.types.flatMap FunctionType.encode)) := rfl
  have listed : source.types.flatMap FunctionType.encode =
      before.flatMap FunctionType.encode ++
        (type.encode ++ behind.flatMap FunctionType.encode) := by
    rw [split, List.flatMap_append, List.flatMap_cons]
  rw [encode, opened, listed, FunctionType.encode, encodeVector, bytesBeforeCount]
  simp only [List.append_assoc, List.cons_append, List.nil_append, List.prefix_append_right_inj,
    List.cons_prefix_cons, true_and]
  exact List.prefix_append _ _

/-- The first type with too many parameters is found behind those before it. -/
theorem oversizedFrom_append (few : ∀ other ∈ before, other.parameters.length ≤ parameterLimit)
    (many : parameterLimit < type.parameters.length) (offset : Nat) :
    oversizedFrom offset (before ++ type :: behind) =
      some (offset + (before.flatMap FunctionType.encode).length + 1) := by
  induction before generalizing offset with
  | nil => exact if_pos many
  | cons first others inductionHypothesis =>
      obtain ⟨small, rest⟩ := List.forall_mem_cons.mp few
      rw [List.cons_append, oversizedFrom, if_neg (Nat.not_lt.mpr small), inductionHypothesis rest,
        List.flatMap_cons, List.length_append, Nat.add_assoc offset]

theorem oversizedFrom_eq_none {types : List FunctionType}
    (few : ∀ type ∈ types, type.parameters.length ≤ parameterLimit) (offset : Nat) :
    oversizedFrom offset types = none := by
  induction types generalizing offset with
  | nil => rfl
  | cons first others inductionHypothesis =>
      obtain ⟨small, rest⟩ := List.forall_mem_cons.mp few
      rw [oversizedFrom, if_neg (Nat.not_lt.mpr small), inductionHypothesis rest]

theorem length_bytesBeforeCount (source : Module) (before : List FunctionType) :
    (source.bytesBeforeCount before).length =
      source.typesOffset + (before.flatMap FunctionType.encode).length + 1 := by
  simp only [bytesBeforeCount, typesOffset, List.length_append, List.length_cons, List.length_nil]
  omega

end Limit

/--
A writer of the binary format opens a module with the magic number and the version. A decoder reads
all of the module back as long as the format has room for it; the decoder may be strict, so that
every integer is as short as it can be.
-/
structure IsBinaryWriter (write : Module → List UInt8) : Prop where
  opens : ∀ source, [0x00, 0x61, 0x73, 0x6D, 0x01, 0x00, 0x00, 0x00] <+: write source
  decodes : ∀ source : Module, source.functions.length = source.bodies.length →
    (∀ body ∈ source.bodies, ByteReader.totalCount body.locals < 2 ^ 32) →
    (write source).length < 2 ^ 32 → ∀ strict, decode strict (write source) = some source

/--
A printer of the text format refuses a function type with more than 1000 parameters and names the
place of their number in the binary format. It joins the lines of all other plain modules.
-/
structure IsTextPrinter (print : Module → Except Error String) : Prop where
  refuses : ∀ source : Module, source.IsPlain → ∀ before type behind,
    source.types = before ++ type :: behind →
    (∀ other ∈ before, other.parameters.length ≤ 1000) → 1000 < type.parameters.length →
    print source = .error (.tooManyParameters (source.bytesBeforeCount before).length)
  prints : ∀ source : Module, source.IsPlain →
    (∀ type ∈ source.types, type.parameters.length ≤ 1000) →
    ∃ lines, source.IsLaidOut lines ∧ print source = .ok ("\n".intercalate lines)

theorem isBinaryWriter_encode : IsBinaryWriter encode where
  opens source := by
    simp only [encode, List.append_assoc]
    exact List.prefix_append header _
  decodes source paired few small strict := decode_encode strict ⟨paired, few, small⟩

theorem isTextPrinter_text : IsTextPrinter text where
  refuses source _ before type behind split few many := by
    rw [text, split, oversizedFrom_append few many, ← length_bytesBeforeCount]
  prints source plain few := by
    refine ⟨source.lines, (isLaidOut_iff plain).mpr rfl, ?_⟩
    rw [text, oversizedFrom_eq_none few]

/-- The laws of the binary format determine a module that has all sections. -/
theorem IsBinaryWriter.eq_encode {write : Module → List UInt8} (writer : IsBinaryWriter write)
    {source : Module} (complete : source.IsComplete)
    (paired : source.functions.length = source.bodies.length)
    (few : ∀ body ∈ source.bodies, ByteReader.totalCount body.locals < 2 ^ 32)
    (small : (write source).length < 2 ^ 32) : write source = source.encode :=
  eq_encode_of_decode complete (writer.decodes source paired few small true)

/-- The laws of the text format determine the text of a plain module, or that it is refused. -/
theorem IsTextPrinter.eq_text {print : Module → Except Error String} (printer : IsTextPrinter print)
    {source : Module} (plain : source.IsPlain) : print source = source.text := by
  cases found : source.types.find? fun type => decide (1000 < type.parameters.length) with
  | none =>
      have few : ∀ type ∈ source.types, type.parameters.length ≤ 1000 := by
        simpa using List.find?_eq_none.mp found
      obtain ⟨lines, laidOut, printed⟩ := printer.prints source plain few
      obtain ⟨others, sameLayout, written⟩ := isTextPrinter_text.prints source plain few
      rw [printed, written, (isLaidOut_iff plain).mp laidOut, (isLaidOut_iff plain).mp sameLayout]
  | some type =>
      obtain ⟨large, before, behind, split, others⟩ := List.find?_eq_some_iff_append.mp found
      have many : 1000 < type.parameters.length := by simpa using large
      have few : ∀ other ∈ before, other.parameters.length ≤ 1000 := by simpa using others
      rw [printer.refuses source plain before type behind split few many,
        isTextPrinter_text.refuses source plain before type behind split few many]

end Module

end Wasm

namespace Program

open Wasm

variable {program : Program}

theorem isPlain_toModule (program : Program) : program.toModule.IsPlain := by
  constructor
  case results =>
    refine List.forall_mem_cons.mpr ⟨Nat.zero_le 1, ?_⟩
    exact List.forall_mem_singleton.mpr (Nat.le_refl 1)
  case imports => exact List.forall_mem_singleton.mpr ⟨Nat.zero_lt_succ 1, rfl⟩
  case functions => exact List.forall_mem_singleton.mpr (Nat.lt_succ_self 1)
  case exports => exact List.forall_mem_singleton.mpr rfl
  case paired => rfl
  case single => exact List.forall_mem_singleton.mpr ⟨.i64, rfl⟩

/-- Any writer that obeys the laws writes the module of a program with the same bytes. -/
theorem write_toModule {write : Module → List UInt8} (writer : Module.IsBinaryWriter write)
    (small : (write program.toModule).length < 2 ^ 32) :
    write program.toModule = program.toModule.encode :=
  writer.eq_encode program.isComplete_toModule rfl program.totalCount_locals_lt small

/-- Any printer that obeys the laws prints the module of a program as the same text. -/
theorem print_toModule {print : Module → Except Error String} (printer : Module.IsTextPrinter print)
    (program : Program) : print program.toModule = program.toModule.text :=
  printer.eq_text program.isPlain_toModule

end Program

end TraceCalc
