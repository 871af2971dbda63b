/-
This file reads the operations of a module back from its text.
-/

import Mathlib
import TraceCalc.Proofs.Text.Splitting
import TraceCalc.Wasm.Emission
import TraceCalc.Wasm.Text

namespace TraceCalc.Wasm

/-- An integer that is no word is refused. -/
def readWord {Word : Type} (ofInt : Int → Word) (toInt : Word → Int) (text : String) :
    Option Word :=
  text.toInt?.bind fun number =>
    if toInt (ofInt number) = number then some (ofInt number) else none

theorem readWord_repr {Word : Type} {ofInt : Int → Word} {toInt : Word → Int} {word : Word}
    (same : ofInt (toInt word) = word) : readWord ofInt toInt (toInt word).repr = some word := by
  rw [readWord, Int.toInt?_repr, Option.bind_some, same, if_pos rfl]

/-- Indices are not negative. -/
def readIndex : String → Option UInt32 :=
  readWord (fun number => UInt32.ofNat number.toNat) fun index => index.toNat

theorem readIndex_repr (index : UInt32) : readIndex index.toNat.repr = some index := by
  have same : UInt32.ofNat (index.toNat : Int).toNat = index := by simp
  exact readWord_repr same

namespace Operation

/-- These operations have no immediate value. -/
def ofKeyword? : String → Option Operation
  | "i64.add" => some (.calculate .plus)
  | "i64.sub" => some (.calculate .minus)
  | "i64.mul" => some (.calculate .times)
  | "i64.div_s" => some (.calculate .divide)
  | _ => none

/-- Constants have signed values, and all others are indices. -/
def ofImmediate? (value : String) : String → Option Operation
  | "i32.const" => (readWord Int32.ofInt Int32.toInt value).map .const32
  | "i64.const" => (readWord Int64.ofInt Int64.toInt value).map .const64
  | "local.get" => (readIndex value).map .localGet
  | "local.set" => (readIndex value).map .localSet
  | "call" => (readIndex value).map .call
  | _ => none

/-- A space stands between the keyword and the immediate value. -/
def ofText? (text : String) : Option Operation :=
  match Text.split ' ' text with
  | [keyword] => ofKeyword? keyword
  | [keyword, value] => ofImmediate? value keyword
  | _ => none

theorem ofText?_append {opening keyword value : String}
    (spaced : opening = keyword ++ String.singleton ' ') (name : Text.Lacks ' ' keyword)
    (immediate : Text.Lacks ' ' value) :
    ofText? (opening ++ value) = ofImmediate? value keyword := by
  rw [ofText?, spaced, String.append_assoc, Text.split_append, Text.split_of_lacks name,
    Text.split_of_lacks immediate, List.singleton_append]

theorem ofText?_text (operation : Operation) : ofText? operation.text = some operation := by
  have signed (number : Int) : Text.Lacks ' ' number.repr :=
    Text.lacks_intRepr (by decide) (by decide) number
  have unsigned (index : UInt32) : Text.Lacks ' ' index.toNat.repr :=
    Text.lacks_natRepr (by decide) index.toNat
  cases operation with
  | const32 value =>
      have spaced : "i32.const " = "i32.const" ++ String.singleton ' ' := rfl
      rw [text, ofText?_append spaced (by decide) (signed _), ofImmediate?,
        readWord_repr (Int32.ofInt_toInt value), Option.map_some]
  | const64 value =>
      have spaced : "i64.const " = "i64.const" ++ String.singleton ' ' := rfl
      rw [text, ofText?_append spaced (by decide) (signed _), ofImmediate?,
        readWord_repr (Int64.ofInt_toInt value), Option.map_some]
  | localGet index =>
      have spaced : "local.get " = "local.get" ++ String.singleton ' ' := rfl
      rw [text, ofText?_append spaced (by decide) (unsigned _), ofImmediate?, readIndex_repr,
        Option.map_some]
  | localSet index =>
      have spaced : "local.set " = "local.set" ++ String.singleton ' ' := rfl
      rw [text, ofText?_append spaced (by decide) (unsigned _), ofImmediate?, readIndex_repr,
        Option.map_some]
  | call function =>
      have spaced : "call " = "call" ++ String.singleton ' ' := rfl
      rw [text, ofText?_append spaced (by decide) (unsigned _), ofImmediate?, readIndex_repr,
        Option.map_some]
  | calculate operator => cases operator <;> rfl

/-- Four spaces stand before every operation. -/
def ofLine? (line : String) : Option Operation :=
  match line.toList with
  | ' ' :: ' ' :: ' ' :: ' ' :: text => ofText? (String.ofList text)
  | _ => none

/-- The line of an operation. -/
def line (operation : Operation) : String := "    " ++ operation.text

theorem ofLine?_line (operation : Operation) : ofLine? operation.line = some operation := by
  have characters : operation.line.toList = ' ' :: ' ' :: ' ' :: ' ' :: operation.text.toList :=
    String.toList_append
  simp only [ofLine?, characters, String.ofList_toList, ofText?_text]

theorem line_ne_closing (operation : Operation) : operation.line ≠ "  )" := by
  intro same
  have characters := congrArg String.toList same
  rw [line, String.toList_append] at characters
  simp at characters

end Operation

/-- Of all fields of a module, only a function starts with this letter. -/
def opensFunction (line : String) : Bool := line.toList.take 4 == [' ', ' ', '(', 'f']

theorem opensFunction_append {opening : String} (long : 4 ≤ opening.toList.length)
    (rest : String) : opensFunction (opening ++ rest) = opensFunction opening := by
  rw [opensFunction, String.toList_append, List.take_append_of_le_length long, ← opensFunction]

theorem opensFunction_typeLine (entry : FunctionType × Nat) :
    opensFunction (typeLine entry) = false := by
  have characters : (typeLine entry).toList.take 4 = [' ', ' ', '(', 't'] := by
    simp only [typeLine, String.toList_append, List.append_assoc]
    rfl
  rw [opensFunction, characters]
  rfl

/-- The line of the locals comes before the operations, and a parenthesis behind them. -/
def operationLines (lines : List String) : List String :=
  ((lines.dropWhile fun line => !opensFunction line).drop 2).takeWhile (· != "  )")

/-- The operations of the first function in the text. -/
def readOperations (text : String) : Option (List Operation) :=
  (operationLines (Text.split '\n' text)).mapM Operation.ofLine?

theorem operationLines_append {before behind : List String} {header declaration : String}
    (operations : List Operation) (others : ∀ line ∈ before, opensFunction line = false)
    (opening : opensFunction header = true) :
    operationLines (before ++ header :: declaration ::
      (operations.map Operation.line ++ "  )" :: behind)) = operations.map Operation.line := by
  have passed : ∀ line ∈ before, (!opensFunction line) = true := by
    intro line member
    rw [others line member]
    rfl
  have inside : ∀ line ∈ operations.map Operation.line, (line != "  )") = true := by
    intro line member
    obtain ⟨operation, _, rfl⟩ := List.mem_map.mp member
    exact bne_iff_ne.mpr operation.line_ne_closing
  rw [operationLines, List.dropWhile_append_of_pos passed,
    List.dropWhile_cons_of_neg (by simp [opening])]
  simp only [List.drop_succ_cons, List.drop_zero]
  rw [List.takeWhile_append_of_pos inside, List.takeWhile_cons_of_neg (by simp), List.append_nil]

theorem mapM_ofLine? (operations : List Operation) :
    (operations.map Operation.line).mapM Operation.ofLine? = some operations := by
  induction operations with
  | nil => rfl
  | cons operation rest inductionHypothesis =>
      rw [List.map_cons, List.mapM_cons, Operation.ofLine?_line, inductionHypothesis]
      rfl

section LineFeeds

open Text

theorem Operation.lacks_line (operation : Operation) : Lacks '\n' operation.line := by
  have signed (number : Int) : Lacks '\n' number.repr :=
    lacks_intRepr (by decide) (by decide) number
  have unsigned (number : Nat) : Lacks '\n' number.repr := lacks_natRepr (by decide) number
  refine lacks_append_iff.mpr ⟨by decide, ?_⟩
  cases operation with
  | const32 value => exact lacks_append_iff.mpr ⟨by decide, signed _⟩
  | const64 value => exact lacks_append_iff.mpr ⟨by decide, signed _⟩
  | localGet index => exact lacks_append_iff.mpr ⟨by decide, unsigned _⟩
  | localSet index => exact lacks_append_iff.mpr ⟨by decide, unsigned _⟩
  | call function => exact lacks_append_iff.mpr ⟨by decide, unsigned _⟩
  | calculate operator => cases operator <;> decide

theorem lacks_typeEntry {keyword : String} (name : Lacks '\n' keyword) (types : List ValueType) :
    Lacks '\n' (typeEntry keyword types) := by
  rw [typeEntry]
  split
  next => decide
  next =>
      have types : ∀ piece ∈ keyword :: types.map ValueType.text, Lacks '\n' piece := by
        refine List.forall_mem_cons.mpr ⟨name, fun piece member => ?_⟩
        obtain ⟨type, _, rfl⟩ := List.mem_map.mp member
        cases type <;> decide
      have joined := lacks_intercalate (by decide : Lacks '\n' " ") types
      exact lacks_append_iff.mpr ⟨lacks_append_iff.mpr ⟨by decide, joined⟩, by decide⟩

theorem FunctionType.lacks_text (type : FunctionType) : Lacks '\n' type.text :=
  lacks_append_iff.mpr ⟨lacks_typeEntry (by decide) _, lacks_typeEntry (by decide) _⟩

theorem lacks_typeLine (entry : FunctionType × Nat) : Lacks '\n' (typeLine entry) := by
  have number : Lacks '\n' (numberComment entry.2) :=
    lacks_append_iff.mpr
      ⟨lacks_append_iff.mpr ⟨by decide, lacks_natRepr (by decide) entry.2⟩, by decide⟩
  simp only [typeLine, lacks_append_iff]
  exact ⟨⟨⟨⟨by decide, number⟩, by decide⟩, entry.1.lacks_text⟩, by decide⟩

end LineFeeds

end TraceCalc.Wasm

namespace TraceCalc.Program

open Wasm

variable (program : Program)

/-- The type of the function that is exported. -/
def functionType : FunctionType :=
  ⟨List.replicate program.parameters.length .i64, [.i64]⟩

/-- The lines before the function. -/
def openingLines : List String :=
  ["(module", "  (type (;0;) (func (param i32 i64)))",
    typeLine (program.functionType, 1),
    "  (import \"env\" \"trace\" (func (;0;) (type 0)))"]

/-- The first line of the function. -/
def functionLine : String := "  (func (;1;) (type 1)" ++ program.functionType.text

/-- The lines behind the function. -/
def closingLines : List String := ["  (export \"evaluate\" (func 1))", ")"]

theorem functionLines_toModule : program.toModule.functionLines ((1, program.body), 1) =
    program.functionLine :: "    (local i64)" ::
      (program.body.operations.map Operation.line ++ ["  )"]) := by
  have header : "  (func " ++ numberComment 1 ++ " (type " ++ (1 : UInt32).toNat.repr ++ ")" =
      "  (func (;1;) (type 1)" := by decide
  have locals : program.body.locals.map LocalGroup.text = ["(local i64)"] := rfl
  rw [Module.functionLines, Body.lines, locals]
  dsimp only
  rw [header, List.map_append, List.map_map]
  rfl

theorem lines_toModule : program.toModule.lines =
    program.openingLines ++ program.functionLine :: "    (local i64)" ::
      (program.body.operations.map Operation.line ++ "  )" :: closingLines) := by
  have trace : typeLine (⟨[.i32, .i64], []⟩, 0) = "  (type (;0;) (func (param i32 i64)))" := by
    decide
  have types : program.toModule.types.zipIdx.map typeLine =
      ["  (type (;0;) (func (param i32 i64)))", typeLine (program.functionType, 1)] := by
    rw [← trace]
    rfl
  have builtin : Import.line (⟨"env", "trace", 0⟩, 0) =
      "  (import \"env\" \"trace\" (func (;0;) (type 0)))" := by
    decide
  have imports : program.toModule.imports.zipIdx.map Import.line =
      ["  (import \"env\" \"trace\" (func (;0;) (type 0)))"] := by
    rw [← builtin]
    rfl
  have function : ((program.toModule.functions.zip program.toModule.bodies).zipIdx
      program.toModule.imports.length).flatMap program.toModule.functionLines =
      program.toModule.functionLines ((1, program.body), 1) := List.append_nil _
  have exports : program.toModule.exports.map Export.line = ["  (export \"evaluate\" (func 1))"] :=
    rfl
  rw [Module.lines, function, functionLines_toModule, types, imports, exports, openingLines,
    closingLines]
  simp only [List.append_assoc, List.cons_append, List.nil_append]

/-- No line of the text is broken in two. -/
theorem lacks_of_mem_lines {line : String} (member : line ∈ program.toModule.lines) :
    Text.Lacks '\n' line := by
  have header : Text.Lacks '\n' program.functionLine :=
    Text.lacks_append_iff.mpr ⟨by decide, program.functionType.lacks_text⟩
  rw [lines_toModule, List.mem_append, List.mem_cons, List.mem_cons, List.mem_append,
    List.mem_cons] at member
  rcases member with opening | rfl | rfl | inside | rfl | closing
  · simp only [openingLines, List.mem_cons, List.not_mem_nil, or_false] at opening
    rcases opening with rfl | rfl | rfl | rfl
    · decide
    · decide
    · exact lacks_typeLine _
    · decide
  · exact header
  · decide
  · obtain ⟨operation, _, rfl⟩ := List.mem_map.mp inside
    exact operation.lacks_line
  · decide
  · revert line
    decide

/-- The function is the first one in the text. -/
theorem operationLines_toModule {before : List String}
    (others : ∀ line ∈ before, opensFunction line = false) (behind : List String) :
    operationLines (before ++ program.toModule.lines ++ behind) =
      program.body.operations.map Operation.line := by
  have header : opensFunction program.functionLine = true :=
    (opensFunction_append (by decide) _).trans (by decide)
  have opening : ∀ line ∈ before ++ program.openingLines, opensFunction line = false := by
    refine List.forall_mem_append.mpr ⟨others, fun line member => ?_⟩
    simp only [openingLines, List.mem_cons, List.not_mem_nil, or_false] at member
    rcases member with rfl | rfl | rfl | rfl
    · decide
    · decide
    · exact opensFunction_typeLine _
    · decide
  have split : before ++ program.toModule.lines ++ behind =
      before ++ program.openingLines ++ program.functionLine :: "    (local i64)" ::
        (program.body.operations.map Operation.line ++ "  )" :: (closingLines ++ behind)) := by
    simp only [lines_toModule, List.append_assoc, List.cons_append]
  rw [split]
  exact operationLines_append program.body.operations opening header

end TraceCalc.Program
