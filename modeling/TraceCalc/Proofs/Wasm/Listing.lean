/-
This file reads the labels and the operations of a program back from its listing.
-/

import TraceCalc.Proofs.Compilation
import TraceCalc.Proofs.Expr.Explanation
import TraceCalc.Proofs.Wasm.Emission
import TraceCalc.Proofs.Wasm.TextReader

namespace TraceCalc

open Unicode

/-- Labels are written with these characters and without white space. -/
def IsLabelCharacter (character : Char) : Prop :=
  character.isDigit = true ∨ isAlphabetic character = true ∨
    character ∈ ['+', '-', '*', '/', '(', ')']

namespace Expr

theorem isLabelCharacter_enclose {enclosed : Bool} {text : String}
    (inner : ∀ character ∈ text.toList, IsLabelCharacter character) :
    ∀ character ∈ (enclose enclosed text).toList, IsLabelCharacter character := by
  cases enclosed with
  | false => exact inner
  | true =>
      have opening : IsLabelCharacter '(' := .inr (.inr (by decide))
      have closing : IsLabelCharacter ')' := .inr (.inr (by decide))
      simp only [enclose, if_pos, String.toList_append, List.forall_mem_append]
      exact ⟨⟨List.forall_mem_singleton.mpr opening, inner⟩, List.forall_mem_singleton.mpr closing⟩

theorem isLabelCharacter_symbol (operator : Operator) :
    ∀ character ∈ operator.symbol.toList, IsLabelCharacter character := by
  intro character member
  refine .inr (.inr ?_)
  cases operator <;> simp_all [Operator.symbol]

/-- The literals of a source have no sign of their own, and its names have letters and digits. -/
theorem IsCanonical.isLabelCharacter_format {expr : Expr} (canonical : expr.IsCanonical)
    (parent : Precedence) (onRight : Bool) :
    ∀ character ∈ (expr.format parent onRight).toList, IsLabelCharacter character := by
  induction expr generalizing parent onRight with
  | number grouped value =>
      refine isLabelCharacter_enclose fun character member => .inl ?_
      rw [Text.Decimal.toList_write canonical] at member
      exact Nat.isDigit_of_mem_toDigits (by decide) (by decide) member
  | reference grouped name =>
      obtain ⟨first, rest, characters, letter, others⟩ := canonical
      refine isLabelCharacter_enclose ?_
      rw [characters]
      exact List.forall_mem_cons.mpr ⟨.inr (.inl letter), fun character member =>
        (others character member).elim (.inr ∘ .inl) .inl⟩
  | unary grouped operator operand inner =>
      refine isLabelCharacter_enclose ?_
      rw [String.toList_append, List.forall_mem_append]
      exact ⟨isLabelCharacter_symbol operator, inner canonical.operand.1 Precedence.sign false⟩
  | binary grouped operator precedence left right before behind =>
      refine isLabelCharacter_enclose ?_
      rw [String.toList_append, String.toList_append, List.forall_mem_append,
        List.forall_mem_append]
      exact ⟨⟨before canonical.operands.1.1 precedence false, isLabelCharacter_symbol operator⟩,
        behind canonical.operands.2.1 precedence true⟩

/-- Every operator introduces the label that shows its node. -/
theorem labels_lowerFrom {expr : Expr} {keys : List String} {firstLabel : Nat} {segment : Segment}
    (lowered : expr.lowerFrom keys firstLabel = .ok segment) :
    segment.labels = expr.operatorNodes.map text := by
  induction expr generalizing firstLabel segment with
  | number grouped value =>
      rw [lowerFrom] at lowered
      rw [← Except.ok.inj lowered]
      rfl
  | reference grouped name =>
      obtain ⟨slot, _, rfl⟩ := lowerFrom_reference_eq_ok lowered
      rfl
  | unary grouped operator operand inner =>
      obtain ⟨segment, code, operandLowered, _, rfl⟩ := lowerFrom_unary_eq_ok lowered
      rw [Segment.close, inner operandLowered, operatorNodes, List.map_append]
      rfl
  | binary grouped operator precedence left right before behind =>
      obtain ⟨first, second, leftLowered, rightLowered, rfl⟩ := lowerFrom_binary_eq_ok lowered
      rw [Segment.close, Segment.append, before leftLowered, behind rightLowered, operatorNodes,
        List.map_append, List.map_append]
      rfl

end Expr

theorem lacks_of_isLabelCharacter {label : String}
    (characters : ∀ character ∈ label.toList, IsLabelCharacter character) :
    Text.Lacks '\n' label := by
  intro member
  rcases characters '\n' member with digit | letter | symbol
  · simp at digit
  · rw [isAlphabetic_eq_false_of_lt (by decide)] at letter
    simp at letter
  · simp at symbol

namespace Program

open Wasm

/-- The start of a label line shows the number of the label. -/
def labelOpening (number : Nat) : String := ";; label " ++ number.repr ++ ": "

/-- A label line without its line feed. -/
def labelHeading (entry : String × Nat) : String := labelOpening entry.2 ++ entry.1

/-- The label stands behind its number. -/
def readLabel (number : Nat) (line : String) : Option String :=
  ((labelOpening number).toList.isPrefixOf? line.toList).map String.ofList

/-- Labels are read as long as the next line has the next number. -/
def readLabels (number : Nat) : List String → List String
  | [] => []
  | line :: rest =>
      match readLabel number line with
      | some label => label :: readLabels (number + 1) rest
      | none => []

theorem readLabel_labelHeading (label : String) (number : Nat) :
    readLabel number (labelHeading (label, number)) = some label := by
  have found : (labelOpening number).toList.isPrefixOf? (labelHeading (label, number)).toList =
      some label.toList :=
    List.isPrefixOf?_eq_some_iff_append_eq.mpr String.toList_append.symm
  rw [readLabel, found, Option.map_some, String.ofList_toList]

theorem readLabel_module (number : Nat) : readLabel number "(module" = none := by
  rw [readLabel, Option.map_eq_none_iff, Option.eq_none_iff_forall_ne_some]
  intro label found
  have same := List.isPrefixOf?_eq_some_iff_append_eq.mp found
  simp [labelOpening] at same

theorem readLabels_append (labels : List String) (number : Nat) (rest : List String) :
    readLabels number ((labels.zipIdx number).map labelHeading ++ "(module" :: rest) = labels := by
  induction labels generalizing number with
  | nil => rw [List.zipIdx_nil, List.map_nil, List.nil_append, readLabels, readLabel_module]
  | cons label labels inductionHypothesis =>
      rw [List.zipIdx_cons, List.map_cons, List.cons_append, readLabels, readLabel_labelHeading]
      exact congrArg (label :: ·) (inductionHypothesis (number + 1))

section Layout

variable {program : Program}

/-- Only the second type can be too large; the first one takes five bytes. -/
theorem oversizedFrom_toModule (program : Program) (offset : Nat) :
    Module.oversizedFrom offset program.toModule.types =
      if Module.parameterLimit < program.parameters.length then some (offset + 6) else none := by
  have first : (FunctionType.encode ⟨[.i32, .i64], []⟩).length = 5 := by
    simp [FunctionType.encode, encodeVector, Leb128.unsigned_of_lt, ValueType.encode]
  have short : ¬ Module.parameterLimit < [ValueType.i32, .i64].length := by decide
  simp only [toModule, Module.oversizedFrom, if_neg short, first, List.length_replicate]

theorem text_toModule (few : program.parameters.length ≤ Module.parameterLimit) :
    program.toModule.text = .ok ("\n".intercalate program.toModule.lines) := by
  rw [Module.text, oversizedFrom_toModule, if_neg (Nat.not_lt.mpr few)]

theorem text_toModule_of_lt (many : Module.parameterLimit < program.parameters.length) :
    program.toModule.text = .error (.tooManyParameters (program.toModule.typesOffset + 6)) := by
  rw [Module.text, oversizedFrom_toModule, if_pos many]

/-- The lines of a listing. -/
def listingLines (program : Program) : List String :=
  program.labels.zipIdx.map labelHeading ++ program.toModule.lines

/-- The label lines end with line feeds, and the lines of the module are joined by them. -/
def listingText (program : Program) : String :=
  String.join (program.labels.zipIdx.map labelLine) ++ "\n".intercalate program.toModule.lines

/-- No label contains a line feed. -/
theorem split_listingText (labels : ∀ label ∈ program.labels, Text.Lacks '\n' label) :
    Text.split '\n' program.listingText = program.listingLines := by
  have headings : ∀ heading ∈ program.labels.zipIdx.map labelHeading,
      Text.Lacks '\n' heading := by
    intro heading member
    obtain ⟨⟨label, number⟩, found, rfl⟩ := List.mem_map.mp member
    have opening : Text.Lacks '\n' (labelOpening number) :=
      Text.lacks_append_iff.mpr ⟨Text.lacks_append_iff.mpr
        ⟨by decide, Text.lacks_natRepr (by decide) number⟩, by decide⟩
    exact Text.lacks_append_iff.mpr ⟨opening, labels label (List.fst_mem_of_mem_zipIdx found)⟩
  have lines : program.labels.zipIdx.map labelLine =
      (program.labels.zipIdx.map labelHeading).map (· ++ String.singleton '\n') := by
    rw [List.map_map]
    rfl
  have filled : program.toModule.lines ≠ [] := by
    rw [lines_toModule]
    simp [openingLines]
  rw [listingText, lines, Text.split_join_append headings, listingLines]
  exact congrArg _ (Text.split_intercalate filled fun _ => program.lacks_of_mem_lines)

theorem opensFunction_labelHeading (entry : String × Nat) :
    opensFunction (labelHeading entry) = false := by
  have characters : (labelHeading entry).toList.take 4 = [';', ';', ' ', 'l'] := by
    simp only [labelHeading, labelOpening, String.toList_append, List.append_assoc]
    rfl
  rw [opensFunction, characters]
  rfl

/-- The text starts with the lines of the labels, and the labels and operations are read back. -/
structure IsListedIn (program : Program) (text : String) : Prop where
  lines : ∃ rest,
    Text.split '\n' text = program.labels.zipIdx.map labelHeading ++ "(module" :: rest
  labels : readLabels 0 (Text.split '\n' text) = program.labels
  operations : readOperations text = some program.body.operations

/-- Whatever stands behind the listing is not read. -/
theorem isListedIn_of_split {text : String} {behind : List String}
    (split : Text.split '\n' text = program.listingLines ++ behind) :
    program.IsListedIn text := by
  have others : ∀ line ∈ program.labels.zipIdx.map labelHeading, opensFunction line = false := by
    intro line member
    obtain ⟨entry, _, rfl⟩ := List.mem_map.mp member
    exact opensFunction_labelHeading entry
  obtain ⟨rest, parted⟩ : ∃ rest, program.listingLines ++ behind =
      program.labels.zipIdx.map labelHeading ++ "(module" :: rest := by
    rw [listingLines, lines_toModule, openingLines]
    simp only [List.append_assoc, List.cons_append]
    exact ⟨_, rfl⟩
  constructor
  case lines => exact ⟨rest, split.trans parted⟩
  case labels => rw [split, parted, readLabels_append]
  case operations =>
    rw [readOperations, split, listingLines, program.operationLines_toModule others behind,
      mapM_ofLine?]

end Layout

theorem failure_outcome_text_eq_none_iff {program : Program} (output : Option String) :
    (program.outcome output .text).failure = none ↔
      program.parameters.length ≤ Module.parameterLimit := by
  by_cases few : program.parameters.length ≤ Module.parameterLimit
  · rw [outcome_text (text_toModule few), iff_true_right few]
    cases output <;> rfl
  · rw [outcome_text_of_error (text_toModule_of_lt (Nat.lt_of_not_le few)), iff_false_right few]
    simp [Outcome.ofFailure]

/-- The labels of a source are the texts of its operators in the order of their evaluation. -/
theorem labels_of_build {source : String} {program : Program} (built : build source = .ok program) :
    ∃ expr, Expr.parse source = .ok expr ∧ program.parameters = expr.parameters ∧
      program.labels = expr.operatorNodes.map Expr.text := by
  obtain ⟨expr, success, compiled⟩ := build_eq_ok built
  obtain ⟨segment, lowered, rfl⟩ := ofExpr_eq_ok compiled
  exact ⟨expr, success, rfl, Expr.labels_lowerFrom lowered⟩

theorem isLabelCharacter_of_build {source : String} {program : Program}
    (built : build source = .ok program) {label : String} (member : label ∈ program.labels) :
    ∀ character ∈ label.toList, IsLabelCharacter character := by
  obtain ⟨expr, success, _, labels⟩ := labels_of_build built
  rw [labels] at member
  obtain ⟨node, inside, rfl⟩ := List.mem_map.mp member
  have canonical := (Expr.isCanonical_of_parse success).of_mem_operatorNodes inside
  exact canonical.isLabelCharacter_format Precedence.lowest false

/-- The bytes of the operations stand at the end of the module, before the code that ends them. -/
theorem operations_isSuffix (program : Program) :
    program.body.operations.flatMap Operation.encode ++ [0x0B] <:+ program.toModule.encode := by
  have inBody : program.body.operations.flatMap Operation.encode ++ [0x0B] <:+
      program.body.encode := by
    rw [Body.encode, encodeSized, List.append_assoc, ← List.append_assoc (Leb128.unsigned _)]
    exact List.suffix_append _ _
  have inVector : program.body.encode <:+ encodeVector Body.encode program.toModule.bodies := by
    rw [encodeVector, toModule, List.flatMap_singleton]
    exact List.suffix_append _ _
  have inSection : encodeVector Body.encode program.toModule.bodies <:+
      encodeSection 10 (encodeVector Body.encode program.toModule.bodies) :=
    (List.suffix_append _ _).trans (List.suffix_cons _ _)
  exact inBody.trans (inVector.trans (inSection.trans (List.suffix_append _ _)))

theorem step_trace {labels : List String} {index : Nat} {label : String}
    (found : labels[index]? = some label) (arguments : List Int64) (value : Int64)
    (stack : List Int64) :
    (Instruction.trace index).step labels arguments (value :: stack) =
      .ok (value :: stack, [⟨label, value⟩]) := by
  simp only [Instruction.step, found]

end Program

/--
The text of a source that builds can be read back. It exists exactly for up to 1000 variables, as a
document and, with a line feed behind it, on the standard output. Its first lines show the labels
under the numbers of their traces, and its operations are those of the binary module.
-/
theorem compile_text_reads_back {source : String} {program : Program}
    (built : Program.build source = .ok program) :
    (∃ expr, Expr.parse source = .ok expr ∧ program.parameters = expr.parameters ∧
      program.labels = expr.operatorNodes.map Expr.text) ∧
    (∀ label ∈ program.labels, Text.Lacks '\n' label ∧
      ∀ character ∈ label.toList, IsLabelCharacter character) ∧
    (∀ index label, program.labels[index]? = some label → ∀ arguments value stack,
      (Instruction.trace index).step program.labels arguments (value :: stack) =
        .ok (value :: stack, [⟨label, value⟩])) ∧
    (∀ output, (compile source output .text).failure = none ↔ program.parameters.length ≤ 1000) ∧
    (program.parameters.length ≤ 1000 → ∃ text,
      program.IsListedIn text ∧ program.IsListedIn (text ++ "\n") ∧
      compile source none .text = .ofOutput (text ++ "\n") ∧
      ∀ path, compile source (some path) .text = .ofDocument path text.toUTF8.data.toList) ∧
    (∀ path, compile source (some path) .binary = .ofDocument path program.toModule.encode) ∧
    program.body.operations.flatMap Wasm.Operation.encode ++ [0x0B] <:+ program.toModule.encode ∧
    (program.toModule.encode.length < 2 ^ 32 → ∀ strict, ∃ decoded,
      Wasm.Module.decode strict program.toModule.encode = some decoded ∧
      decoded.bodies = [⟨[⟨1, .i64⟩], program.body.operations⟩]) := by
  have characters (label : String) (member : label ∈ program.labels) :=
    Program.isLabelCharacter_of_build built member
  have lacks (label : String) (member : label ∈ program.labels) : Text.Lacks '\n' label :=
    lacks_of_isLabelCharacter (characters label member)
  have split := Program.split_listingText lacks
  simp only [compile_of_build built]
  refine ⟨Program.labels_of_build built,
    fun label member => ⟨lacks label member, characters label member⟩,
    fun index label found => Program.step_trace found, Program.failure_outcome_text_eq_none_iff,
    fun few => ⟨program.listingText, ?_, ?_,
      Program.outcome_text (Program.text_toModule few) none,
      fun path => Program.outcome_text (Program.text_toModule few) (some path)⟩,
    fun path => rfl, program.operations_isSuffix, fun small strict => ?_⟩
  · exact Program.isListedIn_of_split (split.trans (List.append_nil _).symm)
  · have broken : Text.split '\n' (program.listingText ++ "\n") = program.listingLines ++ [""] := by
      rw [← split]
      exact Text.split_append_singleton _
    exact Program.isListedIn_of_split broken
  · exact ⟨program.toModule, Program.decode_encode_toModule small strict, rfl⟩

/-- The labels show each node without the spaces of the source, and a sign is a product. -/
theorem compile_text_reads_back_of_quotient :
    let program := Program.mk ["x", "ä"]
      [.load 0, .load 1, .load 0, .combine .plus, .trace 0, .negate, .trace 1, .combine .divide,
        .trace 2]
      ["(ä+X)", "-(ä+X)", "x/-(ä+X)"]
    Program.build "x / -(ä + X)" = .ok program ∧ program.parameters.length ≤ 1000 ∧
      ∃ text rest, compile "x / -(ä + X)" none .text = .ofOutput (text ++ "\n") ∧
        Text.split '\n' text = [";; label 0: (ä+X)", ";; label 1: -(ä+X)",
          ";; label 2: x/-(ä+X)"] ++ "(module" :: rest ∧
        Program.readLabels 0 (Text.split '\n' text) = ["(ä+X)", "-(ä+X)", "x/-(ä+X)"] ∧
        Wasm.readOperations text = some
          [.localGet 0, .localGet 1, .localGet 0, .calculate .plus,
            .localSet 2, .const32 0, .localGet 2, .call 0, .localGet 2,
            .const64 (-1), .calculate .times,
            .localSet 2, .const32 1, .localGet 2, .call 0, .localGet 2, .calculate .divide,
            .localSet 2, .const32 2, .localGet 2, .call 0, .localGet 2] := by
  intro program
  have built : Program.build "x / -(ä + X)" = .ok program := by cbv
  have few : program.parameters.length ≤ 1000 := by decide
  obtain ⟨_, _, _, _, written, _⟩ := compile_text_reads_back built
  obtain ⟨text, ⟨⟨rest, lines⟩, labels, operations⟩, _, printed, _⟩ := written few
  have headings : program.labels.zipIdx.map Program.labelHeading =
      [";; label 0: (ä+X)", ";; label 1: -(ä+X)", ";; label 2: x/-(ä+X)"] := by decide
  rw [headings] at lines
  exact ⟨built, few, text, rest, printed, lines, labels, operations⟩

end TraceCalc
