/-
This file shows that a request to compile leaves either its whole output behind or nothing.
-/

import TraceCalc.Effect
import TraceCalc.Proofs.Expr.Rejection
import TraceCalc.Proofs.Program.Lowering

namespace TraceCalc

open CommandLine

/-- The files after a request; only a document changes them, when it is saved. -/
def Outcome.filesAfter {Files : Type} (save : Document → Files → Files) (files : Files)
    (outcome : Outcome) : Files :=
  match outcome.document with
  | none => files
  | some document => save document files

/-- An obstacle is an error of one step after the steps before it have succeeded. -/
inductive IsObstacle (source : String) (output : Option String) : OutputFormat → Error → Prop
  | lexing {format : OutputFormat} {error : Error}
      (failure : Token.ofSource source = .error error) : IsObstacle source output format error
  | parsing {format : OutputFormat} {tokens : List Token} {error : Error}
      (scanned : Token.ofSource source = .ok tokens) (failure : Expr.parse source = .error error) :
      IsObstacle source output format error
  | lowering {format : OutputFormat} {expr : Expr} {error : Error}
      (read : Expr.parse source = .ok expr)
      (failure : Program.ofExpr expr expr.parameters = .error error) :
      IsObstacle source output format error
  | writing {program : Program} {error : Error} (built : Program.build source = .ok program)
      (failure : program.toModule.text = .error error) : IsObstacle source output .text error
  | sending {program : Program} (built : Program.build source = .ok program)
      (missing : output = none) : IsObstacle source output .binary .outputNeedsFile

namespace Program

/-- The label lines stand before the text of the module, and no line feed stands behind it. -/
structure IsWrittenAs (program : Program) (text : String) : Prop where
  parts : ∃ module, program.toModule.text = .ok module ∧
    text = String.join (program.labels.zipIdx.map fun entry =>
      ";; label " ++ entry.2.repr ++ ": " ++ entry.1 ++ "\n") ++ module
  ending : text.toList.getLast? = some ')'

/-- The content of the document in either format. -/
inductive IsSavedAs (program : Program) : OutputFormat → List UInt8 → Prop
  | binary : IsSavedAs program .binary program.toModule.encode
  | text {text : String} (written : program.IsWrittenAs text) :
      IsSavedAs program .text text.toUTF8.data.toList

end Program

/-- A parenthesis closes the module, and nothing stands behind it. -/
theorem Wasm.Module.exists_eq_append_of_text {source : Module} {text : String}
    (success : source.text = .ok text) : ∃ initial, text = initial ++ ")" := by
  rw [Module.text] at success
  split at success
  next => simp at success
  next =>
      obtain ⟨initial, filled, split⟩ : ∃ initial, initial ≠ [] ∧ source.lines = initial ++ [")"] :=
        ⟨_, by simp, rfl⟩
      refine ⟨"\n".intercalate initial ++ "\n", ?_⟩
      rw [← Except.ok.inj success, split,
        String.intercalate_append_of_ne_nil filled (List.cons_ne_nil _ _),
        String.intercalate_singleton]

theorem Program.isWrittenAs_of_text {program : Program} {module : String}
    (success : program.toModule.text = .ok module) :
    program.IsWrittenAs (String.join (program.labels.zipIdx.map labelLine) ++ module) := by
  obtain ⟨initial, rfl⟩ := Wasm.Module.exists_eq_append_of_text success
  refine ⟨⟨_, success, rfl⟩, ?_⟩
  rw [← String.append_assoc, String.toList_append]
  exact List.getLast?_concat

namespace Program

variable {program : Program}

theorem outcome_text {module : String} (success : program.toModule.text = .ok module)
    (output : Option String) :
    program.outcome output .text =
      let text := String.join (program.labels.zipIdx.map labelLine) ++ module
      match output with
      | some path => .ofDocument path text.toUTF8.data.toList
      | none => .ofOutput (text ++ "\n") := by
  have listed : program.listing =
      .ok (String.join (program.labels.zipIdx.map labelLine) ++ module) := by
    rw [listing, success]
    rfl
  cases output <;> simp only [outcome, listed]

theorem outcome_text_of_error {error : Error} (failure : program.toModule.text = .error error)
    (output : Option String) : program.outcome output .text = .ofFailure error := by
  have failed : program.listing = .error error := by
    rw [listing, failure]
    rfl
  simp only [outcome, failed]

end Program

section Steps

variable {source : String} {output : Option String} {format : OutputFormat} {error : Error}

theorem compile_of_build {program : Program} (built : Program.build source = .ok program)
    (output : Option String) (format : OutputFormat) :
    compile source output format = program.outcome output format := by
  rw [compile, built]

theorem compile_of_build_eq_error (failure : Program.build source = .error error) :
    compile source output format = .ofFailure error := by
  rw [compile, failure]

theorem compile_of_isObstacle (obstacle : IsObstacle source output format error) :
    compile source output format = .ofFailure error := by
  cases obstacle with
  | lexing failure =>
      apply compile_of_build_eq_error
      rw [Program.build, (Expr.parse_of_ofSource_eq_error failure).1]
      rfl
  | parsing scanned failure =>
      apply compile_of_build_eq_error
      rw [Program.build, failure]
      rfl
  | lowering read failure =>
      apply compile_of_build_eq_error
      rw [Program.build, read]
      exact failure
  | writing built failure =>
      rw [compile_of_build built, Program.outcome_text_of_error failure]
  | sending built missing =>
      rw [compile_of_build built, missing]
      rfl

/-- A source that does not build has an obstacle before the output. -/
theorem isObstacle_of_build_eq_error (failure : Program.build source = .error error) :
    IsObstacle source output format error := by
  cases scanned : Token.ofSource source with
  | error fault =>
      rw [Program.build, (Expr.parse_of_ofSource_eq_error scanned).1] at failure
      exact Except.error.inj failure ▸ .lexing scanned
  | ok tokens =>
      cases read : Expr.parse source with
      | error fault =>
          rw [Program.build, read] at failure
          exact Except.error.inj failure ▸ .parsing scanned read
      | ok expr =>
          rw [Program.build, read] at failure
          exact .lowering read failure

/-- Without an obstacle, exactly one of the file and the standard output gets the result. -/
theorem exists_isObstacle_or_result (source : String) (output : Option String)
    (format : OutputFormat) :
    (∃ error, IsObstacle source output format error) ∨
    ∃ program, Program.build source = .ok program ∧
      ((∃ path content, output = some path ∧ program.IsSavedAs format content ∧
        compile source output format = .ofDocument path content) ∨
      ∃ text, output = none ∧ format = .text ∧ program.IsWrittenAs text ∧
        compile source output format = .ofOutput (text ++ "\n")) := by
  cases built : Program.build source with
  | error error => exact .inl ⟨error, isObstacle_of_build_eq_error built⟩
  | ok program =>
      cases format with
      | binary =>
          cases output with
          | none => exact .inl ⟨_, .sending built rfl⟩
          | some path =>
              exact .inr ⟨program, rfl, .inl ⟨path, _, rfl, .binary, compile_of_build built _ _⟩⟩
      | text =>
          cases success : program.toModule.text with
          | error error => exact .inl ⟨error, .writing built success⟩
          | ok module =>
              have written := Program.isWrittenAs_of_text success
              have same := (compile_of_build built output .text).trans
                (Program.outcome_text success output)
              refine .inr ⟨program, rfl, ?_⟩
              cases output with
              | none => exact .inr ⟨_, rfl, rfl, written, same⟩
              | some path => exact .inl ⟨path, _, rfl, .text written, same⟩

end Steps

/--
A request to compile fails exactly at the first obstacle, and then it only reports the error: there
is no output, and no file is touched. A source that does not build comes before a missing path.
Without an obstacle the whole result goes to one place: to the file, if one is named, and otherwise
to the standard output, with a line feed behind it.
-/
theorem compile_isAllOrNothing {Files : Type} (save : Document → Files → Files) (files : Files)
    (source : String) (output : Option String) (format : OutputFormat) :
    let outcome := compile source output format
    (∀ error, outcome.failure = some error ↔ IsObstacle source output format error) ∧
    (∀ error, IsObstacle source output format error →
      outcome.effect = ⟨1, "", "Error: " ++ error.message ++ "\n", []⟩ ∧
      outcome.filesAfter save files = files) ∧
    ((∀ error, ¬ IsObstacle source output format error) →
      ∃ program, Program.build source = .ok program ∧
        ((∃ path content, output = some path ∧ program.IsSavedAs format content ∧
          outcome.output = "" ∧ outcome.report = "" ∧ outcome.exitCode = 0 ∧
          outcome.filesAfter save files = save ⟨path, content⟩ files ∧
          ∀ name, Destination.ofPath path = .ok (.entry name) →
            outcome.effect = ⟨0, "", "", [(name, content)]⟩) ∨
        ∃ text, output = none ∧ format = .text ∧ program.IsWrittenAs text ∧
          outcome.effect = ⟨0, text ++ "\n", "", []⟩ ∧
          outcome.filesAfter save files = files)) := by
  intro outcome
  have stopped (error : Error) (obstacle : IsObstacle source output format error) :
      outcome = .ofFailure error := compile_of_isObstacle obstacle
  have finished := exists_isObstacle_or_result source output format
  refine ⟨fun error => ⟨fun failure => ?_, fun obstacle => ?_⟩, fun error obstacle => ?_,
    fun free => ?_⟩
  · rcases finished with ⟨other, obstacle⟩ | ⟨program, _, ⟨_, _, _, _, same⟩ | ⟨_, _, _, _, same⟩⟩
    · rw [stopped other obstacle] at failure
      exact Option.some.inj failure ▸ obstacle
    · rw [show outcome = _ from same] at failure
      simp [Outcome.ofDocument] at failure
    · rw [show outcome = _ from same] at failure
      simp [Outcome.ofOutput] at failure
  · rw [stopped error obstacle]
    rfl
  · rw [stopped error obstacle]
    exact ⟨rfl, rfl⟩
  · obtain ⟨program, built, result⟩ :=
      finished.resolve_left fun ⟨error, obstacle⟩ => free error obstacle
    refine ⟨program, built, ?_⟩
    rcases result with ⟨path, content, named, saved, same⟩ | ⟨text, absent, textual, written, same⟩
    · rw [show outcome = _ from same]
      refine .inl ⟨path, content, named, saved, rfl, rfl, rfl, rfl, fun name found => ?_⟩
      simp only [Outcome.effect, Outcome.ofDocument, found]
      rfl
    · rw [show outcome = _ from same]
      exact .inr ⟨text, absent, textual, written, rfl, rfl⟩

set_option maxRecDepth 8000 in
/-- A misplaced token counts before the missing path, and one place gets all of the listing. -/
theorem compile_isAllOrNothing_of_half :
    let lines := ["(module",
      "  (type (;0;) (func (param i32 i64)))",
      "  (type (;1;) (func (param i64) (result i64)))",
      "  (import \"env\" \"trace\" (func (;0;) (type 0)))",
      "  (func (;1;) (type 1) (param i64) (result i64)",
      "    (local i64)",
      "    local.get 0",
      "    i64.const 2",
      "    i64.div_s",
      "    local.set 1",
      "    i32.const 0",
      "    local.get 1",
      "    call 0",
      "    local.get 1",
      "  )",
      "  (export \"evaluate\" (func 1))",
      ")"]
    let listing := ";; label 0: x/2\n" ++ "\n".intercalate lines
    (compile "x/" none .binary).effect =
      ⟨1, "", "Error: parse error: Unexpected token End at position 2 in 'x/'\n", []⟩ ∧
    (compile "x/2" none .binary).effect =
      ⟨1, "", "Error: i/o error: Binary output needs a file, pass --output\n", []⟩ ∧
    (compile "x/2" none .text).effect = ⟨0, listing ++ "\n", "", []⟩ ∧
    (compile "x/2" (some "./half.wat") .text).effect =
      ⟨0, "", "", [("half.wat", listing.toUTF8.data.toList)]⟩ := by
  intro lines listing
  have scanned : Token.ofSource "x/" =
      .ok [⟨.identifier "x", 0⟩, ⟨.symbol .divide, 1⟩, Token.finish 2] := by cbv
  have misplaced : Expr.parse "x/" = .error (.misplacedToken (.operand (Token.finish 2)) "x/") := by
    cbv
  let half := Program.mk ["x"] [.load 0, .const 2, .combine .divide, .trace 0] ["x/2"]
  have built : Program.build "x/2" = .ok half := by cbv
  have free (output : Option String) (error : Error) :
      ¬ IsObstacle "x/2" output .text error := by
    intro obstacle
    have failure : (compile "x/2" output .text).failure = none := by
      rw [compile_of_build built]
      cases output <;> rfl
    rw [compile_of_isObstacle obstacle] at failure
    simp [Outcome.ofFailure] at failure
  have unique {program : Program} {text : String} (same : Program.build "x/2" = .ok program)
      (written : program.IsWrittenAs text) : text = listing := by
    have shown : half.toModule.lines = lines := by decide +kernel
    have printed : half.toModule.text = .ok ("\n".intercalate lines) :=
      congrArg (fun lines => Except.ok ("\n".intercalate lines)) shown
    rw [← Except.ok.inj (built.symm.trans same)] at written
    obtain ⟨module, success, rfl⟩ := written.parts
    rw [← Except.ok.inj (printed.symm.trans success)]
    rfl
  have found : Destination.ofPath "./half.wat" = .ok (.entry "half.wat") := rfl
  obtain ⟨_, first, _⟩ := compile_isAllOrNothing List.cons [] "x/" none .binary
  obtain ⟨_, second, _⟩ := compile_isAllOrNothing List.cons [] "x/2" none .binary
  obtain ⟨_, _, third⟩ := compile_isAllOrNothing List.cons [] "x/2" none .text
  obtain ⟨_, _, fourth⟩ := compile_isAllOrNothing List.cons [] "x/2" (some "./half.wat") .text
  refine ⟨(first _ (.parsing scanned misplaced)).1, (second _ (.sending built rfl)).1, ?_, ?_⟩
  · obtain ⟨program, same, ⟨_, _, named, _⟩ | ⟨text, _, _, written, effect, _⟩⟩ := third (free none)
    · simp at named
    · rw [effect, unique same written]
  · obtain ⟨program, same, ⟨path, content, named, saved, _, _, _, _, effect⟩ | ⟨_, absent, _⟩⟩ :=
      fourth (free _)
    · rw [← Option.some.inj named] at effect
      cases saved with
      | text written => rw [effect _ found, unique same written]
    · simp at absent

end TraceCalc
