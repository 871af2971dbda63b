/-
This file gives the outcome of each request of the command line.
-/

import TraceCalc.CommandLine
import TraceCalc.Session
import TraceCalc.Text.Lines
import TraceCalc.Wasm.Listing

namespace TraceCalc

/-- A document is a file that a request wants to write. -/
structure Document where
  path : String
  content : List UInt8
  deriving DecidableEq, Repr

/-- The output comes before the document is written and before the failure is reported. -/
structure Outcome where
  output : String
  document : Option Document
  failure : Option Error
  deriving DecidableEq, Repr

namespace Outcome

/-- The request only prints. -/
def ofOutput (output : String) : Outcome := ⟨output, none, none⟩

/-- The request only writes a document. -/
def ofDocument (path : String) (content : List UInt8) : Outcome :=
  ⟨"", some ⟨path, content⟩, none⟩

/-- The request prints nothing and writes nothing. -/
def ofFailure (error : Error) : Outcome := ⟨"", none, some error⟩

/-- The text was printed before the outcome. -/
def after (output : String) (outcome : Outcome) : Outcome :=
  { outcome with output := output ++ outcome.output }

/-- Only a failure is reported on the error stream. -/
def report (outcome : Outcome) : String :=
  match outcome.failure with
  | some error => "Error: " ++ error.message ++ "\n"
  | none => ""

/-- A failure is shown in the exit code. -/
def exitCode (outcome : Outcome) : Nat := if outcome.failure.isSome then 1 else 0

end Outcome

/-- Each record stands on a line of its own. -/
def recordLines (records : List Record) : String :=
  String.join (records.map fun record => record.text ++ "\n")

/-- The result is printed when the run succeeds, and the records are printed in any case. -/
def Run.outcome (run : Run) : Outcome :=
  (match run.result with
    | .ok value => Outcome.ofOutput ("result = " ++ Text.Decimal.write value ++ "\n")
    | .error error => Outcome.ofFailure error).after (recordLines run.records)

/-- The source is built before the variables are looked up. -/
def evaluate (source : String) (bindings : List (String × Int64)) : Outcome :=
  match Program.build source with
  | .ok program => ((Environment.empty.insertMany bindings).run program).outcome
  | .error error => Outcome.ofFailure error

/-- The binary format never goes to the standard output. -/
def Program.outcome (program : Program) (output : Option String) :
    CommandLine.OutputFormat → Outcome
  | .binary =>
      match output with
      | some path => Outcome.ofDocument path program.toModule.encode
      | none => Outcome.ofFailure .outputNeedsFile
  | .text =>
      match program.listing, output with
      | .ok text, some path => Outcome.ofDocument path text.toUTF8.data.toList
      | .ok text, none => Outcome.ofOutput (text ++ "\n")
      | .error error, _ => Outcome.ofFailure error

/-- A source that does not build leaves neither output nor document. -/
def compile (source : String) (output : Option String) (format : CommandLine.OutputFormat) :
    Outcome :=
  match Program.build source with
  | .ok program => program.outcome output format
  | .error error => Outcome.ofFailure error

/-- The prompt asks for the next line. -/
def prompt : String := "> "

/-- The records of a command are printed before its message. -/
def Answer.output (answer : Answer) : String :=
  recordLines answer.records ++
    match answer.reply.message? with
    | some message => message ++ "\n"
    | none => ""

/-- One turn answers one line; no session follows the exit command or a line that is no text. -/
def Session.turn (session : Session) (line : List UInt8) : Outcome × Option Session :=
  match Text.decodeLine line with
  | none => (Outcome.ofFailure .invalidEncoding, none)
  | some text =>
      let (next, answer) := session.handle text
      (Outcome.ofOutput answer.output, if answer.reply = .exit then none else some next)

/-- The prompt is printed before every line and at the end of the input. -/
def Session.interact (session : Session) : List (List UInt8) → Outcome
  | [] => Outcome.ofOutput prompt
  | line :: rest =>
      match session.turn line with
      | (outcome, none) => outcome.after prompt
      | (outcome, some next) => (next.interact rest).after (prompt ++ outcome.output)

/-- Only the interactive loop reads the standard input. -/
def CommandLine.Request.outcome (input : List UInt8) : Request → Outcome
  | .evaluate source bindings => TraceCalc.evaluate source bindings
  | .compile source output format => TraceCalc.compile source output format
  | .interact => Session.empty.interact (Text.lines input)

end TraceCalc
