/-
This file keeps a journal of the steps from a source to its value.
-/

import TraceCalc.Program.Execution
import TraceCalc.Program.Lowering
import TraceCalc.Text.Quoted
import TraceCalc.Wasm.Binary
import TraceCalc.Wasm.Emission

namespace TraceCalc

/-- An event is one step that succeeded. -/
inductive Event where
  | scanned (source : String) (tokenCount : Nat)
  | parsed (source : String) (expr : Expr)
  | lowered (instruction : Instruction)
  | compiled (expr : Expr) (program : Program)
  | encoded (byteCount : Nat)
  | traced (record : Record)
  deriving DecidableEq, Repr

/-- A level tells how much detail an event has. -/
inductive Level where
  | info
  | debug
  | trace
  deriving DecidableEq, Repr

namespace Event

/-- Single instructions are the finest detail, and records are the coarsest. -/
def level : Event → Level
  | .scanned .. | .parsed .. | .compiled .. | .encoded _ => .debug
  | .lowered _ => .trace
  | .traced _ => .info

/-- The message quotes sources and names where they could be misread. -/
def message : Event → String
  | .scanned source tokenCount =>
      "lexed " ++ tokenCount.repr ++ " tokens from " ++ Text.Quoted.quote source
  | .parsed source expr => "parsed `" ++ source ++ "` as `" ++ expr.text ++ "`"
  | .lowered instruction => instruction.text
  | .compiled expr program =>
      "compiled `" ++ expr.text ++ "` into " ++ program.instructions.length.repr ++
        " instructions over " ++ Text.Quoted.quoteList program.parameters
  | .encoded byteCount => "emitted " ++ byteCount.repr ++ " bytes of wasm"
  | .traced record => record.text

end Event

/-- A journal lists the events in their order, up to the result. -/
structure Journal where
  events : List Event
  result : Except Error Int64

namespace Journal

/-- A step that fails leaves no event. -/
def fail (error : Error) : Journal := ⟨[], .error error⟩

/-- The events came before the journal. -/
def after (events : List Event) (journal : Journal) : Journal :=
  ⟨events ++ journal.events, journal.result⟩

/-- A module is encoded before the program runs. -/
def ofProgram (program : Program) (arguments : List Int64) : Journal :=
  let run := program.run arguments
  ⟨.encoded program.toModule.encode.length :: run.records.map .traced, run.result⟩

/-- Every instruction is noted before the program as a whole. -/
def ofExpr (expr : Expr) (arguments : List Int64) : Journal :=
  match Program.ofExpr expr expr.parameters with
  | .error error => fail error
  | .ok program =>
      (ofProgram program arguments).after
        (program.instructions.map .lowered ++ [.compiled expr program])

/-- The steps after the first error leave no events. -/
def ofSource (source : String) (arguments : List Int64) : Journal :=
  match Reader.ofSource source with
  | .error error => fail error
  | .ok reader =>
      let scanned := Event.scanned source reader.remaining.length
      match reader.whole.1 with
      | .error error => (fail error).after [scanned]
      | .ok expr => (ofExpr expr arguments).after [scanned, .parsed source expr]

end Journal

end TraceCalc
