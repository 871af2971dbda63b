/-
This file tells what a finished request leaves behind.
-/

import TraceCalc.Directory
import TraceCalc.Outcome

namespace TraceCalc

/-- The files are the entries that the working directory has at the end. -/
structure Effect where
  exitCode : Nat
  output : String
  report : String
  files : List (String × List UInt8)
  deriving DecidableEq, Repr

/-- The bytes are shown as text, and bytes that are no text show nothing. -/
def shown (content : List UInt8) : String :=
  (String.fromUTF8? (ByteArray.mk content.toArray)).getD ""

/-- The destination of a document decides where its content can be seen. -/
def Effect.receive (effect : Effect) (content : List UInt8) : Destination → Effect
  | .entry name => { effect with files := effect.files ++ [(name, content)] }
  | .standardOutput => { effect with output := effect.output ++ shown content }
  | .standardError => { effect with report := effect.report ++ shown content }
  | .elsewhere => effect

namespace Outcome

/-- An outcome without a document leaves no files. -/
def bareEffect (outcome : Outcome) : Effect :=
  ⟨outcome.exitCode, outcome.output, outcome.report, []⟩

/-- A document without a destination makes the request fail. -/
def effect (outcome : Outcome) : Effect :=
  match outcome.document with
  | none => outcome.bareEffect
  | some document =>
      match Destination.ofPath document.path with
      | .ok destination => outcome.bareEffect.receive document.content destination
      | .error error => { outcome with failure := some error }.bareEffect

end Outcome

end TraceCalc
