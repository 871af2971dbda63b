/-
This file lists the labels of a program before the text of its module.
-/

import TraceCalc.Wasm.Text
import TraceCalc.Wasm.Emission

namespace TraceCalc.Program

/-- A label is shown in a comment line with its number. -/
def labelLine (entry : String × Nat) : String :=
  ";; label " ++ entry.2.repr ++ ": " ++ entry.1 ++ "\n"

/-- The text of the module ends without a line feed. -/
def listing (program : Program) : Except Error String :=
  program.toModule.text.map fun text =>
    String.join (program.labels.zipIdx.map labelLine) ++ text

end TraceCalc.Program
