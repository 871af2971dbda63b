import TraceCalc.Effect
import TraceCalc.Journal
import TraceCalc.Main
import TraceCalc.Unicode.Disjoint
import TraceCalc.Proofs.Arithmetic.Exact
import TraceCalc.Proofs.Expr.Evaluation
import TraceCalc.Proofs.Program.Evaluation
import TraceCalc.Proofs.Program.Lowering
import TraceCalc.Proofs.Program.Visits
import TraceCalc.Proofs.Expr.Grammar
import TraceCalc.Proofs.Expr.Reading
import TraceCalc.Proofs.Expr.Recognition
import TraceCalc.Proofs.Text.Decimal
import TraceCalc.Proofs.Token.Writing
import TraceCalc.Proofs.Expr.RoundTrip
import TraceCalc.Proofs.Program.Height
import TraceCalc.Proofs.Wasm.Validation
import TraceCalc.Proofs.Wasm.Execution
import TraceCalc.Proofs.Wasm.Simulation
import TraceCalc.Proofs.Token.Longest
import TraceCalc.Proofs.Token.Tokenization
import TraceCalc.Proofs.Token.Stream
import TraceCalc.Proofs.Expr.Progress
import TraceCalc.Proofs.Expr.Rejection
import TraceCalc.Proofs.Expr.Canonical
import TraceCalc.Proofs.Expr.Parameters
import TraceCalc.Proofs.Program.Counting
import TraceCalc.Proofs.Program.Safety
import TraceCalc.Proofs.Environment
import TraceCalc.Proofs.Expr.Explanation
import TraceCalc.Proofs.Program.Explanation
import TraceCalc.Proofs.Session.History
import TraceCalc.Proofs.Text.Words
import TraceCalc.Proofs.Session.Agreement
import TraceCalc.Proofs.Wasm.Leb128
import TraceCalc.Proofs.Wasm.Decoder
import TraceCalc.Proofs.Wasm.RoundTrip
import TraceCalc.Proofs.Wasm.ShortestForm
import TraceCalc.Proofs.Wasm.Emission
import TraceCalc.Proofs.Wasm.Laws
import TraceCalc.Proofs.Expr.ExactValue
import TraceCalc.Proofs.Session.Dispatch
import TraceCalc.Proofs.Unicode.LetterCase
import TraceCalc.Proofs.Name.LetterCase
import TraceCalc.Proofs.Token.Spacing
import TraceCalc.Proofs.Expr.Spacing
import TraceCalc.Proofs.Expr.Shortest
import TraceCalc.Proofs.Expr.Correspondence
import TraceCalc.Proofs.Name.Repetition
import TraceCalc.Proofs.Program.Decoding
import TraceCalc.Proofs.Program.Renaming
import TraceCalc.Proofs.Program.Underflow
import TraceCalc.Proofs.Expr.Fault
import TraceCalc.Proofs.Outcome
import TraceCalc.Proofs.Expr.NegativeLiteral
import TraceCalc.Proofs.Token.Blanking
import TraceCalc.Proofs.Expr.Calls
import TraceCalc.Proofs.Program.Defect
import TraceCalc.Proofs.Text.Splitting
import TraceCalc.Proofs.Wasm.TextReader
import TraceCalc.Proofs.Wasm.Listing
import TraceCalc.Proofs.Compilation
import TraceCalc.Proofs.Text.Lines
import TraceCalc.Proofs.Session.Interaction
import TraceCalc.Proofs.Program.Peak
import TraceCalc.Proofs.Name.FirstOccurrence
import TraceCalc.Proofs.Expr.Occurrences
import TraceCalc.Proofs.Expr.Printing
