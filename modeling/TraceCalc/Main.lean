/-
This file runs command lines with the standard streams and the file system.
-/

import TraceCalc.Outcome

namespace TraceCalc.Main

/-- The error of the file system is reported by its cause. -/
def errorOf : IO.Error → Error
  | .noFileOrDirectory .. => .fileNotFound
  | .inappropriateType _ 20 _ => .notDirectory
  | .inappropriateType .. => .isDirectory
  | .resourceExhausted _ 28 _ => .noSpace
  | .invalidArgument _ 36 _ => .nameTooLong
  | other => .system (toString other)

/-- The line ends at a line feed or at the end of the input; no byte at all is no line. -/
partial def readLine (input : IO.FS.Stream) (bytes : List UInt8) : IO (Option (List UInt8)) := do
  let next ← input.read 1
  match next.data.toList with
  | [] => return if bytes.isEmpty then none else some bytes.reverse
  | byte :: _ =>
      if byte = Text.lineFeed then return some (Text.dropCarriageReturn bytes.reverse)
      else readLine input (byte :: bytes)

/-- The document is written after the output, and the failure is reported last. -/
def finish (outcome : Outcome) : IO UInt32 := do
  IO.print outcome.output
  (← IO.getStdout).flush
  let settled ← match outcome.document with
    | none => pure outcome
    | some document =>
        try
          let handle ← IO.FS.Handle.mk document.path .write
          handle.write (ByteArray.mk document.content.toArray)
          handle.flush
          pure outcome
        catch error => pure { outcome with failure := some (errorOf error) }
  IO.eprint settled.report
  return UInt32.ofNat settled.exitCode

/-- The session goes on until a turn ends it or the input ends. -/
partial def interact (input : IO.FS.Stream) (session : Session) : IO UInt32 := do
  IO.print prompt
  (← IO.getStdout).flush
  match ← readLine input [] with
  | none => return 0
  | some line =>
      match session.turn line with
      | (outcome, none) => finish outcome
      | (outcome, some next) =>
          IO.print outcome.output
          interact input next

/-- Without a command, the program is interactive. -/
def run (words : List String) : IO UInt32 := do
  match CommandLine.read words with
  | .error refusal =>
      if refusal.exitCode = 0 then IO.print refusal.message else IO.eprintln refusal.message
      return UInt32.ofNat refusal.exitCode
  | .ok request =>
      match request.getD .interact with
      | .interact => interact (← IO.getStdin) Session.empty
      | other => finish (other.outcome [])

end TraceCalc.Main

/-- The exit code is the result of the program. -/
def main (words : List String) : IO UInt32 := TraceCalc.Main.run words
