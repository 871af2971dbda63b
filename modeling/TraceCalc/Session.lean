/-
This file lets a user set variables and run one expression after another.
-/

import TraceCalc.Environment
import TraceCalc.Program.Lowering
import TraceCalc.Session.Command

namespace TraceCalc

/-- A reply states what became of a command. -/
inductive Reply where
  | silent
  | accepted
  | assigned (name : String) (value : Int64)
  | expressionUsage
  | assignmentUsage
  | invalidInteger
  | noExpression
  | failed (error : Error)
  | unknownCommand
  | exit
  deriving DecidableEq, Repr

/-- A blank line, a finished run and the end of the session need no message. -/
def Reply.message? : Reply → Option String
  | .silent => none
  | .accepted => some "Expression accepted."
  | .assigned name value =>
      some ("Variable " ++ name ++ " set to " ++ Text.Decimal.write value ++ ".")
  | .expressionUsage => some "Usage: expr <expression>"
  | .assignmentUsage => some "Usage: set <name> <value>"
  | .invalidInteger => some "Invalid integer value."
  | .noExpression => some "No expression set. Use expr <expression> first."
  | .failed error => some ("Error: " ++ error.message)
  | .unknownCommand => some "Unknown command. Use expr, set, do, or exit."
  | .exit => none

/-- A session keeps the variables and the expression that was accepted last. -/
structure Session where
  environment : Environment
  program : Option Program
  deriving DecidableEq, Repr

/-- An answer holds the records of one command and its reply. -/
structure Answer where
  records : List Record
  reply : Reply
  deriving DecidableEq, Repr

namespace Session

/-- A session starts without variables and without an expression. -/
def empty : Session := ⟨Environment.empty, none⟩

/-- A source that does not build leaves the session without an expression. -/
def define (session : Session) (source : String) : Session × Answer :=
  match Program.build source with
  | .ok program => ({ session with program := some program }, ⟨[], .accepted⟩)
  | .error error => ({ session with program := none }, ⟨[], .failed error⟩)

/-- An assignment leaves the expression as it is. -/
def assign (session : Session) (name : String) (value : Int64) : Session × Answer :=
  ({ session with environment := session.environment.insert name value },
    ⟨[], .assigned name value⟩)

/-- The result of a run that succeeds is not shown. -/
def execute (session : Session) : Answer :=
  match session.program with
  | none => ⟨[], .noExpression⟩
  | some program =>
      let run := session.environment.run program
      match run.result with
      | .ok _ => ⟨run.records, .silent⟩
      | .error error => ⟨run.records, .failed error⟩

/-- Commands that were not understood leave the session as it is. -/
def obey (session : Session) : Command → Session × Answer
  | .blank => (session, ⟨[], .silent⟩)
  | .expression source => session.define source
  | .expressionUsage => (session, ⟨[], .expressionUsage⟩)
  | .assignment name value => session.assign name value
  | .assignmentUsage => (session, ⟨[], .assignmentUsage⟩)
  | .invalidInteger => (session, ⟨[], .invalidInteger⟩)
  | .execute => (session, session.execute)
  | .exit => (session, ⟨[], .exit⟩)
  | .unknown => (session, ⟨[], .unknownCommand⟩)

/-- A line is one command. -/
def handle (session : Session) (line : String) : Session × Answer :=
  session.obey (Command.ofLine line)

end Session

end TraceCalc
