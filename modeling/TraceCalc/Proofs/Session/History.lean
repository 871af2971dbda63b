/-
This file shows that the lines of a session determine its expression and its variables.
-/

import Mathlib
import TraceCalc.Proofs.Environment
import TraceCalc.Session

namespace TraceCalc

namespace Command

/-- The text starts with the keyword in any case of ASCII letters. -/
def startsWith (keyword text : List Char) : Bool :=
  (text.take keyword.length).map Char.toLower == keyword

theorem afterKeyword?_eq (keyword text : List Char) :
    afterKeyword? keyword text =
      if startsWith keyword text then some (text.drop keyword.length) else none := by
  induction keyword generalizing text with
  | nil => rfl
  | cons expected keyword inductionHypothesis =>
      cases text with
      | nil => rfl
      | cons character text =>
          rw [afterKeyword?, inductionHypothesis]
          by_cases same : character.toLower = expected
          · simp [startsWith, same]
          · simp [startsWith, same]

/-- Keywords with different first letters exclude each other. -/
theorem startsWith_eq_false_of_ne {first second : Char} {keyword other text : List Char}
    (found : startsWith (first :: keyword) text = true) (different : first ≠ second) :
    startsWith (second :: other) text = false := by
  cases text with
  | nil => rfl
  | cons character text =>
      simp only [startsWith, List.length_cons, List.take_succ_cons, List.map_cons,
        beq_iff_eq, List.cons.injEq] at found
      simp [startsWith, found.1, different]

/-- The operand of a line follows the keyword, where the line starts with it. -/
def operand? (keyword : List Char) (line : String) : Option (List Char) :=
  if startsWith keyword (content line.toList) then some ((content line.toList).drop keyword.length)
  else none

/-- The source of an expression begins behind the white space. -/
def sourceOf? (operand : List Char) : Option String :=
  if (Text.trimStart operand).isEmpty then none
  else some (String.ofList (Text.trimStart operand))

/-- A binding consists of a name and an integer. -/
def bindingOf? (operands : List Char) : Option (String × Int64) :=
  match Text.words operands with
  | [name, value] => (Text.Decimal.read value).toOption.map (String.ofList name, ·)
  | _ => none

/-- A line with this keyword and a source defines the expression. -/
def source? (line : String) : Option String :=
  (operand? ['e', 'x', 'p', 'r'] line).bind sourceOf?

/-- A line with this keyword and a binding assigns a value to a variable. -/
def binding? (line : String) : Option (String × Int64) :=
  (operand? ['s', 'e', 't', ' '] line).bind bindingOf?

/-- A line with nothing but this keyword runs the expression. -/
def isExecution (line : String) : Bool :=
  (content line.toList).map Char.toLower == ['d', 'o']

section Dispatch

variable {line : String}

theorem operand?_eq (keyword : List Char) (line : String) :
    operand? keyword line = afterKeyword? keyword (content line.toList) :=
  (afterKeyword?_eq keyword _).symm

theorem content_ne_nil {first : Char} {keyword operand : List Char}
    (found : operand? (first :: keyword) line = some operand) : content line.toList ≠ [] := by
  intro empty
  rw [operand?_eq, empty] at found
  simp [afterKeyword?] at found

/-- A line that starts with one keyword does not start with another one. -/
theorem operand?_eq_none_of_ne {first second : Char} {keyword other operand : List Char}
    (found : operand? (first :: keyword) line = some operand) (different : first ≠ second) :
    operand? (second :: other) line = none := by
  rw [operand?, Option.ite_none_right_eq_some] at found
  rw [operand?, startsWith_eq_false_of_ne found.1 different]
  rfl

theorem ofLine_of_expression {operand : List Char}
    (found : operand? ['e', 'x', 'p', 'r'] line = some operand) :
    ofLine line = ofExpression operand := by
  have filled := content_ne_nil found
  rw [operand?_eq] at found
  rw [ofLine, ofContent, List.isEmpty_eq_false_iff.mpr filled, found]
  rfl

theorem ofLine_of_assignment {operands : List Char}
    (found : operand? ['s', 'e', 't', ' '] line = some operands) :
    ofLine line = ofAssignment operands := by
  have filled := content_ne_nil found
  have other : operand? ['e', 'x', 'p', 'r'] line = none := operand?_eq_none_of_ne found (by decide)
  rw [operand?_eq] at found other
  rw [ofLine, ofContent, List.isEmpty_eq_false_iff.mpr filled, other, found]
  rfl

theorem ofLine_of_isExecution (execution : isExecution line = true) : ofLine line = .execute := by
  have letters := eq_of_beq execution
  obtain ⟨first, rest, split, d, tail⟩ := List.map_eq_cons_iff.mp letters
  obtain ⟨second, last, rfl, o, ended⟩ := List.map_eq_cons_iff.mp tail
  rw [List.map_eq_nil_iff] at ended
  rw [ofLine, split, ended]
  simp [ofContent, afterKeyword?, d, o]

/-- No line defines an expression and a variable at once. -/
theorem binding?_eq_none {source : String} (found : source? line = some source) :
    binding? line = none := by
  obtain ⟨operand, expression, _⟩ := Option.bind_eq_some_iff.mp found
  rw [binding?, operand?_eq_none_of_ne expression (by decide), Option.bind_none]

end Dispatch

/-- The last source that was given builds the program, or there is none. -/
def lastProgram? (lines : List String) : Option Program :=
  (lines.reverse.findSome? source?).bind fun source => (Program.build source).toOption

/-- The value of a variable is the last one that was assigned to any of its spellings. -/
def lastValue? (lines : List String) (name : String) : Option Int64 :=
  lines.reverse.findSome? fun line =>
    (binding? line).bind fun binding =>
      if Name.fold name = Name.fold binding.1 then some binding.2 else none

/-- A later source takes the place of all earlier ones. -/
theorem lastProgram?_concat (lines : List String) (line : String) :
    lastProgram? (lines ++ [line]) =
      match source? line with
      | some source => (Program.build source).toOption
      | none => lastProgram? lines := by
  rw [lastProgram?, List.reverse_append, List.reverse_singleton, List.singleton_append,
    List.findSome?_cons]
  cases source? line <;> rfl

/-- A later binding takes the place of the earlier ones of its variable. -/
theorem lastValue?_concat (lines : List String) (line name : String) :
    lastValue? (lines ++ [line]) name =
      match binding? line with
      | some (other, value) =>
          if Name.fold name = Name.fold other then some value else lastValue? lines name
      | none => lastValue? lines name := by
  rw [lastValue?, List.reverse_append, List.reverse_singleton, List.singleton_append,
    List.findSome?_cons]
  cases binding? line with
  | none => rfl
  | some binding =>
      by_cases same : Name.fold name = Name.fold binding.1
      · simp only [Option.bind_some, if_pos same]
      · simp only [Option.bind_some, if_neg same]
        rfl

end Command

/-- A run is answered by its records, and only a fault needs a message. -/
def Run.answer (run : Run) : Answer :=
  match run.result with
  | .ok _ => ⟨run.records, .silent⟩
  | .error error => ⟨run.records, .failed error⟩

namespace Run

@[simp] theorem records_answer (run : Run) : run.answer.records = run.records := by
  rw [answer]
  split <;> rfl

end Run

/-- An execution needs a program and a value for each of its parameters. -/
structure Answer.IsOfExecution (program? : Option Program) (value? : String → Option Int64)
    (answer : Answer) : Prop where
  missing : program? = none → answer.records = [] ∧
    answer.reply.message? = some "No expression set. Use expr <expression> first."
  unbound : ∀ program ∈ program?, ∀ name,
    (program.parameters.find? fun name => (value? name).isNone) = some name →
      answer.records = [] ∧
        answer.reply.message? = some ("Error: Variable " ++ name ++ " is not set.")
  run : ∀ program ∈ program?,
    (program.parameters.find? fun name => (value? name).isNone) = none →
      answer = (program.run (program.parameters.map fun name => (value? name).getD 0)).answer

namespace Session

open Command

section Steps

variable (session : Session) {line : String}

/-- Lines without one of the two keywords leave the session as it is. -/
theorem handle_of_operand?_eq_none (noExpression : operand? ['e', 'x', 'p', 'r'] line = none)
    (noAssignment : operand? ['s', 'e', 't', ' '] line = none) :
    (session.handle line).1 = session := by
  rw [operand?_eq] at noExpression noAssignment
  rw [handle, ofLine, ofContent, noExpression, noAssignment]
  dsimp only
  split
  · rfl
  · split
    · rfl
    · split <;> rfl

theorem obey_ofExpression (operand : List Char) :
    (session.obey (ofExpression operand)).1 =
      match sourceOf? operand with
      | some source => { session with program := (Program.build source).toOption }
      | none => session := by
  rw [ofExpression, sourceOf?]
  split
  · rfl
  · dsimp only [obey, define]
    cases Program.build (String.ofList (Text.trimStart operand)) <;> rfl

theorem obey_ofAssignment (operands : List Char) :
    (session.obey (ofAssignment operands)).1 =
      match bindingOf? operands with
      | some (name, value) =>
          { session with environment := session.environment.insert name value }
      | none => session := by
  rw [ofAssignment, bindingOf?]
  match Text.words operands with
  | [] | [_] | _ :: _ :: _ :: _ => rfl
  | [name, value] =>
      dsimp only
      cases Text.Decimal.read value <;> rfl

/-- A line changes the expression or one variable, or it changes nothing. -/
theorem handle_eq (line : String) : (session.handle line).1 =
    match source? line, binding? line with
    | some source, _ => { session with program := (Program.build source).toOption }
    | none, some (name, value) =>
        { session with environment := session.environment.insert name value }
    | none, none => session := by
  rw [source?, binding?]
  cases expression : operand? ['e', 'x', 'p', 'r'] line with
  | some operand =>
      have assignment : operand? ['s', 'e', 't', ' '] line = none :=
        operand?_eq_none_of_ne expression (by decide)
      rw [handle, ofLine_of_expression expression, obey_ofExpression, assignment, Option.bind_some,
        Option.bind_none]
      cases sourceOf? operand <;> rfl
  | none =>
      rw [Option.bind_none]
      cases assignment : operand? ['s', 'e', 't', ' '] line with
      | some operands =>
          rw [handle, ofLine_of_assignment assignment, obey_ofAssignment, Option.bind_some]
          cases bindingOf? operands <;> rfl
      | none => exact session.handle_of_operand?_eq_none expression assignment

theorem execute_of_program {program : Program} (found : session.program = some program) :
    session.execute = (session.environment.run program).answer := by
  rw [execute, found]
  rfl

/-- The answer to an execution depends on the program and on the values of its parameters. -/
theorem isOfExecution_execute :
    session.execute.IsOfExecution session.program session.environment.get? := by
  constructor
  case missing =>
    intro missing
    rw [execute, missing]
    exact ⟨rfl, rfl⟩
  case unbound =>
    intro program found name unbound
    rw [session.execute_of_program found, session.environment.run_eq, unbound]
    exact ⟨rfl, congrArg some (String.append_assoc ..).symm⟩
  case run =>
    intro program found bound
    rw [session.execute_of_program found, session.environment.run_eq, bound]
    rfl

end Steps

/-- The lines are handled from left to right, also those behind the end of the session. -/
def ofLines (lines : List String) : Session :=
  lines.foldl (fun session line => (session.handle line).1) empty

/-- A session has the last program and the last value of every variable. -/
structure Recalls (lines : List String) (session : Session) : Prop where
  program : session.program = lastProgram? lines
  values : session.environment.get? = lastValue? lines

theorem Recalls.handle {lines : List String} {session : Session} (recalls : session.Recalls lines)
    (line : String) : (session.handle line).1.Recalls (lines ++ [line]) := by
  have program := recalls.program
  have values := recalls.values
  rw [session.handle_eq]
  constructor
  case program =>
    rw [lastProgram?_concat]
    cases source? line with
    | some source => rfl
    | none =>
        cases binding? line with
        | some binding => exact program
        | none => exact program
  case values =>
    funext name
    rw [lastValue?_concat]
    cases found : source? line with
    | some source =>
        rw [binding?_eq_none found]
        exact congrFun values name
    | none =>
        cases binding? line with
        | some binding =>
            rw [session.environment.get?_insert, values]
        | none => exact congrFun values name

/-- Every sequence of lines is remembered by its last source and its last bindings. -/
theorem recalls_ofLines (lines : List String) : (ofLines lines).Recalls lines := by
  -- The last line comes off first, as it decides what is remembered.
  induction lines using List.reverseRecOn with
  | nil => exact ⟨rfl, rfl⟩
  | append_singleton lines line inductionHypothesis =>
      rw [ofLines, List.foldl_append]
      exact inductionHypothesis.handle line

/--
After any lines, a session has the program of the last source, if that source can be built, and the
last value of every variable. Lines without a source and without a binding change nothing, and the
answer to an execution depends on the program and on the values of its parameters.
-/
theorem ofLines_isDetermined (lines : List String) :
    (ofLines lines).program = lastProgram? lines ∧
      (∀ name, (ofLines lines).environment.get? name = lastValue? lines name) ∧
      (∀ line, source? line = none → binding? line = none →
        ((ofLines lines).handle line).1 = ofLines lines) ∧
      ∀ line, isExecution line = true →
        ((ofLines lines).handle line).2.IsOfExecution (lastProgram? lines) (lastValue? lines) := by
  have recalls := recalls_ofLines lines
  refine ⟨recalls.program, congrFun recalls.values, ?_, ?_⟩
  · intro line noSource noBinding
    rw [handle_eq, noSource, noBinding]
  · intro line execution
    have answer := (ofLines lines).isOfExecution_execute
    rw [recalls.program, recalls.values] at answer
    rw [handle, ofLine_of_isExecution execution]
    exact answer

set_option maxRecDepth 8000 in
/-- A failed definition ends with the next one, and the spellings of a name share a value. -/
theorem ofLines_isDetermined_of_spellings :
    let lines := ["expr x*y", "set X 3", "exit", "SET x 4", "expr (", "set y", "Expr x-X/z",
      "\uFEFFset x 7.", "set  Y  +5"]
    (ofLines lines).program = some ⟨["x", "z"],
        [.load 0, .load 0, .load 1, .combine .divide, .trace 0, .combine .minus, .trace 1],
        ["X/z", "x-X/z"]⟩ ∧
      (ofLines lines).environment.get? "X" = some 4 ∧
      (ofLines lines).environment.get? "y" = some 5 ∧
      ((ofLines lines).handle "set z zero").1 = ofLines lines ∧
      ((ofLines lines).handle " Do").2.reply.message? = some "Error: Variable z is not set." := by
  intro lines
  have source : lines.reverse.findSome? source? = some "x-X/z" := by decide +kernel
  have built : Program.build "x-X/z" = .ok ⟨["x", "z"],
      [.load 0, .load 0, .load 1, .combine .divide, .trace 0, .combine .minus, .trace 1],
      ["X/z", "x-X/z"]⟩ := by cbv
  have program : lastProgram? lines = some ⟨["x", "z"],
      [.load 0, .load 0, .load 1, .combine .divide, .trace 0, .combine .minus, .trace 1],
      ["X/z", "x-X/z"]⟩ := by
    rw [lastProgram?, source, Option.bind_some, built]
    rfl
  have unbound : (["x", "z"].find? fun name => (lastValue? lines name).isNone) = some "z" := by
    decide +kernel
  have execution : isExecution " Do" = true := by decide +kernel
  obtain ⟨current, values, unchanged, answers⟩ := ofLines_isDetermined lines
  refine ⟨current.trans program, (values "X").trans ?_, (values "y").trans ?_,
    unchanged "set z zero" ?_ ?_, ((answers " Do" execution).unbound _ program "z" unbound).2⟩ <;>
      decide +kernel

end Session

end TraceCalc
