/-
This file shows that a session answers as the command line evaluates.
-/

import TraceCalc.Outcome
import TraceCalc.Proofs.Session.History
import TraceCalc.Proofs.Text.Words

namespace TraceCalc

/-- Different values are written differently. -/
theorem Text.Decimal.write_injective : Function.Injective write := by
  intro value other same
  exact Int64.toInt_inj.mp (Int.repr_injective same)

/-- A written binding consists of two words, and no equals sign stands in its name. -/
structure WrittenBinding where
  name : String
  value : String
  nameIsWord : Text.IsWord name.toList
  valueIsWord : Text.IsWord value.toList
  noEqualsSign : '=' ∉ name.toList

namespace WrittenBinding

variable (binding : WrittenBinding)

/-- An option of the command line has the binding with an equals sign. -/
def option : String := binding.name ++ "=" ++ binding.value

/-- A line of a session has the binding behind its keyword. -/
def line : String := "set " ++ binding.name ++ " " ++ binding.value

theorem toList_option :
    binding.option.toList = binding.name.toList ++ '=' :: binding.value.toList := by
  simp [option]

theorem toList_line : binding.line.toList =
    ['s', 'e', 't', ' '] ++ (binding.name.toList ++ ' ' :: binding.value.toList) := by
  simp [line]

/-- Both words of an option are read as they are. -/
theorem readBinding_option : CommandLine.readBinding binding.option =
    match Text.Decimal.read binding.value.toList with
    | .ok value => .ok (binding.name, value)
    | .error fault => .error (.invalidInteger binding.value fault) := by
  have before : ∀ character ∈ binding.name.toList, (character != '=') = true := by
    intro character member
    exact bne_iff_ne.mpr fun same => binding.noEqualsSign (same ▸ member)
  rw [CommandLine.readBinding, toList_option, List.takeWhile_append_of_pos before,
    List.dropWhile_append_of_pos before, List.takeWhile_cons_of_neg (by decide),
    List.dropWhile_cons_of_neg (by decide)]
  dsimp only
  rw [binding.valueIsWord.isTrimmed.trim_eq]
  cases Text.Decimal.read binding.value.toList with
  | ok value =>
      dsimp only
      rw [List.append_nil, binding.nameIsWord.isTrimmed.trim_eq, String.ofList_toList]
  | error fault =>
      dsimp only
      rw [String.ofList_toList]

theorem readBinding_option_eq_ok_iff (read : String × Int64) :
    CommandLine.readBinding binding.option = .ok read ↔
      binding.name = read.1 ∧ Text.Decimal.read binding.value.toList = .ok read.2 := by
  rw [readBinding_option]
  cases Text.Decimal.read binding.value.toList <;> simp [Prod.ext_iff]

/-- Every option is accepted, and this is what is read from it. -/
def AreRead (written : List WrittenBinding) (bindings : List (String × Int64)) : Prop :=
  List.Forall₂ (fun binding read => CommandLine.readBinding binding.option = .ok read)
    written bindings

end WrittenBinding

namespace Command

/-- A line keeps all its characters when it starts with a letter and ends without white space. -/
theorem content_cons {first : Char} {keyword text : List Char}
    (start : Text.trimStart (first :: keyword) = first :: keyword)
    (letter : first ≠ byteOrderMark) (trimmed : Text.IsTrimmed text) :
    content (first :: keyword ++ text) = first :: keyword ++ text := by
  rw [content, (trimmed.append (List.cons_ne_nil first keyword) start).trim_eq, List.cons_append,
    List.dropWhile_cons_of_neg]
  simpa using letter

theorem operand?_expression {source : String} (trimmed : Text.IsTrimmed source.toList) :
    operand? ['e', 'x', 'p', 'r'] ("expr " ++ source) = some (' ' :: source.toList) := by
  have characters : ("expr " ++ source).toList = ['e', 'x', 'p', 'r', ' '] ++ source.toList :=
    String.toList_append
  rw [operand?, characters, content_cons (by decide) (by decide) trimmed]
  rfl

theorem operand?_assignment (name : List Char) {value : List Char}
    (trimmed : Text.IsTrimmed value) :
    operand? ['s', 'e', 't', ' '] (String.ofList (['s', 'e', 't', ' '] ++ (name ++ ' ' :: value))) =
      some (name ++ ' ' :: value) := by
  have characters : ['s', 'e', 't', ' '] ++ (name ++ ' ' :: value) =
      's' :: (['e', 't', ' '] ++ name ++ [' ']) ++ value := by
    simp
  have start (text : List Char) : Text.trimStart ('s' :: text) = 's' :: text :=
    Text.trimStart_of_head text (by decide)
  rw [operand?, String.toList_ofList, characters, content_cons (start _) (by decide) trimmed,
    ← characters]
  rfl

/-- The white space between the keyword and the source is dropped. -/
theorem ofLine_expression {source : String} (trimmed : Text.IsTrimmed source.toList) :
    ofLine ("expr " ++ source) = .expression source := by
  rw [ofLine_of_expression (operand?_expression trimmed), ofExpression]
  have start : Text.trimStart (' ' :: source.toList) = source.toList := by
    rw [Text.trimStart, List.dropWhile_cons_of_pos (by decide)]
    exact trimmed.start
  rw [start, List.isEmpty_eq_false_iff.mpr trimmed.filled, String.ofList_toList]
  rfl

/-- The line of two words is an assignment of the second one to the first one. -/
theorem ofLine_assignment {name value : List Char} (nameIsWord : Text.IsWord name)
    (valueIsWord : Text.IsWord value) :
    ofLine (String.ofList (['s', 'e', 't', ' '] ++ (name ++ ' ' :: value))) =
      match Text.Decimal.read value with
      | .ok value => .assignment (String.ofList name) value
      | .error _ => .invalidInteger := by
  have command := ofLine_of_assignment (operand?_assignment name valueIsWord.isTrimmed)
  rw [ofAssignment, Text.words_pair nameIsWord valueIsWord] at command
  exact command

/-- The words of the line are the words of the binding. -/
theorem ofLine_line (binding : WrittenBinding) :
    ofLine binding.line =
      match Text.Decimal.read binding.value.toList with
      | .ok value => .assignment binding.name value
      | .error _ => .invalidInteger := by
  rw [← String.ofList_toList (s := binding.line), binding.toList_line,
    ofLine_assignment binding.nameIsWord binding.valueIsWord]
  simp only [String.ofList_toList]

end Command

/-- An outcome agrees with an answer if both succeed or both report the same failure. -/
structure Outcome.Agrees (outcome : Outcome) (answer : Answer) : Prop where
  succeeds : outcome.failure = none ↔ answer.reply = .silent
  fails : ∀ error, outcome.failure = some error ↔ answer.reply = .failed error
  reports : ∀ message, outcome.failure.map Error.message = some message ↔
    answer.reply.message? = some ("Error: " ++ message)

theorem Run.agrees_outcome (run : Run) : run.outcome.Agrees run.answer := by
  rw [outcome, answer]
  cases run.result with
  | ok value =>
      constructor <;> simp [Outcome.after, Outcome.ofOutput, Reply.message?]
  | error error =>
      constructor <;> simp [Outcome.after, Outcome.ofFailure, Reply.message?]

namespace Session

open Command

variable (session : Session)

/-- A line with a binding assigns its value exactly if an option with the binding is accepted. -/
theorem message_handle_line_iff (binding : WrittenBinding) (value : Int64) :
    (session.handle binding.line).2.reply.message? =
        some ("Variable " ++ binding.name ++ " set to " ++ Text.Decimal.write value ++ ".") ↔
      Text.Decimal.read binding.value.toList = .ok value := by
  rw [handle, ofLine_line]
  cases Text.Decimal.read binding.value.toList with
  | ok other =>
      simp [obey, assign, Reply.message?, Text.Decimal.write_injective.eq_iff]
  | error fault =>
      have different : ("Invalid integer value." : String) ≠ "Variable " ++ binding.name ++
          " set to " ++ Text.Decimal.write value ++ "." := by
        intro same
        have heads := congrArg (fun message => message.toList.head?) same
        simp at heads
      simp [obey, Reply.message?, different]

theorem handle_line_of_read {binding : WrittenBinding} {read : String × Int64}
    (accepted : CommandLine.readBinding binding.option = .ok read) :
    (session.handle binding.line).1 =
      { session with environment := session.environment.insert read.1 read.2 } := by
  obtain ⟨name, value⟩ := (binding.readBinding_option_eq_ok_iff read).mp accepted
  rw [handle, ofLine_line, value, name]
  rfl

/-- The lines of accepted bindings change the variables only. -/
theorem foldl_handle_lines {written : List WrittenBinding} {bindings : List (String × Int64)}
    (accepted : WrittenBinding.AreRead written bindings) (session : Session) :
    (written.map WrittenBinding.line).foldl (fun current line => (current.handle line).1) session =
      { session with environment := session.environment.insertMany bindings } := by
  induction accepted generalizing session with
  | nil => rfl
  | cons first _ inductionHypothesis =>
      rw [List.map_cons, List.foldl_cons, session.handle_line_of_read first, inductionHypothesis]
      rfl

/-- The place of the expression among the bindings does not matter. -/
theorem ofLines_of_position {source : String} (trimmed : Text.IsTrimmed source.toList)
    {written : List WrittenBinding} {bindings : List (String × Int64)}
    (accepted : WrittenBinding.AreRead written bindings) (position : Nat) :
    ofLines ((written.take position).map WrittenBinding.line ++
        ("expr " ++ source) :: (written.drop position).map WrittenBinding.line) =
      ⟨Environment.empty.insertMany bindings, (Program.build source).toOption⟩ := by
  have before := List.forall₂_take position accepted
  have after := List.forall₂_drop position accepted
  have defined (session : Session) : (session.handle ("expr " ++ source)).1 =
      { session with program := (Program.build source).toOption } := by
    rw [handle, ofLine_expression trimmed, obey, define]
    cases Program.build source <;> rfl
  rw [ofLines, List.foldl_append, List.foldl_cons, foldl_handle_lines before, defined,
    foldl_handle_lines after]
  simp only [Environment.insertMany, ← List.foldl_append, List.take_append_drop]
  rfl

/--
An option binds a variable exactly if the line with the same words does. With accepted bindings, a
session has the records and the failure of the command line, wherever the expression is given.
-/
theorem ofLines_agrees :
    (∀ (session : Session) (binding : WrittenBinding) (value : Int64),
      CommandLine.readBinding binding.option = .ok (binding.name, value) ↔
        (session.handle binding.line).2.reply.message? = some ("Variable " ++ binding.name ++
          " set to " ++ Text.Decimal.write value ++ ".")) ∧
    ∀ (source : String), Text.IsTrimmed source.toList →
      ∀ (written : List WrittenBinding) (bindings : List (String × Int64)),
        WrittenBinding.AreRead written bindings → ∀ position,
          let before := (written.take position).map WrittenBinding.line
          let after := (written.drop position).map WrittenBinding.line
          (∀ error, Program.build source = .error error →
            evaluate source bindings = Outcome.ofFailure error ∧
              ((ofLines before).handle ("expr " ++ source)).2.reply.message? =
                some ("Error: " ++ error.message)) ∧
          ∀ program, Program.build source = .ok program →
            let run := (Environment.empty.insertMany bindings).run program
            let answer := ((ofLines (before ++ ("expr " ++ source) :: after)).handle "do").2
            evaluate source bindings = run.outcome ∧ answer.records = run.records ∧
              (evaluate source bindings).Agrees answer := by
  constructor
  · intro session binding value
    rw [binding.readBinding_option_eq_ok_iff, session.message_handle_line_iff]
    exact and_iff_right rfl
  · intro source trimmed written bindings accepted position before after
    constructor
    · intro error failed
      rw [evaluate, failed, handle, ofLine_expression trimmed, obey, define, failed]
      exact ⟨rfl, rfl⟩
    · intro program built run answer
      have outcome : evaluate source bindings = run.outcome := by
        rw [evaluate, built]
      have answered : answer = run.answer := by
        have session := ofLines_of_position trimmed accepted position
        have execution : ofLine "do" = .execute := ofLine_of_isExecution (by decide)
        rw [built] at session
        dsimp only [answer, before, after]
        rw [session, handle, execution]
        rfl
      rw [outcome, answered]
      exact ⟨rfl, run.records_answer, run.agrees_outcome⟩

set_option maxRecDepth 8000 in
/-- The last value of every variable holds under any spelling, and the fault is the same. -/
theorem ofLines_agrees_of_spellings :
    let bindings := [("X", 6), ("y", 3), ("x", 7), ("Y", 0)]
    let lines := ["set X +6", "set y 3", "expr x*x/Y", "set x 7", "set Y -0"]
    (Text.IsTrimmed "x*x/Y".toList ∧ CommandLine.readBinding "X=+6" = .ok ("X", 6)) ∧
      (Session.empty.handle "set X +6").2.reply.message? = some "Variable X set to 6." ∧
      evaluate "x*x/Y" bindings = ⟨"x*x = 49\n", none, some (.divisionByZero 49)⟩ ∧
      ((ofLines lines).handle "do").2 = ⟨[⟨"x*x", 49⟩], .failed (.divisionByZero 49)⟩ := by
  intro bindings lines
  let upper : WrittenBinding :=
    ⟨"X", "+6", by decide +kernel, by decide +kernel, by decide +kernel⟩
  let written : List WrittenBinding := [upper,
    ⟨"y", "3", by decide +kernel, by decide +kernel, by decide +kernel⟩,
    ⟨"x", "7", by decide +kernel, by decide +kernel, by decide +kernel⟩,
    ⟨"Y", "-0", by decide +kernel, by decide +kernel, by decide +kernel⟩]
  have trimmed : Text.IsTrimmed "x*x/Y".toList := by decide +kernel
  have accepted : WrittenBinding.AreRead written bindings :=
    .cons (by decide +kernel) (.cons (by decide +kernel) (.cons (by decide +kernel)
      (.cons (by decide +kernel) .nil)))
  have inserted : (written.take 2).map WrittenBinding.line ++ ("expr " ++ "x*x/Y") ::
      (written.drop 2).map WrittenBinding.line = lines := by decide +kernel
  have option : CommandLine.readBinding upper.option = .ok ("X", 6) := by decide +kernel
  have line : upper.line = "set X +6" := by decide +kernel
  have message : "Variable " ++ upper.name ++ " set to " ++ Text.Decimal.write 6 ++ "." =
      "Variable X set to 6." := by decide +kernel
  have built : Program.build "x*x/Y" = .ok ⟨["x", "Y"],
      [.load 0, .load 0, .combine .times, .trace 0, .load 1, .combine .divide, .trace 1],
      ["x*x", "x*x/Y"]⟩ := by cbv
  obtain ⟨options, sessions⟩ := ofLines_agrees
  have assigned := (options Session.empty upper 6).mp option
  obtain ⟨outcome, records, agrees⟩ :=
    (sessions "x*x/Y" trimmed written bindings accepted 2).2 _ built
  rw [line, message] at assigned
  rw [inserted] at records agrees
  have evaluated : evaluate "x*x/Y" bindings =
      ⟨"x*x = 49\n", none, some (.divisionByZero 49)⟩ := outcome.trans (by decide +kernel)
  have reply := (agrees.fails (.divisionByZero 49)).mp (by rw [evaluated])
  refine ⟨⟨trimmed, by decide +kernel⟩, assigned, evaluated, ?_⟩
  exact congrArg₂ Answer.mk (records.trans (by decide +kernel)) reply

end Session

end TraceCalc
