/-
This file shows that the interactive loop prints the answers of one session.
-/

import TraceCalc.Effect
import TraceCalc.Proofs.Session.History
import TraceCalc.Proofs.Text.Lines

namespace TraceCalc

open Text

/-- The interaction stops in one of three ways. -/
inductive Ending where
  | exit
  | inputEnd
  | invalidLine
  deriving DecidableEq, Repr

namespace Ending

/-- A prompt without an answer is left behind where no line could be fed. -/
def output : Ending → String
  | .exit => ""
  | .inputEnd | .invalidLine => "> "

/-- Only a line that is no text is a failure. -/
def failure? : Ending → Option Error
  | .exit | .inputEnd => none
  | .invalidLine => some .invalidEncoding

/-- The answers are those of the lines that were fed, and the other lines stay behind. -/
inductive IsReached : Ending → List Answer → List (List UInt8) → Prop
  | exit {earlier : List Answer} {last : Answer} {behind : List (List UInt8)}
      (going : ∀ answer ∈ earlier, answer.reply ≠ .exit) (left : last.reply = .exit) :
      IsReached .exit (earlier ++ [last]) behind
  | inputEnd {answers : List Answer} (going : ∀ answer ∈ answers, answer.reply ≠ .exit) :
      IsReached .inputEnd answers []
  | invalidLine {answers : List Answer} {line : List UInt8} {behind : List (List UInt8)}
      (going : ∀ answer ∈ answers, answer.reply ≠ .exit)
      (invalid : ∀ text, encodeLine text ≠ line) :
      IsReached .invalidLine answers (line :: behind)

variable {ending : Ending} {answer : Answer} {answers : List Answer}
  {behind : List (List UInt8)}

theorem IsReached.cons (going : answer.reply ≠ .exit) (reached : IsReached ending answers behind) :
    IsReached ending (answer :: answers) behind := by
  cases reached with
  | exit earlier left =>
      rw [← List.cons_append]
      exact .exit (List.forall_mem_cons.mpr ⟨going, earlier⟩) left
  | inputEnd others => exact .inputEnd (List.forall_mem_cons.mpr ⟨going, others⟩)
  | invalidLine others invalid =>
      exact .invalidLine (List.forall_mem_cons.mpr ⟨going, others⟩) invalid

/-- Without any answer, the input was at its end or began with an invalid line. -/
theorem IsReached.of_nil (reached : IsReached ending [] behind) :
    (ending = .inputEnd ∧ behind = []) ∨
      (ending = .invalidLine ∧
        ∃ line rest, behind = line :: rest ∧ ∀ text, encodeLine text ≠ line) := by
  generalize same : ([] : List Answer) = all at reached
  cases reached with
  | exit going left => simp at same
  | inputEnd going => exact .inl ⟨rfl, rfl⟩
  | invalidLine going invalid => exact .inr ⟨rfl, _, _, rfl, invalid⟩

/-- The first answer stops the interaction, or the ending is that of the other answers. -/
theorem IsReached.of_cons (reached : IsReached ending (answer :: answers) behind) :
    (answer.reply = .exit ∧ answers = [] ∧ ending = .exit) ∨
      answer.reply ≠ .exit ∧ IsReached ending answers behind := by
  generalize same : answer :: answers = all at reached
  cases reached with
  | @exit earlier last behind others left =>
      cases earlier with
      | nil =>
          obtain ⟨rfl, rfl⟩ := List.cons.inj same
          exact .inl ⟨left, rfl, rfl⟩
      | cons first earlier =>
          obtain ⟨rfl, rfl⟩ := List.cons.inj same
          obtain ⟨going, others⟩ := List.forall_mem_cons.mp others
          exact .inr ⟨going, .exit others left⟩
  | inputEnd others =>
      obtain ⟨going, others⟩ := List.forall_mem_cons.mp (same ▸ others)
      exact .inr ⟨going, .inputEnd others⟩
  | invalidLine others invalid =>
      obtain ⟨going, others⟩ := List.forall_mem_cons.mp (same ▸ others)
      exact .inr ⟨going, .invalidLine others invalid⟩

/-- After an exit it does not matter which lines stay behind. -/
theorem IsReached.of_exit (reached : IsReached .exit answers behind)
    (other : List (List UInt8)) : IsReached .exit answers other := by
  cases reached with
  | exit going left => exact .exit going left

end Ending

/-- A fed line adds the prompt, a line for each of its records and the message, if there is one. -/
def Answer.portion (answer : Answer) : String :=
  "> " ++ String.join (answer.records.map fun record =>
    record.label ++ " = " ++ record.value.toInt.repr ++ "\n") ++
    answer.reply.message?.elim "" (· ++ "\n")

theorem Answer.prompt_output (answer : Answer) : prompt ++ answer.output = answer.portion := by
  rw [output, portion, String.append_assoc]
  cases answer.reply.message? <;> rfl

namespace Session

/-- Each answer is given by the session that the lines before it have left. -/
def answers (session : Session) : List String → List Answer
  | [] => []
  | line :: rest => (session.handle line).2 :: (session.handle line).1.answers rest

theorem length_answers (session : Session) (lines : List String) :
    (session.answers lines).length = lines.length := by
  induction lines generalizing session with
  | nil => rfl
  | cons line rest inductionHypothesis =>
      rw [answers, List.length_cons, List.length_cons, inductionHypothesis]

theorem getElem?_answers {session : Session} {lines : List String} {index : Nat} {line : String}
    (found : lines[index]? = some line) :
    (session.answers lines)[index]? =
      some (((lines.take index).foldl (fun session line => (session.handle line).1) session).handle
        line).2 := by
  induction lines generalizing session index with
  | nil => simp at found
  | cons first rest inductionHypothesis =>
      cases index with
      | zero =>
          rw [List.getElem?_cons_zero, Option.some.injEq] at found
          rw [answers, found]
          rfl
      | succ index =>
          rw [List.getElem?_cons_succ] at found
          rw [answers, List.getElem?_cons_succ, inductionHypothesis found]
          rfl

section Turns

variable {session : Session}

/-- One line that is a text is answered by the session. -/
theorem turn_encodeLine (session : Session) (line : String) :
    session.turn (encodeLine line) =
      (Outcome.ofOutput (session.handle line).2.output,
        if (session.handle line).2.reply = .exit then none
        else some (session.handle line).1) := by
  simp only [turn, decodeLine_encodeLine]

theorem turn_of_invalid {line : List UInt8} (invalid : ∀ text, encodeLine text ≠ line) :
    session.turn line = (Outcome.ofFailure .invalidEncoding, none) := by
  cases decoded : decodeLine line with
  | none => rw [turn, decoded]
  | some text => exact absurd (encodeLine_of_decodeLine decoded) (invalid text)

theorem interact_cons_of_exit {line : String} (left : (session.handle line).2.reply = .exit)
    (rest : List (List UInt8)) :
    session.interact (encodeLine line :: rest) = .ofOutput (session.handle line).2.portion := by
  rw [interact, turn_encodeLine, if_pos left, ← Answer.prompt_output]
  rfl

theorem interact_cons_of_ne_exit {line : String}
    (going : (session.handle line).2.reply ≠ .exit) (rest : List (List UInt8)) :
    session.interact (encodeLine line :: rest) =
      ((session.handle line).1.interact rest).after (session.handle line).2.portion := by
  rw [interact, turn_encodeLine, if_neg going, ← Answer.prompt_output]
  rfl

theorem interact_cons_of_invalid {line : List UInt8} (invalid : ∀ text, encodeLine text ≠ line)
    (rest : List (List UInt8)) :
    session.interact (line :: rest) = ⟨"> ", none, some .invalidEncoding⟩ := by
  rw [interact, turn_of_invalid invalid]
  rfl

/-- The lines behind an ending have no influence on what was printed before. -/
theorem interact_eq {fed : List String} {ending : Ending} {behind : List (List UInt8)}
    (reached : ending.IsReached (session.answers fed) behind) :
    session.interact (fed.map encodeLine ++ behind) =
      ⟨String.join ((session.answers fed).map Answer.portion) ++ ending.output, none,
        ending.failure?⟩ := by
  induction fed generalizing session with
  | nil =>
      rcases reached.of_nil with ⟨rfl, rfl⟩ | ⟨rfl, line, rest, rfl, invalid⟩
      · rfl
      · exact interact_cons_of_invalid invalid rest
  | cons line rest inductionHypothesis =>
      rw [answers] at reached
      rw [List.map_cons, List.cons_append]
      rcases reached.of_cons with ⟨left, last, rfl⟩ | ⟨going, others⟩
      · rw [interact_cons_of_exit left, answers, last]
        simp [Ending.output, Ending.failure?, Outcome.ofOutput]
      · rw [interact_cons_of_ne_exit going, inductionHypothesis others, Outcome.after, answers,
          List.map_cons, String.join_cons, String.append_assoc]

/-- Every list of lines is fed up to its ending. -/
theorem exists_ending (session : Session) (lines : List (List UInt8)) :
    ∃ fed ending behind, lines = fed.map encodeLine ++ behind ∧
      Ending.IsReached ending (session.answers fed) behind := by
  induction lines generalizing session with
  | nil => exact ⟨[], .inputEnd, [], rfl, .inputEnd (by simp [answers])⟩
  | cons line rest inductionHypothesis =>
      cases decoded : decodeLine line with
      | none =>
          refine ⟨[], .invalidLine, line :: rest, rfl, .invalidLine (by simp [answers]) ?_⟩
          rintro text rfl
          rw [decodeLine_encodeLine] at decoded
          simp at decoded
      | some text =>
          rw [← encodeLine_of_decodeLine decoded]
          by_cases left : (session.handle text).2.reply = .exit
          · exact ⟨[text], .exit, rest, rfl, .exit (List.forall_mem_nil _) left⟩
          · obtain ⟨fed, ending, behind, rfl, reached⟩ :=
              inductionHypothesis (session.handle text).1
            exact ⟨text :: fed, ending, behind, rfl, reached.cons left⟩

end Turns

end Session

/--
The interactive loop feeds the lines of its input to one session: up to the line that leaves it, up
to the first line that is no text, or up to the end of the input. It prints the answers of the
session in their order, and one more prompt unless the session was left. Only an invalid line makes
it fail, and the input behind the line that leaves the session has no influence.
-/
theorem interact_isTranscript (input : List UInt8) :
    ∃ (fed : List String) (ending : Ending) (behind : List (List UInt8)) (answers : List Answer),
      (∀ lines, IsDividedInto input lines ↔ lines = fed.map encodeLine ++ behind) ∧
      answers.length = fed.length ∧
      (∀ (index : Nat) (line : String), fed[index]? = some line →
        answers[index]? = some ((Session.ofLines (fed.take index)).handle line).2) ∧
      Ending.IsReached ending answers behind ∧
      (CommandLine.Request.interact.outcome input).effect =
        ⟨if ending = .invalidLine then 1 else 0,
          String.join (answers.map Answer.portion) ++ ending.output,
          if ending = .invalidLine then "Error: i/o error: stream did not contain valid UTF-8\n"
          else "", []⟩ ∧
      (ending = .exit → ∃ first rest, input = first ++ rest ∧
        IsDividedInto first (fed.map encodeLine) ∧
        (first.getLast? ≠ some lineFeed → rest = []) ∧
        (first.getLast? = some lineFeed → ∀ other,
          CommandLine.Request.interact.outcome (first ++ other) =
            CommandLine.Request.interact.outcome input)) := by
  obtain ⟨fed, ending, behind, split, reached⟩ := Session.empty.exists_ending (lines input)
  refine ⟨fed, ending, behind, Session.empty.answers fed, fun lines => ?_,
    Session.empty.length_answers fed, fun index line found => Session.getElem?_answers found,
    reached, ?_, ?_⟩
  · rw [isDividedInto_iff, split, eq_comm]
  · rw [CommandLine.Request.outcome, split, Session.interact_eq reached]
    cases ending <;> rfl
  · rintro rfl
    obtain ⟨first, rest, whole, divided, ending⟩ := (isDividedInto_iff.mpr split).of_append
    refine ⟨first, rest, whole, divided, fun unended => ?_, fun ended other => ?_⟩
    · rcases ending with ended | empty | last
      · exact absurd ended unended
      · rw [empty] at divided
        have none : fed = [] := List.map_eq_nil_iff.mp divided.lines_eq.symm
        rw [none] at reached
        rcases reached.of_nil with ⟨same, _⟩ | ⟨same, _⟩ <;> simp at same
      · exact last
    · rw [CommandLine.Request.outcome, CommandLine.Request.outcome, split, lines_append ended,
        divided.lines_eq, Session.interact_eq reached, Session.interact_eq (reached.of_exit _)]

set_option maxRecDepth 8000 in
/-- The carriage return is no part of the expression, and the byte behind the exit is not read. -/
example : CommandLine.Request.interact.outcome
    ("expr 1-2\r\ndo\nexit\n".toUTF8.data.toList ++ [0xFF]) =
      .ofOutput "> Expression accepted.\n> 1-2 = -1\n> " := by cbv

end TraceCalc
