/-
This file shows that a reader keeps no history beyond the tokens that remain.
-/

import TraceCalc.Proofs.Expr.Rejection
import TraceCalc.Proofs.Token.Blanking

namespace TraceCalc

/-- The message quotes another source, and everything else is kept. -/
def Error.quoting (other : String) : Error → Error
  | .misplacedToken mismatch _ => .misplacedToken mismatch other
  | error => error

namespace Reader

/-- A reader is asked for a whole expression or for a part of one. -/
inductive Call where
  | whole
  | above (least : Precedence)
  | operand
  | group
  | signed (operator : Operator)
  deriving DecidableEq, Repr

/-- A call reads some of the tokens that remain. -/
def Call.outcome (stop : Nat) (tokens : List Token) : Call → Except Mismatch Expr × List Token
  | .whole => (Expr.readWhole stop tokens).outcome
  | .above least => (Expr.readAbove stop least tokens).outcome
  | .operand => (Expr.readOperand stop tokens).outcome
  | .group => (Expr.readGroup stop tokens).outcome
  | .signed operator => (Expr.readSigned stop operator tokens).outcome

/-- The reader answers the call and goes on, also after an error. -/
def perform (reader : Reader) : Call → Except Error Expr × Reader
  | .whole => reader.whole
  | .above least => reader.above least
  | .operand => reader.operand
  | .group => reader.group
  | .signed operator => reader.signed operator

/-- The calls leave the reader in this state. -/
def after (reader : Reader) (calls : List Call) : Reader :=
  calls.foldl (fun current call => (current.perform call).2) reader

/-- Each call is answered in the state that the calls before it left. -/
def answers (reader : Reader) : List Call → List (Except Error Expr)
  | [] => []
  | call :: later => (reader.perform call).1 :: (reader.perform call).2.answers later

/-- When no token remains, the end of the source comes again. -/
def upcoming (reader : Reader) : List Token :=
  if reader.remaining = [] then [Token.finish reader.stop] else reader.remaining

namespace Call

variable {stop : Nat} {tokens rest : List Token} {call : Call}

/--
A call that fails takes the tokens before the reported one, and this one with them. Behind the last
token, it reports the end of the source and leaves nothing.
-/
theorem exists_taken {mismatch : Mismatch}
    (failure : call.outcome stop tokens = (.error mismatch, rest)) :
    ∃ taken behind, tokens = taken ++ behind ∧ .finish ∉ taken.map Token.kind ∧
      mismatch.found = behind.headD (Token.finish stop) ∧ rest = behind.tail := by
  obtain ⟨depth, before, behind, reached, split, ran, _, reported, left⟩ :
      ∃ depth, (Progress.due depth).StopsAt stop tokens mismatch rest := by
    cases call with
    | whole => exact ⟨0, Expr.stopsAt_of_expect failure⟩
    | above least => exact ⟨0, Expr.stopsAt_of_readAbove failure⟩
    | operand => exact ⟨0, Expr.stopsAt_of_readOperand failure⟩
    | group => exact ⟨1, Expr.stopsAt_of_readGroup failure⟩
    | signed operator => exact ⟨0, Expr.stopsAt_of_readSigned failure⟩
  have unfinished : reached ≠ .finished := by
    rintro rfl
    simp [Progress.mismatch?] at reported
  exact ⟨before, behind, split, Progress.finish_notMem_of_run? ran unfinished,
    Progress.found_of_mismatch? reported, left⟩

/-- A call that succeeds takes the first tokens. -/
theorem isSuffix_of_ok {expr : Expr} (success : call.outcome stop tokens = (.ok expr, rest)) :
    rest <:+ tokens := by
  have suffix {category : Category} {inner : Expr} {remaining : List Token}
      (read : Expr.IsReadBefore category tokens inner remaining) : remaining <:+ tokens := by
    obtain ⟨consumed, split, _⟩ := read
    exact ⟨consumed, split.symm⟩
  cases call with
  | whole =>
      obtain ⟨remaining, read, _, rfl⟩ := Expr.readWhole_eq_ok_iff.mp success
      exact (List.tail_suffix remaining).trans (suffix read)
  | above least => exact suffix (Expr.isReadBefore_of_readAbove success).1
  | operand => exact suffix (Expr.isReadBefore_of_readOperand success)
  | group =>
      obtain ⟨_, closing, _, _, found⟩ := Expr.readGroup_eq_ok success
      exact (List.suffix_cons closing rest).trans
        (suffix (Expr.isReadBefore_of_readAbove found).1)
  | signed operator =>
      obtain ⟨_, _, read⟩ := Expr.isReadBefore_of_readSigned success
      exact suffix read

/-- A call leaves the last ones of its tokens, whether it succeeds or not. -/
theorem isSuffix (call : Call) (stop : Nat) (tokens : List Token) :
    (call.outcome stop tokens).2 <:+ tokens := by
  cases found : call.outcome stop tokens with
  | mk result rest =>
      cases result with
      | ok expr => exact isSuffix_of_ok found
      | error mismatch =>
          obtain ⟨taken, behind, rfl, _, _, rfl⟩ := exists_taken found
          exact (List.tail_suffix behind).trans (List.suffix_append taken behind)

/-- Without an operand before the end of the source, every call reports the end. -/
theorem outcome_of_finished (finished : tokens = [] ∨ tokens = [Token.finish stop]) :
    call.outcome stop tokens = (.error (.operand (Token.finish stop)), []) := by
  have operand : (Expr.readOperand stop tokens).outcome =
      (.error (.operand (Token.finish stop)), []) := by
    rcases finished with rfl | rfl
    · exact Expr.outcome_readOperand_nil
    · rw [Expr.outcome_readOperand_cons]
      rfl
  have above (least : Nat) : (Expr.readAbove stop least tokens).outcome =
      (.error (.operand (Token.finish stop)), []) := by
    rw [Expr.outcome_readAbove, operand]
  cases call with
  | whole => exact Step.outcome_expect_eq_error_iff.mpr (.inl (above _))
  | above least => exact above least
  | operand => exact operand
  | group =>
      rw [outcome, Expr.readGroup, Step.outcome_map_eq_error_iff]
      exact Step.outcome_expect_eq_error_iff.mpr (.inl (above _))
  | signed operator =>
      rw [outcome, Expr.readSigned, Step.outcome_map_eq_error_iff]
      exact above _

end Call

variable (reader : Reader) (call : Call) (calls : List Call)

theorem perform_eq : reader.perform call =
    ((call.outcome reader.stop reader.remaining).1.mapError (.misplacedToken · reader.source),
      { reader with remaining := (call.outcome reader.stop reader.remaining).2 }) := by
  cases call <;> rfl

/-- The calls take tokens and leave the source as it is. -/
theorem after_eq : (reader.after calls).source = reader.source ∧
    (reader.after calls).remaining <:+ reader.remaining := by
  induction calls generalizing reader with
  | nil => exact ⟨rfl, List.suffix_rfl⟩
  | cons call later inductionHypothesis =>
      obtain ⟨same, suffix⟩ := inductionHypothesis (reader.perform call).2
      have kept : (reader.perform call).2.source = reader.source := by rw [perform_eq]
      have shorter : (reader.perform call).2.remaining <:+ reader.remaining := by
        rw [perform_eq]
        exact call.isSuffix _ _
      exact ⟨same.trans kept, suffix.trans shorter⟩

/-- Only the quoted source tells two readers with the same tokens and the same end apart. -/
theorem answers_of_source {source other : String}
    (size : other.utf8ByteSize = source.utf8ByteSize) (tokens : List Token) :
    (Reader.mk other tokens).answers calls =
      ((Reader.mk source tokens).answers calls).map (Except.mapError (Error.quoting other)) := by
  induction calls generalizing tokens with
  | nil => rfl
  | cons call later inductionHypothesis =>
      rw [answers, answers, perform_eq, perform_eq, List.map_cons]
      simp only [stop, size, inductionHypothesis]
      cases (call.outcome source.utf8ByteSize tokens).1 <;> rfl

/-- At the end of the source, every call finds the end. -/
theorem answers_of_finished
    (finished : reader.remaining = [] ∨ reader.remaining = [Token.finish reader.stop]) :
    reader.answers calls = calls.map fun _ =>
      .error (.misplacedToken (.operand (Token.finish reader.stop)) reader.source) := by
  induction calls generalizing reader with
  | nil => rfl
  | cons call later inductionHypothesis =>
      rw [answers, perform_eq, Call.outcome_of_finished finished, List.map_cons]
      exact congrArg _ (inductionHypothesis { reader with remaining := [] } (.inl rfl))

/-- Whether the end of the source was taken cannot be observed. -/
theorem answers_upcoming :
    ({ reader with remaining := reader.upcoming } : Reader).answers calls =
      reader.answers calls := by
  by_cases none : reader.remaining = []
  · rw [upcoming, if_pos none, answers_of_finished reader calls (.inl none)]
    exact answers_of_finished _ calls (.inr rfl)
  · rw [upcoming, if_neg none]

section Opened

variable {source : String} {reader : Reader}

theorem eq_of_ofSource (opened : ofSource source = .ok reader) :
    reader.source = source ∧ Token.ofSource source = .ok reader.remaining := by
  rw [ofSource] at opened
  cases scanned : Token.ofSource source with
  | error error => simp [scanned, Except.map] at opened
  | ok tokens =>
      rw [scanned] at opened
      rw [← Except.ok.inj opened]
      exact ⟨rfl, rfl⟩

/-- What comes next is the last part of the tokens of the source. -/
theorem upcoming_isSuffix (opened : ofSource source = .ok reader) (calls : List Call) :
    (reader.after calls).upcoming <:+ reader.remaining := by
  obtain ⟨rfl, scanned⟩ := eq_of_ofSource opened
  obtain ⟨same, suffix⟩ := reader.after_eq calls
  rw [upcoming]
  split
  next =>
      obtain ⟨before, split, _⟩ := Token.ofSource_eq_ok scanned
      rw [split, stop, same]
      exact List.suffix_append _ _
  next => exact suffix

/-- A call that fails takes all that comes next, up to the reported token. -/
theorem upcoming_of_error (opened : ofSource source = .ok reader) {calls : List Call} {call : Call}
    {error : Error} (failure : ((reader.after calls).perform call).1 = .error error) :
    ∃ mismatch taken, error = .misplacedToken mismatch source ∧
      (reader.after calls).upcoming =
        taken ++ mismatch.found :: ((reader.after calls).perform call).2.remaining := by
  obtain ⟨rfl, scanned⟩ := eq_of_ofSource opened
  obtain ⟨same, suffix⟩ := reader.after_eq calls
  generalize reader.after calls = current at failure same suffix ⊢
  rw [perform_eq] at failure ⊢
  cases found : call.outcome current.stop current.remaining with
  | mk result rest =>
      rw [found] at failure
      cases result with
      | ok expr => simp [Except.mapError] at failure
      | error mismatch =>
          obtain ⟨taken, behind, split, proper, reported, rfl⟩ := Call.exists_taken found
          refine ⟨mismatch, taken, by rw [← same]; exact (Except.error.inj failure).symm, ?_⟩
          rw [upcoming, split]
          cases behind with
          | cons head behind =>
              rw [if_neg (by simp), reported]
              rfl
          | nil =>
              -- The end of the source is the last token, so that none remained.
              rw [List.append_nil] at split ⊢
              obtain ⟨before, whole, _⟩ := Token.ofSource_eq_ok scanned
              rw [whole, split, List.suffix_concat_iff] at suffix
              rcases suffix with rfl | ⟨inner, rfl, _⟩
              · rw [if_pos rfl, reported]
                rfl
              · exact absurd (List.mem_map_of_mem (List.mem_append_right _
                  (List.mem_singleton_self _))) proper

end Opened

/--
A reader keeps no history but the last part of its tokens, after any calls, whether they succeed or
fail. It answers as a new reader of the source with spaces before what comes next, up to the source
that messages quote. A call that fails takes all tokens up to the reported one, and once nothing
but the end remains, the end is reported in its place for ever.
-/
theorem after_keepsTokensOnly {source : String} {reader : Reader}
    (opened : ofSource source = .ok reader) (calls : List Call) :
    let current := reader.after calls
    let finish := Token.finish source.utf8ByteSize
    current.remaining <:+ reader.remaining ∧
      (∃ first more other fresh, current.upcoming = first :: more ∧
        IsBlankedBefore first.position source other ∧ ofSource other = .ok fresh ∧
        fresh.remaining = current.upcoming ∧
        ∀ later, fresh.answers later =
          (current.answers later).map (Except.mapError (Error.quoting other))) ∧
      (∀ call error, (current.perform call).1 = .error error →
        ∃ mismatch taken, error = .misplacedToken mismatch source ∧
          current.upcoming = taken ++ mismatch.found :: (current.perform call).2.remaining) ∧
      (current.remaining = [] ∨ current.remaining = [finish] →
        ∀ later, current.answers later =
          later.map fun _ => .error (.misplacedToken (.operand finish) source)) := by
  intro current finish
  obtain ⟨same, suffix⟩ := reader.after_eq calls
  have origin : current.source = source := same.trans (eq_of_ofSource opened).1
  refine ⟨suffix, ?_, fun call error failure => upcoming_of_error opened failure, ?_⟩
  · obtain ⟨first, more, coming⟩ : ∃ first more, current.upcoming = first :: more := by
      refine List.exists_cons_of_ne_nil ?_
      rw [upcoming]
      split
      next => simp
      next some => exact some
    obtain ⟨taken, split⟩ : current.upcoming <:+ reader.remaining :=
      upcoming_isSuffix opened calls
    have scanned := (eq_of_ofSource opened).2
    rw [← split, coming] at scanned
    obtain ⟨other, blanked, size, resumed⟩ := Token.exists_isBlankedBefore scanned
    refine ⟨first, more, other, ⟨other, first :: more⟩, coming, blanked, ?_, coming.symm, ?_⟩
    · rw [ofSource, resumed]
      rfl
    · intro later
      rw [← answers_upcoming current, coming, answers_of_source later size, ← origin]
  · intro finished later
    have ends : Token.finish current.stop = finish := by rw [stop, origin]
    rw [← ends] at finished ⊢
    rw [← origin]
    exact current.answers_of_finished later finished

set_option maxRecDepth 8000 in
/-- A group that fails leaves its end, which is read as if only spaces stood before it. -/
theorem after_keepsTokensOnly_of_group :
    let source := "Ä+(2 x)"
    let reader := Reader.mk source [⟨.identifier "Ä", 0⟩, ⟨.symbol .plus, 2⟩, ⟨.opening, 3⟩,
      ⟨.number "2" 2, 4⟩, ⟨.identifier "x", 6⟩, ⟨.closing, 7⟩, Token.finish 8]
    ofSource source = .ok reader ∧
      (reader.after [.whole]).remaining = [⟨.closing, 7⟩, Token.finish 8] ∧
      (∃ other fresh, IsBlankedBefore 7 source other ∧ ofSource other = .ok fresh ∧
        fresh.answers [.above 10, .whole] =
          [.error (.misplacedToken (.operand ⟨.closing, 7⟩) other),
            .error (.misplacedToken (.operand (Token.finish 8)) other)]) ∧
      (reader.after [.whole, .operand, .operand]).answers [.group, .whole] =
        [.error (.misplacedToken (.operand (Token.finish 8)) source),
          .error (.misplacedToken (.operand (Token.finish 8)) source)] := by
  intro source reader
  have opened : ofSource source = .ok reader := by cbv
  have remaining : (reader.after [.whole]).remaining = [⟨.closing, 7⟩, Token.finish 8] := by cbv
  have finished : (reader.after [.whole, .operand, .operand]).remaining = [] := by cbv
  have answered : (reader.after [.whole]).answers [.above 10, .whole] =
      [.error (.misplacedToken (.operand ⟨.closing, 7⟩) source),
        .error (.misplacedToken (.operand (Token.finish 8)) source)] := by cbv
  obtain ⟨_, ⟨first, _, other, fresh, coming, blanked, reopened, _, same⟩, _, _⟩ :=
    after_keepsTokensOnly opened [.whole]
  obtain ⟨_, _, _, ends⟩ := after_keepsTokensOnly opened [.whole, .operand, .operand]
  obtain ⟨rfl, _⟩ : ⟨.closing, 7⟩ = first ∧ _ := by
    rw [upcoming, remaining] at coming
    exact List.cons.inj coming
  refine ⟨opened, remaining, ⟨other, fresh, blanked, reopened, ?_⟩, ends (.inl finished) _⟩
  rw [same, answered]
  rfl

end Reader

end TraceCalc
