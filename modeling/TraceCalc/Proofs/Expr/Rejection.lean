/-
This file shows that a source is rejected at the first token that no expression admits.
-/

import TraceCalc.Proofs.Expr.Progress
import TraceCalc.Proofs.Expr.RoundTrip
import TraceCalc.Proofs.Token.Stream

namespace TraceCalc

namespace Progress

/-- Nothing is taken behind the end of the source. -/
theorem run?_finished {kinds : List TokenKind} {reached : Progress}
    (ran : finished.run? kinds = some reached) : kinds = [] ∧ reached = finished := by
  cases kinds with
  | nil => exact ⟨rfl, (Option.some.inj ran).symm⟩
  | cons kind rest =>
      rw [run?_cons] at ran
      simp [next?] at ran

/-- The end of the source is taken only where nothing is missing. -/
theorem next?_eq_finished {progress : Progress} {kind : TokenKind}
    (taken : progress.next? kind = some finished) : progress = complete 0 ∧ kind = .finish := by
  unfold next? at taken
  split at taken <;> simp_all

theorem next?_finish {progress next : Progress} (taken : progress.next? .finish = some next) :
    next = finished := by
  unfold next? at taken
  split at taken <;> simp_all

/-- Before the last token, the source has not ended. -/
theorem finish_notMem_of_run? {progress reached : Progress} {kinds : List TokenKind}
    (ran : progress.run? kinds = some reached) (unfinished : reached ≠ finished) :
    .finish ∉ kinds := by
  induction kinds generalizing progress with
  | nil => simp
  | cons kind rest inductionHypothesis =>
      rw [run?_cons, Option.bind_eq_some_iff] at ran
      obtain ⟨next, taken, ran⟩ := ran
      have later := inductionHypothesis ran
      intro member
      rcases List.mem_cons.mp member with rfl | member
      · rw [next?_finish taken] at ran
        exact unfinished (run?_finished ran).2
      · exact later member

/-- One more token is taken behind those that were taken before. -/
theorem run?_concat_eq_some_iff {progress reached : Progress} {kinds : List TokenKind}
    {kind : TokenKind} : progress.run? (kinds ++ [kind]) = some reached ↔
      ∃ before, progress.run? kinds = some before ∧ before.next? kind = some reached := by
  rw [run?_append, Option.bind_eq_some_iff]
  refine exists_congr fun before => and_congr_right fun _ => ?_
  rw [run?_cons]
  cases before.next? kind <;> simp

/-- The source ends only behind a complete operand, with no group open. -/
theorem exists_of_run?_eq_finished {depth : Nat} {kinds : List TokenKind}
    (ran : (due depth).run? kinds = some finished) :
    ∃ inner, kinds = inner ++ [.finish] ∧ (due depth).run? inner = some (complete 0) := by
  rcases List.eq_nil_or_concat kinds with rfl | ⟨inner, kind, rfl⟩
  · simp at ran
  · rw [List.concat_eq_append] at ran ⊢
    obtain ⟨before, taken, last⟩ := run?_concat_eq_some_iff.mp ran
    obtain ⟨rfl, rfl⟩ := next?_eq_finished last
    exact ⟨inner, rfl, taken⟩

/-- Tokens that may all stand in their places up to the end are not rejected. -/
theorem not_isRejected_of_run? {stop : Nat} {progress : Progress} {tokens : List Token}
    {mismatch : Mismatch} (ran : progress.run? (tokens.map Token.kind) = some finished) :
    ¬ progress.IsRejected stop tokens mismatch := by
  rintro ⟨before, behind, reached, rfl, taken, refused, reported⟩
  rw [List.map_append, run?_append_of_some taken] at ran
  cases behind with
  | nil =>
      rw [Option.some.inj ran] at reported
      simp [mismatch?] at reported
  | cons token behind =>
      rw [List.headD_cons] at refused
      rw [List.map_cons, run?_cons, refused] at ran
      simp at ran

/-- This is what is missing: an operand that is due, the ends of the open groups, and the end. -/
def completion : Progress → List TokenKind
  | .due depth => .number :: (List.replicate depth .closing ++ [.finish])
  | .complete depth => List.replicate depth .closing ++ [.finish]
  | .finished => []

theorem run?_closing (depth : Nat) :
    (complete depth).run? (List.replicate depth .closing ++ [.finish]) = some finished := by
  induction depth with
  | zero => rfl
  | succ depth inductionHypothesis =>
      rw [List.replicate_succ, List.cons_append, run?_cons]
      exact inductionHypothesis

theorem run?_completion (progress : Progress) :
    progress.run? progress.completion = some finished := by
  cases progress with
  | due depth => exact run?_closing depth
  | complete depth => exact run?_closing depth
  | finished => rfl

end Progress

/-- A lexeme of the kind stands for all others. -/
def TokenKind.sample : TokenKind → Lexeme
  | .number => .number (Text.Decimal.write 0) 0
  | .identifier => .identifier "x"
  | .symbol operator => .symbol operator
  | .opening => .opening
  | .closing => .closing
  | .finish => .finish

theorem TokenKind.kind_sample (kind : TokenKind) : kind.sample.kind = kind := by
  cases kind <;> rfl

theorem TokenKind.map_kind_sample (kinds : List TokenKind) :
    kinds.map (fun kind => kind.sample.kind) = kinds :=
  (List.map_congr_left fun kind _ => kind.kind_sample).trans (List.map_id' kinds)

theorem TokenKind.isReadable_sample {kind : TokenKind} (notFinish : kind ≠ .finish) :
    kind.sample.IsReadable := by
  cases kind with
  | number => exact Lexeme.isReadable_number (by decide)
  | identifier =>
      exact Lexeme.isReadable_identifier_iff.mpr ⟨'x', [], rfl, by decide, by simp⟩
  | symbol operator => exact Lexeme.isReadable_symbol operator
  | opening => exact Lexeme.isReadable_opening
  | closing => exact Lexeme.isReadable_closing
  | finish => exact absurd rfl notFinish

namespace Expr

open Progress

/-- Some source with tokens of these kinds is read as an expression. -/
def IsSentence (kinds : List TokenKind) : Prop :=
  ∃ source tokens expr, Token.ofSource source = .ok tokens ∧ parse source = .ok expr ∧
    tokens.map Token.kind = kinds

/-- The kinds are the first ones of some sentence. -/
def IsViable (kinds : List TokenKind) : Prop := ∃ rest, IsSentence (kinds ++ rest)

/-- An operand may follow. -/
def IsOperandDue (kinds : List TokenKind) : Prop := IsViable (kinds ++ [.number])

/-- The last token is the last one of an operand. -/
def EndsWithOperand (kinds : List TokenKind) : Prop :=
  ∃ kind ∈ kinds.getLast?, kind = .number ∨ kind = .identifier ∨ kind = .closing

/-- More groups were opened than closed. -/
def HasOpenGroup (kinds : List TokenKind) : Prop := kinds.count .closing < kinds.count .opening

theorem run?_of_isSentence {kinds : List TokenKind} (sentence : IsSentence kinds) :
    (due 0).run? kinds = some finished := by
  obtain ⟨source, tokens, expr, scanned, parsed, rfl⟩ := sentence
  obtain ⟨inner, split, derived⟩ := parse_eq_ok_iff.mp parsed
  rw [scanned, Except.ok.injEq] at split
  have ran := run?_of_derives derived 0
  rw [List.map_map] at ran
  rw [split, List.map_append]
  exact run?_append_of_some ran _

/-- Lexemes that may all stand in their places are a sentence of the grammar. -/
theorem exists_derives_of_run? {kinds : List TokenKind}
    (ran : (due 0).run? kinds = some (complete 0)) :
    ∃ expr, Derives .sum (kinds.map TokenKind.sample) expr := by
  let tokens : List Token := kinds.map fun kind => ⟨kind.sample, 0⟩
  have lexemes : tokens.map Token.lexeme = kinds.map TokenKind.sample := List.map_map
  have kindsOf : tokens.map Token.kind = kinds :=
    List.map_map.trans (TokenKind.map_kind_sample kinds)
  have proper : ∀ token ∈ tokens, token.lexeme ≠ .finish := by
    intro token member isFinish
    have kind : token.kind ∈ tokens.map Token.kind := List.mem_map_of_mem member
    rw [kindsOf, Token.kind, isFinish] at kind
    exact finish_notMem_of_run? ran (by simp) kind
  cases found : (readWhole 0 (tokens ++ [Token.finish 0])).outcome with
  | mk result rest =>
      -- The reader has an answer for all tokens, and a rejection would contradict the run.
      cases result with
      | error mismatch =>
          have accepted : (due 0).run? ((tokens ++ [Token.finish 0]).map Token.kind) =
              some finished := by
            rw [List.map_append, kindsOf, run?_append_of_some ran]
            rfl
          exact absurd (isRejected_of_readWhole found) (not_isRejected_of_run? accepted)
      | ok expr =>
          obtain ⟨remaining, ⟨consumed, split, derived⟩, ended, _⟩ := readWhole_eq_ok_iff.mp found
          obtain ⟨rfl, _⟩ := eq_finish_of_append_eq proper (finish_notMem_of_derives derived)
            split ended
          rw [lexemes] at derived
          exact ⟨expr, derived⟩

/-- Kinds that may all stand in their places are those of some source. -/
theorem isSentence_of_run? {kinds : List TokenKind} (ran : (due 0).run? kinds = some finished) :
    IsSentence kinds := by
  obtain ⟨inner, rfl, taken⟩ := exists_of_run?_eq_finished ran
  obtain ⟨expr, derived⟩ := exists_derives_of_run? taken
  have readable : ∀ lexeme ∈ inner.map TokenKind.sample, lexeme.IsReadable := by
    rw [List.forall_mem_map]
    intro kind member
    exact TokenKind.isReadable_sample fun same =>
      finish_notMem_of_run? taken (by simp) (same ▸ member)
  let source := String.ofList (Lexeme.characters (inner.map TokenKind.sample))
  have written : source.toList = Lexeme.characters (inner.map TokenKind.sample) :=
    String.toList_ofList
  obtain ⟨tokens, scanned, spelled⟩ :=
    Token.ofSource_eq_ok_of_characters readable derived.separated written
  refine ⟨source, _, expr, scanned, parse_of_derives derived readable written, ?_⟩
  have kinds := congrArg (List.map Lexeme.kind) spelled
  rw [List.map_map, List.map_map] at kinds
  rw [List.map_append, List.map_singleton]
  exact congrArg (· ++ [TokenKind.finish]) (kinds.trans (TokenKind.map_kind_sample inner))

/-- Kinds are viable exactly when all of them may stand in their places. -/
theorem isViable_iff {kinds : List TokenKind} :
    IsViable kinds ↔ ∃ reached, (due 0).run? kinds = some reached := by
  constructor
  · rintro ⟨rest, sentence⟩
    have ran := run?_of_isSentence sentence
    rw [run?_append, Option.bind_eq_some_iff] at ran
    obtain ⟨reached, taken, _⟩ := ran
    exact ⟨reached, taken⟩
  · rintro ⟨reached, taken⟩
    refine ⟨reached.completion, isSentence_of_run? ?_⟩
    rw [run?_append_of_some taken]
    exact run?_completion reached

/-- The last token alone decides whether an operand is complete. -/
theorem endsWithOperand_concat_iff {kinds : List TokenKind} {kind : TokenKind} :
    EndsWithOperand (kinds ++ [kind]) ↔
      kind = .number ∨ kind = .identifier ∨ kind = .closing := by
  rw [EndsWithOperand, List.getLast?_concat]
  simp

end Expr

namespace Progress

/-- The progress tells whether an operand is complete and how many groups are open. -/
def Summarizes (kinds : List TokenKind) : Progress → Prop
  | .due depth => ¬ Expr.EndsWithOperand kinds ∧
      kinds.count .opening = kinds.count .closing + depth
  | .complete depth => Expr.EndsWithOperand kinds ∧
      kinds.count .opening = kinds.count .closing + depth
  | .finished => True

/-- A token that is taken keeps the summary. -/
theorem Summarizes.next {kinds : List TokenKind} {kind : TokenKind} {progress next : Progress}
    (summary : progress.Summarizes kinds) (taken : progress.next? kind = some next) :
    next.Summarizes (kinds ++ [kind]) := by
  cases progress with
  | due depth =>
      obtain ⟨_, balanced⟩ := summary
      cases kind <;> simp only [next?, Option.some.injEq, reduceCtorEq] at taken
      case symbol operator =>
        rw [Option.ite_none_right_eq_some, Option.some.injEq] at taken
        rw [← taken.2]
        exact ⟨by simp [Expr.endsWithOperand_concat_iff], by simpa using balanced⟩
      all_goals
        rw [← taken]
        refine ⟨by simp [Expr.endsWithOperand_concat_iff], ?_⟩
        simp only [List.count_append, List.count_singleton, beq_iff_eq, reduceCtorEq, ↓reduceIte]
        omega
  | complete depth =>
      obtain ⟨_, balanced⟩ := summary
      cases depth <;> cases kind <;> simp only [next?, Option.some.injEq, reduceCtorEq] at taken
      case zero.finish =>
        rw [← taken]
        trivial
      all_goals
        rw [← taken]
        refine ⟨by simp [Expr.endsWithOperand_concat_iff], ?_⟩
        simp only [List.count_append, List.count_singleton, beq_iff_eq, reduceCtorEq, ↓reduceIte]
        omega
  | finished => simp [next?] at taken

theorem summarizes_of_run? {kinds : List TokenKind} {reached : Progress}
    (ran : (due 0).run? kinds = some reached) : reached.Summarizes kinds := by
  induction kinds using List.reverseRecOn generalizing reached with
  | nil =>
      rw [run?_nil, Option.some.injEq] at ran
      rw [← ran]
      exact ⟨by simp [Expr.EndsWithOperand], rfl⟩
  | append_singleton kinds kind inductionHypothesis =>
      obtain ⟨before, taken, last⟩ := run?_concat_eq_some_iff.mp ran
      exact (inductionHypothesis taken).next last

end Progress

namespace Expr

open Progress

/-- A token is misplaced when the tokens before it are viable and it is not viable behind them. -/
theorem not_isViable_concat {kinds : List TokenKind} {kind : TokenKind} {reached : Progress}
    (ran : (due 0).run? kinds = some reached) (refused : reached.next? kind = none) :
    ¬ IsViable (kinds ++ [kind]) := by
  rw [isViable_iff]
  rintro ⟨next, taken⟩
  obtain ⟨before, same, last⟩ := run?_concat_eq_some_iff.mp taken
  rw [ran, Option.some.injEq] at same
  rw [same, last] at refused
  simp at refused

theorem isOperandDue_iff {kinds : List TokenKind} {reached : Progress}
    (ran : (due 0).run? kinds = some reached) :
    IsOperandDue kinds ↔ ∃ depth, reached = due depth := by
  rw [IsOperandDue, isViable_iff]
  constructor
  · rintro ⟨next, taken⟩
    obtain ⟨before, same, last⟩ := run?_concat_eq_some_iff.mp taken
    rw [ran, Option.some.injEq] at same
    subst same
    cases reached with
    | due depth => exact ⟨depth, rfl⟩
    | complete depth => cases depth <;> simp [next?] at last
    | finished => simp [next?] at last
  · rintro ⟨depth, rfl⟩
    exact ⟨complete depth, run?_concat_eq_some_iff.mpr ⟨due depth, ran, rfl⟩⟩

theorem hasOpenGroup_iff {kinds : List TokenKind} {depth : Nat}
    (balanced : kinds.count .opening = kinds.count .closing + depth) :
    HasOpenGroup kinds ↔ depth ≠ 0 := by
  rw [HasOpenGroup]
  omega

/-- The message starts with what should stand in the place of the token that was found. -/
structure Explains (kinds : List TokenKind) (lead : String) : Prop where
  operand : lead = "Unexpected token " ↔ IsOperandDue kinds
  closing : lead = "Expected RParen but found " ↔ EndsWithOperand kinds ∧ HasOpenGroup kinds
  finish : lead = "Expected End but found " ↔ EndsWithOperand kinds ∧ ¬ HasOpenGroup kinds
  listed : lead ∈ ["Unexpected token ", "Expected RParen but found ", "Expected End but found "]

/-- The mismatch that is reported explains what is missing. -/
theorem explains_of_run? {kinds : List TokenKind} {reached : Progress} {found : Token}
    {mismatch : Mismatch} (ran : (due 0).run? kinds = some reached)
    (reported : reached.mismatch? found = some mismatch) :
    mismatch.found = found ∧ ∃ lead, Explains kinds lead ∧ ∀ source,
      mismatch.message source = lead ++ found.kind.name ++
        (" at position " ++ found.position.repr ++ " in '" ++ source ++ "'") := by
  have summary := summarizes_of_run? ran
  have operandDue := isOperandDue_iff ran
  cases reached with
  | finished => simp [mismatch?] at reported
  | due depth =>
      obtain ⟨bare, balanced⟩ := summary
      obtain rfl := Option.some.inj reported
      refine ⟨rfl, "Unexpected token ", ⟨?_, ?_, ?_, by decide⟩, fun source => rfl⟩
      · simp [operandDue]
      · simp [bare]
      · simp [bare]
  | complete depth =>
      obtain ⟨ends, balanced⟩ := summary
      obtain rfl := Option.some.inj reported
      have openGroup := hasOpenGroup_iff balanced
      cases depth with
      | zero =>
          refine ⟨rfl, "Expected End but found ", ⟨?_, ?_, ?_, by decide⟩, fun source => rfl⟩
          · simp [operandDue]
          · simp [openGroup]
          · simp [openGroup, ends]
      | succ depth =>
          refine ⟨rfl, "Expected RParen but found ", ⟨?_, ?_, ?_, by decide⟩, fun source => rfl⟩
          · simp [operandDue]
          · simp [openGroup, ends]
          · simp [openGroup]

/-- The error of a source with tokens is a mismatch among them. -/
theorem isRejected_of_parse {source : String} {tokens : List Token} {error : Error}
    (scanned : Token.ofSource source = .ok tokens) (failure : parse source = .error error) :
    ∃ mismatch, error = .misplacedToken mismatch source ∧
      (due 0).IsRejected source.utf8ByteSize tokens mismatch := by
  rw [parse, Reader.ofSource, scanned] at failure
  change Except.mapError _ (readWhole source.utf8ByteSize tokens).result = _ at failure
  cases found : (readWhole source.utf8ByteSize tokens).outcome with
  | mk result rest =>
      have same : (readWhole source.utf8ByteSize tokens).result = result := congrArg Prod.fst found
      rw [same] at failure
      cases result with
      | ok expr => simp [Except.mapError] at failure
      | error mismatch =>
          simp only [Except.mapError, Except.error.injEq] at failure
          exact ⟨mismatch, failure.symm, isRejected_of_readWhole found⟩

/-- A source without tokens is not read any further. -/
theorem parse_of_ofSource_eq_error {source : String} {error : Error}
    (failure : Token.ofSource source = .error error) :
    parse source = .error error ∧ error.phase = .lexing := by
  obtain ⟨before, behind, _, defect, _⟩ := Token.exists_defect_of_ofSource failure
  refine ⟨?_, defect.phase_eq⟩
  rw [parse, Reader.ofSource, failure]
  rfl

/-- An expression that is not read has a defect in its tokens or in their order. -/
theorem phase_of_parse {source : String} {error : Error} (failure : parse source = .error error) :
    error.phase = .lexing ∨ error.phase = .parsing := by
  cases scanned : Token.ofSource source with
  | error defect =>
      obtain ⟨failed, phase⟩ := parse_of_ofSource_eq_error scanned
      rw [failed] at failure
      exact .inl (Except.error.inj failure ▸ phase)
  | ok tokens =>
      obtain ⟨mismatch, rfl, _⟩ := isRejected_of_parse scanned failure
      exact .inr rfl

/-- The end of the source is the last token that can be misplaced. -/
theorem exists_found_of_isRejected {stop : Nat} {inner : List Token} {mismatch : Mismatch}
    (rejected : (due 0).IsRejected stop (inner ++ [Token.finish stop]) mismatch) :
    ∃ before found behind reached, inner ++ [Token.finish stop] = before ++ found :: behind ∧
      (due 0).run? (before.map Token.kind) = some reached ∧ reached.next? found.kind = none ∧
      reached.mismatch? found = some mismatch := by
  obtain ⟨before, behind, reached, split, ran, refused, reported⟩ := rejected
  cases behind with
  | cons found behind => exact ⟨before, found, behind, reached, split, ran, refused, reported⟩
  | nil =>
      rw [List.append_nil] at split
      rw [← split, List.map_append, List.map_singleton] at ran
      obtain ⟨_, _, last⟩ := run?_concat_eq_some_iff.mp ran
      rw [next?_finish last] at reported
      simp [mismatch?] at reported

end Expr

end TraceCalc
