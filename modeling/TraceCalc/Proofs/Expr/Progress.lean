/-
This file follows the reading of an expression by what may come next.
-/

import TraceCalc.Proofs.Expr.Recognition

namespace TraceCalc

/--
An operand is due or complete behind the tokens that were taken, or the source has ended. The depth
counts the groups that are still open.
-/
inductive Progress where
  | due (depth : Nat)
  | complete (depth : Nat)
  | finished
  deriving DecidableEq, Repr

namespace Progress

/-- A token of this kind is taken if it may stand here. -/
def next? : Progress → TokenKind → Option Progress
  | .due depth, .number => some (.complete depth)
  | .due depth, .identifier => some (.complete depth)
  | .due depth, .symbol operator => if operator.isSign then some (.due depth) else none
  | .due depth, .opening => some (.due (depth + 1))
  | .complete depth, .symbol _ => some (.due depth)
  | .complete (depth + 1), .closing => some (.complete depth)
  | .complete 0, .finish => some .finished
  | _, _ => none

/-- The tokens are taken from left to right. -/
def run? (progress : Progress) : List TokenKind → Option Progress
  | [] => some progress
  | kind :: rest => (progress.next? kind).bind (run? · rest)

/-- Open groups are closed before the source ends. -/
def awaited : Nat → TokenKind
  | 0 => .finish
  | _ + 1 => .closing

/-- A token that may not stand here is reported as this mismatch. -/
def mismatch? : Progress → Token → Option Mismatch
  | .due _, found => some (.operand found)
  | .complete depth, found => some (.token (awaited depth) found)
  | .finished, _ => none

/-- The mismatch names the token that was found. -/
theorem found_of_mismatch? {progress : Progress} {found : Token} {mismatch : Mismatch}
    (reported : progress.mismatch? found = some mismatch) : mismatch.found = found := by
  cases progress with
  | due depth | complete depth =>
      rw [mismatch?, Option.some.injEq] at reported
      rw [← reported, Mismatch.found]
  | finished => simp [mismatch?] at reported

/-- Behind an operand, only an operator and the awaited token are admitted. -/
theorem next?_complete_eq_none {depth : Nat} {kind : TokenKind} (different : kind ≠ awaited depth)
    (notSymbol : ∀ operator, kind ≠ .symbol operator) : (complete depth).next? kind = none := by
  cases depth <;> cases kind <;> simp_all [next?, awaited]

@[simp] theorem run?_nil (progress : Progress) : progress.run? [] = some progress := rfl

theorem run?_cons (progress : Progress) (kind : TokenKind) (rest : List TokenKind) :
    progress.run? (kind :: rest) = (progress.next? kind).bind (run? · rest) := rfl

theorem run?_append (progress : Progress) (first second : List TokenKind) :
    progress.run? (first ++ second) = (progress.run? first).bind (run? · second) := by
  induction first generalizing progress with
  | nil => rfl
  | cons kind rest inductionHypothesis =>
      rw [List.cons_append, run?_cons, run?_cons]
      cases progress.next? kind with
      | none => rfl
      | some next => exact inductionHypothesis next

theorem run?_append_of_some {progress reached : Progress} {first : List TokenKind}
    (taken : progress.run? first = some reached) (second : List TokenKind) :
    progress.run? (first ++ second) = reached.run? second := by
  rw [run?_append, taken, Option.bind_some]

/-- A sentence of the grammar takes the place of the operand that is due. -/
theorem run?_of_derives {category : Category} {lexemes : List Lexeme} {expr : Expr}
    (derived : Derives category lexemes expr) (depth : Nat) :
    (due depth).run? (lexemes.map Lexeme.kind) = some (complete depth) := by
  induction derived generalizing depth with
  | number digits value => rfl
  | identifier name => rfl
  | signed sign _ inner =>
      rw [List.map_cons, run?_cons]
      rcases sign with rfl | rfl <;> exact inner depth
  | group _ inner =>
      rw [List.map_cons, List.map_append, run?_cons]
      exact run?_append_of_some (inner (depth + 1)) _
  | ofFactor _ inner => exact inner depth
  | ofProduct _ inner => exact inner depth
  | product _ _ _ before behind =>
      rw [List.map_append, List.map_cons, run?_append_of_some (before depth)]
      exact behind depth
  | sum _ _ _ before behind =>
      rw [List.map_append, List.map_cons, run?_append_of_some (before depth)]
      exact behind depth

/--
The tokens are taken up to the first one that may not stand in its place. Behind the last token,
the end of the source is found.
-/
def IsRejected (stop : Nat) (progress : Progress) (tokens : List Token) (mismatch : Mismatch) :
    Prop :=
  ∃ before behind reached, tokens = before ++ behind ∧
    progress.run? (before.map Token.kind) = some reached ∧
    reached.next? (behind.headD (Token.finish stop)).kind = none ∧
    reached.mismatch? (behind.headD (Token.finish stop)) = some mismatch

/-- The tokens are rejected, and only those behind the one that may not stand there are left. -/
def StopsAt (stop : Nat) (progress : Progress) (tokens : List Token) (mismatch : Mismatch)
    (rest : List Token) : Prop :=
  ∃ before behind reached, tokens = before ++ behind ∧
    progress.run? (before.map Token.kind) = some reached ∧
    reached.next? (behind.headD (Token.finish stop)).kind = none ∧
    reached.mismatch? (behind.headD (Token.finish stop)) = some mismatch ∧ rest = behind.tail

namespace StopsAt

variable {stop : Nat} {progress next : Progress} {tokens rest : List Token} {mismatch : Mismatch}

/-- The next token is the one that may not stand in its place. -/
theorem head (refused : progress.next? (tokens.headD (Token.finish stop)).kind = none)
    (reported : progress.mismatch? (tokens.headD (Token.finish stop)) = some mismatch) :
    progress.StopsAt stop tokens mismatch tokens.tail :=
  ⟨[], tokens, progress, rfl, rfl, refused, reported, rfl⟩

/-- Tokens that may stand in their places come before the one that may not. -/
theorem append {taken : List Token} (admitted : progress.run? (taken.map Token.kind) = some next)
    (stops : next.StopsAt stop tokens mismatch rest) :
    progress.StopsAt stop (taken ++ tokens) mismatch rest := by
  obtain ⟨before, behind, reached, rfl, ran, refused, reported, left⟩ := stops
  refine ⟨taken ++ before, behind, reached, (List.append_assoc _ _ _).symm, ?_, refused, reported,
    left⟩
  rw [List.map_append, run?_append_of_some admitted, ran]

theorem cons {token : Token} (admitted : progress.next? token.kind = some next)
    (stops : next.StopsAt stop tokens mismatch rest) :
    progress.StopsAt stop (token :: tokens) mismatch rest := by
  have single : progress.run? ([token].map Token.kind) = some next := by
    rw [List.map_singleton, run?_cons, admitted]
    rfl
  exact stops.append single

theorem isRejected (stops : progress.StopsAt stop tokens mismatch rest) :
    progress.IsRejected stop tokens mismatch := by
  obtain ⟨before, behind, reached, split, ran, refused, reported, _⟩ := stops
  exact ⟨before, behind, reached, split, ran, refused, reported⟩

end StopsAt

end Progress

namespace Expr

open Progress

/-- What was read takes the place of the operand that is due. -/
theorem IsReadBefore.exists_run? {category : Category} {tokens rest : List Token} {expr : Expr}
    (read : IsReadBefore category tokens expr rest) :
    ∃ consumed, tokens = consumed ++ rest ∧
      ∀ depth, (due depth).run? (consumed.map Token.kind) = some (complete depth) := by
  obtain ⟨consumed, split, derived⟩ := read
  refine ⟨consumed, split, fun depth => ?_⟩
  have ran := run?_of_derives derived depth
  rwa [List.map_map] at ran

/-- Where reading stops, no operator follows. -/
theorem kind_ne_symbol_of_not_continuesAbove {stop : Nat} {tokens : List Token}
    (stopped : ¬ ContinuesAbove Precedence.lowest tokens) (operator : Operator) :
    (tokens.headD (Token.finish stop)).kind ≠ .symbol operator := by
  cases tokens with
  | nil => simp [Token.finish, Token.kind, Lexeme.kind]
  | cons token rest =>
      intro symbol
      exact stopped (ContinuesAbove.cons_iff.mpr
        ⟨operator, Lexeme.kind_eq_symbol_iff.mp symbol, operator.lowest_lt_precedence⟩)

section Rejection

variable {stop : Nat}

mutual

/-- An operand stops at the first token that may not stand in its place. -/
theorem stopsAt_of_readOperand {depth : Nat} {tokens rest : List Token} {mismatch : Mismatch}
    (failure : (readOperand stop tokens).outcome = (.error mismatch, rest)) :
    (due depth).StopsAt stop tokens mismatch rest := by
  cases tokens with
  | nil =>
      rw [outcome_readOperand_nil] at failure
      simp only [Prod.mk.injEq, Except.error.injEq] at failure
      obtain ⟨rfl, rfl⟩ := failure
      exact .head rfl rfl
  | cons token remaining =>
      rw [outcome_readOperand_cons] at failure
      cases lexeme : token.lexeme with
      | number digits value => simp [lexeme] at failure
      | identifier name => simp [lexeme] at failure
      | symbol operator =>
          simp only [lexeme] at failure
          by_cases sign : operator.isSign = true
          · rw [if_pos sign] at failure
            have admitted : (due depth).next? token.kind = some (due depth) := by
              rw [Token.kind, lexeme, Lexeme.kind, next?, if_pos sign]
            exact .cons admitted (stopsAt_of_readSigned failure)
          · simp only [if_neg sign, Prod.mk.injEq, Except.error.injEq] at failure
            obtain ⟨rfl, rfl⟩ := failure
            refine .head ?_ rfl
            rw [List.headD_cons, Token.kind, lexeme, Lexeme.kind, next?, if_neg sign]
      | opening =>
          simp only [lexeme] at failure
          have admitted : (due depth).next? token.kind = some (due (depth + 1)) := by
            rw [Token.kind, lexeme, Lexeme.kind, next?]
          exact .cons admitted (stopsAt_of_readGroup failure)
      | closing | finish =>
          simp only [lexeme, Prod.mk.injEq, Except.error.injEq] at failure
          obtain ⟨rfl, rfl⟩ := failure
          refine .head ?_ rfl
          rw [List.headD_cons, Token.kind, lexeme, Lexeme.kind]
          rfl
  termination_by (tokens.length, 0)

/-- The operand of a sign stops like an operand without one. -/
theorem stopsAt_of_readSigned {depth : Nat} {operator : Operator} {tokens rest : List Token}
    {mismatch : Mismatch}
    (failure : (readSigned stop operator tokens).outcome = (.error mismatch, rest)) :
    (due depth).StopsAt stop tokens mismatch rest := by
  rw [readSigned, Step.outcome_map_eq_error_iff] at failure
  exact stopsAt_of_readAbove failure
  termination_by (tokens.length, 2)

/-- A group stops inside or where it should be closed. -/
theorem stopsAt_of_readGroup {depth : Nat} {tokens rest : List Token} {mismatch : Mismatch}
    (failure : (readGroup stop tokens).outcome = (.error mismatch, rest)) :
    (due (depth + 1)).StopsAt stop tokens mismatch rest := by
  rw [readGroup, Step.outcome_map_eq_error_iff] at failure
  exact stopsAt_of_expect failure
  termination_by (tokens.length, 3)

/-- An expression stops inside or where the awaited token should follow. -/
theorem stopsAt_of_expect {depth : Nat} {tokens rest : List Token} {mismatch : Mismatch}
    (failure : ((readAbove stop Precedence.lowest tokens).expect stop (awaited depth)).outcome =
      (.error mismatch, rest)) :
    (due depth).StopsAt stop tokens mismatch rest := by
  rcases Step.outcome_expect_eq_error_iff.mp failure with
    inside | ⟨expr, remaining, found, different, rfl, rfl⟩
  · exact stopsAt_of_readAbove inside
  · obtain ⟨read, stopped⟩ := isReadBefore_of_readAbove found
    obtain ⟨consumed, rfl, ran⟩ := read.exists_run?
    have refused := next?_complete_eq_none different (kind_ne_symbol_of_not_continuesAbove stopped)
    exact (StopsAt.head refused rfl).append (ran depth)
  termination_by (tokens.length, 2)

/-- An expression stops in its first operand or behind it. -/
theorem stopsAt_of_readAbove {depth least : Nat} {tokens rest : List Token} {mismatch : Mismatch}
    (failure : (readAbove stop least tokens).outcome = (.error mismatch, rest)) :
    (due depth).StopsAt stop tokens mismatch rest := by
  rw [outcome_readAbove] at failure
  cases found : (readOperand stop tokens).outcome with
  | mk result remaining =>
      cases result with
      | error cause =>
          simp only [found, Prod.mk.injEq, Except.error.injEq] at failure
          obtain ⟨rfl, rfl⟩ := failure
          exact stopsAt_of_readOperand found
      | ok left =>
          simp only [found] at failure
          obtain ⟨consumed, rfl, ran⟩ := (isReadBefore_of_readOperand found).exists_run?
          have shorter := length_lt_of_outcome found
          exact (stopsAt_of_continueAbove failure).append (ran depth)
  termination_by (tokens.length, 1)

/-- Behind an operand, the right operand of an operator stops or what follows it. -/
theorem stopsAt_of_continueAbove {depth least : Nat} {tokens rest : List Token}
    {mismatch : Mismatch} {left : Expr}
    (failure : continueAbove stop least left tokens = (.error mismatch, rest)) :
    (complete depth).StopsAt stop tokens mismatch rest := by
  by_cases continues : ContinuesAbove least tokens
  · obtain ⟨token, operator, first, symbol, tight⟩ := continues
    obtain ⟨remaining, rfl⟩ : ∃ remaining, tokens = token :: remaining := by
      cases tokens with
      | nil => simp at first
      | cons head remaining => exact ⟨remaining, by simpa using first⟩
    rw [continueAbove_of_some (Token.infixAbove?_eq_some_iff.mpr ⟨symbol, tight⟩)] at failure
    have admitted : (complete depth).next? token.kind = some (due depth) := by
      rw [Token.kind, symbol, Lexeme.kind, next?]
    refine .cons admitted ?_
    cases found : (readAbove stop operator.precedence remaining).outcome with
    | mk result behind =>
        cases result with
        | error cause =>
            simp only [found, Prod.mk.injEq, Except.error.injEq] at failure
            obtain ⟨rfl, rfl⟩ := failure
            exact stopsAt_of_readAbove found
        | ok right =>
            -- The right operand completes a longer left one, behind which the loop goes on.
            simp only [found] at failure
            obtain ⟨consumed, rfl, ran⟩ := (isReadBefore_of_readAbove found).1.exists_run?
            have shorter := length_lt_of_outcome found
            exact (stopsAt_of_continueAbove failure).append (ran depth)
  · rw [continueAbove_of_not continues] at failure
    simp at failure
  termination_by (tokens.length, 0)

end

/-- A whole expression is rejected inside or where the source should end. -/
theorem isRejected_of_readWhole {tokens rest : List Token} {mismatch : Mismatch}
    (failure : (readWhole stop tokens).outcome = (.error mismatch, rest)) :
    (due 0).IsRejected stop tokens mismatch := by
  have stops : (due 0).StopsAt stop tokens mismatch rest := stopsAt_of_expect failure
  exact stops.isRejected

end Rejection

end Expr

end TraceCalc
