/-
This file states what each reading step makes of the first token, without the bounds of the steps.
-/

import TraceCalc.Expr.Reader

namespace TraceCalc

theorem Lexeme.kind_eq_finish_iff {lexeme : Lexeme} :
    lexeme.kind = .finish ↔ lexeme = .finish := by
  cases lexeme <;> simp [kind]

theorem Lexeme.kind_eq_symbol_iff {lexeme : Lexeme} {operator : Operator} :
    lexeme.kind = .symbol operator ↔ lexeme = .symbol operator := by
  cases lexeme <;> simp [kind]

theorem Lexeme.kind_eq_closing_iff {lexeme : Lexeme} :
    lexeme.kind = .closing ↔ lexeme = .closing := by
  cases lexeme <;> simp [kind]

namespace Step

/-- The outcome is what the step found and the tokens that it left. -/
def outcome {bound : Nat} (step : Step bound) : Except Mismatch Expr × List Token :=
  (step.result, step.rest)

@[simp] theorem outcome_accepted {bound : Nat} (expr : Expr) (rest : List Token)
    (shorter : rest.length < bound) : (accepted expr rest shorter).outcome = (.ok expr, rest) :=
  rfl

@[simp] theorem outcome_rejected {bound : Nat} (mismatch : Mismatch) (rest : List Token) :
    (rejected mismatch rest : Step bound).outcome = (.error mismatch, rest) := rfl

@[simp] theorem outcome_weaken {small large : Nat} (within : small ≤ large) (step : Step small) :
    (step.weaken within).outcome = step.outcome := by
  cases step <;> rfl

/-- A change of the expression leaves the tokens and every mismatch as they are. -/
theorem outcome_map {bound : Nat} (change : Expr → Expr) (step : Step bound) :
    (step.map change).outcome = (step.outcome.1.map change, step.outcome.2) := by
  cases step <;> rfl

/-- Behind the last token, only the end of the source is found. -/
theorem outcome_expect {bound : Nat} (stop : Nat) (kind : TokenKind) (step : Step bound) :
    (step.expect stop kind).outcome =
      match step.outcome with
      | (.error mismatch, rest) => (.error mismatch, rest)
      | (.ok expr, rest) =>
          if (rest.headD (Token.finish stop)).kind = kind then (.ok expr, rest.tail)
          else (.error (.token kind (rest.headD (Token.finish stop))), rest.tail) := by
  cases step with
  | rejected mismatch rest => rfl
  | accepted expr rest shorter =>
      cases rest with
      | nil =>
          by_cases wanted : kind = .finish
          · subst wanted
            rfl
          · have missed : ¬ (Token.finish stop).kind = kind := fun same => wanted same.symm
            simp [expect, wanted, missed]
      | cons token rest =>
          by_cases wanted : token.kind = kind <;> simp [expect, wanted]

variable {bound : Nat} {step : Step bound} {expr : Expr} {rest : List Token}

theorem outcome_map_eq_ok_iff {change : Expr → Expr} :
    (step.map change).outcome = (.ok expr, rest) ↔
      ∃ inner, step.outcome = (.ok inner, rest) ∧ change inner = expr := by
  cases step with
  | rejected mismatch remaining => simp [map]
  | accepted inner remaining shorter =>
      simp only [map, outcome_accepted, Prod.mk.injEq, Except.ok.injEq]
      constructor
      · rintro ⟨changed, same⟩
        exact ⟨inner, ⟨rfl, same⟩, changed⟩
      · rintro ⟨_, ⟨rfl, same⟩, changed⟩
        exact ⟨changed, same⟩

theorem outcome_map_eq_error_iff {change : Expr → Expr} {mismatch : Mismatch} :
    (step.map change).outcome = (.error mismatch, rest) ↔
      step.outcome = (.error mismatch, rest) := by
  cases step with
  | rejected found remaining => simp [map]
  | accepted inner remaining shorter => simp [map]

/-- The wanted token stood before the tokens that are left, if any token did. -/
theorem outcome_expect_eq_ok_iff {stop : Nat} {kind : TokenKind} :
    (step.expect stop kind).outcome = (.ok expr, rest) ↔
      ∃ tokens, step.outcome = (.ok expr, tokens) ∧
        (tokens.headD (Token.finish stop)).kind = kind ∧ tokens.tail = rest := by
  rw [outcome_expect]
  cases step with
  | rejected mismatch remaining => simp
  | accepted inner remaining shorter =>
      simp only [outcome_accepted]
      by_cases wanted : (remaining.headD (Token.finish stop)).kind = kind
      · rw [if_pos wanted]
        constructor
        · intro same
          simp only [Prod.mk.injEq, Except.ok.injEq] at same
          exact ⟨remaining, by rw [same.1], wanted, same.2⟩
        · rintro ⟨tokens, same, _, tail⟩
          simp only [Prod.mk.injEq, Except.ok.injEq] at same
          rw [same.1, same.2, tail]
      · rw [if_neg wanted]
        constructor
        · intro same
          simp at same
        · rintro ⟨tokens, same, found, _⟩
          simp only [Prod.mk.injEq, Except.ok.injEq] at same
          exact absurd (same.2 ▸ found) wanted

/-- Either the step failed, or another token was found than the wanted one. -/
theorem outcome_expect_eq_error_iff {stop : Nat} {kind : TokenKind} {mismatch : Mismatch} :
    (step.expect stop kind).outcome = (.error mismatch, rest) ↔
      step.outcome = (.error mismatch, rest) ∨
        ∃ expr tokens, step.outcome = (.ok expr, tokens) ∧
          (tokens.headD (Token.finish stop)).kind ≠ kind ∧
          mismatch = .token kind (tokens.headD (Token.finish stop)) ∧ tokens.tail = rest := by
  rw [outcome_expect]
  cases step with
  | rejected found remaining => simp
  | accepted inner remaining shorter =>
      simp only [outcome_accepted]
      by_cases wanted : (remaining.headD (Token.finish stop)).kind = kind
      · rw [if_pos wanted]
        constructor
        · intro same
          simp at same
        · rintro (same | ⟨expr, tokens, same, missed, _⟩)
          · simp at same
          · simp only [Prod.mk.injEq, Except.ok.injEq] at same
            exact absurd (same.2 ▸ wanted) missed
      · rw [if_neg wanted]
        constructor
        · intro same
          simp only [Prod.mk.injEq, Except.error.injEq] at same
          exact .inr ⟨inner, remaining, rfl, wanted, same.1.symm, same.2⟩
        · rintro (same | ⟨expr, tokens, same, _, rfl, tail⟩)
          · simp at same
          · simp only [Prod.mk.injEq, Except.ok.injEq] at same
            rw [same.2, tail]

end Step

namespace Expr

variable {stop : Nat} {least : Precedence} {left : Expr} {token : Token} {rest : List Token}

theorem outcome_readSigned (operator : Operator) (tokens : List Token) :
    (readSigned stop operator tokens).outcome =
      ((readAbove stop Precedence.sign tokens).outcome.1.map (.unary false operator),
        (readAbove stop Precedence.sign tokens).outcome.2) := by
  rw [readSigned, Step.outcome_map]

theorem outcome_readGroup (tokens : List Token) :
    (readGroup stop tokens).outcome =
      (((readAbove stop Precedence.lowest tokens).expect stop .closing).outcome.1.map group,
        ((readAbove stop Precedence.lowest tokens).expect stop .closing).outcome.2) := by
  rw [readGroup, Step.outcome_map]

theorem outcome_readOperand_nil :
    (readOperand stop []).outcome = (.error (.operand (Token.finish stop)), []) := by
  rw [readOperand, Step.outcome_rejected]

/-- The first token decides how an operand is read. -/
theorem outcome_readOperand_cons (stop : Nat) (token : Token) (rest : List Token) :
    (readOperand stop (token :: rest)).outcome =
      match token.lexeme with
      | .number _ value => (.ok (.number false value), rest)
      | .identifier name => (.ok (.reference false name), rest)
      | .symbol operator =>
          if operator.isSign then (readSigned stop operator rest).outcome
          else (.error (.operand token), rest)
      | .opening => (readGroup stop rest).outcome
      | .closing | .finish => (.error (.operand token), rest) := by
  rw [readOperand]
  cases token.lexeme with
  | symbol operator => by_cases sign : operator.isSign = true <;> simp [sign]
  | _ => simp

theorem length_lt_succ (tokens : List Token) : tokens.length < tokens.length + 1 :=
  Nat.lt_succ_self tokens.length

/-- An operator and the operand after it are taken as long as they bind tight enough. -/
def continueAbove (stop : Nat) (least : Precedence) (left : Expr) (tokens : List Token) :
    Except Mismatch Expr × List Token :=
  (readInfix stop least left tokens (length_lt_succ tokens)).outcome

theorem outcome_readInfix_nil {bound : Nat} (within : [].length < bound) :
    (readInfix stop least left [] within).outcome = (.ok left, []) := by
  rw [readInfix, Step.outcome_accepted]

theorem outcome_readInfix_of_none {bound : Nat} (within : (token :: rest).length < bound)
    (loose : token.infixAbove? least = none) :
    (readInfix stop least left (token :: rest) within).outcome = (.ok left, token :: rest) := by
  rw [readInfix]
  simp only [loose, Step.outcome_accepted]

theorem outcome_readInfix_of_some {bound : Nat} (within : (token :: rest).length < bound)
    {operator : Operator} (tight : token.infixAbove? least = some operator) :
    (readInfix stop least left (token :: rest) within).outcome =
      match readAbove stop operator.precedence rest with
      | .rejected mismatch remaining => (.error mismatch, remaining)
      | .accepted right remaining shorter =>
          (readInfix stop least (.binary false operator operator.precedence left right) remaining
            (Nat.lt_trans shorter (Nat.lt_of_succ_lt within))).outcome := by
  rw [readInfix]
  simp only [tight]
  cases readAbove stop operator.precedence rest <;> rfl

/-- The bound of a step has no part in its outcome. -/
theorem outcome_readInfix {bound : Nat} (tokens : List Token) (within : tokens.length < bound) :
    (readInfix stop least left tokens within).outcome = continueAbove stop least left tokens := by
  induction total : tokens.length using Nat.strongRecOn generalizing tokens left bound with
  | ind count inductionHypothesis =>
      rw [continueAbove]
      cases tokens with
      | nil => rw [outcome_readInfix_nil, outcome_readInfix_nil]
      | cons token rest =>
          cases found : token.infixAbove? least with
          | none => rw [outcome_readInfix_of_none within found, outcome_readInfix_of_none _ found]
          | some operator =>
              rw [outcome_readInfix_of_some within found, outcome_readInfix_of_some _ found]
              cases readAbove stop operator.precedence rest with
              | rejected mismatch remaining => rfl
              | accepted right remaining shorter =>
                  have smaller : remaining.length < count := by
                    rw [List.length_cons] at total
                    omega
                  exact (inductionHypothesis _ smaller _ _ rfl).trans
                    (inductionHypothesis _ smaller _ _ rfl).symm

theorem continueAbove_nil (stop : Nat) (least : Precedence) (left : Expr) :
    continueAbove stop least left [] = (.ok left, []) :=
  outcome_readInfix_nil _

theorem continueAbove_of_none (loose : token.infixAbove? least = none) :
    continueAbove stop least left (token :: rest) = (.ok left, token :: rest) :=
  outcome_readInfix_of_none _ loose

theorem continueAbove_of_some {operator : Operator}
    (tight : token.infixAbove? least = some operator) :
    continueAbove stop least left (token :: rest) =
      match (readAbove stop operator.precedence rest).outcome with
      | (.error mismatch, remaining) => (.error mismatch, remaining)
      | (.ok right, remaining) =>
          continueAbove stop least (.binary false operator operator.precedence left right)
            remaining := by
  rw [continueAbove, outcome_readInfix_of_some _ tight]
  cases readAbove stop operator.precedence rest with
  | rejected mismatch remaining => rfl
  | accepted right remaining shorter => exact outcome_readInfix _ _

/-- An expression starts with an operand. -/
theorem outcome_readAbove (stop : Nat) (least : Precedence) (tokens : List Token) :
    (readAbove stop least tokens).outcome =
      match (readOperand stop tokens).outcome with
      | (.error mismatch, rest) => (.error mismatch, rest)
      | (.ok left, rest) => continueAbove stop least left rest := by
  rw [readAbove]
  cases readOperand stop tokens with
  | rejected mismatch rest => rfl
  | accepted left rest shorter => exact outcome_readInfix _ _

/-- A step that succeeds leaves fewer tokens. -/
theorem length_lt_of_outcome {bound : Nat} {step : Step bound} {expr : Expr}
    (success : step.outcome = (.ok expr, rest)) : rest.length < bound := by
  cases step with
  | rejected mismatch remaining => simp at success
  | accepted found remaining shorter =>
      simp only [Step.outcome_accepted, Prod.mk.injEq] at success
      exact success.2 ▸ shorter

end Expr

end TraceCalc
