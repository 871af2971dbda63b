/-
This file reads expressions from tokens by precedence.
-/

import TraceCalc.Expr
import TraceCalc.Token.Scan

namespace TraceCalc

/-- A step keeps the tokens that it leaves; if it succeeds, they are fewer than the bound. -/
inductive Step (bound : Nat) where
  | accepted (expr : Expr) (rest : List Token) (shorter : rest.length < bound)
  | rejected (mismatch : Mismatch) (rest : List Token)

namespace Step

/-- The expression or the mismatch is what the step found. -/
def result {bound : Nat} : Step bound → Except Mismatch Expr
  | .accepted expr _ _ => .ok expr
  | .rejected mismatch _ => .error mismatch

/-- The tokens that remain do not depend on success. -/
def rest {bound : Nat} : Step bound → List Token
  | .accepted _ rest _ => rest
  | .rejected _ rest => rest

/-- A step that stays within a bound stays within every larger one. -/
def weaken {small large : Nat} (within : small ≤ large) : Step small → Step large
  | .accepted expr rest shorter => .accepted expr rest (Nat.lt_of_lt_of_le shorter within)
  | .rejected mismatch rest => .rejected mismatch rest

/-- Only the expression of an accepted step changes. -/
def map {bound : Nat} (change : Expr → Expr) : Step bound → Step bound
  | .accepted expr rest shorter => .accepted (change expr) rest shorter
  | .rejected mismatch rest => .rejected mismatch rest

@[simp] theorem result_weaken {small large : Nat} (within : small ≤ large) (step : Step small) :
    (step.weaken within).result = step.result := by
  cases step <;> rfl

@[simp] theorem rest_weaken {small large : Nat} (within : small ≤ large) (step : Step small) :
    (step.weaken within).rest = step.rest := by
  cases step <;> rfl

@[simp] theorem rest_map {bound : Nat} (change : Expr → Expr) (step : Step bound) :
    (step.map change).rest = step.rest := by
  cases step <;> rfl

/-- The token of the wanted kind is taken; any other token is taken and rejected. -/
def expect {bound : Nat} (stop : Nat) (kind : TokenKind) : Step bound → Step bound
  | .rejected mismatch rest => .rejected mismatch rest
  | .accepted expr [] shorter =>
      if kind = .finish then .accepted expr [] shorter
      else .rejected (.token kind (Token.finish stop)) []
  | .accepted expr (token :: rest) shorter =>
      if token.kind = kind then
        .accepted expr rest (Nat.lt_of_succ_lt shorter)
      else .rejected (.token kind token) rest

end Step

namespace Token

/-- An infix operator is taken only when it binds tighter than the context. -/
def infixAbove? (least : Precedence) (token : Token) : Option Operator :=
  match token.lexeme with
  | .symbol operator => if least < operator.precedence then some operator else none
  | _ => none

end Token

namespace Expr

mutual

/-- An operand is a number, a name, a signed operand or a group. -/
def readOperand (stop : Nat) (tokens : List Token) : Step tokens.length :=
  match tokens with
  | [] => .rejected (.operand (Token.finish stop)) []
  | token :: rest =>
      match token.lexeme with
      | .number _ value => .accepted (.number false value) rest (Nat.lt_succ_self _)
      | .identifier name => .accepted (.reference false name) rest (Nat.lt_succ_self _)
      | .symbol operator =>
          if operator.isSign then (readSigned stop operator rest).weaken (Nat.le_succ _)
          else .rejected (.operand token) rest
      | .opening => (readGroup stop rest).weaken (Nat.le_succ _)
      | .closing => .rejected (.operand token) rest
      | .finish => .rejected (.operand token) rest
  termination_by (tokens.length, 0)

/-- A sign applies to the operand after it. -/
def readSigned (stop : Nat) (operator : Operator) (tokens : List Token) : Step tokens.length :=
  (readAbove stop Precedence.sign tokens).map (.unary false operator)
  termination_by (tokens.length, 2)

/-- A group ends with the parenthesis that closes it. -/
def readGroup (stop : Nat) (tokens : List Token) : Step tokens.length :=
  ((readAbove stop Precedence.lowest tokens).expect stop .closing).map group
  termination_by (tokens.length, 2)

/-- An expression above a precedence holds only infix operators that bind tighter. -/
def readAbove (stop : Nat) (least : Precedence) (tokens : List Token) : Step tokens.length :=
  match readOperand stop tokens with
  | .rejected mismatch rest => .rejected mismatch rest
  | .accepted left rest shorter => readInfix stop least left rest shorter
  termination_by (tokens.length, 1)

/-- Operators of one precedence associate to the left. -/
def readInfix (stop : Nat) (least : Precedence) (left : Expr) {bound : Nat} (tokens : List Token)
    (within : tokens.length < bound) : Step bound :=
  match tokens with
  | [] => .accepted left [] within
  | token :: rest =>
      match token.infixAbove? least with
      | none => .accepted left (token :: rest) within
      | some operator =>
          match readAbove stop operator.precedence rest with
          | .rejected mismatch remaining => .rejected mismatch remaining
          | .accepted right remaining shorter =>
              readInfix stop least (.binary false operator operator.precedence left right)
                remaining (Nat.lt_trans shorter (Nat.lt_of_succ_lt within))
  termination_by (tokens.length, 0)

end

/-- A whole expression is followed by the end of the source. -/
def readWhole (stop : Nat) (tokens : List Token) : Step tokens.length :=
  (readAbove stop Precedence.lowest tokens).expect stop .finish

end Expr

/-- A reader holds the tokens of a source that were not taken yet. -/
structure Reader where
  source : String
  remaining : List Token
  deriving DecidableEq, Repr

namespace Reader

/-- The whole source is separated into tokens before the first expression is read. -/
def ofSource (source : String) : Except Error Reader :=
  (Token.ofSource source).map fun tokens => ⟨source, tokens⟩

/-- The source ends behind its last byte. -/
def stop (reader : Reader) : Nat := reader.source.utf8ByteSize

/-- The reader goes on with the tokens that the step left, also after an error. -/
def advance (reader : Reader) {bound : Nat} (step : Step bound) : Except Error Expr × Reader :=
  (step.result.mapError (.misplacedToken · reader.source), { reader with remaining := step.rest })

/-- The remaining tokens are read as a whole expression. -/
def whole (reader : Reader) : Except Error Expr × Reader :=
  reader.advance (Expr.readWhole reader.stop reader.remaining)

/-- The remaining tokens start with an expression above the precedence. -/
def above (reader : Reader) (least : Precedence) : Except Error Expr × Reader :=
  reader.advance (Expr.readAbove reader.stop least reader.remaining)

/-- The remaining tokens start with an operand. -/
def operand (reader : Reader) : Except Error Expr × Reader :=
  reader.advance (Expr.readOperand reader.stop reader.remaining)

/-- The opening parenthesis was already taken. -/
def group (reader : Reader) : Except Error Expr × Reader :=
  reader.advance (Expr.readGroup reader.stop reader.remaining)

/-- The operator was already taken. -/
def signed (reader : Reader) (operator : Operator) : Except Error Expr × Reader :=
  reader.advance (Expr.readSigned reader.stop operator reader.remaining)

end Reader

/-- The source denotes an expression when all its tokens are read as one. -/
def Expr.parse (source : String) : Except Error Expr :=
  (Reader.ofSource source).bind fun reader => reader.whole.1

end TraceCalc
