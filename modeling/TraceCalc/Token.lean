/-
This file defines the tokens of the expression language.
-/

import TraceCalc.Operator

namespace TraceCalc

/-- A token kind is what the grammar sees of a token. -/
inductive TokenKind where
  | number
  | identifier
  | symbol (operator : Operator)
  | opening
  | closing
  | finish
  deriving DecidableEq, Repr

/-- Messages call a token kind by this name. -/
def TokenKind.name : TokenKind → String
  | .number => "Number"
  | .identifier => "Identifier"
  | .symbol .plus => "Plus"
  | .symbol .minus => "Minus"
  | .symbol .times => "Multiply"
  | .symbol .divide => "Divide"
  | .opening => "LParen"
  | .closing => "RParen"
  | .finish => "End"

/-- A lexeme is a token kind with the text and the value that belong to it. -/
inductive Lexeme where
  | number (digits : String) (value : Int64)
  | identifier (name : String)
  | symbol (operator : Operator)
  | opening
  | closing
  | finish
  deriving DecidableEq, Repr

namespace Lexeme

/-- The kind forgets the text and the value. -/
def kind : Lexeme → TokenKind
  | .number _ _ => .number
  | .identifier _ => .identifier
  | .symbol operator => .symbol operator
  | .opening => .opening
  | .closing => .closing
  | .finish => .finish

/-- A lexeme stands in the source with exactly this text. -/
def text : Lexeme → String
  | .number digits _ => digits
  | .identifier name => name
  | .symbol operator => operator.symbol
  | .opening => "("
  | .closing => ")"
  | .finish => ""

/-- Only a number has a value. -/
def value : Lexeme → Int64
  | .number _ value => value
  | _ => 0

end Lexeme

/-- A position counts the UTF-8 bytes before the token. -/
structure Token where
  lexeme : Lexeme
  position : Nat
  deriving DecidableEq, Repr

namespace Token

abbrev kind (token : Token) : TokenKind := token.lexeme.kind

/-- The source ends with this token, also for a reader that has already passed it. -/
def finish (position : Nat) : Token := ⟨.finish, position⟩

end Token

end TraceCalc
