/-
This file lists the causes for which reading, compiling, running or saving fails.
-/

import TraceCalc.Text.Decimal
import TraceCalc.Token

namespace TraceCalc

/-- A mismatch is the first token that the grammar does not admit in its place. -/
inductive Mismatch where
  | operand (found : Token)
  | token (expected : TokenKind) (found : Token)
  deriving DecidableEq, Repr

namespace Mismatch

/-- Every mismatch is reported at the token that was found. -/
def found : Mismatch → Token
  | .operand found => found
  | .token _ found => found

/-- The message quotes the whole source. -/
def message (mismatch : Mismatch) (source : String) : String :=
  let found := mismatch.found.kind.name
  let place := " at position " ++ mismatch.found.position.repr ++ " in '" ++ source ++ "'"
  match mismatch with
  | .operand _ => "Unexpected token " ++ found ++ place
  | .token expected _ => "Expected " ++ expected.name ++ " but found " ++ found ++ place

end Mismatch

/-- Each error names the cause and the values that its message reports. -/
inductive Error where
  | unexpectedCharacter (character : Char) (position : Nat)
  | unreadableNumber (digits : String) (position : Nat) (fault : Text.Decimal.Fault)
  | misplacedToken (mismatch : Mismatch) (source : String)
  | unsupportedSign (operator : Operator)
  | missingVariable (name : String)
  | stackUnderflow
  | indexOutOfRange (length index : Nat)
  | tooManyParameters (offset : Nat)
  | divisionByZero (dividend : Int64)
  | divisionOverflow (dividend divisor : Int64)
  | unbound (name : String)
  | outputNeedsFile
  | invalidEncoding
  | fileNotFound
  | notDirectory
  | isDirectory
  | noSpace
  | nameTooLong
  | system (reason : String)
  deriving DecidableEq, Repr

/-- A phase groups the errors of one step; the process does not go on after an abort. -/
inductive Phase where
  | lexing
  | parsing
  | compiling
  | calculating
  | binding
  | transferring
  | aborting
  deriving DecidableEq, Repr

namespace Error

/-- Every cause arises in one phase only; an index out of range aborts. -/
def phase : Error → Phase
  | .unexpectedCharacter .. | .unreadableNumber .. => .lexing
  | .misplacedToken .. => .parsing
  | .unsupportedSign _ | .missingVariable _ | .stackUnderflow | .tooManyParameters _ => .compiling
  | .divisionByZero _ | .divisionOverflow .. => .calculating
  | .unbound _ => .binding
  | .outputNeedsFile | .invalidEncoding | .fileNotFound | .notDirectory | .isDirectory
  | .noSpace | .nameTooLong | .system _ => .transferring
  | .indexOutOfRange .. => .aborting

/-- Only an error in the source has a position there. -/
def position? : Error → Option Nat
  | .unexpectedCharacter _ position => some position
  | .unreadableNumber _ position _ => some position
  | .misplacedToken mismatch _ => some mismatch.found.position
  | _ => none

/-- The detail describes the cause without its phase. -/
def detail : Error → String
  | .unexpectedCharacter character position =>
      "Unexpected character '" ++ String.singleton character ++ "' at position " ++ position.repr
  | .unreadableNumber digits position fault =>
      "Invalid number literal `" ++ digits ++ "` at position " ++ position.repr ++ ": " ++
        fault.message
  | .misplacedToken mismatch source => mismatch.message source
  | .unsupportedSign operator => "Unsupported unary operator " ++ operator.symbol
  | .missingVariable name => "Variable `" ++ name ++ "` is missing from the variable list"
  | .stackUnderflow => "Instruction stream underflowed the stack"
  | .indexOutOfRange length index =>
      -- The process ends with this text instead of an answer.
      "index out of bounds: the len is " ++ length.repr ++ " but the index is " ++ index.repr
  | .tooManyParameters offset =>
      "Failed to print wasm: function params size is out of bounds (at offset 0x" ++
        String.ofList (Nat.toDigits 16 offset) ++ ")"
  | .divisionByZero dividend =>
      "Attempted to divide " ++ Text.Decimal.write dividend ++ " by zero"
  | .divisionOverflow dividend divisor =>
      "Overflow in " ++ Text.Decimal.write dividend ++ " / " ++ Text.Decimal.write divisor
  | .unbound name => "Variable " ++ name ++ " is not set."
  | .outputNeedsFile => "Binary output needs a file, pass --output"
  | .invalidEncoding => "stream did not contain valid UTF-8"
  | .fileNotFound => "No such file or directory (os error 2)"
  | .notDirectory => "Not a directory (os error 20)"
  | .isDirectory => "Is a directory (os error 21)"
  | .noSpace => "No space left on device (os error 28)"
  | .nameTooLong => "File name too long (os error 36)"
  | .system reason => reason

/-- The title names the phase; an unbound variable and an abort need none. -/
def title : Error → String
  | .unexpectedCharacter _ position | .unreadableNumber _ position _ =>
      "lex error at position " ++ position.repr ++ ": "
  | .misplacedToken .. => "parse error: "
  | .unsupportedSign _ | .missingVariable _ | .stackUnderflow | .tooManyParameters _ =>
      "compile error: "
  | .divisionByZero _ | .divisionOverflow .. => "arithmetic fault: "
  | .unbound _ | .indexOutOfRange .. => ""
  | .outputNeedsFile | .invalidEncoding | .fileNotFound | .notDirectory | .isDirectory
  | .noSpace | .nameTooLong | .system _ =>
      "i/o error: "

/-- The message of an error needs nothing but the error. -/
def message (error : Error) : String := error.title ++ error.detail

theorem message_missingVariable (name : String) : (missingVariable name).message =
    "compile error: Variable `" ++ name ++ "` is missing from the variable list" := by
  have opening : "compile error: Variable `" = "compile error: " ++ "Variable `" := rfl
  rw [opening, String.append_assoc, String.append_assoc]
  exact congrArg ("compile error: " ++ ·) (String.append_assoc ..)

theorem message_unsupportedSign (operator : Operator) : (unsupportedSign operator).message =
    "compile error: Unsupported unary operator " ++ operator.symbol := by
  cases operator <;> rfl

theorem message_divisionByZero (dividend : Int64) : (divisionByZero dividend).message =
    "arithmetic fault: Attempted to divide " ++ dividend.toInt.repr ++ " by zero" := by
  have opening : "arithmetic fault: Attempted to divide " =
      "arithmetic fault: " ++ "Attempted to divide " := rfl
  rw [opening, String.append_assoc, String.append_assoc]
  exact congrArg ("arithmetic fault: " ++ ·) (String.append_assoc ..)

theorem message_divisionOverflow (dividend divisor : Int64) :
    (divisionOverflow dividend divisor).message =
      "arithmetic fault: Overflow in " ++ dividend.toInt.repr ++ " / " ++ divisor.toInt.repr := by
  have opening : "arithmetic fault: Overflow in " = "arithmetic fault: " ++ "Overflow in " := rfl
  rw [opening, String.append_assoc, String.append_assoc, String.append_assoc]
  refine congrArg ("arithmetic fault: " ++ ·) ?_
  rw [← String.append_assoc, ← String.append_assoc]
  rfl

theorem message_unbound (name : String) :
    (unbound name).message = "Variable " ++ name ++ " is not set." :=
  String.empty_append

end Error

end TraceCalc
