/-
This file reads and writes signed 64-bit integers in decimal notation.
-/

namespace TraceCalc.Text.Decimal

/-- A fault is the first reason for which a text denotes no signed 64-bit integer. -/
inductive Fault where
  | empty
  | invalidDigit
  | tooLarge
  | tooSmall
  deriving DecidableEq, Repr

/-- The message names the defect and not the text. -/
def Fault.message : Fault → String
  | .empty => "cannot parse integer from empty string"
  | .invalidDigit => "invalid digit found in string"
  | .tooLarge => "number too large to fit in target type"
  | .tooSmall => "number too small to fit in target type"

/-- A sign gives the direction in which digits change a value. -/
inductive Sign where
  | positive
  | negative
  deriving DecidableEq, Repr

/-- The next digit moves the value away from zero. -/
def Sign.append (sign : Sign) (value : Int) (digit : Nat) : Int :=
  match sign with
  | .positive => 10 * value + digit
  | .negative => 10 * value - digit

/-- The ASCII digits stand in the order of their values. -/
def digitValue (digit : Char) : Nat := digit.toNat - '0'.toNat

/-- The digits are read from the left, and the first defect in that order is reported. -/
def readDigits (sign : Sign) (value : Int) : List Char → Except Fault Int64
  | [] => .ok (Int64.ofInt value)
  | digit :: rest =>
      if digit.isDigit then
        let next := sign.append value (digitValue digit)
        if Int64.maxValue.toInt < next then .error .tooLarge
        else if next < Int64.minValue.toInt then .error .tooSmall
        else readDigits sign next rest
      else .error .invalidDigit

/-- A sign may stand before the digits, but it needs a digit after it. -/
def read : List Char → Except Fault Int64
  | [] => .error .empty
  | ['+'] => .error .invalidDigit
  | ['-'] => .error .invalidDigit
  | '+' :: digits => readDigits .positive 0 digits
  | '-' :: digits => readDigits .negative 0 digits
  | digits => readDigits .positive 0 digits

/-- No sign is written before a positive value. -/
def write (value : Int64) : String := value.toInt.repr

end TraceCalc.Text.Decimal
