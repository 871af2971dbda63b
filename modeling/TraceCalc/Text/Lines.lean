/-
This file splits a stream of bytes into lines.
-/

namespace TraceCalc.Text

/-- This byte ends a line. -/
def lineFeed : UInt8 := 10

/-- This byte may stand before the end of a line. -/
def carriageReturn : UInt8 := 13

/-- One carriage return before the line feed belongs to the end of the line. -/
def dropCarriageReturn (line : List UInt8) : List UInt8 :=
  if line.getLast? = some carriageReturn then line.dropLast else line

/-- A last line without a line feed counts when it is not empty. -/
def lines (input : List UInt8) : List (List UInt8) :=
  let pieces := input.splitOnP (· == lineFeed)
  let unfinished := pieces.getLast?.getD []
  pieces.dropLast.map dropCarriageReturn ++ if unfinished.isEmpty then [] else [unfinished]

/-- A line is a text when its bytes are valid UTF-8. -/
def decodeLine (line : List UInt8) : Option String :=
  String.fromUTF8? (ByteArray.mk line.toArray)

end TraceCalc.Text
