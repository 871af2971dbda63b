/-
This file lists the code points with the property White_Space of Unicode 17.
-/

import TraceCalc.Unicode.CodePointSet

namespace TraceCalc.Unicode

/-- These ranges hold the characters that separate tokens and words. -/
def whiteSpaceRanges : CodePointSet := [
  (0x0009, 0x000D), (0x0020, 0x0020), (0x0085, 0x0085), (0x00A0, 0x00A0), (0x1680, 0x1680),
  (0x2000, 0x200A), (0x2028, 0x2029), (0x202F, 0x202F), (0x205F, 0x205F), (0x3000, 0x3000)]

/-- White space includes no byte-order mark and no zero-width space. -/
def isWhiteSpace (character : Char) : Bool :=
  whiteSpaceRanges.contains character.toNat

end TraceCalc.Unicode
