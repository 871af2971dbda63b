/-
This file shows that letters, digits and white space have no characters in common.
-/

import TraceCalc.Unicode.Alphabetic
import TraceCalc.Unicode.WhiteSpace

namespace TraceCalc.Unicode

/-- No range of the first set meets a range of the second one. -/
def CodePointSet.isDisjoint (first second : CodePointSet) : Bool :=
  first.all fun range => second.all fun other => range.2 < other.1 || other.2 < range.1

theorem CodePointSet.contains_eq_false_of_isDisjoint {first second : CodePointSet}
    (disjoint : first.isDisjoint second = true) {codePoint : Nat}
    (member : first.contains codePoint = true) : second.contains codePoint = false := by
  cases shared : second.contains codePoint with
  | false => rfl
  | true =>
      obtain ⟨range, rangeMember, lower, upper⟩ := exists_range_of_contains member
      obtain ⟨other, otherMember, otherLower, otherUpper⟩ := exists_range_of_contains shared
      have separate := List.all_eq_true.mp
        (List.all_eq_true.mp disjoint range rangeMember) other otherMember
      simp only [Bool.or_eq_true, decide_eq_true_eq] at separate
      omega

set_option maxRecDepth 20000 in
theorem alphabetic_isDisjoint_whiteSpace :
    alphabeticRanges.isDisjoint whiteSpaceRanges = true := by
  decide +kernel

/-- A letter does not separate tokens. -/
theorem isWhiteSpace_eq_false_of_isAlphabetic {character : Char}
    (letter : isAlphabetic character = true) : isWhiteSpace character = false :=
  CodePointSet.contains_eq_false_of_isDisjoint alphabetic_isDisjoint_whiteSpace letter

/-- The first code points with a letter lie above those of the digits. -/
theorem isAlphabetic_eq_false_of_lt {character : Char} (small : character.toNat < 0x41) :
    isAlphabetic character = false := by
  rw [isAlphabetic, alphabeticRanges, CodePointSet.contains, if_pos small]

theorem isDigit_bounds {character : Char} (digit : character.isDigit = true) :
    0x30 ≤ character.toNat ∧ character.toNat ≤ 0x39 := by
  simp only [Char.isDigit, Bool.and_eq_true, decide_eq_true_eq] at digit
  exact ⟨UInt32.le_iff_toNat_le.mp digit.1, UInt32.le_iff_toNat_le.mp digit.2⟩

/-- A digit does not start a name. -/
theorem isAlphabetic_eq_false_of_isDigit {character : Char} (digit : character.isDigit = true) :
    isAlphabetic character = false := by
  have bounds := isDigit_bounds digit
  exact isAlphabetic_eq_false_of_lt (by omega)

/-- No white space lies between two code points that no range of it meets. -/
theorem isWhiteSpace_eq_false_of_bounds {first last : Nat}
    (separate : ∀ range ∈ whiteSpaceRanges, range.2 < first ∨ last < range.1) {character : Char}
    (lower : first ≤ character.toNat) (upper : character.toNat ≤ last) :
    isWhiteSpace character = false := by
  cases shared : isWhiteSpace character with
  | false => rfl
  | true =>
      obtain ⟨range, rangeMember, rangeLower, rangeUpper⟩ :=
        CodePointSet.exists_range_of_contains shared
      have := separate range rangeMember
      omega

/-- A digit does not separate tokens. -/
theorem isWhiteSpace_eq_false_of_isDigit {character : Char} (digit : character.isDigit = true) :
    isWhiteSpace character = false :=
  isWhiteSpace_eq_false_of_bounds (by decide) (isDigit_bounds digit).1 (isDigit_bounds digit).2

/-- Only the capitals of ASCII text change, and no white space lies between them and the result. -/
theorem toLower_eq_or_bounds (character : Char) : character.toLower = character ∨
    (0x41 ≤ character.toNat ∧ character.toNat ≤ 0x5A) ∧
      character.toLower.toNat = character.toNat + 0x20 := by
  by_cases capital : 'A'.val ≤ character.val ∧ character.val ≤ 'Z'.val
  · refine .inr ⟨⟨UInt32.le_iff_toNat_le.mp capital.1, UInt32.le_iff_toNat_le.mp capital.2⟩, ?_⟩
    have upper : character.val.toNat ≤ 0x5A := UInt32.le_iff_toNat_le.mp capital.2
    have lowered : character.toLower = _ := dif_pos capital
    rw [lowered]
    change (character.val + ('a'.val - 'A'.val)).toNat = character.val.toNat + 0x20
    rw [UInt32.toNat_add, show ('a'.val - 'A'.val).toNat = 0x20 from rfl]
    omega
  · exact .inl (dif_neg capital)

theorem isWhiteSpace_toLower (character : Char) :
    isWhiteSpace character.toLower = isWhiteSpace character := by
  rcases toLower_eq_or_bounds character with same | ⟨⟨lower, upper⟩, shifted⟩
  · rw [same]
  · have visible {letter : Char} : 0x41 ≤ letter.toNat → letter.toNat ≤ 0x7A →
        isWhiteSpace letter = false := isWhiteSpace_eq_false_of_bounds (by decide)
    rw [visible (by omega) (by omega), visible lower (by omega)]

theorem toLower_of_isWhiteSpace {character : Char} (blank : isWhiteSpace character = true) :
    character.toLower = character := by
  rcases toLower_eq_or_bounds character with same | ⟨⟨lower, upper⟩, _⟩
  · exact same
  · rw [isWhiteSpace_eq_false_of_bounds (by decide) lower upper] at blank
    simp at blank

end TraceCalc.Unicode
