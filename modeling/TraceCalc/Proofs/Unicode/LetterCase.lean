/-
This file shows that the case of a letter decides neither whether it is cased nor whether it is
passed over as case-ignorable.
-/

import TraceCalc.Unicode.CaseIgnorable
import TraceCalc.Unicode.Cased
import TraceCalc.Unicode.Lowercase

namespace TraceCalc.Unicode

namespace CodePointSet

/-- The answer for a whole interval, where it is one. The kernel is fast on these comparisons. -/
def containsInterval? : CodePointSet → Nat → Nat → Option Bool
  | [], _, _ => some false
  | range :: rest, lower, upper =>
      bif Nat.ble range.1 range.2 && Nat.blt range.2 lower then containsInterval? rest lower upper
      else bif Nat.blt upper range.1 then some false
      else bif Nat.ble range.1 lower && Nat.ble upper range.2 then some true
      else none

theorem contains_of_containsInterval? {set : CodePointSet} {lower upper : Nat} {answer : Bool}
    (found : set.containsInterval? lower upper = some answer) {codePoint : Nat}
    (above : lower ≤ codePoint) (below : codePoint ≤ upper) : set.contains codePoint = answer := by
  induction set with
  | nil => exact Option.some.inj found
  | cons range rest inductionHypothesis =>
      rw [containsInterval?] at found
      simp only [cond_eq_ite, Nat.blt_eq, Nat.ble_eq, Bool.and_eq_true] at found
      rw [contains]
      split at found
      next => rw [if_neg (by omega), if_neg (by omega), inductionHypothesis found]
      next =>
          split at found
          next => rw [if_pos (by omega), Option.some.inj found]
          next =>
              split at found
              next inside =>
                  rw [if_neg (by omega), if_pos (by omega), Option.some.inj found]
              next => simp at found

end CodePointSet

namespace CaseRun

/-- The largest code point to which the run maps another one. -/
def lastTarget (run : CaseRun) : Nat := run.target + (run.last - run.first)

/-- The run and its image lie in the set, or both lie outside. -/
def keepsInterval (set : CodePointSet) (run : CaseRun) : Bool :=
  match set.containsInterval? run.first run.last,
      set.containsInterval? run.target run.lastTarget with
  | some answer, some other => answer == other
  | _, _ => false

/-- The set does not tell a capital of the run from its lowercase letter. -/
def keepsEach (set : CodePointSet) (run : CaseRun) : Bool :=
  (List.range' run.first (run.last + 1 - run.first)).all fun codePoint =>
    set.contains (run.lower codePoint) == set.contains codePoint

/-- All images of the run are characters. -/
def hasCharacters (run : CaseRun) : Bool :=
  Nat.blt run.lastTarget 0xD800 || Nat.blt 0xDFFF run.target && Nat.blt run.lastTarget 0x110000

variable {run : CaseRun} {codePoint : Nat}

theorem lower_eq_or_bounds (above : run.first ≤ codePoint) (below : codePoint ≤ run.last) :
    run.lower codePoint = codePoint ∨
      run.target ≤ run.lower codePoint ∧ run.lower codePoint ≤ run.lastTarget := by
  rw [lower, lastTarget]
  split
  · right
    omega
  · exact .inl rfl

/-- Most runs lie in one range of the set, and the others are checked letter by letter. -/
theorem contains_lower {set : CodePointSet}
    (kept : (run.keepsInterval set || run.keepsEach set) = true)
    (above : run.first ≤ codePoint) (below : codePoint ≤ run.last) :
    set.contains (run.lower codePoint) = set.contains codePoint := by
  rcases Bool.or_eq_true_iff.mp kept with kept | kept
  · rw [keepsInterval] at kept
    split at kept
    next answer other source image =>
        rcases lower_eq_or_bounds above below with same | ⟨imageAbove, imageBelow⟩
        · rw [same]
        · rw [CodePointSet.contains_of_containsInterval? image imageAbove imageBelow,
            CodePointSet.contains_of_containsInterval? source above below, eq_of_beq kept]
    next => simp at kept
  · exact eq_of_beq (List.all_eq_true.mp kept codePoint (List.mem_range'_1.mpr (by omega)))

/-- A code point stays as it is, or one run maps it. -/
theorem lowerIn_eq_or_exists (runs : List CaseRun) (codePoint : Nat) :
    lowerIn runs codePoint = codePoint ∨
      ∃ run ∈ runs, run.first ≤ codePoint ∧ codePoint ≤ run.last ∧
        lowerIn runs codePoint = run.lower codePoint := by
  induction runs with
  | nil => exact .inl rfl
  | cons run rest inductionHypothesis =>
      rw [lowerIn]
      split
      next => exact .inl rfl
      next =>
          split
          next => exact .inr ⟨run, List.mem_cons_self, by omega, by omega, rfl⟩
          next =>
              rcases inductionHypothesis with same | ⟨found, member, bounds⟩
              · exact .inl same
              · exact .inr ⟨found, List.mem_cons_of_mem _ member, bounds⟩

theorem contains_lowerIn {set : CodePointSet} {runs : List CaseRun}
    (kept : (runs.all fun run => run.keepsInterval set || run.keepsEach set) = true)
    (codePoint : Nat) : set.contains (lowerIn runs codePoint) = set.contains codePoint := by
  rcases lowerIn_eq_or_exists runs codePoint with same | ⟨run, member, above, below, lowered⟩
  · rw [same]
  · rw [lowered, contains_lower (List.all_eq_true.mp kept run member) above below]

theorem isValidChar_lowerIn {runs : List CaseRun} (characters : runs.all hasCharacters = true)
    {codePoint : Nat} (valid : codePoint.isValidChar) : (lowerIn runs codePoint).isValidChar := by
  rcases lowerIn_eq_or_exists runs codePoint with same | ⟨run, member, above, below, lowered⟩
  · rwa [same]
  · rw [lowered]
    rcases lower_eq_or_bounds above below with same | ⟨imageAbove, imageBelow⟩
    · rwa [same]
    · have bounds := List.all_eq_true.mp characters run member
      simp only [hasCharacters, Bool.or_eq_true, Bool.and_eq_true, Nat.blt_eq] at bounds
      unfold Nat.isValidChar
      omega

end CaseRun

section Table

set_option maxRecDepth 20000

theorem lowercaseRuns_keep_casedRanges :
    (lowercaseRuns.all fun run => run.keepsInterval casedRanges || run.keepsEach casedRanges) =
      true := by
  decide +kernel

theorem lowercaseRuns_keep_caseIgnorableRanges :
    (lowercaseRuns.all fun run =>
      run.keepsInterval caseIgnorableRanges || run.keepsEach caseIgnorableRanges) = true := by
  decide +kernel

theorem lowercaseRuns_hasCharacters : lowercaseRuns.all CaseRun.hasCharacters = true := by
  decide +kernel

end Table

/-- The code point of the lowercase letter is the one that the table gives. -/
theorem toNat_ofNat_lowerIn (character : Char) :
    (Char.ofNat (CaseRun.lowerIn lowercaseRuns character.toNat)).toNat =
      CaseRun.lowerIn lowercaseRuns character.toNat := by
  have valid := CaseRun.isValidChar_lowerIn lowercaseRuns_hasCharacters character.valid
  change (CaseRun.lowerIn lowercaseRuns character.toNat).isValidChar at valid
  rw [Char.ofNat, dif_pos valid]
  rfl

/-- Letters with one lowercase form have every property that the mapping keeps in common. -/
theorem contains_congr_of_lowercase_eq {set : CodePointSet}
    (kept : (lowercaseRuns.all fun run => run.keepsInterval set || run.keepsEach set) = true)
    {first second : Char} (same : lowercase first = lowercase second) :
    set.contains first.toNat = set.contains second.toNat := by
  rw [lowercase, lowercase] at same
  split at same
  next dotted =>
      split at same
      next alsoDotted => rw [dotted, alsoDotted]
      next => simp at same
  next =>
      split at same
      next => simp at same
      next =>
          have points := congrArg Char.toNat (List.singleton_inj.mp same)
          rw [toNat_ofNat_lowerIn, toNat_ofNat_lowerIn] at points
          rw [← CaseRun.contains_lowerIn kept first.toNat, points,
            CaseRun.contains_lowerIn kept second.toNat]

theorem isCased_congr {first second : Char} (same : lowercase first = lowercase second) :
    isCased first = isCased second :=
  contains_congr_of_lowercase_eq lowercaseRuns_keep_casedRanges same

theorem isCaseIgnorable_congr {first second : Char} (same : lowercase first = lowercase second) :
    isCaseIgnorable first = isCaseIgnorable second :=
  contains_congr_of_lowercase_eq lowercaseRuns_keep_caseIgnorableRanges same

end TraceCalc.Unicode
