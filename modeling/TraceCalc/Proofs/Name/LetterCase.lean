/-
This file shows when two names that differ in letter case only denote one variable.
-/

import Mathlib
import TraceCalc.Proofs.Environment
import TraceCalc.Proofs.Expr.Parameters
import TraceCalc.Proofs.Unicode.LetterCase

namespace TraceCalc

namespace Name

open Unicode

/-- Character by character, the two texts differ in letter case at most. -/
def SameLetters (first second : List Char) : Prop :=
  List.Forall₂ (fun character other => lowercase character = lowercase other) first second

instance (first second : List Char) : Decidable (SameLetters first second) :=
  inferInstanceAs (Decidable (List.Forall₂ _ first second))

/-- A capital sigma would take its final form at this place, behind the text that was read. -/
def EndsWordAfter (before text : List Char) (index : Nat) : Prop :=
  lowercaseSigma ((text.take index).reverse ++ before) (text.drop (index + 1)) = 'ς'

/-- A cased letter stands before this place of the name, and none continues the word behind it. -/
def EndsWord (name : String) (index : Nat) : Prop := EndsWordAfter [] name.toList index

instance (before text : List Char) (index : Nat) : Decidable (EndsWordAfter before text index) :=
  inferInstanceAs (Decidable (_ = _))

instance (name : String) (index : Nat) : Decidable (EndsWord name index) :=
  inferInstanceAs (Decidable (EndsWordAfter [] name.toList index))

theorem endsWordAfter_zero (before rest : List Char) (character : Char) :
    EndsWordAfter before (character :: rest) 0 ↔ lowercaseSigma before rest = 'ς' := by
  simp [EndsWordAfter]

theorem endsWordAfter_succ (before rest : List Char) (character : Char) (index : Nat) :
    EndsWordAfter before (character :: rest) (index + 1) ↔
      EndsWordAfter (character :: before) rest index := by
  simp [EndsWordAfter]

/-- Whether a word goes on does not depend on the case of its letters. -/
theorem continues_congr {first second : List Char} (same : SameLetters first second) :
    continues first = continues second := by
  induction same with
  | nil => rfl
  | cons head _ inductionHypothesis =>
      rw [continues, continues, isCaseIgnorable_congr head, isCased_congr head, inductionHypothesis]

theorem lowercaseSigma_congr {before after otherBefore otherAfter : List Char}
    (sameBefore : SameLetters before otherBefore) (sameAfter : SameLetters after otherAfter) :
    lowercaseSigma before after = lowercaseSigma otherBefore otherAfter := by
  rw [lowercaseSigma, lowercaseSigma, continues_congr sameBefore, continues_congr sameAfter]

theorem lowercaseSigma_eq_or (before after : List Char) :
    lowercaseSigma before after = 'ς' ∨ lowercaseSigma before after = 'σ' := by
  rw [lowercaseSigma]
  split
  · exact .inl rfl
  · exact .inr rfl

theorem lowercase_sigma : lowercase 'Σ' = ['σ'] := by decide +kernel

/-- A final sigma is the only letter that is not folded on its own. -/
theorem foldBetween_eq (before after : List Char) (character : Char) :
    foldBetween before character after =
      if lowercaseSigma before after = 'ς' ∧ character = 'Σ' then ['ς']
      else lowercase character := by
  rw [foldBetween]
  by_cases sigma : character = 'Σ'
  · rcases lowercaseSigma_eq_or before after with final | inner
    · simp [sigma, final]
    · simp [sigma, inner, lowercase_sigma]
  · simp [sigma]

theorem length_foldBetween (before after : List Char) (character : Char) :
    (foldBetween before character after).length = (lowercase character).length := by
  rw [foldBetween_eq]
  split
  next final => rw [final.2, lowercase_sigma]; rfl
  next => rfl

/-- Letters that differ in case are folded alike unless one of them is a final sigma. -/
theorem foldBetween_eq_iff {before after otherBefore otherAfter : List Char}
    {character other : Char} (sameBefore : SameLetters before otherBefore)
    (sameAfter : SameLetters after otherAfter) (same : lowercase character = lowercase other) :
    foldBetween before character after = foldBetween otherBefore other otherAfter ↔
      (lowercaseSigma before after = 'ς' → (character = 'Σ' ↔ other = 'Σ')) := by
  have inner (sigma : character = 'Σ' ∨ other = 'Σ') : lowercase character ≠ ['ς'] := by
    rcases sigma with sigma | sigma
    · rw [sigma, lowercase_sigma]
      decide
    · rw [same, sigma, lowercase_sigma]
      decide
  rw [foldBetween_eq, foldBetween_eq, ← lowercaseSigma_congr sameBefore sameAfter, ← same]
  by_cases final : lowercaseSigma before after = 'ς'
  · simp only [final, true_and, forall_const]
    by_cases sigma : character = 'Σ'
    · by_cases otherSigma : other = 'Σ'
      · simp [sigma, otherSigma]
      · simpa [sigma, otherSigma, eq_comm] using inner (.inl sigma)
    · by_cases otherSigma : other = 'Σ'
      · simpa [sigma, otherSigma] using inner (.inr otherSigma)
      · simp [sigma, otherSigma]
  · simp [final]

theorem foldAfter_eq_iff {before otherBefore text other : List Char}
    (sameBefore : SameLetters before otherBefore) (same : SameLetters text other) :
    foldAfter before text = foldAfter otherBefore other ↔
      ∀ index, EndsWordAfter before text index →
        (text[index]? = some 'Σ' ↔ other[index]? = some 'Σ') := by
  induction same generalizing before otherBefore with
  | nil => simp
  | @cons character otherCharacter rest otherRest head tail inductionHypothesis =>
      -- Both characters fold to pieces of one length, so that the texts agree piece by piece.
      have lengths : (foldBetween before character rest).length =
          (foldBetween otherBefore otherCharacter otherRest).length := by
        rw [length_foldBetween, length_foldBetween, head]
      rw [foldAfter_cons, foldAfter_cons, ← Nat.and_forall_add_one, endsWordAfter_zero]
      simp only [endsWordAfter_succ, List.getElem?_cons_zero, List.getElem?_cons_succ,
        Option.some.injEq]
      rw [← foldBetween_eq_iff sameBefore tail head, ← inductionHypothesis (.cons head sameBefore)]
      exact ⟨fun equal => List.append_inj equal lengths,
        fun ⟨first, second⟩ => by rw [first, second]⟩

/-- Names with the same letters are folded alike if their words end with the same sigmas. -/
theorem fold_eq_iff {name other : String} (same : SameLetters name.toList other.toList) :
    fold name = fold other ↔ ∀ index, EndsWord name index →
      (name.toList[index]? = some 'Σ' ↔ other.toList[index]? = some 'Σ') := by
  rw [← String.toList_inj, fold_toList, fold_toList]
  exact foldAfter_eq_iff .nil same

/-- Two spellings are one variable for every expression and for every environment. -/
structure AreOneVariable (name other : String) : Prop where
  key : fold name = fold other
  parameter : ∀ expr : Expr, name ∈ expr.references → other ∈ expr.references →
    (expr.parameters.countP fun parameter =>
      fold parameter = fold name ∨ fold parameter = fold other) = 1
  slot : ∀ expr : Expr, name ∈ expr.references → other ∈ expr.references →
    ∃ slot, Expr.slot? (expr.parameters.map fold) name = some slot ∧
      Expr.slot? (expr.parameters.map fold) other = some slot
  binding : ∀ (environment : Environment) (value : Int64),
    (environment.insert name value).get? other = some value

/-- One key is enough: parameters, slots and environments look at nothing else. -/
theorem areOneVariable_of_fold_eq {name other : String} (same : fold name = fold other) :
    AreOneVariable name other where
  key := same
  parameter expr member _ := by
    simp only [← same, or_self]
    exact Expr.countP_parameters member
  slot expr member _ := by
    have found := Expr.slot?_eq_findIdx (expr.isCovered_parameters name member)
    refine ⟨_, found, ?_⟩
    rwa [Expr.slot?, ← same]
  binding environment value := by
    rw [environment.get?_insert, if_pos same.symm]

instance (name other : String) : Decidable (∀ index, EndsWord name index →
    (name.toList[index]? = some 'Σ' ↔ other.toList[index]? = some 'Σ')) :=
  decidable_of_iff (∀ index < max name.toList.length other.toList.length, EndsWord name index →
    (name.toList[index]? = some 'Σ' ↔ other.toList[index]? = some 'Σ')) <| by
    refine ⟨fun inside index ends => ?_, fun everywhere index _ => everywhere index⟩
    by_cases bound : index < max name.toList.length other.toList.length
    · exact inside index bound ends
    · rw [List.getElem?_eq_none (by omega), List.getElem?_eq_none (by omega)]

/--
Two names that differ in letter case only are one variable exactly if no word ends with a capital
sigma in one of them and with a small one in the other.
-/
theorem areOneVariable_iff {name other : String} (same : SameLetters name.toList other.toList) :
    AreOneVariable name other ↔ ∀ index, EndsWord name index →
      (name.toList[index]? = some 'Σ' ↔ other.toList[index]? = some 'Σ') := by
  rw [← fold_eq_iff same]
  exact ⟨AreOneVariable.key, areOneVariable_of_fold_eq⟩

/-- Only the last of three capitals ends the word. -/
theorem areOneVariable_iff_of_three_sigmas :
    (SameLetters "ΣΊΣΥΦΟΣ".toList "σίσυφοΣ".toList ∧ AreOneVariable "ΣΊΣΥΦΟΣ" "σίσυφοΣ") ∧
      SameLetters "ΣΊΣΥΦΟΣ".toList "σίσυφοσ".toList ∧ ¬ AreOneVariable "ΣΊΣΥΦΟΣ" "σίσυφοσ" := by
  have capital : SameLetters "ΣΊΣΥΦΟΣ".toList "σίσυφοΣ".toList := by decide +kernel
  have small : SameLetters "ΣΊΣΥΦΟΣ".toList "σίσυφοσ".toList := by decide +kernel
  refine ⟨⟨capital, (areOneVariable_iff capital).mpr (by decide +kernel)⟩, small, fun one => ?_⟩
  exact absurd ((areOneVariable_iff small).mp one) (by decide +kernel)

/-- The lowercase letters have the inner sigma and the capitals have the final one. -/
theorem not_areOneVariable :
    SameLetters "ΑΣ".toList "ασ".toList ∧ ¬ AreOneVariable "ΑΣ" "ασ" ∧
      (Expr.parse "ΑΣ+ασ").map Expr.parameters = .ok ["ΑΣ", "ασ"] := by
  refine ⟨by decide +kernel, fun one => ?_, by cbv⟩
  exact absurd one.key (by decide +kernel)

end Name

end TraceCalc
