/-
This file compares lists of names by the variables that they repeat.
-/

import Mathlib.Data.List.Forall2
import TraceCalc.Name

namespace TraceCalc.Name

/-- The spellings denote one variable. -/
def SameKey (name other : String) : Prop := fold name = fold other

instance (name other : String) : Decidable (SameKey name other) :=
  inferInstanceAs (Decidable (_ = _))

/-- A relation of names is a renaming if it keeps equal variables equal and others apart. -/
def IsRenaming (alike : String → String → Prop) : Prop :=
  ∀ name other first second, alike name other → alike first second →
    (SameKey name first ↔ SameKey other second)

/-- At any two places, one list repeats a variable exactly if the other list does. -/
def SamePattern (names others : List String) : Prop :=
  ∀ first ∈ names.zip others, ∀ second ∈ names.zip others,
    (SameKey first.1 second.1 ↔ SameKey first.2 second.2)

instance (names others : List String) : Decidable (SamePattern names others) :=
  inferInstanceAs (Decidable (∀ first ∈ names.zip others, ∀ second ∈ names.zip others,
    (SameKey first.1 second.1 ↔ SameKey first.2 second.2)))

/-- Lists with one pattern rename the names in the same places. -/
theorem SamePattern.isRenaming {names others : List String} (pattern : SamePattern names others) :
    IsRenaming fun name other => (name, other) ∈ names.zip others :=
  fun _ _ _ _ here there => pattern _ here _ there

namespace IsRenaming

variable {alike : String → String → Prop} {names others seen known : List String}

/-- A renaming keeps the places of the names that denote a new variable. -/
theorem forall₂_distinctFrom (renames : IsRenaming alike) (places : List.Forall₂ alike names others)
    (agree : ∀ {name other : String}, alike name other → (fold name ∈ seen ↔ fold other ∈ known)) :
    List.Forall₂ alike (distinctFrom seen names) (distinctFrom known others) := by
  induction places generalizing seen known with
  | nil => exact .nil
  | cons here _ inductionHypothesis =>
      rw [distinctFrom, distinctFrom]
      split
      next old =>
          rw [if_pos ((agree here).mp old)]
          exact inductionHypothesis agree
      next new =>
          -- Both names become known, so the renaming decides for the names behind them.
          rw [if_neg (mt (agree here).mpr new)]
          refine .cons here (inductionHypothesis fun there => ?_)
          rw [List.mem_cons, List.mem_cons, agree there]
          exact or_congr_left (renames _ _ _ _ there here)

/-- The distinct names of renamed lists are renamed in the same way. -/
theorem forall₂_distinct (renames : IsRenaming alike) (places : List.Forall₂ alike names others) :
    List.Forall₂ alike (distinct names) (distinct others) :=
  renames.forall₂_distinctFrom places fun _ => by simp only [List.not_mem_nil]

end IsRenaming

end TraceCalc.Name
