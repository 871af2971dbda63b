/-
This file shows that the distinct names of a list follow the first occurrences of its variables.
-/

import Mathlib.Data.Finset.Card
import Mathlib.Data.List.Sort
import TraceCalc.Proofs.Expr.Parameters
import TraceCalc.Proofs.Name.Repetition

namespace TraceCalc.Name

section Places

/-- The place of a variable is the index of the first name that denotes it. -/
def firstPlace (occurrences : List String) (key : String) : Nat :=
  (occurrences.map fold).idxOf key

theorem firstPlace_cons_self (name : String) (rest : List String) :
    firstPlace (name :: rest) (fold name) = 0 :=
  List.idxOf_cons_self

theorem firstPlace_cons_of_ne {name key : String} (other : fold name ≠ key)
    (rest : List String) : firstPlace (name :: rest) key = firstPlace rest key + 1 :=
  List.idxOf_cons_ne _ other

/-- The variables whose first occurrence comes before the one of the given variable. -/
def earlier (occurrences : List String) (key : String) : Finset String :=
  (occurrences.map fold).toFinset.filter fun other =>
    firstPlace occurrences other < firstPlace occurrences key

/--
The list has one name for each variable that occurs. The variables stand in the order of their
first occurrences and are spelled as there.
-/
structure IsQuotient (occurrences list : List String) : Prop where
  apart : (list.map fold).Nodup
  covered : ∀ name ∈ occurrences, ∃ kept ∈ list, fold kept = fold name
  ordered : (list.map fold).Pairwise fun key later =>
    firstPlace occurrences key < firstPlace occurrences later
  spelled : ∀ kept ∈ list, occurrences[firstPlace occurrences (fold kept)]? = some kept

end Places

section Distinct

variable {seen occurrences : List String}

/-- A key that is known already is not the key of a kept name. -/
theorem ne_of_mem_map_distinctFrom {known key : String} (passed : known ∈ seen)
    (member : key ∈ (distinctFrom seen occurrences).map fold) : known ≠ key := by
  obtain ⟨kept, found, rfl⟩ := List.mem_map.mp member
  rintro rfl
  exact fold_notMem_of_mem_distinctFrom found passed

theorem ordered_distinctFrom (seen occurrences : List String) :
    ((distinctFrom seen occurrences).map fold).Pairwise fun key later =>
      firstPlace occurrences key < firstPlace occurrences later := by
  induction occurrences generalizing seen with
  | nil => exact .nil
  | cons first rest inductionHypothesis =>
      -- Behind a name whose key is known, all places move by one.
      have shifted {seen : List String} (known : fold first ∈ seen) :
          ((distinctFrom seen rest).map fold).Pairwise fun key later =>
            firstPlace (first :: rest) key < firstPlace (first :: rest) later := by
        refine (inductionHypothesis seen).imp_of_mem fun here there before => ?_
        rw [firstPlace_cons_of_ne (ne_of_mem_map_distinctFrom known here),
          firstPlace_cons_of_ne (ne_of_mem_map_distinctFrom known there)]
        exact Nat.succ_lt_succ before
      rw [distinctFrom]
      split
      next known => exact shifted known
      next =>
          have known : fold first ∈ fold first :: seen := List.mem_cons_self
          refine List.pairwise_cons.mpr ⟨fun later there => ?_, shifted known⟩
          rw [firstPlace_cons_self, firstPlace_cons_of_ne (ne_of_mem_map_distinctFrom known there)]
          exact Nat.succ_pos _

theorem spelled_distinctFrom {kept : String} (member : kept ∈ distinctFrom seen occurrences) :
    occurrences[firstPlace occurrences (fold kept)]? = some kept := by
  induction occurrences generalizing seen with
  | nil => simp [distinctFrom] at member
  | cons first rest inductionHypothesis =>
      have shifted {seen : List String} (known : fold first ∈ seen)
          (later : kept ∈ distinctFrom seen rest) :
          (first :: rest)[firstPlace (first :: rest) (fold kept)]? = some kept := by
        rw [firstPlace_cons_of_ne (ne_of_mem_map_distinctFrom known (List.mem_map_of_mem later)),
          List.getElem?_cons_succ]
        exact inductionHypothesis later
      rw [distinctFrom] at member
      split at member
      next known => exact shifted known member
      next =>
          rcases List.mem_cons.mp member with rfl | later
          · rw [firstPlace_cons_self, List.getElem?_cons_zero]
          · exact shifted List.mem_cons_self later

theorem isQuotient_distinct (occurrences : List String) :
    IsQuotient occurrences (distinct occurrences) where
  apart := nodup_map_fold_distinctFrom [] occurrences
  covered _ member := exists_mem_distinct member
  ordered := ordered_distinctFrom [] occurrences
  spelled _ member := spelled_distinctFrom member

end Distinct

namespace IsQuotient

variable {occurrences list other : List String}

/-- The names of the list denote the variables that occur, and no others. -/
theorem mem_map_fold_iff (quotient : IsQuotient occurrences list) (key : String) :
    key ∈ list.map fold ↔ key ∈ occurrences.map fold := by
  constructor
  · intro member
    obtain ⟨kept, found, rfl⟩ := List.mem_map.mp member
    exact List.mem_map_of_mem (List.mem_of_getElem? (quotient.spelled kept found))
  · intro member
    obtain ⟨name, occurs, rfl⟩ := List.mem_map.mp member
    obtain ⟨kept, found, same⟩ := quotient.covered name occurs
    exact same ▸ List.mem_map_of_mem found

/-- The keys of the list determine its spellings. -/
theorem map_some_eq (quotient : IsQuotient occurrences list) :
    list.map some = (list.map fold).map fun key => occurrences[firstPlace occurrences key]? := by
  rw [List.map_map]
  exact List.map_congr_left fun kept member => (quotient.spelled kept member).symm

/-- The occurrences have no other list of their variables. -/
theorem eq (quotient : IsQuotient occurrences list) (second : IsQuotient occurrences other) :
    list = other := by
  let before (key later : String) : Prop :=
    firstPlace occurrences key < firstPlace occurrences later
  have irreflexive : Std.Irrefl before := ⟨fun _ => Nat.lt_irrefl _⟩
  have antisymmetric : Std.Antisymm before :=
    ⟨fun _ _ first behind => absurd behind (Nat.lt_asymm first)⟩
  have keys : list.map fold = other.map fold :=
    List.Pairwise.eq_of_mem_iff (r := before) quotient.ordered second.ordered fun key =>
      (quotient.mem_map_fold_iff key).trans (second.mem_map_fold_iff key).symm
  apply List.map_injective_iff.mpr (Option.some_injective String)
  rw [quotient.map_some_eq, second.map_some_eq, keys]

end IsQuotient

/-- Exactly the distinct names follow the first occurrences. -/
theorem isQuotient_iff {occurrences list : List String} :
    IsQuotient occurrences list ↔ list = distinct occurrences :=
  ⟨fun quotient => quotient.eq (isQuotient_distinct occurrences),
    fun same => same ▸ isQuotient_distinct occurrences⟩

section Slots

/-- In a list that is ordered by places, an item comes behind those with smaller places. -/
theorem idxOf_eq_countP {place : String → Nat} {keys : List String}
    (ordered : keys.Pairwise fun key later => place key < place later) {key : String}
    (member : key ∈ keys) : keys.idxOf key = keys.countP fun other => place other < place key := by
  induction keys with
  | nil => simp at member
  | cons first rest inductionHypothesis =>
      obtain ⟨firstLeast, restOrdered⟩ := List.pairwise_cons.mp ordered
      rcases List.mem_cons.mp member with rfl | later
      · rw [List.idxOf_cons_self, eq_comm, List.countP_eq_zero]
        refine List.forall_mem_cons.mpr ⟨by simp, fun other there => ?_⟩
        simpa using Nat.le_of_lt (firstLeast other there)
      · have before := firstLeast key later
        have apart : first ≠ key := fun same => Nat.lt_irrefl _ (same ▸ before)
        rw [List.idxOf_cons_ne _ apart, inductionHypothesis restOrdered later,
          List.countP_cons_of_pos (by simpa using before)]

/-- The index of a variable in its list counts the variables that occur before it. -/
theorem IsQuotient.idxOf_eq_card {occurrences list : List String}
    (quotient : IsQuotient occurrences list) {key : String}
    (member : key ∈ occurrences.map fold) :
    (list.map fold).idxOf key = (earlier occurrences key).card := by
  have keys : (list.map fold).toFinset = (occurrences.map fold).toFinset := by
    ext other
    rw [List.mem_toFinset, List.mem_toFinset, quotient.mem_map_fold_iff]
  rw [idxOf_eq_countP quotient.ordered ((quotient.mem_map_fold_iff key).mpr member),
    List.countP_eq_length_filter, ← List.toFinset_card_of_nodup (quotient.apart.filter _),
    List.toFinset_filter, keys, earlier]
  simp only [decide_eq_true_eq]

end Slots

section Loop

/-- The keys that were seen and the names that were kept stand in two lists. -/
structure Kept where
  keys : List String
  names : List String
  deriving DecidableEq, Repr

namespace Kept

/-- Nothing was seen yet. -/
def empty : Kept := ⟨[], []⟩

/-- A name is kept with its key unless the key was seen. -/
def add (kept : Kept) (name : String) : Kept :=
  if fold name ∈ kept.keys then kept
  else ⟨kept.keys ++ [fold name], kept.names ++ [name]⟩

end Kept

/-- Only the keys that were seen matter, not their order. -/
theorem distinctFrom_congr {seen known : List String} (same : ∀ key, key ∈ seen ↔ key ∈ known)
    (names : List String) : distinctFrom seen names = distinctFrom known names := by
  have renames : IsRenaming Eq := by
    rintro name other first second rfl rfl
    rfl
  have places : List.Forall₂ Eq (distinctFrom seen names) (distinctFrom known names) := by
    refine renames.forall₂_distinctFrom (List.forall₂_refl names) ?_
    rintro name _ rfl
    exact same (fold name)
  rwa [List.forall₂_eq_eq_eq] at places

/-- The loop adds the names with new keys behind the others, and their keys in the same places. -/
theorem Kept.foldl_add (kept : Kept) (names : List String) :
    names.foldl add kept =
      ⟨kept.keys ++ (distinctFrom kept.keys names).map fold,
        kept.names ++ distinctFrom kept.keys names⟩ := by
  induction names generalizing kept with
  | nil => simp [distinctFrom]
  | cons name rest inductionHypothesis =>
      rw [List.foldl_cons, inductionHypothesis, add, distinctFrom]
      split
      next => rfl
      next =>
          have order : distinctFrom (kept.keys ++ [fold name]) rest =
              distinctFrom (fold name :: kept.keys) rest :=
            distinctFrom_congr (fun key => by simp [or_comm]) rest
          simp only [order, List.map_cons, List.append_assoc, List.singleton_append]

end Loop

end TraceCalc.Name
