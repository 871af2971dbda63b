/-
This file shows that the parameters of an expression denote each of its variables once.
-/

import Mathlib.Data.List.Nodup
import TraceCalc.Proofs.Program.Lowering

namespace TraceCalc

/-- A name is kept unless an earlier one denotes the same variable. -/
theorem Name.exists_mem_distinctFrom (seen : List String) {names : List String} {name : String}
    (member : name ∈ names) :
    fold name ∈ seen ∨ ∃ kept ∈ distinctFrom seen names, fold kept = fold name := by
  induction names generalizing seen with
  | nil => simp at member
  | cons first rest inductionHypothesis =>
      rw [distinctFrom]
      split
      next known =>
          rcases List.mem_cons.mp member with rfl | later
          · exact .inl known
          · exact inductionHypothesis seen later
      next =>
          rcases List.mem_cons.mp member with rfl | later
          · exact .inr ⟨name, List.mem_cons_self, rfl⟩
          · rcases inductionHypothesis (fold first :: seen) later with known | ⟨kept, found, same⟩
            · rcases List.mem_cons.mp known with same | known
              · exact .inr ⟨first, List.mem_cons_self, same.symm⟩
              · exact .inl known
            · exact .inr ⟨kept, List.mem_cons_of_mem _ found, same⟩

/-- Every name denotes the same variable as one of the kept names. -/
theorem Name.exists_mem_distinct {names : List String} {name : String} (member : name ∈ names) :
    ∃ kept ∈ distinct names, fold kept = fold name := by
  rcases exists_mem_distinctFrom [] member with known | kept
  · simp at known
  · exact kept

/-- A name is kept only if no earlier one denotes the same variable. -/
theorem Name.fold_notMem_of_mem_distinctFrom {seen names : List String} {kept : String}
    (member : kept ∈ distinctFrom seen names) : fold kept ∉ seen := by
  induction names generalizing seen with
  | nil => simp [distinctFrom] at member
  | cons first rest inductionHypothesis =>
      rw [distinctFrom] at member
      split at member
      next => exact inductionHypothesis member
      next new =>
          rcases List.mem_cons.mp member with rfl | later
          · exact new
          · exact fun known => inductionHypothesis later (List.mem_cons_of_mem _ known)

theorem Name.nodup_map_fold_distinctFrom (seen names : List String) :
    ((distinctFrom seen names).map fold).Nodup := by
  induction names generalizing seen with
  | nil => exact .nil
  | cons first rest inductionHypothesis =>
      rw [distinctFrom]
      split
      next => exact inductionHypothesis seen
      next =>
          rw [List.map_cons, List.nodup_cons]
          refine ⟨fun again => ?_, inductionHypothesis _⟩
          obtain ⟨kept, member, same⟩ := List.mem_map.mp again
          apply fold_notMem_of_mem_distinctFrom member
          rw [same]
          exact List.mem_cons_self

/-- A property of variables is found at the same name when the repeated names are dropped. -/
theorem Name.find?_distinctFrom {property : String → Bool} {seen names : List String}
    (respects : ∀ name other, fold name = fold other → property name = property other)
    (passed : ∀ name, fold name ∈ seen → property name = false) :
    (distinctFrom seen names).find? property = names.find? property := by
  induction names generalizing seen with
  | nil => rfl
  | cons first rest inductionHypothesis =>
      rw [distinctFrom, List.find?_cons]
      split
      next known => rw [passed first known, inductionHypothesis passed]
      next =>
          rw [List.find?_cons]
          cases found : property first with
          | true => rfl
          | false =>
              refine inductionHypothesis fun name member => ?_
              rcases List.mem_cons.mp member with same | known
              · rw [respects name first same, found]
              · exact passed name known

/-- An expression needs no variables but its parameters. -/
theorem Expr.isCovered_parameters (expr : Expr) : expr.IsCovered expr.parameters :=
  fun _ member => Name.exists_mem_distinct member

/-- No variable of an expression has two parameters. -/
theorem Expr.nodup_map_fold_parameters (expr : Expr) : (expr.parameters.map Name.fold).Nodup :=
  Name.nodup_map_fold_distinctFrom [] expr.references

/-- Each variable of an expression has one parameter. -/
theorem Expr.countP_parameters {expr : Expr} {name : String} (member : name ∈ expr.references) :
    (expr.parameters.countP fun parameter => Name.fold parameter = Name.fold name) = 1 := by
  obtain ⟨kept, found, same⟩ := expr.isCovered_parameters name member
  have counted := List.count_eq_one_of_mem expr.nodup_map_fold_parameters
    (List.mem_map.mpr ⟨kept, found, same⟩)
  rw [← counted, List.count, List.countP_map]
  congr 1

end TraceCalc
