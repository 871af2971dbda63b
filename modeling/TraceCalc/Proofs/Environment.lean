/-
This file states which arguments an environment passes to a program.
-/

import TraceCalc.Environment
import TraceCalc.Proofs.Program.Evaluation

namespace TraceCalc

namespace Environment

/-- A variable without a value counts as zero. -/
def valueOf (environment : Environment) (name : String) : Int64 :=
  (environment.get? name).getD 0

/-- Every one of the names has a value. -/
def Binds (environment : Environment) (names : List String) : Prop :=
  ∀ name ∈ names, (environment.get? name).isSome = true

instance (environment : Environment) (names : List String) : Decidable (environment.Binds names) :=
  inferInstanceAs (Decidable (∀ name ∈ names, _))

/-- The spelling of a variable does not matter. -/
theorem get?_congr (environment : Environment) {name other : String}
    (same : Name.fold name = Name.fold other) : environment.get? name = environment.get? other := by
  rw [get?, get?, same]

/-- The first name without a value is an error, and otherwise every name has its value. -/
theorem bind_eq (environment : Environment) (names : List String) :
    environment.bind names =
      match names.find? fun name => (environment.get? name).isNone with
      | some name => .error (.unbound name)
      | none => .ok (names.map environment.valueOf) := by
  induction names with
  | nil => rfl
  | cons name rest inductionHypothesis =>
      rw [bind, List.find?_cons]
      cases found : environment.get? name with
      | none => rfl
      | some value =>
          simp only [Option.isNone_some, inductionHypothesis]
          cases rest.find? fun name => (environment.get? name).isNone with
          | some other => rfl
          | none => simp [Except.map, valueOf, found]

theorem run_eq (environment : Environment) (program : Program) :
    environment.run program =
      match program.parameters.find? fun name => (environment.get? name).isNone with
      | some name => Run.fail (.unbound name)
      | none => program.run (program.parameters.map environment.valueOf) := by
  rw [run, bind_eq]
  cases program.parameters.find? fun name => (environment.get? name).isNone <;> rfl

theorem Binds.find?_eq_none {environment : Environment} {names : List String}
    (bound : environment.Binds names) :
    (names.find? fun name => (environment.get? name).isNone) = none := by
  rw [List.find?_eq_none]
  intro name member
  rw [Option.isNone_iff_eq_none, ← Option.not_isSome_iff_eq_none, bound name member]
  simp

theorem Binds.bind_eq_ok {environment : Environment} {names : List String}
    (bound : environment.Binds names) :
    environment.bind names = .ok (names.map environment.valueOf) := by
  rw [bind_eq, bound.find?_eq_none]

/-- The argument of a variable is the value that the environment has for it. -/
theorem argumentOf_map_valueOf (environment : Environment) {parameters : List String}
    {name : String} (covered : ∃ parameter ∈ parameters, Name.fold parameter = Name.fold name) :
    argumentOf parameters (parameters.map environment.valueOf) name = environment.valueOf name := by
  have inside : (parameters.findIdx fun parameter => Name.fold parameter = Name.fold name) <
      parameters.length := List.findIdx_lt_length_of_exists (by simpa using covered)
  have same := of_decide_eq_true (List.findIdx_getElem (w := inside))
  rw [argumentOf, List.getD_eq_getElem?_getD, List.getElem?_map, List.getElem?_eq_getElem inside,
    Option.map_some, Option.getD_some, valueOf, valueOf, environment.get?_congr same]

end Environment

end TraceCalc
