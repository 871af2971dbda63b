/-
This file keeps the values of variables.
-/

import TraceCalc.Name
import TraceCalc.Program.Execution

namespace TraceCalc

/-- An environment binds folded names to values, each name at most once. -/
structure Environment where
  bindings : List (String × Int64)
  distinct : (bindings.map Prod.fst).Nodup
  deriving DecidableEq, Repr

namespace Environment

/-- No variable has a value at first. -/
def empty : Environment := ⟨[], by simp⟩

/-- Every spelling of a variable finds its value. -/
def get? (environment : Environment) (name : String) : Option Int64 :=
  environment.bindings.lookup (Name.fold name)

/-- The new binding takes the place of the binding that the variable had before. -/
def insert (environment : Environment) (name : String) (value : Int64) : Environment where
  bindings := (Name.fold name, value) ::
    environment.bindings.filter fun binding => binding.1 != Name.fold name
  distinct := by
    rw [List.map_cons, List.nodup_cons]
    constructor
    · simp
    · exact environment.distinct.sublist (List.filter_sublist.map Prod.fst)

/-- The bindings are added from left to right. -/
def insertMany (environment : Environment) (bindings : List (String × Int64)) : Environment :=
  bindings.foldl (fun current binding => current.insert binding.1 binding.2) environment

/-- The first name without a value is reported. -/
def bind (environment : Environment) : List String → Except Error (List Int64)
  | [] => .ok []
  | name :: rest =>
      match environment.get? name with
      | some value => (environment.bind rest).map (value :: ·)
      | none => .error (.unbound name)

/-- The parameters get their values before the program runs. -/
def run (environment : Environment) (program : Program) : Run :=
  match environment.bind program.parameters with
  | .ok arguments => program.run arguments
  | .error error => Run.fail error

@[simp] theorem get?_empty (name : String) : empty.get? name = none := rfl

/-- Removing one key does not change the values of the others. -/
theorem lookup_filter_of_ne {key other : String} (different : other ≠ key)
    (bindings : List (String × Int64)) :
    (bindings.filter fun binding => binding.1 != key).lookup other = bindings.lookup other := by
  induction bindings with
  | nil => rfl
  | cons binding rest inductionHypothesis =>
      by_cases removed : binding.1 = key
      · have skipped : (other == binding.1) = false := by
          rw [removed]
          exact beq_eq_false_iff_ne.mpr different
        rw [List.filter_cons_of_neg (by simp [removed]), inductionHypothesis]
        rw [show binding = (binding.1, binding.2) from rfl, List.lookup_cons, skipped]
      · rw [List.filter_cons_of_pos (by simp [removed])]
        rw [show binding = (binding.1, binding.2) from rfl, List.lookup_cons, List.lookup_cons,
          inductionHypothesis]

theorem get?_insert (environment : Environment) (name other : String) (value : Int64) :
    (environment.insert name value).get? other =
      if Name.fold other = Name.fold name then some value else environment.get? other := by
  by_cases same : Name.fold other = Name.fold name
  · simp [insert, get?, same]
  · have skipped : (Name.fold other == Name.fold name) = false :=
      beq_eq_false_iff_ne.mpr same
    simp only [insert, get?, List.lookup_cons, skipped, if_neg same]
    exact lookup_filter_of_ne same environment.bindings

end Environment

end TraceCalc
