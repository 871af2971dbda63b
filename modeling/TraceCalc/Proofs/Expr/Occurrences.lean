/-
This file shows that the parameters of an expression follow the first occurrences of its variables.
-/

import TraceCalc.Proofs.Name.FirstOccurrence
import TraceCalc.Proofs.Program.Defect

namespace TraceCalc.Expr

section Search

/-- Only a variable has a name. -/
def name? : Expr → Option String
  | .reference _ name => some name
  | .number _ _ | .unary _ _ _ | .binary _ _ _ _ _ => none

/-- The names of an expression are those of its nodes, each as often as it occurs. -/
theorem references_eq_filterMap (expr : Expr) : expr.references = expr.nodes.filterMap name? := by
  induction expr with
  | number grouped value => rfl
  | reference grouped name => rfl
  | unary grouped operator operand inner =>
      rw [references, nodes, List.filterMap_append, inner]
      exact (List.append_nil _).symm
  | binary grouped operator precedence left right before behind =>
      rw [references, nodes, List.filterMap_append, List.filterMap_append, before, behind]
      exact (List.append_nil _).symm

/-- The expression on top of the stack is searched first, and its operands take its place. -/
def nextReference? (pending : List Expr) : Option (String × List Expr) :=
  match pending with
  | [] => none
  | .number _ _ :: rest => nextReference? rest
  | .reference _ name :: rest => some (name, rest)
  | .unary _ _ operand :: rest => nextReference? (operand :: rest)
  | .binary _ _ _ left right :: rest => nextReference? (left :: right :: rest)

/-- The next name is the first one of all that are pending, and the others stay pending. -/
theorem references_of_nextReference? (pending : List Expr) :
    pending.flatMap references =
      match nextReference? pending with
      | none => []
      | some (name, rest) => name :: rest.flatMap references := by
  fun_induction nextReference? pending with
  | case1 => rfl
  | case2 grouped value rest inductionHypothesis => exact inductionHypothesis
  | case3 grouped name rest => rfl
  | case4 grouped operator operand rest inductionHypothesis => exact inductionHypothesis
  | case5 grouped operator precedence left right rest inductionHypothesis =>
      rw [← inductionHypothesis, List.flatMap_cons, List.flatMap_cons, List.flatMap_cons,
        references, List.append_assoc]

theorem length_of_nextReference? {pending rest : List Expr} {name : String}
    (found : nextReference? pending = some (name, rest)) :
    (rest.flatMap references).length < (pending.flatMap references).length := by
  rw [references_of_nextReference? pending, found]
  exact Nat.lt_succ_self _

/-- The search goes on until no name is found. -/
def walkReferences (pending : List Expr) : List String :=
  match found : nextReference? pending with
  | none => []
  | some (name, rest) =>
      have := length_of_nextReference? found
      name :: walkReferences rest
  termination_by (pending.flatMap references).length
  decreasing_by exact this

/-- The search finds what recursion lists. -/
theorem walkReferences_eq_flatMap (pending : List Expr) :
    walkReferences pending = pending.flatMap references := by
  fun_induction walkReferences pending with
  | case1 pending found => rw [references_of_nextReference? pending, found]
  | case2 pending name rest found _ inductionHypothesis =>
      rw [references_of_nextReference? pending, found, inductionHypothesis]

theorem walkReferences_singleton (expr : Expr) : walkReferences [expr] = expr.references := by
  rw [walkReferences_eq_flatMap, List.flatMap_singleton]

end Search

/-- The slot of a variable counts the variables that occur for the first time before it. -/
theorem slot?_parameters {expr : Expr} {name : String} (member : name ∈ expr.references) :
    slot? (expr.parameters.map Name.fold) name =
      some (Name.earlier expr.references (Name.fold name)).card := by
  have quotient := Name.isQuotient_distinct expr.references
  have occurs : Name.fold name ∈ expr.references.map Name.fold := List.mem_map_of_mem member
  have listed : Name.fold name ∈ expr.parameters.map Name.fold :=
    (quotient.mem_map_fold_iff _).mpr occurs
  have place : (expr.parameters.map Name.fold).idxOf (Name.fold name) =
      (Name.earlier expr.references (Name.fold name)).card := quotient.idxOf_eq_card occurs
  rw [slot?, List.idxOf?, ← place, List.findIdx?_eq_some_iff_findIdx_eq]
  exact ⟨List.idxOf_lt_length_of_mem listed, rfl⟩

/--
The search with a stack finds the names of all variables from left to right, and the loop over
them keeps the parameters beside their keys. The parameters are the only list that names each
variable once, in the order and in the spelling of the first occurrences, and the slot of a
variable counts the variables that occur for the first time before it.
-/
theorem parameters_isQuotient (expr : Expr) :
    walkReferences [expr] = expr.nodes.filterMap name? ∧
      walkReferences [expr] = expr.references ∧
      (walkReferences [expr]).foldl Name.Kept.add .empty =
        ⟨expr.parameters.map Name.fold, expr.parameters⟩ ∧
      (∀ list, Name.IsQuotient expr.references list ↔ list = expr.parameters) ∧
      ∀ name ∈ expr.references, slot? (expr.parameters.map Name.fold) name =
        some (Name.earlier expr.references (Name.fold name)).card := by
  refine ⟨?_, walkReferences_singleton expr, ?_, fun list => Name.isQuotient_iff,
    fun name member => slot?_parameters member⟩
  · rw [walkReferences_singleton, references_eq_filterMap]
  · rw [walkReferences_singleton, Name.Kept.foldl_add]
    rfl

/-- Two variables occur for the first time before the one that is spelled in two ways. -/
theorem parameters_isQuotient_of_spellings :
    let expr := Expr.binary false .plus Operator.plus.precedence
      (.binary false .times Operator.times.precedence (.reference false "Ä") (.reference true "b"))
      (.unary false .minus
        (.binary true .divide Operator.divide.precedence
          (.binary false .times Operator.times.precedence (.reference false "ä")
            (.reference false "X"))
          (.reference false "x")))
    walkReferences [expr] = ["Ä", "b", "ä", "X", "x"] ∧ expr.parameters = ["Ä", "b", "X"] ∧
      slot? (expr.parameters.map Name.fold) "x" = some 2 ∧
      (Name.earlier expr.references (Name.fold "x")).card = 2 := by
  intro expr
  obtain ⟨_, found, _, _, slots⟩ := parameters_isQuotient expr
  have slot : slot? (expr.parameters.map Name.fold) "x" = some 2 := by decide +kernel
  refine ⟨found, by decide +kernel, slot, ?_⟩
  exact Option.some.inj ((slots "x" (by decide)).symm.trans slot)

end TraceCalc.Expr
