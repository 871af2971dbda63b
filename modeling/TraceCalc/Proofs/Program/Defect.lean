/-
This file shows that lowering fails exactly on defective expressions and reports the first defect.
-/

import TraceCalc.Proofs.Program.Visits

namespace TraceCalc

/-- The error of a computation that fails. -/
def failure? {α : Type} : Except Error α → Option Error
  | .ok _ => none
  | .error error => some error

theorem failure?_eq_some_iff {α : Type} {result : Except Error α} {error : Error} :
    failure? result = some error ↔ result = .error error := by
  cases result <;> simp [failure?]

namespace Expr

/-- Every node is listed behind its operands, and the left operand comes first. -/
def nodes : Expr → List Expr
  | .number grouped value => [number grouped value]
  | .reference grouped name => [reference grouped name]
  | .unary grouped operator operand => operand.nodes ++ [unary grouped operator operand]
  | .binary grouped operator precedence left right =>
      left.nodes ++ right.nodes ++ [binary grouped operator precedence left right]

/-- No parameter denotes the variable of the node, or its operator needs two operands. -/
inductive IsDefective (parameters : List String) : Expr → Error → Prop
  | missing {grouped : Bool} {name : String}
      (absent : ∀ parameter ∈ parameters, Name.fold parameter ≠ Name.fold name) :
      IsDefective parameters (.reference grouped name) (.missingVariable name)
  | unsigned {grouped : Bool} {operator : Operator} {operand : Expr}
      (infixOnly : operator = .times ∨ operator = .divide) :
      IsDefective parameters (.unary grouped operator operand) (.unsupportedSign operator)

/-- The defect of the node itself, whatever its operands are. -/
def defect? (keys : List String) : Expr → Option Error
  | .reference _ name => if Name.fold name ∈ keys then none else some (.missingVariable name)
  | .unary _ operator _ => if operator.isSign then none else some (.unsupportedSign operator)
  | .number _ _ | .binary _ _ _ _ _ => none

section Defects

variable {parameters : List String} {node expr : Expr} {error : Error}

theorem defect?_eq_some_iff :
    node.defect? (parameters.map Name.fold) = some error ↔ node.IsDefective parameters error := by
  constructor
  · intro found
    cases node with
    | number | binary => simp [defect?] at found
    | reference grouped name =>
        rw [defect?, Option.ite_none_left_eq_some, Option.some.injEq] at found
        obtain ⟨absent, rfl⟩ := found
        exact .missing fun parameter member same =>
          absent (List.mem_map.mpr ⟨parameter, member, same⟩)
    | unary grouped operator operand =>
        rw [defect?, Option.ite_none_left_eq_some, Option.some.injEq] at found
        obtain ⟨unsigned, rfl⟩ := found
        cases operator with
        | plus | minus => simp [Operator.isSign] at unsigned
        | times => exact .unsigned (.inl rfl)
        | divide => exact .unsigned (.inr rfl)
  · intro defective
    cases defective with
    | missing absent =>
        refine if_neg fun member => ?_
        obtain ⟨parameter, present, same⟩ := List.mem_map.mp member
        exact absent parameter present same
    | unsigned infixOnly => rcases infixOnly with rfl | rfl <;> rfl

theorem defect?_eq_none_iff :
    node.defect? (parameters.map Name.fold) = none ↔
      ∀ error, ¬ node.IsDefective parameters error := by
  rw [Option.eq_none_iff_forall_ne_some]
  exact forall_congr' fun error => not_congr defect?_eq_some_iff

/-- Without a defective node there is a sign at every single operand and a slot for every name. -/
theorem isSigned_and_isCovered (sound : ∀ node ∈ expr.nodes, ∀ error,
    ¬ node.IsDefective parameters error) : expr.IsSigned ∧ expr.IsCovered parameters := by
  induction expr with
  | number grouped value => exact ⟨trivial, by simp [IsCovered, references]⟩
  | reference grouped name =>
      refine ⟨trivial, fun other occurs => ?_⟩
      rw [List.mem_singleton.mp occurs]
      by_cases present : ∃ parameter ∈ parameters, Name.fold parameter = Name.fold name
      · exact present
      · refine absurd (.missing fun parameter member same => ?_)
          (sound _ (List.mem_singleton_self _) (.missingVariable name))
        exact present ⟨parameter, member, same⟩
  | unary grouped operator operand inner =>
      obtain ⟨signed, covered⟩ := inner fun node member =>
        sound node (List.mem_append_left _ member)
      refine ⟨⟨?_, signed⟩, covered⟩
      have own := sound _ (List.mem_append_right operand.nodes (List.mem_singleton_self _))
      cases operator with
      | plus | minus => rfl
      | times => exact absurd (.unsigned (.inl rfl)) (own _)
      | divide => exact absurd (.unsigned (.inr rfl)) (own _)
  | binary grouped operator precedence left right before behind =>
      obtain ⟨leftSigned, leftCovered⟩ := before fun node member =>
        sound node (List.mem_append_left _ (List.mem_append_left _ member))
      obtain ⟨rightSigned, rightCovered⟩ := behind fun node member =>
        sound node (List.mem_append_left _ (List.mem_append_right _ member))
      refine ⟨⟨leftSigned, rightSigned⟩, fun name occurs => ?_⟩
      exact (List.mem_append.mp occurs).elim (leftCovered name) (rightCovered name)

end Defects

/-- Exactly the keys have slots. -/
theorem slot?_eq_none_iff {keys : List String} {name : String} :
    slot? keys name = none ↔ Name.fold name ∉ keys := by
  rw [slot?, List.idxOf?_eq_none_iff]

/-- The nodes are lowered in their order, and the first label plays no part in the defects. -/
theorem failure?_lowerFrom (keys : List String) (firstLabel : Nat) (expr : Expr) :
    failure? (expr.lowerFrom keys firstLabel) = expr.nodes.findSome? (defect? keys) := by
  induction expr generalizing firstLabel with
  | number grouped value => rfl
  | reference grouped name =>
      rw [lowerFrom, nodes, List.findSome?_singleton, defect?]
      cases found : slot? keys name with
      | none => rw [if_neg (slot?_eq_none_iff.mp found), failure?]
      | some slot =>
          have present : Name.fold name ∈ keys := by
            apply Decidable.of_not_not
            intro absent
            rw [slot?_eq_none_iff.mpr absent] at found
            simp at found
          rw [if_pos present, failure?]
  | unary grouped operator operand inner =>
      rw [lowerFrom, nodes, List.findSome?_append, ← inner firstLabel, List.findSome?_singleton]
      cases operand.lowerFrom keys firstLabel with
      | error error => rfl
      | ok segment => cases operator <;> rfl
  | binary grouped operator precedence left right before behind =>
      rw [lowerFrom, nodes, List.append_assoc, List.findSome?_append, List.findSome?_append,
        ← before firstLabel, List.findSome?_singleton]
      cases left.lowerFrom keys firstLabel with
      | error error => rfl
      | ok first =>
          rw [← behind (firstLabel + first.labels.length)]
          simp only [bind, Except.bind]
          cases right.lowerFrom keys (firstLabel + first.labels.length) <;> rfl

end Expr

namespace Program

theorem failure?_ofExpr (expr : Expr) (parameters : List String) :
    failure? (ofExpr expr parameters) =
      expr.nodes.findSome? (Expr.defect? (parameters.map Name.fold)) := by
  rw [← Expr.failure?_lowerFrom (parameters.map Name.fold) 0, ofExpr]
  cases expr.lowerFrom (parameters.map Name.fold) 0 <;> rfl

/--
Recursion and visits in turn fail exactly if a node is defective. They report the defect of the
node that comes first in post-order, and the message names its variable as it is spelled there, or
its operator. There is a program exactly if the signs and the variables of the expression are sound.
-/
theorem ofExpr_reports_first_defect (expr : Expr) (parameters : List String) :
    ofVisits expr parameters = ofExpr expr parameters ∧
      ((∃ error, ofExpr expr parameters = .error error) ↔
        ∃ node ∈ expr.nodes, ∃ error, node.IsDefective parameters error) ∧
      (∀ error, ofExpr expr parameters = .error error ↔
        ∃ before node behind, expr.nodes = before ++ node :: behind ∧
          node.IsDefective parameters error ∧
          ∀ other ∈ before, ∀ cause, ¬ other.IsDefective parameters cause) ∧
      (∀ (node : Expr) (error : Error), node.IsDefective parameters error →
        (∀ grouped name, node = .reference grouped name → error.message =
          "compile error: Variable `" ++ name ++ "` is missing from the variable list") ∧
        ∀ grouped operator operand, node = .unary grouped operator operand → error.message =
          "compile error: Unsupported unary operator " ++ operator.symbol) ∧
      ((∃ program, ofExpr expr parameters = .ok program) ↔
        expr.IsSigned ∧ expr.IsCovered parameters) := by
  have first (error : Error) : ofExpr expr parameters = .error error ↔
      ∃ before node behind, expr.nodes = before ++ node :: behind ∧
        node.IsDefective parameters error ∧
        ∀ other ∈ before, ∀ cause, ¬ other.IsDefective parameters cause := by
    rw [← failure?_eq_some_iff, failure?_ofExpr, List.findSome?_eq_some_iff]
    simp only [Expr.defect?_eq_some_iff, Expr.defect?_eq_none_iff]
  refine ⟨ofVisits_eq_ofExpr expr parameters, ⟨?_, ?_⟩, first, ?_, ⟨?_, ?_⟩⟩
  · rintro ⟨error, failed⟩
    obtain ⟨before, node, behind, split, defective, _⟩ := (first error).mp failed
    exact ⟨node, by simp [split], error, defective⟩
  · rintro ⟨node, member, error, defective⟩
    have found : (expr.nodes.findSome? (Expr.defect? (parameters.map Name.fold))).isSome = true :=
      List.findSome?_isSome_iff.mpr
        ⟨node, member, by rw [Expr.defect?_eq_some_iff.mpr defective]; rfl⟩
    obtain ⟨reported, same⟩ := Option.isSome_iff_exists.mp found
    exact ⟨reported, failure?_eq_some_iff.mp ((failure?_ofExpr _ _).trans same)⟩
  · rintro node error (absent | infixOnly)
    · refine ⟨fun grouped name same => ?_, fun _ _ _ same => by simp at same⟩
      rw [← (Expr.reference.inj same).2, Error.message_missingVariable]
    · refine ⟨fun _ _ same => by simp at same, fun grouped operator operand same => ?_⟩
      rw [← (Expr.unary.inj same).2.1, Error.message_unsupportedSign]
  · rintro ⟨program, lowered⟩
    refine Expr.isSigned_and_isCovered fun node member error defective => ?_
    have found := failure?_ofExpr expr parameters
    rw [lowered] at found
    have sound := List.findSome?_eq_none_iff.mp found.symm node member
    exact Expr.defect?_eq_none_iff.mp sound error defective
  · rintro ⟨signed, covered⟩
    obtain ⟨segment, lowered⟩ := expr.exists_lowerFrom signed covered 0
    exact ⟨⟨parameters, segment.instructions, segment.labels⟩, by rw [ofExpr, lowered]; rfl⟩

/-- The variable of an operand is missed before the operator is refused. -/
example : ofExpr (.unary false .times (.reference false "a")) ["b"] =
    .error (.missingVariable "a") := rfl

end Program

end TraceCalc
