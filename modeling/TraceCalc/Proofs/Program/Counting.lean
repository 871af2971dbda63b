/-
This file shows that the loop of visits counts the height of the stack without an underflow.
-/

import TraceCalc.Proofs.Program.Height
import TraceCalc.Proofs.Program.Visits

namespace TraceCalc

namespace Visit

/-- A node that is left works on the values of its operands. -/
def operands : Visit → Nat
  | .enter _ => 0
  | .leave (.binary _ _ _ _ _) => 2
  | .leave (.number _ _) | .leave (.reference _ _) | .leave (.unary _ _ _) => 1

/-- With the visits that it asks for, a node that is entered puts one value on the stack. -/
def heightAfter (height : Nat) : Visit → Nat
  | .enter _ => height + 1
  | .leave (.binary _ _ _ _ _) => height - 1
  | .leave (.number _ _) | .leave (.reference _ _) | .leave (.unary _ _ _) => height

/-- The height after the visits exists when none of them lacks operands. -/
def heightFrom (height : Nat) : List Visit → Option Nat
  | [] => some height
  | visit :: rest =>
      if visit.operands ≤ height then heightFrom (visit.heightAfter height) rest else none

theorem heightFrom_cons_eq_some {visit : Visit} {rest : List Visit} {height final : Nat}
    (balanced : heightFrom height (visit :: rest) = some final) :
    visit.operands ≤ height ∧ heightFrom (visit.heightAfter height) rest = some final := by
  rw [heightFrom] at balanced
  split at balanced
  next enough => exact ⟨enough, balanced⟩
  next => simp at balanced

theorem heightFrom_cons {visit : Visit} {rest : List Visit} {height : Nat}
    (enough : visit.operands ≤ height) :
    heightFrom height (visit :: rest) = heightFrom (visit.heightAfter height) rest := by
  rw [heightFrom, if_pos enough]

end Visit

namespace Draft

/-- The counter of the draft is the height that its instructions leave. -/
structure HasHeight (draft : Draft) (height : Nat) : Prop where
  depth : draft.depth = height
  balanced : Program.heightFrom 0 draft.instructions = some height

namespace HasHeight

variable {draft : Draft} {height : Nat}

theorem empty : Draft.empty.HasHeight 0 := ⟨rfl, rfl⟩

theorem addLabels (counted : draft.HasHeight height) (labels : List String) :
    (draft.addLabels labels).HasHeight height := ⟨counted.depth, counted.balanced⟩

/-- The counter follows an instruction that does not lack operands. -/
theorem push (counted : draft.HasHeight height) {instruction : Instruction}
    (enough : instruction.operands ≤ height) :
    (draft.push instruction).HasHeight (instruction.heightAfter height) := by
  constructor
  · have depth := counted.depth
    cases instruction with
    | const value =>
        change draft.depth + 1 = ((height + 1 : Nat) : Int)
        omega
    | load slot =>
        change draft.depth + 1 = ((height + 1 : Nat) : Int)
        omega
    | negate => exact depth
    | combine operator =>
        change 2 ≤ height at enough
        change draft.depth - 1 = ((height - 1 : Nat) : Int)
        omega
    | trace label => exact depth
  · rw [instructions_push, Program.heightFrom_append, counted.balanced]
    exact Program.heightFrom_cons enough

/-- The counter follows a run of instructions in which none lacks operands. -/
theorem pushAll (counted : draft.HasHeight height) {code : List Instruction} {final : Nat}
    (balanced : Program.heightFrom height code = some final) :
    (draft.pushAll code).HasHeight final := by
  induction code generalizing draft height with
  | nil =>
      rw [← Option.some.inj balanced]
      exact counted
  | cons instruction rest inductionHypothesis =>
      obtain ⟨enough, restBalanced⟩ := Program.heightFrom_cons_eq_some balanced
      exact inductionHypothesis (counted.push enough) restBalanced

/-- A trace keeps the value that it reports. -/
theorem trace (counted : draft.HasHeight height) (expr : Expr) (enough : 1 ≤ height) :
    (draft.trace expr).HasHeight height :=
  (counted.addLabels [expr.text]).push enough

/-- The counter never was below zero on the way to the draft. -/
theorem nonnegative (counted : draft.HasHeight height) {code rest : List Instruction}
    (split : draft.instructions = code ++ rest) : 0 ≤ (Draft.empty.pushAll code).depth := by
  have balanced := counted.balanced
  rw [split, Program.heightFrom_append, Option.bind_eq_some_iff] at balanced
  obtain ⟨between, first, _⟩ := balanced
  rw [(HasHeight.empty.pushAll first).depth]
  exact Int.natCast_nonneg between

/-- A visit with enough operands keeps the counter right and the pending visits in balance. -/
theorem visit {keys : List String} {next : Draft} {visit : Visit} {visits : List Visit}
    (counted : draft.HasHeight height) (success : draft.visit keys visit = .ok (next, visits))
    (enough : visit.operands ≤ height) :
    ∃ between, next.HasHeight between ∧ ∀ rest, Visit.heightFrom between (visits ++ rest) =
      Visit.heightFrom (visit.heightAfter height) rest := by
  cases visit with
  | enter expr =>
      cases expr with
      | number grouped value =>
          obtain ⟨rfl, rfl⟩ := Prod.mk.inj (Except.ok.inj success)
          exact ⟨_, counted.push (Nat.zero_le height), fun _ => rfl⟩
      | reference grouped name =>
          rw [Draft.visit] at success
          split at success
          next slot _ =>
              obtain ⟨rfl, rfl⟩ := Prod.mk.inj (Except.ok.inj success)
              exact ⟨_, counted.push (Nat.zero_le height), fun _ => rfl⟩
          next => simp at success
      | unary grouped operator operand =>
          obtain ⟨rfl, rfl⟩ := Prod.mk.inj (Except.ok.inj success)
          refine ⟨height, counted, fun rest => ?_⟩
          rw [List.cons_append, Visit.heightFrom_cons (Nat.zero_le height)]
          exact Visit.heightFrom_cons (Nat.le_add_left 1 height)
      | binary grouped operator precedence left right =>
          obtain ⟨rfl, rfl⟩ := Prod.mk.inj (Except.ok.inj success)
          -- The operands put two values on the stack before the node is left.
          refine ⟨height, counted, fun rest => ?_⟩
          rw [List.cons_append, Visit.heightFrom_cons (Nat.zero_le height), List.cons_append,
            Visit.heightFrom_cons (Nat.zero_le (height + 1))]
          exact Visit.heightFrom_cons (Nat.le_add_left 2 height)
  | leave expr =>
      cases expr with
      | number grouped value =>
          obtain ⟨rfl, rfl⟩ := Prod.mk.inj (Except.ok.inj success)
          exact ⟨height, counted.trace _ enough, fun _ => rfl⟩
      | reference grouped name =>
          obtain ⟨rfl, rfl⟩ := Prod.mk.inj (Except.ok.inj success)
          exact ⟨height, counted.trace _ enough, fun _ => rfl⟩
      | unary grouped operator operand =>
          rw [Draft.visit] at success
          split at success
          next code sign =>
              obtain ⟨rfl, rfl⟩ := Prod.mk.inj (Except.ok.inj success)
              obtain ⟨below, rfl⟩ := Nat.exists_eq_add_of_le' enough
              have balanced := Program.heightFrom_signCode sign below []
              rw [List.append_nil] at balanced
              exact ⟨below + 1, (counted.pushAll balanced).trace _ enough, fun _ => rfl⟩
          next => simp at success
      | binary grouped operator precedence left right =>
          obtain ⟨rfl, rfl⟩ := Prod.mk.inj (Except.ok.inj success)
          change (Instruction.combine operator).operands ≤ height at enough
          exact ⟨height - 1, (counted.push enough).trace _ (Nat.le_sub_one_of_lt enough),
            fun _ => rfl⟩

end HasHeight

/-- The loop reaches a draft with the visits that are still pending. -/
inductive Reaches (keys : List String) (expr : Expr) : Draft → List Visit → Prop
  | start : Reaches keys expr .empty [.enter expr]
  | visit {draft next : Draft} {visit : Visit} {visits rest : List Visit}
      (reached : Reaches keys expr draft (visit :: rest))
      (success : draft.visit keys visit = .ok (next, visits)) :
      Reaches keys expr next (visits ++ rest)

namespace Reaches

variable {keys : List String} {expr : Expr} {draft final : Draft} {pending : List Visit}

/-- The counter is right in the whole loop, and the pending visits leave one value. -/
theorem exists_hasHeight (reached : Reaches keys expr draft pending) :
    ∃ height, draft.HasHeight height ∧ Visit.heightFrom height pending = some 1 := by
  induction reached with
  | start => exact ⟨0, .empty, rfl⟩
  | visit _ success inductionHypothesis =>
      obtain ⟨height, counted, balanced⟩ := inductionHypothesis
      obtain ⟨enough, balanced⟩ := Visit.heightFrom_cons_eq_some balanced
      obtain ⟨between, countedNext, same⟩ := counted.visit success enough
      exact ⟨between, countedNext, (same _).trans balanced⟩

/-- A loop that ends reaches its last draft with no visit pending. -/
theorem of_walk (reached : Reaches keys expr draft pending)
    (success : draft.walk keys pending = .ok final) : Reaches keys expr final [] := by
  induction draft, pending using Draft.walk.induct keys with
  | case1 draft =>
      rw [walk, Except.ok.injEq] at success
      rwa [← success]
  | case2 draft visit rest error failed =>
      rw [walk_cons, failed] at success
      simp at success
  | case3 draft visit rest next visits visited _ inductionHypothesis =>
      rw [walk_cons, visited] at success
      exact inductionHypothesis (reached.visit visited) success

end Reaches

/--
The counter is not below zero, and it was not after any earlier instruction. The next visit finds
its operands, and after the last one the counter is one.
-/
structure IsCounted (draft : Draft) (pending : List Visit) : Prop where
  nonnegative : 0 ≤ draft.depth
  earlier : ∀ code rest, draft.instructions = code ++ rest → 0 ≤ (empty.pushAll code).depth
  enough : ∀ visit ∈ pending.head?, visit.operands ≤ draft.depth
  final : pending = [] → draft.depth = 1

theorem Reaches.isCounted {keys : List String} {expr : Expr} {draft : Draft}
    {pending : List Visit} (reached : Reaches keys expr draft pending) :
    draft.IsCounted pending := by
  obtain ⟨height, counted, balanced⟩ := reached.exists_hasHeight
  constructor
  case nonnegative =>
    rw [counted.depth]
    exact Int.natCast_nonneg height
  case earlier => exact fun _ _ split => counted.nonnegative split
  case enough =>
    intro visit next
    cases pending with
    | nil => simp at next
    | cons first rest =>
        rw [← Option.some.inj next, counted.depth]
        exact Int.ofNat_le.mpr (Visit.heightFrom_cons_eq_some balanced).1
  case final =>
    rintro rfl
    rw [counted.depth, Option.some.inj balanced]
    rfl

end Draft

end TraceCalc
