/-
This file shows that every record of an evaluation ends the records of the node that it shows.
-/

import TraceCalc.Proofs.Expr.Canonical
import TraceCalc.Proofs.Expr.Fault
import TraceCalc.Proofs.Program.Safety

namespace TraceCalc

namespace Expr

/-- An expression sees only the values of its own variables. -/
theorem evaluate_congr {first second : String → Int64} {expr : Expr}
    (same : ∀ name ∈ expr.references, first name = second name) :
    expr.evaluate first = expr.evaluate second := by
  induction expr with
  | number grouped value => rfl
  | reference grouped name =>
      exact congrArg Run.done (same name (List.mem_singleton_self name))
  | unary grouped operator operand inner =>
      rw [evaluate, evaluate, inner same]
  | binary grouped operator precedence left right before behind =>
      rw [references, List.forall_mem_append] at same
      rw [evaluate, evaluate, before same.1]
      simp only [behind same.2]

section Nodes

variable {expr node : Expr}

/-- The nodes with operators are parts of the expression. -/
theorem IsCanonical.of_mem_operatorNodes (canonical : expr.IsCanonical)
    (member : node ∈ expr.operatorNodes) : node.IsCanonical := by
  induction expr with
  | number grouped value => simp [operatorNodes] at member
  | reference grouped name => simp [operatorNodes] at member
  | unary grouped operator operand inner =>
      rw [operatorNodes, List.mem_append, List.mem_singleton] at member
      rcases member with below | rfl
      · exact inner canonical.operand.1 below
      · exact canonical
  | binary grouped operator precedence left right before behind =>
      rw [operatorNodes, List.mem_append, List.mem_append, List.mem_singleton] at member
      rcases member with (below | below) | rfl
      · exact before canonical.operands.1.1 below
      · exact behind canonical.operands.2.1 below
      · exact canonical

theorem mem_references_of_mem_operatorNodes (member : node ∈ expr.operatorNodes) {name : String}
    (occurs : name ∈ node.references) : name ∈ expr.references := by
  induction expr with
  | number grouped value => simp [operatorNodes] at member
  | reference grouped name => simp [operatorNodes] at member
  | unary grouped operator operand inner =>
      rw [operatorNodes, List.mem_append, List.mem_singleton] at member
      rcases member with below | rfl
      · exact inner below
      · exact occurs
  | binary grouped operator precedence left right before behind =>
      rw [operatorNodes, List.mem_append, List.mem_append, List.mem_singleton] at member
      rcases member with (below | below) | rfl
      · exact List.mem_append_left _ (before below)
      · exact List.mem_append_right _ (behind below)
      · exact occurs

end Nodes

section Records

variable {valuation : String → Int64} {nodes : List Expr} {records : List Record}

/-- The node at the index has a value, and its records are the last ones up to the index. -/
def IsRecordedAt (valuation : String → Int64) (nodes : List Expr) (records : List Record)
    (index : Nat) : Prop :=
  ∃ node block value, nodes[index]? = some node ∧ records[index]? = some ⟨node.text, value⟩ ∧
    node.evaluate valuation = ⟨block, .ok value⟩ ∧ block <:+ records.take (index + 1)

/-- Every record belongs to the node at the same index. -/
def AreRecorded (valuation : String → Int64) (nodes : List Expr) (records : List Record) : Prop :=
  ∀ index < records.length, IsRecordedAt valuation nodes records index

theorem IsRecordedAt.append {index : Nat} (recorded : IsRecordedAt valuation nodes records index)
    (others : List Expr) (later : List Record) :
    IsRecordedAt valuation (nodes ++ others) (records ++ later) index := by
  obtain ⟨node, block, value, place, record, evaluated, last⟩ := recorded
  obtain ⟨known, _⟩ := List.getElem?_eq_some_iff.mp place
  obtain ⟨inside, _⟩ := List.getElem?_eq_some_iff.mp record
  refine ⟨node, block, value, ?_, ?_, evaluated, ?_⟩
  · rw [List.getElem?_append_left known, place]
  · rw [List.getElem?_append_left inside, record]
  · rwa [List.take_append_of_le_length (Nat.succ_le_of_lt inside)]

theorem areRecorded_nil (nodes : List Expr) : AreRecorded valuation nodes [] := by
  intro index inside
  simp at inside

/-- A run that stops early leaves the last nodes without records. -/
theorem AreRecorded.stop (recorded : AreRecorded valuation nodes records) (others : List Expr) :
    AreRecorded valuation (nodes ++ others) records := by
  intro index inside
  have kept := (recorded index inside).append others []
  rwa [List.append_nil] at kept

/-- The records of a second part stand behind all records of the first one. -/
theorem AreRecorded.append (recorded : AreRecorded valuation nodes records)
    (complete : records.length = nodes.length) {others : List Expr} {later : List Record}
    (behind : AreRecorded valuation others later) :
    AreRecorded valuation (nodes ++ others) (records ++ later) := by
  intro index bound
  by_cases inside : index < records.length
  · exact (recorded index inside).append others later
  · obtain ⟨offset, rfl⟩ := Nat.exists_eq_add_of_le (Nat.le_of_not_lt inside)
    rw [List.length_append, Nat.add_lt_add_iff_left] at bound
    obtain ⟨node, block, value, place, record, evaluated, last⟩ := behind offset bound
    refine ⟨node, block, value, ?_, ?_, evaluated, ?_⟩
    · rw [complete, List.getElem?_append_right (Nat.le_add_right _ _), Nat.add_sub_cancel_left,
        place]
    · rw [List.getElem?_append_right (Nat.le_add_right _ _), Nat.add_sub_cancel_left, record]
    · rw [Nat.add_assoc, List.take_length_add_append]
      exact last.trans (List.suffix_append _ _)

/-- A node adds its own record to those of its operands, unless it has no value. -/
theorem AreRecorded.report (recorded : AreRecorded valuation nodes records)
    (complete : records.length = nodes.length) {node : Expr} (outcome : Except Error Int64)
    (evaluated : node.evaluate valuation = (Run.report node.text outcome).after records) :
    AreRecorded valuation (nodes ++ [node]) (node.evaluate valuation).records := by
  cases outcome with
  | error error =>
      rw [evaluated]
      simpa [Run.report, Run.fail, Run.after] using recorded.stop [node]
  | ok value =>
      simp only [Run.report, Run.after] at evaluated
      rw [evaluated]
      intro index bound
      by_cases inside : index < records.length
      · exact (recorded index inside).append [node] [⟨node.text, value⟩]
      · rw [List.length_append, List.length_singleton] at bound
        have last : index = records.length := by omega
        refine ⟨node, _, value, ?_, ?_, evaluated, ?_⟩
        · rw [last, complete, List.getElem?_concat_length]
        · rw [last, List.getElem?_concat_length]
        · rw [last, List.take_of_length_le (by simp)]

end Records

/-- The records of an expression are those of its nodes, each at the end of its own block. -/
theorem areRecorded_evaluate (valuation : String → Int64) {expr : Expr} (signed : expr.IsSigned) :
    AreRecorded valuation expr.operatorNodes (expr.evaluate valuation).records := by
  induction expr with
  | number grouped value => exact areRecorded_nil _
  | reference grouped name => exact areRecorded_nil _
  | unary grouped operator operand inner =>
      have recorded := inner signed.2
      cases ran : operand.evaluate valuation with
      | mk made result =>
          rw [ran] at recorded
          cases result with
          | error error =>
              rw [evaluate, ran]
              exact recorded.stop _
          | ok value =>
              refine recorded.report (length_records_evaluate signed.2 ran)
                (operator.onWord value) ?_
              rw [evaluate, ran]
              rfl
  | binary grouped operator precedence left right before behind =>
      have leftRecorded := before signed.1
      have rightRecorded := behind signed.2
      cases leftRan : left.evaluate valuation with
      | mk leftMade leftResult =>
          rw [leftRan] at leftRecorded
          cases leftResult with
          | error error =>
              rw [evaluate, leftRan, operatorNodes, List.append_assoc]
              exact leftRecorded.stop _
          | ok first =>
              have leftComplete := length_records_evaluate signed.1 leftRan
              cases rightRan : right.evaluate valuation with
              | mk rightMade rightResult =>
                  rw [rightRan] at rightRecorded
                  have recorded := leftRecorded.append leftComplete rightRecorded
                  cases rightResult with
                  | error error =>
                      rw [evaluate, leftRan, rightRan]
                      exact recorded.stop _
                  | ok second =>
                      have rightComplete := length_records_evaluate signed.2 rightRan
                      refine recorded.report ?_ (operator.onWords first second) ?_
                      · rw [List.length_append, List.length_append, leftComplete, rightComplete]
                      · rw [evaluate, leftRan, rightRan]
                        exact Run.after_after _ _ _

section Shown

variable {valuation : String → Int64} {expr : Expr} {nodes : List Expr} {records : List Record}
  {error : Error}

/-- The record shows the node and its value. -/
structure IsShownBy (valuation : String → Int64) (node : Expr) (record : Record) : Prop where
  label : record.label = node.text
  value : (node.evaluate valuation).result = .ok record.value

/-- The records show the first nodes, one by one. -/
theorem AreRecorded.forall₂_take (recorded : AreRecorded valuation nodes records) :
    List.Forall₂ (IsShownBy valuation) (nodes.take records.length) records := by
  rw [List.forall₂_iff_get]
  have covered : records.length ≤ nodes.length := by
    by_contra few
    obtain ⟨_, _, _, place, _⟩ := recorded nodes.length (Nat.lt_of_not_le few)
    simp at place
  refine ⟨by rw [List.length_take, Nat.min_eq_left covered], fun index _ inside => ?_⟩
  obtain ⟨node, block, value, place, record, evaluated, _⟩ := recorded index inside
  obtain ⟨_, rfl⟩ := List.getElem?_eq_some_iff.mp place
  obtain ⟨_, same⟩ := List.getElem?_eq_some_iff.mp record
  rw [List.get_eq_getElem, List.get_eq_getElem, List.getElem_take, same]
  exact ⟨rfl, congrArg Run.result evaluated⟩

/-- Behind a fault, the records show the nodes before the division that fails. -/
theorem exists_fault_of_evaluate (signed : expr.IsSigned)
    (failed : expr.evaluate valuation = ⟨records, .error error⟩) :
    ∃ before node behind, expr.operatorNodes = before ++ node :: behind ∧
      List.Forall₂ (IsShownBy valuation) before records ∧ node.IsFault valuation error := by
  obtain ⟨node, place, fault⟩ := exists_isFault_of_evaluate signed failed
  obtain ⟨inside, rfl⟩ := List.getElem?_eq_some_iff.mp place
  have recorded := areRecorded_evaluate valuation signed
  rw [failed] at recorded
  exact ⟨_, _, _, (List.take_append_drop _ _).symm.trans
    (congrArg _ (List.drop_eq_getElem_cons inside)), recorded.forall₂_take, fault⟩

/-- Without a fault, the records show all nodes. -/
theorem forall₂_operatorNodes_of_evaluate {value : Int64} (signed : expr.IsSigned)
    (evaluated : expr.evaluate valuation = ⟨records, .ok value⟩) :
    List.Forall₂ (IsShownBy valuation) expr.operatorNodes records := by
  have recorded := areRecorded_evaluate valuation signed
  rw [evaluated] at recorded
  have shown := recorded.forall₂_take
  rwa [List.take_of_length_le (length_records_evaluate signed evaluated).ge] at shown

end Shown

end Expr

end TraceCalc
