/-
This file finds the division that stops an evaluation.
-/

import TraceCalc.Proofs.Expr.Evaluation

namespace TraceCalc

namespace Run

variable {run : Run} {next : Int64 → Run} {records : List Record} {error : Error}

/-- A fault comes from the first run, or from the next one behind the records of the first. -/
theorem andThen_eq_error (failed : run.andThen next = ⟨records, .error error⟩) :
    run = ⟨records, .error error⟩ ∨ ∃ made value later, run = ⟨made, .ok value⟩ ∧
      next value = ⟨later, .error error⟩ ∧ records = made ++ later := by
  cases run with
  | mk made result =>
      cases result with
      | error cause => exact .inl failed
      | ok value =>
          refine .inr ⟨made, value, (next value).records, rfl, ?_⟩
          simp only [andThen, after, mk.injEq] at failed
          exact ⟨by rw [← failed.2], failed.1.symm⟩

/-- A fault is not reported. -/
theorem report_eq_error {text : String} {outcome : Except Error Int64}
    (failed : report text outcome = ⟨records, .error error⟩) :
    records = [] ∧ outcome = .error error := by
  cases outcome with
  | ok value => simp [report] at failed
  | error cause =>
      simp only [report, fail, mk.injEq, Except.error.injEq] at failed
      exact ⟨failed.1.symm, congrArg Except.error failed.2⟩

end Run

namespace Expr

variable {valuation : String → Int64} {expr : Expr} {records : List Record} {error : Error}

/-- The node is a division whose operands have values without a quotient. -/
inductive IsFault (valuation : String → Int64) : Expr → Error → Prop
  | quotient {grouped : Bool} {precedence : Precedence} {left right : Expr}
      {dividend divisor : Int64} {error : Error}
      (leftValue : (left.evaluate valuation).result = .ok dividend)
      (rightValue : (right.evaluate valuation).result = .ok divisor)
      (failed : TraceCalc.quotient dividend divisor = .error error) :
      IsFault valuation (.binary grouped .divide precedence left right) error

theorem IsFault.phase_eq {node : Expr} (fault : node.IsFault valuation error) :
    error.phase = .calculating := by
  cases fault with
  | quotient _ _ failed => exact phase_of_quotient failed

/-- The node is a division without a quotient, and the text names its dividend. -/
inductive FailsWith (valuation : String → Int64) : Expr → String → Prop
  | byZero {grouped : Bool} {precedence : Precedence} {left right : Expr} {dividend : Int64}
      (leftValue : (left.evaluate valuation).result = .ok dividend)
      (rightValue : (right.evaluate valuation).result = .ok 0) :
      FailsWith valuation (.binary grouped .divide precedence left right)
        ("arithmetic fault: Attempted to divide " ++ dividend.toInt.repr ++ " by zero")
  | overflow {grouped : Bool} {precedence : Precedence} {left right : Expr}
      (leftValue : (left.evaluate valuation).result = .ok Int64.minValue)
      (rightValue : (right.evaluate valuation).result = .ok (-1)) :
      FailsWith valuation (.binary grouped .divide precedence left right)
        "arithmetic fault: Overflow in -9223372036854775808 / -1"

theorem IsFault.failsWith {node : Expr} (fault : node.IsFault valuation error) :
    node.FailsWith valuation error.message := by
  cases fault with
  | quotient leftValue rightValue failed =>
      rcases quotient_eq_error failed with ⟨rfl, rfl⟩ | ⟨rfl, rfl, rfl⟩
      · rw [Error.message_divisionByZero]
        exact .byZero leftValue rightValue
      · exact .overflow leftValue rightValue

/-- Only a division has operands with values and no value of its own. -/
theorem isFault_of_onWords {grouped : Bool} {operator : Operator} {precedence : Precedence}
    {left right : Expr} {first second : Int64}
    (leftValue : (left.evaluate valuation).result = .ok first)
    (rightValue : (right.evaluate valuation).result = .ok second)
    (failed : operator.onWords first second = .error error) :
    (Expr.binary grouped operator precedence left right).IsFault valuation error := by
  rw [← Operator.apply_eq_onWords] at failed
  cases operator with
  | divide => exact .quotient leftValue rightValue failed
  | plus | minus | times => simp at failed

/-- The fault is that of the first node without a record. -/
theorem exists_isFault_of_evaluate (signed : expr.IsSigned)
    (failed : expr.evaluate valuation = ⟨records, .error error⟩) :
    ∃ node, expr.operatorNodes[records.length]? = some node ∧ node.IsFault valuation error := by
  induction expr generalizing records with
  | number grouped value => simp [evaluate, Run.done] at failed
  | reference grouped name => simp [evaluate, Run.done] at failed
  | unary grouped operator operand inner =>
      rw [evaluate] at failed
      rcases Run.andThen_eq_error failed with stopped | ⟨made, value, later, _, stopped, _⟩
      · obtain ⟨node, place, fault⟩ := inner signed.2 stopped
        obtain ⟨inside, _⟩ := List.getElem?_eq_some_iff.mp place
        exact ⟨node, by rw [operatorNodes, List.getElem?_append_left inside, place], fault⟩
      · -- A sign has a result for every value.
        have missing := (Run.report_eq_error stopped).2
        have sign := signed.1
        cases operator with
        | plus | minus => simp [Operator.onWord] at missing
        | times | divide => simp [Operator.isSign] at sign
  | binary grouped operator precedence left right before behind =>
      rw [evaluate] at failed
      rcases Run.andThen_eq_error failed with stopped | ⟨made, first, later, ran, stopped, rfl⟩
      · obtain ⟨node, place, fault⟩ := before signed.1 stopped
        obtain ⟨inside, _⟩ := List.getElem?_eq_some_iff.mp place
        refine ⟨node, ?_, fault⟩
        rw [operatorNodes, List.append_assoc, List.getElem?_append_left inside, place]
      · have complete := length_records_evaluate signed.1 ran
        rcases Run.andThen_eq_error stopped with rightStopped |
          ⟨rightMade, second, last, rightRan, reported, rfl⟩
        · obtain ⟨node, place, fault⟩ := behind signed.2 rightStopped
          obtain ⟨inside, _⟩ := List.getElem?_eq_some_iff.mp place
          refine ⟨node, ?_, fault⟩
          rw [operatorNodes, List.append_assoc, List.length_append, complete,
            List.getElem?_append_right (Nat.le_add_right _ _), Nat.add_sub_cancel_left,
            List.getElem?_append_left inside, place]
        · have rightComplete := length_records_evaluate signed.2 rightRan
          obtain ⟨rfl, missing⟩ := Run.report_eq_error reported
          refine ⟨binary grouped operator precedence left right, ?_,
            isFault_of_onWords (by rw [ran]) (by rw [rightRan]) missing⟩
          rw [operatorNodes, List.append_nil, List.length_append, complete, rightComplete,
            ← List.length_append, List.getElem?_concat_length]

end Expr

end TraceCalc
