/-
This file shows that no source leads to a defect, neither in its lowering nor in a run.
-/

import TraceCalc.Proofs.Expr.Canonical
import TraceCalc.Proofs.Expr.Parameters
import TraceCalc.Proofs.Expr.Rejection
import TraceCalc.Proofs.Program.Counting
import TraceCalc.Proofs.Program.Evaluation

namespace TraceCalc

section Steps

variable {labels : List String} {arguments stack : List Int64} {instruction : Instruction}

/-- With its slot, its label and its operands, an instruction fails only as a division. -/
theorem Instruction.eq_divide_of_step {error : Error}
    (within : instruction.IsWithin arguments.length labels.length)
    (enough : instruction.operands ≤ stack.length)
    (failed : instruction.step labels arguments stack = .error error) :
    instruction = .combine .divide ∧ ∃ left right below, stack = right :: left :: below ∧
      quotient left right = .error error := by
  cases instruction with
  | const value => simp [step] at failed
  | load slot =>
      have found : arguments[slot]? = some arguments[slot] := List.getElem?_eq_getElem within
      simp [step, found] at failed
  | negate =>
      obtain ⟨value, below, rfl⟩ := List.exists_cons_of_length_pos enough
      simp [step] at failed
  | combine operator =>
      obtain ⟨right, tail, rfl⟩ := List.exists_cons_of_length_pos (Nat.lt_of_succ_lt enough)
      obtain ⟨left, below, rfl⟩ :=
        List.exists_cons_of_length_pos (Nat.lt_of_succ_lt_succ enough)
      cases operator with
      | divide =>
          refine ⟨rfl, left, right, below, rfl, ?_⟩
          cases divided : quotient left right with
          | ok value => simp [step, Operator.combine, divided, Except.map] at failed
          | error cause =>
              simp only [step, Operator.combine, Operator.apply_divide, divided, Except.map,
                Except.error.injEq] at failed
              rw [failed]
      | plus | minus | times => simp [step, Operator.combine, Except.map] at failed
  | trace label =>
      obtain ⟨value, below, rfl⟩ := List.exists_cons_of_length_pos enough
      have found : labels[label]? = some labels[label] := List.getElem?_eq_getElem within
      simp [step, found] at failed

/-- An instruction that finds what it needs can only fail in its calculation. -/
theorem Instruction.step_of_isWithin (within : instruction.IsWithin arguments.length labels.length)
    (enough : instruction.operands ≤ stack.length) :
    (∃ next records, instruction.step labels arguments stack = .ok (next, records)) ∨
      ∃ error, instruction.step labels arguments stack = .error error ∧
        error.phase = .calculating := by
  cases stepped : instruction.step labels arguments stack with
  | ok outcome => exact .inl ⟨outcome.1, outcome.2, rfl⟩
  | error error =>
      obtain ⟨_, _, _, _, _, failed⟩ := eq_divide_of_step within enough stepped
      exact .inr ⟨error, rfl, phase_of_quotient failed⟩

end Steps

/-- A run ends with a value, or a fault of the calculation stops it. -/
def Run.IsRegular (run : Run) : Prop :=
  (∃ value, run.result = .ok value) ∨
    ∃ error, run.result = .error error ∧ error.phase = .calculating

namespace Program

theorem runFrom_cons (labels : List String) (arguments stack : List Int64)
    (instruction : Instruction) (rest : List Instruction) :
    runFrom labels arguments stack (instruction :: rest) =
      match instruction.step labels arguments stack with
      | .error error => Run.fail error
      | .ok (next, records) => (runFrom labels arguments next rest).after records := by
  cases stack <;> rfl

/-- The run of a program reaches a stack with the code that is still to come. -/
inductive Reaches (program : Program) (arguments : List Int64) :
    List Int64 → List Instruction → Prop
  | start : Reaches program arguments [] program.instructions
  | step {stack next : List Int64} {instruction : Instruction} {rest : List Instruction}
      {records : List Record} (reached : Reaches program arguments stack (instruction :: rest))
      (success : instruction.step program.labels arguments stack = .ok (next, records)) :
      Reaches program arguments next rest

/--
The next instruction finds its slot, its label and its operands, and behind the last instruction
there is exactly one value.
-/
structure IsSafeAt (program : Program) (arguments stack : List Int64) (code : List Instruction) :
    Prop where
  slot : ∀ slot rest, code = .load slot :: rest →
    slot < program.parameters.length ∧ slot < arguments.length
  label : ∀ label rest, code = .trace label :: rest → label < program.labels.length
  operands : ∀ instruction rest, code = instruction :: rest →
    instruction.operands ≤ stack.length
  final : code = [] → stack.length = 1

section Runs

variable {program : Program} {arguments stack : List Int64} {code : List Instruction}

/-- The run goes on from every state that it reaches. -/
theorem Reaches.exists_run_eq_after (reached : program.Reaches arguments stack code)
    (enough : program.parameters.length ≤ arguments.length) :
    ∃ records, program.run arguments =
      (runFrom program.labels arguments stack code).after records := by
  induction reached with
  | start => exact ⟨[], run_of_le enough⟩
  | step _ success inductionHypothesis =>
      obtain ⟨records, same⟩ := inductionHypothesis
      rw [runFrom_cons, success] at same
      exact ⟨_, same.trans (Run.after_after _ _ _)⟩

/-- The rest of the code stays within its bounds and in balance with the stack. -/
theorem Reaches.balanced (reached : program.Reaches arguments stack code)
    (wellFormed : program.IsWellFormed) :
    (∀ instruction ∈ code,
      instruction.IsWithin program.parameters.length program.labels.length) ∧
        heightFrom stack.length code = some 1 := by
  induction reached with
  | start => exact ⟨wellFormed.within, wellFormed.balanced⟩
  | step _ success inductionHypothesis =>
      obtain ⟨within, balanced⟩ := inductionHypothesis
      refine ⟨(List.forall_mem_cons.mp within).2, ?_⟩
      rw [length_of_step success]
      exact (heightFrom_cons_eq_some balanced).2

theorem Reaches.isSafeAt (reached : program.Reaches arguments stack code)
    (wellFormed : program.IsWellFormed)
    (enough : program.parameters.length ≤ arguments.length) :
    program.IsSafeAt arguments stack code := by
  obtain ⟨within, balanced⟩ := reached.balanced wellFormed
  constructor
  case slot =>
    rintro slot rest rfl
    have inside : slot < program.parameters.length := (List.forall_mem_cons.mp within).1
    exact ⟨inside, Nat.lt_of_lt_of_le inside enough⟩
  case label =>
    rintro label rest rfl
    exact (List.forall_mem_cons.mp within).1
  case operands =>
    rintro instruction rest rfl
    exact (heightFrom_cons_eq_some balanced).1
  case final =>
    rintro rfl
    exact Option.some.inj balanced

/-- Code that finds what it needs and leaves one value runs to its end or to a fault. -/
theorem runFrom_isRegular {labels : List String}
    (within : ∀ instruction ∈ code, instruction.IsWithin arguments.length labels.length)
    (balanced : heightFrom stack.length code = some 1) :
    (runFrom labels arguments stack code).IsRegular := by
  induction code generalizing stack with
  | nil =>
      obtain ⟨value, rfl⟩ := List.length_eq_one_iff.mp (Option.some.inj balanced)
      exact .inl ⟨value, rfl⟩
  | cons instruction rest inductionHypothesis =>
      obtain ⟨here, later⟩ := List.forall_mem_cons.mp within
      obtain ⟨operands, restBalanced⟩ := heightFrom_cons_eq_some balanced
      rw [runFrom_cons]
      rcases Instruction.step_of_isWithin here operands with
        ⟨next, records, success⟩ | ⟨error, failed, fault⟩
      · rw [success]
        rw [← length_of_step success] at restBalanced
        exact inductionHypothesis later restBalanced
      · rw [failed]
        exact .inr ⟨error, rfl, fault⟩

theorem IsWellFormed.isRegular_run (wellFormed : program.IsWellFormed)
    (enough : program.parameters.length ≤ arguments.length) :
    (program.run arguments).IsRegular := by
  rw [run_of_le enough]
  exact runFrom_isRegular
    (fun instruction member =>
      (wellFormed.within instruction member).mono enough (Nat.le_refl _))
    wellFormed.balanced

end Runs

section Labels

/-- The traces are listed by the numbers of their labels. -/
def tracedLabels (code : List Instruction) : List Nat :=
  code.filterMap fun instruction =>
    match instruction with
    | .trace label => some label
    | .const _ | .load _ | .negate | .combine _ => none

@[simp] theorem tracedLabels_append (first second : List Instruction) :
    tracedLabels (first ++ second) = tracedLabels first ++ tracedLabels second :=
  List.filterMap_append

theorem tracedLabels_signCode {operator : Operator} {code : List Instruction}
    (found : operator.signCode? = some code) : tracedLabels code = [] := by
  rcases Operator.signCode?_eq_some found with ⟨_, rfl⟩ | ⟨_, rfl⟩ <;> rfl

/-- A segment uses the labels that it introduces, each once and in their order. -/
def IsNumbered (firstLabel : Nat) (segment : Segment) : Prop :=
  tracedLabels segment.instructions = List.range' firstLabel segment.labels.length

theorem IsNumbered.append {firstLabel : Nat} {first second : Segment}
    (before : IsNumbered firstLabel first)
    (behind : IsNumbered (firstLabel + first.labels.length) second) :
    IsNumbered firstLabel (first.append second) := by
  rw [IsNumbered] at before behind ⊢
  rw [Segment.append, tracedLabels_append, before, behind, List.length_append]
  exact List.range'_append_1

theorem IsNumbered.close {firstLabel : Nat} {segment : Segment}
    (numbered : IsNumbered firstLabel segment) {code : List Instruction}
    (untraced : tracedLabels code = []) (label : String) :
    IsNumbered firstLabel (segment.close firstLabel code label) := by
  rw [IsNumbered] at numbered ⊢
  rw [Segment.close, tracedLabels_append, tracedLabels_append, numbered, untraced,
    List.append_nil, List.length_append, ← List.range'_append_1]
  rfl

theorem isNumbered_lowerFrom {keys : List String} {firstLabel : Nat} {expr : Expr}
    {segment : Segment} (lowered : expr.lowerFrom keys firstLabel = .ok segment) :
    IsNumbered firstLabel segment := by
  induction expr generalizing firstLabel segment with
  | number grouped value =>
      rw [Expr.lowerFrom, Except.ok.injEq] at lowered
      rw [← lowered]
      rfl
  | reference grouped name =>
      obtain ⟨slot, _, rfl⟩ := Expr.lowerFrom_reference_eq_ok lowered
      rfl
  | unary grouped operator operand operandHypothesis =>
      obtain ⟨inner, code, operandLowered, sign, rfl⟩ := Expr.lowerFrom_unary_eq_ok lowered
      exact (operandHypothesis operandLowered).close (tracedLabels_signCode sign) _
  | binary grouped operator precedence left right leftHypothesis rightHypothesis =>
      obtain ⟨first, second, leftLowered, rightLowered, rfl⟩ := Expr.lowerFrom_binary_eq_ok lowered
      exact ((leftHypothesis leftLowered).append (rightHypothesis rightLowered)).close rfl _

theorem tracedLabels_of_ofExpr {expr : Expr} {parameters : List String} {program : Program}
    (lowered : ofExpr expr parameters = .ok program) :
    tracedLabels program.instructions = List.range program.labels.length := by
  obtain ⟨segment, found, rfl⟩ := ofExpr_eq_ok lowered
  exact (isNumbered_lowerFrom found).trans List.range_eq_range'.symm

end Labels

end Program

/-- A writable expression has signs where it has operators with one operand. -/
theorem Expr.IsWritable.isSigned {expr : Expr} (writable : expr.IsWritable) : expr.IsSigned := by
  induction expr with
  | number grouped value => trivial
  | reference grouped name => trivial
  | unary grouped operator operand inner => exact ⟨writable.1, inner writable.2⟩
  | binary grouped operator precedence left right before behind =>
      exact ⟨before writable.2.1, behind writable.2.2⟩

namespace Program

/-- The loop of visits reaches the end for every expression that is read, and gives its program. -/
theorem exists_reaches_of_parse {source : String} {expr : Expr}
    (success : Expr.parse source = .ok expr) :
    ∃ draft, Draft.Reaches (expr.parameters.map Name.fold) expr draft [] ∧
      build source = .ok ⟨expr.parameters, draft.instructions, draft.labels⟩ := by
  have signed := (Expr.isCanonical_of_parse success).isWritable.isSigned
  obtain ⟨segment, lowered⟩ := expr.exists_lowerFrom signed expr.isCovered_parameters 0
  have walked := Draft.walk_of_lowerFrom lowered
  have built : build source = ofVisits expr expr.parameters := by
    rw [ofVisits_eq_ofExpr, build, success]
    rfl
  refine ⟨_, Draft.Reaches.start.of_walk walked, ?_⟩
  rw [built, ofVisits, walked]
  rfl

/--
No source leads to a defect. A failure is one of the tokens or of their order; the loop of visits
counts the height of the stack without an underflow and ends with the program; every label has one
trace, in the order of the labels; and a run with an argument for every parameter is safe at every
instruction and ends with a value or with a fault of the calculation.
-/
theorem build_isSafe (source : String) :
    (∀ error, build source = .error error → error.phase = .lexing ∨ error.phase = .parsing) ∧
      (∀ expr, Expr.parse source = .ok expr →
        (∃ draft, Draft.Reaches (expr.parameters.map Name.fold) expr draft [] ∧
          build source = .ok ⟨expr.parameters, draft.instructions, draft.labels⟩) ∧
        ∀ draft pending, Draft.Reaches (expr.parameters.map Name.fold) expr draft pending →
          draft.IsCounted pending) ∧
      ∀ program, build source = .ok program →
        tracedLabels program.instructions = List.range program.labels.length ∧
          ∀ arguments, program.parameters.length ≤ arguments.length →
            (∀ stack code, program.Reaches arguments stack code →
              program.IsSafeAt arguments stack code ∧
                ∃ records, program.run arguments =
                  (runFrom program.labels arguments stack code).after records) ∧
            (program.run arguments).IsRegular := by
  refine ⟨fun error failure => ?_, fun expr success => ?_, fun program built => ?_⟩
  · cases found : Expr.parse source with
    | error other =>
        rw [build, found] at failure
        exact Except.error.inj failure ▸ Expr.phase_of_parse found
    | ok expr =>
        obtain ⟨_, _, built⟩ := exists_reaches_of_parse found
        rw [built] at failure
        simp at failure
  · exact ⟨exists_reaches_of_parse success, fun _ _ reached => reached.isCounted⟩
  · obtain ⟨_, _, lowered⟩ := build_eq_ok built
    have wellFormed := isWellFormed_of_ofExpr lowered
    refine ⟨tracedLabels_of_ofExpr lowered, fun arguments enough => ?_⟩
    exact ⟨fun stack code reached => ⟨reached.isSafeAt wellFormed enough,
      reached.exists_run_eq_after enough⟩, wellFormed.isRegular_run enough⟩

set_option maxRecDepth 8000 in
/-- A quotient with one variable in two spellings runs safely into a division by zero. -/
theorem build_isSafe_of_quotient :
    let quotient := Program.mk ["x"]
      [.load 0, .negate, .trace 0, .load 0, .const 1, .combine .minus, .trace 1, .combine .divide,
        .trace 2] ["-x", "(X-1)", "-x/(X-1)"]
    build "-x/(X-1)" = .ok quotient ∧ tracedLabels quotient.instructions = List.range 3 ∧
      quotient.IsSafeAt [1] [] quotient.instructions ∧ (quotient.run [1]).IsRegular ∧
      (∃ expr draft, Expr.parse "-x/(X-1)" = .ok expr ∧
        Draft.Reaches (expr.parameters.map Name.fold) expr draft [] ∧ draft.IsCounted []) ∧
      ∃ error, build "1+" = .error error ∧ (error.phase = .lexing ∨ error.phase = .parsing) := by
  intro quotient
  have built : build "-x/(X-1)" = .ok quotient := by cbv
  have failed : build "1+" = .error (.misplacedToken (.operand (Token.finish 2)) "1+") := by cbv
  obtain ⟨_, lowered, ran⟩ := build_isSafe "-x/(X-1)"
  obtain ⟨traced, safe⟩ := ran quotient built
  obtain ⟨states, regular⟩ := safe [1] (Nat.le_refl 1)
  obtain ⟨expr, parsed, _⟩ := build_eq_ok built
  obtain ⟨⟨draft, reached, _⟩, counted⟩ := lowered expr parsed
  exact ⟨built, traced, (states [] quotient.instructions .start).1, regular,
    ⟨expr, draft, parsed, reached, counted draft [] reached⟩,
    ⟨_, failed, (build_isSafe "1+").1 _ failed⟩⟩

end Program

end TraceCalc
