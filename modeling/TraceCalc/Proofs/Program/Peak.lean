/-
This file shows that the stack of a program has exactly the depth that the expression needs.
-/

import TraceCalc.Proofs.Program.Safety

namespace TraceCalc

/-- The right operand is calculated while the value of the left one waits below it. -/
def Expr.stackNeed : Expr → Nat
  | .number _ _ => 1
  | .reference _ _ => 1
  | .unary _ _ operand => operand.stackNeed
  | .binary _ _ _ left right => max left.stackNeed (1 + right.stackNeed)

theorem Expr.stackNeed_pos (expr : Expr) : 1 ≤ expr.stackNeed := by
  induction expr with
  | number grouped value => exact Nat.le_refl 1
  | reference grouped name => exact Nat.le_refl 1
  | unary grouped operator operand inner => exact inner
  | binary grouped operator precedence left right before _ =>
      exact Nat.le_trans before (Nat.le_max_left _ _)

namespace Program

section Code

theorem peakFrom_cons (height : Nat) (instruction : Instruction) (rest : List Instruction) :
    peakFrom height (instruction :: rest) =
      max height (peakFrom (instruction.heightAfter height) rest) := rfl

/-- The stack is at its first height before the first instruction. -/
theorem le_peakFrom (height : Nat) (code : List Instruction) : height ≤ peakFrom height code := by
  cases code with
  | nil => exact Nat.le_refl height
  | cons instruction rest => exact Nat.le_max_left _ _

/-- The peak of two pieces of code is the higher one of their peaks. -/
theorem peakFrom_append {height between : Nat} {first : List Instruction}
    (balanced : heightFrom height first = some between) (second : List Instruction) :
    peakFrom height (first ++ second) = max (peakFrom height first) (peakFrom between second) := by
  induction first generalizing height with
  | nil =>
      obtain rfl := Option.some.inj balanced
      exact (Nat.max_eq_right (le_peakFrom height second)).symm
  | cons instruction rest inductionHypothesis =>
      rw [List.cons_append, peakFrom_cons, peakFrom_cons,
        inductionHypothesis (heightFrom_cons_eq_some balanced).2, Nat.max_assoc]

/-- The code of a sign works on the top value alone. -/
theorem peakFrom_signCode {operator : Operator} {code : List Instruction}
    (found : operator.signCode? = some code) (height : Nat) (rest : List Instruction) :
    peakFrom height (code ++ rest) = peakFrom height rest := by
  rcases Operator.signCode?_eq_some found with ⟨_, rfl⟩ | ⟨_, rfl⟩
  · rfl
  · exact Nat.max_eq_right (le_peakFrom height rest)

/-- A trace keeps the stack as it is. -/
theorem peakFrom_trace (height label : Nat) (rest : List Instruction) :
    peakFrom height (.trace label :: rest) = peakFrom height rest :=
  Nat.max_eq_right (le_peakFrom height rest)

/-- The code of an expression rises by its need, whatever lies below it and comes after it. -/
theorem peakFrom_lowerFrom {keys : List String} {firstLabel : Nat} {expr : Expr}
    {segment : Segment} (lowered : expr.lowerFrom keys firstLabel = .ok segment) (height : Nat)
    (rest : List Instruction) :
    peakFrom height (segment.instructions ++ rest) =
      max (height + expr.stackNeed) (peakFrom (height + 1) rest) := by
  have leaf (height : Nat) (rest : List Instruction) :
      max height (peakFrom (height + 1) rest) = max (height + 1) (peakFrom (height + 1) rest) := by
    have above := le_peakFrom (height + 1) rest
    omega
  induction expr generalizing firstLabel segment height rest with
  | number grouped value =>
      obtain rfl := Except.ok.inj lowered
      exact leaf height rest
  | reference grouped name =>
      obtain ⟨slot, _, rfl⟩ := Expr.lowerFrom_reference_eq_ok lowered
      exact leaf height rest
  | unary grouped operator operand operandHypothesis =>
      obtain ⟨inner, code, operandLowered, sign, rfl⟩ := Expr.lowerFrom_unary_eq_ok lowered
      simp only [Segment.close, List.append_assoc, List.singleton_append]
      rw [operandHypothesis operandLowered, peakFrom_signCode sign, peakFrom_trace, Expr.stackNeed]
  | binary grouped operator precedence left right leftHypothesis rightHypothesis =>
      obtain ⟨first, second, leftLowered, rightLowered, rfl⟩ := Expr.lowerFrom_binary_eq_ok lowered
      simp only [Segment.close, Segment.append, List.append_assoc, List.cons_append,
        List.nil_append]
      rw [leftHypothesis leftLowered, rightHypothesis rightLowered, peakFrom_cons, peakFrom_trace,
        Expr.stackNeed]
      -- Both operands lie on the stack before they are combined, and the right one needed that.
      have rightNeed := right.stackNeed_pos
      change max (height + left.stackNeed) (max (height + 1 + right.stackNeed)
        (max (height + 2) (peakFrom (height + 1) rest))) = _
      omega

/-- The depth of the program of an expression is the need of the expression. -/
theorem stackDepth_of_ofExpr {expr : Expr} {parameters : List String} {program : Program}
    (lowered : ofExpr expr parameters = .ok program) : program.stackDepth = expr.stackNeed := by
  obtain ⟨segment, found, rfl⟩ := ofExpr_eq_ok lowered
  have peak := peakFrom_lowerFrom found 0 []
  rw [List.append_nil, Nat.zero_add] at peak
  exact peak.trans (Nat.max_eq_left expr.stackNeed_pos)

end Code

end Program

namespace Draft

/-- The draft counts the height that its instructions leave and the greatest one on the way. -/
structure HasPeak (draft : Draft) (height : Nat) : Prop where
  counted : draft.HasHeight height
  peak : draft.peak = Program.peakFrom 0 draft.instructions

namespace HasPeak

variable {draft : Draft} {height : Nat}

theorem empty : Draft.empty.HasPeak 0 := ⟨.empty, rfl⟩

theorem addLabels (measured : draft.HasPeak height) (labels : List String) :
    (draft.addLabels labels).HasPeak height := ⟨measured.counted.addLabels labels, measured.peak⟩

/-- The peak follows an instruction that does not lack operands. -/
theorem push (measured : draft.HasPeak height) {instruction : Instruction}
    (enough : instruction.operands ≤ height) :
    (draft.push instruction).HasPeak (instruction.heightAfter height) := by
  refine ⟨measured.counted.push enough, ?_⟩
  have depth := measured.counted.depth
  have peak := measured.peak
  have reached : height ≤ Program.peakFrom 0 draft.instructions := by
    have whole := Program.peakFrom_append measured.counted.balanced []
    rw [List.append_nil] at whole
    exact whole ▸ Nat.le_max_right _ height
  rw [instructions_push, Program.peakFrom_append measured.counted.balanced]
  cases instruction with
  | const | load =>
      change max draft.peak (draft.depth + 1) = ((max _ (max height (height + 1)) : Nat) : Int)
      omega
  | negate | trace =>
      change draft.peak = ((max _ (max height height) : Nat) : Int)
      omega
  | combine =>
      change draft.peak = ((max _ (max height (height - 1)) : Nat) : Int)
      omega

/-- The peak follows a run of instructions in which none lacks operands. -/
theorem pushAll (measured : draft.HasPeak height) {code : List Instruction} {final : Nat}
    (balanced : Program.heightFrom height code = some final) :
    (draft.pushAll code).HasPeak final := by
  induction code generalizing draft height with
  | nil =>
      obtain rfl := Option.some.inj balanced
      exact measured
  | cons instruction rest inductionHypothesis =>
      obtain ⟨enough, restBalanced⟩ := Program.heightFrom_cons_eq_some balanced
      exact inductionHypothesis (measured.push enough) restBalanced

end HasPeak

/-- The loop ends with the instructions of the program, and its peak is the depth of these. -/
theorem exists_walk_of_ofExpr {expr : Expr} {parameters : List String} {program : Program}
    (lowered : Program.ofExpr expr parameters = .ok program) :
    ∃ draft, empty.walk (parameters.map Name.fold) [.enter expr] = .ok draft ∧
      program = ⟨parameters, draft.instructions, draft.labels⟩ ∧
        draft.peak = program.stackDepth := by
  have balanced := (Program.isWellFormed_of_ofExpr lowered).balanced
  obtain ⟨segment, found, rfl⟩ := Program.ofExpr_eq_ok lowered
  have measured := (HasPeak.empty.addLabels segment.labels).pushAll balanced
  refine ⟨empty.extend segment, walk_of_lowerFrom found, by simp [empty], ?_⟩
  exact measured.peak.trans (by simp [Program.stackDepth, addLabels, empty])

end Draft

namespace Program

section Runs

variable {program : Program} {arguments stack : List Int64} {code : List Instruction}

/-- No state of a run has a peak above the first one. -/
theorem Reaches.peakFrom_le (reached : program.Reaches arguments stack code) :
    peakFrom stack.length code ≤ program.stackDepth := by
  induction reached with
  | start => exact Nat.le_refl _
  | step _ success inductionHypothesis =>
      rw [peakFrom_cons, ← length_of_step success] at inductionHypothesis
      exact Nat.le_trans (Nat.le_max_right _ _) inductionHypothesis

theorem Reaches.length_le_stackDepth (reached : program.Reaches arguments stack code) :
    stack.length ≤ program.stackDepth :=
  Nat.le_trans (le_peakFrom _ code) reached.peakFrom_le

/-- A run that goes on to a value comes to the peak of the code that it still has to run. -/
theorem Reaches.exists_length_eq_peakFrom (reached : program.Reaches arguments stack code)
    {value : Int64} (success : (runFrom program.labels arguments stack code).result = .ok value) :
    ∃ next rest, program.Reaches arguments next rest ∧
      next.length = peakFrom stack.length code := by
  induction code generalizing stack with
  | nil => exact ⟨stack, [], reached, rfl⟩
  | cons instruction rest inductionHypothesis =>
      rw [runFrom_cons] at success
      cases stepped : instruction.step program.labels arguments stack with
      | error error => simp [stepped, Run.fail] at success
      | ok outcome =>
          obtain ⟨next, records⟩ := outcome
          rw [stepped] at success
          obtain ⟨final, later, reachedLater, height⟩ :=
            inductionHypothesis (reached.step stepped) success
          rw [length_of_step stepped] at height
          rw [peakFrom_cons]
          -- The peak is the height of this stack or the peak of what comes behind it.
          rcases Nat.le_total stack.length (peakFrom (instruction.heightAfter stack.length) rest)
            with below | above
          · exact ⟨final, later, reachedLater, height.trans (Nat.max_eq_right below).symm⟩
          · exact ⟨stack, _, reached, (Nat.max_eq_left above).symm⟩

end Runs

/--
The loop of visits counts the need of the expression as the depth of the stack. With an argument
for every parameter, no state of a run has a higher stack, and a run that ends with a value has a
state of exactly this height.
-/
theorem stackDepth_isHighest {expr : Expr} {parameters : List String} {program : Program}
    (lowered : ofExpr expr parameters = .ok program) :
    (∃ draft, Draft.empty.walk (parameters.map Name.fold) [.enter expr] = .ok draft ∧
        program = ⟨parameters, draft.instructions, draft.labels⟩ ∧
          draft.peak = program.stackDepth) ∧
      program.stackDepth = expr.stackNeed ∧
      ∀ arguments, program.parameters.length ≤ arguments.length →
        (∀ stack code, program.Reaches arguments stack code →
          stack.length ≤ program.stackDepth ∧
            ∃ records, program.run arguments =
              (runFrom program.labels arguments stack code).after records) ∧
        ∀ value, (program.run arguments).result = .ok value →
          ∃ stack code, program.Reaches arguments stack code ∧
            stack.length = program.stackDepth := by
  refine ⟨Draft.exists_walk_of_ofExpr lowered, stackDepth_of_ofExpr lowered, ?_⟩
  intro arguments enough
  refine ⟨fun stack code reached =>
    ⟨reached.length_le_stackDepth, reached.exists_run_eq_after enough⟩, fun value success => ?_⟩
  rw [run_of_le enough] at success
  exact Reaches.start.exists_length_eq_peakFrom success

/-- The depth is the one of the nested right operands, also where a division fails before them. -/
theorem stackDepth_isHighest_of_differences :
    let difference := Operator.minus.precedence
    let expr := Expr.binary false .minus difference
      (.binary false .divide Operator.divide.precedence (.reference false "x") (.reference false "y"))
      (.binary true .minus difference (.number false 1)
        (.binary true .minus difference (.number false 2) (.reference false "X")))
    let program := Program.mk ["x", "y"]
      [.load 0, .load 1, .combine .divide, .trace 0, .const 1, .const 2, .load 0, .combine .minus,
        .trace 1, .combine .minus, .trace 2, .combine .minus, .trace 3]
      ["x/y", "(2-X)", "(1-(2-X))", "x/y-(1-(2-X))"]
    ofExpr expr ["x", "y"] = .ok program ∧ program.stackDepth = 4 ∧ expr.stackNeed = 4 ∧
      (program.run [6, 3]).result = .ok (-3) ∧
      (∃ stack code, program.Reaches [6, 3] stack code ∧ stack.length = 4) ∧
      (program.run [6, 0]).result = .error (.divisionByZero 6) ∧
      ∀ stack code, program.Reaches [6, 0] stack code → stack.length ≤ 4 := by
  intro difference expr program
  have lowered : ofExpr expr ["x", "y"] = .ok program := by cbv
  have success : (program.run [6, 3]).result = .ok (-3) := by cbv
  obtain ⟨_, need, heights⟩ := stackDepth_isHighest lowered
  have depth : program.stackDepth = 4 := by decide
  obtain ⟨_, reaches⟩ := heights [6, 3] (Nat.le_refl 2)
  obtain ⟨bounded, _⟩ := heights [6, 0] (Nat.le_refl 2)
  rw [depth] at reaches bounded
  exact ⟨lowered, depth, need ▸ depth, success, reaches _ success, by cbv,
    fun stack code reached => (bounded stack code reached).1⟩

end Program

end TraceCalc
