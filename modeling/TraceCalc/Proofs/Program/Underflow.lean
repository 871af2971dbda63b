/-
This file shows that the instructions alone decide where a run lacks values on the stack.
-/

import TraceCalc.Proofs.Program.Safety

namespace TraceCalc

section Steps

variable {labels : List String} {arguments stack : List Int64} {instruction : Instruction}

/-- An instruction that lacks operands fails before it does anything else. -/
theorem Instruction.step_of_lack (lacking : stack.length < instruction.operands) :
    instruction.step labels arguments stack = .error .stackUnderflow := by
  cases instruction with
  | const value => exact absurd lacking (Nat.not_lt_zero _)
  | load slot => exact absurd lacking (Nat.not_lt_zero _)
  | negate =>
      rw [List.length_eq_zero_iff.mp (Nat.lt_one_iff.mp lacking)]
      rfl
  | combine operator =>
      match stack with
      | [] | [_] => rfl
      | _ :: _ :: rest => exact absurd lacking (by simp [operands])
  | trace label =>
      rw [List.length_eq_zero_iff.mp (Nat.lt_one_iff.mp lacking)]
      rfl

end Steps

namespace Program

section Heights

/-- The instructions before the point add their values to the stack and take their operands. -/
def heightAt (code : List Instruction) (point : Nat) : Nat :=
  (code.take point).foldl Instruction.heightAfter 0

/-- An instruction needs its operands, and the end of the code needs the result. -/
def demandAt (code : List Instruction) (point : Nat) : Nat :=
  match code[point]? with
  | some instruction => instruction.operands
  | none => 1

/-- The stack is too low for what comes at the point. -/
def LacksAt (code : List Instruction) (point : Nat) : Prop :=
  heightAt code point < demandAt code point

instance (code : List Instruction) (point : Nat) : Decidable (LacksAt code point) :=
  inferInstanceAs (Decidable (_ < _))

variable {code : List Instruction} {point : Nat}

/-- Where nothing lacked values before, the height is the one that all instructions leave. -/
theorem heightFrom_take (inside : point ≤ code.length)
    (enough : ∀ earlier < point, ¬ LacksAt code earlier) :
    heightFrom 0 (code.take point) = some (heightAt code point) := by
  induction point with
  | zero => rfl
  | succ point inductionHypothesis =>
      have found : code[point]? = some code[point] := List.getElem?_eq_getElem inside
      have operands : code[point].operands ≤ heightAt code point := by
        have here := enough point (Nat.lt_succ_self point)
        rw [LacksAt, demandAt, found] at here
        exact Nat.le_of_not_lt here
      have before := inductionHypothesis (Nat.le_of_succ_le inside)
        fun earlier within => enough earlier (Nat.lt_succ_of_lt within)
      rw [heightAt, List.take_add_one, found, Option.toList_some, heightFrom_append, before,
        Option.bind_some, heightFrom_cons operands, List.foldl_append]
      rfl

/-- The first lack is inside of the code or at its end. -/
theorem LacksAt.le_length (lacking : LacksAt code point)
    (first : ∀ earlier < point, ¬ LacksAt code earlier) : point ≤ code.length := by
  rw [← Nat.not_lt]
  intro outside
  refine first code.length outside ?_
  rw [LacksAt, heightAt, demandAt, List.take_of_length_le (Nat.le_of_lt outside),
    List.getElem?_eq_none (Nat.le_of_lt outside)] at lacking
  rwa [LacksAt, heightAt, demandAt, List.take_length, List.getElem?_eq_none (Nat.le_refl _)]

end Heights

section Runs

/-- The code leads from one stack to another one and makes the records on its way. -/
inductive Advances (labels : List String) (arguments : List Int64) :
    List Int64 → List Instruction → List Int64 → List Record → Prop
  | stay {stack : List Int64} : Advances labels arguments stack [] stack []
  | step {stack next final : List Int64} {instruction : Instruction} {rest : List Instruction}
      {made later : List Record}
      (success : instruction.step labels arguments stack = .ok (next, made))
      (advances : Advances labels arguments next rest final later) :
      Advances labels arguments stack (instruction :: rest) final (made ++ later)

variable {labels : List String} {arguments stack final : List Int64} {code : List Instruction}
  {records : List Record}

/-- The code behind goes on from the stack that the code leaves. -/
theorem Advances.runFrom_append (advances : Advances labels arguments stack code final records)
    (rest : List Instruction) :
    runFrom labels arguments stack (code ++ rest) =
      (runFrom labels arguments final rest).after records := by
  induction advances with
  | stay => rfl
  | step success _ inductionHypothesis =>
      rw [List.cons_append, runFrom_cons, success]
      simp only [inductionHypothesis, Run.after_after]

theorem Advances.heightFrom_eq (advances : Advances labels arguments stack code final records)
    {height : Nat} (balanced : heightFrom stack.length code = some height) :
    final.length = height := by
  induction advances with
  | stay => exact Option.some.inj balanced
  | step success _ inductionHypothesis =>
      refine inductionHypothesis ?_
      rw [length_of_step success]
      exact (heightFrom_cons_eq_some balanced).2

/-- A step makes one record for a trace and none for another instruction. -/
theorem map_label_of_step {next : List Int64} {instruction : Instruction}
    (success : instruction.step labels arguments stack = .ok (next, records)) :
    (tracedLabels [instruction]).map (labels[·]?) = records.map (some ·.label) := by
  cases instruction with
  | const value =>
      obtain ⟨_, rfl⟩ := Prod.mk.inj (Except.ok.inj success)
      rfl
  | load slot =>
      simp only [Instruction.step] at success
      split at success
      next =>
        obtain ⟨_, rfl⟩ := Prod.mk.inj (Except.ok.inj success)
        rfl
      next => simp at success
  | negate =>
      cases stack with
      | nil => simp [Instruction.step] at success
      | cons value below =>
          obtain ⟨_, rfl⟩ := Prod.mk.inj (Except.ok.inj success)
          rfl
  | combine operator =>
      rw [Instruction.step] at success
      cases combined : operator.combine stack with
      | error cause => simp [combined, Except.map] at success
      | ok result =>
          rw [combined] at success
          obtain ⟨_, rfl⟩ := Prod.mk.inj (Except.ok.inj success)
          rfl
  | trace label =>
      simp only [Instruction.step] at success
      split at success
      next => simp at success
      next value below text found =>
        obtain ⟨_, rfl⟩ := Prod.mk.inj (Except.ok.inj success)
        simp [tracedLabels, found]
      next => simp at success

/-- The records are those of the traces, one by one. -/
theorem Advances.map_label (advances : Advances labels arguments stack code final records) :
    (tracedLabels code).map (labels[·]?) = records.map (some ·.label) := by
  induction advances with
  | stay => rfl
  | @step _ _ _ instruction rest made later success _ inductionHypothesis =>
      rw [← List.singleton_append, tracedLabels_append, List.map_append, List.map_append,
        map_label_of_step success, inductionHypothesis]

/-- Code that never lacks operands leads to its end or to a division that fails. -/
theorem exists_advances {height : Nat}
    (within : ∀ instruction ∈ code, instruction.IsWithin arguments.length labels.length)
    (balanced : heightFrom stack.length code = some height) :
    (∃ final records, Advances labels arguments stack code final records) ∨
      ∃ before behind left right below records error,
        code = before ++ .combine .divide :: behind ∧
          Advances labels arguments stack before (right :: left :: below) records ∧
            quotient left right = .error error := by
  induction code generalizing stack with
  | nil => exact .inl ⟨stack, [], .stay⟩
  | cons instruction rest inductionHypothesis =>
      obtain ⟨here, later⟩ := List.forall_mem_cons.mp within
      obtain ⟨operands, restBalanced⟩ := heightFrom_cons_eq_some balanced
      cases success : instruction.step labels arguments stack with
      | error error =>
          obtain ⟨rfl, left, right, below, rfl, failed⟩ :=
            Instruction.eq_divide_of_step here operands success
          exact .inr ⟨[], rest, left, right, below, [], error, rfl, .stay, failed⟩
      | ok outcome =>
          obtain ⟨next, made⟩ := outcome
          rw [← length_of_step success] at restBalanced
          rcases inductionHypothesis later restBalanced with ⟨final, records, advances⟩ |
            ⟨before, behind, left, right, below, records, error, rfl, advances, failed⟩
          · exact .inl ⟨final, made ++ records, .step success advances⟩
          · exact .inr ⟨instruction :: before, behind, left, right, below, made ++ records, error,
              rfl, .step success advances, failed⟩

/-- A division before the point fails, and the run has the records made before it. -/
def FaultsBefore (program : Program) (arguments : List Int64) (point : Nat) : Prop :=
  ∃ index < point, program.instructions[index]? = some (.combine .divide) ∧
    ∃ left right below records error,
      Advances program.labels arguments [] (program.instructions.take index)
          (right :: left :: below) records ∧
        quotient left right = .error error ∧ error.phase = .calculating ∧
          program.run arguments = ⟨records, .error error⟩

/-- The run ends at the point for want of values, and every trace before it has its record. -/
def UnderflowsAt (program : Program) (arguments : List Int64) (point : Nat) : Prop :=
  ∃ stack records,
    Advances program.labels arguments [] (program.instructions.take point) stack records ∧
      (tracedLabels (program.instructions.take point)).map (program.labels[·]?) =
        records.map (some ·.label) ∧
          program.run arguments = ⟨records, .error .stackUnderflow⟩

variable {program : Program} {point : Nat}

/-- Without a lack before the point, the run comes to it or to a division that fails. -/
theorem advances_or_faultsBefore (enough : program.parameters.length ≤ arguments.length)
    (within : ∀ instruction ∈ program.instructions,
      instruction.IsWithin arguments.length program.labels.length)
    (inside : point ≤ program.instructions.length)
    (served : ∀ earlier < point, ¬ LacksAt program.instructions earlier) :
    program.FaultsBefore arguments point ∨ ∃ stack records,
      Advances program.labels arguments [] (program.instructions.take point) stack records ∧
        stack.length = heightAt program.instructions point := by
  have balanced := heightFrom_take inside served
  rw [← List.length_nil (α := Int64)] at balanced
  rcases exists_advances
      (fun instruction member => within instruction (List.mem_of_mem_take member)) balanced with
    ⟨stack, records, advances⟩ |
      ⟨before, behind, left, right, below, records, error, taken, advances, failed⟩
  · exact .inr ⟨stack, records, advances, advances.heightFrom_eq balanced⟩
  · left
    have code := List.take_append_drop point program.instructions
    rw [taken, List.append_assoc, List.cons_append] at code
    have early : before.length < point := by
      have lengths := congrArg List.length taken
      simp only [List.length_append, List.length_cons, List.length_take] at lengths
      omega
    refine ⟨before.length, early, ?_, left, right, below, records, error, ?_, failed,
      phase_of_quotient failed, ?_⟩
    · rw [← code, List.getElem?_append_right (Nat.le_refl _), Nat.sub_self]
      rfl
    · rw [← code, List.take_left]
      exact advances
    · rw [run_of_le enough, ← code, advances.runFrom_append, runFrom_cons]
      simp [Instruction.step, Operator.combine, failed, Except.map, Run.fail, Run.after]

end Runs

/--
The heights of the code decide where a run lacks values. Without a lack, it ends with a value or at
a division that fails. With one, it ends at the first lack, behind the records of all traces
before it, or at a division before that which fails.
-/
theorem run_of_heights (program : Program) (arguments : List Int64)
    (enough : program.parameters.length ≤ arguments.length)
    (within : ∀ instruction ∈ program.instructions,
      instruction.IsWithin arguments.length program.labels.length) :
    ((∀ point ≤ program.instructions.length, ¬ LacksAt program.instructions point) →
      (∃ value, (program.run arguments).result = .ok value) ∨
        program.FaultsBefore arguments program.instructions.length) ∧
      ∀ point, LacksAt program.instructions point →
        (∀ earlier < point, ¬ LacksAt program.instructions earlier) →
          program.FaultsBefore arguments point ∨ program.UnderflowsAt arguments point := by
  constructor
  · intro served
    rcases advances_or_faultsBefore enough within (Nat.le_refl _)
        fun earlier before => served earlier (Nat.le_of_lt before) with
      faults | ⟨stack, records, advances, height⟩
    · exact .inr faults
    · left
      have final := served _ (Nat.le_refl _)
      rw [LacksAt, demandAt, List.getElem?_eq_none (Nat.le_refl _), ← height] at final
      obtain ⟨value, below, rfl⟩ := List.exists_cons_of_length_pos (Nat.le_of_not_lt final)
      rw [List.take_length] at advances
      have ran := advances.runFrom_append []
      rw [List.append_nil] at ran
      rw [run_of_le enough, ran]
      exact ⟨value, rfl⟩
  · intro point lacking first
    refine (advances_or_faultsBefore enough within (lacking.le_length first) first).imp_right ?_
    rintro ⟨stack, records, advances, height⟩
    refine ⟨stack, records, advances, advances.map_label, ?_⟩
    have ran := advances.runFrom_append (program.instructions.drop point)
    rw [List.take_append_drop] at ran
    rw [run_of_le enough, ran]
    rw [LacksAt, ← height] at lacking
    cases found : program.instructions[point]? with
    | none =>
        rw [demandAt, found] at lacking
        rw [List.length_eq_zero_iff.mp (Nat.lt_one_iff.mp lacking),
          List.drop_eq_nil_of_le (List.getElem?_eq_none_iff.mp found)]
        simp [runFrom, Run.fail, Run.after]
    | some instruction =>
        rw [demandAt, found] at lacking
        obtain ⟨within, rfl⟩ := List.getElem?_eq_some_iff.mp found
        rw [List.drop_eq_getElem_cons within, runFrom_cons, Instruction.step_of_lack lacking]
        simp [Run.fail, Run.after]

/-- The code before a lack runs alone, and in front of it a division may fail first. -/
theorem run_of_heights_of_quotient :
    let code := [.const 1, .load 0, .combine .divide, .trace 0]
    let served := Program.mk ["x"] code ["1/x"]
    let program := Program.mk ["x"] (code ++ [.combine .plus]) ["1/x"]
    ((∃ value, (served.run [1]).result = .ok value) ∨ served.FaultsBefore [1] 4) ∧
      (program.FaultsBefore [0] 4 ∨ program.UnderflowsAt [0] 4) ∧
      (program.FaultsBefore [1] 4 ∨ program.UnderflowsAt [1] 4) ∧
      program.run [0] = ⟨[], .error (.divisionByZero 1)⟩ ∧
      program.run [1] = ⟨[⟨"1/x", 1⟩], .error .stackUnderflow⟩ := by
  intro code served program
  have first : ∀ earlier < 4, ¬ LacksAt program.instructions earlier := by decide
  exact ⟨(run_of_heights served [1] (by decide) (by decide)).1 (by decide),
    (run_of_heights program [0] (by decide) (by decide)).2 4 (by decide) first,
    (run_of_heights program [1] (by decide) (by decide)).2 4 (by decide) first,
    by cbv, by cbv⟩

end Program

end TraceCalc
