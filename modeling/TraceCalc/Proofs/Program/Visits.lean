/-
This file lowers expressions with an explicit stack of visits instead of recursion.
-/

import TraceCalc.Proofs.Program.Lowering

namespace TraceCalc

/-- A node is entered before its operands are visited and left after them. -/
inductive Visit where
  | enter (expr : Expr)
  | leave (expr : Expr)

/-- A draft holds the code so far, with the height of the stack and its peak up to now. -/
structure Draft where
  instructions : List Instruction
  labels : List String
  depth : Int
  peak : Int

namespace Draft

/-- Nothing was visited yet. -/
def empty : Draft := ⟨[], [], 0, 0⟩

/-- A value raises the stack, and two operands give way to one result. -/
def push (draft : Draft) (instruction : Instruction) : Draft :=
  match instruction with
  | .const _ | .load _ =>
      { draft with
        instructions := draft.instructions ++ [instruction]
        depth := draft.depth + 1
        peak := max draft.peak (draft.depth + 1) }
  | .combine _ =>
      { draft with
        instructions := draft.instructions ++ [instruction]
        depth := draft.depth - 1 }
  | .negate | .trace _ => { draft with instructions := draft.instructions ++ [instruction] }

/-- The instructions are added from left to right. -/
def pushAll (draft : Draft) (instructions : List Instruction) : Draft :=
  instructions.foldl push draft

/-- The label is added to the draft without an instruction. -/
def addLabels (draft : Draft) (labels : List String) : Draft :=
  { draft with labels := draft.labels ++ labels }

/-- A node is traced under its text, and the trace names the new label. -/
def trace (draft : Draft) (expr : Expr) : Draft :=
  (draft.addLabels [expr.text]).push (.trace draft.labels.length)

/-- One visit extends the draft and may ask for more visits, which come before all others. -/
def visit (keys : List String) (draft : Draft) : Visit → Except Error (Draft × List Visit)
  | .enter (.number _ value) => .ok (draft.push (.const value), [])
  | .enter (.reference _ name) =>
      match Expr.slot? keys name with
      | some slot => .ok (draft.push (.load slot), [])
      | none => .error (.missingVariable name)
  | .enter (.unary grouped operator operand) =>
      .ok (draft, [.enter operand, .leave (.unary grouped operator operand)])
  | .enter (.binary grouped operator precedence left right) =>
      .ok (draft, [.enter left, .enter right,
        .leave (.binary grouped operator precedence left right)])
  | .leave (.number grouped value) => .ok (draft.trace (.number grouped value), [])
  | .leave (.reference grouped name) => .ok (draft.trace (.reference grouped name), [])
  | .leave (.unary grouped operator operand) =>
      match operator.signCode? with
      | some code => .ok ((draft.pushAll code).trace (.unary grouped operator operand), [])
      | none => .error (.unsupportedSign operator)
  | .leave (.binary grouped operator precedence left right) =>
      .ok ((draft.push (.combine operator)).trace
        (.binary grouped operator precedence left right), [])

end Draft

/-- A node with operands is visited twice, and every other node once. -/
def Expr.visitCount : Expr → Nat
  | .number _ _ => 1
  | .reference _ _ => 1
  | .unary _ _ operand => operand.visitCount + 2
  | .binary _ _ _ left right => left.visitCount + right.visitCount + 2

/-- The weight of a visit exceeds the weights of the visits that it asks for. -/
def Visit.weight : Visit → Nat
  | .enter expr => expr.visitCount
  | .leave _ => 1

/-- The weight of a stack bounds the number of visits. -/
def Visit.totalWeight : List Visit → Nat
  | [] => 0
  | visit :: rest => visit.weight + totalWeight rest

@[simp] theorem Visit.totalWeight_cons (visit : Visit) (rest : List Visit) :
    totalWeight (visit :: rest) = visit.weight + totalWeight rest := rfl

@[simp] theorem Visit.totalWeight_append (first second : List Visit) :
    totalWeight (first ++ second) = totalWeight first + totalWeight second := by
  induction first with
  | nil => simp [totalWeight]
  | cons visit rest inductionHypothesis =>
      rw [List.cons_append, totalWeight_cons, totalWeight_cons, inductionHypothesis, Nat.add_assoc]

namespace Draft

theorem totalWeight_of_visit {keys : List String} {draft next : Draft} {visit : Visit}
    {visits : List Visit} (success : draft.visit keys visit = .ok (next, visits)) :
    Visit.totalWeight visits < visit.weight := by
  cases visit with
  | enter expr =>
      cases expr with
      | number grouped value =>
          simp only [Draft.visit, Except.ok.injEq, Prod.mk.injEq] at success
          simp [← success.2, Visit.totalWeight, Visit.weight, Expr.visitCount]
      | reference grouped name =>
          simp only [Draft.visit] at success
          split at success
          · simp only [Except.ok.injEq, Prod.mk.injEq] at success
            simp [← success.2, Visit.totalWeight, Visit.weight, Expr.visitCount]
          · simp at success
      | unary grouped operator operand =>
          simp only [Draft.visit, Except.ok.injEq, Prod.mk.injEq] at success
          simp [← success.2, Visit.totalWeight, Visit.weight, Expr.visitCount]
      | binary grouped operator precedence left right =>
          simp only [Draft.visit, Except.ok.injEq, Prod.mk.injEq] at success
          simp [← success.2, Visit.totalWeight, Visit.weight, Expr.visitCount]
          omega
  | leave expr =>
      have none : visits = [] := by
        cases expr with
        | unary grouped operator operand =>
            simp only [Draft.visit] at success
            split at success
            · simp only [Except.ok.injEq, Prod.mk.injEq] at success
              exact success.2.symm
            · simp at success
        | _ =>
            simp only [Draft.visit, Except.ok.injEq, Prod.mk.injEq] at success
            exact success.2.symm
      simp [none, Visit.totalWeight, Visit.weight]

/-- The visit on top of the stack comes first. -/
def walk (keys : List String) (draft : Draft) (pending : List Visit) : Except Error Draft :=
  match pending with
  | [] => .ok draft
  | visit :: rest =>
      match success : draft.visit keys visit with
      | .error error => .error error
      | .ok (next, visits) =>
          have := totalWeight_of_visit success
          next.walk keys (visits ++ rest)
  termination_by Visit.totalWeight pending
  decreasing_by
    rw [Visit.totalWeight_append, Visit.totalWeight_cons]
    omega

theorem walk_cons (keys : List String) (draft : Draft) (visit : Visit) (rest : List Visit) :
    draft.walk keys (visit :: rest) =
      match draft.visit keys visit with
      | .error error => .error error
      | .ok (next, visits) => next.walk keys (visits ++ rest) := by
  rw [walk]
  split
  next failed => simp only [failed]
  next success => simp only [success]

/-- The code and the labels of a segment are added together. -/
def extend (draft : Draft) (segment : Segment) : Draft :=
  (draft.addLabels segment.labels).pushAll segment.instructions

@[simp] theorem labels_push (draft : Draft) (instruction : Instruction) :
    (draft.push instruction).labels = draft.labels := by
  cases instruction <;> rfl

@[simp] theorem instructions_push (draft : Draft) (instruction : Instruction) :
    (draft.push instruction).instructions = draft.instructions ++ [instruction] := by
  cases instruction <;> rfl

theorem pushAll_append (draft : Draft) (first second : List Instruction) :
    draft.pushAll (first ++ second) = (draft.pushAll first).pushAll second :=
  List.foldl_append

@[simp] theorem labels_pushAll (draft : Draft) (instructions : List Instruction) :
    (draft.pushAll instructions).labels = draft.labels := by
  induction instructions generalizing draft with
  | nil => rfl
  | cons instruction rest inductionHypothesis =>
      exact (inductionHypothesis (draft.push instruction)).trans (labels_push draft instruction)

@[simp] theorem instructions_pushAll (draft : Draft) (instructions : List Instruction) :
    (draft.pushAll instructions).instructions = draft.instructions ++ instructions := by
  induction instructions generalizing draft with
  | nil => simp [pushAll]
  | cons instruction rest inductionHypothesis =>
      have tail := inductionHypothesis (draft.push instruction)
      rw [instructions_push, List.append_assoc] at tail
      exact tail

theorem push_addLabels (draft : Draft) (labels : List String) (instruction : Instruction) :
    (draft.addLabels labels).push instruction = (draft.push instruction).addLabels labels := by
  cases instruction <;> rfl

theorem pushAll_addLabels (draft : Draft) (labels : List String)
    (instructions : List Instruction) :
    (draft.addLabels labels).pushAll instructions =
      (draft.pushAll instructions).addLabels labels := by
  induction instructions generalizing draft with
  | nil => rfl
  | cons instruction rest inductionHypothesis =>
      have tail := inductionHypothesis (draft.push instruction)
      rw [← push_addLabels] at tail
      exact tail

theorem addLabels_addLabels (draft : Draft) (first second : List String) :
    (draft.addLabels first).addLabels second = draft.addLabels (first ++ second) := by
  simp [addLabels]

/-- Two segments in turn are added like one. -/
theorem extend_extend (draft : Draft) (first second : Segment) :
    (draft.extend first).extend second = draft.extend (first.append second) := by
  simp only [extend, Segment.append, pushAll_append, pushAll_addLabels, addLabels_addLabels]

@[simp] theorem labels_extend (draft : Draft) (segment : Segment) :
    (draft.extend segment).labels = draft.labels ++ segment.labels :=
  labels_pushAll (draft.addLabels segment.labels) segment.instructions

@[simp] theorem instructions_extend (draft : Draft) (segment : Segment) :
    (draft.extend segment).instructions = draft.instructions ++ segment.instructions :=
  instructions_pushAll (draft.addLabels segment.labels) segment.instructions

/-- A node that is left adds its own code and its trace to the segment of its operands. -/
theorem trace_extend (draft : Draft) (segment : Segment) (code : List Instruction) (expr : Expr) :
    ((draft.extend segment).pushAll code).trace expr =
      draft.extend (segment.close draft.labels.length code expr.text) := by
  have count : ((draft.extend segment).pushAll code).labels.length =
      draft.labels.length + segment.labels.length := by
    rw [labels_pushAll, labels_extend, List.length_append]
  rw [trace, count]
  simp only [extend, Segment.close, pushAll_append, pushAll_addLabels, addLabels_addLabels,
    push_addLabels]
  rfl

/-- A pending visit of an expression adds its segment before the other visits go on. -/
theorem walk_enter (keys : List String) (expr : Expr) (draft : Draft) (pending : List Visit) :
    draft.walk keys (.enter expr :: pending) =
      match expr.lowerFrom keys draft.labels.length with
      | .error error => .error error
      | .ok segment => (draft.extend segment).walk keys pending := by
  induction expr generalizing draft pending with
  | number grouped value =>
      rw [walk_cons]
      simp [visit, Expr.lowerFrom, extend, Segment.single, addLabels, pushAll]
  | reference grouped name =>
      rw [walk_cons]
      cases found : Expr.slot? keys name with
      | none => simp [visit, Expr.lowerFrom, found]
      | some slot =>
          simp [visit, Expr.lowerFrom, found, extend, Segment.single, addLabels, pushAll]
  | unary grouped operator operand operandHypothesis =>
      rw [walk_cons]
      simp only [visit, List.cons_append, List.nil_append]
      rw [operandHypothesis, Expr.lowerFrom]
      cases operand.lowerFrom keys draft.labels.length with
      | error error => rfl
      | ok segment =>
          simp only [bind, Except.bind]
          rw [walk_cons]
          cases sign : operator.signCode? with
          | none => simp [visit, sign]
          | some code => simp [visit, sign, trace_extend]
  | binary grouped operator precedence left right leftHypothesis rightHypothesis =>
      rw [walk_cons]
      simp only [visit, List.cons_append, List.nil_append]
      rw [leftHypothesis, Expr.lowerFrom]
      cases left.lowerFrom keys draft.labels.length with
      | error error => rfl
      | ok first =>
          simp only [bind, Except.bind]
          rw [rightHypothesis, labels_extend, List.length_append]
          cases right.lowerFrom keys (draft.labels.length + first.labels.length) with
          | error error => rfl
          | ok second =>
              have closed := trace_extend draft (first.append second) [.combine operator]
                (.binary grouped operator precedence left right)
              simp only [walk_cons, visit, List.nil_append, extend_extend]
              exact congrArg (walk keys · pending) closed

/-- The loop ends with the segment of the whole expression. -/
theorem walk_of_lowerFrom {keys : List String} {expr : Expr} {segment : Segment}
    (lowered : expr.lowerFrom keys 0 = .ok segment) :
    empty.walk keys [.enter expr] = .ok (empty.extend segment) := by
  rw [walk_enter, show empty.labels.length = 0 from rfl, lowered]
  simp only [walk]

end Draft

/-- The visits start at the root of the expression. -/
def Program.ofVisits (expr : Expr) (parameters : List String) : Except Error Program :=
  (Draft.empty.walk (parameters.map Name.fold) [.enter expr]).map fun draft =>
    ⟨parameters, draft.instructions, draft.labels⟩

/-- Visits in turn and recursion give the same program or the same error. -/
theorem Program.ofVisits_eq_ofExpr (expr : Expr) (parameters : List String) :
    ofVisits expr parameters = ofExpr expr parameters := by
  rw [ofVisits, ofExpr, Draft.walk_enter]
  have start : Draft.empty.labels.length = 0 := rfl
  rw [start]
  cases expr.lowerFrom (parameters.map Name.fold) 0 with
  | error error => rfl
  | ok segment => simp [Draft.walk, Except.map, Draft.empty]

end TraceCalc
