/-
This file writes expressions with an explicit stack of pieces instead of recursion.
-/

import TraceCalc.Expr

namespace TraceCalc

section Rules

/--
A node stands in parentheses if it is marked, if its operator is looser than the parent, or if it
is an infix operator on the right of an equally tight one.
-/
inductive Expr.Encloses (parent : Precedence) (onRight : Bool) : Expr → Prop
  | marked {expr : Expr} (marked : expr.grouped = true) : Encloses parent onRight expr
  | sign {grouped : Bool} {operator : Operator} {operand : Expr}
      (looser : Precedence.sign < parent) :
      Encloses parent onRight (.unary grouped operator operand)
  | looser {grouped : Bool} {operator : Operator} {precedence : Precedence} {left right : Expr}
      (looser : precedence < parent) :
      Encloses parent onRight (.binary grouped operator precedence left right)
  | equal {grouped : Bool} {operator : Operator} {precedence : Precedence} {left right : Expr}
      (same : precedence = parent) (side : onRight = true) :
      Encloses parent onRight (.binary grouped operator precedence left right)

theorem Expr.isEnclosed_iff {parent : Precedence} {onRight : Bool} {expr : Expr} :
    expr.isEnclosed parent onRight = true ↔ expr.Encloses parent onRight := by
  rw [isEnclosed, Bool.or_eq_true]
  constructor
  · rintro (marked | needed)
    · exact .marked marked
    · cases expr with
      | number grouped value => simp [needsGroup] at needed
      | reference grouped name => simp [needsGroup] at needed
      | unary grouped operator operand => exact .sign (of_decide_eq_true needed)
      | binary grouped operator precedence left right =>
          rw [needsGroup, Bool.or_eq_true, Bool.and_eq_true, decide_eq_true_eq, beq_iff_eq] at needed
          rcases needed with looser | ⟨same, side⟩
          · exact .looser looser
          · exact .equal same side
  · intro enclosed
    cases enclosed with
    | marked marked => exact .inl marked
    | sign looser => exact .inr (decide_eq_true looser)
    | looser looser => exact .inr (by simp [needsGroup, looser])
    | equal same side => exact .inr (by simp [needsGroup, same, side])

mutual

/-- The node has the text in this place, with its parentheses. -/
inductive Expr.Spells : Precedence → Bool → Expr → String → Prop
  | bare {parent : Precedence} {onRight : Bool} {expr : Expr} {text : String}
      (free : ¬ expr.Encloses parent onRight) (inner : expr.SpellsInside text) :
      Spells parent onRight expr text
  | enclosed {parent : Precedence} {onRight : Bool} {expr : Expr} {text : String}
      (enclosed : expr.Encloses parent onRight) (inner : expr.SpellsInside text) :
      Spells parent onRight expr ("(" ++ text ++ ")")

/-- The node has the text without its own parentheses. -/
inductive Expr.SpellsInside : Expr → String → Prop
  | number (grouped : Bool) (value : Int64) :
      SpellsInside (.number grouped value) (Text.Decimal.write value)
  | reference (grouped : Bool) (name : String) : SpellsInside (.reference grouped name) name
  | unary (grouped : Bool) (operator : Operator) {operand : Expr} {text : String}
      (inner : operand.Spells Precedence.sign false text) :
      SpellsInside (.unary grouped operator operand) (operator.symbol ++ text)
  | binary (grouped : Bool) (operator : Operator) (precedence : Precedence) {left right : Expr}
      {first second : String} (before : left.Spells precedence false first)
      (behind : right.Spells precedence true second) :
      SpellsInside (.binary grouped operator precedence left right)
        (first ++ operator.symbol ++ second)

end

namespace Expr

variable {parent : Precedence} {onRight : Bool} {expr : Expr} {text : String}

/-- The text of a node without its own parentheses. -/
def formatInside : Expr → String
  | .number _ value => Text.Decimal.write value
  | .reference _ name => name
  | .unary _ operator operand => operator.symbol ++ operand.format Precedence.sign false
  | .binary _ operator precedence left right =>
      left.format precedence false ++ operator.symbol ++ right.format precedence true

theorem format_eq_enclose (parent : Precedence) (onRight : Bool) (expr : Expr) :
    expr.format parent onRight = enclose (expr.isEnclosed parent onRight) expr.formatInside := by
  cases expr <;> rw [format, formatInside]

/-- The rules admit the parentheses that are written. -/
theorem SpellsInside.spells_format (inner : expr.SpellsInside expr.formatInside) :
    expr.Spells parent onRight (expr.format parent onRight) := by
  rw [format_eq_enclose, enclose]
  split
  next enclosed => exact .enclosed (isEnclosed_iff.mp enclosed) inner
  next free => exact .bare (mt isEnclosed_iff.mpr free) inner

/-- The rules admit no other parentheses than those that are written. -/
theorem Spells.eq_format_of_inside (spells : expr.Spells parent onRight text)
    (inside : ∀ inner, expr.SpellsInside inner → inner = expr.formatInside) :
    text = expr.format parent onRight := by
  rw [format_eq_enclose, enclose]
  cases spells with
  | bare free inner => rw [if_neg (mt isEnclosed_iff.mp free), inside _ inner]
  | enclosed enclosed inner => rw [if_pos (isEnclosed_iff.mpr enclosed), inside _ inner]

/-- Each expression has one text in each place. -/
theorem spells_iff : expr.Spells parent onRight text ↔ text = expr.format parent onRight := by
  constructor
  · intro spells
    induction expr generalizing parent onRight text with
    | number grouped value =>
        refine spells.eq_format_of_inside fun _ inner => ?_
        cases inner with
        | number => rfl
    | reference grouped name =>
        refine spells.eq_format_of_inside fun _ inner => ?_
        cases inner with
        | reference => rfl
    | unary grouped operator operand operandHypothesis =>
        refine spells.eq_format_of_inside fun _ inner => ?_
        cases inner with
        | unary _ _ inner => rw [formatInside, operandHypothesis inner]
    | binary grouped operator precedence left right leftHypothesis rightHypothesis =>
        refine spells.eq_format_of_inside fun _ inner => ?_
        cases inner with
        | binary _ _ _ before behind =>
            rw [formatInside, leftHypothesis before, rightHypothesis behind]
  · rintro rfl
    induction expr generalizing parent onRight with
    | number grouped value => exact (SpellsInside.number grouped value).spells_format
    | reference grouped name => exact (SpellsInside.reference grouped name).spells_format
    | unary grouped operator operand operandHypothesis =>
        exact (SpellsInside.unary grouped operator operandHypothesis).spells_format
    | binary grouped operator precedence left right leftHypothesis rightHypothesis =>
        exact (SpellsInside.binary grouped operator precedence leftHypothesis
          rightHypothesis).spells_format

end Expr

end Rules

/-- A node counts for itself, for its operator and for a closing parenthesis. -/
def Expr.pieceCount : Expr → Nat
  | .number _ _ => 2
  | .reference _ _ => 2
  | .unary _ _ operand => operand.pieceCount + 2
  | .binary _ _ _ left right => left.pieceCount + right.pieceCount + 3

/-- A piece is a node in its place or a text that stands between nodes or behind them. -/
inductive Piece where
  | node (expr : Expr) (parent : Precedence) (onRight : Bool)
  | verbatim (text : String)

namespace Piece

section Loop

/-- What a piece writes at once, and the pieces that take its place before all others. -/
def write : Piece → String × List Piece
  | .verbatim text => (text, [])
  | .node expr parent onRight =>
      let enclosed := expr.isEnclosed parent onRight
      let opening := if enclosed then "(" else ""
      let closing := if enclosed then [verbatim ")"] else []
      match expr with
      | .number _ value => (opening ++ Text.Decimal.write value, closing)
      | .reference _ name => (opening ++ name, closing)
      | .unary _ operator operand =>
          (opening ++ operator.symbol, node operand Precedence.sign false :: closing)
      | .binary _ operator precedence left right =>
          (opening, node left precedence false :: verbatim operator.symbol ::
            node right precedence true :: closing)

/-- The weight of a piece exceeds the weights of the pieces that take its place. -/
def weight : Piece → Nat
  | .node expr _ _ => expr.pieceCount
  | .verbatim _ => 1

/-- The weight of a stack bounds the number of steps. -/
def totalWeight : List Piece → Nat
  | [] => 0
  | piece :: rest => piece.weight + totalWeight rest

theorem totalWeight_cons (piece : Piece) (rest : List Piece) :
    totalWeight (piece :: rest) = piece.weight + totalWeight rest := rfl

theorem totalWeight_append (first second : List Piece) :
    totalWeight (first ++ second) = totalWeight first + totalWeight second := by
  induction first with
  | nil => exact (Nat.zero_add _).symm
  | cons piece rest inductionHypothesis =>
      rw [List.cons_append, totalWeight_cons, totalWeight_cons, inductionHypothesis, Nat.add_assoc]

theorem totalWeight_write (piece : Piece) : totalWeight piece.write.2 < piece.weight := by
  have closed (enclosed : Bool) :
      totalWeight (if enclosed then [verbatim ")"] else []) ≤ 1 := by
    cases enclosed <;> decide
  cases piece with
  | verbatim text => exact Nat.one_pos
  | node expr parent onRight =>
      have closing := closed (expr.isEnclosed parent onRight)
      cases expr with
      | number grouped value => exact Nat.lt_succ_of_le closing
      | reference grouped name => exact Nat.lt_succ_of_le closing
      | unary grouped operator operand =>
          simp only [write, totalWeight_cons, weight, Expr.pieceCount]
          omega
      | binary grouped operator precedence left right =>
          simp only [write, totalWeight_cons, weight, Expr.pieceCount]
          omega

/-- The piece on top of the stack comes first. -/
def print (written : String) (pending : List Piece) : String :=
  match pending with
  | [] => written
  | piece :: rest => print (written ++ piece.write.1) (piece.write.2 ++ rest)
  termination_by totalWeight pending
  decreasing_by
    rw [totalWeight_append, totalWeight_cons]
    exact Nat.add_lt_add_right (totalWeight_write piece) _

/-- The loop reaches a text with the pieces that are still pending. -/
inductive Reaches (expr : Expr) (parent : Precedence) (onRight : Bool) :
    String → List Piece → Prop
  | start : Reaches expr parent onRight "" [node expr parent onRight]
  | write {written : String} {piece : Piece} {rest : List Piece}
      (reached : Reaches expr parent onRight written (piece :: rest)) :
      Reaches expr parent onRight (written ++ piece.write.1) (piece.write.2 ++ rest)

end Loop

section Invariant

/-- The text that a piece stands for. -/
def whole : Piece → String
  | .node expr parent onRight => expr.format parent onRight
  | .verbatim text => text

/-- The text that all pending pieces stand for. -/
def wholes (pending : List Piece) : String := String.join (pending.map whole)

theorem wholes_nil : wholes [] = "" := rfl

theorem wholes_cons (piece : Piece) (rest : List Piece) :
    wholes (piece :: rest) = piece.whole ++ wholes rest := String.join_cons

theorem wholes_append (first second : List Piece) :
    wholes (first ++ second) = wholes first ++ wholes second := by
  rw [wholes, List.map_append, String.join_append]
  rfl

/-- The opening parenthesis is written at once, and the closing one waits behind the text. -/
theorem append_wholes_closing (enclosed : Bool) (text : String) :
    (if enclosed then "(" else "") ++ (text ++
      wholes (if enclosed then [verbatim ")"] else [])) = Expr.enclose enclosed text := by
  cases enclosed with
  | false => simp [Expr.enclose, wholes_nil]
  | true => simp [Expr.enclose, wholes_cons, wholes_nil, whole, String.append_assoc]

/-- What a piece writes and the pieces that take its place stand for the piece. -/
theorem write_append_wholes (piece : Piece) :
    piece.write.1 ++ wholes piece.write.2 = piece.whole := by
  cases piece with
  | verbatim text =>
      rw [write, wholes_nil, whole]
      exact String.append_empty
  | node expr parent onRight =>
      rw [whole, Expr.format_eq_enclose, ← append_wholes_closing]
      cases expr with
      | number grouped value => exact String.append_assoc
      | reference grouped name => exact String.append_assoc
      | unary grouped operator operand =>
          simp only [write, Expr.formatInside, wholes_cons, whole, String.append_assoc]
      | binary grouped operator precedence left right =>
          simp only [write, Expr.formatInside, wholes_cons, whole, String.append_assoc]

variable {expr : Expr} {parent : Precedence} {onRight : Bool} {written : String}
  {pending : List Piece}

/-- At every step, the text so far and the pending pieces make up the text of the expression. -/
theorem Reaches.append_wholes (reached : Reaches expr parent onRight written pending) :
    written ++ wholes pending = expr.format parent onRight := by
  induction reached with
  | start => rw [wholes_cons, wholes_nil, whole, String.empty_append, String.append_empty]
  | @write written piece rest _ inductionHypothesis =>
      calc written ++ piece.write.1 ++ wholes (piece.write.2 ++ rest)
        _ = written ++ (piece.write.1 ++ wholes piece.write.2 ++ wholes rest) := by
          rw [wholes_append, String.append_assoc, String.append_assoc]
        _ = written ++ wholes (piece :: rest) := by rw [write_append_wholes, wholes_cons]
        _ = expr.format parent onRight := inductionHypothesis

/-- The loop comes to its end, where no piece is pending. -/
theorem Reaches.print (reached : Reaches expr parent onRight written pending) :
    Reaches expr parent onRight (print written pending) [] := by
  fun_induction Piece.print written pending with
  | case1 written => exact reached
  | case2 written piece rest inductionHypothesis => exact inductionHypothesis reached.write

/-- At the end of the loop, nothing but the text of the expression was written. -/
theorem Reaches.eq_format (reached : Reaches expr parent onRight written []) :
    written = expr.format parent onRight := by
  rw [← reached.append_wholes, wholes_nil, String.append_empty]

end Invariant

end Piece

/--
The loop over the pieces comes to its end in every place, and with no other text than the one that
recursion writes and the rules give. Before the end, the text so far and the pending pieces make
it up.
-/
theorem Expr.format_isPrinted (expr : Expr) (parent : Precedence) (onRight : Bool) :
    Piece.print "" [.node expr parent onRight] = expr.format parent onRight ∧
      (∀ text, Piece.Reaches expr parent onRight text [] ↔ text = expr.format parent onRight) ∧
      (∀ written pending, Piece.Reaches expr parent onRight written pending →
        written ++ Piece.wholes pending = expr.format parent onRight) ∧
      ∀ text, expr.Spells parent onRight text ↔ text = expr.format parent onRight := by
  have reached : Piece.Reaches expr parent onRight "" [.node expr parent onRight] := .start
  have printed := reached.print.eq_format
  refine ⟨printed, fun text => ⟨fun final => final.eq_format, ?_⟩,
    fun _ _ between => between.append_wholes, fun text => spells_iff⟩
  rintro rfl
  exact printed ▸ reached.print

end TraceCalc
