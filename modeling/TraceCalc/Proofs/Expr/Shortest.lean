/-
This file shows that no source of an expression is shorter than the text of the expression.
-/

import TraceCalc.Proofs.Expr.Spacing

namespace TraceCalc

open Unicode

/-- A digit takes one byte. -/
theorem byteCount_eq_length {digits : List Char}
    (numeric : ∀ digit ∈ digits, digit.isDigit = true) : byteCount digits = digits.length := by
  induction digits with
  | nil => rfl
  | cons digit rest inductionHypothesis =>
      obtain ⟨isDigit, inside⟩ := List.forall_mem_cons.mp numeric
      have bound : digit.toNat ≤ '9'.toNat := (Char.isDigit_iff_toNat.mp isDigit).2
      have single : digit.utf8Size = 1 := by
        rw [Char.utf8Size_eq_one_iff, UInt32.le_iff_toNat_le]
        exact Nat.le_trans bound (by decide)
      rw [byteCount_cons, single, inductionHypothesis inside, List.length_cons, Nat.add_comm]

/-- A text has no fewer bytes than a part of its characters. -/
theorem byteCount_filter_le (accepts : Char → Bool) (text : List Char) :
    byteCount (text.filter accepts) ≤ byteCount text := by
  induction text with
  | nil => exact Nat.le_refl 0
  | cons character rest inductionHypothesis =>
      rw [List.filter_cons]
      split <;> simp only [byteCount_cons] <;> omega

namespace Expr

/-- The first expression has the structure of the second one and at least its marks. -/
inductive HasMarksOf : Expr → Expr → Prop
  | number {more mark : Bool} (kept : mark ≤ more) (value : Int64) :
      HasMarksOf (.number more value) (.number mark value)
  | reference {more mark : Bool} (kept : mark ≤ more) (name : String) :
      HasMarksOf (.reference more name) (.reference mark name)
  | unary {more mark : Bool} (kept : mark ≤ more) (operator : Operator)
      {operandMore operand : Expr} (inner : HasMarksOf operandMore operand) :
      HasMarksOf (.unary more operator operandMore) (.unary mark operator operand)
  | binary {more mark : Bool} (kept : mark ≤ more) (operator : Operator)
      (precedence : Precedence) {leftMore rightMore left right : Expr}
      (before : HasMarksOf leftMore left) (behind : HasMarksOf rightMore right) :
      HasMarksOf (.binary more operator precedence leftMore rightMore)
        (.binary mark operator precedence left right)

/-- The source denotes the expression, with all its marks and perhaps with others. -/
def IsWrittenAs (expr : Expr) (source : String) : Prop :=
  ∃ found, parse source = .ok found ∧ found.HasMarksOf expr

/-- Only the mark of the root is taken away. -/
def ungroup : Expr → Expr
  | .number _ value => .number false value
  | .reference _ name => .reference false name
  | .unary _ operator operand => .unary false operator operand
  | .binary _ operator precedence left right => .binary false operator precedence left right

/-- The parentheses of a text are written for the marks and for nothing that they do not cover. -/
theorem hasMarksOf_asWritten (expr : Expr) (parent : Precedence) (onRight : Bool) :
    (expr.asWritten parent onRight).HasMarksOf expr := by
  induction expr generalizing parent onRight with
  | number grouped value => exact .number (Bool.left_le_or _ _) value
  | reference grouped name => exact .reference (Bool.left_le_or _ _) name
  | unary grouped operator operand inner =>
      exact .unary (Bool.left_le_or _ _) operator (inner _ _)
  | binary grouped operator precedence left right before behind =>
      exact .binary (Bool.left_le_or _ _) operator precedence (before _ _) (behind _ _)

/-- The mark of a group may be one that the group adds. -/
theorem HasMarksOf.ungroup {found expr : Expr} (marks : found.group.HasMarksOf expr) :
    found.HasMarksOf expr.ungroup := by
  cases found <;> cases marks
  case number.number => exact .number (Bool.false_le _) _
  case reference.reference => exact .reference (Bool.false_le _) _
  case unary.unary inner => exact .unary (Bool.false_le _) _ inner
  case binary.binary before behind => exact .binary (Bool.false_le _) _ _ before behind

section Places

variable {parent : Precedence} {onRight : Bool} {expr : Expr}

theorem sign_lt_leaf : Precedence.sign < Precedence.leaf := by decide

/-- A place for looser operators is below the precedence, also on the right. -/
theorem le_of_leastIn_lt {parent own : Nat} (admitted : leastIn parent onRight < own) :
    parent ≤ own ∧ (parent = own → onRight = false) := by
  cases onRight with
  | false => exact ⟨Nat.le_of_pred_lt admitted, fun _ => rfl⟩
  | true => exact ⟨Nat.le_of_lt admitted, fun same => absurd same (Nat.ne_of_lt admitted)⟩

/-- An unmarked node stands bare in a place for looser operators than its own. -/
theorem HasMarksOf.isEnclosed_eq_false {found : Expr} (marks : found.HasMarksOf expr)
    (unmarked : found.grouped = false) (admitted : leastIn parent onRight < found.precedence) :
    expr.isEnclosed parent onRight = false := by
  obtain ⟨tight, side⟩ := le_of_leastIn_lt admitted
  have bare {mark more : Bool} (kept : mark ≤ more) (none : more = false) : mark = false :=
    Bool.eq_false_of_le_false (none ▸ kept)
  cases marks with
  | number kept value => exact Bool.or_eq_false_iff.mpr ⟨bare kept unmarked, rfl⟩
  | reference kept name => exact Bool.or_eq_false_iff.mpr ⟨bare kept unmarked, rfl⟩
  | unary kept operator _ =>
      exact Bool.or_eq_false_iff.mpr
        ⟨bare kept unmarked, decide_eq_false (Nat.not_lt_of_le tight)⟩
  | @binary _ _ kept operator precedence _ _ _ _ _ _ =>
      refine Bool.or_eq_false_iff.mpr ⟨bare kept unmarked, Bool.or_eq_false_iff.mpr
        ⟨decide_eq_false (Nat.not_lt_of_le tight), ?_⟩⟩
      by_cases same : parent = precedence
      · rw [side same, Bool.and_false]
      · rw [beq_eq_false_iff_ne.mpr (Ne.symm same), Bool.false_and]

theorem utf8ByteSize_enclose_le (enclosed : Bool) (text : String) :
    (enclose enclosed text).utf8ByteSize ≤ text.utf8ByteSize + 2 := by
  cases enclosed with
  | false => exact Nat.le_add_right _ _
  | true =>
      rw [enclose, if_pos rfl, String.utf8ByteSize_append, String.utf8ByteSize_append]
      change 1 + text.utf8ByteSize + 1 ≤ _
      omega

/-- An expression without a mark on its root is not enclosed as a whole. -/
theorem isEnclosed_ungroup (expr : Expr) :
    expr.ungroup.isEnclosed Precedence.lowest false = false := by
  cases expr with
  | binary grouped operator precedence left right =>
      simp [ungroup, isEnclosed, Expr.grouped, needsGroup, Precedence.lowest]
  | _ => rfl

/-- One pair of parentheses at most is written around a node. -/
theorem utf8ByteSize_format_le (expr : Expr) (parent : Precedence) (onRight : Bool) :
    (expr.format parent onRight).utf8ByteSize ≤ expr.ungroup.text.utf8ByteSize + 2 := by
  have bare := expr.isEnclosed_ungroup
  cases expr <;>
  · rw [ungroup] at bare ⊢
    rw [text, format, format, bare]
    exact utf8ByteSize_enclose_le _ _

/-- Two operands with their operator are no shorter than the node that is written from them. -/
theorem HasMarksOf.utf8ByteSize_infixed_le {operator : Operator} {first second : List Lexeme}
    {left right : Expr}
    (marks : (Expr.binary false operator operator.precedence left right).HasMarksOf expr)
    (admitted : leastIn parent onRight < operator.precedence)
    (before : ∀ inner, left.HasMarksOf inner →
      (inner.format operator.precedence false).utf8ByteSize ≤ byteCount (Lexeme.characters first))
    (behind : ∀ inner, right.HasMarksOf inner →
      (inner.format operator.precedence true).utf8ByteSize ≤
        byteCount (Lexeme.characters second)) :
    (expr.format parent onRight).utf8ByteSize ≤
      byteCount (Lexeme.characters (first ++ .symbol operator :: second)) := by
  have bare := marks.isEnclosed_eq_false rfl admitted
  cases marks with
  | binary _ _ _ leftMarks rightMarks =>
      have leftLe := before _ leftMarks
      have rightLe := behind _ rightMarks
      rw [format, bare, enclose, if_neg (by decide), String.utf8ByteSize_append,
        String.utf8ByteSize_append, Lexeme.characters_append, Lexeme.characters_cons,
        byteCount_append, byteCount_append, byteCount_toList, Lexeme.text]
      omega

/-- A sentence of an expression with all its marks is no shorter than the text of the expression. -/
theorem utf8ByteSize_format_le_of_derives {category : Category} {lexemes : List Lexeme}
    {found : Expr} (derived : Derives category lexemes found)
    (proper : ∀ lexeme ∈ lexemes, lexeme.IsProper) (marks : found.HasMarksOf expr)
    (admitted : leastIn parent onRight < category.least) :
    (expr.format parent onRight).utf8ByteSize ≤ byteCount (Lexeme.characters lexemes) := by
  -- The place is arbitrary, since a group puts the same expression into a place of its own.
  induction derived generalizing expr parent onRight with
  | number digits value =>
      obtain ⟨nonempty, numeric, exactly⟩ := List.forall_mem_singleton.mp proper
      have bare := marks.isEnclosed_eq_false rfl (Nat.lt_trans admitted sign_lt_leaf)
      cases marks with
      | number _ _ =>
          have written := Text.Decimal.length_write_le
            (fun empty => nonempty (String.toList_eq_nil_iff.mp empty)) numeric exactly
          have nonnegative : 0 ≤ value.toInt := exactly ▸ Int.natCast_nonneg _
          rw [← byteCount_eq_length numeric, ← byteCount_eq_length
            fun _ => Text.Decimal.isDigit_of_mem_write nonnegative, byteCount_toList] at written
          rw [format, bare, Lexeme.characters_cons, byteCount_append]
          exact Nat.le_trans written (Nat.le_add_right _ _)
  | identifier name =>
      have bare := marks.isEnclosed_eq_false rfl (Nat.lt_trans admitted sign_lt_leaf)
      cases marks with
      | reference _ _ =>
          rw [format, bare, Lexeme.characters_cons, byteCount_append, Lexeme.text, byteCount_toList]
          exact Nat.le_add_right _ _
  | signed _ _ inner =>
      have bare := marks.isEnclosed_eq_false rfl admitted
      cases marks with
      | unary _ operator operandMarks =>
          have operandLe : (format Precedence.sign false _).utf8ByteSize ≤ _ :=
            inner (List.forall_mem_cons.mp proper).2 operandMarks (by decide)
          rw [format, bare, enclose, if_neg (by decide), String.utf8ByteSize_append,
            Lexeme.characters_cons, byteCount_append, byteCount_toList, Lexeme.text]
          omega
  | group _ inner =>
      have inside := (List.forall_mem_append.mp (List.forall_mem_cons.mp proper).2).1
      have bare : expr.ungroup.text.utf8ByteSize ≤ _ := inner inside marks.ungroup (by decide)
      rw [Lexeme.characters_cons, Lexeme.characters_append, byteCount_append, byteCount_append]
      have around := expr.utf8ByteSize_format_le parent onRight
      have opening : byteCount Lexeme.opening.text.toList = 1 := by decide
      have closing : byteCount (Lexeme.characters [.closing]) = 1 := by decide
      omega
  | ofFactor _ inner => exact inner proper marks (Nat.lt_trans admitted (by decide))
  | product scales _ _ before behind =>
      obtain ⟨first, second⟩ := List.forall_mem_append.mp proper
      rcases scales with rfl | rfl <;>
        exact marks.utf8ByteSize_infixed_le admitted
          (fun _ leftMarks => before first leftMarks (by decide))
          fun _ rightMarks => behind (List.forall_mem_cons.mp second).2 rightMarks (by decide)
  | ofProduct _ inner => exact inner proper marks (Nat.lt_trans admitted (by decide))
  | sum adds _ _ before behind =>
      obtain ⟨first, second⟩ := List.forall_mem_append.mp proper
      rcases adds with rfl | rfl <;>
        exact marks.utf8ByteSize_infixed_le admitted
          (fun _ leftMarks => before first leftMarks (by decide))
          fun _ rightMarks => behind (List.forall_mem_cons.mp second).2 rightMarks (by decide)

end Places

theorem IsWrittenAs.utf8ByteSize_text_le {expr : Expr} {source : String}
    (written : expr.IsWrittenAs source) : expr.text.utf8ByteSize ≤ source.utf8ByteSize := by
  obtain ⟨found, success, marks⟩ := written
  obtain ⟨lexemes, derived, proper, spaced, _⟩ := exists_isSpaced_of_parse success
  have shorter := byteCount_filter_le (fun character => !isWhiteSpace character) source.toList
  rw [spaced.filter_eq_characters proper, byteCount_toList] at shorter
  exact Nat.le_trans (utf8ByteSize_format_le_of_derives derived proper marks (by decide)) shorter

/--
Among all sources that denote an expression with its marks, the text of the expression is a shortest
one: it denotes the expression itself, and none of the others has fewer bytes.
-/
theorem text_isShortest {expr : Expr} (writable : expr.IsWritable) :
    expr.IsWrittenAs expr.text ∧
      ∀ source, expr.IsWrittenAs source → expr.text.utf8ByteSize ≤ source.utf8ByteSize := by
  refine ⟨⟨_, (parse_text writable).1, expr.hasMarksOf_asWritten _ _⟩, ?_⟩
  intro source written
  exact written.utf8ByteSize_text_le

set_option maxRecDepth 8000 in
/-- The difference on the right and the marked name have parentheses, and nothing else has. -/
theorem text_isShortest_of_difference :
    let expr := Expr.binary false .minus 10 (.reference false "a")
      (.binary false .minus 10 (.number false 3) (.reference true "b"))
    expr.IsWritable ∧ expr.text = "a-(3-(b))" ∧ expr.IsWrittenAs "(a)-( 03-((b)) )" ∧
      expr.text.utf8ByteSize ≤ "(a)-( 03-((b)) )".utf8ByteSize := by
  intro expr
  have nonnegative : 0 ≤ (3 : Int64).toInt := by decide
  have writable : expr.IsWritable := ⟨rfl, by cbv, rfl, nonnegative, by cbv⟩
  have success : parse "(a)-( 03-((b)) )" = .ok (.binary false .minus 10 (.reference true "a")
      (.binary true .minus 10 (.number false 3) (.reference true "b"))) := by cbv
  have written : expr.IsWrittenAs "(a)-( 03-((b)) )" :=
    ⟨_, success, .binary (by decide) .minus 10 (.reference (by decide) "a")
      (.binary (by decide) .minus 10 (.number (by decide) 3) (.reference (by decide) "b"))⟩
  exact ⟨writable, by decide +kernel, written, (text_isShortest writable).2 _ written⟩

end Expr

end TraceCalc
