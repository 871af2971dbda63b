/-
This file shows which expressions the sources denote, and that their text denotes them again.
-/

import TraceCalc.Proofs.Expr.RoundTrip
import TraceCalc.Proofs.Token.Tokenization

namespace TraceCalc

/-- Every lexeme of a source has a text of its kind. -/
theorem Token.isProper_of_ofSource {source : String} {tokens : List Token}
    (scanned : ofSource source = .ok tokens) : ∀ token ∈ tokens, token.lexeme.IsProper := by
  intro token member
  obtain ⟨left, right, _, _, proper, _⟩ :=
    ((result_scanFrom_eq_ok_iff (.start source.toList)).mp scanned).placed token member
  exact proper

namespace Expr

/-- Only a node with two operands has an infix operator. -/
def infixPrecedence? : Expr → Option Precedence
  | .number _ _ | .reference _ _ | .unary _ _ _ => none
  | .binary _ _ precedence _ _ => some precedence

/--
The operators, literals and names are those of the source language, and the nodes that cannot stand
in their places without parentheses are marked.
-/
def IsCanonical : Expr → Prop
  | .number _ value => 0 ≤ value.toInt
  | .reference _ name => Name.IsSpelled name
  | .unary _ operator operand =>
      (operator = .plus ∨ operator = .minus) ∧
        (operand.infixPrecedence?.isSome → operand.grouped = true) ∧ operand.IsCanonical
  | .binary _ operator precedence left right =>
      precedence = operator.precedence ∧
        (∀ inner ∈ left.infixPrecedence?, inner < precedence → left.grouped = true) ∧
        (∀ inner ∈ right.infixPrecedence?, inner ≤ precedence → right.grouped = true) ∧
        left.IsCanonical ∧ right.IsCanonical

/-- Parentheses are written around the marked nodes and around no others. -/
def markedText (expr : Expr) : String :=
  enclose expr.grouped <|
    match expr with
    | .number _ value => Text.Decimal.write value
    | .reference _ name => name
    | .unary _ operator operand => operator.symbol ++ operand.markedText
    | .binary _ operator _ left right => left.markedText ++ operator.symbol ++ right.markedText

/-- The infix operators of canonical expressions bind looser than a sign. -/
theorem IsCanonical.infixPrecedence_lt_sign {expr : Expr} {precedence : Precedence}
    (canonical : expr.IsCanonical) (found : precedence ∈ expr.infixPrecedence?) :
    precedence < Precedence.sign := by
  cases expr with
  | binary grouped operator stored left right =>
      rw [← Option.some.inj found, canonical.1]
      exact operator.precedence_lt_sign
  | _ => simp [infixPrecedence?] at found

/-- A mark on the root is never missing. -/
theorem isCanonical_group (expr : Expr) : expr.group.IsCanonical ↔ expr.IsCanonical := by
  cases expr <;> rfl

section Marks

/-- A root with a looser infix operator is marked. -/
def IsMarkedBelow (least : Nat) (expr : Expr) : Prop :=
  ∀ inner ∈ expr.infixPrecedence?, inner < least → expr.grouped = true

variable {least small large : Nat} {expr left right : Expr}

theorem isMarkedBelow_of_grouped (marked : expr.grouped = true) : expr.IsMarkedBelow least :=
  fun _ _ _ => marked

theorem isMarkedBelow_of_infixPrecedence?_eq_none (none : expr.infixPrecedence? = none) :
    expr.IsMarkedBelow least := by
  intro inner found
  rw [none] at found
  simp at found

theorem IsMarkedBelow.of_le (le : small ≤ large) (marked : expr.IsMarkedBelow large) :
    expr.IsMarkedBelow small :=
  fun inner found loose => marked inner found (Nat.lt_of_lt_of_le loose le)

/-- The right operand may not hold an operator that binds as tight as its parent. -/
theorem isCanonical_binary {operator : Operator}
    (before : left.IsCanonical ∧ left.IsMarkedBelow operator.precedence)
    (behind : right.IsCanonical ∧ right.IsMarkedBelow (operator.precedence + 1)) :
    (Expr.binary false operator operator.precedence left right).IsCanonical ∧
      (Expr.binary false operator operator.precedence left right).IsMarkedBelow
        operator.precedence := by
  refine ⟨⟨rfl, before.2, ?_, before.1, behind.1⟩, ?_⟩
  · exact fun inner found loose => behind.2 inner found (Nat.lt_succ_of_le loose)
  · intro inner found loose
    rw [← Option.some.inj found] at loose
    exact absurd loose (Nat.lt_irrefl _)

end Marks

end Expr

/-- Outside of parentheses, a category has operators of this precedence and tighter ones. -/
def Category.least : Category → Nat
  | .sum => 10
  | .product => 20
  | .factor => 30

/-- A sentence of proper lexemes derives a canonical expression. -/
theorem Derives.isCanonical {category : Category} {lexemes : List Lexeme} {expr : Expr}
    (derived : Derives category lexemes expr) (proper : ∀ lexeme ∈ lexemes, lexeme.IsProper) :
    expr.IsCanonical ∧ expr.IsMarkedBelow category.least := by
  -- Being canonical says nothing about the place of the root, so the bound goes along with it.
  induction derived with
  | number digits value =>
      have nonnegative : 0 ≤ value.toInt := by
        rw [(List.forall_mem_singleton.mp proper).2.2]
        exact Int.natCast_nonneg _
      exact ⟨nonnegative, Expr.isMarkedBelow_of_infixPrecedence?_eq_none rfl⟩
  | identifier name =>
      have spelled : Name.IsSpelled name := proper (.identifier name) List.mem_cons_self
      exact ⟨spelled, Expr.isMarkedBelow_of_infixPrecedence?_eq_none rfl⟩
  | signed sign _ inner =>
      obtain ⟨canonical, marked⟩ := inner (List.forall_mem_cons.mp proper).2
      refine ⟨⟨sign, fun isInfix => ?_, canonical⟩,
        Expr.isMarkedBelow_of_infixPrecedence?_eq_none rfl⟩
      obtain ⟨precedence, found⟩ := Option.isSome_iff_exists.mp isInfix
      exact marked precedence found (canonical.infixPrecedence_lt_sign found)
  | @group _ expr _ inner =>
      have inside := (List.forall_mem_append.mp (List.forall_mem_cons.mp proper).2).1
      exact ⟨expr.isCanonical_group.mpr (inner inside).1,
        Expr.isMarkedBelow_of_grouped expr.grouped_group⟩
  | ofFactor _ inner => exact (inner proper).imp_right (.of_le (by decide))
  | product scales _ _ before behind =>
      obtain ⟨first, second⟩ := List.forall_mem_append.mp proper
      have right := behind (List.forall_mem_cons.mp second).2
      rcases scales with rfl | rfl <;>
        exact Expr.isCanonical_binary (before first) (right.imp_right (.of_le (by decide)))
  | ofProduct _ inner => exact (inner proper).imp_right (.of_le (by decide))
  | sum adds _ _ before behind =>
      obtain ⟨first, second⟩ := List.forall_mem_append.mp proper
      have right := behind (List.forall_mem_cons.mp second).2
      rcases adds with rfl | rfl <;>
        exact Expr.isCanonical_binary (before first) (right.imp_right (.of_le (by decide)))

namespace Expr

theorem IsCanonical.isWritable {expr : Expr} (canonical : expr.IsCanonical) : expr.IsWritable := by
  induction expr with
  | number grouped value => exact canonical
  | reference grouped name => exact Lexeme.isReadable_identifier_iff.mpr canonical
  | unary grouped operator operand inner =>
      obtain ⟨sign, _, operandCanonical⟩ := canonical
      exact ⟨by rcases sign with rfl | rfl <;> rfl, inner operandCanonical⟩
  | binary grouped operator precedence left right before behind =>
      obtain ⟨stored, _, _, leftCanonical, rightCanonical⟩ := canonical
      exact ⟨stored, before leftCanonical, behind rightCanonical⟩

section Places

variable {parent : Precedence} {onRight : Bool} {expr : Expr}

/-- The mark of the node is there where its place demands parentheses. -/
def IsMarkedFor (parent : Precedence) (onRight : Bool) (expr : Expr) : Prop :=
  expr.needsGroup parent onRight = true → expr.grouped = true

/-- Parentheses are written for the mark, and never for the place alone. -/
theorem IsMarkedFor.isEnclosed (marked : expr.IsMarkedFor parent onRight) :
    expr.isEnclosed parent onRight = expr.grouped := by
  unfold Expr.isEnclosed
  cases needed : expr.needsGroup parent onRight with
  | false => exact Bool.or_false _
  | true => rw [marked needed, Bool.or_true]

/-- A place demands parentheses only for an operator that is too loose for it. -/
theorem IsMarkedBelow.isMarkedFor (tight : parent ≤ Precedence.sign)
    (marked : expr.IsMarkedBelow (parent + onRight.toNat)) : expr.IsMarkedFor parent onRight := by
  intro needed
  cases expr with
  | number grouped value => exact absurd needed Bool.false_ne_true
  | reference grouped name => exact absurd needed Bool.false_ne_true
  | unary grouped operator operand =>
      exact absurd (of_decide_eq_true needed) (Nat.not_lt_of_le tight)
  | binary grouped operator precedence left right =>
      refine marked precedence rfl ?_
      rw [needsGroup, Bool.or_eq_true, Bool.and_eq_true, decide_eq_true_iff, beq_iff_eq] at needed
      rcases needed with looser | ⟨rfl, rfl⟩
      · exact Nat.lt_add_right _ looser
      · exact Nat.lt_succ_self _

/-- The whole of an expression needs no parentheses. -/
theorem isMarkedFor_lowest (expr : Expr) : expr.IsMarkedFor Precedence.lowest false :=
  IsMarkedBelow.isMarkedFor (Nat.zero_le _) fun _ _ loose => absurd loose (Nat.not_lt_zero _)

/-- The operands of a canonical expression are marked where their places demand it. -/
theorem IsCanonical.operand {grouped : Bool} {operator : Operator} {operand : Expr}
    (canonical : (Expr.unary grouped operator operand).IsCanonical) :
    operand.IsCanonical ∧ operand.IsMarkedFor Precedence.sign false := by
  obtain ⟨_, marked, operandCanonical⟩ := canonical
  exact ⟨operandCanonical, IsMarkedBelow.isMarkedFor (Nat.le_refl _)
    fun inner found _ => marked (Option.isSome_of_mem found)⟩

theorem IsCanonical.operands {grouped : Bool} {operator : Operator} {precedence : Precedence}
    {left right : Expr}
    (canonical : (Expr.binary grouped operator precedence left right).IsCanonical) :
    (left.IsCanonical ∧ left.IsMarkedFor precedence false) ∧
      (right.IsCanonical ∧ right.IsMarkedFor precedence true) := by
  obtain ⟨rfl, leftMarked, rightMarked, leftCanonical, rightCanonical⟩ := canonical
  have tight := Nat.le_of_lt operator.precedence_lt_sign
  exact ⟨⟨leftCanonical, IsMarkedBelow.isMarkedFor tight leftMarked⟩,
    ⟨rightCanonical, IsMarkedBelow.isMarkedFor tight
      fun inner found loose => rightMarked inner found (Nat.le_of_lt_succ loose)⟩⟩

/-- A canonical expression is written with the marks that it has. -/
theorem IsCanonical.asWritten_eq_self (canonical : expr.IsCanonical)
    (marked : expr.IsMarkedFor parent onRight) : expr.asWritten parent onRight = expr := by
  induction expr generalizing parent onRight with
  | number grouped value => rw [asWritten, marked.isEnclosed, Expr.grouped]
  | reference grouped name => rw [asWritten, marked.isEnclosed, Expr.grouped]
  | unary grouped operator operand inner =>
      obtain ⟨operandCanonical, operandMarked⟩ := canonical.operand
      rw [asWritten, marked.isEnclosed, Expr.grouped, inner operandCanonical operandMarked]
  | binary grouped operator precedence left right before behind =>
      obtain ⟨⟨leftCanonical, leftMarked⟩, rightCanonical, rightMarked⟩ := canonical.operands
      rw [asWritten, marked.isEnclosed, Expr.grouped, before leftCanonical leftMarked,
        behind rightCanonical rightMarked]

/-- A canonical expression has parentheses at its marks. -/
theorem IsCanonical.format_eq_markedText (canonical : expr.IsCanonical)
    (marked : expr.IsMarkedFor parent onRight) :
    expr.format parent onRight = expr.markedText := by
  induction expr generalizing parent onRight with
  | number grouped value => rw [format, markedText, marked.isEnclosed]
  | reference grouped name => rw [format, markedText, marked.isEnclosed]
  | unary grouped operator operand inner =>
      obtain ⟨operandCanonical, operandMarked⟩ := canonical.operand
      rw [format, markedText, marked.isEnclosed, inner operandCanonical operandMarked]
  | binary grouped operator precedence left right before behind =>
      obtain ⟨⟨leftCanonical, leftMarked⟩, rightCanonical, rightMarked⟩ := canonical.operands
      rw [format, markedText, marked.isEnclosed, before leftCanonical leftMarked,
        behind rightCanonical rightMarked]

end Places

/-- The reader returns canonical expressions only. -/
theorem isCanonical_of_parse {source : String} {expr : Expr} (success : parse source = .ok expr) :
    expr.IsCanonical := by
  obtain ⟨tokens, scanned, derived⟩ := parse_eq_ok_iff.mp success
  refine (derived.isCanonical fun lexeme member => ?_).1
  obtain ⟨token, taken, rfl⟩ := List.mem_map.mp member
  exact Token.isProper_of_ofSource scanned token (List.mem_append_left _ taken)

/-- The text of a canonical expression is read as this expression. -/
theorem IsCanonical.parse_text_eq_ok {expr : Expr} (canonical : expr.IsCanonical) :
    parse expr.text = .ok expr := by
  have derived := derives_lexemes canonical.isWritable Precedence.lowest false
  rw [canonical.asWritten_eq_self (isMarkedFor_lowest expr)] at derived
  exact parse_of_derives derived
    (isReadable_of_mem_lexemes canonical.isWritable Precedence.lowest false)
    (toList_format _ _ expr)

/--
The sources denote the canonical expressions and no others. The text of such an expression has
parentheses exactly at its marks, it is read as the same expression, and what is read has the same
text.
-/
theorem parse_image (expr : Expr) :
    ((∃ source, parse source = .ok expr) ↔ expr.IsCanonical) ∧
      ∀ source, parse source = .ok expr →
        expr.text = expr.markedText ∧ parse expr.text = .ok expr ∧
          ∀ again, parse expr.text = .ok again → again.text = expr.text := by
  refine ⟨⟨?_, fun canonical => ⟨expr.text, canonical.parse_text_eq_ok⟩⟩, ?_⟩
  · rintro ⟨source, success⟩
    exact isCanonical_of_parse success
  · intro source success
    have canonical := isCanonical_of_parse success
    refine ⟨canonical.format_eq_markedText (isMarkedFor_lowest expr),
      canonical.parse_text_eq_ok, ?_⟩
    intro again reread
    rw [canonical.parse_text_eq_ok] at reread
    rw [Except.ok.inj reread]

set_option maxRecDepth 8000 in
/-- Blanks and the second pair of parentheses around a name are lost, and the marks are kept. -/
theorem parse_image_of_groups :
    parse "-(a + b)*((c))" = .ok (.binary false .times 20
      (.unary false .minus (.binary true .plus 10 (.reference false "a") (.reference false "b")))
      (.reference true "c")) ∧
    parse "-(a+b)*(c)" = .ok (.binary false .times 20
      (.unary false .minus (.binary true .plus 10 (.reference false "a") (.reference false "b")))
      (.reference true "c")) := by
  have success : parse "-(a + b)*((c))" = .ok (.binary false .times 20
      (.unary false .minus (.binary true .plus 10 (.reference false "a") (.reference false "b")))
      (.reference true "c")) := by cbv
  have written := ((parse_image _).2 _ success).2.1
  exact ⟨success, written⟩

end Expr

end TraceCalc
