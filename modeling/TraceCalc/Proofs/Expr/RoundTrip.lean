/-
This file shows that the text of an expression is read as this expression.
-/

import TraceCalc.Proofs.Expr.Recognition
import TraceCalc.Proofs.Token.Writing

namespace TraceCalc

/-- An operator or a parenthesis stands between any two words of a sentence. -/
theorem Derives.separated {category : Category} {lexemes : List Lexeme} {expr : Expr}
    (derived : Derives category lexemes expr) : Lexeme.Separated lexemes := by
  induction derived with
  | number digits value => exact .singleton _
  | identifier name => exact .singleton _
  | signed _ _ inner => exact Lexeme.Separated.join .nil inner rfl
  | group _ inner => exact Lexeme.Separated.join .nil (inner.join .nil rfl) rfl
  | ofFactor _ inner => exact inner
  | product _ _ _ before behind => exact before.join behind rfl
  | ofProduct _ inner => exact inner
  | sum _ _ _ before behind => exact before.join behind rfl

namespace Expr

/-- A sentence of readable lexemes denotes its expression when it is written without blanks. -/
theorem parse_of_derives {source : String} {lexemes : List Lexeme} {expr : Expr}
    (derived : Derives .sum lexemes expr) (readable : ∀ lexeme ∈ lexemes, lexeme.IsReadable)
    (written : source.toList = Lexeme.characters lexemes) : parse source = .ok expr := by
  obtain ⟨tokens, scanned, rfl⟩ :=
    Token.ofSource_eq_ok_of_characters readable derived.separated written
  exact parse_eq_ok_iff.mpr ⟨tokens, scanned, derived⟩

/-- The source language has an expression with these operators, literals and names. -/
def IsWritable : Expr → Prop
  | .number _ value => 0 ≤ value.toInt
  | .reference _ name => (Lexeme.identifier name).IsReadable
  | .unary _ operator operand => operator.isSign = true ∧ operand.IsWritable
  | .binary _ operator precedence left right =>
      precedence = operator.precedence ∧ left.IsWritable ∧ right.IsWritable

/-- A node is marked exactly where its text has parentheses. -/
def asWritten (parent : Precedence) (onRight : Bool) (expr : Expr) : Expr :=
  let enclosed := expr.isEnclosed parent onRight
  match expr with
  | .number _ value => .number enclosed value
  | .reference _ name => .reference enclosed name
  | .unary _ operator operand => .unary enclosed operator (operand.asWritten Precedence.sign false)
  | .binary _ operator precedence left right =>
      .binary enclosed operator precedence (left.asWritten precedence false)
        (right.asWritten precedence true)

/-- The structure of an expression has no marks. -/
def unmarked : Expr → Expr
  | .number _ value => .number false value
  | .reference _ name => .reference false name
  | .unary _ operator operand => .unary false operator operand.unmarked
  | .binary _ operator precedence left right =>
      .binary false operator precedence left.unmarked right.unmarked

theorem unmarked_asWritten (parent : Precedence) (onRight : Bool) (expr : Expr) :
    (expr.asWritten parent onRight).unmarked = expr.unmarked := by
  induction expr generalizing parent onRight with
  | number grouped value => rfl
  | reference grouped name => rfl
  | unary grouped operator operand inner => rw [asWritten, unmarked, unmarked, inner]
  | binary grouped operator precedence left right before behind =>
      rw [asWritten, unmarked, unmarked, before, behind]

/-- The lexemes stand in the text of the expression from left to right. -/
def lexemes (parent : Precedence) (onRight : Bool) (expr : Expr) : List Lexeme :=
  let inner :=
    match expr with
    | .number _ value => [.number (Text.Decimal.write value) value]
    | .reference _ name => [.identifier name]
    | .unary _ operator operand => .symbol operator :: operand.lexemes Precedence.sign false
    | .binary _ operator precedence left right =>
        left.lexemes precedence false ++ .symbol operator :: right.lexemes precedence true
  if expr.isEnclosed parent onRight then .opening :: (inner ++ [.closing]) else inner

theorem toList_enclose (enclosed : Bool) {text : String} {inner : List Lexeme}
    (same : text.toList = Lexeme.characters inner) :
    (enclose enclosed text).toList =
      Lexeme.characters (if enclosed then .opening :: (inner ++ [.closing]) else inner) := by
  cases enclosed with
  | false => exact same
  | true =>
      simp only [enclose, if_pos, String.toList_append, same, Lexeme.characters_cons,
        Lexeme.characters_append, List.append_assoc]
      rfl

/-- The text of an expression consists of its lexemes without blanks. -/
theorem toList_format (parent : Precedence) (onRight : Bool) (expr : Expr) :
    (expr.format parent onRight).toList = Lexeme.characters (expr.lexemes parent onRight) := by
  induction expr generalizing parent onRight with
  | number grouped value =>
      rw [format, lexemes]
      exact toList_enclose _ (List.append_nil _).symm
  | reference grouped name =>
      rw [format, lexemes]
      exact toList_enclose _ (List.append_nil _).symm
  | unary grouped operator operand inner =>
      rw [format, lexemes]
      apply toList_enclose
      rw [String.toList_append, inner, Lexeme.characters_cons, Lexeme.text]
  | binary grouped operator precedence left right before behind =>
      rw [format, lexemes]
      apply toList_enclose
      rw [String.toList_append, String.toList_append, before, behind, Lexeme.characters_append,
        Lexeme.characters_cons, Lexeme.text, List.append_assoc]

/-- Where the parent does not admit the node, the parentheses around it make it a factor. -/
theorem derives_enclosed (mark : Bool → Expr) {own least : Nat} {enclosed : Bool}
    {inner : List Lexeme} (group : (mark false).group = mark true)
    (derived : Derives (.above own) inner (mark false))
    (admitted : enclosed = false → least ≤ own) :
    Derives (.above least) (if enclosed then .opening :: (inner ++ [.closing]) else inner)
      (mark enclosed) := by
  cases enclosed with
  | false => exact derived.above_of_le (admitted rfl)
  | true =>
      have sum : Derives .sum inner (mark false) := derived.above_of_le (Nat.zero_le own)
      rw [← group]
      exact sum.group.above_of_factor least

/-- A left operand may hold the operators that bind as tight as its parent. -/
def leastIn (parent : Precedence) (onRight : Bool) : Nat :=
  if onRight then parent else parent - 1

/-- The lexemes of an expression are a sentence that derives it in its place. -/
theorem derives_lexemes {expr : Expr} (writable : expr.IsWritable) (parent : Precedence)
    (onRight : Bool) :
    Derives (.above (leastIn parent onRight)) (expr.lexemes parent onRight)
      (expr.asWritten parent onRight) := by
  induction expr generalizing parent onRight with
  | number grouped value =>
      exact derives_enclosed (.number · value) rfl
        ((Derives.number _ value).above_of_factor _) fun _ => Nat.le_refl _
  | reference grouped name =>
      exact derives_enclosed (.reference · name) rfl
        ((Derives.identifier name).above_of_factor _) fun _ => Nat.le_refl _
  | unary grouped operator operand inner =>
      obtain ⟨isSign, operandWritable⟩ := writable
      have sign : operator = .plus ∨ operator = .minus := by
        cases operator <;> simp [Operator.isSign] at isSign ⊢
      have factor : Derives .factor (.symbol operator :: operand.lexemes Precedence.sign false)
          (.unary false operator (operand.asWritten Precedence.sign false)) :=
        .signed sign (inner operandWritable Precedence.sign false)
      exact derives_enclosed (.unary · operator (operand.asWritten Precedence.sign false)) rfl
        (factor.above_of_factor _) fun _ => Nat.le_refl _
  | binary grouped operator precedence left right before behind =>
      obtain ⟨rfl, leftWritable, rightWritable⟩ := writable
      have joined := Derives.infixed (before leftWritable operator.precedence false)
        (behind rightWritable operator.precedence true)
      refine derives_enclosed (.binary · operator operator.precedence
        (left.asWritten operator.precedence false) (right.asWritten operator.precedence true)) rfl
        joined ?_
      intro bare
      rw [isEnclosed, Bool.or_eq_false_iff, needsGroup, Bool.or_eq_false_iff,
        Bool.and_eq_false_iff, decide_eq_false_iff_not, beq_eq_false_iff_ne] at bare
      obtain ⟨_, loose, side⟩ := bare
      unfold leastIn
      cases onRight with
      | false => exact Nat.sub_le_sub_right (Nat.le_of_not_lt loose) 1
      | true =>
          have different := side.resolve_right (by decide)
          exact Nat.le_sub_one_of_lt
            (Nat.lt_of_le_of_ne (Nat.le_of_not_lt loose) (Ne.symm different))

/-- Every lexeme in the text of a writable expression is readable. -/
theorem isReadable_of_mem_lexemes {expr : Expr} (writable : expr.IsWritable) (parent : Precedence)
    (onRight : Bool) : ∀ lexeme ∈ expr.lexemes parent onRight, lexeme.IsReadable := by
  induction expr generalizing parent onRight with
  | number grouped value =>
      exact Lexeme.isReadable_enclosed (List.forall_mem_singleton.mpr
        (Lexeme.isReadable_number writable))
  | reference grouped name =>
      exact Lexeme.isReadable_enclosed (List.forall_mem_singleton.mpr writable)
  | unary grouped operator operand inner =>
      exact Lexeme.isReadable_enclosed (List.forall_mem_cons.mpr
        ⟨Lexeme.isReadable_symbol operator, inner writable.2 Precedence.sign false⟩)
  | binary grouped operator precedence left right before behind =>
      obtain ⟨_, leftWritable, rightWritable⟩ := writable
      exact Lexeme.isReadable_enclosed (List.forall_mem_append.mpr
        ⟨before leftWritable precedence false, List.forall_mem_cons.mpr
          ⟨Lexeme.isReadable_symbol operator, behind rightWritable precedence true⟩⟩)

/--
The text of an expression is read as this expression, with a mark exactly at each node that was
written in parentheses.
-/
theorem parse_text {expr : Expr} (writable : expr.IsWritable) :
    parse expr.text = .ok (expr.asWritten Precedence.lowest false) ∧
      (expr.asWritten Precedence.lowest false).unmarked = expr.unmarked := by
  have derived : Derives .sum (expr.lexemes Precedence.lowest false)
      (expr.asWritten Precedence.lowest false) :=
    derives_lexemes writable Precedence.lowest false
  have readable := isReadable_of_mem_lexemes writable Precedence.lowest false
  exact ⟨parse_of_derives derived readable (toList_format _ _ expr), unmarked_asWritten _ _ expr⟩

/-- A difference on the right of a difference gets the parentheses that keep it there. -/
theorem parse_text_of_difference :
    parse "a-(3-b)" = .ok (.binary false .minus 10 (.reference false "a")
      (.binary true .minus 10 (.number false 3) (.reference false "b"))) := by
  have nonnegative : 0 ≤ (3 : Int64).toInt := by decide
  have writable : (Expr.binary false .minus 10 (.reference false "a")
      (.binary false .minus 10 (.number false 3) (.reference false "b"))).IsWritable :=
    ⟨rfl, by cbv, rfl, nonnegative, by cbv⟩
  exact (parse_text writable).1

end Expr

end TraceCalc
