/-
This file shows that reading by precedence accepts the sentences of the grammar and no others.
-/

import TraceCalc.Proofs.Expr.Grammar
import TraceCalc.Proofs.Expr.Reading
import TraceCalc.Proofs.Token.Scan
import Mathlib

namespace TraceCalc

namespace Token

theorem infixAbove?_eq_some_iff {least : Precedence} {token : Token} {operator : Operator} :
    token.infixAbove? least = some operator ↔
      token.lexeme = .symbol operator ∧ least < operator.precedence := by
  unfold infixAbove?
  cases token.lexeme with
  | symbol found =>
      by_cases tight : least < found.precedence
      · simp only [if_pos tight, Option.some.injEq, Lexeme.symbol.injEq]
        constructor
        · intro same
          exact ⟨same, same ▸ tight⟩
        · intro both
          exact both.1
      · simp only [if_neg tight, Lexeme.symbol.injEq]
        constructor
        · intro none
          simp at none
        · intro both
          exact absurd (both.1 ▸ both.2) tight
  | _ => simp

end Token

/-- The next token is an infix operator that binds tighter than the precedence. -/
def ContinuesAbove (least : Nat) (tokens : List Token) : Prop :=
  ∃ token operator, tokens.head? = some token ∧ token.lexeme = .symbol operator ∧
    least < operator.precedence

namespace ContinuesAbove

variable {least : Nat} {token : Token} {rest : List Token}

theorem cons_iff : ContinuesAbove least (token :: rest) ↔
    ∃ operator, token.lexeme = .symbol operator ∧ least < operator.precedence := by
  constructor
  · rintro ⟨found, operator, first, symbol, tight⟩
    rw [List.head?_cons, Option.some.injEq] at first
    exact ⟨operator, first ▸ symbol, tight⟩
  · rintro ⟨operator, symbol, tight⟩
    exact ⟨token, operator, rfl, symbol, tight⟩

theorem not_cons_iff : ¬ ContinuesAbove least (token :: rest) ↔ token.infixAbove? least = none := by
  rw [cons_iff, Option.eq_none_iff_forall_ne_some]
  constructor
  · intro none operator found
    exact none ⟨operator, Token.infixAbove?_eq_some_iff.mp found⟩
  · rintro none ⟨operator, found⟩
    exact none operator (Token.infixAbove?_eq_some_iff.mpr found)

theorem of_le {small large : Nat} {tokens : List Token} (le : small ≤ large)
    (continues : ContinuesAbove large tokens) : ContinuesAbove small tokens := by
  obtain ⟨token, operator, first, symbol, tight⟩ := continues
  exact ⟨token, operator, first, symbol, Nat.lt_of_le_of_lt le tight⟩

/-- No infix operator binds tighter than a product. -/
theorem not_of_twenty_le {tokens : List Token} (large : 20 ≤ least) :
    ¬ ContinuesAbove least tokens := by
  rintro ⟨token, operator, first, symbol, tight⟩
  have bound : operator.precedence ≤ 20 := by cases operator <;> decide
  exact absurd (Nat.lt_of_lt_of_le tight bound) (by omega)

end ContinuesAbove

namespace Expr

/-- The tokens before the rest derive the expression. -/
def IsReadBefore (category : Category) (tokens : List Token) (expr : Expr) (rest : List Token) :
    Prop :=
  ∃ consumed, tokens = consumed ++ rest ∧ Derives category (consumed.map Token.lexeme) expr

/-- A sign or a parenthesis takes its place before the expression. -/
theorem IsReadBefore.cons {category : Category} {tokens rest : List Token} {expr result : Expr}
    (inner : IsReadBefore category tokens expr rest) (token : Token)
    (derives : ∀ lexemes, Derives category lexemes expr →
      Derives .factor (token.lexeme :: lexemes) result) :
    IsReadBefore .factor (token :: tokens) result rest := by
  obtain ⟨consumed, split, inside⟩ := inner
  exact ⟨token :: consumed, by rw [split, List.cons_append], derives _ inside⟩

section Soundness

variable {stop : Nat}

/-- Where nothing binds tighter, the operators seen so far are the whole expression. -/
theorem continueAbove_of_not {least : Nat} {left : Expr} {tokens : List Token}
    (stopped : ¬ ContinuesAbove least tokens) :
    continueAbove stop least left tokens = (.ok left, tokens) := by
  cases tokens with
  | nil => exact continueAbove_nil stop least left
  | cons token rest => exact continueAbove_of_none (ContinuesAbove.not_cons_iff.mp stopped)

/-- A group that was read ends with a closing parenthesis. -/
theorem readGroup_eq_ok {tokens rest : List Token} {expr : Expr}
    (success : (readGroup stop tokens).outcome = (.ok expr, rest)) :
    ∃ inner closing, expr = inner.group ∧ closing.lexeme = .closing ∧
      (readAbove stop Precedence.lowest tokens).outcome = (.ok inner, closing :: rest) := by
  rw [readGroup, Step.outcome_map_eq_ok_iff] at success
  obtain ⟨inner, expected, rfl⟩ := success
  obtain ⟨tokens, found, closes, rfl⟩ := Step.outcome_expect_eq_ok_iff.mp expected
  cases tokens with
  | nil => simp [Token.finish, Token.kind, Lexeme.kind] at closes
  | cons closing remaining =>
      exact ⟨inner, closing, rfl, Lexeme.kind_eq_closing_iff.mp closes, found⟩

mutual

/-- An operand that was read is a factor. -/
theorem isReadBefore_of_readOperand {tokens rest : List Token} {expr : Expr}
    (success : (readOperand stop tokens).outcome = (.ok expr, rest)) :
    IsReadBefore .factor tokens expr rest := by
  cases tokens with
  | nil =>
      rw [outcome_readOperand_nil] at success
      simp at success
  | cons token remaining =>
      rw [outcome_readOperand_cons] at success
      cases lexeme : token.lexeme with
      | number digits value =>
          simp only [lexeme, Prod.mk.injEq, Except.ok.injEq] at success
          obtain ⟨rfl, rfl⟩ := success
          exact ⟨[token], rfl, by simpa [lexeme] using Derives.number digits value⟩
      | identifier name =>
          simp only [lexeme, Prod.mk.injEq, Except.ok.injEq] at success
          obtain ⟨rfl, rfl⟩ := success
          exact ⟨[token], rfl, by simpa [lexeme] using Derives.identifier name⟩
      | symbol operator =>
          simp only [lexeme] at success
          by_cases sign : operator.isSign = true
          · rw [if_pos sign] at success
            obtain ⟨operand, rfl, inner⟩ := isReadBefore_of_readSigned success
            refine inner.cons token fun lexemes derived => ?_
            rw [lexeme]
            refine Derives.signed ?_ derived
            cases operator <;> simp [Operator.isSign] at sign ⊢
          · simp [sign] at success
      | opening =>
          simp only [lexeme] at success
          exact isReadBefore_of_readGroup token lexeme success
      | closing => simp [lexeme] at success
      | finish => simp [lexeme] at success
  termination_by (tokens.length, 0)

/-- The operand of a sign is a factor. -/
theorem isReadBefore_of_readSigned {operator : Operator} {tokens rest : List Token} {expr : Expr}
    (success : (readSigned stop operator tokens).outcome = (.ok expr, rest)) :
    ∃ operand, expr = .unary false operator operand ∧
      IsReadBefore .factor tokens operand rest := by
  rw [readSigned, Step.outcome_map_eq_ok_iff] at success
  obtain ⟨operand, found, rfl⟩ := success
  exact ⟨operand, rfl, (isReadBefore_of_readAbove found).1⟩
  termination_by (tokens.length, 2)

/-- The expression of a group is a sum between parentheses. -/
theorem isReadBefore_of_readGroup {tokens rest : List Token} {expr : Expr} (opening : Token)
    (opens : opening.lexeme = .opening)
    (success : (readGroup stop tokens).outcome = (.ok expr, rest)) :
    IsReadBefore .factor (opening :: tokens) expr rest := by
  obtain ⟨inner, closing, rfl, closes, found⟩ := readGroup_eq_ok success
  obtain ⟨consumed, split, derived⟩ := (isReadBefore_of_readAbove found).1
  refine ⟨opening :: (consumed ++ [closing]), by simp [split], ?_⟩
  simpa [opens, closes] using Derives.group derived
  termination_by (tokens.length, 2)

/-- An expression that was read ends before the first operator that does not bind tighter. -/
theorem isReadBefore_of_readAbove {least : Nat} {tokens rest : List Token} {expr : Expr}
    (success : (readAbove stop least tokens).outcome = (.ok expr, rest)) :
    IsReadBefore (.above least) tokens expr rest ∧ ¬ ContinuesAbove least rest := by
  rw [outcome_readAbove] at success
  cases found : (readOperand stop tokens).outcome with
  | mk result remaining =>
      cases result with
      | error mismatch => simp [found] at success
      | ok left =>
          simp only [found] at success
          obtain ⟨consumed, split, factor⟩ := isReadBefore_of_readOperand found
          have shorter := length_lt_of_outcome found
          obtain ⟨more, splitMore, derived, stopped⟩ := isReadBefore_of_continueAbove
            (factor.above_of_factor (max least 20)) (Nat.le_max_left least 20)
            (ContinuesAbove.not_of_twenty_le (by omega)) success
          refine ⟨⟨consumed ++ more, ?_, derived⟩, stopped⟩
          rw [split, splitMore, List.append_assoc]
  termination_by (tokens.length, 1)

/-- The operators that were taken nest to the left; nothing behind them may go inside. -/
theorem isReadBefore_of_continueAbove {least ceiling : Nat} {consumed tokens rest : List Token}
    {left expr : Expr} (before : Derives (.above ceiling) (consumed.map Token.lexeme) left)
    (within : least ≤ ceiling) (outside : ¬ ContinuesAbove (ceiling + 1) tokens)
    (success : continueAbove stop least left tokens = (.ok expr, rest)) :
    ∃ more, tokens = more ++ rest ∧
      Derives (.above least) ((consumed ++ more).map Token.lexeme) expr ∧
      ¬ ContinuesAbove least rest := by
  by_cases continues : ContinuesAbove least tokens
  · obtain ⟨token, operator, first, symbol, tight⟩ := continues
    obtain ⟨remaining, rfl⟩ : ∃ remaining, tokens = token :: remaining := by
      cases tokens with
      | nil => simp at first
      | cons head remaining => exact ⟨remaining, by simpa using first⟩
    rw [continueAbove_of_some (Token.infixAbove?_eq_some_iff.mpr ⟨symbol, tight⟩)] at success
    have below : operator.precedence ≤ ceiling + 1 :=
      Nat.le_of_not_lt fun above => outside ⟨token, operator, rfl, symbol, above⟩
    cases found : (readAbove stop operator.precedence remaining).outcome with
    | mk result behind =>
        cases result with
        | error mismatch => simp [found] at success
        | ok right =>
            simp only [found] at success
            obtain ⟨⟨taken, split, derived⟩, stopped⟩ := isReadBefore_of_readAbove found
            have shorter := length_lt_of_outcome found
            have same : operator.precedence - 1 + 1 = operator.precedence :=
              Nat.sub_add_cancel operator.lowest_lt_precedence
            -- The new ceiling admits the same operator on the left, but not on the right.
            have joined : Derives (.above (operator.precedence - 1))
                ((consumed ++ token :: taken).map Token.lexeme)
                (.binary false operator operator.precedence left right) := by
              rw [List.map_append, List.map_cons, symbol]
              exact (before.above_of_le (Nat.sub_le_iff_le_add.mpr below)).infixed derived
            obtain ⟨more, splitMore, whole, ended⟩ := isReadBefore_of_continueAbove joined
              (Nat.le_sub_one_of_lt tight) (by rw [same]; exact stopped) success
            refine ⟨token :: (taken ++ more), by simp [split, splitMore], ?_, ended⟩
            simpa using whole
  · rw [continueAbove_of_not continues] at success
    simp only [Prod.mk.injEq, Except.ok.injEq] at success
    obtain ⟨rfl, rfl⟩ := success
    exact ⟨[], rfl, by simpa using before.above_of_le within, continues⟩
  termination_by (tokens.length, 0)

end

end Soundness

section Completeness

variable {stop : Nat}

/-- The expression was read from the tokens, and the operators behind it are still to be judged. -/
def IsAccepted (stop : Nat) (category : Category) (tokens : List Token) (expr : Expr) : Prop :=
  match category with
  | .factor => ∀ rest, (readOperand stop (tokens ++ rest)).outcome = (.ok expr, rest)
  | .product => ∀ (least : Nat) (rest : List Token), least < 20 →
      (readAbove stop least (tokens ++ rest)).outcome = continueAbove stop least expr rest
  | .sum => ∀ (least : Nat) (rest : List Token), least < 10 → ¬ ContinuesAbove 10 rest →
      (readAbove stop least (tokens ++ rest)).outcome = continueAbove stop least expr rest

/-- A factor is read above every precedence. -/
theorem readAbove_of_factor {tokens : List Token} {expr : Expr}
    (factor : IsAccepted stop .factor tokens expr) (least : Nat) (rest : List Token) :
    (readAbove stop least (tokens ++ rest)).outcome = continueAbove stop least expr rest := by
  rw [outcome_readAbove, factor rest]

/-- A sign takes only a factor, since no infix operator binds tighter than a sign. -/
theorem readSigned_of_factor {tokens : List Token} {operand : Expr}
    (factor : IsAccepted stop .factor tokens operand) (operator : Operator) (rest : List Token) :
    (readSigned stop operator (tokens ++ rest)).outcome =
      (.ok (.unary false operator operand), rest) := by
  rw [outcome_readSigned, readAbove_of_factor factor,
    continueAbove_of_not (ContinuesAbove.not_of_twenty_le (by decide))]
  rfl

/-- A parenthesis that closes a group ends the sum in it. -/
theorem readGroup_of_sum {tokens : List Token} {expr : Expr} (closing : Token)
    (closes : closing.lexeme = .closing) (inner : IsAccepted stop .sum tokens expr)
    (rest : List Token) :
    (readGroup stop (tokens ++ closing :: rest)).outcome = (.ok expr.group, rest) := by
  have ended (least : Nat) : ¬ ContinuesAbove least (closing :: rest) := by
    rw [ContinuesAbove.cons_iff]
    rintro ⟨operator, symbol, _⟩
    rw [closes] at symbol
    simp at symbol
  have read := inner Precedence.lowest (closing :: rest) (by decide) (ended 10)
  rw [continueAbove_of_not (ended Precedence.lowest)] at read
  have kind : closing.kind = .closing := by rw [Token.kind, closes, Lexeme.kind]
  rw [outcome_readGroup, Step.outcome_expect, read]
  simp [kind, Except.map]

/-- One more operator is taken together with its right operand. -/
theorem continueAbove_of_infix {least : Nat} {token : Token} {operator : Operator}
    {left right : Expr} {tokens rest : List Token} (symbol : token.lexeme = .symbol operator)
    (tight : least < operator.precedence)
    (taken : (readAbove stop operator.precedence tokens).outcome = (.ok right, rest)) :
    continueAbove stop least left (token :: tokens) =
      continueAbove stop least (.binary false operator operator.precedence left right) rest := by
  rw [continueAbove_of_some (Token.infixAbove?_eq_some_iff.mpr ⟨symbol, tight⟩), taken]

/-- A sentence of the grammar is read as the expression that it derives. -/
theorem isAccepted_of_derives {category : Category} {lexemes : List Lexeme} {expr : Expr}
    (derived : Derives category lexemes expr) (tokens : List Token)
    (spelled : tokens.map Token.lexeme = lexemes) : IsAccepted stop category tokens expr := by
  induction derived generalizing tokens with
  | number digits value =>
      obtain ⟨token, rfl, lexeme⟩ := List.map_eq_singleton_iff.mp spelled
      intro rest
      simp [outcome_readOperand_cons, lexeme]
  | identifier name =>
      obtain ⟨token, rfl, lexeme⟩ := List.map_eq_singleton_iff.mp spelled
      intro rest
      simp [outcome_readOperand_cons, lexeme]
  | @signed operator lexemes operand sign _ inner =>
      obtain ⟨token, tail, rfl, lexeme, operandSpelled⟩ := List.map_eq_cons_iff.mp spelled
      intro rest
      have isSign : operator.isSign = true := by rcases sign with rfl | rfl <;> rfl
      rw [List.cons_append, outcome_readOperand_cons, lexeme]
      simp only [if_pos isSign]
      exact readSigned_of_factor (inner tail operandSpelled) operator rest
  | group _ inner =>
      obtain ⟨opening, tail, rfl, opens, tailSpelled⟩ := List.map_eq_cons_iff.mp spelled
      obtain ⟨body, ending, rfl, bodySpelled, endingSpelled⟩ :=
        List.map_eq_append_iff.mp tailSpelled
      obtain ⟨closing, rfl, closes⟩ := List.map_eq_singleton_iff.mp endingSpelled
      intro rest
      rw [List.cons_append, outcome_readOperand_cons, opens, List.append_assoc]
      exact readGroup_of_sum closing closes (inner body bodySpelled) rest
  | ofFactor _ inner =>
      intro least rest _
      exact readAbove_of_factor (inner tokens spelled) least rest
  | @product operator _ _ left right scales _ _ before behind =>
      obtain ⟨first, tail, rfl, firstSpelled, tailSpelled⟩ := List.map_eq_append_iff.mp spelled
      obtain ⟨token, second, rfl, symbol, secondSpelled⟩ := List.map_eq_cons_iff.mp tailSpelled
      intro least rest loose
      have twenty : operator.precedence = 20 := by rcases scales with rfl | rfl <;> rfl
      have taken : (readAbove stop operator.precedence (second ++ rest)).outcome =
          (.ok right, rest) := by
        rw [readAbove_of_factor (behind second secondSpelled)]
        exact continueAbove_of_not (ContinuesAbove.not_of_twenty_le (Nat.le_of_eq twenty.symm))
      rw [List.append_assoc, List.cons_append,
        before first firstSpelled least (token :: (second ++ rest)) loose]
      exact continueAbove_of_infix symbol (by rw [twenty]; exact loose) taken
  | ofProduct _ inner =>
      intro least rest loose _
      exact inner tokens spelled least rest (by omega)
  | @sum operator _ _ left right adds _ _ before behind =>
      obtain ⟨first, tail, rfl, firstSpelled, tailSpelled⟩ := List.map_eq_append_iff.mp spelled
      obtain ⟨token, second, rfl, symbol, secondSpelled⟩ := List.map_eq_cons_iff.mp tailSpelled
      intro least rest loose ended
      have ten : operator.precedence = 10 := by rcases adds with rfl | rfl <;> rfl
      have taken : (readAbove stop operator.precedence (second ++ rest)).outcome =
          (.ok right, rest) := by
        rw [behind second secondSpelled operator.precedence rest (by rw [ten]; decide)]
        exact continueAbove_of_not (by rw [ten]; exact ended)
      have next : ¬ ContinuesAbove 10 (token :: (second ++ rest)) := by
        rw [ContinuesAbove.cons_iff]
        rintro ⟨found, foundSymbol, tight⟩
        rw [symbol, Lexeme.symbol.injEq] at foundSymbol
        rw [← foundSymbol, ten] at tight
        exact absurd tight (by decide)
      rw [List.append_assoc, List.cons_append,
        before first firstSpelled least (token :: (second ++ rest)) loose next]
      exact continueAbove_of_infix symbol (by rw [ten]; exact loose) taken

/-- An expression above a precedence is read up to the first operator that does not bind tighter. -/
theorem readAbove_of_derives {least : Nat} {tokens rest : List Token} {expr : Expr}
    (derived : Derives (.above least) (tokens.map Token.lexeme) expr)
    (stopped : ¬ ContinuesAbove least rest) :
    (readAbove stop least (tokens ++ rest)).outcome = (.ok expr, rest) := by
  have accepted : IsAccepted stop (.above least) tokens expr :=
    isAccepted_of_derives derived tokens rfl
  rw [← continueAbove_of_not stopped]
  by_cases factor : 20 ≤ least
  · rw [Category.above_of_twenty_le factor] at accepted
    exact readAbove_of_factor accepted least rest
  · by_cases sum : least < 10
    · rw [Category.above_of_lt_ten sum] at accepted
      exact accepted least rest sum fun continues => stopped (continues.of_le (by omega))
    · rw [Category.above_of_lt_twenty (by omega) (by omega)] at accepted
      exact accepted least rest (by omega)

end Completeness

/-- Reading above a precedence succeeds exactly with the longest sentence at the start. -/
theorem readAbove_eq_ok_iff {stop least : Nat} {tokens rest : List Token} {expr : Expr} :
    (readAbove stop least tokens).outcome = (.ok expr, rest) ↔
      IsReadBefore (.above least) tokens expr rest ∧ ¬ ContinuesAbove least rest := by
  constructor
  · exact isReadBefore_of_readAbove
  · rintro ⟨⟨consumed, rfl, derived⟩, stopped⟩
    exact readAbove_of_derives derived stopped

theorem finish_notMem_of_derives {category : Category} {lexemes : List Lexeme} {expr : Expr}
    (derived : Derives category lexemes expr) : Lexeme.finish ∉ lexemes := by
  induction derived with
  | ofFactor _ inner => exact inner
  | ofProduct _ inner => exact inner
  | _ => simp_all

/-- A whole expression is a sentence of the grammar with the end of the source behind it. -/
theorem readWhole_eq_ok_iff {stop : Nat} {tokens rest : List Token} {expr : Expr} :
    (readWhole stop tokens).outcome = (.ok expr, rest) ↔
      ∃ remaining, IsReadBefore .sum tokens expr remaining ∧
        (remaining.headD (Token.finish stop)).lexeme = .finish ∧ remaining.tail = rest := by
  rw [readWhole, Step.outcome_expect_eq_ok_iff]
  constructor
  · rintro ⟨remaining, found, ended, tail⟩
    exact ⟨remaining, (readAbove_eq_ok_iff.mp found).1, Lexeme.kind_eq_finish_iff.mp ended, tail⟩
  · rintro ⟨remaining, inner, ended, tail⟩
    have stopped : ¬ ContinuesAbove Precedence.lowest remaining := by
      rintro ⟨token, operator, first, symbol, _⟩
      rw [List.headD_eq_head?_getD, first, Option.getD_some, symbol] at ended
      simp at ended
    exact ⟨remaining, readAbove_eq_ok_iff.mpr ⟨inner, stopped⟩,
      Lexeme.kind_eq_finish_iff.mpr ended, tail⟩

/-- The source is a sentence of the grammar. -/
def IsDenotedBy (source : String) (expr : Expr) : Prop :=
  ∃ tokens, Token.ofSource source = .ok (tokens ++ [Token.finish source.utf8ByteSize]) ∧
    Derives .sum (tokens.map Token.lexeme) expr

/-- The first end among the tokens of a source is the last token. -/
theorem eq_finish_of_append_eq {consumed rest before : List Token} {stop : Nat}
    (proper : ∀ token ∈ before, token.lexeme ≠ .finish)
    (inside : Lexeme.finish ∉ consumed.map Token.lexeme)
    (split : before ++ [Token.finish stop] = consumed ++ rest)
    (ended : (rest.headD (Token.finish stop)).lexeme = .finish) :
    consumed = before ∧ rest = [Token.finish stop] := by
  rcases List.append_eq_append_iff.mp split with ⟨more, rfl, last⟩ | ⟨more, rfl, rfl⟩
  · cases more with
    | nil => exact ⟨List.append_nil _, last.symm⟩
    | cons token more =>
        rw [List.cons_append, List.cons.injEq] at last
        exact absurd (by simp [← last.1, Token.finish]) inside
  · cases more with
    | nil => exact ⟨(List.append_nil _).symm, rfl⟩
    | cons token more => exact absurd ended (proper token (by simp))

/-- A source is read as an expression exactly when the grammar derives it. -/
theorem parse_eq_ok_iff {source : String} {expr : Expr} :
    parse source = .ok expr ↔ IsDenotedBy source expr := by
  rw [parse, Reader.ofSource, IsDenotedBy]
  cases scanned : Token.ofSource source with
  | error error => simp [Except.map, Except.bind]
  | ok tokens =>
      obtain ⟨before, rfl, proper⟩ := Token.ofSource_eq_ok scanned
      have whole : ((Reader.mk source (before ++ [Token.finish source.utf8ByteSize])).whole).1 =
          .ok expr ↔ ∃ rest, (readWhole source.utf8ByteSize
            (before ++ [Token.finish source.utf8ByteSize])).outcome = (.ok expr, rest) := by
        change Except.mapError _ (readWhole source.utf8ByteSize _).result = _ ↔ _
        unfold Step.outcome
        cases (readWhole source.utf8ByteSize
          (before ++ [Token.finish source.utf8ByteSize])).result <;> simp [Except.mapError]
      simp only [Except.map, Except.bind, whole, readWhole_eq_ok_iff, Except.ok.injEq]
      constructor
      · rintro ⟨_, rest, ⟨consumed, split, derived⟩, ended, _⟩
        obtain ⟨rfl, rfl⟩ := eq_finish_of_append_eq proper (finish_notMem_of_derives derived)
          split ended
        exact ⟨consumed, rfl, derived⟩
      · rintro ⟨consumed, split, derived⟩
        exact ⟨_, _, ⟨consumed, split, derived⟩, rfl, rfl⟩

end Expr

namespace Reader

theorem above_eq_ok_iff {reader : Reader} {least : Nat} {expr : Expr} {rest : List Token} :
    reader.above least = (.ok expr, { reader with remaining := rest }) ↔
      (Expr.readAbove reader.stop least reader.remaining).outcome = (.ok expr, rest) := by
  rw [above, advance, Step.outcome]
  cases (Expr.readAbove reader.stop least reader.remaining).result <;> simp [Except.mapError]

/--
Reading above a precedence takes the longest sentence of its category, and a whole source is read
when it is a sentence. In both cases there is at most one result.
-/
theorem reads_iff_derives :
    (∀ (reader : Reader) (least : Nat),
      (∀ expr rest, reader.above least = (.ok expr, { reader with remaining := rest }) ↔
        Expr.IsReadBefore (.above least) reader.remaining expr rest ∧
          ¬ ContinuesAbove least rest) ∧
      ∀ expr rest other remaining,
        Expr.IsReadBefore (.above least) reader.remaining expr rest ∧ ¬ ContinuesAbove least rest →
        Expr.IsReadBefore (.above least) reader.remaining other remaining ∧
          ¬ ContinuesAbove least remaining →
        expr = other ∧ rest = remaining) ∧
    ∀ source,
      (∀ expr, Expr.parse source = .ok expr ↔ Expr.IsDenotedBy source expr) ∧
      ∀ expr other, Expr.IsDenotedBy source expr → Expr.IsDenotedBy source other →
        expr = other := by
  constructor
  · intro reader least
    constructor
    · intro expr rest
      rw [above_eq_ok_iff, Expr.readAbove_eq_ok_iff]
    · intro expr rest other remaining first second
      have read : (Expr.readAbove reader.stop least reader.remaining).outcome = (.ok expr, rest) :=
        Expr.readAbove_eq_ok_iff.mpr first
      rw [Expr.readAbove_eq_ok_iff.mpr second] at read
      simpa [eq_comm] using read
  · intro source
    constructor
    · intro expr
      exact Expr.parse_eq_ok_iff
    · intro expr other first second
      have read := Expr.parse_eq_ok_iff.mpr first
      rw [Expr.parse_eq_ok_iff.mpr second] at read
      exact (Except.ok.inj read).symm

/-- Differences nest to the left, and no other expression is denoted. -/
theorem reads_iff_derives_of_differences :
    ∃ expr : Expr,
      expr = .binary false .minus 10
        (.binary false .minus 10 (.number false 8) (.number false 3)) (.number false 2) ∧
      Expr.IsDenotedBy "8-3-2" expr ∧
      ∀ other, Expr.IsDenotedBy "8-3-2" other → expr = other := by
  have denoted : Expr.IsDenotedBy "8-3-2" (.binary false .minus 10
      (.binary false .minus 10 (.number false 8) (.number false 3)) (.number false 2)) :=
    ((reads_iff_derives.2 "8-3-2").1 _).mp (by cbv)
  exact ⟨_, rfl, denoted, fun other => (reads_iff_derives.2 "8-3-2").2 _ other denoted⟩

end Reader

end TraceCalc
