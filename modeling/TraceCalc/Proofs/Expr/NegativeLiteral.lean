/-
This file shows that the text of an expression keeps its meaning when the sign of a negative literal
is read as an operator.
-/

import TraceCalc.Proofs.Expr.RoundTrip
import TraceCalc.Proofs.Expr.Rejection
import TraceCalc.Proofs.Program.Safety

namespace TraceCalc

open Unicode

namespace Text.Decimal

variable {value : Int64}

/-- Only the least value has a magnitude that is not a value. -/
theorem toInt_neg_of_ne_minValue (readable : value ≠ Int64.minValue) :
    (-value).toInt = -value.toInt := by
  have least := value.le_toInt
  have different : value.toInt ≠ Int64.minValue.toInt := fun same =>
    readable (Int64.toInt_inj.mp same)
  have most := value.toInt_lt
  rw [Int64.toInt_minValue] at different
  rw [← Int64.ofInt_toInt value, ← Int64.ofInt_neg, Int64.ofInt_toInt]
  exact Int64.toInt_ofInt_of_le (by omega) (by omega)

/-- A negative value is written as its magnitude behind a sign. -/
theorem write_of_neg (negative : value.toInt < 0) (readable : value ≠ Int64.minValue) :
    write value = "-" ++ write (-value) := by
  obtain ⟨magnitude, same⟩ := Int.eq_negSucc_of_lt_zero negative
  rw [write, write, toInt_neg_of_ne_minValue readable, same]
  rfl

end Text.Decimal

namespace Run

theorem result_andThen (run : Run) (next : Int64 → Run) :
    (run.andThen next).result = run.result.bind fun value => (next value).result := by
  cases run with
  | mk records result => cases result <;> rfl

theorem result_report (text : String) (outcome : Except Error Int64) :
    (report text outcome).result = outcome := by
  cases outcome <;> rfl

end Run

namespace Expr

/-- The operators and names are those of the source language, and a literal is any word. -/
def IsPrintable : Expr → Prop
  | .number _ _ => True
  | .reference _ name => Name.IsSpelled name
  | .unary _ operator operand => operator.isSign = true ∧ operand.IsPrintable
  | .binary _ operator precedence left right =>
      precedence = operator.precedence ∧ left.IsPrintable ∧ right.IsPrintable

/-- The literals are listed from left to right. -/
def literals : Expr → List Int64
  | .number _ value => [value]
  | .reference _ _ => []
  | .unary _ _ operand => operand.literals
  | .binary _ _ _ left right => left.literals ++ right.literals

/-- The sign of a negative literal is an operator before its magnitude. -/
def signed : Expr → Expr
  | .number grouped value =>
      if value.toInt < 0 then .unary grouped .minus (.number false (-value))
      else .number grouped value
  | .reference grouped name => .reference grouped name
  | .unary grouped operator operand => .unary grouped operator operand.signed
  | .binary grouped operator precedence left right =>
      .binary grouped operator precedence left.signed right.signed

theorem signed_of_neg {grouped : Bool} {value : Int64} (negative : value.toInt < 0) :
    (Expr.number grouped value).signed = .unary grouped .minus (.number false (-value)) := by
  rw [signed, if_pos negative]

theorem signed_of_nonneg {grouped : Bool} {value : Int64} (nonnegative : 0 ≤ value.toInt) :
    (Expr.number grouped value).signed = .number grouped value := by
  rw [signed, if_neg (Int.not_lt.mpr nonnegative)]

section Signed

variable {expr : Expr}

/-- The signs are written where they were written as parts of the literals. -/
theorem format_signed (printable : expr.IsPrintable) (readable : Int64.minValue ∉ expr.literals)
    {parent : Precedence} (loose : parent ≤ Precedence.sign) (onRight : Bool) :
    expr.signed.format parent onRight = expr.format parent onRight := by
  induction expr generalizing parent onRight with
  | number grouped value =>
      by_cases negative : value.toInt < 0
      · have different : value ≠ Int64.minValue := fun same =>
          readable (List.mem_singleton.mpr same.symm)
        have bare : (Expr.unary grouped .minus (.number false (-value))).isEnclosed parent onRight =
            (Expr.number grouped value).isEnclosed parent onRight :=
          congrArg (grouped || ·) (decide_eq_false (Nat.not_lt_of_le loose))
        rw [signed_of_neg negative, format, format, bare, format,
          Text.Decimal.write_of_neg negative different]
        rfl
      · rw [signed_of_nonneg (Int.not_lt.mp negative)]
  | reference grouped name => rfl
  | unary grouped operator operand inner =>
      rw [signed, format, format, inner printable.2 readable (Nat.le_refl _)]
      rfl
  | binary grouped operator precedence left right before behind =>
      obtain ⟨rfl, leftPrintable, rightPrintable⟩ := printable
      rw [literals, List.mem_append, not_or] at readable
      have tight := Nat.le_of_lt operator.precedence_lt_sign
      rw [signed, format, format, before leftPrintable readable.1 tight,
        behind rightPrintable readable.2 tight]
      rfl

/-- Without the least value, all literals are digits behind the signs that they may have. -/
theorem isWritable_signed (printable : expr.IsPrintable)
    (readable : Int64.minValue ∉ expr.literals) : expr.signed.IsWritable := by
  induction expr with
  | number grouped value =>
      by_cases negative : value.toInt < 0
      · have different : value ≠ Int64.minValue := fun same =>
          readable (List.mem_singleton.mpr same.symm)
        have magnitude := Text.Decimal.toInt_neg_of_ne_minValue different
        have nonnegative : 0 ≤ (-value).toInt := by omega
        rw [signed_of_neg negative]
        exact ⟨rfl, nonnegative⟩
      · rw [signed_of_nonneg (Int.not_lt.mp negative)]
        exact Int.not_lt.mp negative
  | reference grouped name => exact Lexeme.isReadable_identifier_iff.mpr printable
  | unary grouped operator operand inner => exact ⟨printable.1, inner printable.2 readable⟩
  | binary grouped operator precedence left right before behind =>
      obtain ⟨own, leftPrintable, rightPrintable⟩ := printable
      rw [literals, List.mem_append, not_or] at readable
      exact ⟨own, before leftPrintable readable.1, behind rightPrintable readable.2⟩

theorem IsPrintable.isSigned (printable : expr.IsPrintable) : expr.IsSigned := by
  induction expr with
  | number grouped value => trivial
  | reference grouped name => trivial
  | unary grouped operator operand inner => exact ⟨printable.1, inner printable.2⟩
  | binary grouped operator precedence left right before behind =>
      exact ⟨before printable.2.1, behind printable.2.2⟩

theorem references_signed (expr : Expr) : expr.signed.references = expr.references := by
  induction expr with
  | number grouped value =>
      rw [signed]
      split <;> rfl
  | reference grouped name => rfl
  | unary grouped operator operand inner => exact inner
  | binary grouped operator precedence left right before behind =>
      rw [signed, references, references, before, behind]

theorem references_asWritten (expr : Expr) (parent : Precedence) (onRight : Bool) :
    (expr.asWritten parent onRight).references = expr.references := by
  induction expr generalizing parent onRight with
  | number grouped value => rfl
  | reference grouped name => rfl
  | unary grouped operator operand inner => exact inner _ _
  | binary grouped operator precedence left right before behind =>
      rw [asWritten, references, references, before, behind]

/-- The text is read as the expression with the signs of its literals as operators. -/
theorem parse_text_of_isPrintable (printable : expr.IsPrintable)
    (readable : Int64.minValue ∉ expr.literals) :
    parse expr.text = .ok (expr.signed.asWritten Precedence.lowest false) := by
  have writable := isWritable_signed printable readable
  have derived : Derives .sum (expr.signed.lexemes Precedence.lowest false)
      (expr.signed.asWritten Precedence.lowest false) :=
    derives_lexemes writable Precedence.lowest false
  have written := toList_format Precedence.lowest false expr.signed
  rw [format_signed printable readable (show Precedence.lowest ≤ _ from Nat.zero_le _)] at written
  exact parse_of_derives derived (isReadable_of_mem_lexemes writable Precedence.lowest false)
    written

end Signed

section Values

variable {valuation : String → Int64}

theorem result_evaluate_unary (grouped : Bool) (operator : Operator) (operand : Expr) :
    ((Expr.unary grouped operator operand).evaluate valuation).result =
      (operand.evaluate valuation).result.bind operator.onWord := by
  rw [evaluate, Run.result_andThen]
  simp only [Run.result_report]

theorem result_evaluate_binary (grouped : Bool) (operator : Operator) (precedence : Precedence)
    (left right : Expr) :
    ((Expr.binary grouped operator precedence left right).evaluate valuation).result =
      (left.evaluate valuation).result.bind fun first =>
        (right.evaluate valuation).result.bind (operator.onWords first) := by
  rw [evaluate, Run.result_andThen]
  simp only [Run.result_andThen, Run.result_report]

/-- The marks of an expression do not change its value. -/
theorem result_evaluate_asWritten (expr : Expr) (parent : Precedence) (onRight : Bool) :
    ((expr.asWritten parent onRight).evaluate valuation).result =
      (expr.evaluate valuation).result := by
  induction expr generalizing parent onRight with
  | number grouped value => rfl
  | reference grouped name => rfl
  | unary grouped operator operand inner =>
      rw [asWritten, result_evaluate_unary, result_evaluate_unary, inner]
  | binary grouped operator precedence left right before behind =>
      rw [asWritten, result_evaluate_binary, result_evaluate_binary, before, behind]

/-- A sign before the magnitude gives the literal back. -/
theorem result_evaluate_signed (expr : Expr) :
    (expr.signed.evaluate valuation).result = (expr.evaluate valuation).result := by
  induction expr with
  | number grouped value =>
      by_cases negative : value.toInt < 0
      · rw [signed_of_neg negative, result_evaluate_unary]
        change Except.ok (Int64.ofInt (-(-value).toInt)) = Except.ok value
        rw [Int64.ofInt_neg, Int64.ofInt_toInt, Int64.neg_neg]
      · rw [signed_of_nonneg (Int.not_lt.mp negative)]
  | reference grouped name => rfl
  | unary grouped operator operand inner =>
      rw [signed, result_evaluate_unary, result_evaluate_unary, inner]
  | binary grouped operator precedence left right before behind =>
      rw [signed, result_evaluate_binary, result_evaluate_binary, before, behind]

end Values

end Expr

namespace Token

/-- Behind lexemes without blanks between them, the scan meets the first error of the rest. -/
theorem error_scanFrom_characters {lexemes : List Lexeme} {rest : List Char}
    (readable : ∀ lexeme ∈ lexemes, lexeme.IsReadable) (separated : Lexeme.Separated lexemes)
    (ended : ∀ last ∈ lexemes.getLast?, last.EndsBefore rest) (position : Nat) :
    ∃ place, (scanFrom position (Lexeme.characters lexemes ++ rest)).error =
      (scanFrom place rest).error := by
  obtain ⟨_, place, scanned, _⟩ := scanFrom_characters_append readable separated ended position
  exact ⟨place, by rw [scanned]⟩

/-- A lexeme that is not a word is passed over. -/
theorem error_scanFrom_single {lexeme : Lexeme} (readable : lexeme.IsReadable)
    (single : lexeme.isWord = false) (position : Nat) (rest : List Char) :
    ∃ place, (scanFrom position (lexeme.text.toList ++ rest)).error =
      (scanFrom place rest).error := by
  have ended : ∀ last ∈ [lexeme].getLast?, last.EndsBefore rest := by
    rintro last ⟨⟩ word
    simp [single] at word
  have passed := error_scanFrom_characters (List.forall_mem_singleton.mpr readable)
    (Lexeme.Separated.singleton lexeme) ended position
  rwa [Lexeme.characters_cons, Lexeme.characters, List.flatMap_nil, List.append_nil] at passed

/-- The scan of the text fails at the magnitude of the least value, whatever comes behind it. -/
def IsTooLarge (text : List Char) : Prop :=
  ∀ position rest, (∀ next ∈ rest.head?, isNamePart next = false) →
    ∃ place, (scanFrom position (text ++ rest)).error =
      some (.unreadableNumber "9223372036854775808" place .tooLarge)

/-- The digits of the magnitude are read before the value of all of them is found too large. -/
theorem isTooLarge_minValue : IsTooLarge (Text.Decimal.write Int64.minValue).toList := by
  intro position rest ended
  have written : (Text.Decimal.write Int64.minValue).toList =
      (Lexeme.symbol .minus).text.toList ++ '9' :: "223372036854775808".toList := by
    decide +kernel
  have numeric : ∀ digit ∈ "223372036854775808".toList, digit.isDigit = true :=
    List.all_eq_true.mp (by decide +kernel)
  have stopped : ∀ next ∈ rest.head?, next.isDigit = false := fun next member =>
    Lexeme.isDigit_eq_false_of_isNamePart_eq_false (ended next member)
  have large : Text.Decimal.readDigits .positive 0 ('9' :: "223372036854775808".toList) =
      .error .tooLarge := by decide +kernel
  obtain ⟨place, same⟩ := error_scanFrom_single (Lexeme.isReadable_symbol .minus) rfl position
    ('9' :: ("223372036854775808".toList ++ rest))
  have failure : Lexeme.read place '9' ("223372036854775808".toList ++ rest) =
      .error (.unreadableNumber "9223372036854775808" place .tooLarge) := by
    rw [Lexeme.read, if_pos (by decide), Lexeme.readNumber,
      (Lexeme.takeWhile_append_of_forall numeric stopped).1]
    simp only [large]
    rfl
  refine ⟨place, ?_⟩
  rw [written, List.append_assoc, List.cons_append, same, scanFrom_of_error (by decide) failure]

end Token

namespace Expr

open Token

/-- Parentheses around a text that is too large do not help. -/
theorem isTooLarge_enclose {text : String} (large : IsTooLarge text.toList) (enclosed : Bool) :
    IsTooLarge (enclose enclosed text).toList := by
  cases enclosed with
  | false => exact large
  | true =>
      intro position rest ended
      obtain ⟨inside, same⟩ := error_scanFrom_single Lexeme.isReadable_opening rfl position
        (text.toList ++ (')' :: rest))
      obtain ⟨place, failed⟩ := large inside (')' :: rest) (by simp; decide)
      refine ⟨place, ?_⟩
      have split : (enclose true text).toList ++ rest =
          Lexeme.opening.text.toList ++ (text.toList ++ (')' :: rest)) := by
        simp [enclose, Lexeme.text]
      rw [split, same, failed]

/-- Without the least value, the text of an expression is passed over. -/
theorem error_scanFrom_format {expr : Expr} (printable : expr.IsPrintable)
    (readable : Int64.minValue ∉ expr.literals) {parent : Precedence}
    (loose : parent ≤ Precedence.sign) (onRight : Bool) {rest : List Char}
    (ended : ∀ next ∈ rest.head?, isNamePart next = false) (position : Nat) :
    ∃ place, (scanFrom position ((expr.format parent onRight).toList ++ rest)).error =
      (scanFrom place rest).error := by
  have writable := isWritable_signed printable readable
  rw [← format_signed printable readable loose, toList_format]
  exact error_scanFrom_characters (isReadable_of_mem_lexemes writable parent onRight)
    (derives_lexemes writable parent onRight).separated (fun _ _ _ => ended) position

/-- The text of an expression with the least value as a literal is not separated into tokens. -/
theorem isTooLarge_format {expr : Expr} (printable : expr.IsPrintable)
    (member : Int64.minValue ∈ expr.literals) (parent : Precedence) (onRight : Bool) :
    IsTooLarge (expr.format parent onRight).toList := by
  induction expr generalizing parent onRight with
  | number grouped value =>
      rw [format]
      refine isTooLarge_enclose ?_ _
      rw [← List.mem_singleton.mp member]
      exact isTooLarge_minValue
  | reference grouped name => simp [literals] at member
  | unary grouped operator operand inner =>
      rw [format]
      refine isTooLarge_enclose (fun position rest ended => ?_) _
      obtain ⟨inside, same⟩ := error_scanFrom_single (Lexeme.isReadable_symbol operator) rfl
        position ((operand.format Precedence.sign false).toList ++ rest)
      obtain ⟨place, failed⟩ := inner printable.2 member Precedence.sign false inside rest ended
      refine ⟨place, ?_⟩
      rw [String.toList_append, List.append_assoc]
      exact same.trans failed
  | binary grouped operator precedence left right before behind =>
      obtain ⟨rfl, leftPrintable, rightPrintable⟩ := printable
      rw [format]
      refine isTooLarge_enclose (fun position rest ended => ?_) _
      rw [String.toList_append, String.toList_append, List.append_assoc, List.append_assoc]
      have stopped : ∀ next ∈ (operator.symbol.toList ++
          ((right.format operator.precedence true).toList ++ rest)).head?,
          isNamePart next = false := by
        intro next first
        cases operator <;>
        · obtain rfl := Option.some.inj first
          decide
      -- The leftmost of the literals with the least value decides.
      by_cases first : Int64.minValue ∈ left.literals
      · exact before leftPrintable first operator.precedence false position _ stopped
      · have second := (List.mem_append.mp member).resolve_left first
        obtain ⟨middle, passed⟩ := error_scanFrom_format leftPrintable first
          (Nat.le_of_lt operator.precedence_lt_sign) false stopped position
        obtain ⟨inside, same⟩ := error_scanFrom_single (Lexeme.isReadable_symbol operator) rfl
          middle ((right.format operator.precedence true).toList ++ rest)
        obtain ⟨place, failed⟩ :=
          behind rightPrintable second operator.precedence true inside rest ended
        exact ⟨place, passed.trans (same.trans failed)⟩

end Expr

namespace Program

/--
The text of an expression with any literals has a program with the same parameters and results as
the program of the expression itself, unless the least value is one of the literals; then the text
is not separated into tokens.
-/
theorem build_text_of_literals {expr : Expr} (printable : expr.IsPrintable) :
    (Int64.minValue ∉ expr.literals →
      ∃ program own, build expr.text = .ok program ∧ ofExpr expr expr.parameters = .ok own ∧
        program.parameters = expr.parameters ∧
        ∀ arguments, expr.parameters.length ≤ arguments.length →
          (program.run arguments).IsRegular ∧
            (program.run arguments).result = (own.run arguments).result) ∧
      (Int64.minValue ∈ expr.literals →
        ∃ position, build expr.text =
          .error (.unreadableNumber "9223372036854775808" position .tooLarge)) := by
  constructor
  · intro readable
    have parsed := Expr.parse_text_of_isPrintable printable readable
    generalize shape : expr.signed.asWritten Precedence.lowest false = found at parsed
    have references : found.references = expr.references := by
      rw [← shape, Expr.references_asWritten, Expr.references_signed]
    have parameters : found.parameters = expr.parameters := by
      rw [Expr.parameters, references]
      rfl
    have covered := found.isCovered_parameters
    obtain ⟨segment, lowered⟩ := found.exists_lowerFrom
      (Expr.isCanonical_of_parse parsed).isWritable.isSigned covered 0
    obtain ⟨ownSegment, ownLowered⟩ :=
      expr.exists_lowerFrom printable.isSigned expr.isCovered_parameters 0
    have made : ofExpr found found.parameters =
        .ok ⟨found.parameters, segment.instructions, segment.labels⟩ := by
      rw [ofExpr, lowered]
      rfl
    refine ⟨⟨found.parameters, segment.instructions, segment.labels⟩,
      ⟨expr.parameters, ownSegment.instructions, ownSegment.labels⟩, ?_, ?_, parameters, ?_⟩
    · rw [build, parsed]
      exact made
    · rw [ofExpr, ownLowered]
      rfl
    · intro arguments enough
      rw [← parameters] at enough
      refine ⟨(isWellFormed_of_ofExpr made).isRegular_run enough, ?_⟩
      rw [run_ofSegment covered lowered enough,
        run_ofSegment expr.isCovered_parameters ownLowered (parameters ▸ enough), parameters,
        ← shape, Expr.result_evaluate_asWritten, Expr.result_evaluate_signed]
  · intro member
    obtain ⟨position, failed⟩ := Expr.isTooLarge_format printable member Precedence.lowest false
      0 [] (by simp)
    rw [List.append_nil] at failed
    have scanned : Token.ofSource expr.text = .error _ := Scan.result_eq_error_iff.mpr failed
    refine ⟨position, ?_⟩
    rw [build, (Expr.parse_of_ofSource_eq_error scanned).1]
    rfl

set_option maxRecDepth 8000 in
/-- A sign behind another one is read with the digits behind it, and the least value is refused. -/
theorem build_text_of_literals_of_signs :
    let name := Expr.reference false "x"
    let difference := Expr.binary false .minus 10 (.number false (-5))
      (.binary false .times 20 (.number true (-3)) (.unary false .minus name))
    let quotient := Expr.binary false .divide 20 name (.number false Int64.minValue)
    difference.text = "-5-(-3)*-x" ∧ quotient.text = "x/-9223372036854775808" ∧
      (∃ program own, build "-5-(-3)*-x" = .ok program ∧
        ofExpr difference difference.parameters = .ok own ∧
        (program.run [2]).result = (own.run [2]).result ∧ (own.run [2]).result = .ok (-11)) ∧
      ∃ position, build "x/-9223372036854775808" =
        .error (.unreadableNumber "9223372036854775808" position .tooLarge) := by
  intro name difference quotient
  have spelled : Name.IsSpelled "x" := Lexeme.isReadable_identifier_iff.mp (by cbv)
  have printable : difference.IsPrintable := ⟨rfl, trivial, rfl, trivial, rfl, spelled⟩
  have text : difference.text = "-5-(-3)*-x" := by cbv
  have quotientText : quotient.text = "x/-9223372036854775808" := by cbv
  obtain ⟨program, own, built, lowered, _, runs⟩ :=
    (build_text_of_literals printable).1 (by decide +kernel)
  have value : (own.run [2]).result = .ok (-11) := by
    have expected : ofExpr difference difference.parameters = .ok ⟨["x"],
        [.const (-5), .const (-3), .load 0, .negate, .trace 0, .combine .times, .trace 1,
          .combine .minus, .trace 2], ["-x", "(-3)*-x", "-5-(-3)*-x"]⟩ := by cbv
    rw [Except.ok.inj (lowered.symm.trans expected)]
    cbv
  have refused :=
    (build_text_of_literals (show quotient.IsPrintable from ⟨rfl, spelled, trivial⟩)).2
      (by decide +kernel)
  rw [text] at built
  rw [quotientText] at refused
  exact ⟨text, quotientText, ⟨program, own, built, lowered, (runs [2] (by decide +kernel)).2, value⟩,
    refused⟩

end Program

end TraceCalc
