/-
This file shows that tokens are read one after another up to the end or the first defect.
-/

import TraceCalc.Proofs.Token.Tokenization

namespace TraceCalc

open Unicode

/--
The error is the one of the text behind the characters that were read before it: no lexeme starts
with the first character, or the digits there denote a value that does not fit.
-/
inductive Error.IsDefect (before : List Char) : List Char → Error → Prop
  | character {first : Char} {behind : List Char} (visible : isWhiteSpace first = false)
      (notDigit : first.isDigit = false) (notLetter : isAlphabetic first = false)
      (notSymbol : first ∉ ['+', '-', '*', '/', '(', ')']) :
      IsDefect before (first :: behind) (.unexpectedCharacter first (byteCount before))
  | digits {digits behind : List Char} (nonempty : digits ≠ [])
      (numeric : ∀ digit ∈ digits, digit.isDigit = true)
      (start : ∀ last ∈ before.getLast?, isAlphabetic last = false ∧ last.isDigit = false)
      (ended : ∀ next ∈ behind.head?, next.isDigit = false)
      (large : Int64.maxValue.toInt < Nat.ofDigitChars 10 digits 0) :
      IsDefect before (digits ++ behind)
        (.unreadableNumber (String.ofList digits) (byteCount before) .tooLarge)

theorem Error.IsDefect.position?_eq {before behind : List Char} {error : Error}
    (defect : error.IsDefect before behind) : error.position? = some (byteCount before) := by
  cases defect <;> rfl

theorem Error.IsDefect.phase_eq {before behind : List Char} {error : Error}
    (defect : error.IsDefect before behind) : error.phase = .lexing := by
  cases defect <;> rfl

namespace Lexeme

variable {position : Nat} {first : Char} {rest : List Char} {error : Error}

/-- Digits that cannot be read denote too large a value. -/
theorem tooLarge_of_readDigits {digits : List Char} {fault : Text.Decimal.Fault}
    (numeric : ∀ digit ∈ digits, digit.isDigit = true)
    (failure : Text.Decimal.readDigits .positive 0 digits = .error fault) :
    fault = .tooLarge ∧ Int64.maxValue.toInt < Nat.ofDigitChars 10 digits 0 := by
  by_cases fits : (Nat.ofDigitChars 10 digits 0 : Int) ≤ Int64.maxValue.toInt
  · have found : Text.Decimal.readDigits .positive 0 digits = _ :=
      Text.Decimal.readDigits_eq_ok numeric 0 fits
    rw [failure] at found
    simp at found
  · have large := Int.lt_of_not_ge fits
    have found : Text.Decimal.readDigits .positive 0 digits = _ :=
      Text.Decimal.readDigits_eq_tooLarge numeric 0 (by decide) large
    rw [failure, Except.error.injEq] at found
    exact ⟨found, large⟩

/-- Where a word may start, a lexeme that cannot be read is a defect of the source. -/
theorem isDefect_of_read {before : List Char} (visible : isWhiteSpace first = false)
    (boundary : Token.IsBoundary before (first :: rest))
    (failure : read (byteCount before) first rest = .error error) :
    error.IsDefect before (first :: rest) := by
  unfold read at failure
  split at failure
  next => simp at failure
  next noSymbol =>
      split at failure
      next digit =>
          unfold readNumber at failure
          dsimp only at failure
          split at failure
          next => simp at failure
          next fault found =>
              have numeric : ∀ other ∈ first :: rest.takeWhile Char.isDigit,
                  other.isDigit = true :=
                List.forall_mem_cons.mpr ⟨digit, List.all_eq_true.mp List.all_takeWhile⟩
              obtain ⟨rfl, large⟩ := tooLarge_of_readDigits numeric found
              have split : first :: rest =
                  (first :: rest.takeWhile Char.isDigit) ++ rest.dropWhile Char.isDigit := by
                rw [List.cons_append, List.takeWhile_append_dropWhile]
              rw [← Except.error.inj failure, split]
              refine .digits (by simp) numeric ?_
                (fun next => eq_false_of_mem_head?_dropWhile) large
              intro last member
              obtain ⟨afterDigit, afterLetter⟩ := boundary last member first rfl
              constructor
              · cases letter : isAlphabetic last with
                | false => rfl
                | true =>
                    have part := afterLetter letter
                    rw [isNamePart, digit, Bool.or_true] at part
                    simp at part
              · cases shared : last.isDigit with
                | false => rfl
                | true =>
                    rw [afterDigit shared] at digit
                    simp at digit
      next notDigit =>
          split at failure
          next => simp at failure
          next notLetter =>
              rw [← Except.error.inj failure]
              refine .character visible (eq_false_of_ne_true notDigit)
                (eq_false_of_ne_true notLetter) ?_
              intro member
              simp only [List.mem_cons, List.not_mem_nil, or_false] at member
              rcases member with rfl | rfl | rfl | rfl | rfl | rfl <;>
                simp [ofCharacter?] at noSymbol

end Lexeme

namespace Token

/-- A longest lexeme at the start of a text is its first token. -/
theorem scanFrom_text_append {before remaining : List Char} {lexeme : Lexeme}
    (notFinish : lexeme ≠ .finish) (proper : lexeme.IsProper)
    (longest : lexeme.IsLongest remaining) :
    scanFrom (byteCount before) (lexeme.text.toList ++ remaining) =
      (scanFrom (byteCount (before ++ lexeme.text.toList)) remaining).cons
        ⟨lexeme, byteCount before⟩ := by
  obtain ⟨first, tail, spelled⟩ := proper.exists_text_eq_cons notFinish
  have visible := proper.isWhiteSpace_eq_false first (by simp [spelled])
  have split : lexeme.text.toList ++ remaining = first :: (tail ++ remaining) := by
    rw [spelled, List.cons_append]
  rw [split, scanFrom_of_ok visible (Lexeme.read_of_isLongest notFinish proper longest split),
    byteCount_append, byteCount_toList]

/-- The text before the first defect is a source of its own, with the tokens that were found. -/
theorem exists_defect_of_scanFrom {before rest : List Char} {error : Error}
    (boundary : IsBoundary before rest)
    (failure : (scanFrom (byteCount before) rest).error = some error) :
    ∃ left behind, rest = left ++ behind ∧
      (scanFrom (byteCount before) left).result =
        .ok ((scanFrom (byteCount before) rest).tokens ++ [finish (byteCount (before ++ left))]) ∧
      error.IsDefect (before ++ left) behind := by
  induction size : rest.length using Nat.strongRecOn generalizing before rest with
  | ind count inductionHypothesis =>
      cases rest with
      | nil => simp at failure
      | cons first rest =>
          rw [List.length_cons] at size
          cases blank : isWhiteSpace first with
          | true =>
              have moved : byteCount before + first.utf8Size = byteCount (before ++ [first]) := by
                simp
              rw [scanFrom_of_whiteSpace blank, moved] at failure ⊢
              obtain ⟨left, behind, rfl, success, defect⟩ := inductionHypothesis rest.length
                (by omega) (isBoundary_of_whiteSpace blank) failure rfl
              rw [List.append_assoc, List.singleton_append] at success defect
              refine ⟨first :: left, behind, rfl, ?_, defect⟩
              rw [scanFrom_of_whiteSpace blank, moved]
              exact success
          | false =>
              cases found : Lexeme.read (byteCount before) first rest with
              | error cause =>
                  rw [scanFrom_of_error blank found] at failure ⊢
                  obtain rfl := Option.some.inj failure
                  refine ⟨[], first :: rest, rfl, ?_, ?_⟩
                  · simp [Scan.result]
                  · rw [List.append_nil]
                    exact Lexeme.isDefect_of_read blank boundary found
              | ok pair =>
                  obtain ⟨lexeme, remaining⟩ := pair
                  obtain ⟨notFinish, proper, longest, split⟩ := Lexeme.read_eq_ok_iff.mp found
                  have shorter := Lexeme.read_shortens found
                  rw [← split, scanFrom_text_append notFinish proper longest] at failure ⊢
                  obtain ⟨left, behind, rfl, success, defect⟩ :=
                    inductionHypothesis remaining.length (by omega)
                      (isBoundary_of_isLongest notFinish proper longest) failure rfl
                  rw [List.append_assoc] at success defect
                  refine ⟨lexeme.text.toList ++ left, behind, by rw [List.append_assoc], ?_, defect⟩
                  rw [scanFrom_text_append notFinish proper longest.of_append]
                  exact Scan.result_cons_of_ok success

end Token

/-- A cursor stands between two tokens of a source until it has answered the end or an error. -/
structure Cursor where
  position : Nat
  rest : List Char
  done : Bool

namespace Cursor

/-- A new cursor stands before the first character. -/
def start (source : String) : Cursor := ⟨0, source.toList, false⟩

/-- White space is passed over, and the end or an error is the last answer. -/
def advance (position : Nat) : List Char → Except Error Token × Cursor
  | [] => (.ok (Token.finish position), ⟨position, [], true⟩)
  | first :: rest =>
      if isWhiteSpace first then advance (position + first.utf8Size) rest
      else
        match Lexeme.read position first rest with
        | .error error => (.error error, ⟨position, rest, true⟩)
        | .ok (lexeme, remaining) =>
            (.ok ⟨lexeme, position⟩, ⟨position + lexeme.text.utf8ByteSize, remaining, false⟩)

/-- A cursor that is done has no more answers. -/
def next (cursor : Cursor) : Option (Except Error Token) × Cursor :=
  if cursor.done then (none, cursor)
  else
    let (answer, moved) := advance cursor.position cursor.rest
    (some answer, moved)

/-- The answer with this number comes after as many other answers. -/
def answer (cursor : Cursor) : Nat → Option (Except Error Token)
  | 0 => cursor.next.1
  | count + 1 => cursor.next.2.answer count

theorem answer_of_done {cursor : Cursor} (done : cursor.done = true) (count : Nat) :
    cursor.answer count = none := by
  induction count with
  | zero => simp [answer, next, done]
  | succ count inductionHypothesis => simpa [answer, next, done] using inductionHypothesis

theorem answer_zero {position : Nat} {rest : List Char} :
    (Cursor.mk position rest false).answer 0 = some (advance position rest).1 := rfl

theorem answer_succ {position : Nat} {rest : List Char} (count : Nat) :
    (Cursor.mk position rest false).answer (count + 1) = (advance position rest).2.answer count :=
  rfl

/-- The answers are the tokens of the scan with its error behind them, and then nothing. -/
theorem answer_eq (position : Nat) (rest : List Char) (count : Nat) :
    (Cursor.mk position rest false).answer count =
      ((Token.scanFrom position rest).tokens.map .ok ++
        (Token.scanFrom position rest).error.toList.map .error)[count]? := by
  fun_induction Token.scanFrom position rest generalizing count with
  | case1 position =>
      cases count with
      | zero => rfl
      | succ count => exact answer_of_done rfl count
  | case2 position first rest blank inductionHypothesis =>
      rw [← inductionHypothesis]
      cases count <;> simp [answer_zero, answer_succ, advance, blank]
  | case3 position first rest visible error failure =>
      cases count with
      | zero => simp [answer_zero, advance, visible, failure]
      | succ count =>
          rw [answer_succ]
          simp [advance, visible, failure, answer_of_done]
  | case4 position first rest visible lexeme remaining found shorter inductionHypothesis =>
      cases count with
      | zero => simp [answer_zero, advance, visible, found]
      | succ count =>
          rw [answer_succ]
          simp [advance, visible, found, inductionHypothesis]

end Cursor

namespace Scan

theorem result_eq_ok_iff {scan : Scan} {tokens : List Token} :
    scan.result = .ok tokens ↔ scan.error = none ∧ scan.tokens = tokens := by
  rw [result]
  cases scan.error <;> simp

theorem result_eq_error_iff {scan : Scan} {error : Error} :
    scan.result = .error error ↔ scan.error = some error := by
  rw [result]
  cases scan.error <;> simp

end Scan

namespace Token

/-- A source that is not separated into tokens has a first defect. -/
theorem exists_defect_of_ofSource {source : String} {error : Error}
    (failure : ofSource source = .error error) :
    ∃ before behind, source.toList = before ++ behind ∧ error.IsDefect before behind ∧
      Tokenizes [] before ((scan source).tokens ++ [finish (byteCount before)]) := by
  have failed : (scanFrom (byteCount []) source.toList).error = some error :=
    Scan.result_eq_error_iff.mp failure
  obtain ⟨before, behind, split, success, defect⟩ := exists_defect_of_scanFrom (.start _) failed
  exact ⟨before, behind, split, defect, (result_scanFrom_eq_ok_iff (.start _)).mp success⟩

/--
A source is separated into the only tokens that fit it. If there are none, the error is that of the
first defect, and the text before it has the tokens that were found. Read one after another, the
tokens come in this order with the error behind them, and nothing follows.
-/
theorem ofSource_eq_ok_iff_tokenizes (source : String) :
    (∀ tokens, ofSource source = .ok tokens ↔ Tokenizes [] source.toList tokens) ∧
    (∀ tokens, ofSource source = .ok tokens →
      ∀ count, (Cursor.start source).answer count = (tokens.map .ok)[count]?) ∧
    ∀ error, ofSource source = .error error →
      ∃ before behind tokens, source.toList = before ++ behind ∧
        error.position? = some (byteCount before) ∧ error.IsDefect before behind ∧
        Tokenizes [] before (tokens ++ [finish (byteCount before)]) ∧
        ∀ count, (Cursor.start source).answer count =
          (tokens.map .ok ++ [.error error])[count]? := by
  refine ⟨?_, ?_, ?_⟩
  · intro tokens
    exact result_scanFrom_eq_ok_iff (.start _)
  · intro tokens success count
    obtain ⟨noError, rfl⟩ := Scan.result_eq_ok_iff.mp success
    have answers := Cursor.answer_eq 0 source.toList count
    rw [scan] at noError
    rwa [noError, Option.toList_none, List.map_nil, List.append_nil] at answers
  · intro error failure
    obtain ⟨before, behind, split, defect, fits⟩ := exists_defect_of_ofSource failure
    refine ⟨before, behind, _, split, defect.position?_eq, defect, fits, ?_⟩
    intro count
    have failed : (scanFrom 0 source.toList).error = some error :=
      Scan.result_eq_error_iff.mp failure
    have answers := Cursor.answer_eq 0 source.toList count
    rwa [failed] at answers

/-- Leading zeros do not make a number too large, and a value above the bound does. -/
theorem ofSource_eq_ok_iff_tokenizes_of_zeros :
    (∃ tokens, tokens = [⟨.identifier "Ä2", 0⟩, ⟨.number "007" 7, 4⟩, finish 7] ∧
      ofSource "Ä2 007" = .ok tokens ∧
      ∀ count, (Cursor.start "Ä2 007").answer count = (tokens.map .ok)[count]?) ∧
    ∃ error, error = .unreadableNumber "09223372036854775808" 3 .tooLarge ∧
      ofSource "Ä*09223372036854775808" = .error error ∧
      ∃ before behind tokens, "Ä*09223372036854775808".toList = before ++ behind ∧
        error.position? = some (byteCount before) ∧ error.IsDefect before behind ∧
        Tokenizes [] before (tokens ++ [finish (byteCount before)]) ∧
        ∀ count, (Cursor.start "Ä*09223372036854775808").answer count =
          (tokens.map .ok ++ [.error error])[count]? := by
  have success : ofSource "Ä2 007" =
      .ok [⟨.identifier "Ä2", 0⟩, ⟨.number "007" 7, 4⟩, finish 7] := by decide +kernel
  have failure : ofSource "Ä*09223372036854775808" =
      .error (.unreadableNumber "09223372036854775808" 3 .tooLarge) := by decide +kernel
  exact ⟨⟨_, rfl, success, (ofSource_eq_ok_iff_tokenizes _).2.1 _ success⟩,
    _, rfl, failure, (ofSource_eq_ok_iff_tokenizes _).2.2 _ failure⟩

end Token

end TraceCalc
