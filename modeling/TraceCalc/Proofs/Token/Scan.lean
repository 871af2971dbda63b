/-
This file states what the scan of a source makes of its first character.
-/

import TraceCalc.Token.Scan
import TraceCalc.Unicode.Disjoint

namespace TraceCalc

open Unicode

/-- The text of a list of characters has the bytes of all of them. -/
theorem utf8ByteSize_ofList_cons (character : Char) (rest : List Char) :
    (String.ofList (character :: rest)).utf8ByteSize =
      character.utf8Size + (String.ofList rest).utf8ByteSize := by
  rw [String.ofList_cons, String.utf8ByteSize_append, String.utf8ByteSize_singleton]

namespace Lexeme

/-- A character that is a lexeme of its own is the text of this lexeme. -/
theorem text_of_ofCharacter? {character : Char} {lexeme : Lexeme}
    (found : ofCharacter? character = some lexeme) :
    lexeme.text.toList = [character] ∧ lexeme ≠ .finish := by
  unfold ofCharacter? at found
  split at found <;> first
    | (rw [← Option.some.inj found]; exact ⟨by decide, by simp⟩)
    | simp at found

/-- The text of a lexeme was read from the start, and nothing was dropped. -/
theorem read_eq_ok {position : Nat} {first : Char} {rest remaining : List Char} {lexeme : Lexeme}
    (success : read position first rest = .ok (lexeme, remaining)) :
    lexeme.text.toList ++ remaining = first :: rest ∧ lexeme ≠ .finish := by
  unfold read at success
  split at success
  next found =>
      simp only [Except.ok.injEq, Prod.mk.injEq] at success
      obtain ⟨rfl, rfl⟩ := success
      obtain ⟨text, proper⟩ := text_of_ofCharacter? found
      exact ⟨by rw [text, List.singleton_append], proper⟩
  next =>
      split at success
      · unfold readNumber at success
        dsimp only at success
        split at success
        · simp only [Except.ok.injEq, Prod.mk.injEq] at success
          obtain ⟨rfl, rfl⟩ := success
          simp [text, List.takeWhile_append_dropWhile]
        · simp at success
      · split at success
        · simp only [readName, Except.ok.injEq, Prod.mk.injEq] at success
          obtain ⟨rfl, rfl⟩ := success
          simp [text, List.takeWhile_append_dropWhile]
        · simp at success

end Lexeme

namespace Scan

/-- A token before a scan is the first of its tokens. -/
theorem result_cons_eq_ok {token : Token} {scan : Scan} {tokens : List Token}
    (success : (scan.cons token).result = .ok tokens) :
    ∃ tail, scan.result = .ok tail ∧ tokens = token :: tail := by
  cases scan with
  | mk found error =>
      cases error with
      | some error => simp [result, cons] at success
      | none =>
          simp only [result, cons, Except.ok.injEq] at success
          exact ⟨found, rfl, success.symm⟩

theorem result_cons_of_ok {token : Token} {scan : Scan} {tokens : List Token}
    (success : scan.result = .ok tokens) : (scan.cons token).result = .ok (token :: tokens) := by
  cases scan with
  | mk found error =>
      cases error with
      | some error => simp [result] at success
      | none =>
          simp only [result, Except.ok.injEq] at success
          rw [result, cons, success]

end Scan

namespace Token

variable {position : Nat} {first : Char} {rest remaining : List Char}

@[simp] theorem scanFrom_nil (position : Nat) :
    scanFrom position [] = ⟨[finish position], none⟩ := by
  rw [scanFrom]

theorem scanFrom_of_whiteSpace (blank : isWhiteSpace first = true) :
    scanFrom position (first :: rest) = scanFrom (position + first.utf8Size) rest := by
  rw [scanFrom, if_pos blank]

theorem scanFrom_of_error {error : Error} (visible : isWhiteSpace first = false)
    (failure : Lexeme.read position first rest = .error error) :
    scanFrom position (first :: rest) = ⟨[], some error⟩ := by
  rw [scanFrom, if_neg (by simp [visible])]
  split
  next found => rw [failure] at found; rw [Except.error.inj found]
  next found => rw [failure] at found; simp at found

theorem scanFrom_of_ok {lexeme : Lexeme} (visible : isWhiteSpace first = false)
    (success : Lexeme.read position first rest = .ok (lexeme, remaining)) :
    scanFrom position (first :: rest) =
      (scanFrom (position + lexeme.text.utf8ByteSize) remaining).cons ⟨lexeme, position⟩ := by
  rw [scanFrom, if_neg (by simp [visible])]
  split
  next found => rw [success] at found; simp at found
  next found =>
      rw [success] at found
      simp only [Except.ok.injEq, Prod.mk.injEq] at found
      obtain ⟨rfl, rfl⟩ := found
      rfl

/-- A scan that succeeds ends with the only end of the source, behind the last byte. -/
theorem result_scanFrom_eq_ok {source : List Char} {tokens : List Token}
    (success : (scanFrom position source).result = .ok tokens) :
    ∃ before, tokens = before ++ [finish (position + (String.ofList source).utf8ByteSize)] ∧
      ∀ token ∈ before, token.lexeme ≠ .finish := by
  fun_induction scanFrom position source generalizing tokens with
  | case1 position =>
      simp only [Scan.result, Except.ok.injEq] at success
      exact ⟨[], by simp [← success], by simp⟩
  | case2 position first rest blank inductionHypothesis =>
      obtain ⟨before, split, proper⟩ := inductionHypothesis success
      exact ⟨before, by rw [split, utf8ByteSize_ofList_cons, Nat.add_assoc], proper⟩
  | case3 position first rest visible error failure => simp [Scan.result] at success
  | case4 position first rest visible lexeme remaining found shorter inductionHypothesis =>
      obtain ⟨text, notFinish⟩ := Lexeme.read_eq_ok found
      obtain ⟨tail, tailSuccess, rfl⟩ := Scan.result_cons_eq_ok success
      obtain ⟨before, split, proper⟩ := inductionHypothesis tailSuccess
      refine ⟨⟨lexeme, position⟩ :: before, ?_, ?_⟩
      · rw [split, ← text, String.ofList_append, String.ofList_toList,
          String.utf8ByteSize_append, Nat.add_assoc, List.cons_append]
      · intro token member
        rcases List.mem_cons.mp member with rfl | member
        · exact notFinish
        · exact proper token member

/-- The tokens of a source end with the only end of the source. -/
theorem ofSource_eq_ok {source : String} {tokens : List Token}
    (success : ofSource source = .ok tokens) :
    ∃ before, tokens = before ++ [finish source.utf8ByteSize] ∧
      ∀ token ∈ before, token.lexeme ≠ .finish := by
  have found := result_scanFrom_eq_ok success
  rwa [String.ofList_toList, Nat.zero_add] at found

end Token

end TraceCalc
