/-
This file shows that the tokens behind a place do not depend on the text before it.
-/

import TraceCalc.Proofs.Token.Tokenization

namespace TraceCalc

open Unicode

/-- The bytes of a source in their order. -/
def bytesOf (source : String) : List UInt8 := source.toUTF8.data.toList

theorem bytesOf_ofList (text : List Char) :
    bytesOf (String.ofList text) = text.flatMap String.utf8EncodeChar := by
  rw [bytesOf, String.toUTF8_eq_toByteArray, String.toByteArray_ofList, List.utf8Encode]
  simp

theorem length_flatMap_utf8EncodeChar (text : List Char) :
    (text.flatMap String.utf8EncodeChar).length = byteCount text := by
  induction text with
  | nil => rfl
  | cons character rest inductionHypothesis =>
      rw [List.flatMap_cons, List.length_append, String.length_utf8EncodeChar, inductionHypothesis,
        byteCount_cons]

/-- The other source has a space in the place of each byte before the position. -/
def IsBlankedBefore (position : Nat) (source other : String) : Prop :=
  bytesOf other = List.replicate position 32 ++ (bytesOf source).drop position

/-- The text before the position is replaced by as many spaces as it has bytes. -/
theorem isBlankedBefore_ofList (left right : List Char) :
    IsBlankedBefore (byteCount left) (String.ofList (left ++ right))
      (String.ofList (List.replicate (byteCount left) ' ' ++ right)) := by
  have spaces : (List.replicate (byteCount left) ' ').flatMap String.utf8EncodeChar =
      List.replicate (byteCount left) 32 := by
    rw [List.flatMap_replicate, show String.utf8EncodeChar ' ' = [32] by decide +kernel]
    simp
  rw [IsBlankedBefore, bytesOf_ofList, bytesOf_ofList, List.flatMap_append, List.flatMap_append,
    spaces, ← length_flatMap_utf8EncodeChar left, List.drop_left]

theorem byteCount_replicate_space (count : Nat) : byteCount (List.replicate count ' ') = count := by
  induction count with
  | zero => rfl
  | succ count inductionHypothesis =>
      rw [List.replicate_succ, byteCount_cons, inductionHypothesis]
      exact Nat.add_comm 1 count

namespace Token

variable {position : Nat} {text : List Char} {taken more : List Token} {token : Token}

/-- The scan from the position of a token gives this token and the tokens behind it. -/
theorem exists_scanFrom_position
    (scanned : (scanFrom position text).result = .ok (taken ++ token :: more)) :
    ∃ left right, text = left ++ right ∧ token.position = position + byteCount left ∧
      (scanFrom token.position right).result = .ok (token :: more) := by
  fun_induction scanFrom position text generalizing taken with
  | case1 position =>
      cases taken with
      | nil =>
          obtain ⟨rfl, rfl⟩ := List.cons.inj (Except.ok.inj scanned)
          exact ⟨[], [], rfl, rfl, by rw [finish, scanFrom_nil]; rfl⟩
      | cons head taken => simp [Scan.result] at scanned
  | case2 position first rest blank inductionHypothesis =>
      obtain ⟨left, right, rfl, place, resumed⟩ := inductionHypothesis scanned
      refine ⟨first :: left, right, rfl, ?_, resumed⟩
      rw [place, byteCount_cons, Nat.add_assoc]
  | case3 position first rest visible error failure => simp [Scan.result] at scanned
  | case4 position first rest visible lexeme remaining found shorter inductionHypothesis =>
      obtain ⟨tail, success, split⟩ := Scan.result_cons_eq_ok scanned
      cases taken with
      | nil =>
          obtain ⟨rfl, rfl⟩ := List.cons.inj split
          refine ⟨[], first :: rest, rfl, rfl, ?_⟩
          rw [scanFrom_of_ok (eq_false_of_ne_true visible) found]
          exact Scan.result_cons_of_ok success
      | cons head taken =>
          obtain ⟨rfl, rfl⟩ := List.cons.inj split
          obtain ⟨left, right, rfl, place, resumed⟩ := inductionHypothesis success
          have whole := (Lexeme.read_eq_ok found).1
          refine ⟨lexeme.text.toList ++ left, right, ?_, ?_, resumed⟩
          · rw [← whole, List.append_assoc]
          · rw [place, byteCount_append, byteCount_toList, Nat.add_assoc]

/-- Spaces only move the scan. -/
theorem scanFrom_replicate_space (position count : Nat) (text : List Char) :
    scanFrom position (List.replicate count ' ' ++ text) = scanFrom (position + count) text := by
  induction count generalizing position with
  | zero => rfl
  | succ count inductionHypothesis =>
      rw [List.replicate_succ, List.cons_append, scanFrom_of_whiteSpace (by decide),
        inductionHypothesis, Nat.add_assoc]
      exact congrArg (scanFrom · text) (congrArg (position + ·) (Nat.add_comm 1 count))

/-- With spaces before a token, a source has the tokens from this one on, in their places. -/
theorem exists_isBlankedBefore {source : String}
    (scanned : ofSource source = .ok (taken ++ token :: more)) :
    ∃ other, IsBlankedBefore token.position source other ∧
      other.utf8ByteSize = source.utf8ByteSize ∧ ofSource other = .ok (token :: more) := by
  obtain ⟨left, right, split, place, resumed⟩ := exists_scanFrom_position scanned
  rw [Nat.zero_add] at place
  have whole : source = String.ofList (left ++ right) := by rw [← split, String.ofList_toList]
  refine ⟨String.ofList (List.replicate token.position ' ' ++ right), ?_, ?_, ?_⟩
  · rw [place, whole]
    exact isBlankedBefore_ofList left right
  · change byteCount _ = _
    rw [byteCount_append, byteCount_replicate_space, place, ← byteCount_append, ← split,
      byteCount_toList]
  · rw [ofSource, scan, String.toList_ofList, scanFrom_replicate_space, Nat.zero_add, resumed]

end Token

end TraceCalc
