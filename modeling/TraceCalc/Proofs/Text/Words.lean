/-
This file describes texts that keep all their characters when white space is removed.
-/

import TraceCalc.Text.Blank

namespace TraceCalc.Text

open Unicode

/-- A trimmed text has characters, and none of the outer ones is white space. -/
structure IsTrimmed (text : List Char) : Prop where
  filled : text ≠ []
  start : trimStart text = text
  finish : trimEnd text = text

/-- A word has characters, and none of them is white space. -/
structure IsWord (text : List Char) : Prop where
  filled : text ≠ []
  visible : ∀ character ∈ text, isWhiteSpace character = false

instance (text : List Char) : Decidable (IsTrimmed text) :=
  decidable_of_iff (text ≠ [] ∧ trimStart text = text ∧ trimEnd text = text)
    ⟨fun ⟨filled, start, finish⟩ => ⟨filled, start, finish⟩,
      fun ⟨filled, start, finish⟩ => ⟨filled, start, finish⟩⟩

instance (text : List Char) : Decidable (IsWord text) :=
  decidable_of_iff (text ≠ [] ∧ text.all (fun character => !isWhiteSpace character) = true)
    ⟨fun ⟨filled, visible⟩ => ⟨filled, by simpa using visible⟩,
      fun ⟨filled, visible⟩ => ⟨filled, by simpa using visible⟩⟩

/-- White space at the start does not reach behind the first visible character. -/
theorem trimStart_append {first : List Char} (visible : trimStart first ≠ [])
    (second : List Char) : trimStart (first ++ second) = trimStart first ++ second := by
  rw [trimStart, List.dropWhile_append, ← trimStart, List.isEmpty_eq_false_iff.mpr visible]
  rfl

/-- White space at the start goes with the end if nothing visible stands between them. -/
theorem trimEnd_cons (character : Char) (rest : List Char) :
    trimEnd (character :: rest) =
      if trimEnd rest = [] ∧ isWhiteSpace character = true then []
      else character :: trimEnd rest := by
  rw [trimEnd, trimEnd, List.reverse_cons, trimStart, List.dropWhile_append, ← trimStart]
  cases trimStart rest.reverse with
  | nil => cases blank : isWhiteSpace character <;> simp [blank]
  | cons last others => simp

theorem trimEnd_cons_of_visible {character : Char} (visible : isWhiteSpace character = false)
    (rest : List Char) : trimEnd (character :: rest) = character :: trimEnd rest := by
  rw [trimEnd_cons, if_neg (by simp [visible])]

/-- A text of white space disappears from either end. -/
theorem trimEnd_eq_nil_iff (text : List Char) : trimEnd text = [] ↔ trimStart text = [] := by
  induction text with
  | nil => exact iff_of_true rfl rfl
  | cons character rest inductionHypothesis =>
      rw [trimEnd_cons]
      cases blank : isWhiteSpace character with
      | true => simpa [trimStart, blank] using inductionHypothesis
      | false => simp [trimStart, blank]

/-- Only a text of white space is empty when it is trimmed. -/
theorem trim_eq_nil_iff (text : List Char) : trim text = [] ↔ trimStart text = [] := by
  rw [trim, trimEnd_eq_nil_iff, trimStart_trimStart]

namespace IsTrimmed

variable {text : List Char}

theorem trim_eq (trimmed : IsTrimmed text) : trim text = text := by
  rw [trim, trimmed.start, trimmed.finish]

theorem trimStart_reverse (trimmed : IsTrimmed text) : trimStart text.reverse = text.reverse :=
  List.reverse_eq_iff.mp trimmed.finish

/-- Only the outer characters of two texts in a row matter. -/
theorem append {first : List Char} (filled : first ≠ []) (start : trimStart first = first)
    (trimmed : IsTrimmed text) : IsTrimmed (first ++ text) := by
  have reversed := trimmed.trimStart_reverse
  constructor
  case filled => exact List.append_ne_nil_of_left_ne_nil filled text
  case start => rw [trimStart_append (start.symm ▸ filled), start]
  case finish =>
    rw [trimEnd, List.reverse_append, trimStart_append, reversed, List.reverse_append,
      List.reverse_reverse, List.reverse_reverse]
    rw [reversed]
    exact List.reverse_ne_nil_iff.mpr trimmed.filled

end IsTrimmed

/-- A character that separates words belongs to none of them. -/
theorem words_append_cons {separator : Char} (blank : isWhiteSpace separator = true)
    (first second : List Char) :
    words (first ++ separator :: second) = words first ++ words second := by
  rw [words, List.splitOnP_append_cons first second blank, List.filter_append]
  rfl

namespace IsWord

variable {text : List Char}

theorem reverse (word : IsWord text) : IsWord text.reverse where
  filled := List.reverse_ne_nil_iff.mpr word.filled
  visible character member := word.visible character (List.mem_reverse.mp member)

theorem trimStart_eq (word : IsWord text) : trimStart text = text := by
  obtain ⟨character, rest, rfl⟩ := List.exists_cons_of_ne_nil word.filled
  exact trimStart_of_head rest (word.visible character List.mem_cons_self)

theorem isTrimmed (word : IsWord text) : IsTrimmed text where
  filled := word.filled
  start := word.trimStart_eq
  finish := List.reverse_eq_iff.mpr word.reverse.trimStart_eq

theorem words_eq (word : IsWord text) : words text = [text] := by
  rw [words, List.splitOnP_eq_singleton word.visible]
  exact List.filter_eq_self.mpr (by simpa using word.filled)

end IsWord

/-- The words of a text contain no white space. -/
theorem isWord_of_mem_words {text word : List Char} (member : word ∈ words text) :
    IsWord word := by
  refine ⟨word_ne_nil member, ?_⟩
  have piece : word ∈ text.splitOnP isWhiteSpace := (List.mem_filter.mp member).1
  clear member
  induction text generalizing word with
  | nil => simp_all
  | cons character rest inductionHypothesis =>
      rw [List.splitOnP_cons_eq_if_modifyHead] at piece
      split at piece
      next =>
          rcases List.mem_cons.mp piece with rfl | later
          · simp
          · exact inductionHypothesis later
      next visible =>
          -- The character joins the first of the pieces that follow.
          obtain ⟨first, others, pieces⟩ :=
            List.exists_cons_of_ne_nil (List.splitOnP_ne_nil isWhiteSpace rest)
          rw [pieces] at piece inductionHypothesis
          rcases List.mem_cons.mp piece with rfl | later
          · exact List.forall_mem_cons.mpr
              ⟨by simpa using visible, inductionHypothesis List.mem_cons_self⟩
          · exact inductionHypothesis (List.mem_cons_of_mem _ later)

/-- A space separates two words. -/
theorem words_pair {first second : List Char} (firstWord : IsWord first)
    (secondWord : IsWord second) : words (first ++ ' ' :: second) = [first, second] := by
  rw [words_append_cons (by decide), firstWord.words_eq, secondWord.words_eq]
  rfl

end TraceCalc.Text
