/-
This file shows for which lines the first word decides the command, and for which lines a mark in
front changes it.
-/

import TraceCalc.Proofs.Session.Agreement
import TraceCalc.Unicode.Disjoint

namespace TraceCalc

open Unicode

namespace Text

/-- A text falls apart where its first word ends. -/
structure IsDivided (word rest : List Char) : Prop where
  visible : ∀ character ∈ word, isWhiteSpace character = false
  blank : ∀ character ∈ rest.head?, isWhiteSpace character = true

theorem IsDivided.tail {character : Char} {word rest : List Char}
    (divided : IsDivided (character :: word) rest) : IsDivided word rest :=
  ⟨fun other member => divided.visible other (List.mem_cons_of_mem _ member), divided.blank⟩

end Text

namespace Command

open Text

/-- A word spells a keyword in any case of ASCII letters. -/
def Spells (word keyword : List Char) : Prop := word.map Char.toLower = keyword

instance (word keyword : List Char) : Decidable (Spells word keyword) :=
  inferInstanceAs (Decidable (_ = _))

/-- The first word of a line ends where the next white space begins. -/
def word (line : String) : List Char :=
  (trim line.toList).takeWhile fun character => !isWhiteSpace character

/-- The operands of a line begin with the white space behind the first word. -/
def operands (line : String) : List Char :=
  (trim line.toList).dropWhile fun character => !isWhiteSpace character

theorem word_append_operands (line : String) : word line ++ operands line = trim line.toList :=
  List.takeWhile_append_dropWhile

theorem isDivided_word (line : String) : IsDivided (word line) (operands line) := by
  constructor
  case visible =>
    intro character member
    simpa using List.mem_takeWhile_imp member
  case blank =>
    intro character found
    have behind := List.head?_dropWhile_not (fun character => !isWhiteSpace character)
      (trim line.toList)
    rw [← operands, found] at behind
    simpa using behind

section Division

variable {keyword word rest : List Char}

@[simp] theorem startsWith_nil (text : List Char) : startsWith [] text = true := rfl

@[simp] theorem startsWith_cons_nil (first : Char) (keyword : List Char) :
    startsWith (first :: keyword) [] = false := rfl

@[simp] theorem startsWith_cons_cons (first character : Char) (keyword text : List Char) :
    startsWith (first :: keyword) (character :: text) =
      (character.toLower == first && startsWith keyword text) := by
  simp [startsWith]

/-- No keyword begins with white space. -/
theorem startsWith_eq_false_of_blank {first : Char} (letter : isWhiteSpace first = false)
    (blank : ∀ character ∈ rest.head?, isWhiteSpace character = true) :
    startsWith (first :: keyword) rest = false := by
  cases rest with
  | nil => rfl
  | cons character rest =>
      have different : character.toLower ≠ first := by
        rintro rfl
        rw [isWhiteSpace_toLower, blank character rfl] at letter
        simp at letter
      simp [different]

/-- White space does not take part in a keyword. -/
theorem startsWith_append (divided : IsDivided word rest)
    (letters : ∀ character ∈ keyword, isWhiteSpace character = false) :
    startsWith keyword (word ++ rest) = startsWith keyword word := by
  induction keyword generalizing word with
  | nil => rfl
  | cons first keyword inductionHypothesis =>
      obtain ⟨letter, letters⟩ := List.forall_mem_cons.mp letters
      cases word with
      | nil => exact startsWith_eq_false_of_blank letter divided.blank
      | cons character word =>
          rw [List.cons_append, startsWith_cons_cons, startsWith_cons_cons,
            inductionHypothesis divided.tail letters]

theorem toLower_eq_space_iff (character : Char) : character.toLower = ' ' ↔ character = ' ' := by
  constructor
  · intro lowered
    have blank : isWhiteSpace character = true := by
      rw [← isWhiteSpace_toLower, lowered]
      decide
    rw [← lowered, toLower_of_isWhiteSpace blank]
  · rintro rfl
    rfl

/-- A keyword with a space behind it is the whole first word, and the space ends this word. -/
theorem startsWith_concat_space_iff (divided : IsDivided word rest)
    (letters : ∀ character ∈ keyword, isWhiteSpace character = false) :
    startsWith (keyword ++ [' ']) (word ++ rest) = true ↔
      Spells word keyword ∧ rest.head? = some ' ' := by
  induction keyword generalizing word with
  | nil =>
      cases word with
      | nil => cases rest <;> simp [Spells, toLower_eq_space_iff]
      | cons character word =>
          have different : character ≠ ' ' := by
            rintro rfl
            exact absurd (divided.visible ' ' List.mem_cons_self) (by decide)
          simp [Spells, toLower_eq_space_iff, different]
  | cons first keyword inductionHypothesis =>
      obtain ⟨letter, letters⟩ := List.forall_mem_cons.mp letters
      cases word with
      | nil =>
          have short : startsWith (first :: (keyword ++ [' '])) rest = false :=
            startsWith_eq_false_of_blank letter divided.blank
          simp [Spells, short]
      | cons character word =>
          simp [Spells, inductionHypothesis divided.tail letters, and_assoc]

/-- Nothing stands behind a keyword that is the whole text. -/
theorem afterKeyword?_eq_some_nil_iff (keyword text : List Char) :
    afterKeyword? keyword text = some [] ↔ Spells text keyword := by
  induction keyword generalizing text with
  | nil => simp [afterKeyword?, Spells]
  | cons first keyword inductionHypothesis =>
      cases text with
      | nil => simp [afterKeyword?, Spells]
      | cons character text =>
          by_cases same : character.toLower = first
          · simpa [afterKeyword?, Spells, same] using inductionHypothesis text
          · simp [afterKeyword?, Spells, same]

/-- A text that spells a keyword has no white space behind its first word. -/
theorem spells_append_iff (divided : IsDivided word rest)
    (letters : ∀ character ∈ keyword, isWhiteSpace character = false) :
    Spells (word ++ rest) keyword ↔ Spells word keyword ∧ rest = [] := by
  cases rest with
  | nil => simp
  | cons character rest =>
      refine iff_of_false ?_ (by simp)
      rintro rfl
      have letter := letters character.toLower (by simp)
      rw [isWhiteSpace_toLower, divided.blank character rfl] at letter
      simp at letter

/-- The first word and what follows it decide the command of a content. -/
theorem ofContent_append (divided : IsDivided word rest) (filled : word ++ rest ≠ []) :
    ofContent (word ++ rest) =
      if startsWith ['e', 'x', 'p', 'r'] word then ofExpression ((word ++ rest).drop 4)
      else if Spells word ['s', 'e', 't'] ∧ rest.head? = some ' ' then ofAssignment rest.tail
      else if Spells word ['d', 'o'] ∧ rest = [] then .execute
      else if Spells word ['e', 'x', 'i', 't'] ∧ rest = [] then .exit
      else .unknown := by
  have expr : IsWord ['e', 'x', 'p', 'r'] := by decide
  have set : IsWord ['s', 'e', 't'] := by decide
  have exit : IsWord ['e', 'x', 'i', 't'] := by decide
  have doing : IsWord ['d', 'o'] := by decide
  have assignment : startsWith ['s', 'e', 't', ' '] (word ++ rest) = true ↔
      Spells word ['s', 'e', 't'] ∧ rest.head? = some ' ' :=
    startsWith_concat_space_iff divided set.visible
  have operands (spelled : Spells word ['s', 'e', 't']) : (word ++ rest).drop 4 = rest.tail := by
    have length : word.length = 3 := by simpa using congrArg List.length spelled
    rw [List.drop_append, length, List.drop_of_length_le (by omega), List.nil_append]
    exact List.drop_one
  rw [ofContent, List.isEmpty_eq_false_iff.mpr filled, afterKeyword?_eq, afterKeyword?_eq,
    startsWith_append divided expr.visible]
  simp only [assignment, afterKeyword?_eq_some_nil_iff, spells_append_iff divided doing.visible,
    spells_append_iff divided exit.visible]
  split_ifs <;> simp_all

end Division

/-- A word that spells one keyword starts with another one if that one is the start of the first. -/
theorem startsWith_of_spells {word other : List Char} (spelled : Spells word other)
    (keyword : List Char) : startsWith keyword word = (other.take keyword.length == keyword) := by
  rw [startsWith, List.map_take, spelled]

theorem ofExpression_ne_unknown (operand : List Char) : ofExpression operand ≠ .unknown := by
  rw [ofExpression]
  split <;> simp

theorem ofAssignment_ne_unknown (operands : List Char) : ofAssignment operands ≠ .unknown := by
  rw [ofAssignment]
  split
  next => split <;> simp
  next => simp

/-- Only the words of the operands matter for an assignment. -/
theorem ofAssignment_congr {operands others : List Char} (same : words operands = words others) :
    ofAssignment operands = ofAssignment others := by
  rw [ofAssignment, ofAssignment, same]

theorem ofAssignment_of_length_ne {operands : List Char} (count : (words operands).length ≠ 2) :
    ofAssignment operands = .assignmentUsage := by
  rw [ofAssignment]
  split
  next pair => simp [pair] at count
  next => rfl

/-- A line with single spaces assigns like the operands with the same words. -/
theorem ofLine_of_words_eq_pair {operands name value : List Char}
    (pair : words operands = [name, value]) :
    ofLine (String.ofList (['s', 'e', 't', ' '] ++ (name ++ ' ' :: value))) =
      ofAssignment operands := by
  have nameIsWord : IsWord name := isWord_of_mem_words (by rw [pair]; simp)
  have valueIsWord : IsWord value := isWord_of_mem_words (by rw [pair]; simp)
  rw [ofAssignment, pair]
  exact ofLine_assignment nameIsWord valueIsWord

section Unmarked

variable {line : String} (filled : trim line.toList ≠ [])
  (unmarked : (trim line.toList).head? ≠ some byteOrderMark)

include filled unmarked

/-- A line without a mark is divided into its first word and the operands. -/
theorem ofLine_eq_ofWord : ofLine line =
    if startsWith ['e', 'x', 'p', 'r'] (word line) then
      ofExpression ((word line ++ operands line).drop 4)
    else if Spells (word line) ['s', 'e', 't'] ∧ (operands line).head? = some ' ' then
      ofAssignment (operands line).tail
    else if Spells (word line) ['d', 'o'] ∧ operands line = [] then .execute
    else if Spells (word line) ['e', 'x', 'i', 't'] ∧ operands line = [] then .exit
    else .unknown := by
  rw [← ofContent_append (isDivided_word line) (by rwa [word_append_operands]), ofLine, content,
    word_append_operands]
  obtain ⟨character, rest, split⟩ := List.exists_cons_of_ne_nil filled
  rw [split] at unmarked ⊢
  rw [List.dropWhile_cons_of_neg (by simpa using unmarked)]

/-- The keyword of an expression may be the start of a longer word. -/
theorem ofLine_of_startsWith_expr (found : startsWith ['e', 'x', 'p', 'r'] (word line) = true) :
    ofLine line = ofExpression ((word line ++ operands line).drop 4) := by
  rw [ofLine_eq_ofWord filled unmarked, if_pos found]

theorem ofLine_of_spells_expr (spelled : Spells (word line) ['e', 'x', 'p', 'r']) :
    ofLine line = ofExpression (operands line) := by
  have length : (word line).length = 4 := by simpa using congrArg List.length spelled
  rw [ofLine_of_startsWith_expr filled unmarked (startsWith_of_spells spelled _),
    ← length, List.drop_left]

/-- The keyword of an assignment needs a plain space. -/
theorem ofLine_of_spells_set (spelled : Spells (word line) ['s', 'e', 't']) :
    ofLine line = if (operands line).head? = some ' ' then ofAssignment (operands line)
      else .unknown := by
  have different {keyword : List Char} (other : keyword ≠ ['s', 'e', 't']) :
      ¬ Spells (word line) keyword := fun found => other (found.symm.trans spelled)
  have noExpression : startsWith ['e', 'x', 'p', 'r'] (word line) = false :=
    startsWith_of_spells spelled _
  rw [ofLine_eq_ofWord filled unmarked, noExpression, if_neg Bool.false_ne_true]
  by_cases space : (operands line).head? = some ' '
  · obtain ⟨rest, split⟩ := List.head?_eq_some_iff.mp space
    have same : words (' ' :: rest) = words rest := words_append_cons (by decide) [] rest
    rw [if_pos ⟨spelled, space⟩, if_pos space, split]
    exact (ofAssignment_congr same).symm
  · rw [if_neg fun found => space found.2, if_neg fun found => different (by decide) found.1,
      if_neg fun found => different (by decide) found.1, if_neg space]

/-- A word that is no keyword and starts no expression is unknown. -/
theorem ofLine_eq_unknown (noExpression : startsWith ['e', 'x', 'p', 'r'] (word line) = false)
    (noAssignment : ¬ Spells (word line) ['s', 'e', 't'])
    (noExecution : ¬ Spells (word line) ['d', 'o'])
    (noExit : ¬ Spells (word line) ['e', 'x', 'i', 't']) : ofLine line = .unknown := by
  rw [ofLine_eq_ofWord filled unmarked, noExpression, if_neg Bool.false_ne_true,
    if_neg fun found => noAssignment found.1, if_neg fun found => noExecution found.1,
    if_neg fun found => noExit found.1]

end Unmarked

section Mark

/-- White space in front of a content hides every keyword. -/
theorem ofContent_of_blank {character : Char} (blank : isWhiteSpace character = true)
    (rest : List Char) : ofContent (character :: rest) = .unknown := by
  have divided : IsDivided [] (character :: rest) :=
    ⟨by simp, fun other found => Option.some.inj found ▸ blank⟩
  have command := ofContent_append divided (List.cons_ne_nil _ _)
  rw [List.nil_append] at command
  rw [command]
  simp [Spells]

/-- A mark keeps the white space behind it at the start of the line. -/
theorem ofLine_mark (line : String) : ofLine ("\uFEFF" ++ line) =
    ofContent ((trimEnd line.toList).dropWhile (· == byteOrderMark)) := by
  have visible : isWhiteSpace byteOrderMark = false := by decide
  have characters : ("\uFEFF" ++ line).toList = byteOrderMark :: line.toList :=
    String.toList_append
  rw [ofLine, content, characters, trim, trimStart_of_head _ visible,
    trimEnd_cons_of_visible visible, List.dropWhile_cons_of_pos (by simp)]

variable {line : String}

theorem ofLine_mark_of_start (start : trimStart line.toList = line.toList) :
    ofLine ("\uFEFF" ++ line) = ofLine line := by
  rw [ofLine_mark, ofLine, content, trim, start]

theorem ofLine_mark_of_blank (blank : trim line.toList = []) :
    ofLine ("\uFEFF" ++ line) = ofLine line := by
  have finish := (trimEnd_eq_nil_iff _).mpr ((trim_eq_nil_iff _).mp blank)
  rw [ofLine_mark, ofLine, content, blank, finish]

/-- White space between a mark and something visible makes the line unknown. -/
theorem ofLine_mark_of_space (space : trimStart line.toList ≠ line.toList)
    (filled : trim line.toList ≠ []) : ofLine ("\uFEFF" ++ line) = .unknown := by
  rw [ofLine_mark]
  generalize line.toList = text at space filled
  cases text with
  | nil => exact absurd rfl space
  | cons character rest =>
      have blank : isWhiteSpace character = true := by
        by_contra visible
        exact space (trimStart_of_head rest (Bool.eq_false_iff.mpr visible))
      have unmarked : character ≠ byteOrderMark := by
        rintro rfl
        exact absurd blank (by decide)
      have kept : trimEnd (character :: rest) = character :: trimEnd rest := by
        rw [trimEnd_cons, if_neg]
        rintro ⟨empty, _⟩
        apply filled
        rw [trim_eq_nil_iff, ← trimEnd_eq_nil_iff, trimEnd_cons, if_pos ⟨empty, blank⟩]
      rw [kept, List.dropWhile_cons_of_neg (by simpa using unmarked)]
      exact ofContent_of_blank blank _

end Mark

end Command

namespace Session

open Command

/-- No other command is answered like an unknown one. -/
theorem obey_eq_unknown_iff (session : Session) (command : Command) :
    session.obey command = (session, ⟨[], .unknownCommand⟩) ↔ command = .unknown := by
  refine ⟨fun answered => ?_, fun unknown => by rw [unknown]; rfl⟩
  have reply := congrArg (fun result => result.2.reply) answered
  cases command with
  | unknown => rfl
  | expression source =>
      rw [obey, define] at reply
      cases built : Program.build source <;> simp [built] at reply
  | execute =>
      rw [obey, execute] at reply
      cases stored : session.program with
      | none => simp [stored] at reply
      | some program =>
          cases outcome : (session.environment.run program).result <;>
            simp [stored, outcome] at reply
  | blank => simp [obey] at reply
  | expressionUsage => simp [obey] at reply
  | assignment name value => simp [obey, assign] at reply
  | assignmentUsage => simp [obey] at reply
  | invalidInteger => simp [obey] at reply
  | exit => simp [obey] at reply

/-- The first word of a line alone decides what the line does. -/
structure FollowsFirstWord (session : Session) (line : String) : Prop where
  assignment : Spells (word line) ['s', 'e', 't'] →
    ∀ name value, Text.words (operands line) = [name, value] →
      session.handle line =
        session.handle (String.ofList (['s', 'e', 't', ' '] ++ (name ++ ' ' :: value)))
  assignmentUsage : Spells (word line) ['s', 'e', 't'] →
    (Text.words (operands line)).length ≠ 2 →
      session.handle line = (session, ⟨[], .assignmentUsage⟩)
  expression : Spells (word line) ['e', 'x', 'p', 'r'] → session.handle line =
    match sourceOf? (operands line) with
    | some source => session.define source
    | none => (session, ⟨[], .expressionUsage⟩)
  unknown : ¬ Spells (word line) ['e', 'x', 'p', 'r'] → ¬ Spells (word line) ['s', 'e', 't'] →
    ¬ Spells (word line) ['d', 'o'] → ¬ Spells (word line) ['e', 'x', 'i', 't'] →
      session.handle line = (session, ⟨[], .unknownCommand⟩)

theorem obey_ofExpression_eq (session : Session) (operand : List Char) :
    session.obey (ofExpression operand) =
      match sourceOf? operand with
      | some source => session.define source
      | none => (session, ⟨[], .expressionUsage⟩) := by
  rw [ofExpression, sourceOf?]
  split <;> rfl

section FirstWord

variable {session : Session} {line : String} (filled : Text.trim line.toList ≠ [])
  (unmarked : (Text.trim line.toList).head? ≠ some byteOrderMark)

include filled unmarked

/-- Without a plain space, not even the usage of an assignment is answered. -/
theorem FollowsFirstWord.head?_operands (follows : session.FollowsFirstWord line)
    (set : Spells (word line) ['s', 'e', 't']) : (operands line).head? = some ' ' := by
  by_contra noSpace
  have command := ofLine_of_spells_set filled unmarked set
  rw [if_neg noSpace] at command
  have answered : session.handle line = (session, ⟨[], .unknownCommand⟩) :=
    (session.obey_eq_unknown_iff _).mpr command
  -- With two operands the line with single spaces is an assignment, else the usage is missing.
  by_cases pair : ∃ name value, Text.words (operands line) = [name, value]
  · obtain ⟨name, value, pair⟩ := pair
    have same := follows.assignment set name value pair
    rw [answered, handle, ofLine_of_words_eq_pair pair] at same
    exact ofAssignment_ne_unknown _ ((session.obey_eq_unknown_iff _).mp same.symm)
  · have usage := follows.assignmentUsage set fun count => pair (List.length_eq_two.mp count)
    rw [answered] at usage
    simp at usage

/-- A longer word is not unknown, although it should be. -/
theorem FollowsFirstWord.spells_expr (follows : session.FollowsFirstWord line)
    (found : startsWith ['e', 'x', 'p', 'r'] (word line) = true) :
    Spells (word line) ['e', 'x', 'p', 'r'] := by
  by_contra longer
  have different {keyword : List Char}
      (other : (keyword.take 4 == ['e', 'x', 'p', 'r']) = false) :
      ¬ Spells (word line) keyword := by
    intro spelled
    rw [startsWith_of_spells spelled] at found
    exact Bool.false_ne_true (other.symm.trans found)
  have answered := follows.unknown longer (different (by decide)) (different (by decide))
    (different (by decide))
  rw [handle, obey_eq_unknown_iff, ofLine_of_startsWith_expr filled unmarked found] at answered
  exact ofExpression_ne_unknown _ answered

/-- Where neither defect occurs, each kind of first word has its command. -/
theorem followsFirstWord_of_space
    (space : Spells (word line) ['s', 'e', 't'] → (operands line).head? = some ' ')
    (whole : startsWith ['e', 'x', 'p', 'r'] (word line) = true →
      Spells (word line) ['e', 'x', 'p', 'r']) : session.FollowsFirstWord line := by
  constructor
  case assignment =>
    intro set name value pair
    rw [handle, handle, ofLine_of_spells_set filled unmarked set, if_pos (space set),
      ofLine_of_words_eq_pair pair]
  case assignmentUsage =>
    intro set count
    rw [handle, ofLine_of_spells_set filled unmarked set, if_pos (space set),
      ofAssignment_of_length_ne count]
    rfl
  case expression =>
    intro spelled
    rw [handle, ofLine_of_spells_expr filled unmarked spelled, obey_ofExpression_eq]
  case unknown =>
    intro noExpression noAssignment noExecution noExit
    have notStart : startsWith ['e', 'x', 'p', 'r'] (word line) = false :=
      Bool.eq_false_iff.mpr fun found => noExpression (whole found)
    rw [handle, ofLine_eq_unknown filled unmarked notStart noAssignment noExecution noExit]
    rfl

end FirstWord

/--
Among the lines without a mark, the first word fails to decide in two cases only: behind the
keyword of an assignment there is no plain space, or the keyword of an expression goes on as a
longer word.
-/
theorem followsFirstWord_iff (session : Session) {line : String}
    (filled : Text.trim line.toList ≠ [])
    (unmarked : (Text.trim line.toList).head? ≠ some byteOrderMark) :
    session.FollowsFirstWord line ↔
      (Spells (word line) ['s', 'e', 't'] → (operands line).head? = some ' ') ∧
        (startsWith ['e', 'x', 'p', 'r'] (word line) = true →
          Spells (word line) ['e', 'x', 'p', 'r']) :=
  ⟨fun follows => ⟨follows.head?_operands filled unmarked, follows.spells_expr filled unmarked⟩,
    fun ⟨space, whole⟩ => followsFirstWord_of_space filled unmarked space whole⟩

/-- Other white space than the plain space is allowed everywhere but behind the first word. -/
theorem followsFirstWord_iff_of_spaces :
    let session := (Session.empty.assign "x" 3).1
    let spaced := " SET \t x\u00A0+7 "
    let longer := "expression x"
    (Text.trim spaced.toList ≠ [] ∧ (Text.trim spaced.toList).head? ≠ some byteOrderMark ∧
      session.handle spaced = session.handle "set x +7") ∧
    (Text.trim longer.toList ≠ [] ∧ (Text.trim longer.toList).head? ≠ some byteOrderMark ∧
      ¬ session.FollowsFirstWord longer) := by
  intro session spaced longer
  have spacedFilled : Text.trim spaced.toList ≠ [] := by decide +kernel
  have spacedUnmarked : (Text.trim spaced.toList).head? ≠ some byteOrderMark := by decide +kernel
  have longerFilled : Text.trim longer.toList ≠ [] := by decide +kernel
  have longerUnmarked : (Text.trim longer.toList).head? ≠ some byteOrderMark := by decide +kernel
  have follows := (session.followsFirstWord_iff spacedFilled spacedUnmarked).mpr
    ⟨fun _ => by decide +kernel, fun found => absurd found (by decide +kernel)⟩
  refine ⟨⟨spacedFilled, spacedUnmarked, ?_⟩, longerFilled, longerUnmarked, fun failing => ?_⟩
  · exact follows.assignment (by decide +kernel) ['x'] ['+', '7'] (by decide +kernel)
  · have whole := ((session.followsFirstWord_iff longerFilled longerUnmarked).mp failing).2
    exact absurd (whole (by decide +kernel)) (by decide +kernel)

/-- A bare keyword, a tab behind a keyword and a longer word are not what their first word says. -/
theorem not_followsFirstWord :
    ¬ Session.empty.FollowsFirstWord "set" ∧ ¬ Session.empty.FollowsFirstWord "set\tx\t1" ∧
      ¬ Session.empty.FollowsFirstWord "express" := by
  refine ⟨fun follows => ?_, fun follows => ?_, fun follows => ?_⟩
  · exact absurd (follows.assignmentUsage (by decide +kernel) (by decide +kernel))
      (by decide +kernel)
  · exact absurd (follows.assignment (by decide +kernel) ['x'] ['1'] (by decide +kernel))
      (by decide +kernel)
  · have answered := follows.unknown (by decide +kernel) (by decide +kernel) (by decide +kernel)
      (by decide +kernel)
    exact absurd ((Session.empty.obey_eq_unknown_iff _).mp answered) (by decide +kernel)

/--
A mark in front of a line changes what the line does exactly if white space stands behind the mark
and the line without the mark is a command.
-/
theorem handle_mark_iff (session : Session) (line : String) :
    session.handle ("\uFEFF" ++ line) = session.handle line ↔
      Text.trimStart line.toList = line.toList ∨ Text.trim line.toList = [] ∨
        ofLine line = .unknown := by
  by_cases start : Text.trimStart line.toList = line.toList
  · rw [handle, handle, ofLine_mark_of_start start]
    exact iff_of_true rfl (.inl start)
  by_cases blank : Text.trim line.toList = []
  · rw [handle, handle, ofLine_mark_of_blank blank]
    exact iff_of_true rfl (.inr (.inl blank))
  · have answered := (session.obey_eq_unknown_iff _).mpr (ofLine_mark_of_space start blank)
    rw [handle, answered, eq_comm, handle, obey_eq_unknown_iff]
    simp only [start, blank, false_or]

/-- A space behind the mark hides the command. -/
theorem handle_mark_ne : Session.empty.handle "\uFEFF do" ≠ Session.empty.handle " do" := by
  decide +kernel

end Session

end TraceCalc
