/-
This file shows that the tokens of a source are the only ones that fit it.
-/

import TraceCalc.Proofs.Token.Longest

namespace TraceCalc

open Unicode

/-- Positions count the bytes of the characters before them. -/
def byteCount (characters : List Char) : Nat := (String.ofList characters).utf8ByteSize

@[simp] theorem byteCount_nil : byteCount [] = 0 := rfl

@[simp] theorem byteCount_cons (character : Char) (rest : List Char) :
    byteCount (character :: rest) = character.utf8Size + byteCount rest :=
  utf8ByteSize_ofList_cons character rest

@[simp] theorem byteCount_append (first second : List Char) :
    byteCount (first ++ second) = byteCount first + byteCount second := by
  rw [byteCount, String.ofList_append, String.utf8ByteSize_append, byteCount, byteCount]

@[simp] theorem byteCount_toList (text : String) : byteCount text.toList = text.utf8ByteSize := by
  rw [byteCount, String.ofList_toList]

/-- Only the empty text has no bytes. -/
theorem eq_nil_of_byteCount_le_zero {characters : List Char} (none : byteCount characters ≤ 0) :
    characters = [] := by
  cases characters with
  | nil => rfl
  | cons character rest =>
      have size := character.utf8Size_pos
      rw [byteCount_cons] at none
      omega

/-- Of two starts of one text, the one with fewer bytes is a start of the other. -/
theorem exists_eq_append_of_byteCount_le {first second rest remaining : List Char}
    (split : first ++ rest = second ++ remaining) (le : byteCount first ≤ byteCount second) :
    ∃ between, second = first ++ between ∧ rest = between ++ remaining := by
  rcases List.append_eq_append_iff.mp split with ⟨between, rfl, rfl⟩ | ⟨between, rfl, rfl⟩
  · exact ⟨between, rfl, rfl⟩
  · rw [byteCount_append] at le
    have empty : between = [] := eq_nil_of_byteCount_le_zero (by omega)
    exact ⟨[], by simp [empty], by simp [empty]⟩

namespace Token

/-- A token ends behind the last byte of its text. -/
def stop (token : Token) : Nat := token.position + token.lexeme.text.utf8ByteSize

theorem stop_mk (before : List Char) (lexeme : Lexeme) :
    (Token.mk lexeme (byteCount before)).stop = byteCount (before ++ lexeme.text.toList) := by
  rw [byteCount_append, byteCount_toList, stop]

/-- The text of the token stands at its position, and no longer text of its kind stands there. -/
def IsPlaced (before rest : List Char) (token : Token) : Prop :=
  ∃ left right, rest = left ++ (token.lexeme.text.toList ++ right) ∧
    token.position = byteCount (before ++ left) ∧ token.lexeme.IsProper ∧
    (∀ last ∈ (before ++ left).getLast?, token.lexeme.continuesBehind last = false) ∧
    token.lexeme.IsLongest right

/-- The bytes of the text lie in some token, except those of its white space. -/
def Cover (before rest : List Char) (tokens : List Token) : Prop :=
  ∀ left character right, rest = left ++ character :: right →
    ∀ byte, byteCount (before ++ left) ≤ byte →
      byte < byteCount (before ++ left) + character.utf8Size →
      ((∃ token ∈ tokens, token.position ≤ byte ∧ byte < token.stop) ↔
        isWhiteSpace character = false)

/--
The tokens fit the text behind the characters that were read before it: they end with the only end
of the source, each is a longest one in its place, they follow each other without an overlap, and
they cover the text except its white space.
-/
structure Tokenizes (before rest : List Char) (tokens : List Token) : Prop where
  ended : ∃ inner, tokens = inner ++ [finish (byteCount (before ++ rest))] ∧
    ∀ token ∈ inner, token.lexeme ≠ .finish
  placed : ∀ token ∈ tokens, token.IsPlaced before rest
  ordered : tokens.Pairwise fun first second =>
    first.position < second.position ∧ first.stop ≤ second.position
  covered : Cover before rest tokens

section Placement

variable {before text rest : List Char} {token : Token}

theorem IsPlaced.le_position (placed : token.IsPlaced before rest) :
    byteCount before ≤ token.position := by
  obtain ⟨left, right, _, position, _⟩ := placed
  rw [position, byteCount_append]
  exact Nat.le_add_right _ _

/-- A token of the source takes at least one byte. -/
theorem position_lt_stop (proper : token.lexeme.IsProper) (notFinish : token.lexeme ≠ .finish) :
    token.position < token.stop := by
  obtain ⟨first, tail, spelled⟩ := proper.exists_text_eq_cons notFinish
  have size := first.utf8Size_pos
  rw [stop, ← byteCount_toList, spelled, byteCount_cons]
  omega

/-- A token stands in the later part of a text exactly when it starts there. -/
theorem isPlaced_append_iff : token.IsPlaced (before ++ text) rest ↔
    token.IsPlaced before (text ++ rest) ∧ byteCount (before ++ text) ≤ token.position := by
  constructor
  · intro placed
    refine ⟨?_, placed.le_position⟩
    obtain ⟨left, right, split, position, proper, start, longest⟩ := placed
    rw [List.append_assoc] at position start
    exact ⟨text ++ left, right, by rw [split, List.append_assoc], position, proper, start, longest⟩
  · rintro ⟨⟨left, right, split, position, proper, start, longest⟩, le⟩
    rw [position, byteCount_append, byteCount_append] at le
    obtain ⟨between, rfl, inside⟩ := exists_eq_append_of_byteCount_le split (by omega)
    rw [← List.append_assoc] at position start
    exact ⟨between, right, inside, position, proper, start, longest⟩

end Placement

section Covering

variable {before text rest : List Char} {token : Token} {tokens : List Token}

theorem Cover.nil (before : List Char) (tokens : List Token) : Cover before [] tokens := by
  intro left character right split
  simp at split

/-- Two parts of a text are covered one after the other. -/
theorem cover_append_iff : Cover before (text ++ rest) tokens ↔
    Cover before text tokens ∧ Cover (before ++ text) rest tokens := by
  constructor
  · intro covered
    constructor
    · intro left character right split
      exact covered left character (right ++ rest) (by simp [split])
    · intro left character right split
      have inside := covered (text ++ left) character right (by simp [split])
      rwa [← List.append_assoc] at inside
  · rintro ⟨first, second⟩ left character right split
    rcases List.append_eq_append_iff.mp split with ⟨between, rfl, inside⟩ | ⟨between, rfl, inside⟩
    · have later := second between character right inside
      rwa [List.append_assoc] at later
    · cases between with
      | nil =>
          have later := second [] character right inside.symm
          simpa using later
      | cons other between =>
          obtain ⟨rfl, rfl⟩ := List.cons.inj inside
          exact first left character between rfl

/-- White space is covered by tokens that all start behind it. -/
theorem cover_whiteSpace {character : Char} (blank : isWhiteSpace character = true)
    (later : ∀ token ∈ tokens, byteCount (before ++ [character]) ≤ token.position) :
    Cover before [character] tokens := by
  intro left other right split byte lower upper
  obtain ⟨rfl, rfl, rfl⟩ : left = [] ∧ character = other ∧ right = [] := by
    cases left with
    | nil => simpa [eq_comm] using split
    | cons first left => simp at split
  rw [blank]
  constructor
  · rintro ⟨token, member, start, _⟩
    have bound := later token member
    simp only [List.append_nil, byteCount_append, byteCount_cons, byteCount_nil] at bound upper
    omega
  · intro visible
    simp at visible

/-- A token covers its own text. -/
theorem cover_text {lexeme : Lexeme}
    (visible : ∀ character ∈ lexeme.text.toList, isWhiteSpace character = false) :
    Cover before lexeme.text.toList (⟨lexeme, byteCount before⟩ :: tokens) := by
  intro left character right split byte lower upper
  have inside : character ∈ lexeme.text.toList := by simp [split]
  refine ⟨fun _ => visible character inside, fun _ => ⟨_, List.mem_cons_self, ?_, ?_⟩⟩
  · rw [byteCount_append] at lower
    exact Nat.le_trans (Nat.le_add_right _ _) lower
  · have size : lexeme.text.utf8ByteSize =
        byteCount left + (character.utf8Size + byteCount right) := by
      rw [← byteCount_toList, split, byteCount_append, byteCount_cons]
    rw [byteCount_append] at upper
    change byte < byteCount before + lexeme.text.utf8ByteSize
    omega

/-- A token that ends before a text has no part in covering it. -/
theorem cover_cons_iff (earlier : token.stop ≤ byteCount before) :
    Cover before rest (token :: tokens) ↔ Cover before rest tokens := by
  have same (byte : Nat) (lower : byteCount before ≤ byte) :
      (∃ other ∈ token :: tokens, other.position ≤ byte ∧ byte < other.stop) ↔
        ∃ other ∈ tokens, other.position ≤ byte ∧ byte < other.stop := by
    constructor
    · rintro ⟨other, member, start, inside⟩
      rcases List.mem_cons.mp member with rfl | member
      · omega
      · exact ⟨other, member, start, inside⟩
    · rintro ⟨other, member, inside⟩
      exact ⟨other, List.mem_cons_of_mem _ member, inside⟩
  have start (left : List Char) (byte : Nat) (lower : byteCount (before ++ left) ≤ byte) :
      byteCount before ≤ byte := by
    rw [byteCount_append] at lower
    omega
  constructor
  · intro covered left character right split byte lower upper
    rw [← same byte (start left byte lower)]
    exact covered left character right split byte lower upper
  · intro covered left character right split byte lower upper
    rw [same byte (start left byte lower)]
    exact covered left character right split byte lower upper

end Covering

section Steps

variable {before rest remaining : List Char} {first : Char} {lexeme : Lexeme} {tokens : List Token}

/-- The end of the source starts behind everything else. -/
theorem Tokenizes.position_of_finish (fits : Tokenizes before rest tokens) {token : Token}
    (member : token ∈ tokens) (isFinish : token.lexeme = .finish) :
    token.position = byteCount (before ++ rest) := by
  obtain ⟨inner, rfl, proper⟩ := fits.ended
  rcases List.mem_append.mp member with member | member
  · exact absurd isFinish (proper token member)
  · rw [List.mem_singleton.mp member, finish]

/-- A text without characters has no token but the end. -/
theorem tokenizes_nil_iff : Tokenizes before [] tokens ↔ tokens = [finish (byteCount before)] := by
  constructor
  · intro fits
    obtain ⟨inner, rfl, notFinish⟩ := fits.ended
    cases inner with
    | nil => simp
    | cons token inner =>
        obtain ⟨left, right, split, _, proper, _⟩ := fits.placed token List.mem_cons_self
        obtain ⟨first, tail, spelled⟩ :=
          proper.exists_text_eq_cons (notFinish token List.mem_cons_self)
        simp [spelled] at split
  · rintro rfl
    refine ⟨⟨[], by simp, by simp⟩, ?_, List.pairwise_singleton _ _, Cover.nil _ _⟩
    rw [List.forall_mem_singleton]
    exact ⟨[], [], rfl, by simp [finish], trivial, fun _ _ => rfl, fun _ _ => rfl⟩

/-- No token starts at white space. -/
theorem Tokenizes.lt_position (fits : Tokenizes before (first :: rest) tokens)
    (blank : isWhiteSpace first = true) {token : Token} (member : token ∈ tokens) :
    byteCount (before ++ [first]) ≤ token.position := by
  obtain ⟨left, right, split, position, proper, _⟩ := fits.placed token member
  cases left with
  | cons other left =>
      obtain ⟨rfl, _⟩ := List.cons.inj split
      rw [position]
      simp only [byteCount_append, byteCount_cons, byteCount_nil]
      omega
  | nil =>
      by_cases isFinish : token.lexeme = .finish
      · rw [fits.position_of_finish member isFinish]
        simp only [byteCount_append, byteCount_cons, byteCount_nil]
        omega
      · obtain ⟨other, tail, spelled⟩ := proper.exists_text_eq_cons isFinish
        rw [spelled] at split
        obtain ⟨rfl, _⟩ := List.cons.inj split
        have visible := proper.isWhiteSpace_eq_false first (by simp [spelled])
        rw [blank] at visible
        simp at visible

/-- White space changes nothing but the place where the text starts. -/
theorem tokenizes_cons_of_whiteSpace (blank : isWhiteSpace first = true) :
    Tokenizes before (first :: rest) tokens ↔ Tokenizes (before ++ [first]) rest tokens := by
  have joined : before ++ first :: rest = before ++ [first] ++ rest := by simp
  constructor
  · intro fits
    refine ⟨?_, ?_, fits.ordered, ?_⟩
    · rw [← joined]
      exact fits.ended
    · intro token member
      exact isPlaced_append_iff.mpr ⟨fits.placed token member, fits.lt_position blank member⟩
    · have covered : Cover before ([first] ++ rest) tokens := fits.covered
      exact (cover_append_iff.mp covered).2
  · intro fits
    refine ⟨?_, ?_, fits.ordered, ?_⟩
    · rw [joined]
      exact fits.ended
    · intro token member
      exact (isPlaced_append_iff.mp (fits.placed token member)).1
    · have skipped : Cover before [first] tokens := cover_whiteSpace blank
        fun token member => (fits.placed token member).le_position
      exact cover_append_iff.mpr ⟨skipped, fits.covered⟩

/-- A visible character belongs to the first token, which starts there. -/
theorem Tokenizes.exists_first (fits : Tokenizes before (first :: rest) tokens)
    (visible : isWhiteSpace first = false) :
    ∃ lexeme remaining more, tokens = ⟨lexeme, byteCount before⟩ :: more ∧ lexeme ≠ .finish ∧
      lexeme.text.toList ++ remaining = first :: rest ∧ lexeme.IsProper ∧
      lexeme.IsLongest remaining := by
  have size := first.utf8Size_pos
  obtain ⟨token, member, start, inside⟩ :=
    (fits.covered [] first rest rfl (byteCount before) (by simp) (by simpa using size)).mpr visible
  have position : token.position = byteCount before :=
    Nat.le_antisymm start (fits.placed token member).le_position
  have notFinish : token.lexeme ≠ .finish := by
    intro isFinish
    rw [stop, isFinish] at inside
    change byteCount before < token.position + 0 at inside
    omega
  obtain ⟨left, right, split, place, proper, _, longest⟩ := fits.placed token member
  obtain rfl : left = [] := by
    rw [position, byteCount_append] at place
    exact eq_nil_of_byteCount_le_zero (by omega)
  cases tokens with
  | nil => simp at member
  | cons head more =>
      -- A token before this one would start before the text.
      have isHead : token = head := by
        rcases List.mem_cons.mp member with same | behind
        · exact same
        · have earlier := (List.pairwise_cons.mp fits.ordered).1 token behind
          have bound := (fits.placed head List.mem_cons_self).le_position
          omega
      refine ⟨token.lexeme, right, more, ?_, notFinish, split.symm, proper, longest⟩
      rw [← position, ← isHead]

/-- The tokens behind the first one fit the text behind it. -/
theorem Tokenizes.tail (notFinish : lexeme ≠ .finish)
    (fits : Tokenizes before (lexeme.text.toList ++ remaining)
      (⟨lexeme, byteCount before⟩ :: tokens)) :
    Tokenizes (before ++ lexeme.text.toList) remaining tokens := by
  obtain ⟨first, ordered⟩ := List.pairwise_cons.mp fits.ordered
  refine ⟨?_, ?_, ordered, ?_⟩
  · obtain ⟨inner, split, proper⟩ := fits.ended
    rw [← List.append_assoc] at split
    cases inner with
    | nil =>
        obtain ⟨same, _⟩ := List.cons.inj split
        exact absurd (congrArg Token.lexeme same) notFinish
    | cons head inner =>
        exact ⟨inner, (List.cons.inj split).2,
          fun token member => proper token (List.mem_cons_of_mem _ member)⟩
  · intro token member
    have later := (first token member).2
    rw [stop_mk] at later
    exact isPlaced_append_iff.mpr ⟨fits.placed token (List.mem_cons_of_mem _ member), later⟩
  · exact (cover_cons_iff (Nat.le_of_eq (stop_mk before lexeme))).mp
      (cover_append_iff.mp fits.covered).2

/-- A longest lexeme stands before the tokens that fit the text behind it. -/
theorem Tokenizes.cons (notFinish : lexeme ≠ .finish) (proper : lexeme.IsProper)
    (longest : lexeme.IsLongest remaining)
    (start : ∀ last ∈ before.getLast?, lexeme.continuesBehind last = false)
    (fits : Tokenizes (before ++ lexeme.text.toList) remaining tokens) :
    Tokenizes before (lexeme.text.toList ++ remaining)
      (⟨lexeme, byteCount before⟩ :: tokens) := by
  let token : Token := ⟨lexeme, byteCount before⟩
  have advance : token.position < token.stop := position_lt_stop proper notFinish
  refine ⟨?_, ?_, ?_, ?_⟩
  · obtain ⟨inner, rfl, different⟩ := fits.ended
    rw [← List.append_assoc]
    exact ⟨_ :: inner, rfl, List.forall_mem_cons.mpr ⟨notFinish, different⟩⟩
  · refine List.forall_mem_cons.mpr ⟨?_, fun token member =>
      (isPlaced_append_iff.mp (fits.placed token member)).1⟩
    exact ⟨[], remaining, rfl, by simp, proper, by simpa using start, longest⟩
  · refine List.pairwise_cons.mpr ⟨?_, fits.ordered⟩
    intro token member
    have later := (fits.placed token member).le_position
    rw [← stop_mk] at later
    exact ⟨Nat.lt_of_lt_of_le advance later, later⟩
  · exact cover_append_iff.mpr ⟨cover_text proper.isWhiteSpace_eq_false,
      (cover_cons_iff (Nat.le_of_eq (stop_mk before lexeme))).mpr fits.covered⟩

end Steps

/-- A word that was read does not go on behind the place where it ends. -/
def IsBoundary (before rest : List Char) : Prop :=
  ∀ last ∈ before.getLast?, ∀ next ∈ rest.head?,
    (last.isDigit = true → next.isDigit = false) ∧
      (isAlphabetic last = true → isNamePart next = false)

section Boundary

variable {before rest remaining : List Char} {first : Char} {lexeme : Lexeme}

theorem IsBoundary.start (rest : List Char) : IsBoundary [] rest := by
  intro last member
  simp at member

/-- White space ends every word. -/
theorem isBoundary_of_whiteSpace (blank : isWhiteSpace first = true) :
    IsBoundary (before ++ [first]) rest := by
  intro last member next _
  rw [List.getLast?_concat, Option.mem_some_iff] at member
  subst member
  have ended := Lexeme.isNamePart_eq_false_of_isWhiteSpace blank
  rw [isNamePart, Bool.or_eq_false_iff] at ended
  simp [ended]

/-- The last character of a longest lexeme lets no word go on. -/
theorem isBoundary_of_isLongest (notFinish : lexeme ≠ .finish) (proper : lexeme.IsProper)
    (longest : lexeme.IsLongest remaining) :
    IsBoundary (before ++ lexeme.text.toList) remaining := by
  obtain ⟨head, tail, spelled⟩ := proper.exists_text_eq_cons notFinish
  intro last member next behind
  have inside : last ∈ lexeme.text.toList := by
    rw [List.getLast?_append_of_ne_nil _ (by simp [spelled])] at member
    exact List.mem_of_getLast? member
  cases lexeme with
  | number digits value =>
      have digit : last.isDigit = true := proper.2.1 last inside
      refine ⟨fun _ => longest next behind, fun letter => ?_⟩
      rw [isAlphabetic_eq_false_of_isDigit digit] at letter
      simp at letter
  | identifier name =>
      have ended : isNamePart next = false := longest next behind
      exact ⟨fun _ => Lexeme.isDigit_eq_false_of_isNamePart_eq_false ended, fun _ => ended⟩
  | finish => exact absurd rfl notFinish
  | symbol _ | opening | closing =>
      have single := Lexeme.isNamePart_eq_false_of_mem_text rfl inside
      rw [isNamePart, Bool.or_eq_false_iff] at single
      simp [single]

/-- Where a word may start, the lexeme that starts there has no character of its kind before it. -/
theorem continuesBehind_eq_false (boundary : IsBoundary before (first :: rest))
    (proper : lexeme.IsProper) (split : lexeme.text.toList ++ remaining = first :: rest) :
    ∀ last ∈ before.getLast?, lexeme.continuesBehind last = false := by
  intro last member
  obtain ⟨afterDigit, afterLetter⟩ := boundary last member first rfl
  cases lexeme with
  | number digits value =>
      obtain ⟨head, tail, spelled⟩ := proper.exists_text_eq_cons (by simp)
      rw [spelled] at split
      obtain ⟨rfl, _⟩ := List.cons.inj split
      have inside : head ∈ (Lexeme.number digits value).text.toList := by
        rw [spelled]
        exact List.mem_cons_self
      have digit : head.isDigit = true := proper.2.1 head inside
      cases shared : last.isDigit with
      | false => exact shared
      | true =>
          rw [afterDigit shared] at digit
          simp at digit
  | identifier name =>
      obtain ⟨head, tail, spelled, letter, _⟩ := proper
      rw [Lexeme.text, spelled] at split
      obtain ⟨rfl, _⟩ := List.cons.inj split
      cases shared : isAlphabetic last with
      | false => exact shared
      | true =>
          have part := afterLetter shared
          rw [isNamePart, letter] at part
          simp at part
  | symbol _ | opening | closing | finish => rfl

end Boundary

section Scanning

variable {position : Nat} {before rest : List Char} {first : Char} {tokens : List Token}

/-- Where a word may start, tokens fit when the first one is read and the others fit the rest. -/
theorem tokenizes_cons_iff (visible : isWhiteSpace first = false)
    (boundary : IsBoundary before (first :: rest)) :
    Tokenizes before (first :: rest) tokens ↔
      ∃ lexeme remaining more, Lexeme.read (byteCount before) first rest = .ok (lexeme, remaining) ∧
        tokens = ⟨lexeme, byteCount before⟩ :: more ∧
        Tokenizes (before ++ lexeme.text.toList) remaining more := by
  constructor
  · intro fits
    obtain ⟨lexeme, remaining, more, rfl, notFinish, split, proper, longest⟩ :=
      fits.exists_first visible
    refine ⟨lexeme, remaining, more, ?_, rfl, ?_⟩
    · exact Lexeme.read_of_isLongest notFinish proper longest split
    · rw [← split] at fits
      exact fits.tail notFinish
  · rintro ⟨lexeme, remaining, more, found, rfl, fits⟩
    obtain ⟨notFinish, proper, longest, split⟩ := Lexeme.read_eq_ok_iff.mp found
    have start := continuesBehind_eq_false boundary proper split
    rw [← split]
    exact fits.cons notFinish proper longest start

/-- A scan succeeds when the first lexeme is read and the scan behind it succeeds. -/
theorem result_scanFrom_cons_eq_ok_iff (visible : isWhiteSpace first = false) :
    (scanFrom position (first :: rest)).result = .ok tokens ↔
      ∃ lexeme remaining more, Lexeme.read position first rest = .ok (lexeme, remaining) ∧
        tokens = ⟨lexeme, position⟩ :: more ∧
        (scanFrom (position + lexeme.text.utf8ByteSize) remaining).result = .ok more := by
  constructor
  · intro success
    cases found : Lexeme.read position first rest with
    | error error => simp [scanFrom_of_error visible found, Scan.result] at success
    | ok pair =>
        rw [scanFrom_of_ok visible found] at success
        obtain ⟨more, tailSuccess, rfl⟩ := Scan.result_cons_eq_ok success
        exact ⟨pair.1, pair.2, more, rfl, rfl, tailSuccess⟩
  · rintro ⟨lexeme, remaining, more, found, rfl, success⟩
    rw [scanFrom_of_ok visible found]
    exact Scan.result_cons_of_ok success

/-- A scan succeeds with the tokens that fit its text, and with no others. -/
theorem result_scanFrom_eq_ok_iff (boundary : IsBoundary before rest) :
    (scanFrom (byteCount before) rest).result = .ok tokens ↔ Tokenizes before rest tokens := by
  induction size : rest.length using Nat.strongRecOn generalizing before rest tokens with
  | ind count inductionHypothesis =>
      cases rest with
      | nil => rw [scanFrom_nil, tokenizes_nil_iff, Scan.result, Except.ok.injEq, eq_comm]
      | cons first rest =>
          rw [List.length_cons] at size
          cases blank : isWhiteSpace first with
          | true =>
              rw [scanFrom_of_whiteSpace blank, tokenizes_cons_of_whiteSpace blank]
              have next : (scanFrom (byteCount (before ++ [first])) rest).result = .ok tokens ↔ _ :=
                inductionHypothesis rest.length (by omega) (isBoundary_of_whiteSpace blank) rfl
              rwa [byteCount_append, byteCount_cons, byteCount_nil, Nat.add_zero] at next
          | false =>
              rw [result_scanFrom_cons_eq_ok_iff blank, tokenizes_cons_iff blank boundary]
              refine exists_congr fun lexeme => exists_congr fun remaining =>
                exists_congr fun more => and_congr_right fun found => and_congr_right fun _ => ?_
              obtain ⟨notFinish, proper, longest, _⟩ := Lexeme.read_eq_ok_iff.mp found
              have shorter := Lexeme.read_shortens found
              rw [← byteCount_toList, ← byteCount_append]
              exact inductionHypothesis remaining.length (by omega)
                (isBoundary_of_isLongest notFinish proper longest) rfl

end Scanning

end Token

end TraceCalc
