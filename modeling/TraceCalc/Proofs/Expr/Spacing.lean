/-
This file shows that white space has no meaning in the source of an expression.
-/

import Mathlib.Logic.Relation
import TraceCalc.Proofs.Expr.RoundTrip
import TraceCalc.Proofs.Expr.Canonical
import TraceCalc.Proofs.Token.Spacing

namespace TraceCalc.Expr

variable {source : String} {expr : Expr} {lexemes : List Lexeme}

/-- An expression that was read comes from a sentence of proper lexemes with spaces around them. -/
theorem exists_isSpaced_of_parse (success : parse source = .ok expr) :
    ∃ lexemes, Derives .sum lexemes expr ∧ (∀ lexeme ∈ lexemes, lexeme.IsProper) ∧
      Lexeme.IsSpaced lexemes source.toList ∧
      ∀ wider, Token.IsWidened source wider → Lexeme.IsSpaced lexemes wider.toList := by
  obtain ⟨tokens, scanned, derived⟩ := parse_eq_ok_iff.mp success
  refine ⟨_, derived, ?_, Token.isSpaced_of_ofSource scanned, fun _ widened =>
    widened.isSpaced scanned⟩
  intro lexeme member
  obtain ⟨token, taken, rfl⟩ := List.mem_map.mp member
  exact Token.isProper_of_ofSource scanned token (List.mem_append_left _ taken)

/-- A sentence is read as its expression with any white space around its lexemes. -/
theorem parse_of_isSpaced (derived : Derives .sum lexemes expr)
    (proper : ∀ lexeme ∈ lexemes, lexeme.IsProper)
    (spaced : Lexeme.IsSpaced lexemes source.toList) : parse source = .ok expr := by
  have whole : ∀ lexeme ∈ lexemes, lexeme.IsProper ∧ lexeme ≠ .finish := fun lexeme member =>
    ⟨proper lexeme member, fun isFinish => finish_notMem_of_derives derived (isFinish ▸ member)⟩
  obtain ⟨tokens, stop, success, rfl⟩ :=
    Token.exists_result_of_isSpaced spaced derived.separated whole 0
  obtain ⟨before, same, _⟩ := Token.ofSource_eq_ok success
  obtain ⟨rfl, stops⟩ := List.append_inj' same rfl
  exact parse_eq_ok_iff.mpr ⟨tokens, by rw [← stops]; exact success, derived⟩

/-- Without white space, the source of an expression is its sentence. -/
theorem compact_eq_characters (proper : ∀ lexeme ∈ lexemes, lexeme.IsProper)
    (spaced : Lexeme.IsSpaced lexemes source.toList) :
    (Text.compact source).toList = Lexeme.characters lexemes := by
  rw [Text.compact, String.toList_ofList, spaced.filter_eq_characters proper]

/-- The expression of a source is also the one of the source without its white space. -/
theorem parse_compact (success : parse source = .ok expr) :
    parse (Text.compact source) = .ok expr := by
  obtain ⟨lexemes, derived, proper, spaced, _⟩ := exists_isSpaced_of_parse success
  refine parse_of_isSpaced derived proper ?_
  rw [compact_eq_characters proper spaced]
  exact Lexeme.isSpaced_characters lexemes

/--
White space has no meaning in the source of an expression: all of it can be taken out, any of it can
be put between the tokens, and two sources that differ in it alone denote one expression.
-/
theorem parse_eq_ok_of_spacing (success : parse source = .ok expr) :
    parse (Text.compact source) = .ok expr ∧
      (∀ wider, Relation.ReflTransGen Token.IsWidened source wider → parse wider = .ok expr) ∧
      ∀ other found, parse other = .ok found → Text.compact other = Text.compact source →
        found = expr := by
  refine ⟨parse_compact success, ?_, ?_⟩
  · intro wider widened
    induction widened with
    | refl => exact success
    | tail _ widened inductionHypothesis =>
        obtain ⟨lexemes, derived, proper, _, wide⟩ := exists_isSpaced_of_parse inductionHypothesis
        exact parse_of_isSpaced derived proper (wide _ widened)
  · intro other found read same
    have compact := parse_compact read
    rw [same, parse_compact success] at compact
    exact (Except.ok.inj compact).symm

set_option maxRecDepth 8000 in
/-- A wide space may stand behind the opening parenthesis, and the space before it may go. -/
theorem parse_eq_ok_of_spacing_of_product :
    parse "-ä *(07+b)" = .ok (.binary false .times 20 (.unary false .minus (.reference false "ä"))
      (.binary true .plus 10 (.number false 7) (.reference false "b"))) ∧
    Token.IsWidened "-ä *(07+b)" "-ä *(\u300007+b)" ∧
    parse "-ä*(07+b)" = parse "-ä *(07+b)" ∧ parse "-ä *(\u300007+b)" = parse "-ä *(07+b)" := by
  have success : parse "-ä *(07+b)" = .ok (.binary false .times 20
      (.unary false .minus (.reference false "ä"))
      (.binary true .plus 10 (.number false 7) (.reference false "b"))) := by cbv
  have widened : Token.IsWidened "-ä *(07+b)" "-ä *(\u300007+b)" :=
    ⟨[⟨.symbol .minus, 0⟩, ⟨.identifier "ä", 1⟩, ⟨.symbol .times, 4⟩, ⟨.opening, 5⟩,
      ⟨.number "07" 7, 6⟩, ⟨.symbol .plus, 8⟩, ⟨.identifier "b", 9⟩, ⟨.closing, 10⟩,
      Token.finish 11], "-ä *(".toList, ['\u3000'], "07+b)".toList,
      by decide +kernel, by decide, by decide, List.forall_mem_singleton.mpr (by decide +kernel),
      by decide⟩
  have compact : Text.compact "-ä *(07+b)" = "-ä*(07+b)" := by decide
  obtain ⟨without, wide, _⟩ := parse_eq_ok_of_spacing success
  refine ⟨success, widened, ?_, ?_⟩
  · rw [success, ← compact, without]
  · rw [success, wide _ (.single widened)]

end TraceCalc.Expr
