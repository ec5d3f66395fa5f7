import Exemplar.Expected.Match
import Exemplar.Proofs.Expected.Segments

/-!
# Patterns without tags

A text in which no tag is recognised is read as its characters. The pattern of such a text is the
text itself, and the output that it accepts is that text and no other. A pattern without wildcards
comes from a text without tags.
-/
namespace Exemplar.Expected
open Text

/-- The tags that are recognised in a text in normal form. -/
def Comparison.tagsOf (comparison : Comparison) (t : Text) : List Tag :=
  if comparison.tags then (Token.scan t).filterMap Token.tag? else []

lemma Comparison.filterMap_tokensOf (comparison : Comparison) (t : Text) :
    (comparison.tokensOf t).filterMap Token.tag? = comparison.tagsOf t := by
  unfold tokensOf tagsOf
  split
  · rfl
  · rw [List.filterMap_map]
    exact List.filterMap_eq_nil_iff.2 fun _ _ => rfl

/-- A text without tags is read as its characters. -/
lemma Comparison.tokensOf_of_tagsOf {comparison : Comparison} {t : Text}
    (h : comparison.tagsOf t = []) : comparison.tokensOf t = t.map .char := by
  have hchars := Token.eq_map_char ((comparison.filterMap_tokensOf t).trans h)
  rwa [comparison.flatMap_text_tokensOf] at hchars

/-- Every tag is in a wildcard. -/
lemma Segment.any_isWildcard_ofTokens (tokens : List Token) :
    (ofTokens tokens).any isWildcard = tokens.any fun token => token.tag?.isSome := by
  induction tokens with
  | nil => rfl
  | cons token tokens ih =>
    rw [List.any_cons, ← ih]
    show (push token (ofTokens tokens)).any isWildcard = _
    cases token with
    | char c => rcases ofTokens tokens with _ | ⟨_ | _, _⟩ <;> rfl
    | tag t => rcases ofTokens tokens with _ | ⟨_ | _, _⟩ <;> rfl

namespace Pattern

lemma ofNormal_of_tagsOf {comparison : Comparison} {t : Text} (h : comparison.tagsOf t = []) :
    ofNormal comparison t = .ok ⟨Segment.ofLiteral t, comparison⟩ := by
  rw [ofNormal_eq_ok, Comparison.tokensOf_of_tagsOf h, Segment.ofTokens_map_char,
    Token.names_map_char]
  exact ⟨.nil, rfl⟩

/-- Without wildcards no tag was recognised. -/
lemma tagsOf_of_hasWildcards {comparison : Comparison} {t : Text} {p : Pattern}
    (hp : ofNormal comparison t = .ok p) (hw : p.hasWildcards = false) :
    comparison.tagsOf t = [] := by
  obtain ⟨-, rfl⟩ := ofNormal_eq_ok.1 hp
  rw [hasWildcards, Segment.any_isWildcard_ofTokens, List.any_eq_false] at hw
  rw [← comparison.filterMap_tokensOf]
  exact List.filterMap_eq_nil_iff.2 fun token htoken => by simpa using hw token htoken

/-- A text that stands for itself is matched by output that is the same in normal form. -/
lemma passed_ofLiteral (comparison : Comparison) (t output : Text) :
    ((⟨Segment.ofLiteral t, comparison⟩ : Pattern).matchOutput output).passed = true ↔
      normalize comparison.normWs output = t := by
  unfold matchOutput MatchResult.passed Segment.ofLiteral
  simp only
  generalize normalize comparison.normWs output = actual
  cases t with
  | nil =>
    simp only [List.isEmpty_nil, if_true, Scan.run, Scan.finish]
    cases actual <;> simp [Scan.State.fail]
  | cons c t =>
    simp only [List.isEmpty_cons, Bool.false_eq_true, if_false, Scan.run]
    cases hs : stripPrefix? (c :: t) actual with
    | none =>
      have hne : actual ≠ c :: t := by
        rintro rfl
        have := stripPrefix?_append (c :: t) []
        rw [List.append_nil, hs] at this
        cases this
      simpa [Scan.State.fail] using hne
    | some after =>
      obtain rfl := stripPrefix?_eq_some.1 hs
      cases after <;> simp [Scan.finish, Scan.State.fail]

/-- Expected lines in which no tag is recognised always make a pattern, and it accepts the output
that is the same in normal form. -/
theorem parse_of_tagsOf {comparison : Comparison} {expected : List Text}
    (h : comparison.tagsOf (normalize comparison.normWs (joinLines expected)) = []) :
    ∃ p, parse comparison expected = .ok p ∧ ∀ output, (p.matchOutput output).passed = true ↔
      normalize comparison.normWs output = normalize comparison.normWs (joinLines expected) :=
  ⟨_, ofNormal_of_tagsOf h, passed_ofLiteral comparison _⟩

/-- Output is accepted by a pattern without wildcards when it has the same normal form. -/
theorem passed_of_not_hasWildcards {comparison : Comparison} {expected : List Text} {p : Pattern}
    (hp : parse comparison expected = .ok p) (hw : p.hasWildcards = false) (output : Text) :
    (p.matchOutput output).passed = true ↔
      normalize comparison.normWs (joinLines expected) = normalize comparison.normWs output := by
  obtain ⟨q, hq, hpassed⟩ := parse_of_tagsOf (tagsOf_of_hasWildcards hp hw)
  obtain rfl : p = q := Except.ok.inj (hp.symm.trans hq)
  rw [hpassed, eq_comm]

end Pattern

end Exemplar.Expected
