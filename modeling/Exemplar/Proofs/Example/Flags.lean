import Exemplar.Example.Options
import Mathlib.Data.List.Basic

/-!
# Flags of statement lines

The flags of an example are those of its statement lines, one line after the other. They
are set in this order, and the first token that is no flag is the error.
-/
namespace Exemplar.Options
open Text

/-- The tokens that stand behind the tag of a statement line. -/
def lineTokens (statement : Text) : List Text :=
  match breakOn tag statement with
  | Option.none => []
  | some (_, flags) => words (dropTrailers flags)

/-- The first token that is no flag. -/
def firstBad? (tokens : List Text) : Option Text :=
  tokens.find? fun token => (Flag.ofToken? token).isNone

/-- Some statement line has a token that is no flag. -/
def HasBadToken (statements : List Text) : Prop :=
  ∃ statement ∈ statements, ∃ token ∈ lineTokens statement, Flag.ofToken? token = Option.none

lemma hasBadToken_iff {statements : List Text} :
    HasBadToken statements ↔ (firstBad? (statements.flatMap lineTokens)).isSome = true := by
  simp only [HasBadToken, firstBad?, List.find?_isSome, List.mem_flatMap, Option.isNone_iff_eq_none]
  constructor
  · rintro ⟨s, hs, token, ht, hf⟩
    exact ⟨token, ⟨s, hs, ht⟩, hf⟩
  · rintro ⟨token, ⟨s, hs, ht⟩, hf⟩
    exact ⟨s, hs, token, ht, hf⟩

lemma setTokens_append (o : Options) (ts us : List Text) :
    o.setTokens (ts ++ us) = (o.setTokens ts).bind fun o' => o'.setTokens us := by
  induction ts generalizing o with
  | nil => rfl
  | cons token ts ih =>
    rw [List.cons_append, setTokens, setTokens]
    cases Flag.ofToken? token with
    | none => rfl
    | some flag => exact ih _

/-- The lines of an example give their tokens one after the other. -/
lemma setStatements_eq (o : Options) (statements : List Text) :
    o.setStatements statements = o.setTokens (statements.flatMap lineTokens) := by
  induction statements generalizing o with
  | nil => rfl
  | cons s ss ih =>
    rw [List.flatMap_cons, setTokens_append, setStatements]
    cases hb : breakOn tag s with
    | none => simp [lineTokens, hb, ih, setTokens, Except.bind]
    | some found =>
      obtain ⟨before, flags⟩ := found
      simp only [lineTokens, hb, setFlags]
      cases o.setTokens (words (dropTrailers flags)) with
      | error token => rfl
      | ok o' => exact ih o'

lemma setTokens_eq_error {o : Options} {ts : List Text} {token : Text} :
    o.setTokens ts = .error token ↔ firstBad? ts = some token := by
  induction ts generalizing o with
  | nil => simp [setTokens, firstBad?]
  | cons t ts ih =>
    rw [setTokens]
    cases hf : Flag.ofToken? t with
    | none => simp [firstBad?, hf]
    | some flag =>
      rw [ih]
      simp [firstBad?, hf]

/-- The flags of an example are refused for the first bad token of its lines. -/
theorem ofStatements_eq_error {statements : List Text} {token : Text} :
    ofStatements statements = .error token ↔
      firstBad? (statements.flatMap lineTokens) = some token := by
  rw [ofStatements, setStatements_eq, setTokens_eq_error]

lemma hasBadToken_of_error {statements : List Text} {token : Text}
    (h : ofStatements statements = .error token) : HasBadToken statements := by
  rw [hasBadToken_iff, ofStatements_eq_error.1 h]
  rfl

lemma not_hasBadToken_of_ok {statements : List Text} {o : Options}
    (h : ofStatements statements = .ok o) : ¬ HasBadToken statements := by
  rw [hasBadToken_iff, Option.isSome_iff_exists]
  rintro ⟨token, ht⟩
  rw [ofStatements_eq_error.2 ht] at h
  cases h

end Exemplar.Options
