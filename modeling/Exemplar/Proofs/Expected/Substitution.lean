import Exemplar.Proofs.Expected.NormalForm
import Exemplar.Proofs.Expected.Segments

/-!
# Values in the place of tags

Values are put in the place of all tags of a text at once, and a tag without a value is left as it
is written. It is recognised in the new text again, whatever the values around it are: an opening
bracket begins it anew. A blank is no part of a tag either, so a text has the tags of its words,
and its normal form has the same.
-/
namespace Exemplar.Expected
open Text

/-- The names of the tags of a text, in order. -/
def namesIn (t : Text) : List Text := Token.names (Token.scan t)

/-- A tag with its value; a tag without one is left as it is written. -/
def substituteToken (value : Text → Option Text) : Token → Text
  | .char c => [c]
  | .tag .any => Tag.any.text
  | .tag (.named name) => (value name).getD (Tag.named name).text

/-- The text with its named tags replaced all at once, so that values are not searched for tags. -/
def substitute (value : Text → Option Text) (t : Text) : Text :=
  (Token.scan t).flatMap (substituteToken value)

/-- Nothing is captured under the three dots, so pasting leaves them alone. -/
lemma pasteKnown_eq_substitute {captures : Captures} {value : Text → Option Text}
    (hvalue : ∀ name, captures.get? name = value name) (hdots : captures.get? Tag.dots = none)
    (t : Text) : pasteKnown captures t = substitute value t := by
  refine List.flatMap_congr fun token _ => ?_
  rcases token with c | _ | name
  · rfl
  · simp [Token.pasted, substituteToken, Tag.label, hdots]
  · simp [Token.pasted, substituteToken, Tag.label, hvalue]

@[simp] theorem namesIn_nil : namesIn [] = [] := by
  rw [namesIn, Token.scan]
  rfl

lemma namesIn_cons_char {c : Char} (hc : c ≠ '<') (t : Text) : namesIn (c :: t) = namesIn t := by
  rw [namesIn, Token.scan_char hc]
  rfl

/-- A blank cuts no tag. -/
lemma namesIn_append_blank (s : Text) {c : Char} (hc : isBlank c = true) (t : Text) :
    namesIn (s ++ c :: t) = namesIn s ++ namesIn t := by
  have hbracket : c ≠ '<' := by
    rintro rfl
    exact absurd hc (by decide)
  rw [namesIn, Token.scan_append (Tag.breaks_of_isBlank hc), Token.scan_char hbracket]
  exact List.filterMap_append

lemma namesIn_of_unblank {w : Text} (hw : ∀ c ∈ w, isBlank c = false) :
    namesIn w = (words w).flatMap namesIn := by
  by_cases hne : w = []
  · rw [hne, namesIn_nil]
    rfl
  · rw [words_of_isWord ⟨hne, hw⟩, List.flatMap_singleton]

theorem namesIn_eq_words (t : Text) : namesIn t = (words t).flatMap namesIn := by
  -- the text stands behind what has been read of its first word
  have hbegun : ∀ w : Text, (∀ c ∈ w, isBlank c = false) →
      namesIn (w ++ t) = (words (w ++ t)).flatMap namesIn := by
    induction t with
    | nil =>
      intro w hw
      rw [List.append_nil]
      exact namesIn_of_unblank hw
    | cons c t ih =>
      intro w hw
      by_cases hc : isBlank c = true
      · rw [namesIn_append_blank w hc, words_append_blank w hc, List.flatMap_append,
          ← namesIn_of_unblank hw]
        exact congrArg _ (ih [] (by simp))
      · have hlonger : ∀ d ∈ w ++ [c], isBlank d = false :=
          List.forall_mem_append.2 ⟨hw, by simpa using hc⟩
        simpa using ih (w ++ [c]) hlonger
  exact hbegun [] (by simp)

/-- The normal form of a text has its tags. -/
theorem namesIn_normalize (words : Bool) (t : Text) : namesIn (normalize words t) = namesIn t := by
  rw [namesIn_eq_words, words_normalize, ← namesIn_eq_words]

lemma namesIn_joinLines (ls : List Text) : namesIn (joinLines ls) = ls.flatMap namesIn := by
  rw [namesIn_eq_words, words_joinLines, List.flatMap_assoc]
  exact List.flatMap_congr fun l _ => (namesIn_eq_words l).symm

/-- An opening bracket in front may make a tag of the text behind it, but not of one that has tags
itself. -/
lemma namesIn_cons (c : Char) (t : Text) : (namesIn t).Sublist (namesIn (c :: t)) := by
  by_cases hc : c = '<'
  · subst hc
    cases hread : Tag.read? t with
    | none =>
      rw [namesIn, namesIn, Token.scan_bracket hread]
      exact .refl _
    | some found =>
      obtain ⟨tag, rest⟩ := found
      have hrest : namesIn t = namesIn rest := by
        obtain ⟨hp, rfl⟩ := Tag.read?_eq_some.1 hread
        have hplain : ∀ l : Text, '<' ∉ l → namesIn (l ++ rest) = namesIn rest := by
          intro l hl
          induction l with
          | nil => rfl
          | cons d l ih =>
            rw [List.mem_cons, not_or] at hl
            rw [List.cons_append, namesIn_cons_char (Ne.symm hl.1), ih hl.2]
        simpa using hplain (tag.label ++ ['>']) (by simp [hp.not_mem_label.1])
      rw [hrest, namesIn, namesIn, Token.scan_tag hread]
      cases h : tag.name? <;> simp [Token.names, h]
  · rw [namesIn_cons_char hc]

lemma namesIn_append (s t : Text) : (namesIn t).Sublist (namesIn (s ++ t)) := by
  induction s with
  | nil => exact .refl _
  | cons c s ih => exact ih.trans (namesIn_cons c (s ++ t))

/-- A tag without a value is recognised in the new text again. -/
theorem namesIn_substitute (value : Text → Option Text) (t : Text) :
    ((namesIn t).filter fun name => (value name).isNone).Sublist
      (namesIn (substitute value t)) := by
  have htokens : ∀ tokens : List Token, Token.Legible tokens →
      ((Token.names tokens).filter fun name => (value name).isNone).Sublist
        (namesIn (tokens.flatMap (substituteToken value))) := by
    intro tokens hl
    induction tokens with
    | nil => simp [Token.names]
    | cons token tokens ih =>
      rw [List.flatMap_cons]
      rcases token with c | _ | name
      · exact (ih hl.2).trans (namesIn_append _ _)
      · exact (ih hl.2).trans (namesIn_append _ _)
      · show ((name :: Token.names tokens).filter _).Sublist _
        cases hvalue : value name with
        | some v =>
          rw [List.filter_cons_of_neg (by simp [hvalue])]
          exact (ih hl.2).trans (namesIn_append _ _)
        | none =>
          have hscan : namesIn (substituteToken value (.tag (.named name)) ++
                tokens.flatMap (substituteToken value)) =
              name :: namesIn (tokens.flatMap (substituteToken value)) := by
            rw [substituteToken, hvalue, Option.getD_none, namesIn, Token.scan_tag_text hl.1]
            rfl
          rw [List.filter_cons_of_pos (by simp [hvalue]), hscan]
          exact (ih hl.2).cons_cons name
  exact htokens _ (Token.legible_scan t)

end Exemplar.Expected
