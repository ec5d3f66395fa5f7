import Exemplar.Number.Literal
import Exemplar.Text.Blank
import Mathlib.Data.List.TakeWhile

/-!
# Characters of number literals

A literal of a finite number is spelled with digits, signs, a point and the letter of the exponent.
So there are no blanks and no comment closers in it.
-/
namespace Exemplar.Number

/-- The characters of which a literal of a finite number consists. -/
def isNumeral (c : Char) : Bool := c.isDigit || "+-.eE".toList.contains c

lemma isNumeral_of_isDigit {c : Char} (h : c.isDigit = true) : isNumeral c = true := by
  rw [isNumeral, h, Bool.true_or]

/-- Neither a blank nor a comment closer has such characters. -/
lemma plain_of_isNumeral {c : Char} (h : isNumeral c = true) :
    Text.isBlank c = false ∧ c ≠ '/' ∧ c ≠ '>' := by
  rcases Bool.or_eq_true_iff.1 h with hdigit | hmark
  · have hrange : 48 ≤ c.toNat ∧ c.toNat ≤ 57 := by
      rw [Char.isDigit, Bool.and_eq_true, decide_eq_true_iff, decide_eq_true_iff] at hdigit
      exact hdigit
    refine ⟨?_, ?_, ?_⟩
    · simp [Text.isBlank]
      omega
    · rintro rfl
      exact absurd hrange.1 (by decide)
    · rintro rfl
      exact absurd hrange.2 (by decide)
  · have hall : ∀ d ∈ "+-.eE".toList, Text.isBlank d = false ∧ d ≠ '/' ∧ d ≠ '>' := by
      simp [Text.isBlank]
    exact hall c (List.contains_iff_mem.1 hmark)

lemma takeSign_numeral {t : Text} (h : ∀ c ∈ (takeSign t).2, isNumeral c = true) :
    ∀ c ∈ t, isNumeral c = true := by
  unfold takeSign at h
  split at h
  · exact List.forall_mem_cons.2 ⟨by decide, h⟩
  · exact List.forall_mem_cons.2 ⟨by decide, h⟩
  · exact h

lemma takeExponent_numeral {t : Text} {e : Int} (h : takeExponent t = some e) :
    ∀ c ∈ t, isNumeral c = true := by
  cases t with
  | nil => simp
  | cons c t =>
    rw [takeExponent] at h
    split at h
    · rename_i hc
      have hletter : isNumeral c = true := by rcases hc with rfl | rfl <;> decide
      dsimp only at h
      split at h
      · cases h
      · rename_i hdigits
        have hall : (takeSign t).2.all Char.isDigit = true := by simp_all
        refine List.forall_mem_cons.2 ⟨hletter, takeSign_numeral fun d hd => ?_⟩
        exact isNumeral_of_isDigit (List.all_eq_true.1 hall d hd)
    · cases h

/-- The digits in front of a text, and what is left of it. -/
lemma forall_numeral_dropWhile {t : Text}
    (h : ∀ c ∈ t.dropWhile Char.isDigit, isNumeral c = true) : ∀ c ∈ t, isNumeral c = true := by
  rw [← List.takeWhile_append_dropWhile (p := Char.isDigit) (l := t), List.forall_mem_append]
  exact ⟨fun c hc => isNumeral_of_isDigit (List.mem_takeWhile_imp hc), h⟩

lemma takeMantissa_numeral {t tail : Text} {m : Mantissa} (h : takeMantissa t = some (m, tail))
    (htail : ∀ c ∈ tail, isNumeral c = true) : ∀ c ∈ t, isNumeral c = true := by
  apply forall_numeral_dropWhile
  rw [takeMantissa] at h
  dsimp only at h
  split at h
  · rename_i r hr
    rw [hr]
    refine List.forall_mem_cons.2 ⟨by decide, forall_numeral_dropWhile ?_⟩
    split at h
    · cases h
    · obtain ⟨-, rfl⟩ := Prod.mk.inj (Option.some.inj h)
      exact htail
  · split at h
    · cases h
    · obtain ⟨-, rfl⟩ := Prod.mk.inj (Option.some.inj h)
      exact htail

/-- The words that are no digits stand for no finite number. -/
lemma special?_ne_finite {negative sign : Bool} {word : Text} {x : Binary64} :
    special? negative word ≠ some (.finite sign x) := by
  rw [special?]
  split_ifs <;> simp

theorem parse_numeral {t : Text} {negative : Bool} {x : Binary64}
    (h : Decimal.parse t = .ok (.finite negative x)) : ∀ c ∈ t, isNumeral c = true := by
  rw [Decimal.parse] at h
  split at h
  · cases h
  · apply takeSign_numeral
    dsimp only at h
    split at h
    · rename_i hspecial
      cases h
      exact absurd hspecial special?_ne_finite
    · split at h
      · cases h
      · rename_i hmantissa
        split at h
        · cases h
        · rename_i hexponent
          exact takeMantissa_numeral hmantissa (takeExponent_numeral hexponent)

end Exemplar.Number
