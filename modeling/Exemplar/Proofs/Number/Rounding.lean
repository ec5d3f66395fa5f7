import Exemplar.Number.Duration
import Mathlib

/-!
# Rounding to whole nanoseconds

A time limit is judged on the number of seconds that its literal denotes, and then this number is
rounded to whole nanoseconds. The rounded number is the nearest one, the even one of two, so it is
zero for every number up to half a nanosecond.
-/
namespace Exemplar.Number

/-- No natural number is nearer to `q`, and of two at the same distance this one is even. -/
structure IsNearest (q : ℚ) (n : ℕ) : Prop where
  close : |(n : ℚ) - q| ≤ 1 / 2
  even_of_tie : |(n : ℚ) - q| = 1 / 2 → Even n

namespace IsNearest
variable {q : ℚ} {m n : ℕ}

lemma le_of_lt (hm : IsNearest q m) (hn : IsNearest q n) : m ≤ n := by
  by_contra hlt
  have hstep : (n : ℚ) + 1 ≤ m := by exact_mod_cast not_le.1 hlt
  obtain ⟨-, hup⟩ := abs_le.1 hm.close
  obtain ⟨hlow, -⟩ := abs_le.1 hn.close
  -- both are at the largest distance, so both are even
  have heven := hn.even_of_tie (by rw [abs_of_nonpos (by linarith)]; linarith)
  have hsucc : m = n + 1 := by
    have : (m : ℚ) = n + 1 := by linarith
    exact_mod_cast this
  have heven' := hm.even_of_tie (by rw [abs_of_nonneg (by linarith)]; linarith)
  rw [hsucc, Nat.even_add_one] at heven'
  exact heven' heven

theorem unique (hm : IsNearest q m) (hn : IsNearest q n) : m = n :=
  Nat.le_antisymm (hm.le_of_lt hn) (hn.le_of_lt hm)

end IsNearest

/-- Zero is the nearest one up to a half, for which it is the even one of two. -/
theorem isNearest_zero_iff {q : ℚ} (hq : 0 ≤ q) : IsNearest q 0 ↔ q ≤ 1 / 2 := by
  have hdistance : |((0 : ℕ) : ℚ) - q| = q := by
    rw [Nat.cast_zero, zero_sub, abs_neg, abs_of_nonneg hq]
  constructor
  · intro h
    have hclose := h.close
    rwa [hdistance] at hclose
  · intro h
    exact ⟨by rwa [hdistance], fun _ => Even.zero⟩

theorem isNearest_roundQuotient (num : ℕ) {den : ℕ} (hden : 0 < den) :
    IsNearest (num / den) (roundQuotient num den) := by
  have hd : (0 : ℚ) < den := by exact_mod_cast hden
  have hmod : num % den < den := Nat.mod_lt num hden
  have hsum : (num : ℚ) = den * (num / den : ℕ) + (num % den : ℕ) := by
    exact_mod_cast (Nat.div_add_mod num den).symm
  -- the quotient lies between two natural numbers, at these distances
  have hbelow : |((num / den : ℕ) : ℚ) - num / den| = (num % den : ℕ) / den := by
    have hdiff : ((num / den : ℕ) : ℚ) - num / den = -((num % den : ℕ) / den) := by
      rw [eq_neg_iff_add_eq_zero, sub_add, sub_eq_zero, ← sub_div, eq_div_iff hd.ne']
      linarith
    rw [hdiff, abs_neg, abs_of_nonneg (by positivity)]
  have habove : |((num / den + 1 : ℕ) : ℚ) - num / den| = (den - (num % den : ℕ)) / den := by
    have hle : ((num % den : ℕ) : ℚ) ≤ den := by exact_mod_cast hmod.le
    have hdiff : ((num / den + 1 : ℕ) : ℚ) - num / den = (den - (num % den : ℕ)) / den := by
      rw [sub_eq_iff_eq_add, ← add_div, eq_div_iff hd.ne']
      push_cast
      linarith
    rw [hdiff, abs_of_nonneg (div_nonneg (by linarith) hd.le)]
  rw [roundQuotient]
  split_ifs with hlow hhigh
  · have hlow' : (2 : ℚ) * (num % den : ℕ) < den := by exact_mod_cast hlow
    refine ⟨?_, fun htie => ?_⟩
    · rw [hbelow, div_le_div_iff₀ hd two_pos]
      linarith
    · rw [hbelow, div_eq_div_iff hd.ne' two_ne_zero] at htie
      linarith
  · have hhigh' : (den : ℚ) < 2 * (num % den : ℕ) := by exact_mod_cast hhigh
    refine ⟨?_, fun htie => ?_⟩
    · rw [habove, div_le_div_iff₀ hd two_pos]
      linarith
    · rw [habove, div_eq_div_iff hd.ne' two_ne_zero] at htie
      linarith
  · have htie : 2 * (num % den) = den := by omega
    have htie' : (2 : ℚ) * (num % den : ℕ) = den := by exact_mod_cast htie
    rcases Nat.mod_two_eq_zero_or_one (num / den) with heven | hodd
    · rw [heven, Nat.add_zero]
      refine ⟨?_, fun _ => Nat.even_iff.2 heven⟩
      rw [hbelow, div_le_div_iff₀ hd two_pos]
      linarith
    · rw [hodd]
      refine ⟨?_, fun _ => (Nat.odd_iff.2 hodd).add_one⟩
      rw [habove, div_le_div_iff₀ hd two_pos]
      linarith

namespace Binary64
variable {x : Binary64}

def value (x : Binary64) : ℚ := x.significand * 2 ^ x.exponent

lemma value_pos_iff : 0 < x.value ↔ x.significand ≠ 0 := by
  have h2 : (0 : ℚ) < 2 ^ x.exponent := by positivity
  rw [value, mul_pos_iff_of_pos_right h2, Nat.cast_pos, Nat.pos_iff_ne_zero]

lemma toRatio_den_pos (x : Binary64) : 0 < x.toRatio.den := by
  rw [toRatio]
  split
  · exact Nat.one_pos
  · exact twoTo_pos _

lemma toRatio_eq_value (x : Binary64) : (x.toRatio.num : ℚ) / x.toRatio.den = x.value := by
  rw [toRatio, value]
  split
  · rename_i e he
    simp [he, twoTo]
  · rename_i e he
    simp [he, twoTo, zpow_negSucc, div_eq_mul_inv]

lemma atLeastPow_iff {n : ℕ} : x.atLeastPow n = true ↔ 2 ^ n ≤ x.value := by
  have hden : (0 : ℚ) < x.toRatio.den := by exact_mod_cast x.toRatio_den_pos
  rw [atLeastPow, decide_eq_true_iff, ← toRatio_eq_value, le_div_iff₀ hden, twoTo]
  norm_cast

end Binary64

end Exemplar.Number

namespace Exemplar.Duration
open Number

/-- The duration of a number of seconds is the nearest one. -/
theorem ofSeconds?_eq_some {x : Binary64} {d : Duration} : ofSeconds? x = some d ↔
    x.value < 2 ^ 64 ∧ IsNearest (x.value * 10 ^ 9) d.nanoseconds := by
  have hround : IsNearest (x.value * 10 ^ 9)
      (roundQuotient (x.toRatio.num * perSecond) x.toRatio.den) := by
    have h := isNearest_roundQuotient (x.toRatio.num * perSecond) x.toRatio_den_pos
    have hsecond : (perSecond : ℚ) = 10 ^ 9 := by norm_num [perSecond]
    rwa [Nat.cast_mul, mul_div_right_comm, Binary64.toRatio_eq_value, hsecond] at h
  rw [ofSeconds?]
  split
  · rename_i h
    have := Binary64.atLeastPow_iff.1 h
    simp [this]
  · rename_i h
    have hlt : x.value < 2 ^ 64 := not_le.1 (mt Binary64.atLeastPow_iff.2 h)
    rw [Option.some.injEq]
    constructor
    · rintro rfl
      exact ⟨hlt, hround⟩
    · rintro ⟨-, hd⟩
      cases d
      exact congrArg Duration.mk (hround.unique hd)

/-- A literal is a time limit exactly if it denotes a positive number below `2 ^ 64`. -/
theorem parseLimit_eq_ok {t : Text} {d : Duration} : parseLimit t = .ok d ↔
    ∃ x, Decimal.parse t = .ok (.finite false x) ∧ 0 < x.value ∧ x.value < 2 ^ 64 ∧
      IsNearest (x.value * 10 ^ 9) d.nanoseconds := by
  rw [parseLimit]
  cases hparse : Decimal.parse t with
  | error e => simp
  | ok number =>
    cases number with
    | notANumber => simp
    | infinite negative => simp
    | finite negative x =>
      by_cases hbad : negative = true ∨ x.significand = 0
      · -- neither a negative number nor zero is positive
        simp only [hbad, if_true, reduceCtorEq, false_iff]
        rintro ⟨y, hy, hpos, -⟩
        obtain ⟨rfl, rfl⟩ := Decimal.finite.inj (Except.ok.inj hy)
        exact hbad.elim Bool.false_ne_true (Binary64.value_pos_iff.1 hpos)
      · obtain ⟨hsign, hne⟩ := not_or.1 hbad
        obtain rfl := Bool.eq_false_iff.2 hsign
        have hlimit : ofSeconds? x = some d ↔ ∃ y, x = y ∧ 0 < y.value ∧ y.value < 2 ^ 64 ∧
            IsNearest (y.value * 10 ^ 9) d.nanoseconds := by
          simp [ofSeconds?_eq_some, Binary64.value_pos_iff.2 hne]
        simp only [hbad, if_false, Except.ok.injEq, Decimal.finite.injEq, true_and, ← hlimit]
        cases ofSeconds? x <;> simp

end Exemplar.Duration
