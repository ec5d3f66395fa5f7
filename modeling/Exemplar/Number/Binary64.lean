import Exemplar.Number.Power

/-!
# Numbers of the format binary64

Nonnegative numbers with 53 significant bits, as a significand and a power of two.
Every rational has a nearest one; of two at the same distance it is the one with the
even significand. All arithmetic is exact until that one rounding.
-/
namespace Exemplar.Number

/-- The nearest natural number to a quotient; a half goes to the even neighbour. -/
def roundQuotient (num den : Nat) : Nat :=
  let q := num / den
  let r := num % den
  if 2 * r < den then q
  else if den < 2 * r then q + 1
  else q + q % 2

/-- A nonnegative rational, written as a quotient. -/
structure Ratio where
  num : Nat
  den : Nat

/-- `significand * 2 ^ exponent`. -/
structure Binary64 where
  significand : Nat
  exponent : Int
  deriving DecidableEq, Repr

namespace Binary64

def zero : Binary64 := ⟨0, 0⟩

/-- The quotient of `num / den` by a power of two. -/
def scaled (num den : Nat) : Int → Ratio
  | .ofNat e => ⟨num, den * twoTo e⟩
  | .negSucc e => ⟨num * twoTo (e + 1), den⟩

/-- The exponent that leaves 53 significant bits, but not under the smallest one of the
format. -/
def exponentFor (num den : Nat) : Int :=
  let e : Int := (num.log2 : Int) - den.log2 - 52
  let r := scaled num den e
  max (if r.num / r.den < twoTo 52 then e - 1 else e) (-1074)

/-- The nearest number of the format, without a bound on its size. -/
def nearest (num den : Nat) : Binary64 :=
  if num = 0 then zero
  else
    let e := exponentFor num den
    let r := scaled num den e
    ⟨roundQuotient r.num r.den, e⟩

/-- The exact value. -/
def toRatio (x : Binary64) : Ratio :=
  match x.exponent with
  | .ofNat e => ⟨x.significand * twoTo e, 1⟩
  | .negSucc e => ⟨x.significand, twoTo (e + 1)⟩

/-- At least `2 ^ n`. -/
def atLeastPow (x : Binary64) (n : Nat) : Bool := twoTo n * x.toRatio.den ≤ x.toRatio.num

/-- Beyond the largest finite number of the format. -/
def overflows (x : Binary64) : Bool := x.atLeastPow 1024

def add (x y : Binary64) : Binary64 :=
  let a := x.toRatio
  let b := y.toRatio
  nearest (a.num * b.den + b.num * a.den) (a.den * b.den)

end Binary64

end Exemplar.Number
