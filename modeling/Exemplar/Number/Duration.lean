import Exemplar.Number.Literal

/-!
# Durations

A duration is a whole number of nanoseconds. One that is read from a literal is the
nearest number of nanoseconds to the number that the literal denotes; one that is shown
is the nearest number of seconds with the wanted decimal places.
-/
namespace Exemplar

structure Duration where
  nanoseconds : Nat
  deriving DecidableEq, Repr

namespace Duration
open Number

def perSecond : Nat := 1000000000

def ofParts (seconds nanoseconds : Nat) : Duration := ⟨seconds * perSecond + nanoseconds⟩

def seconds (d : Duration) : Nat := d.nanoseconds / perSecond

def subsecond (d : Duration) : Nat := d.nanoseconds % perSecond

def ofMilliseconds (n : Nat) : Duration := ⟨n * 1000000⟩

/-- The nearest duration to a number of seconds; there is none from `2 ^ 64` on. -/
def ofSeconds? (x : Binary64) : Option Duration :=
  if x.atLeastPow 64 then none
  else some ⟨roundQuotient (x.toRatio.num * perSecond) x.toRatio.den⟩

/-- Why a literal is no time limit. -/
inductive LimitError
  | malformed (cause : LiteralError)
  | notPositive
  | outOfRange
  deriving DecidableEq, Repr

/-- A time limit in seconds. The sign is judged on the number itself and the range on
the duration, so a number that is too small to tell from zero seconds is accepted. -/
def parseLimit (t : Text) : Except LimitError Duration :=
  match Decimal.parse t with
  | .error e => .error (.malformed e)
  | .ok .notANumber => .error .outOfRange
  | .ok (.infinite negative) => .error (if negative then .notPositive else .outOfRange)
  | .ok (.finite negative x) =>
    if negative ∨ x.significand = 0 then .error .notPositive
    else match ofSeconds? x with
      | some d => .ok d
      | none => .error .outOfRange

/-- Seconds as a number of the format binary64. -/
def inSeconds (d : Duration) : Binary64 :=
  (Binary64.nearest d.seconds 1).add (Binary64.nearest d.subsecond perSecond)

/-- Seconds with `places` decimal places; a half goes to the even neighbour. -/
def fixed (d : Duration) (places : Nat) : String :=
  let x := d.inSeconds.toRatio
  let n := roundQuotient (x.num * tenTo places) x.den
  let part := toString (n % tenTo places)
  toString (n / tenTo places) ++ "."
    ++ String.ofList (List.replicate (places - part.length) '0') ++ part

end Duration

end Exemplar
