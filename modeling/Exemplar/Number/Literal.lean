import Exemplar.Number.Binary64
import Exemplar.Text.Basic

/-!
# Number literals

A decimal literal is an optional sign, digits with at most one point among or beside
them, and an optional exponent; the words for infinity and for no number stand in any
case. It denotes the nearest number of the format binary64. A count is a sign `+` or
nothing, and digits, of a size that fits into 64 bits.
-/
namespace Exemplar.Number

inductive LiteralError
  | emptyDecimal
  | malformedDecimal
  | emptyCount
  | malformedCount
  | countTooLarge
  deriving DecidableEq, Repr

def LiteralError.message : LiteralError → String
  | emptyDecimal => "cannot parse float from empty string"
  | malformedDecimal => "invalid float literal"
  | emptyCount => "cannot parse integer from empty string"
  | malformedCount => "invalid digit found in string"
  | countTooLarge => "number too large to fit in target type"

/-- What a decimal literal denotes. -/
inductive Decimal
  | finite (negative : Bool) (size : Binary64)
  | infinite (negative : Bool)
  | notANumber
  deriving DecidableEq, Repr

/-- A natural number from its decimal digits. -/
def ofDigits (digits : Text) : Nat := digits.foldl (fun n c => 10 * n + (c.toNat - 48)) 0

/-- Sign and rest of a literal; `true` is the minus sign. -/
def takeSign : Text → Bool × Text
  | '-' :: t => (true, t)
  | '+' :: t => (false, t)
  | t => (false, t)

/-- Digits of a literal before the exponent, and the power of ten of the last one. -/
structure Mantissa where
  digits : Text
  fraction : Nat

/-- Digits with at most one point; at least one digit is needed. -/
def takeMantissa (t : Text) : Option (Mantissa × Text) :=
  let whole := t.takeWhile Char.isDigit
  let found : Mantissa × Text :=
    match t.dropWhile Char.isDigit with
    | '.' :: r =>
      let part := r.takeWhile Char.isDigit
      (⟨whole ++ part, part.length⟩, r.dropWhile Char.isDigit)
    | r => (⟨whole, 0⟩, r)
  if found.1.digits.isEmpty then none else some found

/-- The exponent that ends a literal; nothing may follow it. -/
def takeExponent : Text → Option Int
  | [] => some 0
  | c :: t =>
    if c = 'e' ∨ c = 'E' then
      let (negative, digits) := takeSign t
      if digits.isEmpty || !digits.all Char.isDigit then none
      else some (if negative then -(ofDigits digits : Int) else ofDigits digits)
    else none

/-- The nearest number to `digits * 10 ^ power`. A power beyond the range of the format
is decided by its size alone: the digits cannot make up for it. -/
def decimalValue (negative : Bool) (digits : Text) (power : Int) : Decimal :=
  let n := ofDigits digits
  let size : Int := digits.length + power
  if n = 0 ∨ size < -400 then .finite negative Binary64.zero
  else if 400 + digits.length < size then .infinite negative
  else
    let x := match power with
      | .ofNat p => Binary64.nearest (n * tenTo p) 1
      | .negSucc p => Binary64.nearest n (tenTo (p + 1))
    if x.overflows then .infinite negative else .finite negative x

/-- The words that stand for no finite number, in lower case. -/
def special? (negative : Bool) (word : Text) : Option Decimal :=
  let lower := word.map Char.toLower
  if lower = "inf".toList ∨ lower = "infinity".toList then some (.infinite negative)
  else if lower = "nan".toList then some .notANumber
  else none

def Decimal.parse (t : Text) : Except LiteralError Decimal :=
  if t.isEmpty then .error .emptyDecimal
  else
    let (negative, r) := takeSign t
    match special? negative r with
    | some d => .ok d
    | none =>
      match takeMantissa r with
      | none => .error .malformedDecimal
      | some (m, tail) =>
        match takeExponent tail with
        | none => .error .malformedDecimal
        | some e => .ok (decimalValue negative m.digits (e - m.fraction))

/-- A count of at most 64 bits. The digits are read from the left, so a count that is
already too large is reported before a wrong character behind it. -/
def parseCount (t : Text) : Except LiteralError Nat :=
  let body := match t with
    | '+' :: r => r
    | r => r
  let digits := body.takeWhile Char.isDigit
  if t.isEmpty then .error .emptyCount
  else if twoTo 64 ≤ ofDigits digits then .error .countTooLarge
  else if body.isEmpty || digits.length < body.length then .error .malformedCount
  else .ok (ofDigits digits)

end Exemplar.Number
