import Exemplar.Number.Literal
import Exemplar.Shell.Arithmetic

/-!
# Formatted output of the shell

Backslash sequences and the directives of a format. A format is used again as long as
arguments are left.
-/
namespace Exemplar.Shell.Format
open Number

def isOctal (c : Char) : Bool := '0' ≤ c && c ≤ '7'

def isHex (c : Char) : Bool := decide (Arithmetic.digitOf c < 16)

def byte (n : Nat) : Char := Char.ofNat (n % 256)

/-- The byte that up to `most` octal digits denote, and the text behind them. -/
def octal (most : Nat) (t : Text) : Char × Text :=
  let digits := (t.take most).takeWhile isOctal
  (byte ((Arithmetic.natOf? 8 digits).getD 0), t.drop digits.length)

def simpleEscape? (c : Char) : Option Char :=
  match c with
  | '\\' => some '\\'
  | 'a' => some '\x07'
  | 'b' => some '\x08'
  | 'e' => some '\x1b'
  | 'f' => some '\x0c'
  | 'n' => some '\n'
  | 'r' => some '\x0d'
  | 't' => some '\t'
  | 'v' => some '\x0b'
  | _ => none

/-- The character that a backslash in front of a text denotes in a format. -/
def escape (t : Text) : Char × Text :=
  match t with
  | [] => ('\\', [])
  | c :: r =>
    if isOctal c then octal 3 t
    else match simpleEscape? c with
      | some d => (d, r)
      | none => ('\\', t)

/-- A text with its backslash sequences carried out. The mark tells that it ends the whole
output. -/
def unescape : Nat → Text → Text × Bool
  | 0, _ => ([], false)
  | _ + 1, [] => ([], false)
  | fuel + 1, c :: r =>
    if c ≠ '\\' then let x := unescape fuel r; (c :: x.1, x.2)
    else match r with
      | 'c' :: _ => ([], true)
      | '0' :: r' =>
        let (d, rest) := octal 3 r'
        let x := unescape fuel rest
        (d :: x.1, x.2)
      | r =>
        let (d, rest) := escape r
        let x := unescape fuel rest
        (d :: x.1, x.2)

/-- What `echo` prints. -/
def echo (args : List Text) : Text :=
  let (breaks, args) := match args with
    | ['-', 'n'] :: rest => (false, rest)
    | args => (true, args)
  let joined := args.intersperse [' '] |>.flatten
  let (t, ended) := unescape (joined.length + 1) joined
  if breaks && !ended then t ++ ['\n'] else t

/-- A directive of a format. -/
structure Directive where
  flags : Text
  width : Nat
  precision : Option Nat
  kind : Char

namespace Directive

def has (d : Directive) (c : Char) : Bool := d.flags.any (· == c)

/-- Fill up to the width. -/
def pad (d : Directive) (t : Text) : Text :=
  let fill := List.replicate (d.width - t.length) ' '
  if d.has '-' then t ++ fill else fill ++ t

/-- Fill up behind the sign, with zeros where that is asked for. -/
def padZeros (d : Directive) (sign digits : Text) : Text :=
  if d.has '0' && !d.has '-' then
    sign ++ List.replicate (d.width - sign.length - digits.length) '0' ++ digits
  else d.pad (sign ++ digits)

/-- The sign of a number, which may be shown where it is positive. -/
def sign (d : Directive) (negative : Bool) : Text :=
  if negative then ['-'] else if d.has '+' then ['+'] else if d.has ' ' then [' '] else []

end Directive

/-- Digits with the least number of them that the precision asks for. -/
def padNumber (d : Directive) (sign digits : Text) : Text :=
  match d.precision with
  | some n =>
    let keepsZero := d.has '#' && d.kind = 'o'
    let digits := if n = 0 && digits = ['0'] && !keepsZero then [] else digits
    d.pad (sign ++ List.replicate (n - digits.length) '0' ++ digits)
  | none => d.padZeros sign digits

def unsigned (n : Int) : Nat := Arithmetic.bits n

def showNumber (d : Directive) (n : Int) : Text :=
  let base := fun mark => if d.has '#' && n ≠ 0 then ['0', mark] else []
  match d.kind with
  | 'x' => padNumber d (base 'x') (Nat.toDigits 16 (unsigned n))
  | 'X' => padNumber d (base 'X') ((Nat.toDigits 16 (unsigned n)).map Char.toUpper)
  | 'o' =>
    let digits := Nat.toDigits 8 (unsigned n)
    padNumber d [] (if d.has '#' && n ≠ 0 then '0' :: digits else digits)
  | 'u' => padNumber d [] (Nat.toDigits 10 (unsigned n))
  | _ => padNumber d (d.sign (n < 0)) (Nat.toDigits 10 n.natAbs)

/-- What is wrong with the number in an argument. -/
inductive Problem
  | expected
  | incomplete
  | outOfRange
  deriving DecidableEq, Repr

def Problem.message : Problem → String
  | expected => "expected numeric value"
  | incomplete => "not completely converted"
  | outOfRange => "Numerical result out of range"

/-- What is wrong when `rest` was not read of a text. -/
def problemOf (t rest : Text) (overflows : Bool) : Option Problem :=
  if !rest.isEmpty then some (if rest.length = t.length then .expected else .incomplete)
  else if overflows then some .outOfRange
  else none

/-- The code of the character behind a quotation mark. -/
def quotedCode? : Text → Option Nat
  | '\'' :: r => some ((r.head?.map Char.toNat).getD 0)
  | '"' :: r => some ((r.head?.map Char.toNat).getD 0)
  | _ => none

/-- The number of an argument, and what is wrong with it. -/
def numberOf (isSigned : Bool) (t : Text) : Int × Option Problem :=
  match quotedCode? t with
  | some n => (n, none)
  | none =>
    let (negative, digits) := takeSign (t.dropWhile Arithmetic.isSpace)
    if !(digits.head?.any Char.isDigit) then (0, problemOf t t false)
    else
      let (n, rest) := Arithmetic.constant digits
      let n : Int := if negative then -(n : Int) else n
      let value : Int :=
        if isSigned then Arithmetic.clamp n
        else if n.natAbs ≥ twoTo 64 then (twoTo 64 : Int) - 1
        else n
      (value, problemOf t rest (value ≠ n))

/-- Decimal digits with the given number of places behind the point. -/
def fixedDigits (v : Ratio) (places : Nat) (point : Bool) : Text :=
  let n := roundQuotient (v.num * tenTo places) v.den
  let digits := Nat.toDigits 10 n
  let digits := List.replicate (places + 1 - digits.length) '0' ++ digits
  let whole := digits.take (digits.length - places)
  if places = 0 then if point then whole ++ ['.'] else whole
  else whole ++ '.' :: digits.drop (digits.length - places)

/-- The power of ten of the first digit of a number that is not zero. -/
def magnitude (v : Ratio) : Int :=
  let guess : Int := (Nat.toDigits 10 v.num).length - (Nat.toDigits 10 v.den).length
  let reached := fun (e : Int) => match e with
    | .ofNat n => decide (v.den * tenTo n ≤ v.num)
    | .negSucc n => decide (v.den ≤ v.num * tenTo (n + 1))
  if reached guess then guess else guess - 1

/-- The digits of a number with one place in front of the point, and the power of ten. -/
def scientific (v : Ratio) (places : Nat) : Text × Int :=
  if v.num = 0 then (List.replicate (places + 1) '0', 0)
  else
    let e := magnitude v
    let n := match (places : Int) - e with
      | .ofNat k => roundQuotient (v.num * tenTo k) v.den
      | .negSucc k => roundQuotient v.num (v.den * tenTo (k + 1))
    if n ≥ tenTo (places + 1) then (Nat.toDigits 10 (n / 10), e + 1) else (Nat.toDigits 10 n, e)

def exponentText (least : Nat) (e : Int) : Text :=
  let digits := Nat.toDigits 10 e.natAbs
  (if e < 0 then '-' else '+') :: List.replicate (least - digits.length) '0' ++ digits

def withPoint (digits : Text) (point : Bool) : Text :=
  match digits with
  | first :: rest => if rest.isEmpty && !point then [first] else first :: '.' :: rest
  | [] => []

def dropZeros (t : Text) : Text := (t.reverse.dropWhile (· == '0')).reverse

/-- Without the zeros at the end of a fraction. -/
def trimFraction (t : Text) : Text :=
  if t.any (· == '.') then
    let t := dropZeros t
    if t.getLast? = some '.' then t.dropLast else t
  else t

/-- The digits of a number in the manner of a directive, without its sign. -/
def fractionDigits (d : Directive) (x : Binary64) : Text :=
  let v := x.toRatio
  let point := d.has '#'
  let lowered := d.kind.toLower
  if lowered = 'f' then fixedDigits v (d.precision.getD 6) point
  else if lowered = 'e' then
    let (digits, e) := scientific v (d.precision.getD 6)
    withPoint digits point ++ 'e' :: exponentText 2 e
  else if lowered = 'g' then
    let p := max 1 (d.precision.getD 6)
    let (digits, e) := scientific v (p - 1)
    if e < -4 || e ≥ p then
      let shown := withPoint digits point
      (if point then shown else trimFraction shown) ++ 'e' :: exponentText 2 e
    else
      let shown := fixedDigits v ((p : Int) - 1 - e).toNat point
      if point then shown else trimFraction shown
  else
    let (lead, rest, e) : Nat × Nat × Int :=
      if x.significand = 0 then (0, 0, 0)
      else
        let shift := 52 - x.significand.log2
        let m := x.significand * twoTo shift
        (m / twoTo 52, m % twoTo 52, x.exponent - shift + 52)
    let hex := fun (n places : Nat) =>
      let digits := Nat.toDigits 16 n
      List.replicate (places - digits.length) '0' ++ digits
    let (lead, fraction) := match d.precision with
      | none => (lead, dropZeros (hex rest 13))
      | some p =>
        if p ≥ 13 then (lead, hex rest 13 ++ List.replicate (p - 13) '0')
        else
          let unit := twoTo (52 - 4 * p)
          let n := roundQuotient (lead * twoTo 52 + rest) unit
          (n / twoTo (4 * p), if p = 0 then [] else hex (n % twoTo (4 * p)) p)
    '0' :: 'x' :: withPoint (Nat.toDigits 16 lead ++ fraction) point ++ 'p' :: exponentText 1 e

def showFraction (d : Directive) (v : Decimal) : Text :=
  let cased := fun (t : Text) => if d.kind.isUpper then t.map Char.toUpper else t
  match v with
  | .finite negative x =>
    match fractionDigits d x with
    | '0' :: 'x' :: digits =>
      d.padZeros (d.sign negative ++ cased ['0', 'x']) (cased digits)
    | digits => d.padZeros (d.sign negative) (cased digits)
  | .infinite negative => d.pad (d.sign negative ++ cased "inf".toList)
  | .notANumber => d.pad (d.sign false ++ cased "nan".toList)

/-- The exponent behind a letter, and what follows it. Without digits it is no exponent. -/
def exponentIn (letter : Char) (t : Text) : Int × Text :=
  match t with
  | c :: r =>
    let (negative, digits) := takeSign r
    if c.toLower = letter && digits.head?.any Char.isDigit then
      let n := ofDigits (digits.takeWhile Char.isDigit)
      (if negative then -(n : Int) else n, digits.dropWhile Char.isDigit)
    else (0, t)
  | [] => (0, [])

/-- A hexadecimal number with a fraction, and what follows it. -/
def hexIn? (t : Text) : Option (Binary64 × Text) :=
  let whole := t.takeWhile isHex
  let (part, rest) := match t.dropWhile isHex with
    | '.' :: r => (r.takeWhile isHex, r.dropWhile isHex)
    | r => ([], r)
  let digits := whole ++ part
  if digits.isEmpty then none
  else
    let n := (Arithmetic.natOf? 16 digits).getD 0
    let (e, rest) := exponentIn 'p' rest
    let x := match max (-2000) (min 2000 e) - 4 * part.length with
      | .ofNat k => Binary64.nearest (n * twoTo k) 1
      | .negSucc k => Binary64.nearest n (twoTo (k + 1))
    some (x, rest)

/-- The number at the front of a text, and what follows it. -/
def decimalIn (t : Text) : Decimal × Text :=
  let (negative, r) := takeSign (t.dropWhile Arithmetic.isSpace)
  let lower := r.map Char.toLower
  if "infinity".toList.isPrefixOf lower then (.infinite negative, r.drop 8)
  else if "inf".toList.isPrefixOf lower then (.infinite negative, r.drop 3)
  else if "nan".toList.isPrefixOf lower then (.notANumber, r.drop 3)
  else
    let hex := if "0x".toList.isPrefixOf lower then hexIn? (r.drop 2) else none
    match hex, takeMantissa r with
    | some (x, rest), _ => (.finite negative x, rest)
    | none, some (m, rest) =>
      let (e, rest) := exponentIn 'e' rest
      (decimalValue negative m.digits (e - m.fraction), rest)
    | none, none => (.finite false Binary64.zero, t)

/-- The number with a fraction of an argument, and what is wrong with it. -/
def fractionOf (t : Text) : Decimal × Option Problem :=
  match quotedCode? t with
  | some n => (.finite false (Binary64.nearest n 1), none)
  | none =>
    let (v, rest) := decimalIn t
    let overflows := match v with
      | .infinite _ => t.any Char.isDigit
      | _ => false
    (v, problemOf t rest overflows)

structure Printed where
  /-- What is printed, latest first. -/
  pieces : List Text
  complaints : List Text
  /-- The format cannot be carried out any further. -/
  failure : Option Text
  /-- Nothing follows any more. -/
  ended : Bool
  args : List Text

namespace Printed

def text (p : Printed) : Text := p.pieces.reverse.flatten

def add (t : Text) (p : Printed) : Printed := { p with pieces := t :: p.pieces }

def next (p : Printed) : Printed := { p with args := p.args.tail }

def complain (arg : Text) (problem : Option Problem) (p : Printed) : Printed :=
  match problem with
  | some x => { p with complaints := p.complaints ++ [arg ++ (": " ++ x.message).toList] }
  | none => p

def fail (message : Text) (p : Printed) : Printed :=
  { p with failure := some message, ended := true }

end Printed

/-- Digits of a width or precision; a star takes the next argument, of which 32 bits count. -/
def count (t : Text) (p : Printed) : Option Int × Text × Printed :=
  match t with
  | '*' :: r =>
    let arg := p.args.head?.getD []
    let (n, problem) := numberOf true arg
    (some (Int.bmod n (twoTo 32)), r, p.next.complain arg problem)
  | t =>
    let digits := t.takeWhile Char.isDigit
    ((Arithmetic.natOf? 10 digits).map fun n => (n : Int), t.drop digits.length, p)

/-- Print the next argument in the manner of a directive. -/
def direct (d : Directive) (p : Printed) : Option Printed :=
  let arg := p.args.head?.getD []
  let cut := fun (t : Text) => match d.precision with
    | some n => t.take n
    | none => t
  match d.kind with
  | 's' => some (p.next.add (d.pad (cut arg)))
  | 'b' =>
    let (t, ended) := unescape (arg.length + 1) arg
    some { p.next.add (d.pad (cut t)) with ended }
  | 'c' => some (p.next.add (d.pad [arg.head?.getD '\x00']))
  | kind =>
    if "diouxX".toList.any (· == kind) then
      let (n, problem) := numberOf (kind == 'd' || kind == 'i') arg
      some ((p.next.complain arg problem).add (showNumber d n))
    else if "aAeEfFgG".toList.any (· == kind) then
      let (v, problem) := if p.args.isEmpty then (.finite false Binary64.zero, none)
        else fractionOf arg
      some ((p.next.complain arg problem).add (showFraction d v))
    else none

/-- Carry a format out once. -/
def once : Nat → Text → Printed → Printed
  | 0, _, p => p
  | _ + 1, [], p => p
  | fuel + 1, '\\' :: r, p =>
    let (c, rest) := escape r
    once fuel rest (p.add [c])
  | fuel + 1, '%' :: '%' :: r, p => once fuel r (p.add ['%'])
  | fuel + 1, '%' :: r, p =>
    let isFlag := fun c => "#-+ 0".toList.contains c
    let flags := r.takeWhile isFlag
    let (width, r', p) := count (r.dropWhile isFlag) p
    let (precision, r'', p) : Option Int × Text × Printed := match r' with
      | '.' :: q => let x := count q p; (some (x.1.getD 0), x.2)
      | q => (none, q, p)
    match r'' with
    | [] => p.fail "missing format character".toList
    | kind :: rest =>
      let width := width.getD 0
      let flags := if width < 0 then '-' :: flags else flags
      let precision := precision.bind fun n => if n < 0 then none else some n.toNat
      match direct ⟨flags, width.natAbs, precision, kind⟩ p with
      | some p => if p.ended then p else once fuel rest p
      | none =>
        p.fail ('%' :: r.take (r.length - rest.length) ++ ": invalid directive".toList)
  | fuel + 1, c :: r, p =>
    let isOrdinary := fun d => d != '%' && d != '\\'
    once fuel (r.dropWhile isOrdinary) (p.add (c :: r.takeWhile isOrdinary))

/-- Carry a format out until no arguments are left. -/
def printFrom (format : Text) : Nat → Printed → Printed
  | 0, p => p
  | fuel + 1, p =>
    let p' := once (format.length + 1) format p
    if p'.ended || p'.args.isEmpty || p'.args.length = p.args.length then p'
    else printFrom format fuel p'

def print (format : Text) (args : List Text) : Printed :=
  printFrom format (args.length + 1) ⟨[], [], none, false, args⟩

end Exemplar.Shell.Format
