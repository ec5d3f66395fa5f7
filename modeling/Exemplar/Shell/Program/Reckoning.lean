import Exemplar.Shell.Format
import Exemplar.Shell.Program.Basic
import Exemplar.Shell.Regex

/-!
# Programs that reckon

Expressions whose parts are arguments, rows of numbers, and factors.
-/
namespace Exemplar.Shell.Program
open Text Number
open Builtin (Given)

namespace Expr

/-- A value with the arguments behind it and the argument in front of them. -/
structure Value where
  text : Text
  rest : List Text
  last : Text

abbrev Reading := Except Text

def integer? (t : Text) : Option Int :=
  let (negative, digits) := match t with
    | '-' :: r => (true, r)
    | r => (false, r)
  (natOf? digits).map fun n => if negative then -(n : Int) else n

def isTrue (t : Text) : Bool :=
  match integer? t with
  | some n => n ≠ 0
  | none => !t.isEmpty

def missing (last : Text) : Text := "syntax error: missing argument after ".toList ++ inQuotes last

def truth (b : Bool) : Text := if b then ['1'] else ['0']

/-- Match a text from its beginning: what the first group accepts, or how much is accepted. -/
def matched (t pattern : Text) : Reading Text :=
  match Regex.read ⟨false, true⟩ pattern with
  | .error e => .error e.message.toList
  | .ok x =>
    let m := Regex.mannerFor x false false
    let hasGroup := "\\(".toList.isPrefixOf pattern || (breakOn "\\(".toList pattern).isSome
    match Regex.solve m (1000 + 20 * t.length) [.item x] ⟨none, t, 0, []⟩ none with
    | some s => .ok (if hasGroup then (s.groups.lookup 1).getD [] else ofNat s.offset)
    | none => .ok (if hasGroup then [] else ['0'])

def compared (o : String) (a b : Text) : Bool :=
  let found := match integer? a, integer? b with
    | some x, some y => compare x y
    | _, _ => if a = b then .eq else if before a b then .lt else .gt
  match o with
  | "<" => found == .lt
  | "<=" => found != .gt
  | ">" => found == .gt
  | ">=" => found != .lt
  | "!=" => found != .eq
  | _ => found == .eq

def reckoned (o : String) (a b : Text) : Reading Text :=
  match integer? a, integer? b with
  | some x, some y =>
    match o with
    | "+" => .ok (Arithmetic.ofInt (x + y))
    | "-" => .ok (Arithmetic.ofInt (x - y))
    | "*" => .ok (Arithmetic.ofInt (x * y))
    | "/" => if y = 0 then .error "division by zero".toList else .ok (Arithmetic.ofInt (x.tdiv y))
    | _ => if y = 0 then .error "division by zero".toList else .ok (Arithmetic.ofInt (x.tmod y))
  | _, _ => .error "non-integer argument".toList

/-- Operators by how tightly they bind, loosest first. -/
def levels : List (List String) :=
  [["|"], ["&"], ["<", "<=", "=", "==", "!=", ">=", ">"], ["+", "-"], ["*", "/", "%"], [":"]]

def apply (o : String) (a b : Text) : Reading Text :=
  match o with
  | "|" => .ok (if isTrue a then a else if isTrue b then b else ['0'])
  | "&" => .ok (if isTrue a && isTrue b then a else ['0'])
  | ":" => matched a b
  | o =>
    if ["+", "-", "*", "/", "%"].contains o then reckoned o a b else .ok (truth (compared o a b))

mutual

/-- A value of operators from a level on. -/
def value : Nat → Nat → Text → List Text → Reading Value
  | 0, _, last, _ => .error (missing last)
  | fuel + 1, level, last, args =>
    match levels[level]? with
    | none => primary fuel last args
    | some _ => do
      let first ← value fuel (level + 1) last args
      more fuel level first

def more : Nat → Nat → Value → Reading Value
  | 0, _, v => .ok v
  | fuel + 1, level, v =>
    match v.rest with
    | [] => .ok v
    | o :: rest =>
      if ((levels[level]?).getD []).contains (String.ofList o) then do
        let second ← value fuel (level + 1) o rest
        let text ← apply (String.ofList o) v.text second.text
        more fuel level { second with text }
      else .ok v

/-- The value of a single operand. -/
def primary : Nat → Text → List Text → Reading Value
  | 0, last, _ => .error (missing last)
  | fuel + 1, last, args =>
    match args with
    | [] => .error (missing last)
    | a :: rest =>
      match String.ofList a with
      | "(" => do
        let v ← value fuel 0 a rest
        match v.rest with
        | [')'] :: rest => return { v with rest, last := [')'] }
        | [] => .error ("syntax error: expecting ')' after ".toList ++ inQuotes v.last)
        | x :: _ => .error ("syntax error: expecting ')' instead of ".toList ++ inQuotes x)
      | ")" => .error "syntax error: unexpected ')'".toList
      | "+" =>
        match rest with
        | t :: rest => .ok ⟨t, rest, t⟩
        | [] => .error (missing a)
      | "length" => do
        let v ← value fuel 6 a rest
        return { v with text := ofNat v.text.length }
      | "match" => do
        let x ← value fuel 6 a rest
        let y ← value fuel 6 x.last x.rest
        return { y with text := ← matched x.text y.text }
      | "index" => do
        let x ← value fuel 6 a rest
        let y ← value fuel 6 x.last x.rest
        let front := x.text.takeWhile fun c => !y.text.any (· == c)
        return { y with text := if front.length < x.text.length then ofNat (front.length + 1) else ['0'] }
      | "substr" => do
        let x ← value fuel 6 a rest
        let y ← value fuel 6 x.last x.rest
        let z ← value fuel 6 y.last y.rest
        let text := match integer? y.text, integer? z.text with
          | some p, some n =>
            if p ≤ 0 || n ≤ 0 then [] else (x.text.drop (p.toNat - 1)).take n.toNat
          | _, _ => []
        return { z with text }
      | _ => .ok ⟨a, rest, a⟩

end

end Expr

def expr : Action := fun args s =>
  let args := if args.head? = some ['-', '-'] then args.tail else args
  if args.isEmpty then misused 2 "missing operand".toList s
  else match Expr.value (20 * args.length + 20) 0 [] args with
    | .error message => fail 2 message s
    | .ok v =>
      match v.rest with
      | x :: _ => fail 2 ("syntax error: unexpected argument ".toList ++ inQuotes x) s
      | [] => print (v.text ++ ['\n']) (s.withStatus (if Expr.isTrue v.text then 0 else 1))

/-- A decimal number as a whole number of units, and the places of its fraction. -/
structure Fixed where
  units : Int
  places : Nat

def Fixed.read (t : Text) : Option Fixed :=
  let (negative, r) := match t with
    | '-' :: r => (true, r)
    | '+' :: r => (false, r)
    | r => (false, r)
  match takeMantissa r with
  | none => none
  | some (m, rest) =>
    let (e, rest) := Format.exponentIn 'e' rest
    if !rest.isEmpty then none
    else
      let units : Int := (ofDigits m.digits : Nat)
      let n := if negative then -units else units
      match (m.fraction : Int) - e with
      | .ofNat places => some ⟨n, places⟩
      | .negSucc k => some ⟨n * (tenTo (k + 1) : Int), 0⟩

/-- The number with more places. -/
def Fixed.scaled (places : Nat) (x : Fixed) : Int := x.units * (tenTo (places - x.places) : Int)

/-- A number of a row: a decimal number, a whole number to base sixteen, or one that is never
reached. -/
def rowNumber (t : Text) : Option Fixed :=
  let (negative, r) := match t with
    | '-' :: r => (true, r)
    | '+' :: r => (false, r)
    | r => (false, r)
  let signed := fun (n : Nat) => (⟨if negative then -(n : Int) else n, 0⟩ : Fixed)
  match r.map Char.toLower with
  | '0' :: 'x' :: digits => (Arithmetic.natOf? 16 digits).map signed
  | r =>
    if r = "inf".toList || r = "infinity".toList then some (signed (tenTo 30)) else Fixed.read t

/-- What is wrong with a format for the numbers of a row. -/
def formatTrouble? (format : Text) : Option Text :=
  let told := fun (what : String) =>
    some ("format ".toList ++ inQuotes format ++ (' ' :: what.toList))
  match directive? (format.length + 1) format with
  | none => told "has no % directive"
  | some rest =>
    let rest := rest.dropWhile fun c => "-+#0 '".toList.any (· == c)
    let rest := rest.dropWhile Char.isDigit
    let rest := if rest.head? = some '.' then rest.tail.dropWhile Char.isDigit else rest
    let rest := if rest.head? = some 'L' then rest.tail else rest
    match rest with
    | [] => told "ends in %"
    | c :: rest =>
      if !"efgaEFGA".toList.any (· == c) then
        told ("has unknown %" ++ String.ofList [c] ++ " directive")
      else if (directive? (rest.length + 1) rest).isSome then told "has too many % directives"
      else none
where
  /-- What stands behind the sign of the first directive. -/
  directive? : Nat → Text → Option Text
    | 0, _ => none
    | fuel + 1, t =>
      match t.dropWhile (· != '%') with
      | '%' :: '%' :: r => directive? fuel r
      | '%' :: r => some r
      | _ => none

/-- The text of a number of units. -/
def Fixed.shown (places : Nat) (units : Int) : Text :=
  let digits := ofNat units.natAbs
  let digits := List.replicate (places + 1 - digits.length) '0' ++ digits
  let whole := digits.take (digits.length - places)
  let body := if places = 0 then whole else whole ++ '.' :: digits.drop (digits.length - places)
  if units < 0 then '-' :: body else body

/-- As many zeros behind the sign as a width asks for. -/
def zeroFilled (width : Nat) (t : Text) : Text :=
  match t with
  | '-' :: r => '-' :: List.replicate (width - t.length) '0' ++ r
  | t => List.replicate (width - t.length) '0' ++ t

/-- Options of `seq`; a negative number is no option. -/
def seqOptions : Nat → List Text → List (Char × Text) → Except Text Given
  | 0, args, given => .ok ⟨given, args⟩
  | fuel + 1, args, given =>
    match args with
    | ['-', '-'] :: rest => .ok ⟨given, rest⟩
    | ('-' :: c :: r) :: rest =>
      if c.isDigit || c = '.' then .ok ⟨given, args⟩
      else if c = '-' then
        if r = "equal-width".toList then seqOptions fuel rest (('w', []) :: given)
        else match breakOn ['='] r with
          | some (name, v) =>
            let letter := if name = "separator".toList then 's' else 'f'
            seqOptions fuel rest ((letter, v) :: given)
          | none => .error ("unrecognized option ".toList ++ inQuotes ('-' :: '-' :: r))
      else if c = 'w' then
        seqOptions fuel (if r.isEmpty then rest else ('-' :: r) :: rest) (('w', []) :: given)
      else if c = 's' || c = 'f' then
        if !r.isEmpty then seqOptions fuel rest ((c, r) :: given)
        else match rest with
          | v :: rest => seqOptions fuel rest ((c, v) :: given)
          | [] => .error (optionTrouble (.noValue c))
      else .error (optionTrouble (.illegal c))
    | args => .ok ⟨given, args⟩

/-- How many numbers a row may have. -/
def rowLimit : Nat := 200000

def seq : Action := fun args s =>
  match seqOptions (args.length + 1) args [] with
  | .error message => misused 1 message s
  | .ok g =>
    match g.operands.find? fun t => (rowNumber t).isNone with
    | some t =>
      if g.operands.length > 3 then
        misused 1 ("extra operand ".toList ++ inQuotes ((g.operands[3]?).getD [])) s
      else misused 1 ("invalid floating point argument: ".toList ++ inQuotes t) s
    | none =>
      let row := fun (a b c : Fixed) =>
        match (g.value? 'f').bind formatTrouble? with
        | some message => fail 1 message s
        | none =>
        let places := max a.places b.places
        let all := max places c.places
        let (first, step, last) := (a.scaled all, b.scaled all, c.scaled all)
        if step = 0 then
          let shown := (g.operands[1]?).getD []
          misused 1 ("invalid Zero increment value: ".toList ++ inQuotes shown) s
        else
          let count := (if step > 0 then (last - first) / step + 1
            else (first - last) / (-step) + 1).toNat
          let unit : Int := (tenTo (all - places) : Int)
          let texts := (List.range (min count rowLimit)).map fun (i : Nat) =>
            Fixed.shown places ((first + step * (i : Int)) / unit)
          let texts := match g.value? 'f' with
            | some format => texts.map fun t => (Format.print format [t]).text
            | none =>
              if g.has 'w' then
                let width := texts.foldl (fun n (t : Text) => max n t.length) 0
                texts.map (zeroFilled width)
              else texts
          let between := (g.options.lookup 's').getD ['\n']
          let t := (texts.intersperse between).flatten
          print (if texts.isEmpty then [] else t ++ ['\n']) (s.withStatus 0)
      match g.operands.filterMap rowNumber with
      | [] => misused 1 "missing operand".toList s
      | [c] => row ⟨1, 0⟩ ⟨1, 0⟩ c
      | [a, c] => row a ⟨1, 0⟩ c
      | [a, b, c] => row a b c
      | _ => misused 1 ("extra operand ".toList ++ inQuotes ((g.operands[3]?).getD [])) s

/-- Factors of a number from a divisor on. -/
def factorsFrom : Nat → Nat → Nat → List Nat
  | 0, _, n => [n]
  | fuel + 1, d, n =>
    if n < 2 then []
    else if d * d > n then [n]
    else if n % d = 0 then d :: factorsFrom fuel d (n / d)
    else factorsFrom fuel (d + 1) n

def factor : Action := fun args s =>
  let run := fun (words : List Text) (s : State) =>
    words.foldl (fun s w =>
      match natOf? w with
      | some n =>
        print (ofNat n ++ ':' :: (factorsFrom 1000000 2 n).flatMap (fun f => ' ' :: ofNat f) ++ ['\n']) s
      | none => fail 1 (inQuotes w ++ " is not a valid positive integer".toList) s) s
  if args.isEmpty then
    let (t, s) := allInput plainTrouble 1 [] (s.withStatus 0)
    run ((splitBy Arithmetic.isSpace t).filter fun w => !w.isEmpty) s
  else run args (s.withStatus 0)

end Exemplar.Shell.Program
