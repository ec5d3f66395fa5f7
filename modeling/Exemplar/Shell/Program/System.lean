import Exemplar.Shell.Format
import Exemplar.Shell.Program.Lines

/-!
# Programs about the system

Waiting, the environment, the user, and the bytes of files in other forms.
-/
namespace Exemplar.Shell.Program
open Text
open Builtin (Given)

def second : Nat := 1000000000

/-- A number of seconds with an optional unit, in nanoseconds. -/
def pause? (t : Text) : Option Nat :=
  let (digits, unit) : Text × Nat := match t.getLast? with
    | some 's' => (t.dropLast, 1)
    | some 'm' => (t.dropLast, 60)
    | some 'h' => (t.dropLast, 3600)
    | some 'd' => (t.dropLast, 86400)
    | _ => (t, 1)
  let digits := if digits.head? = some '+' then digits.tail else digits
  if digits = "inf".toList || digits = "infinity".toList then some (second * second)
  else
    let whole := digits.takeWhile Char.isDigit
    let rest := digits.dropWhile Char.isDigit
    let part := rest.tail
    if whole.isEmpty && part.isEmpty then none
    else if rest.isEmpty || (rest.head? = some '.' && part.all Char.isDigit) then
      let places := part.take 9 ++ List.replicate (9 - part.length) '0'
      some (((natOf? whole).getD 0 * second + (natOf? places).getD 0) * unit)
    else none

def sleep : Action := fun args s =>
  withOptions 1 (letters "") args s fun g s =>
    match g.operands.filter fun a => (pause? a).isNone with
    | [] =>
      if g.operands.isEmpty then misused 1 "missing operand".toList s
      else
        let total := (g.operands.filterMap pause?).foldl (· + ·) 0
        (s.withStatus 0).spend total
    | wrong =>
      let s := wrong.dropLast.foldl (fun s a =>
        say ("invalid time interval ".toList ++ inQuotes a) s) s
      misused 1 ("invalid time interval ".toList ++ inQuotes (wrong.getLast?.getD [])) s

/-- Variables that programs see. -/
def environment (s : State) : List (Text × Text) :=
  s.bindings.filterMap fun e => if e.2.exported then e.2.value.map fun v => (e.1, v) else none

def printEnvironment (null : Bool) (s : State) : State :=
  let ending := if null then '\x00' else '\n'
  print ((environment s).flatMap fun e => e.1 ++ '=' :: e.2 ++ [ending]) (s.withStatus 0)

def printenv : Action := fun args s =>
  withOptions 2 ⟨"0", [("null", '0')], true⟩ args s fun g s =>
    if g.operands.isEmpty then printEnvironment (g.has '0') s
    else g.operands.foldl (fun s name =>
      match (environment s).lookup name with
      | some v => print (v ++ [if g.has '0' then '\x00' else '\n']) s
      | none => s.withStatus 1) (s.withStatus 0)

/-- A program that always prints the same. -/
def constantly (t : String) : Action := fun _ s => print t.toList (s.withStatus 0)

def id : Action := fun args s =>
  withOptions 1 (letters "ugnGr") args s fun g s =>
    let shown := if g.has 'u' || g.has 'g' || g.has 'G' then if g.has 'n' then "root\n" else "0\n"
      else "uid=0(root) gid=0(root) groups=0(root)\n"
    print shown.toList (s.withStatus 0)

def uname : Action := fun args s =>
  withOptions 1 (letters "asnrvmpio") args s fun g s =>
    let parts := [('s', "Linux"), ('n', "localhost"), ('r', "5.15.0"), ('v', "#1 SMP"),
      ('m', "x86_64"), ('o', "GNU/Linux")]
    let chosen := if g.options.isEmpty then [('s', "Linux")]
      else parts.filter fun p => g.has p.1 || g.has 'a'
    print (" ".intercalate (chosen.map Prod.snd) ++ "\n").toList (s.withStatus 0)

def sixBits : List Char :=
  "ABCDEFGHIJKLMNOPQRSTUVWXYZabcdefghijklmnopqrstuvwxyz0123456789+/".toList

/-- Three bytes as four characters. -/
def encoded : Text → Text
  | a :: b :: c :: r =>
    let n := a.toNat * 65536 + b.toNat * 256 + c.toNat
    digits n 4 ++ encoded r
  | [a, b] => digits (a.toNat * 65536 + b.toNat * 256) 3 ++ ['=']
  | [a] => digits (a.toNat * 65536) 2 ++ ['=', '=']
  | [] => []
where
  digits (n count : Nat) : Text :=
    ([n / 262144 % 64, n / 4096 % 64, n / 64 % 64, n % 64].take count).map fun k =>
      (sixBits[k]?).getD 'A'

/-- Four characters as three bytes; nothing if they are no such code. -/
def decoded : Text → Option Text
  | a :: b :: c :: d :: r => do
    let value := fun (x : Char) =>
      if x = '=' then some 0
      else if sixBits.any (· == x) then some (sixBits.takeWhile (· != x)).length
      else none
    let n := (← value a) * 262144 + (← value b) * 4096 + (← value c) * 64 + (← value d)
    let bytes := [n / 65536, n / 256 % 256, n % 256].map Char.ofNat
    let kept := if c = '=' then 1 else if d = '=' then 2 else 3
    return bytes.take kept ++ (← decoded r)
  | [] => some []
  | _ => none

def wrapped (width : Nat) : Nat → Text → Text
  | 0, t => t
  | fuel + 1, t =>
    if t.isEmpty then []
    else if width = 0 then t
    else t.take width ++ '\n' :: wrapped width fuel (t.drop width)

def base64 : Action := fun args s =>
  withOptions 1 ⟨"dw:i", [("decode", 'd'), ("wrap", 'w')], false⟩ args s fun g s =>
    eachInput plainTrouble 1 g.operands (s.withStatus 0) fun _ t s =>
      if g.has 'd' then
        match decoded (t.filter (· != '\n')) with
        | some t => print t s
        | none => fail 1 "invalid input".toList s
      else
        let width := ((g.value? 'w').bind natOf?).getD 76
        let code := encoded t
        print (wrapped width (code.length + 1) code) s

/-- How `od` shows a unit of bytes. -/
structure Dump where
  /-- Bytes of a unit. -/
  size : Nat
  /-- Columns of a unit. -/
  width : Nat
  show' : Nat → Text

def padTo (fill : Char) (n : Nat) (t : Text) : Text := List.replicate (n - t.length) fill ++ t

/-- A byte as a character, by its escape or by its number. -/
def charShown (n : Nat) : Text :=
  match Char.ofNat n with
  | '\x00' => ['\\', '0']
  | '\x07' => ['\\', 'a']
  | '\x08' => ['\\', 'b']
  | '\t' => ['\\', 't']
  | '\n' => ['\\', 'n']
  | '\x0b' => ['\\', 'v']
  | '\x0c' => ['\\', 'f']
  | '\r' => ['\\', 'r']
  | c => if ' ' ≤ c && c ≤ '~' then [c] else padTo '0' 3 (Nat.toDigits 8 n)

def Dump.ofType (t : Text) : Dump :=
  match t with
  | ['c'] => ⟨1, 4, charShown⟩
  | 'x' :: r =>
    let n := (natOf? r).getD 4
    ⟨n, 2 * n + 1, fun k => padTo '0' (2 * n) (Nat.toDigits 16 k)⟩
  | 'd' :: r =>
    let n := (natOf? r).getD 4
    let half := Number.twoTo (8 * n - 1)
    ⟨n, if n = 1 then 5 else if n = 2 then 7 else 12,
      fun k => Arithmetic.ofInt (if k ≥ half then (k : Int) - 2 * half else k)⟩
  | 'u' :: r =>
    let n := (natOf? r).getD 4
    ⟨n, if n = 1 then 4 else if n = 2 then 6 else 11, ofNat⟩
  | 'o' :: r =>
    let n := (natOf? r).getD 4
    let w := if n = 1 then 3 else if n = 2 then 6 else 11
    ⟨n, w + 1, fun k => padTo '0' w (Nat.toDigits 8 k)⟩
  | _ => ⟨2, 7, fun k => padTo '0' 6 (Nat.toDigits 8 k)⟩

/-- The units of a row of bytes, the first byte being the lowest. -/
def units (size : Nat) : Nat → Text → List Nat
  | 0, _ => []
  | fuel + 1, t =>
    if t.isEmpty then []
    else ((t.take size).foldr (fun c n => n * 256 + c.toNat) 0) :: units size fuel (t.drop size)

/-- Rows of sixteen bytes; a row like the one before it is left out. -/
def dumpRows (d : Dump) (address : Nat → Text) : Nat → Nat → Option Text → Bool → Text → List Text
  | 0, _, _, _, _ => []
  | fuel + 1, offset, before, starred, t =>
    if t.isEmpty then [address offset]
    else
      let row := t.take 16
      if before = some row && t.length > 16 then
        (if starred then [] else [['*']]) ++
          dumpRows d address fuel (offset + 16) before true (t.drop 16)
      else
        let shown := (units d.size 17 row).flatMap fun k => padTo ' ' d.width (d.show' k)
        (address offset ++ shown) ::
          dumpRows d address fuel (offset + row.length) (some row) false (t.drop 16)

def od : Action := fun args s =>
  withOptions 1 ⟨"cbxdoA:t:vN:j:w:", [("address-radix", 'A'), ("format", 't')], false⟩ args s
    fun g s =>
    let (t, s) := allInput plainTrouble 1 g.operands (s.withStatus 0)
    let t := match (g.value? 'N').bind natOf? with
      | some n => t.take n
      | none => t
    let kind : Text := match g.last? ['c', 'b', 'x', 'd', 'o', 't'] with
      | some 'c' => ['c']
      | some 'b' => "o1".toList
      | some 'x' => "x2".toList
      | some 'd' => "u2".toList
      | some 't' => (g.value? 't').getD []
      | _ => "o2".toList
    let address := fun (n : Nat) =>
      match (g.value? 'A').map String.ofList with
      | some "n" => []
      | some "d" => padTo '0' 7 (ofNat n)
      | some "x" => padTo '0' 6 (Nat.toDigits 16 n)
      | _ => padTo '0' 7 (Nat.toDigits 8 n)
    let rows := dumpRows (Dump.ofType kind) address (t.length + 2) 0 none false t
    let rows := if g.value? 'A' = some ['n'] then rows.dropLast else rows
    print (unlines rows) s

end Exemplar.Shell.Program
