import Exemplar.Number.Power
import Exemplar.Shell.Syntax
import Exemplar.Text.Search

/-!
# Arithmetic of the shell

Expressions are over whole numbers of 64 bits, which wrap. A name stands for the number
in its variable. Assignments are collected beside the value, latest first.
-/
namespace Exemplar.Shell.Arithmetic
open Text Number

inductive Error
  | expecting (what : String)
  | illegalNumber (text : Text)
  | divisionByZero
  deriving DecidableEq, Repr

inductive Symbol
  | number (n : Int)
  | name (t : Text)
  | operator (o : String)
  /-- A character that means nothing here. -/
  | bad
  deriving DecidableEq, Repr

/-- The number of 64 bits that a number wraps to. -/
def wrap (n : Int) : Int := Int.bmod n (twoTo 64)

def digitOf (c : Char) : Nat :=
  if c.isDigit then c.toNat - '0'.toNat
  else if 'a' ≤ c && c ≤ 'f' then c.toNat - 'a'.toNat + 10
  else if 'A' ≤ c && c ≤ 'F' then c.toNat - 'A'.toNat + 10
  else 99

/-- The number that digits to a base denote. -/
def natOf? (base : Nat) (t : Text) : Option Nat :=
  if t.isEmpty || t.any (fun c => digitOf c ≥ base) then none
  else some (t.foldl (fun n c => n * base + digitOf c) 0)

/-- The number below 2³¹ that a text denotes. Blanks may stand around it, and a sign before. -/
def small? (t : Text) : Option Nat :=
  let isBlank := fun c => c == ' ' || ('\t' ≤ c && c ≤ '\x0d')
  let t := ((t.dropWhile isBlank).reverse.dropWhile isBlank).reverse
  let (negative, digits) := match t with
    | '+' :: r => (false, r)
    | '-' :: r => (true, r)
    | r => (false, r)
  if digits.all Char.isDigit then
    (natOf? 10 digits).filter fun n => decide (n < twoTo 31) && (!negative || n == 0)
  else none

/-- The number that the digits at the front of a text denote, and what follows them. -/
def leading (base : Nat) (t : Text) : Nat × Text :=
  let isDigit := fun c => decide (digitOf c < base)
  ((natOf? base (t.takeWhile isDigit)).getD 0, t.dropWhile isDigit)

/-- The constant at the front of a text: decimal, octal behind a `0` or hexadecimal behind
`0x`. -/
def constant (t : Text) : Nat × Text :=
  match t with
  | '0' :: x :: d :: r =>
    if (x = 'x' || x = 'X') && digitOf d < 16 then leading 16 (d :: r) else leading 8 t
  | '0' :: _ => leading 8 t
  | t => leading 10 t

def isSpace (c : Char) : Bool := c == ' ' || ('\t' ≤ c && c ≤ '\x0d')

/-- The greatest number, and how far below zero the least one is. -/
def greatest : Nat := twoTo 63 - 1

def clamp (n : Int) : Int := max (-(twoTo 63 : Int)) (min n greatest)

/-- A number in a text with blanks around it. Neither an empty text nor a number that is too
large is one. -/
def numberIn? (decimal : Bool) (t : Text) : Option Int :=
  let t := t.dropWhile isSpace
  let (negative, digits) := match t with
    | '-' :: r => (true, r)
    | '+' :: r => (false, r)
    | r => (false, r)
  let (n, rest) := if decimal then leading 10 digits else constant digits
  let n : Int := if negative then -(n : Int) else n
  if !(digits.head?.any Char.isDigit) || !rest.all isSpace || clamp n ≠ n then none else some n

def operators : List String :=
  ["<<=", ">>=", "<<", ">>", "<=", ">=", "==", "!=", "&&", "||", "+=", "-=", "*=", "/=", "%=",
    "&=", "^=", "|=", "(", ")", "!", "~", "*", "/", "%", "+", "-", "<", ">", "&", "^", "|", "?",
    ":", "="]

/-- The symbols of a text. -/
def symbolsFrom : Nat → Text → List Symbol
  | 0, _ => []
  | _ + 1, [] => []
  | fuel + 1, c :: r =>
    if isSpace c then symbolsFrom fuel r
    else if c.isDigit then
      let (n, rest) := constant (c :: r)
      .number (clamp n) :: symbolsFrom fuel rest
    else if isNameStart c then
      .name ((c :: r).takeWhile isNameChar) :: symbolsFrom fuel ((c :: r).dropWhile isNameChar)
    else
      match operators.findSome? fun o => (stripPrefix? o.toList (c :: r)).map fun x => (o, x) with
      | some (o, rest) => .operator o :: symbolsFrom fuel rest
      | none => [.bad]

def symbols (t : Text) : List Symbol := symbolsFrom (t.length + 1) t

/-- How tightly an operator of two operands binds. -/
def strength : String → Option Nat
  | "||" => some 1
  | "&&" => some 2
  | "|" => some 3
  | "^" => some 4
  | "&" => some 5
  | "==" => some 6
  | "!=" => some 6
  | "<" => some 7
  | "<=" => some 7
  | ">" => some 7
  | ">=" => some 7
  | "<<" => some 8
  | ">>" => some 8
  | "+" => some 9
  | "-" => some 9
  | "*" => some 10
  | "/" => some 10
  | "%" => some 10
  | _ => none

def truth (b : Bool) : Int := if b then 1 else 0

/-- The bits of a number as a natural number. -/
def bits (n : Int) : Nat := (n % (twoTo 64 : Int)).toNat

def apply (o : String) (a b : Int) : Except Error Int :=
  match o with
  | "||" => .ok (truth (a ≠ 0 || b ≠ 0))
  | "&&" => .ok (truth (a ≠ 0 && b ≠ 0))
  | "|" => .ok (wrap (bits a ||| bits b))
  | "^" => .ok (wrap (bits a ^^^ bits b))
  | "&" => .ok (wrap (bits a &&& bits b))
  | "==" => .ok (truth (a = b))
  | "!=" => .ok (truth (a ≠ b))
  | "<" => .ok (truth (a < b))
  | "<=" => .ok (truth (a ≤ b))
  | ">" => .ok (truth (a > b))
  | ">=" => .ok (truth (a ≥ b))
  | "<<" => .ok (wrap (a * (twoTo (b % 64).toNat : Int)))
  | ">>" => .ok (a / (twoTo (b % 64).toNat : Int))
  | "+" => .ok (wrap (a + b))
  | "-" => .ok (wrap (a - b))
  | "*" => .ok (wrap (a * b))
  | "/" => if b = 0 then .error .divisionByZero else .ok (wrap (a.tdiv b))
  | "%" => if b = 0 then .error .divisionByZero else .ok (a.tmod b)
  | _ => .error (.expecting "EOF")

/-- The operator inside of a compound assignment. -/
def compound? (o : String) : Option String :=
  if ["+=", "-=", "*=", "/=", "%=", "&=", "^=", "|=", "<<=", ">>="].contains o then
    some (String.ofList (o.toList.dropLast))
  else none

abbrev Assigned := List (Text × Text)

def ofInt (n : Int) : Text := (toString n).toList

/-- What evaluating a part gives. -/
structure Partial where
  value : Int
  assigned : Assigned
  rest : List Symbol

variable (lookup : Text → Text)

def valueOf (assigned : Assigned) (name : Text) : Except Error Int :=
  let t := (assigned.lookup name).getD (lookup name)
  if t.all isSpace then .ok 0
  else match numberIn? false t with
    | some n => .ok n
    | none => .error (.illegalNumber t)

mutual

/-- An assignment or a choice. Parts that are not `live` have no effect. -/
def whole (live : Bool) : Nat → Assigned → List Symbol → Except Error Partial
  | 0, _, _ => .error (.expecting "primary")
  | fuel + 1, assigned, .name x :: .operator o :: r =>
    if o = "=" then do
      let p ← whole live fuel assigned r
      return { p with assigned := if live then (x, ofInt p.value) :: p.assigned else p.assigned }
    else
      match compound? o with
      | some o' => do
        let p ← whole live fuel assigned r
        let old ← if live then valueOf lookup p.assigned x else .ok 0
        let value ← if live then apply o' old p.value else .ok 0
        return { p with
          value
          assigned := if live then (x, ofInt value) :: p.assigned else p.assigned }
      | none => choice live fuel assigned (.name x :: .operator o :: r)
  | fuel + 1, assigned, r => choice live fuel assigned r

def choice (live : Bool) : Nat → Assigned → List Symbol → Except Error Partial
  | 0, _, _ => .error (.expecting "primary")
  | fuel + 1, assigned, r => do
    let test ← binary live 1 fuel assigned r
    match test.rest with
    | .operator "?" :: r => do
      let yes ← whole (live && test.value ≠ 0) fuel test.assigned r
      match yes.rest with
      | .operator ":" :: r =>
        let no ← choice (live && test.value = 0) fuel yes.assigned r
        return { no with value := if test.value ≠ 0 then yes.value else no.value }
      | _ => .error (.expecting "':'")
    | _ => return test

/-- Operands joined by operators of at least the given strength. -/
def binary (live : Bool) (least : Nat) : Nat → Assigned → List Symbol → Except Error Partial
  | 0, _, _ => .error (.expecting "primary")
  | fuel + 1, assigned, r => do
    let first ← unary live fuel assigned r
    binaryFrom live least fuel first

def binaryFrom (live : Bool) (least : Nat) : Nat → Partial → Except Error Partial
  | 0, _ => .error (.expecting "primary")
  | fuel + 1, left =>
    match left.rest with
    | .operator o :: r =>
      match strength o with
      | none => .ok left
      | some level =>
        if level < least then .ok left
        else do
          let decided := (o = "||" && left.value ≠ 0) || (o = "&&" && left.value = 0)
          let right ← binary (live && !decided) (level + 1) fuel left.assigned r
          let value ← if live then apply o left.value right.value else .ok 0
          binaryFrom live least fuel { right with value }
    | _ => .ok left

def unary (live : Bool) : Nat → Assigned → List Symbol → Except Error Partial
  | 0, _, _ => .error (.expecting "primary")
  | fuel + 1, assigned, r =>
    match r with
    | .operator "-" :: r => do
      let p ← unary live fuel assigned r
      return { p with value := wrap (-p.value) }
    | .operator "+" :: r => unary live fuel assigned r
    | .operator "!" :: r => do
      let p ← unary live fuel assigned r
      return { p with value := truth (p.value = 0) }
    | .operator "~" :: r => do
      let p ← unary live fuel assigned r
      return { p with value := wrap (-p.value - 1) }
    | .operator "(" :: r => do
      let p ← whole live fuel assigned r
      match p.rest with
      | .operator ")" :: rest => return { p with rest }
      | _ => .error (.expecting "')'")
    | .number n :: rest => .ok ⟨n, assigned, rest⟩
    | .name x :: rest => do
      let value ← if live then valueOf lookup assigned x else .ok 0
      return ⟨value, assigned, rest⟩
    | _ => .error (.expecting "primary")

end

/-- The value of an expression and the assignments it makes, latest first. -/
def evaluate (t : Text) : Except Error (Int × Assigned) := do
  let found := symbols t
  let p ← whole lookup true (8 * found.length + 8) [] found
  if p.rest.isEmpty then return (p.value, p.assigned) else .error (.expecting "EOF")

/-- The message for an expression that has no value. -/
def Error.message (expression : Text) : Error → Text
  | expecting what =>
    s!"arithmetic expression: expecting {what}: \"".toList ++ expression ++ ['"']
  | illegalNumber text => "Illegal number: ".toList ++ text
  | divisionByZero =>
    "arithmetic expression: division by zero: \"".toList ++ expression ++ ['"']

end Exemplar.Shell.Arithmetic
