import Exemplar.Shell.Syntax

/-!
# Patterns of the shell

A pattern is matched against a whole text. Quoted characters stand for themselves.
-/
namespace Exemplar.Shell

inductive Range
  | one (c : Char)
  | between (low high : Char)
  | named (name : Text)
  deriving DecidableEq, Repr

namespace Range

def inClass (name : Text) (c : Char) : Bool :=
  match String.ofList name with
  | "alpha" => c.isAlpha
  | "digit" => c.isDigit
  | "alnum" => c.isAlphanum
  | "upper" => c.isUpper
  | "lower" => c.isLower
  | "space" => c == ' ' || ('\t' ≤ c && c ≤ '\x0d')
  | "blank" => c == ' ' || c == '\t'
  | "punct" => '!' ≤ c && c ≤ '~' && !c.isAlphanum
  | "print" => ' ' ≤ c && c ≤ '~'
  | "graph" => '!' ≤ c && c ≤ '~'
  | "cntrl" => c < ' ' || c == '\x7f'
  | "xdigit" => c.isDigit || ('a' ≤ c && c ≤ 'f') || ('A' ≤ c && c ≤ 'F')
  | _ => false

def classNames : List String :=
  ["alpha", "digit", "alnum", "upper", "lower", "space", "blank", "punct", "print", "graph",
    "cntrl", "xdigit"]

def holds : Range → Char → Bool
  | one d, c => c == d
  | between low high, c => low ≤ c && c ≤ high
  | named name, c => inClass name c

/-- A text whose characters are marked when they are quoted. -/
abbrev Marked := List (Char × Bool)

def isPlain (x : Char × Bool) (c : Char) : Bool := x.1 == c && !x.2

/-- The members of a bracket, up to its end. A bracket that ends at once goes on. -/
def members : Nat → Bool → Marked → Option (List Range × Marked)
  | 0, _, _ => none
  | fuel + 1, isFirst, s =>
    match s with
    | [] => none
    | a :: r =>
      if isPlain a ']' && !isFirst then some ([], r)
      else match className? a r with
        | some (name, rest) =>
          (members fuel false rest).map fun x => (named name :: x.1, x.2)
        | none =>
          match r with
          | d :: b :: rest =>
            if isPlain d '-' && !isPlain b ']' then
              (members fuel false rest).map fun x => (between a.1 b.1 :: x.1, x.2)
            else (members fuel false r).map fun x => (one a.1 :: x.1, x.2)
          | _ => (members fuel false r).map fun x => (one a.1 :: x.1, x.2)
where
  className? (a : Char × Bool) (r : Marked) : Option (Text × Marked) :=
    match r with
    | c :: r =>
      if isPlain a '[' && isPlain c ':' then
        let name := (r.map Prod.fst).takeWhile Char.isAlpha
        match r.drop name.length with
        | c :: e :: rest =>
          if c.1 = ':' && e.1 = ']' && classNames.contains (String.ofList name) then
            some (name, rest)
          else none
        | _ => none
      else none
    | [] => none

end Range

/-- A step of a pattern. -/
inductive Glob
  | char (c : Char)
  | any
  | run
  | among (wanted : Bool) (ranges : List Range)
  deriving DecidableEq, Repr

namespace Glob
open Range (Marked)

/-- Characters behind a backslash that is not quoted itself are quoted. -/
def resolved : Marked → Marked
  | [] => []
  | [x] => [x]
  | x :: y :: r =>
    if x.1 = '\\' && !x.2 then (y.1, true) :: resolved r else x :: resolved (y :: r)

def ofMarked : Nat → Marked → List Glob
  | 0, _ => []
  | _ + 1, [] => []
  | fuel + 1, (c, quoted) :: r =>
    if quoted then .char c :: ofMarked fuel r
    else if c = '*' then .run :: ofMarked fuel r
    else if c = '?' then .any :: ofMarked fuel r
    else if c = '[' then
      let inverted := match r with
        | x :: _ => Range.isPlain x '!'
        | [] => false
      let inner := if inverted then r.tail else r
      match Range.members (r.length + 1) true inner with
      | some (ranges, rest) => .among (!inverted) ranges :: ofMarked fuel rest
      | none => .char c :: ofMarked fuel r
    else .char c :: ofMarked fuel r

/-- The pattern that characters form. -/
def parse (marked : Marked) : List Glob :=
  let marked := resolved marked
  ofMarked (marked.length + 1) marked

def accepts : List Glob → Text → Bool
  | [], t => t.isEmpty
  | .run :: p, [] => accepts p []
  | .run :: p, c :: t => accepts p (c :: t) || accepts (.run :: p) t
  | .char d :: p, c :: t => c == d && accepts p t
  | .any :: p, _ :: t => accepts p t
  | .among wanted ranges :: p, c :: t => (ranges.any (·.holds c) == wanted) && accepts p t
  | _ :: _, [] => false
termination_by p t => (p.length, t.length)

/-- Whether a pattern differs from a plain text. -/
def isPattern (p : List Glob) : Bool :=
  p.any fun g =>
    match g with
    | .char _ => false
    | _ => true

/-- The part of a text in front of the first gap. -/
def untilGap (t : Text) : Text := t.takeWhile (· != '\x00')

/-- The text without the shortest or longest beginning that the pattern accepts. Where a
text has gaps, a pattern sees it only up to the next one. -/
def dropFront (longest : Bool) (p : List Glob) (t : Text) : Text :=
  let found := if longest then
      (List.range (t.length + 1)).reverse.find? fun n => accepts p (untilGap (t.take n))
    else (List.range ((untilGap t).length + 1)).find? fun n => accepts p (t.take n)
  match found with
  | some n => t.drop n
  | none => t

/-- The text without the shortest or longest end that the pattern accepts. -/
def dropBack (longest : Bool) (p : List Glob) (t : Text) : Text :=
  let found := if longest then
      (List.range ((untilGap t).length + 1)).find? fun n => accepts p (untilGap (t.drop n))
    else (List.range (t.length + 1)).reverse.find? fun n => accepts p (untilGap (t.drop n))
  match found with
  | some n => t.take n
  | none => t

end Glob

end Exemplar.Shell
