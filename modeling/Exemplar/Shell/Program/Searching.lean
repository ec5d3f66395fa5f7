import Exemplar.Shell.Program.Lines
import Exemplar.Shell.Regex

/-!
# Searching in files

Lines that an expression accepts, or does not accept, are printed, counted or only told of.
-/
namespace Exemplar.Shell.Program
open Text
open Builtin (Given)

def grepOptions : Known :=
  ⟨"EFGPivwxcnoqslLhHe:f:m:A:B:C:rRabz", [("extended-regexp", 'E'), ("fixed-strings", 'F'),
    ("basic-regexp", 'G'), ("ignore-case", 'i'), ("invert-match", 'v'), ("word-regexp", 'w'),
    ("line-regexp", 'x'), ("count", 'c'), ("line-number", 'n'), ("only-matching", 'o'),
    ("quiet", 'q'), ("silent", 'q'), ("no-messages", 's'), ("files-with-matches", 'l'),
    ("files-without-match", 'L'), ("no-filename", 'h'), ("with-filename", 'H'), ("regexp", 'e'),
    ("file", 'f'), ("max-count", 'm'), ("after-context", 'A'), ("before-context", 'B'),
    ("context", 'C'), ("recursive", 'r'), ("color", 'b'), ("line-buffered", 'b'), ("text", 'a'),
    ("null-data", 'z')],
    false⟩

/-- A line of a file with its number, and whether it is among the wanted ones. -/
structure Line where
  number : Nat
  text : Text
  found : Bool

/-- How lines are searched for and shown. -/
structure Search where
  expression : Regex
  manner : Regex.Manner
  given : Given
  /-- Whether names of files stand in front of lines. -/
  named : Bool

namespace Search

def holds (x : Search) (l : Text) : Bool :=
  (Regex.search x.manner x.expression none l).isSome != x.given.has 'v'

/-- All texts of a line that the expression accepts. -/
def all (x : Search) : Nat → Option Char → Text → List Text
  | 0, _, _ => []
  | fuel + 1, before, t =>
    match Regex.search x.manner x.expression before t with
    | none => []
    | some f =>
      if f.text.isEmpty then
        match f.after with
        | c :: r => all x fuel (some c) r
        | [] => []
      else f.text :: all x fuel f.text.getLast? f.after

def number (x : Search) (c : Char) : Option Nat := (x.given.value? c).bind natOf?

/-- No more than so many of the wanted lines. -/
def limited (most : Option Nat) : Nat → List Line → List Line
  | _, [] => []
  | n, l :: ls =>
    if most.any (· ≤ n) then []
    else l :: limited most (if l.found then n + 1 else n) ls

def mark (x : Search) (path : Text) (sign : Char) (number : Nat) : Text :=
  (if x.named then path ++ [sign] else []) ++
    (if x.given.has 'n' then ofNat number ++ [sign] else [])

/-- Lines with their neighbours; separate groups stand apart. -/
def shown (x : Search) (path : Text) (ls : List Line) : Text :=
  let around := x.number 'C'
  let behind := ((x.number 'A').or around).getD 0
  let ahead := ((x.number 'B').or around).getD 0
  let hits := (ls.filter Line.found).map Line.number
  let near := ls.filter fun l => hits.any fun h =>
    decide (h ≤ l.number + ahead) && decide (l.number ≤ h + behind)
  let grouped := (x.number 'A').isSome || (x.number 'B').isSome || around.isSome
  let out := near.foldl (fun (out : List Text × Nat) l =>
    let gap := grouped && out.2 ≠ 0 && l.number ≠ out.2 + 1
    let shown :=
      if l.found then
        if x.given.has 'o' then
          if x.given.has 'v' then []
          else (x.all (l.text.length + 1) none l.text).flatMap fun t =>
            x.mark path ':' l.number ++ t ++ ['\n']
        else x.mark path ':' l.number ++ l.text ++ ['\n']
      else if x.given.has 'o' then [] else x.mark path '-' l.number ++ l.text ++ ['\n']
    (shown :: (if gap then "--\n".toList else []) :: out.1, l.number)) ([], 0)
  out.1.reverse.flatten

/-- Search a file. -/
def file (x : Search) (path t : Text) (s : State) : Bool × State :=
  let ls := linesOf (withEnds x.given t)
  let found := limited (x.number 'm') 0 ((ls.zip (List.range ls.length)).map fun l =>
    ⟨l.2 + 1, l.1, x.holds l.1⟩)
  let hits := (found.filter Line.found).length
  let name := if path = ['-'] then "(standard input)".toList else path
  let g := x.given
  let s := if g.has 'q' then s
    else if g.has 'l' then if hits > 0 then print (name ++ ['\n']) s else s
    else if g.has 'L' then if hits = 0 then print (name ++ ['\n']) s else s
    else if g.has 'c' then
      print ((if x.named then name ++ [':'] else []) ++ ofNat hits ++ ['\n']) s
    else if !g.has 'a' && !g.has 'z' && t.any (· == '\x00') then
      if hits > 0 then say (name ++ ": binary file matches".toList) s else s
    else print (withEnds g (x.shown name found)) s
  (decide (hits > 0), s)

end Search

/-- Signs for kinds of characters that only one style knows, written in another way. -/
def plainKinds : Text → Text
  | '\\' :: 'd' :: r => "[0-9]".toList ++ plainKinds r
  | '\\' :: 'D' :: r => "[^0-9]".toList ++ plainKinds r
  | '\\' :: c :: r => '\\' :: c :: plainKinds r
  | c :: r => c :: plainKinds r
  | [] => []

/-- The expression for one pattern, and the signs in it that were skipped. -/
def expressionOf (g : Given) (extended : Bool) (pattern : Text) :
    Except Text (Regex × List Text) :=
  let pattern := if g.has 'P' then plainKinds pattern else pattern
  let read : Except Text (Regex × List Text) :=
    if g.has 'F' then .ok (Regex.literal pattern, [])
    else match Regex.readWith ⟨extended, true⟩ pattern with
      | .ok x => .ok x
      | .error e => .error e.message.toList
  read.map fun (x, skipped) =>
    (if g.has 'x' then .seq (.edge .front) (.seq x (.edge .back))
    else if g.has 'w' then .seq (.edge .noneBefore) (.seq x (.edge .noneBehind))
    else x, skipped)

/-- The regular files below a directory by their paths. -/
def filesBelow (s : State) (path : Text) : List Text :=
  match s.resolve path with
  | .ok ⟨place, .directory⟩ =>
    (s.world.tree.filesBelow place).map fun p =>
      (if path.getLast? = some '/' then path else path ++ ['/']) ++ (p.intersperse ['/']).flatten
  | _ => [path]

def grepWith (extended fixed : Bool) : Action := fun args s =>
  withOptions 2 grepOptions args s fun g s =>
    let g := if fixed then { g with options := ('F', []) :: g.options } else g
    let asked := g.options.filter fun o => o.1 == 'e'
    let fromFiles := (g.options.filter fun o => o.1 == 'f').map fun o => o.2
    let (texts, s) := fromFiles.foldl (fun (x : List Text × State) f =>
      match content f x.2 with
      | (.ok t, s) => (x.1 ++ linesOf t, s)
      | (.error e, s) => (x.1, fail 2 (plainTrouble f e) s)) ([], s.withStatus 0)
    let isGiven := !asked.isEmpty || !fromFiles.isEmpty
    if s.status ≠ 0 then s
    else if !isGiven && g.operands.isEmpty then
      (s.err ("Usage: ".toList ++ s.name ++ " [OPTION]... PATTERNS [FILE]...\nTry '".toList ++
        s.name ++ " --help' for more information.\n".toList)).withStatus 2
    else
      let patterns := if isGiven then asked.map (fun o => o.2) else g.operands.take 1
      let patterns := patterns.flatMap (splitBy (· == '\n')) ++ texts
      let files := if isGiven then g.operands else g.operands.drop 1
      let extended := extended || g.has 'E' || g.has 'P'
      match patterns.mapM (expressionOf g extended) with
      | .error message => fail 2 message s
      | .ok found =>
        let s := (found.flatMap Prod.snd).foldl (fun s sign =>
          say ("warning: ".toList ++ sign ++ " at start of expression".toList) s) s
        let xs := found.map Prod.fst
        let deep := g.has 'r' || g.has 'R'
        let files := if files.isEmpty then [if deep then ['.'] else ['-']] else files
        let named := (files.length > 1 || deep || g.has 'H') && !g.has 'h'
        let expression := match xs with
          | [] => Regex.among true []
          | x :: xs => xs.foldl Regex.either x
        let search : Search :=
          ⟨expression, Regex.mannerFor expression (g.has 'i') false, g, named⟩
        let files := if deep then files.flatMap (filesBelow s) else files
        let x := files.foldl (fun (x : Bool × Bool × State) path =>
          let (found, failed, s) := x
          if !s.goesOn then x
          else match content path s with
            | (.ok t, s) =>
              if s.goesOn then let y := search.file path t s; (found || y.1, failed, y.2)
              else (found, failed, s)
            | (.error e, s) =>
              (found, true, if g.has 's' then s else say (plainTrouble path e) s))
          (false, false, s)
        let (found, failed, s) := x
        let status := if failed && !(g.has 'q' && found) then 2
          else if found != g.has 'L' then 0 else 1
        if s.goesOn && s.status = 0 then s.withStatus status else s

end Exemplar.Shell.Program
