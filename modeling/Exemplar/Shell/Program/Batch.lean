import Exemplar.Shell.Format
import Exemplar.Shell.Program.Basic

/-!
# Command lines made of input

A command is carried out for the words of an input: with as many of them at a time as there
is room for and as options allow, or once for each line, which is put in place of a mark.
-/
namespace Exemplar.Shell.Program
open Text
open Builtin (Given)

structure InputWord where
  text : Text
  /-- Its line ends with it. A blank at the end of a line makes the line go on. -/
  ends : Bool

def unmatchedQuote (c : Char) : Text :=
  ("unmatched " ++ (if c = '"' then "double" else "single") ++
    " quote; by default quotes are special to xargs unless you use the -0 option").toList

/-- The words of a text, in which quotes and backslashes have their meaning, behind those that
were found before, and what is wrong behind them. Whole lines may count as words. -/
def inputWords (whole : Bool) :
    Nat → List InputWord → Option Text → Text → List InputWord × Option Text
  | 0, found, _, _ => (found.reverse, none)
  | _ + 1, found, w, [] => (found.reverse ++ w.toList.map fun t => ⟨t.reverse, true⟩, none)
  | fuel + 1, found, w, c :: r =>
    let add := fun (t : Text) => some (t.reverse ++ w.getD [])
    let with' := fun (ends : Bool) => match w with
      | some t => ⟨t.reverse, ends⟩ :: found
      | none => found
    if c = '\n' then inputWords whole fuel (with' true) none r
    else if Arithmetic.isSpace c && (!whole || w.isNone) then
      inputWords whole fuel (with' false) none r
    else if c = '\'' || c = '"' then
      let inner := r.takeWhile fun d => d != c && d != '\n'
      match r.drop inner.length with
      | d :: rest =>
        if d = c then inputWords whole fuel found (add inner) rest
        else (found.reverse, some (unmatchedQuote c))
      | [] => (found.reverse, some (unmatchedQuote c))
    else if c = '\\' then
      match r with
      | d :: rest => inputWords whole fuel found (add [d]) rest
      | [] => inputWords whole fuel found w []
    else inputWords whole fuel found (add [c]) r

/-- How words of an input become command lines. -/
structure Batching where
  command : List Text
  /-- The text in whose place lines are put. -/
  mark : Option Text := none
  perLine : Option Nat := none
  perBatch : Option Nat := none
  /-- How many characters a command line may have. -/
  room : Nat := 131072
  /-- Lines that have no room for all their words are refused. -/
  exact : Bool := false
  delimiter : Option Char := none
  /-- The word at which the input ends. -/
  stop : Option Text := none
  source : Option Text := none
  skipsEmpty : Bool := false
  verbose : Bool := false
  warnings : List Text := []

/-- Why an option is wrong. -/
inductive BatchFlaw
  | misuse (message : Text)
  | other (message : Text)

namespace Batching

def number (letter : Char) (least : Nat) (t : Text) : Except BatchFlaw Nat :=
  let (negative, digits) := match t with
    | '-' :: r => (true, r)
    | r => (false, r)
  let option := " for -".toList ++ letter :: " option".toList
  match natOf? digits with
  | none => .error (.misuse ("invalid number \"".toList ++ t ++ '"' :: option))
  | some n =>
    if negative || n < least then
      .error (.misuse ("value ".toList ++ t ++ option ++ " should be >= ".toList ++ ofNat least))
    else .ok n

/-- The delimiter that a text describes. -/
def delimiter? (t : Text) : Option Char :=
  match t with
  | [c] => some c
  | ['\\', c] =>
    match "abfnrtv\\0".toList.zip "\x07\x08\x0c\n\x0d\t\x0b\\\x00".toList |>.lookup c with
    | some d => some d
    | none => none
  | '\\' :: 'x' :: r => (Arithmetic.natOf? 16 r).map Format.byte
  | '\\' :: '0' :: r => (Arithmetic.natOf? 8 r).map Format.byte
  | _ => none

def warn (set lost which : String) (b : Batching) : Batching :=
  { b with warnings := b.warnings ++ [("warning: options --" ++ lost ++ " and " ++ set ++
    " are mutually exclusive, ignoring previous --" ++ lost ++ which).toList] }

/-- Forget what an option excludes. -/
def without (set : String) (mark perLine perBatch : Bool) (b : Batching) : Batching :=
  let b := if mark && b.mark.isSome then { b.warn set "replace" " value" with mark := none } else b
  let b := if perLine && b.perLine.isSome then
    { b.warn set "max-lines" " value" with perLine := none } else b
  if perBatch && b.perBatch.isSome then
    { b.warn set "max-args" " value" with perBatch := none } else b

/-- Take an option into account. -/
def set (b : Batching) (o : Char × Text) : Except BatchFlaw Batching :=
  match o.1 with
  | 'n' => do
    let n ← number 'n' 1 o.2
    if n = 1 && b.mark.isSome then return b
    else return { b.without "--max-args/-n" true true false with perBatch := some n }
  | 'L' => do
    let n ← number 'L' 1 o.2
    return { b.without "-L" true false true with perLine := some n }
  | 'l' => do
    let n ← if o.2.isEmpty then pure 1 else number 'l' 1 o.2
    return { b.without "--max-lines/-l" true false true with perLine := some n }
  | 'I' =>
    let mark := if o.2.isEmpty then "\x7b\x7d".toList else o.2
    .ok { b.without "--replace/-I/-i" false true true with mark := some mark }
  | 's' => do return { b with room := ← number 's' 1 o.2 }
  | 'P' => do let _ ← number 'P' 0 o.2; return b
  | 'd' =>
    match delimiter? o.2 with
    | some c => .ok { b with delimiter := some c }
    | none => .error (.other ("Invalid input delimiter specification ".toList ++ o.2 ++
        (": the delimiter must be either a single character or an escape sequence starting with " ++
          "\\.").toList))
  | '0' => .ok { b with delimiter := some '\x00' }
  | 'E' => .ok { b with stop := if o.2.isEmpty then none else some o.2 }
  | 'a' => .ok { b with source := some o.2 }
  | 'x' => .ok { b with exact := true }
  | 'r' => .ok { b with skipsEmpty := true }
  | 't' => .ok { b with verbose := true }
  | _ => .ok b

def options : Known :=
  ⟨"n:I:0d:rtL:P:s:a:pxE:l:o", [("null", '0'), ("no-run-if-empty", 'r'), ("max-args", 'n'),
    ("replace", 'I'), ("delimiter", 'd'), ("max-lines", 'l'), ("verbose", 't'), ("exit", 'x'),
    ("max-procs", 'P'), ("max-chars", 's'), ("arg-file", 'a'), ("eof", 'E')], true⟩

/-- Options whose value may be left out have it directly behind them. -/
def plainArguments : List Text → List Text
  | [] => []
  | ('-' :: 'i' :: r) :: args => ("--replace=".toList ++ r) :: plainArguments args
  | ('-' :: 'l' :: r) :: args => ("--max-lines=".toList ++ r) :: plainArguments args
  | ('-' :: 'e' :: r) :: args => ("--eof=".toList ++ r) :: plainArguments args
  | a :: args =>
    if a = "--replace".toList then "--replace=".toList :: plainArguments args
    else if a = "--max-lines".toList then "--max-lines=".toList :: plainArguments args
    else if a.head? = some '-' then
      match a, args with
      | ['-', c], v :: args =>
        if Builtin.takesValue? options.letters.toList c = some true then
          a :: v :: plainArguments args
        else a :: plainArguments (v :: args)
      | _, args => a :: plainArguments args
    else a :: args

def ofGiven (g : Given) : Except BatchFlaw Batching :=
  let command := if g.operands.isEmpty then ["echo".toList] else g.operands
  g.options.foldlM set { command }

/-- A text with another text put in place of all places where a third one stands. -/
def replaceText (old new : Text) : Nat → Text → Text
  | 0, t => t
  | fuel + 1, t =>
    if old.isEmpty then t
    else match breakOn old t with
      | some (before, after) => before ++ new ++ replaceText old new fuel after
      | none => t

/-- The words of an input, and what is wrong behind them. -/
def words (b : Batching) (input : Text) : List InputWord × Option Text :=
  match b.delimiter with
  | some d =>
    let found := splitBy (· == d) input
    let found := if found.getLast? = some [] then found.dropLast else found
    (found.map fun t => ⟨t, true⟩, none)
  | none =>
    let (found, flaw) := inputWords b.mark.isSome (input.length + 1) [] none input
    match b.stop with
    | some t =>
      let front := found.takeWhile fun w => w.text != t
      (front, if front.length < found.length then none else flaw)
    | none => (found, flaw)

/-- What was made of words: full groups and the group that may still grow, with the latest
first, and what is wrong. -/
structure Groups where
  full : List (List Text) := []
  growing : List Text := []
  /-- How many characters and lines the growing group has. -/
  size : Nat := 0
  lines : Nat := 0
  flaw : Option Text := none

namespace Groups

/-- The growing group is full. -/
def close (x : Groups) : Groups :=
  if x.growing.isEmpty then x else { x with full := x.growing.reverse :: x.full, growing := [], size := 0, lines := 0 }

/-- Add a word to the growing group, or to a new one if there is no room. -/
def add (b : Batching) (base : Nat) (x : Groups) (w : InputWord) : Groups :=
  let cost := w.text.length + 1
  let fits := base + x.size + cost ≤ b.room
  if x.flaw.isSome then x
  else if base + cost > b.room then { x with flaw := some "argument line too long".toList }
  else if !fits && b.exact then { x with flaw := some "argument list too long".toList }
  else
    let x := if fits then x else x.close
    let x := { x with
      growing := w.text :: x.growing
      size := x.size + cost
      lines := x.lines + if w.ends then 1 else 0 }
    if b.perBatch = some x.growing.length || b.perLine.any (· ≤ x.lines) then x.close else x

end Groups

/-- The command lines for an input, and what is wrong behind them. -/
def commandLines (b : Batching) (input : Text) : List (List Text) × Option Text :=
  let (ws, flaw) := b.words input
  let base := b.command.foldl (fun n a => n + a.length + 1) 0
  if base > b.room then
    ([], some "cannot fit single argument within argument list size limit".toList)
  else match b.mark with
  | some mark =>
    (ws.map fun w => b.command.map fun a => replaceText mark w.text (a.length + 1) a, flaw)
  | none =>
    let x := ws.foldl (Groups.add b base) {}
    let flaw := x.flaw.or flaw
    let found := (if flaw.isNone then x.close else x).full.reverse
    let found := if ws.isEmpty && flaw.isNone && !b.skipsEmpty then [[]] else found
    (found.map fun ws => b.command ++ ws, flaw)

/-- Whether a character has a meaning in commands. -/
def needsQuotes (t : Text) : Bool :=
  let special := " \t\n!\"$&'()*;<=>?[\\^`|".toList
  t.isEmpty || t.any (fun c => special.any (· == c) || c.toNat < 32 || c.toNat > 126) ||
    t.head? = some '#' || t.head? = some '~' || t = ['\x7b'] || t = ['\x7d']

/-- A word as it is written in a command. -/
def written (t : Text) : Text :=
  if !needsQuotes t then t
  else if t.any (· == '\'') && !t.any (fun c => "!\"$\\`".toList.any (· == c)) then
    '"' :: t ++ ['"']
  else inQuotes (t.flatMap fun c => if c = '\'' then "'\\''".toList else [c])

def shown (line : List Text) : Text := ((line.map written).intersperse [' ']).flatten ++ ['\n']

end Batching

end Exemplar.Shell.Program
