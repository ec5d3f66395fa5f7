import Exemplar.Shell.Program.Script

/-!
# Editing of lines

A script is carried out once for each line. The line stands in a space that commands
change, beside a space in which text is held.
-/
namespace Exemplar.Shell.Program
open Text
open Builtin (Given)

/-- A line of the input; the last one may lack its break. -/
structure InputLine where
  text : Text
  broken : Bool
  /-- The file that it is read from. -/
  file : Text

structure Editor where
  /-- The character that ends lines. -/
  ending : Char
  space : Text
  /-- The line of the space has a break. -/
  broken : Bool
  held : Text
  heldBroken : Bool
  /-- The file that the line is read from. -/
  file : Text
  /-- The number of the line. -/
  number : Nat
  left : List InputLine
  /-- Ranges that have begun: the index of their command, and the line on which they end. -/
  ranges : List (Nat × Option Nat)
  /-- What is printed, latest first. -/
  out : List Text
  /-- Targets whose last line lacks its break; no name stands for the output. -/
  owing : List Text
  /-- What is printed at the end of the cycle. -/
  waiting : List Text
  replaced : Bool
  lastExpression : Option Regex
  /-- The end has come, with a status. -/
  halted : Option Nat
  /-- Why it has come before its time. -/
  complaint : Option String
  /-- What goes to files, latest first. -/
  written : List (Text × Text)
  /-- How many lines of files were read one by one. -/
  places : List (Text × Nat)

/-- What comes after a command. -/
inductive Step
  | next
  | goto (index : Nat)
  /-- The cycle ends, and the space is printed. -/
  | finish
  /-- The cycle ends. -/
  | drop
  /-- The cycle begins again with what is left of the space. -/
  | restart

namespace Editor

/-- Add to what a target gets. A copy of the output goes where the output goes. -/
def add (target t : Text) (e : Editor) : Editor :=
  if target.isEmpty || target = "/dev/stdout".toList then { e with out := t :: e.out }
  else { e with written := (target, t) :: e.written }

/-- Write to a target, behind the break that its last line lacks. -/
def putTo (target t : Text) (e : Editor) : Editor :=
  if e.owing.contains target then
    { e.add target [e.ending] with owing := e.owing.filter (· != target) }.add target t
  else e.add target t

def put (t : Text) (e : Editor) : Editor := e.putTo [] t

/-- Write a line as it was read, with or without its break. -/
def putLineTo (target t : Text) (e : Editor) : Editor :=
  let e := e.putTo target t
  if e.broken then e.add target [e.ending] else { e with owing := target :: e.owing }

def putLine (t : Text) (e : Editor) : Editor := e.putLineTo [] t

def flushWaiting (e : Editor) : Editor :=
  { e.waiting.foldl (fun e t => e.put t) e with waiting := [] }

def isLast (e : Editor) : Bool := e.left.isEmpty

/-- Take the next line. -/
def advance (e : Editor) : Option Editor :=
  match e.left with
  | [] => none
  | l :: left =>
    some { e with
      space := l.text, broken := l.broken, file := l.file, number := e.number + 1, left }

/-- End before the time. -/
def breakOff (message : String) (e : Editor) : Editor :=
  { e with halted := some 1, complaint := some message }

def noExpression (e : Editor) : Editor := e.breakOff "no previous regular expression"

/-- The first match of an expression in the space. An empty expression is the last one. -/
def find (x : Option Regex) (ignoresCase byLines : Bool) (e : Editor) :
    Option Regex.Found × Editor :=
  match x.or e.lastExpression with
  | none => (none, e.noExpression)
  | some x =>
    (Regex.search (Regex.mannerFor x ignoresCase byLines) x none e.space,
      { e with lastExpression := some x })

def matchesAddress (a : Address) (e : Editor) : Bool × Editor :=
  match a with
  | .line n => (e.number == n, e)
  | .last => (e.isLast, e)
  | .pattern x ignoresCase byLines =>
    let y := e.find x ignoresCase byLines; (y.1.isSome, y.2)
  | .step first every =>
    (if every = 0 then e.number == first
      else decide (first ≤ e.number) && (e.number - first) % every == 0, e)
  | _ => (false, e)

/-- Whether a range ends on its first line, or else the line on which it ends if that is
known. -/
def rangeEnd (a : Address) (e : Editor) : Bool × Option Nat :=
  match a with
  | .line n => (decide (n ≤ e.number), some n)
  | .behind n => (n == 0, some (e.number + n))
  | .multiple n =>
    if n = 0 || e.number % n = 0 then (true, none) else (false, some ((e.number / n + 1) * n))
  | .last => (e.isLast, none)
  | _ => (false, none)

/-- Whether a command is for the line. -/
def selects (index : Nat) (sel : Selector) (e : Editor) : Bool × Editor :=
  let (found, e) : Bool × Editor :=
    match sel.first, sel.last with
    | none, _ => (true, e)
    | some a, none => matchesAddress a e
    | some a, some b =>
      let close := fun (e : Editor) => { e with ranges := e.ranges.filter fun r => r.1 ≠ index }
      let isZero := match a with
        | .line 0 => true
        | _ => false
      match e.ranges.lookup index with
      | some (some last) =>
        if e.number ≥ last then (decide (e.number ≤ last), close e) else (true, e)
      | some none =>
        let (ends, e) := matchesAddress b e
        (true, if ends then close e else e)
      | none =>
        if isZero && e.number = 1 then
          let (ends, e) := matchesAddress b e
          (true, if ends then e else { e with ranges := (index, none) :: e.ranges })
        else
          let (begins, e) := matchesAddress a e
          if !begins then (false, e)
          else
            let (ends, last) := rangeEnd b e
            (true, if ends then e else { e with ranges := (index, last) :: e.ranges })
  (found != sel.negated, e)

/-- How the case of the next characters is changed. -/
structure Case where
  /-- For the next character only. -/
  once : Option Char
  kept : Option Char

def cased (k : Case) (t : Text) : Text × Case :=
  let change := fun (c : Option Char) (t : Text) =>
    match c with
    | some 'U' => t.map Char.toUpper
    | some 'L' => t.map Char.toLower
    | some 'u' => t.map Char.toUpper
    | some 'l' => t.map Char.toLower
    | _ => t
  match t, k.once with
  | [], _ => ([], k)
  | c :: r, some o => (change (some o) [c] ++ change k.kept r, { k with once := none })
  | t, none => (change k.kept t, k)

/-- What is put in place of a match. -/
def filled (parts : List Template) (f : Regex.Found) : Text :=
  let x := parts.foldl (fun (x : List Text × Case) p =>
    match p with
    | .text t => let y := cased x.2 t; (y.1 :: x.1, y.2)
    | .group 0 => let y := cased x.2 f.text; (y.1 :: x.1, y.2)
    | .group n => let y := cased x.2 ((f.groups.lookup n).getD []); (y.1 :: x.1, y.2)
    | .change 'E' => (x.1, ⟨none, none⟩)
    | .change c => (x.1, if c.isUpper then ⟨none, some c⟩ else { x.2 with once := some c }))
    ([], ⟨none, none⟩)
  x.1.reverse.flatten

/-- Replace matches from a count on; whether there were some. An empty match directly behind
another match does not count. -/
def replaceAll (x : Regex) (s : Substitution) (m : Regex.Manner) :
    Nat → Nat → Option Char → Bool → Text → Bool × Text
  | 0, _, _, _, t => (false, t)
  | fuel + 1, count, before, afterMatch, t =>
    match Regex.search m x before t with
    | none => (false, t)
    | some f =>
      let skipsEmpty := f.text.isEmpty && f.before.isEmpty && afterMatch
      let swaps := !skipsEmpty && count ≥ s.number
      let shown := f.before ++ if swaps then filled s.template f else f.text
      let count := if skipsEmpty then count else count + 1
      if swaps && !s.everywhere then (true, shown ++ f.after)
      else
        let last := ((f.before ++ f.text).getLast?).or before
        if f.text.isEmpty then
          match f.after with
          | [] => (swaps, shown)
          | c :: r =>
            let y := replaceAll x s m fuel count (some c) false r
            (swaps || y.1, shown ++ c :: y.2)
        else
          let y := replaceAll x s m fuel count last true f.after
          (swaps || y.1, shown ++ y.2)

/-- The space in rows of a width, with its special characters shown. -/
def shownSpace (width : Nat) (t : Text) : Text :=
  let one := fun (c : Char) =>
    match c with
    | '\\' => ['\\', '\\']
    | '\x07' => ['\\', 'a']
    | '\x08' => ['\\', 'b']
    | '\x0c' => ['\\', 'f']
    | '\n' => ['\\', 'n']
    | '\x0d' => ['\\', 'r']
    | '\t' => ['\\', 't']
    | '\x0b' => ['\\', 'v']
    | c =>
      if ' ' ≤ c && c ≤ '~' then [c]
      else
        let d := Nat.toDigits 8 c.toNat
        '\\' :: List.replicate (3 - d.length) '0' ++ d
  let x := t.foldl (fun (x : List Text × Nat) c =>
    let shown := one c
    if width > 0 && x.2 + shown.length > width - 1 then (shown :: ['\\', '\n'] :: x.1, shown.length)
    else (shown :: x.1, x.2 + shown.length)) ([], 0)
  x.1.reverse.flatten ++ ['$', '\n']

structure Setup where
  quiet : Bool
  /-- At the end of the input, a command that needs a further line drops the space. -/
  strict : Bool
  /-- How wide rows are in which the space is shown. -/
  width : Nat
  commands : List Command

def indexOf (cs : List Command) (name : Text) : Step :=
  if name.isEmpty then .finish
  else
    let isIt := fun (c : Command) => match c.edit with
      | .label n => n == name
      | _ => false
    .goto (cs.takeWhile fun c => !isIt c).length

/-- A command of a single letter. -/
def plainCommand (setup : Setup) (letter : Char) (e : Editor) : Step × Editor :=
  match letter with
  | '=' => (.next, e.put (ofNat e.number ++ [e.ending]))
  | 'd' => (.drop, e)
  | 'D' =>
    if e.space.any (· == e.ending) then
      (.restart, { e with space := (e.space.dropWhile (· != e.ending)).drop 1 })
    else (.drop, e)
  | 'g' => (.next, { e with space := e.held, broken := e.heldBroken })
  | 'G' => (.next, { e with space := e.space ++ e.ending :: e.held, broken := e.heldBroken })
  | 'h' => (.next, { e with held := e.space, heldBroken := e.broken })
  | 'H' => (.next, { e with held := e.held ++ e.ending :: e.space, heldBroken := e.broken })
  | 'n' =>
    if e.isLast then
      (.drop, { (if setup.quiet then e else e.putLine e.space) with halted := some 0 })
    else
      let e := if setup.quiet then e else e.putLine e.space
      match e.flushWaiting.advance with
      | some e => (.next, e)
      | none => (.drop, e)
  | 'N' =>
    if e.isLast then (if setup.strict then .drop else .finish, { e with halted := some 0 })
    else
      let before := e.space
      match e.flushWaiting.advance with
      | some e => (.next, { e with space := before ++ e.ending :: e.space })
      | none => (.finish, e)
  | 'p' => (.next, e.putLine e.space)
  | 'P' => (.next, e.put (e.space.takeWhile (· != e.ending) ++ [e.ending]))
  | 'x' => (.next, { e with
      space := e.held, broken := e.heldBroken, held := e.space, heldBroken := e.broken })
  | 'z' => (.next, { e with space := [] })
  | 'F' => (.next, e.put (e.file ++ ['\n']))
  | _ => (.next, e)

def substituteIn (x : Substitution) (e : Editor) : Editor :=
  match x.expression.or e.lastExpression with
  | none => e.noExpression
  | some r =>
    let e := { e with lastExpression := some r }
    if Script.greatest x.template > r.lastGroup then
      e.breakOff (Script.badReference (Script.greatest x.template))
    else
    let m := Regex.mannerFor r x.ignoresCase x.byLines
    let (swapped, t) := replaceAll r x m (e.space.length + 2) 1 none false e.space
    if !swapped then e
    else
      let e := { e with space := t, replaced := true }
      let e := if x.prints then e.putLine t else e
      match x.target with
      | some path => e.putLineTo path t
      | none => e

/-- Carry out a command at an index. -/
def apply (setup : Setup) (files : Text → Option Text) (index : Nat) (c : Command) (e : Editor) :
    Step × Editor :=
  match c.edit with
  | .opening _ => (.next, e)
  | .closing => (.next, e)
  | .label _ => (.next, e)
  | .jump name => (indexOf setup.commands name, e)
  | .jumpIf name =>
    if e.replaced then (indexOf setup.commands name, { e with replaced := false }) else (.next, e)
  | .jumpIfNot name =>
    if e.replaced then (.next, { e with replaced := false }) else (indexOf setup.commands name, e)
  | .append t => (.next, { e with waiting := e.waiting ++ [t] })
  | .insert t => (.next, e.put t)
  | .change t =>
    let goesOn := (e.ranges.lookup index).isSome && !c.selector.negated
    (.drop, if goesOn then e else e.put t)
  | .substitute x => (.next, e.substituteIn x)
  | .replace a b =>
    (.next, { e with space := e.space.map fun c => ((List.zip a b).lookup c).getD c })
  | .quit prints status =>
    let e := if prints && !setup.quiet then e.putLine e.space else e
    (.drop, { e with halted := some status, waiting := if prints then e.waiting else [] })
  | .readFile path =>
    (.next, { e with waiting := e.waiting ++ ((files path).filter fun t => !t.isEmpty).toList })
  | .readLine path =>
    let n := (e.places.lookup path).getD 0
    match (Text.splitInclusive ((files path).getD []))[n]? with
    | none => (.next, e)
    | some t =>
      let l := if t.getLast? = some '\n' then t else t ++ ['\n']
      (.next, { e with waiting := e.waiting ++ [l], places := (path, n + 1) :: e.places })
  | .writeFile path => (.next, e.putLineTo path e.space)
  | .writeLine path => (.next, e.putTo path (e.space.takeWhile (· != e.ending) ++ [e.ending]))
  | .list width => (.next, e.put (shownSpace (width.getD setup.width) e.space))
  | .plain letter => e.plainCommand setup letter

/-- Carry out the commands from an index on. -/
def carry (setup : Setup) (files : Text → Option Text) : Nat → Nat → Editor → Step × Editor
  | 0, _, e => (.drop, { e with halted := some 4 })
  | fuel + 1, index, e =>
    match setup.commands[index]? with
    | none => (.finish, e)
    | some c =>
      let (selected, e) := e.selects index c.selector
      if e.halted.isSome then (.drop, e)
      else if !selected then
        match c.edit with
        | .opening behind => carry setup files fuel behind e
        | _ => carry setup files fuel (index + 1) e
      else
        match e.apply setup files index c with
        | (.next, e) =>
          if e.complaint.isSome then (.drop, e) else carry setup files fuel (index + 1) e
        | (.goto n, e) => carry setup files fuel n e
        | (step, e) => (step, e)

/-- Carry out the script for one line after the other. -/
def cycles (setup : Setup) (files : Text → Option Text) : Nat → Bool → Editor → Editor
  | 0, _, e => e
  | fuel + 1, reads, e =>
    match if reads then e.advance else some e with
    | none => e
    | some e =>
      let (step, e) := carry setup files 100000 0 { e with replaced := if reads then false else e.replaced }
      let e := match step with
        | .finish => if setup.quiet then e else e.putLine e.space
        | _ => e
      let e := e.flushWaiting
      if e.halted.isSome then e
      else match step with
        | .restart => cycles setup files fuel false e
        | _ => cycles setup files fuel true e

end Editor

def sedOptions : Known :=
  ⟨"nErsuzie:f:l:P", [("quiet", 'n'), ("silent", 'n'), ("regexp-extended", 'E'),
    ("expression", 'e'), ("file", 'f'), ("in-place", 'i'), ("separate", 's'), ("unbuffered", 'u'),
    ("posix", 'P'), ("null-data", 'z'), ("zero-terminated", 'z'), ("line-length", 'l')], false⟩

def endingOf (g : Given) : Char := if g.has 'z' then '\x00' else '\n'

/-- The lines of a file. -/
def inputLines (g : Given) (file t : Text) : List InputLine :=
  match (splitBy (· == endingOf g) t).reverse with
  | [] => []
  | last :: before =>
    let whole := before.reverse.map fun l => ⟨l, true, file⟩
    if last.isEmpty then whole else whole ++ [⟨last, false, file⟩]

/-- Lines as they follow each other: only the last one may lack its break. -/
def joinedLines : List InputLine → List InputLine
  | [] => []
  | [l] => [l]
  | l :: ls => { l with broken := true } :: joinedLines ls

/-- Where the output of an editor goes. -/
structure Outlet where
  given : Given
  setup : Editor.Setup
  source : Script.Source

/-- Edit some lines, and write what goes to files. -/
def edited (o : Outlet) (ls : List InputLine) (s : State) : Editor × State :=
  let files := fun (path : Text) => match content path s with
    | (.ok t, _) => some t
    | _ => none
  let e : Editor :=
    ⟨endingOf o.given, [], true, [], true, ['-'], 0, ls, [], [], [], [], false, none, none, none, [], []⟩
  let e := Editor.cycles o.setup files (1000 * ls.length + 1000) true e
  let names := (e.written.map Prod.fst).eraseDups
  let s := names.foldl (fun s name =>
    let t := ((e.written.filter fun w => w.1 == name).map Prod.snd).reverse.flatten
    if name = "/dev/stderr".toList then s.err t
    else match Opening.forWriting false false name s with
      | .ok (c, s) => s.writeTo c t
      | .error _ => s) s
  (e, s)

/-- End as an editor ended. -/
def closed (o : Outlet) (e : Editor) (s : State) : State :=
  match e.halted, e.complaint with
  | _, some message => fail 1 (o.source.tell 0 1 message) s
  | some n, none => if n = 0 then s else s.withStatus n
  | none, none => s

/-- The name of a copy that is kept of a file: an asterisk stands for the name of the file. -/
def keptName (ending path : Text) : Text :=
  let base := (path.reverse.takeWhile (· != '/')).reverse
  if ending.any (· == '*') then
    let name := ending.flatMap fun c => if c = '*' then base else [c]
    if name.any (· == '/') then name
    else path.take (path.length - base.length) ++ name
  else path ++ ending

/-- Edit files one by one; what is printed comes at the end, and is kept with the latest first. -/
def editEach (o : Outlet) : List Text → Bool → List Text → State → State
  | [], _, out, s => print out.reverse.flatten s
  | path :: paths, owes, out, s =>
    if !s.goesOn then s
    else
      let inPlace := o.given.has 'i'
      match content path s with
      | (.ok t, s) =>
        if !s.goesOn then s
        else
          let (e, s) := edited o (inputLines o.given path t) s
          let shown := e.out.reverse.flatten
          let (out, s) := match inPlace, s.resolve path with
            | true, .ok r =>
              let ending := (o.given.value? 'i').getD []
              let s := if ending.isEmpty then s
                else match Opening.forWriting true false (keptName ending path) s with
                  | .ok (c, s) => s.writeTo c t
                  | .error _ => s
              (out, s.putFile r.place shown)
            | _, _ => (shown :: (if owes then [[endingOf o.given]] else []) ++ out, s)
          if e.halted.isSome then closed o e (print out.reverse.flatten s)
          else editEach o paths (e.owing.contains [] && !inPlace) out s
      | (.error e, s) =>
        if e = "Is a directory".toList then
          let s := print out.reverse.flatten s
          fail 4 (if inPlace then "couldn't edit ".toList ++ path ++ ": not a regular file".toList
            else "read error on ".toList ++ path ++ ": ".toList ++ e) s
        else editEach o paths owes out
          (fail 2 ("can't read ".toList ++ path ++ ": ".toList ++ e) s)

/-- The lines of files up to a directory, which cannot be read. -/
def linesOfFiles (g : Given) (files : List Text) (s : State) : List InputLine × State :=
  let files := if files.isEmpty then [['-']] else files
  let x := files.foldl (fun (x : List (List InputLine) × Bool × State) path =>
    let (found, goesOn, s) := x
    if !goesOn || !s.goesOn then x
    else match content path s with
      | (.ok t, s) => (inputLines g path t :: found, true, s)
      | (.error e, s) =>
        if e = "Is a directory".toList then
          (found, false, fail 4 ("read error on ".toList ++ path ++ ": ".toList ++ e) s)
        else (found, true, fail 2 ("can't read ".toList ++ path ++ ": ".toList ++ e) s))
    ([], true, s)
  (joinedLines x.1.reverse.flatten, x.2.2)

/-- The option for editing in place may have the ending of a copy directly behind it. -/
def inPlaceEnding : List Text → List Text
  | [] => []
  | ['-', '-'] :: args => ['-', '-'] :: args
  | ('-' :: '-' :: r) :: args => ('-' :: '-' :: r) :: inPlaceEnding args
  | ('-' :: r) :: args =>
    let front := r.takeWhile fun c => "nErsuzP".toList.any (· == c)
    match r.drop front.length with
    | 'i' :: ending =>
      (if front.isEmpty then [] else ['-' :: front]) ++
        ("--in-place=".toList ++ ending) :: inPlaceEnding args
    | _ => ('-' :: r) :: inPlaceEnding args
  | a :: args => a :: inPlaceEnding args

/-- The parts of a script that options give. -/
def scriptParts (g : Given) (s : State) : List Script.Part × State :=
  let asked := g.options.filter fun o => o.1 == 'e' || o.1 == 'f'
  let x := asked.foldl (fun (x : List Script.Part × Nat × State) o =>
    let (parts, n, s) := x
    if o.1 == 'e' then (⟨.argument (n + 1), o.2⟩ :: parts, n + 1, s)
    else match content o.2 s with
      | (.ok t, s) =>
        (⟨.file o.2, if t.getLast? = some '\n' then t.dropLast else t⟩ :: parts, n, s)
      | (.error e, s) =>
        (parts, n, if s.status ≠ 0 then s
          else fail 4 ("couldn't open file ".toList ++ o.2 ++ ": ".toList ++ e) s))
    ([], 0, s)
  (x.1.reverse, x.2.2)

/-- Make the files that a script writes to. -/
def makeTargets (cs : List Command) (s : State) : State :=
  (Script.writtenFiles cs).foldl (fun s path =>
    if s.status ≠ 0 || path = "/dev/stdout".toList || path = "/dev/stderr".toList then s
    else match Opening.forWriting true false path s with
      | .ok (_, s) => s
      | .error e =>
        let e := if e = "Directory nonexistent" then "No such file or directory" else e
        fail 4 ("couldn't open file ".toList ++ path ++ ": ".toList ++ e.toList) s) s

def sed : Action := fun args s =>
  withOptions 1 sedOptions (inPlaceEnding args) s fun g s =>
    let (asked, s) := scriptParts g (s.withStatus 0)
    if s.status ≠ 0 then s
    else
      let (parts, files) : List Script.Part × List Text := match asked, g.operands with
        | [], t :: files => ([⟨.argument 1, t⟩], files)
        | asked, files => (asked, files)
      match parts.getLast? with
      | none =>
        (s.err "Usage: sed [OPTION]... \x7bscript-only-if-no-other-script\x7d [input-file]...\n".toList).withStatus 1
      | some last =>
        match Script.read (g.has 'E' || g.has 'r') parts with
        | .error (status, message) => fail status message s
        | .ok commands =>
          let s := makeTargets commands s
          let quiet := g.has 'n' || parts.head?.any fun p => "#n".toList.isPrefixOf p.text
          let width := ((g.value? 'l').map fun t => (Script.digitsOf t).1).getD 70
          let o : Outlet := ⟨g, ⟨quiet, g.has 'P', width, commands⟩, last.source⟩
          if s.status ≠ 0 then s
          else if g.has 'i' && files.isEmpty then fail 4 "no input files".toList s
          else if g.has 'i' || g.has 's' then
            editEach o (if files.isEmpty then [['-']] else files) false [] s
          else
            let (ls, s) := linesOfFiles g files s
            if !s.goesOn then s
            else
              let (e, s) := edited o ls s
              closed o e (print e.out.reverse.flatten s)

end Exemplar.Shell.Program
