import Exemplar.Shell.Program.Basic

/-!
# Programs for lines

Programs that copy, count, number, cut off and turn around the lines of their input.
-/
namespace Exemplar.Shell.Program
open Text
open Builtin (Given)

/-- How many pieces are copied in a row. -/
def copyLimit : Nat := 1000000

/-- Copy the input to streams as it arrives. -/
def copyTo (targets : List Channel) : Nat → State → State
  | 0, s => s
  | fuel + 1, s =>
    match s.readPiece 0 with
    | (none, s) => s
    | (some t, s) =>
      if s.goesOn then copyTo targets fuel (targets.foldl (fun s c => s.writeTo c t) s) else s

def own (s : State) (number : Nat) : List Channel := (s.channel number).toList

/-- How `cat` shows a character that is not printed as it is. -/
def visible (g : Given) (c : Char) : Text :=
  let low := fun (n : Nat) =>
    if n = 127 then ['^', '?'] else if n < 32 then ['^', Char.ofNat (n + 64)] else [Char.ofNat n]
  if c = '\n' then ['\n']
  else if c = '\t' then
    if g.has 'T' || g.has 'A' || g.has 't' then ['^', 'I'] else ['\t']
  else if g.has 'v' || g.has 'A' || g.has 'e' || g.has 't' then
    if c.toNat ≥ 128 then 'M' :: '-' :: low (c.toNat - 128) else low c.toNat
  else [c]

/-- Lines with their breaks, as `cat` shows them. -/
def shownLines (g : Given) : Nat → Bool → List Text → List Text
  | _, _, [] => []
  | n, afterBlank, l :: ls =>
    let isBlank := l = ['\n']
    if g.has 's' && isBlank && afterBlank then shownLines g n true ls
    else
      let numbered := if g.has 'b' then !isBlank else g.has 'n'
      let ends := g.has 'E' || g.has 'A' || g.has 'e'
      let body := l.flatMap fun c => if c = '\n' && ends then ['$', '\n'] else visible g c
      let shown := if numbered then column 6 n ++ '\t' :: body else body
      shown :: shownLines g (if numbered then n + 1 else n) isBlank ls

def cat : Action := fun args s =>
  withOptions 1 ⟨"AbeEnstTuv", [("show-all", 'A'), ("number", 'n'), ("number-nonblank", 'b'),
    ("squeeze-blank", 's'), ("show-ends", 'E'), ("show-tabs", 'T')], false⟩ args s fun g s =>
    let s := s.withStatus 0
    if g.options.any fun o => o.1 != 'u' then
      let (t, s) := allInput plainTrouble 1 g.operands s
      print (shownLines g 1 false (splitInclusive t)).flatten s
    else
      let files := if g.operands.isEmpty then [['-']] else g.operands
      files.foldl (fun s f =>
        if !s.goesOn then s
        else if f = ['-'] && (inputTrouble? s).isNone && s.channel 0 ≠ some .zeros then
          match s.channel 1 with
          | some (.output _) => copyTo (own s 1) copyLimit s
          | some (.pipe _) => copyTo (own s 1) copyLimit s
          | _ => let (t, s) := s.readAll 0; print t s
        else match content f s with
          | (.ok t, s) => print t s
          | (.error e, s) => fail 1 (plainTrouble f e) s) s

def tee : Action := fun args s =>
  withOptions 1 ⟨"aip", [("append", 'a')], false⟩ args s fun g s =>
    let (targets, s) := g.operands.foldl (fun (x : List Channel × State) f =>
      match Opening.forWriting (!g.has 'a') false f x.2 with
      | .ok (c, s) => (x.1 ++ [c], s)
      | .error _ =>
        let message := match x.2.resolve f with
          | .ok _ => "Is a directory".toList
          | .error e => cause e
        (x.1, fail 1 (plainTrouble f message) x.2)) (own s 1, s.withStatus 0)
    copyTo targets copyLimit s

/-- Print the same line without end; only a pipe takes that. -/
def yes : Action := fun args s =>
  let line := (if args.isEmpty then ['y'] else (args.intersperse [' ']).flatten) ++ ['\n']
  match s.channel 1 with
  | some (.pipe _) => (s.out ((List.replicate (300000 / line.length + 1) line).flatten)).withStatus 141
  | some (.output _) => (s.out ((List.replicate 2000 line).flatten)).withFlow .stop
  | some .null => s.withFlow .stop
  | _ => fail 1 "standard output: No space left on device".toList s

/-- A count in front of the options, as in `-5`. -/
def shortCount (args : List Text) : List Text :=
  match args with
  | ('-' :: d :: r) :: rest =>
    if d.isDigit then
      let digits := (d :: r).takeWhile Char.isDigit
      let unit := (d :: r).drop digits.length
      if unit = ['c'] then "-c".toList :: digits :: rest
      else "-n".toList :: digits :: (if unit.isEmpty then rest else ('-' :: unit) :: rest)
    else args
  | _ => args

/-- How much of a text is taken, and whether it is all but so much. -/
structure Extent where
  byLines : Bool
  count : Nat
  /-- The count is marked by this sign. -/
  sign : Option Char

def Extent.read (byLines : Bool) (t : Text) : Option Extent :=
  match t with
  | '-' :: r => (sizeOf? r).map fun n => ⟨byLines, n, some '-'⟩
  | '+' :: r => (sizeOf? r).map fun n => ⟨byLines, n, some '+'⟩
  | r => (sizeOf? r).map fun n => ⟨byLines, n, none⟩

/-- The extent that options ask for. -/
def extentOf (g : Given) : Except Text Extent :=
  let asked := (g.options.filter fun o => o.1 == 'n' || o.1 == 'c').getLast?
  match asked with
  | none => .ok ⟨true, 10, none⟩
  | some (letter, t) =>
    match Extent.read (letter == 'n') t with
    | some e => .ok e
    | none =>
      let what := if letter = 'n' then "lines: " else "bytes: "
      .error ("invalid number of ".toList ++ what.toList ++ inQuotes t)

def firstPart (e : Extent) (t : Text) : Text :=
  let keep := fun (n : Nat) => if e.sign = some '-' then n - e.count else e.count
  if e.byLines then
    let ls := splitInclusive t
    (ls.take (keep ls.length)).flatten
  else t.take (keep t.length)

def lastPart (e : Extent) (t : Text) : Text :=
  let skip := fun (n : Nat) => if e.sign = some '+' then e.count - 1 else n - e.count
  if e.byLines then
    let ls := splitInclusive t
    (ls.drop (skip ls.length)).flatten
  else t.drop (skip t.length)

/-- The name of a file over its part. -/
def heading (isFirst : Bool) (path : Text) : Text :=
  let name := if path = ['-'] then "standard input".toList else path
  (if isFirst then [] else ['\n']) ++ "==> ".toList ++ name ++ " <==\n".toList

def unopened : Trouble := fun path cause =>
  if cause = "Is a directory".toList then "error reading ".toList ++ inQuotes path ++ ": ".toList ++ cause
  else "cannot open ".toList ++ inQuotes path ++ " for reading: ".toList ++ cause

/-- Give a part of each file. -/
def parts (g : Given) (f : Text → Text) (s : State) : State :=
  let several := (g.operands.length > 1 && !g.has 'q') || g.has 'v'
  let paths := if g.operands.isEmpty then [['-']] else g.operands
  let x := paths.foldl (fun (x : Bool × State) path =>
    if !x.2.goesOn then x
    else match content path x.2 with
      | (.ok t, s) =>
        let head := if several then heading x.1 path else []
        (false, if s.goesOn then print (head ++ f t) s else s)
      | (.error e, s) =>
        let isDirectory := e = "Is a directory".toList
        let s := if isDirectory && several then print (heading x.1 path) s else s
        (x.1 && !isDirectory, fail 1 (unopened path e) s)) (true, s)
  x.2

/-- As much of the input as is needed. -/
def readEnough (isEnough : Text → Bool) : Nat → Text → State → Text × State
  | 0, t, s => (t, s)
  | fuel + 1, t, s =>
    if isEnough t then (t, s)
    else match s.readPiece 0 with
      | (none, s) => (t, s)
      | (some piece, s) => if s.goesOn then readEnough isEnough fuel (t ++ piece) s else (t, s)

def lineOptions : Known :=
  ⟨"n:c:qvfF", [("lines", 'n'), ("bytes", 'c'), ("quiet", 'q'), ("verbose", 'v'),
    ("follow", 'f')], false⟩

def head : Action := fun args s =>
  withOptions 1 lineOptions (shortCount args) s fun g s =>
    match extentOf g with
    | .error message => fail 1 message s
    | .ok e =>
      let s := s.withStatus 0
      let reads := g.operands.isEmpty && !g.has 'v' && e.sign ≠ some '-'
      if reads && (s.source? 0).isSome then
        let isEnough := fun (t : Text) =>
          if e.byLines then e.count ≤ newlines t else e.count ≤ t.length
        let (t, s) := readEnough isEnough copyLimit [] s
        if !s.goesOn then s
        else
          let first := firstPart e t
          let isFile := match s.source? 0 with
            | some (_, x) => x.place.isSome
            | none => false
          let s := if isFile then s.unread 0 (t.drop first.length) else s
          print first s
      else parts g (firstPart e) s

/-- A count behind a plus, in the old manner. -/
def plusCount (args : List Text) : List Text :=
  match args with
  | ('+' :: digits) :: rest =>
    if (natOf? digits).isSome then "-n".toList :: ('+' :: digits) :: rest else args
  | _ => args

def tail : Action := fun args s =>
  withOptions 1 lineOptions (plusCount (shortCount args)) s fun g s =>
    match extentOf g with
    | .error message => fail 1 message s
    | .ok e =>
      let s := parts g (lastPart e) (s.withStatus 0)
      if (g.has 'f' || g.has 'F') && !g.operands.isEmpty && s.goesOn then s.withFlow .stop else s

/-- Words of a text, which blanks separate. -/
def words (t : Text) : List Text := (splitBy Arithmetic.isSpace t).filter fun w => !w.isEmpty

structure Counts where
  lines : Nat
  words : Nat
  characters : Nat
  bytes : Nat
  longest : Nat

def Counts.of (t : Text) : Counts :=
  ⟨newlines t, (Program.words t).length, t.length, t.length,
    (splitBy (· == '\n') t).foldl (fun n l => max n l.length) 0⟩

def Counts.add (a b : Counts) : Counts :=
  ⟨a.lines + b.lines, a.words + b.words, a.characters + b.characters, a.bytes + b.bytes,
    max a.longest b.longest⟩

/-- The counts that options ask for. -/
def Counts.chosen (c : Counts) (g : Given) : List Nat :=
  let asked := ['l', 'w', 'm', 'c', 'L'].filter g.has
  let asked := if asked.isEmpty then ['l', 'w', 'c'] else asked
  asked.map fun letter =>
    match letter with
    | 'l' => c.lines
    | 'w' => c.words
    | 'm' => c.characters
    | 'c' => c.bytes
    | _ => c.longest

/-- Bytes of a regular file behind a path; nothing for anything else that is there. -/
def regularSize (s : State) (path : Text) : Option (Option Nat) :=
  if path = ['-'] then
    match s.source? 0 with
    | some (_, x) => some (x.place.map fun place => (s.fileAt place).length)
    | none => some none
  else match s.resolve path with
    | .ok ⟨_, .file bytes⟩ => some (some bytes.length)
    | .ok _ => some none
    | .error _ => none

def wc : Action := fun args s =>
  withOptions 1 ⟨"lwmcL", [("lines", 'l'), ("words", 'w'), ("chars", 'm'), ("bytes", 'c'),
    ("max-line-length", 'L')], false⟩ args s fun g s =>
    let paths := if g.operands.isEmpty then [['-']] else g.operands
    let single := paths.length = 1 && ((Counts.of []).chosen g).length = 1
    let sizes := paths.filterMap (regularSize s)
    let total := sizes.foldl (fun n x => n + x.getD 0) 0
    let least := if sizes.any Option.isNone then 7 else 1
    let failsFirst := (paths.head?.bind (regularSize s)).isNone
    let width := if single || failsFirst then 1 else max least (ofNat total).length
    let line := fun (c : Counts) (name : Text) =>
      ((c.chosen g).map (column width)).intersperse [' '] |>.flatten |> fun t =>
        t ++ (if name.isEmpty then [] else ' ' :: name) ++ ['\n']
    let x := paths.foldl (fun (x : Counts × State) path =>
      if !x.2.goesOn then x
      else match content path x.2 with
        | (.ok t, s) =>
          let c := Counts.of t
          let name := if g.operands.isEmpty then [] else path
          (x.1.add c, if s.goesOn then print (line c name) s else s)
        | (.error e, s) =>
          let s := fail 1 (plainTrouble path e) s
          (x.1, if e = "Is a directory".toList then print (line (Counts.of []) path) s else s))
      (Counts.of [], s.withStatus 0)
    if paths.length > 1 then print (line x.1 "total".toList) x.2 else x.2

def nl : Action :=
  lineFilter (letters "b:w:s:v:i:n:h:f:d:l:p") fun g ls =>
    let style := (g.value? 'b').getD ['t']
    let width := ((g.value? 'w').bind natOf?).getD 6
    let separator := (g.value? 's').getD ['\t']
    let step := ((g.value? 'i').bind natOf?).getD 1
    let number := fun (n : Nat) =>
      let t := ofNat n
      match (g.value? 'n').map String.ofList with
      | some "ln" => t ++ List.replicate (width - t.length) ' '
      | some "rz" => List.replicate (width - t.length) '0' ++ t
      | _ => column width n
    let x := ls.foldl (fun (x : Nat × List Text) l =>
      if style = ['n'] || (style = ['t'] && l.isEmpty) then
        (x.1, (List.replicate (width + separator.length) ' ' ++ l) :: x.2)
      else (x.1 + step, (number x.1 ++ separator ++ l) :: x.2))
      (((g.value? 'v').bind natOf?).getD 1, [])
    x.2.reverse

def tac : Action := fun args s =>
  withOptions 1 (letters "") args s fun g s =>
    eachInput unopened 1 g.operands (s.withStatus 0) fun _ t s =>
      print (splitInclusive t).reverse.flatten s

def rev : Action := fun args s =>
  withOptions 1 (letters "") args s fun g s =>
    eachInput plainTrouble 1 g.operands (s.withStatus 0) fun _ t s =>
      print ((splitInclusive t).flatMap fun l =>
        if l.getLast? = some '\n' then l.dropLast.reverse ++ ['\n'] else l.reverse) s

/-- Lines no longer than a width; with `-s` they are broken behind blanks. -/
def foldLine (width : Nat) (atBlanks : Bool) : Nat → Text → List Text
  | 0, t => [t]
  | fuel + 1, t =>
    if t.length ≤ width then [t]
    else
      let front := t.take width
      let kept := (front.reverse.dropWhile (· != ' ')).reverse
      let front := if atBlanks && !kept.isEmpty then kept else front
      front :: foldLine width atBlanks fuel (t.drop front.length)

def fold : Action := fun args s =>
  let args := args.map fun a => match a with
    | '-' :: d :: r => if d.isDigit then '-' :: 'w' :: d :: r else a
    | a => a
  withOptions 1 ⟨"bsw:", [("width", 'w'), ("spaces", 's'), ("bytes", 'b')], false⟩ args s fun g s =>
    match (g.value? 'w').map natOf? with
    | some none =>
      fail 1 ("invalid number of columns: ".toList ++ inQuotes ((g.value? 'w').getD [])) s
    | width =>
      let width := max 1 ((width.getD none).getD 80)
      eachInput plainTrouble 1 g.operands (s.withStatus 0) fun _ t s =>
        print ((splitInclusive t).flatMap fun l =>
          let broken := l.getLast? = some '\n'
          let body := if broken then l.dropLast else l
          ((foldLine width (g.has 's') (body.length + 1) body).intersperse ['\n']).flatten ++
            (if broken then ['\n'] else [])) s

end Exemplar.Shell.Program
