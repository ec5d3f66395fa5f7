import Exemplar.Diff.Listing
import Exemplar.Shell.Format
import Exemplar.Shell.Program.Paths

/-!
# Programs for files

Files are made, copied, moved, removed, compared and looked for.
-/
namespace Exemplar.Shell.Program
open Text
open Builtin (Given)

def noFile : Text := "No such file or directory".toList

def isDirectoryAt (s : State) (path : Text) : Bool :=
  match s.resolve path with
  | .ok ⟨_, .directory⟩ => true
  | _ => false

/-- Complain and go on. -/
def complainAbout (before : String) (path after : Text) (s : State) : State :=
  fail 1 (before.toList ++ inQuotes path ++ ": ".toList ++ after) s

/-- Carry out an action for all operands. -/
def forOperands (missing : String) (g : Given) (s : State) (f : Text → State → State) : State :=
  if g.operands.isEmpty then misused 1 missing.toList s
  else g.operands.foldl (fun s path => f path s) (s.withStatus 0)

/-- The new permissions that a mode asks for; nothing if it is no mode. -/
def modeFrom? (t : Text) (old mask : Nat) : Option Nat :=
  if t.head?.any Char.isDigit then (Arithmetic.natOf? 8 t).filter (· < 0o10000)
  else Builtin.changed? (0o111) old (t.length + 1) 0 t old |>.map fun n =>
    let named := t.any fun c => c == 'u' || c == 'g' || c == 'o' || c == 'a'
    if named then n else (n - (n &&& mask)) ||| (old &&& mask)

def makeDirectory (g : Given) (path : Text) (s : State) : State :=
  match s.placeFor? (trimSlashes path), s.resolve path with
  | _, .ok ⟨_, .directory⟩ =>
    if g.has 'p' then s
    else complainAbout "cannot create directory " path "File exists".toList s
  | _, .ok _ => complainAbout "cannot create directory " path "File exists".toList s
  | some place, .error .notFound =>
    let s := s.putEntry place .directory
    let s := match (g.value? 'm').bind fun m => modeFrom? m 0o777 s.mask with
      | some n => s.setAttribute place ⟨n, s.world.now⟩
      | none => s
    if g.has 'v' then print ("mkdir: created directory ".toList ++ inQuotes path ++ ['\n']) s else s
  | _, .error e => complainAbout "cannot create directory " path (cause e) s

/-- A path and the paths above it, from the top. -/
def pathsAbove (path : Text) : List Text :=
  let names := (splitBy (· == '/') path).filter fun n => !n.isEmpty
  let front := if path.head? = some '/' then ['/'] else []
  (List.range names.length).map fun k =>
    front ++ ((names.take (k + 1)).intersperse ['/']).flatten

def mkdir : Action := fun args s =>
  withOptions 1 ⟨"pvm:Z", [("parents", 'p'), ("mode", 'm'), ("verbose", 'v')], false⟩ args s
    fun g s =>
    forOperands "missing operand" g s fun path s =>
      if g.has 'p' then
        (pathsAbove path).foldl (fun s p =>
          if isDirectoryAt s p || s.status ≠ 0 then s else makeDirectory g p s) s
      else makeDirectory g path s

def isEmptyDirectory (s : State) (place : Files.Place) : Bool := (Expansion.namesIn s place).isEmpty

def rmdir : Action := fun args s =>
  withOptions 1 ⟨"pv", [("parents", 'p'), ("verbose", 'v')], false⟩ args s fun g s =>
    let one := fun (path : Text) (s : State) =>
      match s.resolveLink path with
      | .ok ⟨place, .directory⟩ =>
        if isEmptyDirectory s place then s.removeEntry place
        else complainAbout "failed to remove " path "Directory not empty".toList s
      | .ok _ => complainAbout "failed to remove " path "Not a directory".toList s
      | .error e => complainAbout "failed to remove " path (cause e) s
    forOperands "missing operand" g s fun path s =>
      if g.has 'p' then
        (pathsAbove path).reverse.foldl (fun s p => if s.status ≠ 0 then s else one p s) s
      else one path s

/-- A path without a separator at its end. -/
def under (path name : Text) : Text :=
  if path.getLast? = some '/' then path ++ name else path ++ '/' :: name

/-- What is removed of a tree, deepest first. -/
def removedPaths (s : State) : Nat → Text → Files.Place → List (Bool × Text)
  | 0, _, _ => []
  | fuel + 1, path, place =>
    let below := (Expansion.namesIn s place).flatMap fun n =>
      match s.world.tree.entryAt? (place ++ [n]) with
      | some .directory => removedPaths s fuel (under path n) (place ++ [n])
      | _ => [(false, under path n)]
    below ++ [(true, path)]

def rm : Action := fun args s =>
  withOptions 1 ⟨"rRfidvI", [("recursive", 'r'), ("force", 'f'), ("verbose", 'v'), ("dir", 'd')],
    false⟩ args s fun g s =>
    let deep := g.has 'r' || g.has 'R'
    let tell := fun (what : String) (path : Text) (s : State) =>
      if g.has 'v' then print (what.toList ++ inQuotes path ++ ['\n']) s else s
    if g.operands.isEmpty && g.has 'f' then s.withStatus 0
    else forOperands "missing operand" g s fun path s =>
      let last := baseOf [] path
      if deep && (last = Path.dot || last = Path.dotDot) then
        fail 1 ("refusing to remove '.' or '..' directory: skipping ".toList ++ inQuotes path) s
      else match s.resolveLink path with
      | .ok ⟨place, .directory⟩ =>
        if deep then
          let paths := removedPaths s 100 path place
          paths.foldl (fun s p => tell (if p.1 then "removed directory " else "removed ") p.2 s)
            (s.removeEntry place)
        else if g.has 'd' then
          if isEmptyDirectory s place then tell "removed directory " path (s.removeEntry place)
          else complainAbout "cannot remove " path "Directory not empty".toList s
        else complainAbout "cannot remove " path "Is a directory".toList s
      | .ok ⟨place, _⟩ => tell "removed " path (s.removeEntry place)
      | .error e =>
        if g.has 'f' && (e = .notFound || e = .notADirectory) then s
        else complainAbout "cannot remove " path (cause e) s

def touch : Action := fun args s =>
  withOptions 1 ⟨"acmhd:t:r:", [("no-create", 'c'), ("date", 'd'), ("reference", 'r')], false⟩ args s
    fun g s =>
    forOperands "missing file operand" g s fun path s =>
      match s.resolve path, s.placeFor? path with
      | .ok r, _ => s.setAttribute r.place { s.attributeAt r.place with changed := s.world.now + 1 }
      | .error .notFound, some place => if g.has 'c' then s else s.putFile place []
      | .error e, _ => if g.has 'c' then s else complainAbout "cannot touch " path (cause e) s

def truncate : Action := fun args s =>
  withOptions 1 ⟨"cs:or:", [("size", 's'), ("no-create", 'c')], false⟩ args s fun g s =>
    match (g.value? 's').bind sizeOf? with
    | none => misused 1 "you must specify either '--size' or '--reference'".toList s
    | some n =>
      forOperands "missing file operand" g s fun path s =>
        match s.placeFor? path with
        | some place =>
          let t := (s.fileAt place).take n
          s.putFile place (t ++ List.replicate (n - t.length) '\x00')
        | none => complainAbout "cannot open " path noFile s

def ln : Action := fun args s =>
  withOptions 1 ⟨"sfnvTrt:L", [("symbolic", 's'), ("force", 'f'), ("no-dereference", 'n')], false⟩
    args s fun g s =>
    let link := fun (target path : Text) (s : State) =>
      let path := if isDirectoryAt s path && !(g.has 'n' || g.has 'T') then
        under path (baseOf [] target) else path
      let kind := if g.has 's' then "failed to create symbolic link " else "failed to create hard link "
      match s.resolveLink path, s.parentOf? path with
      | .ok r, _ =>
        if g.has 'f' && r.entry ≠ .directory then
          if g.has 's' then (s.removeEntry r.place).putEntry r.place (.link target)
          else match s.resolve target with
            | .ok source => (s.removeEntry r.place).putEntry r.place source.entry
            | .error e => complainAbout "failed to access " target (cause e) s
        else complainAbout kind path "File exists".toList s
      | .error _, some (place, name) =>
        if g.has 's' then s.putEntry (place ++ [name]) (.link target)
        else match s.resolveLink target with
          | .ok ⟨_, .directory⟩ => fail 1 (target ++ ": hard link not allowed for directory".toList) s
          | .ok source => s.putEntry (place ++ [name]) source.entry
          | .error e => complainAbout "failed to access " target (cause e) s
      | .error e, none => complainAbout kind path (cause e) s
    let s := s.withStatus 0
    match g.operands with
    | [] => misused 1 "missing file operand".toList s
    | [target] => link target (baseOf [] target) s
    | [target, path] => link target path s
    | several =>
      let path := several.getLast?.getD []
      if isDirectoryAt s path then several.dropLast.foldl (fun s t => link t path s) s
      else fail 1 ("target ".toList ++ inQuotes path ++ ": ".toList ++ (match s.resolve path with
        | .ok _ => "Not a directory".toList
        | .error e => cause e)) s

/-- Give a file and what is below it new permissions. -/
def changeMode (mode : Text) (place : Files.Place) (s : State) : State :=
  let a := s.attributeAt place
  match modeFrom? mode a.permissions s.mask with
  | some n => s.setAttribute place { a with permissions := n }
  | none => s

def chmod : Action := fun args s =>
  let (modes, args) := match args with
    | ('-' :: c :: r) :: rest =>
      if "rwxXst".toList.any (· == c) then ([('-' :: c :: r)], rest) else ([], args)
    | _ => ([], args)
  withOptions 1 ⟨"Rvcf", [("recursive", 'R'), ("verbose", 'v')], false⟩ args s fun g s =>
    match modes ++ g.operands with
    | [] => misused 1 "missing operand".toList s
    | [mode] => misused 1 ("missing operand after ".toList ++ inQuotes mode) s
    | mode :: paths =>
      if (modeFrom? mode 0 0).isNone then misused 1 ("invalid mode: ".toList ++ inQuotes mode) s
      else paths.foldl (fun s path =>
        match s.resolve path with
        | .ok r =>
          let below := if g.has 'R' then
              s.world.tree.entries.filterMap fun e =>
                match List.isPrefixOf? r.place e.1 with
                | some (_ :: _) => some e.1
                | _ => none
            else []
          (r.place :: below).foldl (fun s place => changeMode mode place s) s
        | .error e =>
          if (s.resolveLink path).toOption.isSome then
            fail 1 ("cannot operate on dangling symlink ".toList ++ inQuotes path) s
          else complainAbout "cannot access " path (cause e) s) (s.withStatus 0)

def mktemp : Action := fun args s =>
  withOptions 1 ⟨"dup:qt", [("directory", 'd'), ("dry-run", 'u'), ("tmpdir", 'p')], false⟩ args s
    fun g s =>
    let letters := "aBcDeFgHjK".toList
    let (n, s) := s.fresh
    let template := g.operands.head?.getD "/tmp/tmp.XXXXXXXXXX".toList
    let count := (template.reverse.takeWhile (· == 'X')).length
    if count < 3 then fail 1 ("too few X's in template ".toList ++ inQuotes template) s
    else
      let fill := ((ofNat n).reverse ++ letters).take count
      let path := template.take (template.length - count) ++ fill ++
        List.replicate (count - fill.length) 'q'
      let path := match g.value? 'p' with
        | some d => under d path
        | none => path
      match s.placeFor? path with
      | none => complainAbout "failed to create file via template " template noFile s
      | some place =>
        let s := if g.has 'u' then s
          else if g.has 'd' then (s.putEntry place .directory).setAttribute place ⟨0o700, s.world.now⟩
          else (s.putFile place []).setAttribute place ⟨0o600, s.world.now⟩
        print (path ++ ['\n']) (s.withStatus 0)

/-- Entries at a place and below it, by what follows the place. -/
def entriesFrom (s : State) (place : Files.Place) : List (Files.Place × Files.Entry) :=
  s.world.tree.entries.filterMap fun e =>
    match List.isPrefixOf? place e.1 with
    | some (name :: rest) => some (name :: rest, e.2)
    | _ => none

/-- Put a copy of what is at a place, with everything below it, at another place. -/
def copyEntries (keeps : Bool) (source target : Files.Place) (e : Files.Entry) (s : State) : State :=
  let copyOne := fun (rest : Files.Place) (e : Files.Entry) (s : State) =>
    let a := s.attributeAt (source ++ rest)
    let mask := if keeps then 0 else s.mask
    let s' := s.putEntry (target ++ rest) e
    s'.setAttribute (target ++ rest)
      ⟨a.permissions - (a.permissions &&& mask), if keeps then a.changed else s'.world.now + 1⟩
  (entriesFrom s source).foldl (fun s x => copyOne x.1 x.2 s) (copyOne [] e s)

/-- Copy or move one path to another one. -/
def transferOne (moves : Bool) (g : Given) (path target : Text) (s : State) : State :=
  let verb := if moves then "renamed " else ""
  let tell := fun (target : Text) (s : State) =>
    if g.has 'v' then
      print (verb.toList ++ inQuotes path ++ " -> ".toList ++ inQuotes target ++ ['\n']) s
    else s
  let deep := moves || g.has 'r' || g.has 'R' || g.has 'a'
  let keeps := moves || g.has 'p' || g.has 'a'
  let found := if moves || ((g.has 'a' || g.has 'd' || g.has 'P') && !g.has 'L') then s.resolveLink path
    else s.resolve path
  match found with
  | .error e => complainAbout "cannot stat " path (cause e) s
  | .ok source =>
    if source.entry = .directory && !deep then
      fail 1 ("-r not specified; omitting directory ".toList ++ inQuotes path) s
    else
      let into := isDirectoryAt s target && !g.has 'T'
      let name := if into then under target (baseOf [] path) else target
      let place := match s.resolve name, s.placeFor? (trimSlashes name) with
        | .ok r, _ => some r.place
        | _, p => p
      match place with
      | none =>
        if moves then
          fail 1 ("cannot move ".toList ++ inQuotes path ++ " to ".toList ++ inQuotes name ++
            ": ".toList ++ noFile) s
        else if source.entry = .directory then complainAbout "cannot create directory " name noFile s
        else complainAbout "cannot create regular file " name noFile s
      | some place =>
        if place = source.place then
          fail 1 (inQuotes path ++ " and ".toList ++ inQuotes name ++ " are the same file".toList) s
        else if name.getLast? = some '/' && source.entry ≠ .directory then
          complainAbout "cannot create regular file " name "Not a directory".toList s
        else
          let old := s.world.tree.entryAt? place
          match old, source.entry with
          | some .directory, .directory =>
            if moves && !isEmptyDirectory s place then
              fail 1 ("cannot move ".toList ++ inQuotes path ++ " to ".toList ++ inQuotes name ++
                ": Directory not empty".toList) s
            else
              let s := copyEntries keeps source.place place source.entry s
              tell name (if moves then s.removeEntry source.place else s)
          | some .directory, _ =>
            fail 1 ("cannot overwrite directory ".toList ++ inQuotes name ++
              " with non-directory".toList) s
          | some _, .directory =>
            fail 1 ("cannot overwrite non-directory ".toList ++ inQuotes name ++
              " with directory ".toList ++ inQuotes path) s
          | old, e =>
            if List.isPrefixOf source.place place then
              let what := if moves then "cannot move " else "cannot copy a directory, "
              fail 1 (what.toList ++ inQuotes path ++ (if moves then " to a subdirectory of itself, "
                else ", into itself, ").toList ++ inQuotes name) s
            else if g.has 'n' && old.isSome then s
            else
              let s := if moves then copyEntries true source.place place e (s.removeEntry place)
                else match old with
                  | some _ => match e with
                    | .file bytes => s.putFile place (ofBytes bytes)
                    | e => s.putEntry place e
                  | none => copyEntries keeps source.place place e s
              tell name (if moves then s.removeEntry source.place else s)

def transfer (moves : Bool) : Action := fun args s =>
  withOptions 1 ⟨"rRafpinvuTdPLHt:xlsbZ", [("recursive", 'r'), ("archive", 'a'), ("force", 'f'),
    ("verbose", 'v'), ("no-clobber", 'n'), ("target-directory", 't'), ("no-target-directory", 'T')],
    false⟩ args s fun g s =>
    let s := s.withStatus 0
    match g.value? 't', g.operands with
    | some d, paths => paths.foldl (fun s p => transferOne moves g p d s) s
    | none, [] => misused 1 "missing file operand".toList s
    | none, [a] => misused 1 ("missing destination file operand after ".toList ++ inQuotes a) s
    | none, [a, b] => transferOne moves g a b s
    | none, several =>
      let target := several.getLast?.getD []
      if isDirectoryAt s target then
        several.dropLast.foldl (fun s p => transferOne moves g p target s) s
      else fail 1 ("target ".toList ++ inQuotes target ++ ": ".toList ++ (match s.resolve target with
        | .ok _ => "Not a directory".toList
        | .error e => cause e)) s

def kindOf (l : Listed) : Text :=
  (match l.entry with
    | .directory => "directory"
    | .link _ => "symbolic link"
    | .device => "character special file"
    | .file bytes => if bytes.isEmpty then "regular empty file" else "regular file").toList

/-- A description of a file in the manner of a format. -/
def described (s : State) (l : Listed) : Nat → Text → Text
  | 0, _ => []
  | _ + 1, [] => []
  | fuel + 1, '%' :: c :: r =>
    let permissions := (s.attributeAt l.place).permissions
    let shown : Text := match c with
      | 'n' => l.name
      | 's' => ofNat l.size
      | 'F' => kindOf l
      | 'a' => Nat.toDigits 8 permissions
      | 'A' => modeText s l
      | 'U' => "root".toList
      | 'G' => "root".toList
      | 'u' => ['0']
      | 'g' => ['0']
      | 'h' => ['1']
      | 'N' => inQuotes l.name
      | '%' => ['%']
      | _ => ['0']
    shown ++ described s l fuel r
  | fuel + 1, c :: r => c :: described s l fuel r

def stat : Action := fun args s =>
  withOptions 1 ⟨"Lfc:tp:", [("format", 'c'), ("printf", 'p'), ("dereference", 'L')], false⟩ args s
    fun g s =>
    forOperands "missing operand" g s fun path s =>
      match if g.has 'L' then s.resolve path else s.resolveLink path with
      | .ok r =>
        let l : Listed := ⟨path, r.place, r.entry⟩
        match g.value? 'c', g.value? 'p' with
        | some f, _ => print (described s l (f.length + 1) f ++ ['\n']) s
        | none, some f =>
          let f := (Format.unescape (f.length + 1) f).1
          print (described s l (f.length + 1) f) s
        | none, none => print ("  File: ".toList ++ path ++ ['\n']) s
      | .error e => complainAbout "cannot statx " path (cause e) s

/-- The texts of two files. -/
def twoInputs (status : Nat) (paths : List Text) (s : State) (f : Text → Text → State → State) :
    State :=
  match paths with
  | [a, b] =>
    let (x, s) := content a (s.withStatus 0)
    let (y, s) := content b s
    match x, y with
    | .ok x, .ok y => f x y s
    | .error e, .ok _ => fail status (plainTrouble a e) s
    | .ok _, .error e => fail status (plainTrouble b e) s
    | .error e, .error e' => fail status (plainTrouble b e') (fail status (plainTrouble a e) s)
  | [] => misusedTwice ("missing operand after ".toList ++ inQuotes s.name) s
  | [a] => misusedTwice ("missing operand after ".toList ++ inQuotes a) s
  | _ :: _ :: c :: _ => misusedTwice ("extra operand ".toList ++ inQuotes c) s
where
  misusedTwice (message : Text) (s : State) : State :=
    fail status ("Try ".toList ++ inQuotes (s.name ++ " --help".toList) ++
      " for more information.".toList) (say message s)

/-- How many characters two texts share at their beginning. -/
def sharedLength : Text → Text → Nat
  | a :: s, b :: t => if a = b then sharedLength s t + 1 else 0
  | _, _ => 0

def cmp : Action := fun args s =>
  withOptions 2 ⟨"slbi:n:", [("silent", 's'), ("quiet", 's'), ("verbose", 'l')], false⟩ args s
    fun g s =>
    let paths := if g.operands.length = 1 then g.operands ++ [['-']] else g.operands
    twoInputs 2 paths s fun x y s =>
      let n := sharedLength x y
      if x.length = n && y.length = n then s
      else if g.has 's' then s.withStatus 1
      else if x.length = n || y.length = n then
        let short := (if x.length = n then paths.head? else paths[1]?).getD []
        let lines := newlines (x.take n)
        let place := if n = 0 then " which is empty".toList
          else " after byte ".toList ++ ofNat n ++
            (if x[n - 1]? = some '\n' then ", line ".toList ++ ofNat lines
              else ", in line ".toList ++ ofNat (lines + 1))
        fail 1 ("EOF on ".toList ++ short ++ place) s
      else
        let names := (paths.intersperse [' ']).flatten
        (print (names ++ " differ: char ".toList ++ ofNat (n + 1) ++ ", line ".toList ++
          ofNat (newlines (x.take n) + 1) ++ ['\n']) s).withStatus 1

/-- A range of lines in a command of an edit. -/
def lineRange (first count : Nat) : Text :=
  if count ≤ 1 then ofNat (if count = 0 then first else first + 1)
  else ofNat (first + 1) ++ ',' :: ofNat (first + count)

/-- A line of a difference, with a note if nothing ends it. -/
def markedLine (mark l : Text) : Text :=
  mark ++ l ++
    if l.getLast? = some '\n' then [] else "\n\\ No newline at end of file\n".toList

/-- A change as a command of an edit with its lines. -/
def editOf : Diff.Change → Text
  | .same _ _ _ => []
  | .edit o n removed added =>
    let letter := if removed.isEmpty then 'a' else if added.isEmpty then 'd' else 'c'
    lineRange o removed.length ++ letter :: lineRange n added.length ++ '\n' ::
      removed.flatMap (markedLine "< ".toList) ++
      (if letter = 'c' then "---\n".toList else []) ++ added.flatMap (markedLine "> ".toList)

def diff : Action := fun args s =>
  withOptions 2 ⟨"uqsbwiBNrU:c", [("unified", 'u'), ("brief", 'q'), ("report-identical-files", 's'),
    ("ignore-case", 'i'), ("ignore-all-space", 'w')], false⟩ args s fun g s =>
    twoInputs 2 g.operands s fun x y s =>
      let names := (g.operands.intersperse " and ".toList).flatten
      let same := if g.has 'i' then x.map Char.toLower == y.map Char.toLower
        else if g.has 'w' then (x.filter fun c => !isBlankHere c) == (y.filter fun c => !isBlankHere c)
        else x == y
      if same then
        if g.has 's' then print ("Files ".toList ++ names ++ " are identical\n".toList) s else s
      else
        let shown :=
          if g.has 'q' then "Files ".toList ++ names ++ " differ\n".toList
          else if g.has 'u' || g.has 'U' then
            let title := fun (sign : String) (path : Text) =>
              sign.toList ++ path ++ "\t1970-01-01 00:00:00.000000000 +0000\n".toList
            title "--- " (g.operands.head?.getD []) ++ title "+++ " ((g.operands[1]?).getD []) ++
              (Diff.hunks (Diff.changes x y)).flatMap Diff.Hunk.text
          else (Diff.changes x y).flatMap editOf
        (print shown s).withStatus 1
where
  isBlankHere (c : Char) : Bool := c == ' ' || c == '\t'

/-- Paths at and below a path, with what they lead to. -/
def tree (s : State) : Nat → Nat → Text → Files.Place → Files.Entry → List (Nat × Listed)
  | 0, _, _, _, _ => []
  | fuel + 1, depth, path, place, e =>
    let below := match e with
      | .directory => (Expansion.namesIn s place).flatMap fun n =>
        match s.world.tree.entryAt? (place ++ [n]) with
        | some e => tree s fuel (depth + 1) (under path n) (place ++ [n]) e
        | none => []
      | _ => []
    (depth, ⟨path, place, e⟩) :: below

/-- What a file has to satisfy, and what is done with it. -/
inductive Wish
  | name (pattern : Text) (ignoresCase : Bool)
  | path (pattern : Text)
  | kind (c : Char)
  | empty
  | least (depth : Nat)
  | most (depth : Nat)
  | not (w : Wish)
  | print
  | printEnded
  | delete
  | run (words : List Text)

/-- Wishes of the arguments of `find`. -/
def wishes : Nat → List Text → Except Text (List Wish)
  | 0, _ => .ok []
  | _ + 1, [] => .ok []
  | fuel + 1, w :: rest =>
    let one := fun (f : Text → Wish) => match rest with
      | v :: rest => do return f v :: (← wishes fuel rest)
      | [] => (.error ("missing argument to ".toList ++ inQuotes' w) : Except Text (List Wish))
    let number := fun (v : Text) => (natOf? v).getD 0
    match String.ofList w with
    | "-name" => one fun v => .name v false
    | "-iname" => one fun v => .name v true
    | "-path" => one .path
    | "-type" => one fun v => .kind (v.head?.getD 'f')
    | "-mindepth" => one fun v => .least (number v)
    | "-maxdepth" => one fun v => .most (number v)
    | "-empty" => do return .empty :: (← wishes fuel rest)
    | "-print" => do return .print :: (← wishes fuel rest)
    | "-print0" => do return .printEnded :: (← wishes fuel rest)
    | "-delete" => do return .delete :: (← wishes fuel rest)
    | "-a" => wishes fuel rest
    | "-and" => wishes fuel rest
    | "!" => do
      match ← wishes fuel rest with
      | w :: ws => return .not w :: ws
      | [] => return []
    | "-not" => do
      match ← wishes fuel rest with
      | w :: ws => return .not w :: ws
      | [] => return []
    | "-exec" =>
      let words := rest.takeWhile fun a => a ≠ [';'] && a ≠ ['+']
      do return .run words :: (← wishes fuel (rest.drop (words.length + 1)))
    | _ =>
      if w.head? = some '-' then .error ("unknown predicate `".toList ++ w ++ ['\''])
      else .error ("paths must precede expression: `".toList ++ w ++ ['\''])
where
  inQuotes' (t : Text) : Text := Char.ofNat 96 :: t ++ ['\'']

def globOf (pattern : Text) : List Glob := Glob.parse (pattern.map fun c => (c, false))

/-- Whether a file satisfies a wish. -/
def Wish.holds (s : State) (depth : Nat) (l : Listed) : Wish → Bool
  | .name p ignoresCase =>
    let base := baseOf [] l.name
    if ignoresCase then Glob.accepts (globOf (p.map Char.toLower)) (base.map Char.toLower)
    else Glob.accepts (globOf p) base
  | .path p => Glob.accepts (globOf p) l.name
  | .kind c =>
    match l.entry with
    | .directory => c == 'd'
    | .file _ => c == 'f'
    | .link _ => c == 'l'
    | .device => c == 'c'
  | .empty =>
    match l.entry with
    | .directory => isEmptyDirectory s l.place
    | .file bytes => bytes.isEmpty
    | _ => false
  | .least n => n ≤ depth
  | .most n => depth ≤ n
  | .not w => !Wish.holds s depth l w
  | _ => true

/-- Whether a wish is something to be done. -/
def Wish.acts : Wish → Bool
  | .print => true
  | .printEnded => true
  | .delete => true
  | .run _ => true
  | _ => false

/-- What is found, and the wishes; the paths stand in front of the wishes. -/
def findFiles (args : List Text) (s : State) : Except Text (List Wish × List (Nat × Listed) × State) :=
  let isPath := fun (a : Text) => a.head? ≠ some '-' && a ≠ ['!'] && a ≠ ['(']
  let paths := args.takeWhile isPath
  match wishes (args.length + 1) (args.drop paths.length) with
  | .error e => .error e
  | .ok ws =>
    let paths := if paths.isEmpty then [Path.dot] else paths
    let x := paths.foldl (fun (x : List (Nat × Listed) × State) p =>
      match x.2.resolveLink p with
      | .ok r => (x.1 ++ tree x.2 100 0 p r.place r.entry, x.2)
      | .error e => (x.1, complainFound p e x.2)) ([], s.withStatus 0)
    .ok (ws, x.1.filter fun y => ws.all (Wish.holds s y.1 y.2), x.2)
where
  complainFound (p : Text) (e : Files.SystemError) (s : State) : State :=
    fail 1 (inQuotes p ++ ": ".toList ++ cause e) s

end Exemplar.Shell.Program
