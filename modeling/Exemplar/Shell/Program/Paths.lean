import Exemplar.Shell.Builtin.Directory
import Exemplar.Shell.Program.Basic

/-!
# Programs for paths

The parts of paths, where links lead, and which files a directory holds.
-/
namespace Exemplar.Shell.Program
open Text
open Builtin (Given pathOf)

def trimSlashes (p : Text) : Text :=
  let r := (p.reverse.dropWhile (· == '/')).reverse
  if r.isEmpty && !p.isEmpty then ['/'] else r

/-- The last name of a path, without an ending. -/
def baseOf (ending p : Text) : Text :=
  let p := trimSlashes p
  let base := if p = ['/'] then p else (splitBy (· == '/') p).getLast?.getD []
  if !ending.isEmpty && ending.length < base.length && ending.isSuffixOf base then
    base.take (base.length - ending.length)
  else base

def basename : Action := fun args s =>
  withOptions 1 ⟨"as:z", [("multiple", 'a'), ("suffix", 's'), ("zero", 'z')],
    true⟩ args s fun g s =>
    let several := g.has 'a' || g.has 's'
    match g.operands with
    | [] => misused 1 "missing operand".toList s
    | paths =>
      if several then
        let ending := (g.value? 's').getD []
        print (withEnds g (unlines (paths.map (baseOf ending)))) (s.withStatus 0)
      else match paths with
        | _ :: _ :: extra :: _ => misused 1 ("extra operand ".toList ++ inQuotes extra) s
        | p :: ending =>
          print (withEnds g (baseOf (ending.head?.getD []) p ++ ['\n'])) (s.withStatus 0)
        | [] => s

def directoryOf (p : Text) : Text :=
  let p := trimSlashes p
  if p.any (· == '/') then trimSlashes ((p.reverse.dropWhile (· != '/')).reverse) else ['.']

def dirname : Action := fun args s =>
  withOptions 1 ⟨"z", [("zero", 'z')], false⟩ args s fun g s =>
    if g.operands.isEmpty then misused 1 "missing operand".toList s
    else print (withEnds g (unlines (g.operands.map directoryOf))) (s.withStatus 0)

/-- The path of what a path leads to; the last name need not be there. -/
def canonical? (s : State) (path : Text) : Except Files.SystemError Text :=
  match s.resolve path, s.placeFor? path with
  | .ok r, _ => .ok (pathOf r.place)
  | .error .notFound, some place => .ok (pathOf place)
  | .error e, _ => .error e

def readlink : Action := fun args s =>
  withOptions 1 ⟨"fenmqsvz", [("canonicalize", 'f'), ("no-newline", 'n'), ("verbose", 'v')], false⟩
    args s fun g s =>
    if g.operands.isEmpty then misused 1 "missing operand".toList s
    else
      let ended := fun (t : Text) => if g.has 'n' then t else t ++ ['\n']
      g.operands.foldl (fun s path =>
        if g.has 'f' || g.has 'e' || g.has 'm' then
          match canonical? s path with
          | .ok t => print (ended t) s
          | .error _ => s.withStatus 1
        else match s.resolveLink path with
          | .ok ⟨_, .link target⟩ => print (ended (target)) s
          | .ok _ =>
            if g.has 'v' then fail 1 (path ++ ": Invalid argument".toList) s else s.withStatus 1
          | .error e => if g.has 'v' then fail 1 (plainTrouble path (cause e)) s else s.withStatus 1)
        (s.withStatus 0)

def realpath : Action := fun args s =>
  withOptions 1 ⟨"emsLPqz", [("canonicalize-existing", 'e'), ("no-symlinks", 's')], false⟩ args s
    fun g s =>
    if g.operands.isEmpty then misused 1 "missing operand".toList s
    else g.operands.foldl (fun s path =>
      let found := if g.has 'e' then (s.resolve path).map fun r => pathOf r.place
        else canonical? s path
      match found with
      | .ok t => print (t ++ ['\n']) s
      | .error e => if g.has 'q' then s.withStatus 1 else fail 1 (plainTrouble path (cause e)) s)
      (s.withStatus 0)

/-- A file in a listing. -/
structure Listed where
  name : Text
  place : Files.Place
  entry : Files.Entry

def Listed.size (l : Listed) : Nat :=
  match l.entry with
  | .file bytes => bytes.length
  | .link target => target.length
  | .directory => 4096
  | .device => 0

/-- Permissions in letters, with the kind of the file in front. -/
def modeText (s : State) (l : Listed) : Text :=
  let p := if l.place = Files.Layout.names "tmp" then 0o1777 else (s.attributeAt l.place).permissions
  let kind := match l.entry with
    | .directory => 'd'
    | .link _ => 'l'
    | .device => 'c'
    | .file _ => '-'
  let bit := fun (b : Nat) (c : Char) => if p &&& b ≠ 0 then c else '-'
  let last := if p &&& 0o1000 ≠ 0 then (if p &&& 1 ≠ 0 then 't' else 'T') else bit 1 'x'
  [kind, bit 0o400 'r', bit 0o200 'w', bit 0o100 'x', bit 0o40 'r', bit 0o20 'w', bit 0o10 'x',
    bit 4 'r', bit 2 'w', last]

/-- The sign behind a name that tells what it is. -/
def signOf (g : Given) (s : State) (l : Listed) : Text :=
  match l.entry with
  | .directory => if g.has 'F' || g.has 'p' then ['/'] else []
  | .link _ => if g.has 'F' then ['@'] else []
  | .file _ =>
    if g.has 'F' && (s.attributeAt l.place).permissions &&& 0o111 ≠ 0 then ['*'] else []
  | .device => []

/-- Files in the order that options ask for. -/
def ordered (g : Given) (s : State) (ls : List Listed) : List Listed :=
  let byName := if g.has 'U' || g.has 'f' then ls
    else ls.mergeSort fun a b => !before b.name a.name
  let changed := fun (l : Listed) => (s.attributeAt l.place).changed
  let sorted :=
    if g.has 't' then byName.mergeSort fun a b => changed b ≤ changed a
    else if g.has 'S' then byName.mergeSort fun a b => b.size ≤ a.size
    else byName
  if g.has 'r' then sorted.reverse else sorted

/-- The lines of a listing. -/
def listingOf (g : Given) (s : State) (withTotal : Bool) (ls : List Listed) : Text :=
  if !g.has 'l' && !g.has 'n' then
    let names := ls.map fun l => l.name ++ signOf g s l
    if g.has 'm' then
      (names.intersperse ", ".toList).flatten ++ (if names.isEmpty then [] else ['\n'])
    else unlines names
  else
    let width := ls.foldl (fun n l => max n (ofNat (l.size)).length) 0
    let blocks := ls.foldl (fun n l => n + match l.entry with
      | .directory => 4
      | .file bytes => (bytes.length + 4095) / 4096 * 4
      | _ => 0) 0
    let lines := ls.map fun l =>
      let count := match l.entry with
        | .directory => '2'
        | _ => '1'
      let target := match l.entry with
        | .link t => " -> ".toList ++ t
        | _ => signOf g s l
      modeText s l ++ ' ' :: count :: " root root ".toList ++ column width (l.size) ++
        " Jan  1 00:00 ".toList ++ l.name ++ target
    (if withTotal then ("total ".toList ++ ofNat blocks ++ ['\n']) else []) ++ unlines lines

/-- What a directory holds. -/
def held (g : Given) (s : State) (place : Files.Place) : List Listed :=
  let names := (Expansion.namesIn s place).filter fun n =>
    g.has 'a' || g.has 'A' || g.has 'f' || n.head? != some '.'
  let own := names.filterMap fun n => (s.world.tree.entryAt? (place ++ [n])).map fun e =>
    (⟨n, place ++ [n], e⟩ : Listed)
  let dots : List Listed := if g.has 'a' || g.has 'f' then
      [⟨Path.dot, place, .directory⟩, ⟨Path.dotDot, place.dropLast, .directory⟩]
    else []
  ordered g s (dots ++ own)

/-- The listing of a directory, and of those below it if that is asked for. -/
def directoryListing (g : Given) (s : State) : Nat → Bool → Text → Files.Place → List Text
  | 0, _, _, _ => []
  | fuel + 1, titled, path, place =>
    let ls := held g s place
    let title := if titled then path ++ ":\n".toList else []
    let own := title ++ listingOf g s true ls
    let below := if g.has 'R' then
        ls.filter fun l => (match l.entry with
          | .directory => true
          | _ => false) && l.name ≠ Path.dot && l.name ≠ Path.dotDot
      else []
    own :: below.flatMap fun l =>
      let front := if path.getLast? = some '/' then path else path ++ ['/']
      directoryListing g s fuel titled (front ++ l.name) l.place

def ls : Action := fun args s =>
  withOptions 2 ⟨"aAlRdF1rtSphicnmUfgoGT:w:I:", [("all", 'a'), ("almost-all", 'A'),
    ("recursive", 'R'), ("directory", 'd'), ("classify", 'F'), ("reverse", 'r'), ("color", 'G')],
    false⟩ args s fun g s =>
    let paths := if g.operands.isEmpty then [Path.dot] else g.operands
    let follows := fun (path : Text) => !(g.has 'l' || g.has 'd' || g.has 'F') ||
      path.getLast? = some '/'
    let x := paths.foldl (fun (x : List Listed × List Listed × State) path =>
      let (files, directories, s) := x
      match if follows path then s.resolve path else s.resolveLink path with
      | .ok r =>
        let l : Listed := ⟨path, r.place, r.entry⟩
        match r.entry with
        | .directory => if g.has 'd' then (l :: files, directories, s) else (files, l :: directories, s)
        | _ => (l :: files, directories, s)
      | .error e =>
        match e, s.resolveLink path with
        | .notFound, .ok r => (⟨path, r.place, r.entry⟩ :: files, directories, s)
        | e, _ => (files, directories, fail 2 ("cannot access ".toList ++ inQuotes path ++
            ": ".toList ++ cause e) s)) ([], [], s.withStatus 0)
    let (files, directories, s) := x
    let files := ordered g s files
    let titled := paths.length > 1 || g.has 'R'
    let parts := (ordered g s directories).flatMap fun l =>
      directoryListing g s 100 titled l.name l.place
    let parts := if files.isEmpty then parts else listingOf g s false files :: parts
    print (parts.intersperse ['\n']).flatten s

end Exemplar.Shell.Program
