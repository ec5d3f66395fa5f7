import Exemplar.Shell.Builtin.Variables

/-!
# Commands for directories

The shell remembers the path by which it came to its directory. `..` goes back on that
path, unless the path is asked for as the system sees it.
-/
namespace Exemplar.Shell.Builtin
open Text

/-- The path of a place. -/
def pathOf (place : Files.Place) : Text :=
  if place.isEmpty then ['/'] else place.flatMap ('/' :: ·)

/-- The path that names lead to from a path: its root and its names. -/
def walk (root : Text) (names steps : List Text) : Text :=
  let names := steps.foldl (fun (names : List Text) step =>
    if step = Path.dotDot then names.dropLast
    else if step = Path.dot || step.isEmpty then names
    else names ++ [step]) names
  root ++ (names.intersperse ['/']).flatten

/-- Two separators in front of a path are kept, more are not. -/
def rootOf (path : Text) : Text :=
  match path with
  | '/' :: '/' :: '/' :: _ => ['/']
  | '/' :: '/' :: _ => ['/', '/']
  | _ => ['/']

def namesOf (path : Text) : List Text := (Path.parts path).filter fun c => !c.isEmpty

/-- The path from the present one along another one. -/
def logicalPath (s : State) (path : Text) : Text :=
  if path.head? = some '/' then walk (rootOf path) [] (namesOf path)
  else walk (rootOf s.path) (namesOf s.path) (namesOf path)

/-- Set a variable without looking at its marks. -/
def note (name value : Text) (s : State) : State :=
  s.adjust name fun v => { v with value := some value, exported := true }

/-- Go to a directory. -/
def enter? (physical : Bool) (path : Text) (s : State) : Option State :=
  let target := if physical then path else logicalPath s path
  match s.resolve target with
  | .ok ⟨place, .directory⟩ =>
    let target := if physical then pathOf place else target
    let before := s.path
    some (note "PWD".toList target
      (note "OLDPWD".toList before { s with directory := place, path := target, status := 0 }))
  | _ => none

def isDirectory (s : State) (path : Text) : Bool :=
  match s.resolve path with
  | .ok ⟨_, .directory⟩ => true
  | _ => false

/-- Whether a path is not looked for in other directories. -/
def isFixed (path : Text) : Bool :=
  match namesOf path with
  | first :: _ => path.head? = some '/' || first = Path.dot || first = Path.dotDot
  | [] => !path.isEmpty

/-- A path found in the directories that are searched; the mark tells that it is shown. -/
def searched? (s : State) (path : Text) : Option (Text × Bool) :=
  if isFixed path then none
  else
    let path := if path.isEmpty then Path.dot else path
    let places := splitBy (· == ':') (s.value "CDPATH".toList)
    places.findSome? fun d =>
      let candidate := if d.isEmpty then path else d ++ '/' :: path
      if isDirectory s candidate then some (candidate, !d.isEmpty) else none

def cd (args : List Text) (s : State) : State :=
  withOptions "LP" args s fun g s =>
    let physical := g.last? ['L', 'P'] = some 'P'
    let goesBack := g.operands.head? = some ['-']
    let path := match g.operands with
      | [] => s.value "HOME".toList
      | path :: _ => if goesBack then s.value "OLDPWD".toList else path
    let (target, shown) := (searched? s path).getD (path, false)
    let target := if target.isEmpty then Path.dot else target
    match enter? physical target s with
    | some s => if shown || goesBack then s.out (s.path ++ ['\n']) else s
    | none => s.refuse ("can't cd to ".toList ++ path)

def pwd (args : List Text) (s : State) : State :=
  withOptions "LP" args s fun g s =>
    let path := if g.last? ['L', 'P'] = some 'P' then pathOf s.directory else s.path
    (s.out (path ++ ['\n'])).withStatus 0

def octalDigits (least n : Nat) : Text :=
  let digits := Nat.toDigits 8 n
  List.replicate (least - digits.length) '0' ++ digits

/-- Permissions by letter. -/
def symbolic (permissions : Nat) : Text :=
  let one := fun (who : Char) (shift : Nat) =>
    let bits := permissions / shift % 8
    who :: '=' :: [('r', 4), ('w', 2), ('x', 1)].filterMap fun p =>
      if bits &&& p.2 ≠ 0 then some p.1 else none
  ([one 'u' 64, one 'g' 8, one 'o' 1].intersperse [',']).flatten

/-- Whom a letter stands for. -/
def positionsOf (c : Char) : Nat :=
  match c with
  | 'a' => 0o111
  | 'u' => 0o100
  | 'g' => 0o010
  | 'o' => 0o001
  | _ => 0

/-- What a letter permits, where `old` was permitted before. -/
def permissionOf (old : Nat) (c : Char) : Nat :=
  match c with
  | 'r' => 4
  | 'w' => 2
  | 'x' => 1
  | 'X' => if old &&& 0o111 ≠ 0 then 1 else 0
  | 'u' => old / 64 % 8
  | 'g' => old / 8 % 8
  | 'o' => old % 8
  | _ => 0

def isSign (c : Char) : Bool := c == '=' || c == '+' || c == '-'

/-- Permissions after the changes that a text lists. -/
def changed? (everyone old : Nat) : Nat → Nat → Text → Nat → Option Nat
  | 0, _, _, _ => none
  | fuel + 1, positions, t, now =>
    if t.isEmpty then some now
    else
      let who := t.takeWhile fun c => "augo".toList.contains c
      let positions := who.foldl (fun n c => n ||| positionsOf c) positions
      let positions := if positions = 0 then everyone else positions
      match t.drop who.length with
      | [] => none
      | sign :: r =>
        if !isSign sign then none
        else
          let letters := r.takeWhile fun c => "rwxugoXs".toList.contains c
          let bits := (letters.foldl (fun n c => n ||| permissionOf old c) 0) * positions
          let now := match sign with
            | '-' => now - (now &&& bits)
            | '+' => now ||| bits
            | _ => bits ||| (now - (now &&& (positions * 7)))
          match r.drop letters.length with
          | [] => some now
          | ',' :: r => changed? everyone old fuel 0 r now
          | c :: r => if isSign c then changed? everyone old fuel positions (c :: r) now else none

def umask (args : List Text) (s : State) : State :=
  withOptions "S" args s fun g s =>
    let permitted := 0o777 - (0o777 &&& s.mask)
    match g.operands with
    | [] =>
      let shown := if g.has 'S' then symbolic permitted else octalDigits 4 s.mask
      (s.out (shown ++ ['\n'])).withStatus 0
    | t :: _ =>
      if t.head?.any Char.isDigit then
        match Arithmetic.natOf? 8 t with
        | some n => { s with mask := n % 0o1000, status := 0 }
        | none => illegalNumber t s
      else match changed? 0o111 permitted (t.length + 1) 0 t permitted with
        | some n => { s with mask := 0o777 - (0o777 &&& n), status := 0 }
        | none => s.refuse ("Illegal mode: ".toList ++ t)

end Exemplar.Shell.Builtin
