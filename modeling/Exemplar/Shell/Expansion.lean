import Exemplar.Shell.Arithmetic
import Exemplar.Shell.Field
import Exemplar.Shell.Machine

/-!
# Expansion of words

A word becomes a row of atoms, the atoms are split into fields, and a field that is a
pattern becomes the names of the files it accepts. How a command inside of a word is
carried out is a parameter.
-/
namespace Exemplar.Shell
open Text

namespace Expansion

/-- How a command is carried out for its output. -/
abbrev Runner := State → Command → Text × State

/-- What a word is expanded for. -/
inductive Purpose
  /-- To become fields. -/
  | fields
  | text
  | pattern
  deriving DecidableEq, Repr

def separators (s : State) : Text := (s.value? "IFS".toList).getD Field.defaultSeparators

/-- What stands between arguments that are joined. -/
def joint (s : State) : Text :=
  match s.value? "IFS".toList with
  | some t => t.head?.toList
  | none => [' ']

/-- All arguments in one text. -/
def everyArgument (s : State) (purpose : Purpose) (quoted : Bool) (name : Char) : Text :=
  let between :=
    if purpose ≠ .fields then joint s
    else if quoted then if name = '@' then [Atom.gap] else joint s
    else if (s.value? "IFS".toList).isSome then [Atom.gap] else [' ']
  (s.arguments.intersperse between).flatten

/-- The value of a parameter that is set. -/
def parameter? (s : State) (purpose : Purpose) (quoted : Bool) (name : Text) : Option Text :=
  match name with
  | ['?'] => some (ofNat s.status)
  | ['#'] => some (ofNat s.arguments.length)
  | ['$'] => some (ofNat s.number)
  | ['!'] => s.lastJob.map ofNat
  | ['-'] => some (Setting.letters s.settings)
  | ['@'] => some (everyArgument s purpose quoted '@')
  | ['*'] => some (everyArgument s purpose quoted '*')
  | name =>
    if name.all Char.isDigit then
      match (Arithmetic.natOf? 10 name).getD 0 with
      | 0 => some s.name
      | n + 1 => s.arguments[n]?
    else
      s.value? name

/-- The atoms of the value of a parameter. -/
def atoms (s : State) (quoted : Bool) (name value : Text) : List Atom :=
  if quoted then
    let chars := value.map fun c => Atom.loose (c != Atom.gap) c
    if name = ['@'] && !s.arguments.isEmpty then .region true :: chars
    else value.map (Atom.fixed true)
  else Atom.ofValue false value

/-- Evaluate an expression whose parameters have been expanded. -/
def arithmetic (s : State) (expression : Text) : Text × State :=
  match Arithmetic.evaluate s.value expression with
  | .ok (n, assigned) =>
    (Arithmetic.ofInt n, assigned.reverse.foldl (fun s e => s.assign e.1 e.2) s)
  | .error e => ([], s.refuse (e.message expression))

/-- Output of a command without the line breaks at its end. -/
def withoutLastBreaks (t : Text) : Text := (t.reverse.dropWhile (· == '\n')).reverse

/-- The home of a user. -/
def homeOf? (s : State) (user : Text) : Option Text :=
  if user.isEmpty then s.value? "HOME".toList
  else
    let users := (splitBy (· == '\n') (s.fileAt (Files.Layout.names "etc/passwd"))).map
      (splitBy (· == ':'))
    match users.find? fun u => u.head? == some user with
    | some u => u[5]?
    | none => none

/-- A text with a tilde at its beginning replaced by a home. In the value of an assignment
the name of the user may also end at a colon. -/
def tildeText (s : State) (inValue isLast : Bool) (t : Text) : Word :=
  match t with
  | '~' :: r =>
    let ends := fun (c : Char) => c == '/' || (inValue && c == ':')
    let user := r.takeWhile fun c => !ends c
    let rest := r.dropWhile fun c => !ends c
    if rest.isEmpty && !isLast then [.literal false t]
    else match homeOf? s user with
      | some home => [.literal true home, .literal false rest]
      | none => [.literal false t]
  | t => [.literal false t]

/-- The word with a tilde at its beginning replaced. -/
def tilde (s : State) : Word → Word
  | .literal false t :: w => tildeText s false w.isEmpty t ++ w
  | w => w

/-- Parts of a text with the colons in front of them. -/
def colonParts : Text → List Text
  | [] => [[]]
  | c :: t =>
    match colonParts t with
    | p :: ps => if c = ':' then [] :: (c :: p) :: ps else (c :: p) :: ps
    | [] => [[c]]

/-- A value of an assignment, in which a tilde may also follow a colon. -/
def tildeValue (s : State) (w : Word) : Word := go true w
where
  go : Bool → Word → Word
    | _, [] => []
    | isFirst, .literal false t :: w =>
      let parts := colonParts t
      let shown := (parts.zip (List.range parts.length)).map fun x =>
        let isLast := w.isEmpty || x.2 + 1 < parts.length
        match x.1 with
        | ':' :: p => .literal false [':'] :: tildeText s true isLast p
        | p => if isFirst then tildeText s true isLast p else [.literal false p]
      shown.flatten ++ go false w
    | _, p :: w => p :: go false w

/-- Expand the pieces of a word in order. -/
def each (expandOne : State → Piece → List Atom × State) (s : State) (w : Word) :
    List Atom × State :=
  let x := w.foldl (fun x p =>
    if x.2.goesOn then
      let y := expandOne x.2 p
      (y.1 :: x.1, y.2)
    else x) (([] : List (List Atom)), s)
  (x.1.reverse.flatten, x.2)

/-- Refuse a parameter that is not set. -/
def refuseUnset (s : State) (name message : Text) : List Atom × State :=
  ([], s.refuse (name ++ ": ".toList ++ message))

/-- A piece of a word. In the operand of another expansion, literal text can be split. -/
def piece (run : Runner) : Nat → Purpose → Bool → State → Piece → List Atom × State
  | 0, _, _, s, _ => ([], s.withFlow .stop)
  | _ + 1, _, inOperand, s, .literal quoted t =>
    if inOperand && !quoted then (Atom.ofValue false t, s) else (t.map (Atom.fixed quoted), s)
  | _ + 1, _, _, s, .mark => ([.mark], s)
  | _ + 1, _, _, s, .command quoted body =>
    let x := run s body
    (Atom.ofValue quoted (withoutLastBreaks (x.1.filter (· != '\x00'))), x.2)
  | fuel + 1, _, _, s, .arithmetic quoted e =>
    let x := each (piece run fuel .text false) s e
    if !x.2.goesOn then ([], x.2)
    else
      let y := arithmetic x.2 (Atom.text x.1)
      (Atom.ofValue quoted y.1, y.2)
  | fuel + 1, purpose, _, s, .parameter quoted name use =>
    let value := parameter? s purpose quoted name
    let isFilled := match value with
      | some v => !v.isEmpty
      | none => false
    let present := fun (orEmpty : Bool) => if orEmpty then isFilled else value.isSome
    let here := fun (s : State) =>
      match parameter? s purpose quoted name with
      | some v => (atoms s quoted name v, s)
      | none =>
        if s.isOn .nounset then refuseUnset s name "parameter not set".toList else ([], s)
    let plain := fun (s : State) (w : Word) =>
      let x := each (piece run fuel .text false) s (tilde s w)
      (Atom.text x.1, x.2)
    match use with
    | .value => here s
    | .bad => ([], s.abandon "Bad substitution")
    | .length =>
      match value with
      | some v => (Atom.ofValue quoted (ofNat v.length), s)
      | none =>
        if s.isOn .nounset then refuseUnset s name "parameter not set".toList
        else (Atom.ofValue quoted ['0'], s)
    | .instead orEmpty w =>
      if present orEmpty then here s
      else each (piece run fuel purpose (!quoted)) s (tilde s w)
    | .alternative orEmpty w =>
      if present orEmpty then each (piece run fuel purpose (!quoted)) s (tilde s w) else ([], s)
    | .assign orEmpty w =>
      if present orEmpty then here s
      else
        let x := plain s w
        if !x.2.goesOn then ([], x.2)
        else
          let s' := x.2.assign name x.1
          if s'.goesOn then here s' else ([], s')
    | .require orEmpty w =>
      if present orEmpty then here s
      else
        let x := plain s w
        if !x.2.goesOn then ([], x.2)
        else if w.isEmpty then
          refuseUnset x.2 name
            (if orEmpty then "parameter not set or null" else "parameter not set").toList
        else refuseUnset x.2 name x.1
    | .without cut w =>
      match value with
      | none =>
        if s.isOn .nounset then refuseUnset s name "parameter not set".toList else ([], s)
      | some v =>
        let x := each (piece run fuel .pattern false) s (tilde s w)
        if !x.2.goesOn then ([], x.2)
        else
          let p := Glob.parse (Atom.marked x.1)
          let rest := if cut.back then Glob.dropBack cut.longest p v
            else Glob.dropFront cut.longest p v
          (atoms x.2 quoted name rest, x.2)

/-- How deep expansions may stand inside of each other. -/
def depth : Nat := 1000

def word (run : Runner) (purpose : Purpose) (s : State) (w : Word) : List Atom × State :=
  each (piece run depth purpose false) s w

/-- The text of a word that is not split. -/
def text (run : Runner) (s : State) (w : Word) : Text × State :=
  let x := word run .text s (tilde s w)
  (Atom.text x.1, x.2)

/-- The text of a document or of a prompt. -/
def document (run : Runner) (s : State) (w : Word) : Text × State :=
  let x := word run .text s w
  (Atom.text x.1, x.2)

/-- The value of an assignment. -/
def value (run : Runner) (s : State) (w : Word) : Text × State :=
  let x := word run .text s (tildeValue s w)
  (Atom.text x.1, x.2)

/-- Names in a directory. -/
def namesIn (s : State) (place : Files.Place) : List Text :=
  let found := s.world.tree.entries.filterMap fun e =>
    match List.isPrefixOf? place e.1 with
    | some (name :: _) => some name
    | _ => none
  found.eraseDups.mergeSort fun a b => !before b a

/-- Paths that a pattern accepts, one part after the other. -/
def paths (s : State) : List Range.Marked → Text → List Text
  | [], _ => []
  | part :: parts, front =>
    let p := Glob.parse part
    let found :=
      if Glob.isPattern p then
        match s.resolve (if front.isEmpty then Path.dot else front) with
        | .ok ⟨place, .directory⟩ =>
          let hidden := (part.map Prod.fst).head? = some '.'
          let dots := if hidden then [Path.dot, Path.dotDot] else []
          (dots ++ namesIn s place).filter fun n =>
            Glob.accepts p n && (hidden || n.head? != some '.')
        | _ => []
      else
        let plain := (Glob.resolved part).map Prod.fst
        if parts.isEmpty then
          match s.resolveLink (front ++ plain) with
          | .ok _ => [plain]
          | .error _ => []
        else [plain]
    found.flatMap fun n => if parts.isEmpty then [front ++ n] else paths s parts (front ++ n ++ ['/'])

/-- The parts of a pattern between separators. -/
def pathParts : Range.Marked → List Range.Marked
  | [] => [[]]
  | x :: r =>
    match pathParts r with
    | f :: fs => if x.1 = '/' then [] :: f :: fs else (x :: f) :: fs
    | [] => [[x]]

/-- The names that a field stands for. -/
def names (s : State) (field : Range.Marked) : List Text :=
  let plain := field.map Prod.fst
  if s.isOn .noglob || !Glob.isPattern (Glob.parse field) then [plain]
  else
    match (paths s (pathParts field) []).mergeSort fun a b => !before b a with
    | [] => [plain]
    | found => found

/-- The fields of a word. -/
def fieldsOf (run : Runner) (s : State) (w : Word) : List Text × State :=
  let (as, s') := word run .fields s (tilde s w)
  if s'.goesOn then
    ((Field.split (separators s') none as).flatMap (names s'), s')
  else ([], s')

/-- The fields of words in a row. -/
def fields (run : Runner) (s : State) (ws : List Word) : List Text × State :=
  let x := ws.foldl (fun x w =>
    if x.2.goesOn then
      let (found, s') := fieldsOf run x.2 w
      (found :: x.1, s')
    else x) (([] : List (List Text)), s)
  (x.1.reverse.flatten, x.2)

/-- The pattern that a word forms. -/
def pattern (run : Runner) (s : State) (w : Word) : List Glob × State :=
  let x := word run .pattern s (tilde s w)
  (Glob.parse (Atom.marked x.1), x.2)

end Expansion

end Exemplar.Shell
