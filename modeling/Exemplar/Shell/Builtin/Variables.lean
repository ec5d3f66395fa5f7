import Exemplar.Shell.Builtin.Options
import Exemplar.Shell.Expansion

/-!
# Commands for variables

Commands that show and change variables, arguments, aliases and settings.
-/
namespace Exemplar.Shell.Builtin
open Text

/-- Carry out a command with its options; unknown options are refused. -/
def withOptions (known : String) (args : List Text) (s : State) (f : Given → State → State) :
    State :=
  match optionsOf known args with
  | .ok g => f g s
  | .error e => s.refuse e.message

/-- A text in quotes, so that it can be read again. -/
def singleQuoted (t : Text) : Text := go (t.length + 1) t
where
  go : Nat → Text → Text
    | 0, _ => []
    | fuel + 1, t =>
      let plain := '\'' :: t.takeWhile (· != '\'') ++ ['\'']
      let rest := t.dropWhile (· != '\'')
      let quotes := rest.takeWhile (· == '\'')
      let more := rest.drop quotes.length
      if quotes.isEmpty then plain
      else
        let shown := plain ++ '"' :: quotes ++ ['"']
        if more.isEmpty then shown else shown ++ go fuel more

/-- Variables by name, each as a command would set it. -/
def listing (front : String) (isShown : Variable → Bool) (s : State) : Text :=
  let found := (s.bindings.filter fun e => isShown e.2).mergeSort fun a b => !before b.1 a.1
  found.flatMap fun e =>
    front.toList ++ e.1 ++ (match e.2.value with
      | some v => '=' :: singleQuoted v
      | none => []) ++ ['\n']

/-- The name and the value of an argument such as `name=value`. -/
def definition (arg : Text) : Text × Option Text :=
  match breakOn ['='] arg with
  | some (name, value) => (name, some value)
  | none => (arg, none)

/-- Carry out an action for each argument as long as none is refused. -/
def forEach (args : List Text) (s : State) (f : Text → State → State) : State :=
  args.foldl (fun s a => if s.goesOn then f a s else s) s

/-- Give variables a mark, and a value where one is given. -/
def declare (name : String) (mark : Variable → Variable) (isShown : Variable → Bool)
    (args : List Text) (s : State) : State :=
  withOptions "p" args s fun g s =>
    if g.has 'p' || g.operands.isEmpty then (s.out (listing (name ++ " ") isShown s)).withStatus 0
    else forEach g.operands (s.withStatus 0) fun arg s =>
      let (name, value) := definition arg
      if !isName name then s.refuse (name ++ ": bad variable name".toList)
      else
        let s := match value with
          | some v => s.assign name v
          | none => s
        if s.goesOn then s.adjust name mark else s

def exportNames : List Text → State → State :=
  declare "export" (fun v => { v with exported := true }) Variable.exported

def readonlyNames : List Text → State → State :=
  declare "readonly" (fun v => { v with constant := true }) Variable.constant

/-- Keep what will be put back at the end of the function. -/
def keep (k : Kept) (s : State) : State :=
  match s.saved with
  | frame :: outer => { s with saved := (k :: frame) :: outer }
  | [] => s

/-- Make a variable local. -/
def makeLocal (name : Text) (value : Option Text) (exported : Bool) (s : State) : State :=
  let before := s.binding? name
  let s := keep (.variable name before) s
  let s := match value with
    | some v => s.assign name v
    | none => if before.isNone then s.bind name ⟨none, false, false⟩ else s
  if exported && s.goesOn then s.adjust name fun v => { v with exported := true } else s

def localNames (args : List Text) (s : State) : State :=
  if s.saved.isEmpty then s.abandon "not in a function"
  else forEach args (s.withStatus 0) fun arg s =>
    let (name, value) := definition arg
    if arg = ['-'] then keep (.settings s.settings) s
    else if !isName name then s.refuse (name ++ ": bad variable name".toList)
    else makeLocal name value false s

def unset (args : List Text) (s : State) : State :=
  withOptions "vf" args s fun g s =>
    if g.last? ['v', 'f'] = some 'f' then
      { s with functions := s.functions.filter fun f => !g.operands.contains f.1, status := 0 }
    else forEach g.operands (s.withStatus 0) State.unassign

def switch (x : Setting) (on : Bool) (s : State) : State :=
  { s with settings := Setting.switch x on s.settings }

/-- Switch the settings of letters; `o` takes a name from the arguments behind. -/
def switchLetters (on : Bool) : Text → List Text → State → List Text × State
  | [], args, s => (args, s)
  | c :: r, args, s =>
    if !s.goesOn then (args, s)
    else if c = 'o' then
      match args with
      | [] =>
        let shown := if on then Setting.listing s.settings else Setting.commands s.settings
        switchLetters on r [] (s.out shown.toList)
      | name :: args =>
        match Setting.ofName? (String.ofList name) with
        | some x => switchLetters on r args (switch x on s)
        | none => (args, s.refuse ("Illegal option -o ".toList ++ name))
    else match Setting.ofLetter? c with
      | some x => switchLetters on r args (switch x on s)
      | none => (args, s.refuse ("Illegal option -".toList ++ [c]))

def setArguments (args : List Text) (s : State) : State :=
  { s with arguments := args, optionPlace := ⟨1, none⟩, status := 0 }

/-- Settings first, then the new arguments, if there are some. -/
def setFrom : Nat → List Text → State → State
  | 0, _, s => s
  | fuel + 1, args, s =>
    if !s.goesOn then s
    else match args with
      | [] => s.withStatus 0
      | ['-', '-'] :: args => setArguments args s
      | ['-'] :: args =>
        let s := (switch .xtrace false (switch .verbose false s)).withStatus 0
        if args.isEmpty then s else setArguments args s
      | ('-' :: letters) :: args =>
        let (args, s) := switchLetters true letters args s
        setFrom fuel args s
      | ('+' :: letters) :: args =>
        let (args, s) := switchLetters false letters args s
        setFrom fuel args s
      | args => setArguments args s

def set (args : List Text) (s : State) : State :=
  if args.isEmpty then (s.out (listing "" (fun v => v.value.isSome) s)).withStatus 0
  else setFrom (args.length + 1) args s

/-- A number that consists of digits, as commands take it. -/
def digits? (t : Text) : Option Nat := if t.all Char.isDigit then Arithmetic.natOf? 10 t else none

def illegalNumber (t : Text) (s : State) : State := s.refuse ("Illegal number: ".toList ++ t)

def shift (args : List Text) (s : State) : State :=
  match args with
  | [] => move 1
  | t :: _ =>
    match Arithmetic.small? t with
    | some n => move n
    | none => illegalNumber t s
where
  move (n : Nat) : State :=
    if n ≤ s.arguments.length then
      setArguments (s.arguments.drop n) s
    else s.abandon "can't shift that many"

/-- What one step of `getopts` finds. -/
structure OptionStep where
  /-- What the name becomes. -/
  shown : Char
  argument : Option Text
  complaint : Option Text
  place : OptionPlace
  ended : Bool

/-- Take the next letter from arguments. -/
def nextOption (known : Text) (args : List Text) (at' : OptionPlace) : OptionStep :=
  let quiet := known.head? = some ':'
  let before := if at'.index ≤ 1 then none else args[at'.index - 2]?
  let rest : Text := match before, at'.letters with
    | some word, some n => word.drop n
    | _, _ => []
  let past := fun (index : Nat) => (⟨'?', none, none, ⟨index, none⟩, true⟩ : OptionStep)
  let take := fun (index : Nat) (word letters : Text) =>
    match letters with
    | [] => past index
    | c :: r =>
      let go := fun (index : Nat) (left : Bool) (shown : Char) (argument complaint : Option Text) =>
        let place : OptionPlace :=
          ⟨index, if left then some (word.length - r.length) else none⟩
        (⟨shown, argument, complaint, place, false⟩ : OptionStep)
      match takesValue? known c with
      | none =>
        if quiet then go index true '?' (some [c]) none
        else go index true '?' none (some ("Illegal option -".toList ++ [c]))
      | some false => go index true c (some []) none
      | some true =>
        if !r.isEmpty then go index false c (some r) none
        else match args[index - 1]? with
          | some v => go (index + 1) false c (some v) none
          | none =>
            if quiet then go index false ':' (some [c]) none
            else go index false '?' none (some ("No arg for -".toList ++ c :: " option".toList))
  if rest.isEmpty then
    match args[at'.index - 1]? with
    | some ('-' :: c :: r) =>
      if c = '-' && r.isEmpty then past (at'.index + 1)
      else take (at'.index + 1) ('-' :: c :: r) (c :: r)
    | _ => past at'.index
  else take at'.index (before.getD []) rest

def getopts (args : List Text) (s : State) : State :=
  match args with
  | known :: name :: more =>
    let words := if more.isEmpty then s.arguments else more
    let at' := if s.optionPlace.index > words.length + 1 then ⟨1, none⟩ else s.optionPlace
    let step := nextOption known words at'
    let s := match step.complaint with
      | some t => s.err (t ++ ['\n'])
      | none => s
    let s := match step.argument, step.complaint with
      | some v, _ => s.assign "OPTARG".toList v
      | none, some _ => s.unassign "OPTARG".toList
      | none, none => s
    let s := s.assign "OPTIND".toList (ofNat step.place.index)
    let s := if s.goesOn then s.assign name [step.shown] else s
    if s.goesOn then
      { s with optionPlace := step.place, status := if step.ended then 1 else 0 }
    else s
  | _ => s.abandon "Usage: getopts optstring var [arg...]"

/-- Characters of a line while it is read. -/
structure Reading where
  /-- Atoms of the line, latest first. -/
  atoms : List Atom
  /-- The last character was a backslash. -/
  escaped : Bool
  complete : Bool

/-- Take characters up to the end of the line; what is left of them. -/
def readChars (raw : Bool) : Text → Reading → Reading × Text
  | [], r => (r, [])
  | c :: t, r =>
    if c = '\x00' then readChars raw t r
    else if r.escaped then
      if c = '\n' then readChars raw t { r with escaped := false }
      else readChars raw t
        { r with atoms := .region false :: .fixed true c :: r.atoms, escaped := false }
    else if c = '\\' && !raw then readChars raw t { r with escaped := true }
    else if c = '\n' then ({ r with complete := true }, t)
    else readChars raw t { r with atoms := .loose false c :: r.atoms }

/-- Read pieces of the input until a line is complete. -/
def readLine (raw : Bool) : Nat → Reading → State → Reading × State
  | 0, r, s => (r, s)
  | fuel + 1, r, s =>
    match s.readPiece 0 with
    | (none, s) => (r, s)
    | (some piece, s) =>
      let (r, rest) := readChars raw piece r
      if r.complete then (r, s.unread 0 rest)
      else if s.goesOn then readLine raw fuel r s
      else (r, s)

def giveFields : List Text → List Text → State → State
  | [], _, s => s
  | name :: names, fields, s =>
    if s.goesOn then giveFields names fields.tail (s.assign name (fields.head?.getD [])) else s

def read (args : List Text) (s : State) : State :=
  withOptions "p:r" args s fun g s =>
    if g.operands.isEmpty then s.abandon "arg count"
    else
      let (r, s) := readLine (g.has 'r') 1000000 ⟨[.region false], false, false⟩ s
      if s.flow == .stop then s
      else
        let found := Field.split (Expansion.separators s) (some g.operands.length) r.atoms.reverse
        let s := giveFields g.operands (found.map fun f => f.map Prod.fst) s
        if s.goesOn then s.withStatus (if r.complete then 0 else 1) else s

def aliasText (e : Text × Text) : Text := e.1 ++ '=' :: singleQuoted e.2 ++ ['\n']

/-- Aliases are listed by a key that is computed from their names. -/
def aliasKey (name : Text) : Nat :=
  match name with
  | [] => 0
  | c :: _ => (name.foldl (fun n c => n + c.toNat) (c.toNat * 16)) % 39

/-- All aliases in the order in which they are listed. -/
def aliasOrder (aliases : List (Text × Text)) : List (Text × Text) :=
  (List.range 39).flatMap fun k => aliases.filter fun e => aliasKey e.1 == k

def aliasNames (args : List Text) (s : State) : State :=
  if args.isEmpty then (s.out ((aliasOrder s.aliases).flatMap aliasText)).withStatus 0
  else args.foldl (fun s arg =>
    match arg with
    | [] => s
    | c :: r =>
      match breakOn ['='] r with
      | some (name, value) =>
        { s with aliases := State.replace (c :: name) value s.aliases }
      | none =>
        match s.aliases.lookup arg with
        | some value => s.out (aliasText (arg, value))
        | none => (s.err ("alias: ".toList ++ arg ++ " not found\n".toList)).withStatus 1)
    (s.withStatus 0)

def unalias (args : List Text) (s : State) : State :=
  withOptions "a" args s fun g s =>
    if g.has 'a' then { s with aliases := [], status := 0 }
    else g.operands.foldl (fun s name =>
      match s.aliases.lookup name with
      | some _ => { s with aliases := s.aliases.filter fun e => e.1 ≠ name }
      | none => (s.err ("unalias: ".toList ++ name ++ " not found\n".toList)).withStatus 1)
      (s.withStatus 0)

end Exemplar.Shell.Builtin
