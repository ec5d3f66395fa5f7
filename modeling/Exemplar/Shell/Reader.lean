import Exemplar.Shell.Syntax

/-!
# Reading a script

A reader holds what is left of a script and the texts of aliases that are read in place
of their names. A backslash in front of a line break joins lines. A script that is still
being written may stop in the middle of a command.
-/
namespace Exemplar.Shell

/-- Why a script cannot be read on. -/
inductive Stop
  /-- More input is needed. -/
  | unfinished
  | wrong (line : Nat) (message : String)
  deriving DecidableEq, Repr

/-- The text of an alias that is being read. -/
structure Segment where
  name : Text
  rest : Text
  endsBlank : Bool

/-- A word that ends a document, with the number of the document. -/
structure Awaited where
  number : Nat
  delimiter : Text
  quoted : Bool
  /-- Tabs in front of its lines are dropped. -/
  indented : Bool

/-- What of a redirection stands in front of its word. -/
inductive Arrow
  | file (mode : Mode)
  | copy
  | document (indented : Bool)
  deriving DecidableEq, Repr

inductive Token
  | ended
  | newline
  | semicolon
  | background
  | both
  | either
  | bar
  | opening
  | closing
  | endOfArm
  | redirection (stream : Nat) (arrow : Arrow)
  | word (w : Word)
  | keyword (name : String)

namespace Token

/-- How messages call a token. -/
def shown : Token → String
  | ended => "end of file"
  | newline => "newline"
  | semicolon => "\";\""
  | background => "\"&\""
  | both => "\"&&\""
  | either => "\"||\""
  | bar => "\"|\""
  | opening => "\"(\""
  | closing => "\")\""
  | endOfArm => "\";;\""
  | redirection _ _ => "redirection"
  | word _ => "word"
  | keyword name => "\"" ++ name ++ "\""

def keywords : List String :=
  ["!", "case", "do", "done", "elif", "else", "esac", "fi", "for", "if", "in", "then", "until",
    "while", "\x7b", "\x7d"]

/-- Tokens that may follow a list of commands. -/
def endsList : Token → Bool
  | ended => true
  | closing => true
  | endOfArm => true
  | keyword name =>
    ["do", "done", "elif", "else", "esac", "fi", "then", "\x7d"].contains name
  | _ => false

end Token

structure Reader where
  /-- Texts of aliases, innermost first. -/
  segments : List Segment
  rest : Text
  line : Nat
  /-- No more input will come. -/
  closed : Bool
  aliases : List (Text × Text)
  /-- A token that was read already. -/
  pushed : Option Token
  /-- The text of an alias that ends with a blank is over. -/
  afterBlank : Bool
  /-- Documents that begin after the line. -/
  awaited : List Awaited
  /-- Documents seen so far. -/
  documents : Nat
  /-- The line that ends the document around what is read, and whether tabs in front of it
  are dropped. -/
  ending : Option (Text × Bool)
  found : List (Nat × Word)
  /-- Documents found when the same script was read before. -/
  known : List (Nat × Word)

/-- The text without the characters that no script has. -/
def scriptText (t : Text) : Text := t.filter (· != '\x00')

namespace Reader

def ofText (t : Text) (line : Nat) (closed : Bool) : Reader :=
  ⟨[], scriptText t, line, closed, [], none, false, [], 0, none, [], []⟩

/-- More of the script. -/
def append (r : Reader) (t : Text) : Reader := { r with rest := r.rest ++ scriptText t }

end Reader

abbrev Parse := StateT Reader (Except Stop)

namespace Parse

/-- Leave texts of aliases that are over. -/
def leaveOver : List Segment → Bool × List Segment
  | [] => (false, [])
  | s :: more =>
    if s.rest.isEmpty then
      let x := leaveOver more
      (s.endsBlank || x.1, x.2)
    else (false, s :: more)

/-- The next character; nothing at the end of the script. -/
def peekRaw : Parse (Option Char) := fun r =>
  match (leaveOver r.segments).2 with
  | s :: _ => .ok (s.rest.head?, r)
  | [] =>
    match r.rest with
    | c :: _ => .ok (some c, r)
    | [] => if r.closed then .ok (none, r) else .error .unfinished

/-- Take the next character. Lines are counted. -/
def takeRaw : Parse (Option Char) := fun r =>
  let (blank, segments) := leaveOver r.segments
  let r := { r with segments, afterBlank := r.afterBlank || blank }
  let counted := fun (c : Char) (r : Reader) =>
    if c = '\n' then { r with line := r.line + 1 } else r
  match segments with
  | s :: more =>
    match s.rest with
    | c :: rest => .ok (some c, counted c { r with segments := { s with rest } :: more })
    | [] => .ok (none, r)
  | [] =>
    match r.rest with
    | c :: rest => .ok (some c, counted c { r with rest })
    | [] => if r.closed then .ok (none, r) else .error .unfinished

/-- Joined lines in front of a text: how many, and what follows them. -/
def joins : Text → Nat × Text
  | '\\' :: '\n' :: t => let x := joins t; (x.1 + 1, x.2)
  | t => (0, t)

/-- Join lines. -/
def join : Parse Unit := fun r =>
  match (leaveOver r.segments).2 with
  | s :: more =>
    let (n, rest) := joins s.rest
    if n = 0 then .ok ((), r)
    else .ok ((), { r with segments := { s with rest } :: more, line := r.line + n })
  | [] =>
    let (n, rest) := joins r.rest
    let r' := if n = 0 then r else { r with rest, line := r.line + n }
    if r'.rest = ['\\'] && !r'.closed then .error .unfinished else .ok ((), r')

def peek : Parse (Option Char) := do
  join
  peekRaw

def take : Parse (Option Char) := do
  join
  takeRaw

/-- Take the next character if it is the given one. -/
def accept (c : Char) : Parse Bool := do
  if (← peek) = some c then
    let _ ← takeRaw
    return true
  else return false

def line : Parse Nat := do return (← get).line

/-- Refuse the script. -/
def refuse {α : Type} (message : String) : Parse α := do
  throw (.wrong (← line) ("Syntax error: " ++ message))

/-- Refuse a token, telling what should stand in its place. -/
def unexpected {α : Type} (t : Token) (wanted : Option Token) : Parse α :=
  match wanted with
  | some w => refuse (t.shown ++ " unexpected (expecting " ++ w.shown ++ ")")
  | none => refuse (t.shown ++ " unexpected")

def push (t : Token) : Parse Unit := modify fun r => { r with pushed := some t }

/-- Characters as long as they satisfy a condition; lines may be joined inside. -/
def takeWhile (p : Char → Bool) : Nat → Parse Text
  | 0 => return []
  | fuel + 1 => do
    match ← peek with
    | some c =>
      if p c then
        let _ ← takeRaw
        return c :: (← takeWhile p fuel)
      else return []
    | none => return []

/-- All characters up to a line break. -/
def skipLine : Nat → Parse Unit
  | 0 => return
  | fuel + 1 => do
    match ← peekRaw with
    | none => return
    | some '\n' => return
    | some _ =>
      let _ ← takeRaw
      skipLine fuel

/-- How many characters may be read in a row. -/
def most : Nat := 10000000

/-- An alias that is not being read already. -/
def alias? (name : Text) : Parse (Option Text) := do
  let r ← get
  if r.segments.any fun s => s.name == name then return none else return r.aliases.lookup name

/-- Read the text of an alias in place of its name. -/
def insert (name value : Text) : Parse Unit :=
  modify fun r =>
    let endsBlank := value.getLast? = some ' ' || value.getLast? = some '\t'
    { r with segments := ⟨name, value, endsBlank⟩ :: r.segments }

end Parse

end Exemplar.Shell
