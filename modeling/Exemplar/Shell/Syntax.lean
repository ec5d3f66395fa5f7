import Exemplar.Text.Utf8

/-!
# Words and commands of the shell

The shell works on bytes. Inside of it a byte is kept as the character of its number, so
texts serve as byte strings. A word is a row of pieces; commands inside of a word are
kept as commands.
-/
namespace Exemplar.Shell

/-- The bytes of a text, each as a character. -/
def inBytes (t : Text) : Text := (Text.toBytes t).map fun b => Char.ofNat b.toNat

def toBytes (t : Text) : List UInt8 := t.map fun c => UInt8.ofNat c.toNat

def ofBytes (bytes : List UInt8) : Text := bytes.map fun b => Char.ofNat b.toNat

/-- What is cut off the value of a parameter. -/
structure Cut where
  /-- At the end instead of the beginning. -/
  back : Bool
  longest : Bool
  deriving DecidableEq, Repr

inductive Mode
  | read
  | write
  /-- Written to even where files are protected. -/
  | force
  | append
  | both
  deriving DecidableEq, Repr

mutual

/-- A part of a word. Quoted parts are neither split nor taken as patterns. -/
inductive Piece
  | literal (quoted : Bool) (text : Text)
  /-- Quotes stand here, even if there is nothing in them. -/
  | mark
  | parameter (quoted : Bool) (name : Text) (use : Use)
  | command (quoted : Bool) (body : Command)
  | arithmetic (quoted : Bool) (expression : List Piece)

/-- What is made of a parameter. Where `orEmpty` is set, an empty value counts as none. -/
inductive Use
  | value
  | length
  | instead (orEmpty : Bool) (word : List Piece)
  | alternative (orEmpty : Bool) (word : List Piece)
  | assign (orEmpty : Bool) (word : List Piece)
  | require (orEmpty : Bool) (message : List Piece)
  | without (cut : Cut) (pattern : List Piece)
  /-- Refused once it is carried out. -/
  | bad

/-- What a stream of a command is tied to. -/
inductive Target
  | file (mode : Mode) (name : List Piece)
  | copy (stream : Nat)
  | close
  /-- The word gives a stream, or `-` to close. -/
  | copyOf (word : List Piece)
  | document (body : List Piece)

/-- Lines are those on which a command begins. -/
inductive Command
  | skip
  | simple (line : Nat) (assignments : List (Text × List Piece)) (words : List (List Piece))
    (redirections : List (Nat × Target))
  | redirected (line : Nat) (body : Command) (redirections : List (Nat × Target))
  | sequence (first second : Command)
  | both (first second : Command)
  | either (first second : Command)
  | negated (command : Command)
  | pipe (first second : Command)
  | background (line : Nat) (body : Command) (redirections : List (Nat × Target))
  | subshell (line : Nat) (body : Command) (redirections : List (Nat × Target))
  | conditional (test yes no : Command)
  /-- Repeated as long as the test gives `wanted`. -/
  | loop (wanted : Bool) (test body : Command)
  | each (line : Nat) (name : Text) (values : List (List Piece)) (body : Command)
  | choice (line : Nat) (subject : List Piece) (arms : List (List (List Piece) × Command))
  | define (line : Nat) (name : Text) (body : Command)

end

abbrev Word := List Piece

abbrev Redirection := Nat × Target

instance : Inhabited Command := ⟨.skip⟩

namespace Command

/-- Whether a command, as the last one of a process, may leave its place to another. -/
def leavesPlace : Command → Bool
  | .simple _ _ _ _ => true
  | .subshell _ _ _ => true
  | _ => false

end Command

def isNameStart (c : Char) : Bool := c.isAlpha || c == '_'

def isNameChar (c : Char) : Bool := c.isAlphanum || c == '_'

def isName : Text → Bool
  | [] => false
  | c :: t => isNameStart c && t.all isNameChar

/-- Names of a single character that are no variables. -/
def isSpecial (c : Char) : Bool := "@*#?-$!".toList.any (· == c)

namespace Word

/-- The text of a word without quotation and expansion. -/
def plain? : Word → Option Text
  | [] => some []
  | .literal false t :: w => (plain? w).map (t ++ ·)
  | _ :: _ => none

/-- The text of a word once its quotes are gone. Expansions stand as nothing. -/
def unquoted (w : Word) : Text :=
  w.flatMap fun p =>
    match p with
    | .literal _ t => t
    | _ => []

def isQuoted (w : Word) : Bool :=
  w.any fun p =>
    match p with
    | .literal q _ => q
    | .mark => true
    | _ => false

/-- The name and the value of a word such as `name=value`. -/
def assignment? : Word → Option (Text × Word)
  | .literal false t :: w =>
    let name := t.takeWhile isNameChar
    match t.dropWhile isNameChar with
    | '=' :: value =>
      if isName name then some (name, if value.isEmpty then w else .literal false value :: w)
      else none
    | _ => none
  | _ => none

end Word

end Exemplar.Shell
