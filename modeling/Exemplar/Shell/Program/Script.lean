import Exemplar.Shell.Format
import Exemplar.Shell.Program.Basic
import Exemplar.Shell.Regex

/-!
# Editing scripts

A script for the editing of lines is a list of commands with the lines that they are for.
Groups of commands are laid out flat, with jumps to their ends.
-/
namespace Exemplar.Shell.Program
open Text

inductive Address
  | line (n : Nat)
  | last
  /-- Lines that an expression accepts; without one the last expression is meant. -/
  | pattern (x : Option Regex) (ignoresCase byLines : Bool)
  /-- Every so many lines from the first one on. -/
  | step (first every : Nat)
  /-- So many lines behind the beginning of a range. -/
  | behind (n : Nat)
  /-- The next line with a number that is a multiple. -/
  | multiple (n : Nat)

structure Selector where
  first : Option Address
  last : Option Address
  negated : Bool

/-- A part of the text that is put in place of a match. -/
inductive Template
  | text (t : Text)
  | group (n : Nat)
  /-- Change the case of what follows: `U`, `L`, `u`, `l` or `E` to end it. -/
  | change (c : Char)

structure Substitution where
  expression : Option Regex
  template : List Template
  everywhere : Bool
  /-- The number of the first match that is replaced; zero if none is given. -/
  number : Nat
  prints : Bool
  ignoresCase : Bool
  byLines : Bool
  target : Option Text

inductive Edit
  /-- Go on behind the group unless the line is selected. -/
  | opening (behind : Nat)
  | closing
  | label (name : Text)
  | jump (name : Text)
  | jumpIf (name : Text)
  | jumpIfNot (name : Text)
  | append (t : Text)
  | insert (t : Text)
  | change (t : Text)
  | substitute (x : Substitution)
  | replace (source target : Text)
  | quit (prints : Bool) (status : Nat)
  | readFile (path : Text)
  | readLine (path : Text)
  | writeFile (path : Text)
  | writeLine (path : Text)
  /-- Show the space in rows of a width. -/
  | list (width : Option Nat)
  /-- A command of a single letter. -/
  | plain (letter : Char)

namespace Script

/-- Where a part of a script comes from. -/
inductive Source
  | argument (number : Nat)
  | file (name : Text)

structure Part where
  source : Source
  text : Text

/-- Tell of a fault by its place. -/
def Source.tell (s : Source) (char line : Nat) (message : String) : Text :=
  match s with
  | .argument n =>
    ("-e expression #" ++ toString n ++ ", char " ++ toString char ++ ": " ++ message).toList
  | .file name => "file ".toList ++ name ++ (" line " ++ toString line ++ ": " ++ message).toList

end Script

structure Command where
  selector : Selector
  edit : Edit
  source : Script.Source
  line : Nat

namespace Script

/-- What is wrong with a part of a script. -/
inductive Fault
  /-- The fault stands in front of what is left. -/
  | inFront (left : Nat) (message : String)
  | nowhere (message : String)

abbrev Reading := Except Fault

def fault {α : Type} (rest : Text) (message : String) : Reading α :=
  .error (.inFront rest.length message)

def named (before name after : String) : String := before ++ "`" ++ name ++ "'" ++ after

/-- What a text is used for. -/
inductive Use
  | expression
  | template
  | plain
  deriving DecidableEq

/-- The character that is written behind a backslash, and what follows. -/
def special? (t : Text) : Option (Char × Text) :=
  let number := fun (base most : Nat) (isDigit : Char → Bool) (r : Text) =>
    let digits := (r.take most).takeWhile isDigit
    (Arithmetic.natOf? base digits).map fun n => (Format.byte n, r.drop digits.length)
  match t with
  | 'a' :: r => some ('\x07', r)
  | 'f' :: r => some ('\x0c', r)
  | 'n' :: r => some ('\n', r)
  | 'r' :: r => some ('\x0d', r)
  | 't' :: r => some ('\t', r)
  | 'v' :: r => some ('\x0b', r)
  | 'd' :: r => number 10 3 Char.isDigit r
  | 'o' :: r => number 8 3 Format.isOctal r
  | 'x' :: r => number 16 2 Format.isHex r
  | 'c' :: '\\' :: '\\' :: r => some ('\x1c', r)
  | 'c' :: c :: r => some (Char.ofNat (c.toUpper.toNat ^^^ 64), r)
  | _ => none

/-- Carry out backslashes that stand for characters. -/
def unescape (use : Use) : Nat → Text → Text
  | 0, t => t
  | _ + 1, [] => []
  | fuel + 1, '\\' :: r =>
    match special? r with
    | some (c, r) =>
      if use = .template && (c = '&' || c = '\\') then '\\' :: c :: unescape use fuel r
      else c :: unescape use fuel r
    | none =>
      match r with
      | c :: r =>
        if use = .plain then c :: unescape use fuel r else '\\' :: c :: unescape use fuel r
      | [] => if use = .plain then [] else ['\\']
  | fuel + 1, c :: r => c :: unescape use fuel r

def characters (use : Use) (t : Text) : Text := unescape use (t.length + 1) t

/-- A bracket of an expression behind its first sign, up to its end, and what follows. -/
def bracket? (t : Text) : Option (Text × Text) :=
  match t with
  | '^' :: ']' :: r => (go (r.length + 1) r).map fun x => ('^' :: ']' :: x.1, x.2)
  | ']' :: r => (go (r.length + 1) r).map fun x => (']' :: x.1, x.2)
  | t => go (t.length + 1) t
where
  go : Nat → Text → Option (Text × Text)
    | 0, _ => none
    | _ + 1, [] => none
    | _ + 1, ']' :: r => some ([']'], r)
    | fuel + 1, '[' :: d :: r =>
      match if d = ':' || d = '.' || d = '=' then Text.breakOn [d, ']'] r else none with
      | some (inner, rest) =>
        (go fuel rest).map fun x => ('[' :: d :: inner ++ [d, ']'] ++ x.1, x.2)
      | none => (go fuel (d :: r)).map fun x => ('[' :: x.1, x.2)
    | fuel + 1, c :: r => if c = '\n' then none else (go fuel r).map fun x => (c :: x.1, x.2)

/-- Text up to a delimiter. A delimiter behind a backslash stands for itself, as it does in
brackets of an expression. -/
def delimited (d : Char) (isExpression : Bool) : Nat → Text → Except Text (Text × Text)
  | 0, t => .error t
  | _ + 1, [] => .error []
  | fuel + 1, c :: r =>
    let add := fun (shown rest : Text) =>
      (delimited d isExpression fuel rest).map fun x => (shown ++ x.1, x.2)
    if c = d then .ok ([], r)
    else if c = '\n' then .error (c :: r)
    else if c = '\\' then
      match r with
      | [] => .error []
      | e :: r =>
        if e = 'n' && isExpression then add ['\n'] r
        else if e = '\n' || (e = d && (isExpression || e ≠ '&')) then add [e] r
        else add ['\\', e] r
    else if c = '[' && isExpression then
      match bracket? r with
      | some (inner, rest) => add (c :: inner) rest
      | none => .error (r.dropWhile (· != '\n'))
    else add [c] r

def skipBlanks (t : Text) : Text := t.dropWhile fun c => c == ' ' || c == '\t'

def digitsOf (t : Text) : Nat × Text :=
  let digits := t.takeWhile Char.isDigit
  ((natOf? digits).getD 0, t.drop digits.length)

/-- An expression; an empty one stands for the last one. -/
def expression (extended flagged : Bool) (t rest : Text) : Reading (Option Regex) :=
  if t.isEmpty then
    if flagged then fault rest "cannot specify modifiers on empty regexp" else .ok none
  else match Regex.read ⟨extended, false⟩ (characters .expression t) with
    | .ok x => .ok (some x)
    | .error .colons => .error (.nowhere Regex.Flaw.colons.message)
    | .error e => fault rest e.message

/-- Flags of an address: whether it ignores case, and whether it goes by lines. -/
def addressFlags : Nat → Bool → Bool → Text → Bool × Bool × Text
  | 0, i, m, t => (i, m, t)
  | fuel + 1, i, m, t =>
    match skipBlanks t with
    | 'I' :: r => addressFlags fuel true m r
    | 'M' :: r => addressFlags fuel i true r
    | t => (i, m, t)

def patternAddress (extended : Bool) (d : Char) (t : Text) : Reading (Address × Text) :=
  match delimited d true (t.length + 1) t with
  | .error left => fault left "unterminated address regex"
  | .ok (body, rest) => do
    let (i, m, rest) := addressFlags (rest.length + 1) false false rest
    let x ← expression extended (i || m) body rest
    return (.pattern x i m, rest)

def address? (extended : Bool) (t : Text) : Reading (Option Address × Text) :=
  match t with
  | '$' :: r => .ok (some .last, r)
  | '/' :: r => do
    let (a, rest) ← patternAddress extended '/' r
    return (some a, rest)
  | ['\\'] => fault [] "unterminated address regex"
  | '\\' :: d :: r => do
    let (a, rest) ← patternAddress extended d r
    return (some a, rest)
  | '+' :: r => let (n, r) := digitsOf (skipBlanks r); .ok (some (.behind n), r)
  | '~' :: r => let (n, r) := digitsOf (skipBlanks r); .ok (some (.multiple n), r)
  | c :: _ =>
    if c.isDigit then
      let (n, r) := digitsOf t
      match skipBlanks r with
      | '~' :: r =>
        let (every, r) := digitsOf (skipBlanks r)
        .ok (some (if every = 0 then .line n else .step n every), r)
      | r => .ok (some (.line n), r)
    else .ok (none, t)
  | [] => .ok (none, [])

/-- The lines that a command is for. -/
def selector (extended : Bool) (t : Text) : Reading (Selector × Text) := do
  let (first, rest) ← address? extended t
  let (last, rest) ← match first, skipBlanks rest with
    | some (.behind _), _ => fault rest "invalid usage of +N or ~N as first address"
    | some (.multiple _), _ => fault rest "invalid usage of +N or ~N as first address"
    | some _, ',' :: r =>
      match ← address? extended (skipBlanks r) with
      | (none, rest) => fault (rest.drop 1) (named "unexpected " "," "")
      | (last, rest) => pure (last, skipBlanks rest)
    | _, rest => pure (none, rest)
  let begins := match last with
    | some (.pattern ..) => true
    | _ => false
  match first, rest with
  | some (.line 0), rest =>
    if !begins then fault (rest.drop 1) "invalid usage of line address 0"
    else negation ⟨first, last, false⟩ rest
  | _, rest => negation ⟨first, last, false⟩ rest
where
  negation (x : Selector) (t : Text) : Reading (Selector × Text) :=
    match t with
    | '!' :: r =>
      match skipBlanks r with
      | '!' :: r => fault r (named "multiple " "!" "s")
      | r => .ok ({ x with negated := true }, r)
    | t => .ok (x, t)

/-- The parts of a template. -/
def template : Nat → Text → List Template
  | 0, _ => []
  | _ + 1, [] => []
  | fuel + 1, '\\' :: c :: r =>
    if c.isDigit then .group (c.toNat - '0'.toNat) :: template fuel r
    else if "ULulE".toList.any (· == c) then .change c :: template fuel r
    else .text [c] :: template fuel r
  | fuel + 1, '&' :: r => .group 0 :: template fuel r
  | fuel + 1, c :: r => .text [c] :: template fuel r

/-- The greatest group that a template asks for. -/
def greatest (parts : List Template) : Nat :=
  parts.foldl (fun n p => match p with
    | .group k => max n k
    | _ => n) 0

def badReference (n : Nat) : String :=
  "invalid reference \\" ++ toString n ++ " on " ++ named "" "s" " command's RHS"

/-- The name of a file, up to the end of its line. -/
def fileName (t : Text) : Reading (Text × Text) :=
  let t := skipBlanks t
  let path := t.takeWhile (· != '\n')
  if path.isEmpty then fault (t.drop 1) "missing filename in r/R/w/W commands"
  else .ok (path, t.drop (path.length + 1))

/-- The flags behind a substitution. -/
def flags : Nat → Substitution → Text → Reading (Substitution × Text)
  | 0, x, t => .ok (x, t)
  | _ + 1, x, [] => .ok (x, [])
  | fuel + 1, x, c :: r =>
    let twice := fun (flag : String) => named "multiple " flag " options to " ++ named "" "s" " command"
    match c with
    | 'i' => flags fuel { x with ignoresCase := true } r
    | 'I' => flags fuel { x with ignoresCase := true } r
    | 'm' => flags fuel { x with byLines := true } r
    | 'M' => flags fuel { x with byLines := true } r
    | 'g' => if x.everywhere then fault r (twice "g") else flags fuel { x with everywhere := true } r
    | 'p' => if x.prints then fault r (twice "p") else flags fuel { x with prints := true } r
    | 'w' => do
      let (path, rest) ← fileName r
      return ({ x with target := some path }, rest)
    | '\x7d' => .ok (x, c :: r)
    | '#' => .ok (x, c :: r)
    | '\n' => .ok (x, r)
    | ';' => .ok (x, r)
    | c =>
      if c = ' ' || c = '\t' then flags fuel x r
      else if c = '\r' && r.head? = some '\n' then .ok (x, r.tail)
      else if c.isDigit then
        if x.number ≠ 0 then
          fault r ("multiple number options to " ++ named "" "s" " command")
        else
          let (n, rest) := digitsOf (c :: r)
          if n = 0 then fault rest (named "number option to " "s" " command may not be zero")
          else flags fuel { x with number := n } rest
      else fault r (named "unknown option to " "s" "")

def substitution (extended : Bool) (t : Text) : Reading (Substitution × Text) :=
  let broken : Text → Reading (Substitution × Text) :=
    fun left => fault left (named "unterminated " "s" " command")
  match t with
  | [] => broken []
  | d :: r =>
    match delimited d true (r.length + 1) r with
    | .error left => broken left
    | .ok (body, r) =>
      match delimited d false (r.length + 1) r with
      | .error left => broken left
      | .ok (target, r) => do
        let parts := template (2 * target.length + 1) (characters .template target)
        let (x, rest) ← flags (r.length + 1) ⟨none, parts, false, 0, false, false, false, none⟩ r
        let e ← expression extended (x.ignoresCase || x.byLines) body rest
        match e with
        | some e =>
          if greatest parts > e.lastGroup then fault rest (badReference (greatest parts))
          else return ({ x with expression := some e }, rest)
        | none => return (x, rest)

/-- The two sets of a replacement, with their backslashes carried out. -/
def plainSet : Text → Text
  | '\\' :: c :: r => (if c = 'n' then '\n' else if c = 't' then '\t' else c) :: plainSet r
  | c :: r => c :: plainSet r
  | [] => []

def replacement (t : Text) : Reading (Edit × Text) :=
  let broken : Text → Reading (Edit × Text) :=
    fun left => fault left (named "unterminated " "y" " command")
  match t with
  | [] => broken []
  | d :: r =>
    match delimited d false (r.length + 1) r with
    | .error left => broken left
    | .ok (a, r) =>
      match delimited d false (r.length + 1) r with
      | .error left => broken left
      | .ok (b, r) =>
        let (a, b) := (plainSet a, plainSet b)
        if a.length ≠ b.length then
          fault r (named "strings for " "y" " command are different lengths")
        else .ok (.replace a b, r)

/-- Text that is added, up to the end of its last line, as it is written. A backslash in front
of a break goes on with it. Also whether the text goes on in the next part. -/
def addedText : Text → Text × Bool × Text
  | ['\\'] => (['\n'], true, [])
  | '\\' :: c :: r => let x := addedText r; ('\\' :: c :: x.1, x.2)
  | '\n' :: r => (['\n'], false, r)
  | c :: r => let x := addedText r; (c :: x.1, x.2)
  | [] => (['\n'], false, [])

/-- The text behind `a`, `i` or `c`. -/
def textOf (t : Text) : Reading (Text × Bool × Text) :=
  match skipBlanks t with
  | [] => fault [] ("expected \\ after " ++ named "" "a" ", " ++ named "" "c" " or " ++
      named "" "i" "")
  | ['\\'] => .ok ([], true, [])
  | '\\' :: '\n' :: r => .ok (added r)
  | '\\' :: r => .ok (added r)
  | t => .ok (added t)
where
  added (t : Text) : Text × Bool × Text :=
    let x := addedText t
    (characters .plain x.1, x.2)

/-- A label, up to a blank or a separator. -/
def label (t : Text) : Text × Text :=
  let t := skipBlanks t
  let name := t.takeWhile fun c => !Arithmetic.isSpace c && c != ';' && c != '\x7d'
  (name, t.drop name.length)

/-- Nothing but a separator may stand behind a command. -/
def ended (t : Text) : Reading Text :=
  match skipBlanks t with
  | [] => .ok []
  | ';' :: r => .ok r
  | '\n' :: r => .ok r
  | '\x7d' :: r => .ok ('\x7d' :: r)
  | '#' :: r => .ok ('#' :: r)
  | _ :: r => fault r "extra characters after command"

def plainLetters : Text := "=dDgGhHnNpPxzFe".toList

/-- The command at the front of a text, in groups of a depth; also whether its text goes on in
the next part. -/
def edit (extended : Bool) (depth : Nat) (selector : Selector) (t : Text) :
    Reading (Edit × Bool × Text) :=
  match t with
  | [] => fault [] "missing command"
  | c :: r =>
    let closed := fun (e : Edit) (rest : Text) => do return (e, false, ← ended rest)
    match c with
    | '\x7b' => .ok (.opening 0, false, r)
    | '\x7d' =>
      if depth = 0 then fault r (named "unexpected " "\x7d" "")
      else if selector.first.isSome then
        fault r (named "" "\x7d" " doesn't want any addresses")
      else closed .closing r
    | 's' => do
      let (x, rest) ← substitution extended r
      return (.substitute x, false, rest)
    | 'y' => do
      let (x, rest) ← replacement r
      closed x rest
    | 'a' => do let (t, more, rest) ← textOf r; return (.append t, more, rest)
    | 'i' => do let (t, more, rest) ← textOf r; return (.insert t, more, rest)
    | 'c' => do let (t, more, rest) ← textOf r; return (.change t, more, rest)
    | ':' =>
      if selector.first.isSome then fault r ": doesn't want any addresses"
      else
        let (name, rest) := label r
        if name.isEmpty then fault rest "\":\" lacks a label" else .ok (.label name, false, rest)
    | 'b' => let (name, rest) := label r; .ok (.jump name, false, rest)
    | 't' => let (name, rest) := label r; .ok (.jumpIf name, false, rest)
    | 'T' => let (name, rest) := label r; .ok (.jumpIfNot name, false, rest)
    | 'q' =>
      if selector.last.isSome then fault r "command only uses one address"
      else let (n, rest) := digitsOf (skipBlanks r); closed (.quit true n) rest
    | 'Q' =>
      if selector.last.isSome then fault r "command only uses one address"
      else let (n, rest) := digitsOf (skipBlanks r); closed (.quit false n) rest
    | 'l' =>
      let (n, rest) := digitsOf (skipBlanks r)
      closed (.list (if rest.length = (skipBlanks r).length then none else some n)) rest
    | 'r' => do let (path, rest) ← fileName r; return (.readFile path, false, rest)
    | 'R' => do let (path, rest) ← fileName r; return (.readLine path, false, rest)
    | 'w' => do let (path, rest) ← fileName r; return (.writeFile path, false, rest)
    | 'W' => do let (path, rest) ← fileName r; return (.writeLine path, false, rest)
    | c =>
      if plainLetters.any (· == c) then closed (.plain c) r
      else fault r (named "unknown command: " (String.ofList [c]) "")

/-- What was read of a script. -/
structure Draft where
  /-- The commands, the latest first. -/
  commands : List Command
  /-- How many groups are open. -/
  depth : Nat
  /-- The text of the latest command goes on in the next part. -/
  isOpen : Bool

/-- Read the commands of a part. -/
def Draft.read (extended : Bool) (part : Part) : Nat → Draft → Text → Reading Draft
  | 0, d, _ => .ok d
  | fuel + 1, d, t => do
    match t.dropWhile fun c => Arithmetic.isSpace c || c == ';' with
    | [] => return d
    | t =>
      let (selector, rest) ← selector extended t
      match rest with
      | '#' :: r =>
        if selector.first.isSome then fault r "comments don't accept any addresses"
        else Draft.read extended part fuel d (r.dropWhile (· != '\n'))
      | rest =>
        let before := part.text.take (part.text.length - rest.length)
        let (e, isOpen, rest) ← edit extended d.depth selector rest
        let depth := match e with
          | .opening _ => d.depth + 1
          | .closing => d.depth - 1
          | _ => d.depth
        let c : Command := ⟨selector, e, part.source, (before.filter (· == '\n')).length + 1⟩
        Draft.read extended part fuel ⟨c :: d.commands, depth, isOpen⟩ rest

/-- Go on with the text of a command. -/
def Edit.extend (e : Edit) (t : Text) : Edit :=
  match e with
  | .append u => .append (u ++ t)
  | .insert u => .insert (u ++ t)
  | .change u => .change (u ++ t)
  | e => e

/-- Read a further part. -/
def Draft.add (extended : Bool) (d : Draft) (part : Part) : Reading Draft :=
  match d.isOpen, d.commands with
  | true, c :: cs =>
    let (t, isOpen, rest) := addedText part.text
    let c := { c with edit := Edit.extend c.edit (characters .plain t) }
    Draft.read extended part (rest.length + 1) ⟨c :: cs, d.depth, isOpen⟩ rest
  | _, _ => Draft.read extended part (part.text.length + 1) d part.text

/-- The groups that are not closed, the latest first. -/
def unclosed (cs : List Command) : List Command :=
  cs.foldl (fun found c =>
    match c.edit with
    | .opening _ => c :: found
    | .closing => found.tail
    | _ => found) []

/-- The index behind the end of the group that is open at a depth. -/
def endOfGroup : Nat → Nat → List Command → Nat
  | index, _, [] => index
  | index, depth, c :: cs =>
    match c.edit with
    | .opening _ => endOfGroup (index + 1) (depth + 1) cs
    | .closing => if depth = 0 then index + 1 else endOfGroup (index + 1) (depth - 1) cs
    | _ => endOfGroup (index + 1) depth cs

/-- Tell groups where they end. -/
def laidOut : Nat → List Command → List Command
  | _, [] => []
  | index, c :: cs =>
    let c := match c.edit with
      | .opening _ => { c with edit := .opening (endOfGroup (index + 1) 0 cs) }
      | _ => c
    c :: laidOut (index + 1) cs

def targets (cs : List Command) : List Text :=
  cs.filterMap fun c =>
    match c.edit with
    | .jump name => some name
    | .jumpIf name => some name
    | .jumpIfNot name => some name
    | _ => none

def labels (cs : List Command) : List Text :=
  cs.filterMap fun c =>
    match c.edit with
    | .label name => some name
    | _ => none

/-- The files that commands write to. -/
def writtenFiles (cs : List Command) : List Text :=
  (cs.filterMap fun c =>
    match c.edit with
    | .writeFile path => some path
    | .writeLine path => some path
    | .substitute x => x.target
    | _ => none).eraseDups

/-- How a fault in a part is told, behind the status that it leaves. -/
def Part.tell (part : Part) : Fault → Nat × Text
  | .inFront left message =>
    let before := part.text.take (part.text.length - left)
    (1, part.source.tell before.length ((before.filter (· == '\n')).length + 1) message)
  | .nowhere message => (4, message.toList)

/-- Read a script; what is wrong with it is told as the program tells it. -/
def read (extended : Bool) (parts : List Part) : Except (Nat × Text) (List Command) := do
  let d ← parts.foldlM (fun (d : Draft) part =>
    (d.add extended part).mapError part.tell) ⟨[], 0, false⟩
  let cs := d.commands.reverse
  match unclosed cs with
  | c :: _ => .error (1, c.source.tell 0 c.line (named "unmatched " "\x7b" ""))
  | [] =>
    match (targets cs).find? fun n => !n.isEmpty && !(labels cs).contains n with
    | some n => .error (4, "can't find label for jump to `".toList ++ n ++ ['\''])
    | none => return laidOut 0 cs

end Script

end Exemplar.Shell.Program
