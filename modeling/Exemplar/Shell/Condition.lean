import Exemplar.Shell.Expansion

/-!
# Conditions

Conditions on texts, numbers and files, as `test` takes them word by word. With up to four
words their number decides what they mean; otherwise conditions are joined by `-a`, `-o`,
`!` and parentheses.
-/
namespace Exemplar.Shell.Condition
open Text

inductive Kind
  | unary
  | binary
  | not
  | and
  | or
  | opening
  | closing
  deriving DecidableEq, Repr

def unaryNames : List String :=
  ["-r", "-w", "-x", "-e", "-f", "-d", "-c", "-b", "-p", "-u", "-g", "-k", "-s", "-t", "-z", "-n",
    "-h", "-O", "-G", "-L", "-S"]

def binaryNames : List String :=
  ["=", "!=", "<", ">", "-eq", "-ne", "-ge", "-gt", "-le", "-lt", "-nt", "-ot", "-ef"]

def kind? (t : Text) : Option Kind :=
  match String.ofList t with
  | "!" => some .not
  | "-a" => some .and
  | "-o" => some .or
  | "(" => some .opening
  | ")" => some .closing
  | name =>
    if unaryNames.contains name then some .unary
    else if binaryNames.contains name then some .binary
    else none

abbrev Failed := Except Text

/-- Refuse a word. -/
def wrong {α : Type} (word : Text) (message : String) : Failed α :=
  .error (if word.isEmpty then message.toList else word ++ (": " ++ message).toList)

/-- What a word means in its place: nothing special if it can only be an operand. -/
def role : List Text → Option Kind
  | [] => none
  | t :: rest =>
    match kind? t with
    | some .unary =>
      match rest with
      | [] => none
      | [_] => some .unary
      | next :: _ => if kind? next = some .binary then none else some .unary
    | some .opening => if rest.isEmpty then none else some .opening
    | k => k

/-- What kind of file a path leads to. -/
inductive Node
  | file (bytes : Nat)
  | directory
  | device
  | pipe
  | link
  deriving DecidableEq, Repr

/-- The stream that a path names, if it names one. -/
def streamOf? (path : Text) : Option Nat :=
  match String.ofList path with
  | "/dev/stdin" => some 0
  | "/dev/stdout" => some 1
  | "/dev/stderr" => some 2
  | _ =>
    match stripPrefix? "/dev/fd/".toList path, stripPrefix? "/proc/self/fd/".toList path with
    | some digits, _ => Arithmetic.natOf? 10 digits
    | _, some digits => Arithmetic.natOf? 10 digits
    | _, _ => none

def nodeOf : Files.Entry → Node
  | .file bytes => .file bytes.length
  | .directory => .directory
  | .device => .device
  | .link _ => .link

def node? (s : State) (path : Text) : Option Node :=
  match streamOf? path with
  | some n =>
    match s.channel n with
    | some (.file place) => some (.file (s.fileAt place).length)
    | some .null => some .device
    | some .full => some .device
    | some .zeros => some .device
    | some _ => some .pipe
    | none => none
  | none =>
    match s.resolve path with
    | .ok r => some (nodeOf r.entry)
    | .error _ => none

def permissions (s : State) (path : Text) : Nat :=
  match s.resolve path with
  | .ok r => if r.place = Files.Layout.names "tmp" then 0o1777 else (s.attributeAt r.place).permissions
  | .error _ => 0

def isLink (s : State) (path : Text) : Bool :=
  match s.resolveLink path with
  | .ok ⟨_, .link _⟩ => true
  | _ => false

def isSize (s : State) (path : Text) : Bool :=
  match node? s path with
  | some (.file n) => n > 0
  | some .directory => true
  | _ => false

def number (t : Text) : Failed Int :=
  match Arithmetic.numberIn? true t with
  | some n => .ok n
  | none => .error ("Illegal number: ".toList ++ t)

def unary (s : State) (name : String) (a : Text) : Failed Bool :=
  match name with
  | "-n" => .ok !a.isEmpty
  | "-z" => .ok a.isEmpty
  | "-t" => do
    let _ ← number a
    return false
  | "-h" => .ok (isLink s a)
  | "-L" => .ok (isLink s a)
  | "-f" => .ok (match node? s a with
    | some (.file _) => true
    | _ => false)
  | "-d" => .ok (node? s a == some .directory)
  | "-c" => .ok (node? s a == some .device)
  | "-p" => .ok (node? s a == some .pipe)
  | "-b" => .ok false
  | "-S" => .ok false
  | "-s" => .ok (isSize s a)
  | "-x" => .ok (match node? s a with
    | some .directory => true
    | some (.file _) => permissions s a &&& 0o111 ≠ 0
    | _ => false)
  | "-u" => .ok (permissions s a &&& 0o4000 ≠ 0)
  | "-g" => .ok (permissions s a &&& 0o2000 ≠ 0)
  | "-k" => .ok (permissions s a &&& 0o1000 ≠ 0)
  | _ => .ok (node? s a).isSome

/-- When the file of a path was changed. -/
def changed? (s : State) (path : Text) : Option Nat :=
  match s.resolve path with
  | .ok r => some (s.attributeAt r.place).changed
  | .error _ => none

def isNewer (s : State) (a b : Text) : Bool :=
  match changed? s a, changed? s b with
  | some x, some y => y < x
  | _, _ => false

def isSame (s : State) (a b : Text) : Bool :=
  match s.resolve a, s.resolve b with
  | .ok x, .ok y => x.place == y.place
  | _, _ => false

def compare (a b : Text) (f : Int → Int → Bool) : Failed Bool := do
  let x ← number a
  let y ← number b
  return f x y

def binary (s : State) (name : String) (a b : Text) : Failed Bool :=
  match name with
  | "=" => .ok (a == b)
  | "!=" => .ok (a != b)
  | "<" => .ok (before a b)
  | ">" => .ok (before b a)
  | "-nt" => .ok (isNewer s a b)
  | "-ot" => .ok (isNewer s b a)
  | "-ef" => .ok (isSame s a b)
  | "-eq" => compare a b fun x y => x == y
  | "-ne" => compare a b fun x y => x != y
  | "-lt" => compare a b fun x y => decide (x < y)
  | "-le" => compare a b fun x y => decide (x ≤ y)
  | "-gt" => compare a b fun x y => decide (x > y)
  | _ => compare a b fun x y => decide (x ≥ y)

/-- A value, and the words from the last one that was used. -/
abbrev Found := Failed (Bool × List Text)

mutual

/-- Conditions joined by `-o`. `role` is what the first word means. -/
def disjunction (s : State) : Nat → Option Kind → List Text → Found
  | 0, _, ws => .ok (false, ws)
  | fuel + 1, role', ws => do
    let (a, ws) ← conjunction s fuel role' ws
    if role ws.tail = some .or then
      let (b, ws) ← disjunction s fuel (role ws.tail.tail) ws.tail.tail
      return (a || b, ws)
    else return (a, ws)

def conjunction (s : State) : Nat → Option Kind → List Text → Found
  | 0, _, ws => .ok (false, ws)
  | fuel + 1, role', ws => do
    let (a, ws) ← negation s fuel role' ws
    if role ws.tail = some .and then
      let (b, ws) ← conjunction s fuel (role ws.tail.tail) ws.tail.tail
      return (a && b, ws)
    else return (a, ws)

def negation (s : State) : Nat → Option Kind → List Text → Found
  | 0, _, ws => .ok (false, ws)
  | fuel + 1, role', ws =>
    if role' ≠ some .not then primary s fuel role' ws
    else do
      let (a, ws) ← if ws.tail.isEmpty then primary s fuel none []
        else negation s fuel (role ws.tail) ws.tail
      return (!a, ws)

def primary (s : State) : Nat → Option Kind → List Text → Found
  | 0, _, ws => .ok (false, ws)
  | _ + 1, _, [] => .ok (false, [])
  | fuel + 1, role', w :: ws =>
    if role' = some .opening then
      if role ws = some .closing then .ok (false, ws)
      else do
        let (a, rest) ← disjunction s fuel (role ws) ws
        if role rest.tail = some .closing then return (a, rest.tail)
        else .error "closing paren expected".toList
    else if role' = some .unary then
      match ws with
      | [] => wrong w "argument expected"
      | a :: _ => do return (← unary s (String.ofList w) a, ws)
    else
      match ws with
      | o :: rest =>
        if kind? o = some .binary then
          match rest with
          | [] => wrong o "argument expected"
          | b :: _ => do return (← binary s (String.ofList o) w b, rest)
        else .ok (!w.isEmpty, w :: ws)
      | [] => .ok (!w.isEmpty, [w])

end

/-- The value of a condition whose words mean what they do in their places. -/
def long (s : State) (asOperand : Bool) (ws : List Text) : Failed Bool := do
  let first := if asOperand then none else role ws
  let (a, rest) ← disjunction s (4 * ws.length + 8) first ws
  match rest with
  | w :: _ :: _ => wrong w "unexpected operator"
  | _ => return a

/-- The value of a condition. -/
def holds (s : State) : Nat → List Text → Failed Bool
  | 0, _ => .ok false
  | _ + 1, [] => .ok false
  | fuel + 1, ws =>
    let inner := (ws.drop 1).dropLast
    let isParenthesised := ws.head? = some ['('] && ws.getLast? = some [')']
    match ws with
    | [_, o, _] =>
      if kind? o = some .binary then long s true ws
      else if isParenthesised then long s false inner
      else if ws.head? = some ['!'] then do return !(← holds s fuel ws.tail)
      else long s false ws
    | [_, _, _, _] =>
      if isParenthesised then long s false inner
      else if ws.head? = some ['!'] then do return !(← holds s fuel ws.tail)
      else long s false ws
    | ws => long s false ws

/-- The value of the arguments of `test`, or of `[`, whose last argument ends it. -/
def ofArguments (s : State) (bracketed : Bool) (args : List Text) : Failed Bool :=
  if !bracketed then holds s 5 args
  else if args.getLast? = some [']'] then holds s 5 args.dropLast
  else .error "missing ]".toList

end Exemplar.Shell.Condition
