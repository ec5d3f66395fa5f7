import Exemplar.Shell.Glob
import Exemplar.Text.Search

/-!
# Regular expressions

Expressions are written in two manners: in the plain one, signs for groups and intervals
stand behind a backslash, in the extended one they do not. A search takes the first place
where the expression accepts something, and there the longest text that it accepts.
-/
namespace Exemplar.Shell

/-- Places between characters. -/
inductive Edge
  | front
  | back
  /-- The front and the back of the whole text. -/
  | start
  | finish
  | word
  | insideWord
  | wordFront
  | wordBack
  /-- No word goes on from the left. -/
  | noneBefore
  /-- No word goes on to the right. -/
  | noneBehind
  deriving DecidableEq, Repr

inductive Regex
  | empty
  | char (c : Char)
  | any
  | among (wanted : Bool) (ranges : List Range)
  | edge (e : Edge)
  | group (number : Nat) (body : Regex)
  /-- The text of a group once more. -/
  | again (number : Nat)
  | seq (first second : Regex)
  | either (first second : Regex)
  | many (least : Nat) (most : Option Nat) (body : Regex)
  deriving Repr

namespace Regex

/-- Why a text is no expression. -/
inductive Flaw
  | badPattern
  | bracket
  | className
  | collation
  | range
  | colons
  | opening
  | closing
  | interval
  | intervalContent
  | tooBig
  | reference
  | repetition
  | backslash
  deriving DecidableEq, Repr

def Flaw.message : Flaw → String
  | badPattern => "Invalid regular expression"
  | bracket => "Unmatched [, [^, [:, [., or [="
  | className => "Invalid character class name"
  | collation => "Invalid collation character"
  | range => "Invalid range end"
  | colons => "character class syntax is [[:space:]], not [:space:]"
  | opening => "Unmatched ( or \\("
  | closing => "Unmatched ) or \\)"
  | interval => "Unmatched \\\x7b"
  | intervalContent => "Invalid content of \\\x7b\\\x7d"
  | tooBig => "Regular expression too big"
  | reference => "Invalid back reference"
  | repetition => "Invalid preceding regular expression"
  | backslash => "Trailing backslash"

/-- How expressions are written. -/
structure Style where
  extended : Bool
  /-- Signs that are out of place are skipped or stand for themselves. -/
  lenient : Bool
  deriving DecidableEq, Repr

/-- What is left of an expression, and the groups that have begun and ended. -/
structure Rest where
  text : Text
  groups : Nat
  closed : List Nat
  /-- Signs that were skipped since nothing stands in front of them, latest first. -/
  skipped : List Text

abbrev Read := Except Flaw

def wordRanges : List Range := [.named "alnum".toList, .one '_']

/-- A member of a bracket that is no range. -/
inductive Member
  | char (c : Char)
  | named (name : Text)

/-- The member at the front of a text. -/
def member (t : Text) : Read (Member × Text) :=
  match t with
  | '[' :: d :: r =>
    if d = ':' || d = '.' || d = '=' then
      match Text.breakOn [d, ']'] r with
      | none => .error .bracket
      | some (name, rest) =>
        if d = ':' then
          if Range.classNames.contains (String.ofList name) then .ok (.named name, rest)
          else .error .className
        else match name with
          | [c] => .ok (.char c, rest)
          | _ => .error .collation
    else .ok (.char '[', d :: r)
  | c :: r => .ok (.char c, r)
  | [] => .error .bracket

/-- The members of a bracket, up to its end. -/
def members : Nat → Bool → Text → Read (List Range × Text)
  | 0, _, _ => .error .bracket
  | fuel + 1, isFirst, t => do
    match t with
    | ']' :: r => if !isFirst then return ([], r)
    | _ => pure ()
    let (low, r) ← member t
    let (range, r) : Range × Text ← match r, low with
      | '-' :: ']' :: _, .char c => pure (.one c, r)
      | '-' :: ']' :: _, .named name => pure (.named name, r)
      | '-' :: more, low => do
        let (high, rest) ← member more
        match low, high with
        | .char a, .char b => if a ≤ b then pure (.between a b, rest) else throw .range
        | _, _ => throw .range
      | _, .char c => pure (.one c, r)
      | _, .named name => pure (.named name, r)
    let (ranges, rest) ← members fuel false r
    return (range :: ranges, rest)

/-- Whether a bracket looks like a class without brackets around it. -/
def isBareClass (ranges : List Range) : Bool :=
  ranges.head? == some (.one ':') && ranges.getLast? == some (.one ':') &&
    ranges.any (· != .one ':') &&
    ranges.all fun r => match r with
      | .one _ => true
      | _ => false

/-- A bracket behind its first sign. -/
def bracket (t : Text) : Read (Regex × Text) := do
  let inverted := t.head? = some '^'
  let inner := if inverted then t.tail else t
  if inner.isEmpty then throw .badPattern
  let (ranges, rest) ← members (inner.length + 1) true inner
  if isBareClass ranges then throw .colons
  return (.among (!inverted) ranges, rest)

/-- Signs of the style: `(`, `)`, `|`, `+`, `?` and the brace, without their backslash. -/
def sign? (style : Style) (t : Text) : Option (Char × Text) :=
  let isSign := fun (c : Char) => "()|+?\x7b\x7d".toList.any (· == c)
  match t with
  | '\\' :: c :: r => if !style.extended && isSign c then some (c, r) else none
  | c :: r => if style.extended && isSign c then some (c, r) else none
  | [] => none

def mostRepeats : Nat := 32767

/-- The bounds of an interval, up to its end; nothing if it is none. -/
def interval (style : Style) (t : Text) : Read (Option (Nat × Option Nat × Text)) :=
  let number := fun (t : Text) => t.foldl (fun n c => n * 10 + (c.toNat - '0'.toNat)) 0
  let low := t.takeWhile Char.isDigit
  let rest := t.drop low.length
  let bad := fun (rest : Text) =>
    if style.extended && style.lenient then .ok none
    else .error (if rest.isEmpty then .interval else .intervalContent)
  let closed := fun (least : Nat) (most : Option Nat) (rest : Text) =>
    match sign? style rest with
    | some ('}', r) =>
      if most.any (· < least) then .error .intervalContent
      else if most.getD least > mostRepeats then .error .tooBig
      else .ok (some (least, most, r))
    | _ => if rest.head? = some ',' then .error .intervalContent else bad rest
  match rest with
  | ',' :: r =>
    let digits := r.takeWhile Char.isDigit
    closed (number low) (if digits.isEmpty then none else some (number digits))
      (r.drop digits.length)
  | rest =>
    if low.isEmpty then
      match sign? style rest with
      | some ('}', _) => .error .intervalContent
      | _ => bad rest
    else closed (number low) (some (number low)) rest

/-- Repeat what was read as often as the signs behind it say. -/
def repeated (style : Style) : Nat → Bool → Regex → Text → Read (Regex × Text)
  | 0, _, x, t => .ok (x, t)
  | fuel + 1, isRepeated, x, t =>
    let strict := isRepeated && !style.extended && !style.lenient
    match t with
    | '*' :: r =>
      if strict then .error .repetition else repeated style fuel true (.many 0 none x) r
    | t =>
      match sign? style t with
      | some ('+', r) => repeated style fuel true (.many 1 none x) r
      | some ('?', r) => repeated style fuel true (.many 0 (some 1) x) r
      | some ('\x7b', r) =>
        if strict then .error .repetition
        else do
          match ← interval style r with
          | some (least, most, rest) => repeated style fuel true (.many least most x) rest
          | none => return (x, t)
      | _ => .ok (x, t)

/-- Skip a sign of repetition in front of which nothing stands. -/
def skip? (style : Style) (t : Text) : Option (Text × Text) :=
  if !(style.extended && style.lenient) then none
  else match t with
    | '*' :: r => some (['*'], r)
    | '+' :: r => some (['+'], r)
    | '?' :: r => some (['?'], r)
    | '\x7b' :: r =>
      match interval style r with
      | .ok (some (_, _, rest)) => some ("\x7b...\x7d".toList, rest)
      | _ => none
    | _ => none

/-- What a backslash with a character behind it stands for. -/
def escaped (c : Char) (r : Rest) : Read Regex :=
  match c with
  | 'w' => .ok (.among true wordRanges)
  | 'W' => .ok (.among false wordRanges)
  | 's' => .ok (.among true [.named "space".toList])
  | 'S' => .ok (.among false [.named "space".toList])
  | 'b' => .ok (.edge .word)
  | 'B' => .ok (.edge .insideWord)
  | '<' => .ok (.edge .wordFront)
  | '>' => .ok (.edge .wordBack)
  | 'n' => .ok (.char '\n')
  | '\'' => .ok (.edge .finish)
  | c =>
    if c = Char.ofNat 96 then .ok (.edge .start)
    else if '1' ≤ c && c ≤ '9' then
      let n := c.toNat - '0'.toNat
      if r.closed.contains n then .ok (.again n) else .error .reference
    else .ok (.char c)

/-- Whether a branch ends in front of a text. -/
def endsBranch (style : Style) (depth : Nat) (t : Text) : Bool :=
  match sign? style t with
  | some ('|', _) => true
  | some (')', _) => depth > 0
  | _ => t.isEmpty

mutual

/-- Branches, of which one is taken. -/
def branches (style : Style) : Nat → Nat → Rest → Read (Regex × Rest)
  | 0, _, r => .ok (.empty, r)
  | fuel + 1, depth, r => do
    let (first, r) ← branch style fuel depth true r
    match sign? style r.text with
    | some ('|', text) =>
      let (second, r) ← branches style fuel depth { r with text }
      return (.either first second, r)
    | _ => return (first, r)

/-- Parts in a row. At the beginning some signs stand for themselves. -/
def branch (style : Style) : Nat → Nat → Bool → Rest → Read (Regex × Rest)
  | 0, _, _, r => .ok (.empty, r)
  | fuel + 1, depth, isFirst, r =>
    if endsBranch style depth r.text then .ok (.empty, r)
    else match if isFirst then skip? style r.text else none with
    | some (sign, text) =>
      branch style fuel depth true { r with text, skipped := sign :: r.skipped }
    | none =>
      match r.text with
      | '^' :: text =>
        if style.extended then do
          let (more, r) ← branch style fuel depth true { r with text }
          return (.seq (.edge .front) more, r)
        else if isFirst then do
          let (more, r) ← match text with
            | '^' :: text => follow fuel depth (.char '^') { r with text }
            | text => branch style fuel depth true { r with text }
          return (.seq (.edge .front) more, r)
        else follow fuel depth (.char '^') { r with text }
      | '*' :: text =>
        if isFirst && !style.extended then follow fuel depth (.char '*') { r with text }
        else .error .repetition
      | '$' :: text =>
        if style.extended || endsBranch style depth text then do
          let (more, r) ← branch style fuel depth false { r with text }
          return (.seq (.edge .back) more, r)
        else follow fuel depth (.char '$') { r with text }
      | '.' :: text => follow fuel depth .any { r with text }
      | '[' :: text => do
        let (x, text) ← bracket text
        follow fuel depth x { r with text }
      | text =>
        match sign? style text with
        | some ('(', text) => do
          let number := r.groups + 1
          let (body, r) ← branches style fuel (depth + 1) { r with text, groups := number }
          match sign? style r.text with
          | some (')', text) =>
            follow fuel depth (.group number body) { r with text, closed := number :: r.closed }
          | _ => .error .opening
        | some (')', text) =>
          if style.extended && style.lenient then follow fuel depth (.char ')') { r with text }
          else .error .closing
        | some (c, rest) =>
          let isPlain := c = '\x7d' || (if style.extended then style.lenient
            else isFirst && (style.lenient || c ≠ '\x7b'))
          if isPlain then follow fuel depth (.char c) { r with text := rest }
          else .error .repetition
        | none =>
          match text with
          | ['\\'] => .error .backslash
          | '\\' :: c :: text => do
            follow fuel depth (← escaped c r) { r with text }
          | c :: text => follow fuel depth (.char c) { r with text }
          | [] => .ok (.empty, r)
where
  /-- A part with its repetitions, and the rest of the branch. -/
  follow (fuel depth : Nat) (x : Regex) (r : Rest) : Read (Regex × Rest) := do
    let (x, text) ← repeated style (r.text.length + 1) false x r.text
    let (more, r) ← branch style fuel depth false { r with text }
    return (.seq x more, r)

end

/-- Read an expression, and tell the signs that were skipped. -/
def readWith (style : Style) (t : Text) : Read (Regex × List Text) := do
  let (x, r) ← branches style (4 * t.length + 4) 0 ⟨t, 0, [], []⟩
  if r.text.isEmpty then return (x, r.skipped.reverse) else .error .closing

def read (style : Style) (t : Text) : Read Regex := do return (← readWith style t).1

/-- The greatest number of a group. -/
def lastGroup : Regex → Nat
  | .group n x => max n (lastGroup x)
  | .seq x y => max (lastGroup x) (lastGroup y)
  | .either x y => max (lastGroup x) (lastGroup y)
  | .many _ _ x => lastGroup x
  | _ => 0

/-- The expression for a text that stands for itself. -/
def literal (t : Text) : Regex := t.foldr (fun c x => .seq (.char c) x) .empty

/-- A place in a text that is searched. -/
structure Spot where
  before : Option Char
  rest : Text
  offset : Nat
  groups : List (Nat × Text)

inductive Goal
  | item (x : Regex)
  /-- A group that began here ends. -/
  | close (number : Nat) (from' : Spot)
  /-- Once more, unless the last time nothing was taken. -/
  | loop (least : Nat) (most : Option Nat) (body : Regex) (start : Nat)

/-- What does not change while an expression is matched. -/
structure Manner where
  ignoresCase : Bool
  /-- Each line of a text has a front and a back. -/
  byLines : Bool
  /-- Look for the longest text, and not only for the first. -/
  longest : Bool

def isWordChar (c : Char) : Bool := c.isAlphanum || c == '_'

/-- The character that an expression accepts, if it accepts single characters. -/
def accepts (m : Manner) (x : Regex) (c : Char) : Bool :=
  match x with
  | .char d => if m.ignoresCase then c.toLower == d.toLower else c == d
  | .any => true
  | .among wanted ranges =>
    let holds := fun c => ranges.any (·.holds c)
    (if m.ignoresCase then holds c.toLower || holds c.toUpper else holds c) == wanted
  | _ => false

def isSingle : Regex → Bool
  | .char _ => true
  | .any => true
  | .among _ _ => true
  | _ => false

/-- Whether the first way to match is the longest one. -/
def isDirect : Regex → Bool
  | .seq a b => isDirect a && isDirect b
  | .group _ x => isDirect x
  | .many _ _ x => isSingle x
  | .either _ _ => false
  | _ => true

def holdsAt (m : Manner) (e : Edge) (s : Spot) : Bool :=
  let left := s.before.any isWordChar
  let right := s.rest.head?.any isWordChar
  match e with
  | .front => s.before.isNone || (m.byLines && s.before == some '\n')
  | .back => s.rest.isEmpty || (m.byLines && s.rest.head? == some '\n')
  | .start => s.before.isNone
  | .finish => s.rest.isEmpty
  | .word => left != right
  | .insideWord => left == right
  | .wordFront => !left && right
  | .wordBack => left && !right
  | .noneBefore => !left
  | .noneBehind => !right

def Spot.advance (s : Spot) (n : Nat) : Spot :=
  let taken := s.rest.take n
  { s with
    before := (taken.getLast?).or s.before
    rest := s.rest.drop n
    offset := s.offset + taken.length }

/-- Whether no better way needs to be looked for. -/
def isSettled (m : Manner) (best : Option Spot) : Bool :=
  match best with
  | some b => !m.longest || b.rest.isEmpty
  | none => false

def better (best : Option Spot) (s : Spot) : Option Spot :=
  match best with
  | some b => if b.offset < s.offset then some s else some b
  | none => some s

def fewer (most : Option Nat) : Option Nat := most.map (· - 1)

/-- Reach all goals from a place; the best end that is found. -/
def solve (m : Manner) : Nat → List Goal → Spot → Option Spot → Option Spot
  | 0, _, _, best => best
  | _ + 1, [], s, best => better best s
  | fuel + 1, g :: gs, s, best =>
    match g with
    | .close n start =>
      let t := start.rest.take (s.offset - start.offset)
      solve m fuel gs { s with groups := (n, t) :: s.groups } best
    | .loop least most body start =>
      if s.offset = start then solve m fuel gs s best
      else solve m fuel (.item (.many least most body) :: gs) s best
    | .item x =>
      match x with
      | .empty => solve m fuel gs s best
      | .edge e => if holdsAt m e s then solve m fuel gs s best else best
      | .group n body => solve m fuel (.item body :: .close n s :: gs) s best
      | .again n =>
        let t := (s.groups.lookup n).getD []
        let found := s.rest.take t.length
        let same := if m.ignoresCase then found.map Char.toLower == t.map Char.toLower
          else found == t
        if same then solve m fuel gs (s.advance t.length) best else best
      | .seq a b => solve m fuel (.item a :: .item b :: gs) s best
      | .either a b =>
        let best := solve m fuel (.item a :: gs) s best
        if isSettled m best then best else solve m fuel (.item b :: gs) s best
      | .many least most body =>
        if isSingle body then
          let run := (s.rest.takeWhile (accepts m body)).length
          let run := match most with
            | some n => min n run
            | none => run
          if run < least then best
          else (List.range (run + 1 - least)).foldl (fun best k =>
            if isSettled m best then best else solve m fuel gs (s.advance (run - k)) best) best
        else
          let best := if most = some 0 then best
            else solve m fuel
              (.item body :: .loop (least - 1) (fewer most) body s.offset :: gs) s best
          if isSettled m best || least > 0 then best else solve m fuel gs s best
      | single =>
        match s.rest with
        | c :: _ => if accepts m single c then solve m fuel gs (s.advance 1) best else best
        | [] => best

/-- A match: the text before it, the match itself, what follows, and the groups. -/
structure Found where
  before : Text
  text : Text
  after : Text
  groups : List (Nat × Text)

/-- The first match in a text. What stands in front of the text is given as well. -/
def search (m : Manner) (x : Regex) : Option Char → Text → Option Found
  | before, t =>
    match solve m (1000 + 20 * t.length) [.item x] ⟨before, t, 0, []⟩ none, t with
    | some s, t => some ⟨[], t.take s.offset, s.rest, s.groups⟩
    | none, [] => none
    | none, c :: r =>
      (search m x (some c) r).map fun f => { f with before := c :: f.before }

/-- The manner that suits an expression. -/
def mannerFor (x : Regex) (ignoresCase byLines : Bool) : Manner :=
  ⟨ignoresCase, byLines, !isDirect x⟩

end Regex

end Exemplar.Shell
