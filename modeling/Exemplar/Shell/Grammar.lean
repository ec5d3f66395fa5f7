import Exemplar.Shell.Reader

/-!
# The grammar of the shell

One complete command is read at a time, up to the end of its line. Documents follow the
line of the command they belong to, so a script with documents is read again once their
texts are known.
-/
namespace Exemplar.Shell

/-- Where a part of a word stands. -/
inductive Context
  | base
  /-- In a word that ends a document; only quotes mean something. -/
  | delimiter
  /-- Inside of quotes of such a word. -/
  | delimiterInQuotes
  /-- Inside of braces. -/
  | operand
  /-- Inside of quotes, which may stand inside of braces. -/
  | quotes (braced : Bool)
  | operandInQuotes
  | arithmetic
  | document (delimiter : Text) (indented : Bool)
  deriving DecidableEq, Repr

namespace Context

def isQuoted : Context → Bool
  | base => false
  | delimiter => false
  | operand => false
  | _ => true

/-- In a word that ends a document. -/
def isDelimiter : Context → Bool
  | delimiter => true
  | delimiterInQuotes => true
  | _ => false

/-- Where the operand of an expansion stands. -/
def inside : Context → Context
  | base => operand
  | delimiter => operand
  | operand => operand
  | _ => operandInQuotes

/-- Characters before which a backslash disappears. -/
def escapes (context : Context) (c : Char) : Bool :=
  match context with
  | quotes braced => isShort c || c == '"' || (c == '}' && braced)
  | delimiterInQuotes => isShort c || c == '"'
  | operandInQuotes => isShort c || c == '"' || c == '}'
  | arithmetic => isShort c || c == '"'
  | document _ _ => isShort c
  | _ => true
where
  isShort (c : Char) : Bool := c == '\\' || c == '$' || c == (Char.ofNat 96)

end Context

/-- What a word is made of while it is read. -/
inductive Part
  | char (quoted : Bool) (c : Char)
  | piece (p : Piece)
  /-- What comes behind is dropped. -/
  | stop

/-- The word of parts, given in reverse order. -/
def Word.ofParts (parts : List Part) : Word :=
  parts.foldl (fun w p =>
    match p, w with
    | .char q c, .literal r t :: more =>
      if q = r then .literal r (c :: t) :: more else .literal q [c] :: w
    | .char q c, w => .literal q [c] :: w
    | .piece p, w => p :: w
    | .stop, _ => []) []

/-- Which tokens are to be recognised next. -/
structure Wanted where
  newlines : Bool
  keywords : Bool
  aliases : Bool

namespace Wanted

def nothing : Wanted := ⟨false, false, false⟩
def names : Wanted := ⟨false, false, true⟩
def words : Wanted := ⟨false, true, true⟩
def all : Wanted := ⟨true, true, true⟩
def arms : Wanted := ⟨true, true, false⟩

end Wanted

namespace Grammar
open Parse

/-- A mark that opens and ends commands in the old manner. -/
def backquote : Char := Char.ofNat 96

/-- Characters that end a word outside of quotes. -/
def endsWord (c : Char) : Bool := "\n<>();&| \t".toList.any (· == c)

/-- Quoted characters up to the quote that ends them. -/
def literalQuotes : Nat → List Part → Parse (List Part)
  | 0, _ => throw .unfinished
  | fuel + 1, acc => do
    match ← takeRaw with
    | none => refuse "Unterminated quoted string"
    | some '\'' => return acc
    | some c => literalQuotes fuel (.char true c :: acc)

/-- The text between marks of the old manner. -/
def backquoted (inQuotes : Bool) : Nat → Parse Text
  | 0 => throw .unfinished
  | fuel + 1 => do
    match ← take with
    | none => refuse "EOF in backquote substitution"
    | some c =>
      if c = backquote then return []
      else if c = '\\' then
        match ← takeRaw with
        | none => refuse "EOF in backquote substitution"
        | some d =>
          let more ← backquoted inQuotes fuel
          if d = '\\' || d = backquote || d = '$' || (inQuotes && d = '"') then return d :: more
          else return '\\' :: d :: more
      else return c :: (← backquoted inQuotes fuel)

/-- What follows, as far as it is there. -/
def upcoming (r : Reader) : Text :=
  if r.segments.isEmpty then r.rest else r.segments.flatMap Segment.rest ++ r.rest

def takeMany : Nat → Parse Unit
  | 0 => return
  | n + 1 => do
    let _ ← takeRaw
    takeMany n

/-- Whether a document ends here; the line that ends it is taken. -/
def endsHere (delimiter : Text) (indented : Bool) : Parse Bool := do
  let r ← get
  let t := upcoming r
  let tabs := if indented then (t.takeWhile (· == '\t')).length else 0
  let t := t.drop tabs
  let line := t.takeWhile (· != '\n')
  let broken := line.length < t.length
  if !broken && !r.closed then throw .unfinished
  else if line = delimiter || (t.isEmpty && r.closed) then
    takeMany (tabs + line.length + if broken then 1 else 0)
    if !broken && !line.isEmpty then modify fun r => { r with line := r.line + 1 }
    return true
  else
    takeMany tabs
    return false

/-- Where a document ends, nothing inside of it may be open. -/
def goesOn (message : String) : Parse Unit := do
  match (← get).ending with
  | none => return
  | some (delimiter, indented) => if ← endsHere delimiter indented then refuse message

/-- What is told when something is open at the end of a script or of a document. -/
def openMessage (context : Context) (inDocument : Bool) : String :=
  if context = .arithmetic then "Missing '))'"
  else if context = .operand || inDocument then "Missing '\x7d'"
  else "Unterminated quoted string"

/-- The text of a document as it is. -/
def plainDocument (delimiter : Text) (indented : Bool) : Nat → Bool → List Part →
    Parse (List Part)
  | 0, _, _ => throw .unfinished
  | fuel + 1, atStart, acc => do
    let isOver ← if atStart then endsHere delimiter indented else pure false
    if isOver then return acc
    else
      match ← takeRaw with
      | none => return acc
      | some c => plainDocument delimiter indented fuel (c == '\n') (.char true c :: acc)

/-- Tell apart the tokens that may be doubled. -/
def doubled (c : Char) (two one : Token) : Parse Token := do
  if ← accept c then return two else return one

/-- What a redirection begins with, once its first character is known. -/
def arrow (c : Char) (stream : Option Nat) : Parse Token := do
  if c = '>' then
    let n := stream.getD 1
    if ← accept '>' then return .redirection n (.file .append)
    else if ← accept '|' then return .redirection n (.file .force)
    else if ← accept '&' then return .redirection n .copy
    else return .redirection n (.file .write)
  else
    let n := stream.getD 0
    if ← accept '<' then return .redirection n (.document (← accept '-'))
    else if ← accept '&' then return .redirection n .copy
    else if ← accept '>' then return .redirection n (.file .both)
    else return .redirection n (.file .read)

/-- The stream in front of a redirection, if a word can be one. -/
def streamOf? : List Part → Option (Option Nat)
  | [] => some none
  | [.char false c] => if c.isDigit then some (some (c.toNat - '0'.toNat)) else none
  | _ => none

/-- The character after the next one. -/
def peekSecond : Parse (Option Char) := do return (upcoming (← get))[1]?

def specialBuiltins : List String :=
  [":", ".", "break", "continue", "eval", "exec", "exit", "export", "local", "readonly", "return",
    "set", "shift", "times", "trap", "unset"]

def copyTarget (w : Word) : Target :=
  match w.unquoted, w with
  | [c], [.literal _ _] =>
    if c.isDigit then .copy (c.toNat - '0'.toNat)
    else if c = '-' then .close
    else .copyOf w
  | _, w => .copyOf w

/-- Forget aliases that ended, and tell whether one of them ended with a blank. -/
def takeBlank : Parse Bool := fun r => .ok (r.afterBlank, { r with afterBlank := false })

/-- All arguments, one by one. -/
def everyArgument : Word := [.parameter true ['@'] .value]

def isEveryArgument : List Part → Bool
  | [.piece (.parameter true ['@'] .value)] => true
  | _ => false

def then? : Option Command → Command → Option Command
  | none, c => some c
  | some a, c => some (.sequence a c)

/-- The documents behind a line. -/
def await (indented : Bool) (w : Word) : Parse Target := fun r =>
  let number := r.documents
  .ok (.document ((r.known.lookup number).getD []),
    { r with
      documents := number + 1
      awaited := r.awaited ++ [⟨number, w.unquoted, w.isQuoted, indented⟩] })

/-- Read with another reader of the same script. -/
def within {α : Type} (p : Parse α) (inner : Reader) : Parse α := fun r =>
  match p inner with
  | .error e => .error e
  | .ok (a, inner') =>
    if inner'.found.isEmpty then .ok (a, r)
    else
      match p { inner with known := inner'.found } with
      | .error e => .error e
      | .ok (a, _) => .ok (a, r)

mutual

/-- Parts of a word up to its end, in reverse order. In quotes inside of braces, `inner`
tells whether more quotes are open; in a document, whether a line begins. -/
def parts : Nat → Context → Bool → Nat → List Part → Parse (List Part)
  | 0, _, _, _, _ => throw .unfinished
  | fuel + 1, context, inner, depth, acc => do
    let atStart := match context with
      | .document _ _ => inner
      | _ => false
    let isOver ← if atStart then startsEnd context else pure false
    if isOver then return acc
    else
      match ← peek with
      | none =>
        match context with
        | .base => return acc
        | .delimiter => return acc
        | .document _ _ => return acc
        | _ => refuse (openMessage context (← get).ending.isSome)
      | some c =>
        let q := context.isQuoted
        if ended context inner c then
          match context with
          | .base => return acc
          | .delimiter => return acc
          | _ =>
            let _ ← takeRaw
            return acc
        else
          let _ ← takeRaw
          let next ← match context with
            | .document _ _ => pure (c == '\n')
            | _ =>
              if c = '\n' then goesOn (openMessage context true)
              pure inner
          if c = '\\' then
            match ← peekRaw with
            | none => parts fuel context false depth (.char true '\\' :: acc)
            | some d =>
              let _ ← takeRaw
              let acc := if context.escapes d then acc else .char true '\\' :: acc
              parts fuel context next depth (.char true d :: acc)
          else if c = '$' && !context.isDelimiter then
            let more ← dollar fuel context
            parts fuel context next depth (more ++ acc)
          else if c = backquote && !context.isDelimiter then
            let t ← backquoted q most
            let r ← get
            let sub := { Reader.ofText t 1 true with aliases := r.aliases }
            let body ← within (list fuel false true none) sub
            parts fuel context next depth
              (.piece (.command q (body.getD .skip)) :: acc)
          else if !q && c = '\'' then
            let acc ← literalQuotes most (.piece .mark :: acc)
            parts fuel context next depth acc
          else if !q && c = '"' then
            let inQuotes := if context.isDelimiter then Context.delimiterInQuotes
              else .quotes (context == .operand)
            let found ← parts fuel inQuotes false 0 []
            if isEveryArgument found then parts fuel context next depth (found ++ acc)
            else parts fuel context next depth (found ++ .piece .mark :: acc)
          else if c = '"' && context = .operandInQuotes then
            parts fuel context (!inner) depth acc
          else if context = .arithmetic && c = '(' then
            parts fuel context next (depth + 1) (.char q c :: acc)
          else if context = .arithmetic && c = ')' then
            if depth > 0 then parts fuel context next (depth - 1) (.char q c :: acc)
            else if ← accept ')' then return acc
            else parts fuel context next depth (.char q c :: acc)
          else parts fuel context next depth (.char q c :: acc)
where
  startsEnd : Context → Parse Bool
    | .document delimiter indented => endsHere delimiter indented
    | _ => return false
  ended (context : Context) (inner : Bool) (c : Char) : Bool :=
    match context with
    | .base => endsWord c
    | .delimiter => endsWord c
    | .operand => c == '}'
    | .quotes _ => c == '"'
    | .delimiterInQuotes => c == '"'
    | .operandInQuotes => c == '}' && !inner
    | _ => false

/-- What stands behind a `$`. -/
def dollar : Nat → Context → Parse (List Part)
  | 0, _ => throw .unfinished
  | fuel + 1, context => do
    let q := context.isQuoted
    match ← peek with
    | none => return [.char q '$']
    | some c =>
      if c = '(' then
        let _ ← takeRaw
        if ← accept '(' then
          let found ← parts fuel .arithmetic false 0 []
          return [.piece (.arithmetic q (Word.ofParts found))]
        else
          let ⟨awaited, ending⟩ := ((← get).awaited, (← get).ending)
          modify fun r => { r with awaited := [], ending := none }
          let body ← list fuel false true none
          match ← token fuel Wanted.nothing with
          | .closing => pure ()
          | t => unexpected t (some .closing)
          modify fun r => { r with awaited, ending }
          return [.piece (.command q (body.getD .skip))]
      else if c = '{' then
        let _ ← takeRaw
        braces fuel context
      else if isNameStart c then
        return [.piece (.parameter q (← takeWhile isNameChar most) .value)]
      else if c.isDigit || isSpecial c then
        let _ ← takeRaw
        return [.piece (.parameter q [c] .value)]
      else return [.char q '$']

/-- What stands behind an opening brace. -/
def braces : Nat → Context → Parse (List Part)
  | 0, _ => throw .unfinished
  | fuel + 1, context => do
    let q := context.isQuoted
    let bad : Parse (List Part) := do
      let _ ← parts fuel context.inside false 0 []
      return [.piece (.parameter q [] .bad)]
    match ← peek with
    | none => bad
    | some c =>
      if isNameStart c then operation fuel context (← takeWhile isNameChar most)
      else if c.isDigit then operation fuel context (← takeWhile Char.isDigit most)
      else if c = '}' then bad
      else
        let _ ← takeRaw
        let d ← peek
        if c = '#' && (d.any isNameChar) then
          let name ← if d.any Char.isDigit then takeWhile Char.isDigit most
            else takeWhile isNameChar most
          if ← accept '}' then return [.piece (.parameter q name .length)] else bad
        else
          match d, (← peekSecond) with
          | some d, some '}' =>
            if c = '#' && d ≠ '}' then
              if isSpecial d then
                takeMany 2
                return [.piece (.parameter q [d] .length)]
              else
                takeMany 1
                bad
            else if isSpecial c then operation fuel context [c]
            else bad
          | _, _ => if isSpecial c then operation fuel context [c] else bad

/-- What is done with a parameter, up to the closing brace. -/
def operation : Nat → Context → Text → Parse (List Part)
  | 0, _, _ => throw .unfinished
  | fuel + 1, context, name => do
    let q := context.isQuoted
    let operand := fun (context : Context) => do
      return Word.ofParts (← parts fuel context false 0 [])
    let done := fun (use : Use) => [Part.piece (.parameter q name use)]
    match ← take with
    | none => return done (.without ⟨false, false⟩ (← operand .operand))
    | some '}' => return done .value
    | some c =>
      if c = '%' || c = '#' then
        let longest ← accept c
        return done (.without ⟨c == '%', longest⟩ (← operand .operand))
      else
        let orEmpty := c == ':'
        let sign ← if orEmpty then take else pure (some c)
        match sign with
        | some '}' =>
          let more ← parts fuel context.inside false 0 []
          return .stop :: more ++ done .value
        | some '-' => return done (.instead orEmpty (← operand context.inside))
        | some '+' => return done (.alternative orEmpty (← operand context.inside))
        | some '=' => return done (.assign orEmpty (← operand context.inside))
        | some '?' => return done (.require orEmpty (← operand context.inside))
        | _ =>
          let _ ← operand context.inside
          return done .bad

/-- The next token as it stands in the script. -/
def rawToken : Nat → Bool → Parse Token
  | 0, _ => throw .unfinished
  | fuel + 1, forDelimiter => do
    match (← get).pushed with
    | some t =>
      modify fun r => { r with pushed := none }
      return t
    | none =>
      match ← peek with
      | none => return .ended
      | some c =>
        if c = ' ' || c = '\t' then
          let _ ← takeRaw
          rawToken fuel forDelimiter
        else if c = '#' then
          skipLine most
          rawToken fuel forDelimiter
        else if c = '\n' then
          let _ ← takeRaw
          return .newline
        else if c = '&' then
          let _ ← takeRaw
          doubled '&' .both .background
        else if c = '|' then
          let _ ← takeRaw
          doubled '|' .either .bar
        else if c = ';' then
          let _ ← takeRaw
          doubled ';' .endOfArm .semicolon
        else if c = '(' then
          let _ ← takeRaw
          return .opening
        else if c = ')' then
          let _ ← takeRaw
          return .closing
        else
          let context := if forDelimiter then Context.delimiter else .base
          let found ← parts fuel context false 0 []
          match ← peek, streamOf? found with
          | some c, some stream =>
            if c = '<' || c = '>' then
              let _ ← takeRaw
              arrow c stream
            else return .word (Word.ofParts found)
          | _, _ => return .word (Word.ofParts found)

/-- The next token that is wanted. -/
def token : Nat → Wanted → Parse Token
  | 0, _ => throw .unfinished
  | fuel + 1, wanted => do
    let _ ← takeBlank
    let t ← rawToken fuel false
    match t with
    | .newline =>
      if wanted.newlines then
        documents fuel
        token fuel wanted
      else return t
    | .word w =>
      let aliases := (← takeBlank) || wanted.aliases
      match w.plain? with
      | none => return t
      | some name =>
        if wanted.keywords && Token.keywords.contains (String.ofList name) then
          return .keyword (String.ofList name)
        else if aliases then
          match ← alias? name with
          | some value =>
            insert name value
            token fuel { wanted with aliases }
          | none => return t
        else return t
    | t => return t

/-- Read the documents that were announced. -/
def documents : Nat → Parse Unit
  | 0 => throw .unfinished
  | fuel + 1 => do
    match (← get).awaited with
    | [] => return
    | a :: more =>
      modify fun r => { r with awaited := more }
      modify fun r => { r with ending := some (a.delimiter, a.indented) }
      let body ← if a.quoted then plainDocument a.delimiter a.indented most true []
        else parts fuel (.document a.delimiter a.indented) true 0 []
      modify fun r => { r with ending := none, found := (a.number, Word.ofParts body) :: r.found }
      documents fuel

/-- Commands in a row. A list of a `top` level ends with its line; another one ends with a
token that may follow it, which may come at once if the list `mayBeEmpty`. -/
def list : Nat → Bool → Bool → Option Command → Parse (Option Command)
  | 0, _, _, _ => throw .unfinished
  | fuel + 1, top, mayBeEmpty, before => do
    let t ← token fuel { Wanted.words with newlines := !top }
    match t with
    | .newline =>
      documents fuel
      return before
    | .ended =>
      documents fuel
      push t
      return before
    | _ =>
      push t
      if !top && mayBeEmpty && t.endsList then return before
      else
        let c ← conditions fuel
        let t ← token fuel Wanted.nothing
        let c := match t, c with
          | .background, .redirected line body redirections => .background line body redirections
          | .background, .subshell line body redirections =>
            .background line (.subshell line body redirections) []
          | .background, c => .background 0 c []
          | _, c => c
        let before := then? before c
        match t with
        | .newline =>
          push t
          list fuel top true before
        | .ended =>
          push t
          list fuel top true before
        | .background => list fuel top true before
        | .semicolon => list fuel top true before
        | t =>
          if top then unexpected t none
          else
            push t
            return before

/-- Pipelines joined by conditions. -/
def conditions : Nat → Parse Command
  | 0 => throw .unfinished
  | fuel + 1 => do
    let first ← pipeline fuel Wanted.nothing
    moreConditions fuel first

def moreConditions : Nat → Command → Parse Command
  | 0, _ => throw .unfinished
  | fuel + 1, first => do
    match ← token fuel Wanted.nothing with
    | .both =>
      let second ← pipeline fuel Wanted.all
      moreConditions fuel (.both first second)
    | .either =>
      let second ← pipeline fuel Wanted.all
      moreConditions fuel (.either first second)
    | t =>
      push t
      return first

def pipeline : Nat → Wanted → Parse Command
  | 0, _ => throw .unfinished
  | fuel + 1, wanted => do
    match ← token fuel wanted with
    | .keyword "!" =>
      let first ← command fuel Wanted.words
      return .negated (← morePipes fuel first)
    | t =>
      push t
      let first ← command fuel Wanted.nothing
      morePipes fuel first

def morePipes : Nat → Command → Parse Command
  | 0, _ => throw .unfinished
  | fuel + 1, first => do
    match ← token fuel Wanted.nothing with
    | .bar =>
      let second ← command fuel Wanted.all
      let more ← morePipes fuel second
      return .pipe first more
    | t =>
      push t
      return first

/-- A list that must not be empty. -/
def block : Nat → Parse Command
  | 0 => throw .unfinished
  | fuel + 1 => do return (← list fuel false false none).getD .skip

/-- A keyword that must follow. -/
def expect : Nat → String → Parse Unit
  | 0, _ => throw .unfinished
  | fuel + 1, name => do
    match ← token fuel Wanted.nothing with
    | .keyword found =>
      if found = name then return
      else unexpected (.keyword found) (some (.keyword name))
    | t => unexpected t (some (.keyword name))

def command : Nat → Wanted → Parse Command
  | 0, _ => throw .unfinished
  | fuel + 1, wanted => do
    let start ← line
    match ← token fuel wanted with
    | .keyword "if" =>
      let c ← conditional fuel
      redirected fuel start c
    | .keyword "while" => loop fuel start true
    | .keyword "until" => loop fuel start false
    | .keyword "for" => each fuel start
    | .keyword "case" => choice fuel start
    | .opening =>
      let body ← block fuel
      match ← token fuel Wanted.nothing with
      | .closing =>
        let rs ← redirections fuel Wanted.words []
        return .subshell start body rs
      | t => unexpected t (some .closing)
    | .keyword "\x7b" =>
      let body ← block fuel
      expect fuel "\x7d"
      redirected fuel start body
    | .word w =>
      push (.word w)
      simple fuel
    | .redirection n a =>
      push (.redirection n a)
      simple fuel
    | t => unexpected t none

def conditional : Nat → Parse Command
  | 0 => throw .unfinished
  | fuel + 1 => do
    let test ← block fuel
    expect fuel "then"
    let yes ← block fuel
    match ← token fuel Wanted.nothing with
    | .keyword "elif" => return .conditional test yes (← conditional fuel)
    | .keyword "else" =>
      let no ← block fuel
      expect fuel "fi"
      return .conditional test yes no
    | .keyword "fi" => return .conditional test yes .skip
    | t => unexpected t (some (.keyword "fi"))

def loop : Nat → Nat → Bool → Parse Command
  | 0, _, _ => throw .unfinished
  | fuel + 1, start, wanted => do
    let test ← block fuel
    expect fuel "do"
    let body ← block fuel
    expect fuel "done"
    redirected fuel start (.loop wanted test body)

def each : Nat → Nat → Parse Command
  | 0, _ => throw .unfinished
  | fuel + 1, start => do
    let name ← match ← token fuel Wanted.nothing with
      | .word w =>
        match w.plain? with
        | some name => if isName name then pure name else refuse "Bad for loop variable"
        | none => refuse "Bad for loop variable"
      | _ => refuse "Bad for loop variable"
    let values ← match ← token fuel Wanted.all with
      | .keyword "in" => values fuel []
      | .semicolon => pure [everyArgument]
      | t => do
        push t
        pure [everyArgument]
    match ← token fuel Wanted.all with
    | .keyword "do" =>
      let body ← block fuel
      expect fuel "done"
      redirected fuel start (.each start name values body)
    | t => unexpected t (some (.keyword "do"))

def values : Nat → List Word → Parse (List Word)
  | 0, _ => throw .unfinished
  | fuel + 1, before => do
    match ← token fuel Wanted.nothing with
    | .word w => values fuel (w :: before)
    | .newline => return before.reverse
    | .semicolon => return before.reverse
    | t => unexpected t none

def choice : Nat → Nat → Parse Command
  | 0, _ => throw .unfinished
  | fuel + 1, start => do
    let subject ← match ← token fuel Wanted.nothing with
      | .word w => pure w
      | t => unexpected t (some (.word []))
    match ← token fuel Wanted.all with
    | .keyword "in" =>
      let found ← arms fuel []
      redirected fuel start (.choice start subject found)
    | t => unexpected t (some (.keyword "in"))

def arms : Nat → List (List Word × Command) → Parse (List (List Word × Command))
  | 0, _ => throw .unfinished
  | fuel + 1, before => do
    match ← token fuel Wanted.arms with
    | .keyword "esac" => return before.reverse
    | t =>
      let first ← match t with
        | .opening => token fuel Wanted.nothing
        | t => pure t
      let ps ← patterns fuel [first]
      let body ← list fuel false true none
      let before := (ps, body.getD .skip) :: before
      match ← token fuel Wanted.arms with
      | .keyword "esac" => return before.reverse
      | .endOfArm => arms fuel before
      | t => unexpected t (some .endOfArm)

def patterns : Nat → List Token → Parse (List Word)
  | 0, _ => throw .unfinished
  | fuel + 1, before => do
    match ← token fuel Wanted.nothing with
    | .bar =>
      let t ← token fuel Wanted.nothing
      patterns fuel (t :: before)
    | .closing =>
      return before.reverse.map fun t =>
        match t with
        | .word w => w
        | .keyword name => [.literal false name.toList]
        | _ => []
    | t => unexpected t (some .closing)

/-- A compound command with the redirections behind it. -/
def redirected : Nat → Nat → Command → Parse Command
  | 0, _, _ => throw .unfinished
  | fuel + 1, start, c => do
    let rs ← redirections fuel Wanted.words []
    return if rs.isEmpty then c else .redirected start c rs

def redirections : Nat → Wanted → List Redirection → Parse (List Redirection)
  | 0, _, _ => throw .unfinished
  | fuel + 1, wanted, before => do
    match ← token fuel wanted with
    | .redirection n a =>
      let target ← target fuel a
      redirections fuel Wanted.nothing ((n, target) :: before)
    | t =>
      push t
      return before.reverse

/-- The word behind the sign of a redirection. -/
def target : Nat → Arrow → Parse Target
  | 0, _ => throw .unfinished
  | fuel + 1, a => do
    let t ← match a with
      | .document _ => rawToken fuel true
      | _ => token fuel Wanted.nothing
    match t, a with
    | .word w, .file mode => return .file mode w
    | .word w, .copy => return copyTarget w
    | .word w, .document indented => await indented w
    | t, _ => unexpected t none

def simple : Nat → Parse Command
  | 0 => throw .unfinished
  | fuel + 1 => do
    let start ← line
    simpleFrom fuel start [] [] []

/-- A simple command; what was read of it is given in reverse order. -/
def simpleFrom : Nat → Nat → List (Text × Word) → List Word → List Redirection → Parse Command
  | 0, _, _, _, _ => throw .unfinished
  | fuel + 1, start, assignments, words, rs => do
    let wanted := if words.isEmpty then Wanted.names else Wanted.nothing
    match ← token fuel wanted with
    | .word w =>
      match if words.isEmpty then w.assignment? else none with
      | some a => simpleFrom fuel start (a :: assignments) words rs
      | none => simpleFrom fuel start assignments (w :: words) rs
    | .redirection n a =>
      let t ← target fuel a
      simpleFrom fuel start assignments words ((n, t) :: rs)
    | .opening =>
      match assignments, words, rs with
      | [], [w], [] =>
        match ← token fuel Wanted.nothing with
        | .closing =>
          match w.plain? with
          | some name =>
            if isName name && !specialBuiltins.contains (String.ofList name) then
              let start ← line
              return .define start name (← command fuel Wanted.all)
            else refuse "Bad function name"
          | none => refuse "Bad function name"
        | t => unexpected t (some .closing)
      | _, _, _ =>
        push .opening
        return .simple start assignments.reverse words.reverse rs.reverse
    | t =>
      push t
      return .simple start assignments.reverse words.reverse rs.reverse

end

/-- What was read of a script. -/
inductive Line
  | command (c : Command)
  | blank
  /-- Nothing follows. -/
  | ended

/-- A complete command. -/
def complete : Parse Line := do
  modify fun r => { r with pushed := none, awaited := [], documents := 0, found := [] }
  let found ← list most true false none
  match found, (← get).pushed with
  | some c, _ => return .command c
  | none, some _ => return .ended
  | none, none => return .blank

/-- How often a script with documents inside of documents is read. -/
def passes : Nat := 4

/-- A complete command with its documents. -/
def withDocuments : Nat → List (Nat × Word) → Reader → Except Stop (Line × Reader)
  | 0, known, r => complete { r with known }
  | n + 1, known, r =>
    match complete { r with known } with
    | .error e => .error e
    | .ok x => if x.2.found.isEmpty then .ok x else withDocuments n x.2.found r

end Grammar

namespace Reader

/-- Read one complete command. -/
def next (r : Reader) (aliases : List (Text × Text)) : Except Stop (Grammar.Line × Reader) :=
  Grammar.withDocuments Grammar.passes [] { r with aliases }

end Reader

end Exemplar.Shell
