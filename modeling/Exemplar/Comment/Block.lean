import Exemplar.Comment.Scan
import Exemplar.Log

/-!
# Blocks that may hold examples

A block comment with nothing but white space in it opens a suppressed region, and the
next such comment closes it. The blocks of a text are its other comments outside of the
regions: block comments, and runs of line comments where the rule searches them.
-/
namespace Exemplar.Comment
open Text

namespace Span

/-- Where the body begins. -/
def bodyStart (c : Span) : Nat :=
  match c.form with
  | .block form _ => c.start + byteSize form.opener
  | .run _ => c.start

def bodyStop (c : Span) : Nat := c.bodyStart + byteSize c.body

/-- The end of the comment, closer included. -/
def stop (c : Span) : Nat :=
  match c.form with
  | .block form true => c.bodyStop + byteSize form.closer
  | _ => c.bodyStop

/-- A block comment that switches suppression. -/
def isSwitch (c : Span) : Bool :=
  match c.form with
  | .block _ _ => allBlank c.body
  | .run _ => false

/-- A comment that is searched for examples outside of suppressed regions. -/
def isCandidate (rule : Rule) (c : Span) : Bool :=
  match c.form with
  | .block _ _ => !allBlank c.body
  | .run _ => rule.searchable

end Span

def isDecoration (c : Char) : Bool := c == ' ' || c == '\t' || c == '*'

/-- Decoration that begins a line becomes one space. -/
def undecorateLine (l : Text) : Text :=
  match l with
  | [] => []
  | c :: t => if isDecoration c then ' ' :: t.dropWhile isDecoration else c :: t

def undecorate (t : Text) : Text := joinLines ((pieces t).map undecorateLine)

/-- The marker of a line comment, with the white space before it, becomes one space. -/
def unmarkLine (marker l : Text) : Text :=
  let trimmed := trimStart l
  ' ' :: (stripPrefix? marker trimmed).getD trimmed

def unmark (marker t : Text) : Text := joinLines ((pieces t).map (unmarkLine marker))

/-- A piece of a file in which examples are looked for. -/
structure Block where
  start : Nat
  stop : Nat
  bodyStart : Nat
  bodyStop : Nat
  line : Nat
  /-- The body as it stands in the file. -/
  raw : Text
  /-- The body without decoration, line by line. -/
  text : Text
  deriving DecidableEq, Repr

def Span.text (rule : Rule) (c : Span) : Text :=
  match c.form with
  | .block _ _ => if rule.decorated then undecorate c.body else c.body
  | .run marker => unmark marker c.body

def Span.toBlock (rule : Rule) (c : Span) : Block :=
  ⟨c.start, c.stop, c.bodyStart, c.bodyStop, c.line, c.body, c.text rule⟩

inductive Problem
  | unterminated (line : Nat) (opener : Text)
  | unclosedRegion (line : Nat)
  deriving DecidableEq, Repr

namespace Problem

def line : Problem → Nat
  | unterminated l _ => l
  | unclosedRegion l => l

def message : Problem → String
  | unterminated l opener =>
    s!"line {l}: comment opened with `{String.ofList opener}` is never closed; "
      ++ "it runs to the end of the file"
  | unclosedRegion l => s!"line {l}: the suppressed region opened here is never closed"

end Problem

/-- The line on which the suppressed region was opened, if there is one. -/
abbrev Region := Option Nat

def Region.after (region : Region) (c : Span) : Region :=
  if c.isSwitch then
    match region with
    | some _ => none
    | none => some c.line
  else region

/-- The region at the end of a list of comments. -/
def Region.afterAll (region : Region) (comments : List Span) : Region :=
  comments.foldl Region.after region

def Span.unterminated? (c : Span) : Option Problem :=
  match c.form with
  | .block form false => some (.unterminated c.line form.opener)
  | _ => none

/-- The candidates outside of suppressed regions. -/
def selected (rule : Rule) (region : Region) : List Span → List Span
  | [] => []
  | c :: cs =>
    if c.isCandidate rule ∧ region = none then c :: selected rule (region.after c) cs
    else selected rule (region.after c) cs

/-- What the log says about a comment. -/
def Span.records (region : Region) (c : Span) : List Log.Record :=
  let unclosed : List Log.Record := match c.form with
    | .block form false =>
      [⟨.warn, s!"line {c.line}: unterminated `{String.ofList form.opener}` comment, "
        ++ "reading to end of file"⟩]
    | _ => []
  let switched : List Log.Record :=
    if c.isSwitch then
      [⟨.debug, s!"line {c.line}: suppressed region "
        ++ if region.isSome then "closed" else "opened"⟩]
    else []
  unclosed ++ switched

def recordsFrom (region : Region) : List Span → List Log.Record
  | [] => match region with
    | some l => [⟨.warn, s!"line {l}: suppressed region runs to the end of the file"⟩]
    | none => []
  | c :: cs => c.records region ++ recordsFrom (region.after c) cs

/-- The blocks of a text, and what went wrong on the way. -/
structure Extraction where
  blocks : List Block
  problems : List Problem
  records : List Log.Record

def extractAll (t : Text) : Extraction :=
  if allBlank t then ⟨[], [], []⟩
  else ⟨[⟨0, byteSize t, 0, byteSize t, 1, t, t⟩], [], []⟩

def extract (rule : Rule) (t : Text) : Extraction :=
  if rule.wholeFile then extractAll t
  else
    let comments := scan rule t
    ⟨(selected rule none comments).map (Span.toBlock rule),
     comments.filterMap Span.unterminated? ++
       ((Region.afterAll none comments).map Problem.unclosedRegion).toList,
     recordsFrom none comments⟩

/-- The comments of a text that is not one comment as a whole are scanned. -/
theorem extract_scanned {rule : Rule} (h : rule.wholeFile = false) (t : Text) :
    extract rule t =
      ⟨(selected rule none (scan rule t)).map (Span.toBlock rule),
       (scan rule t).filterMap Span.unterminated? ++
         ((Region.afterAll none (scan rule t)).map Problem.unclosedRegion).toList,
       recordsFrom none (scan rule t)⟩ := by
  rw [extract, if_neg (by simp [h])]

end Exemplar.Comment
