import Exemplar.Example.Basic
import Exemplar.Prompt.Table
import Exemplar.Log

/-!
# Reading examples

A reader stands before a line of a text. An example takes its prompt line, then the
lines that continue its statement, then the lines of expected output. A reader can be
asked for one item at a time and goes on behind a malformed example.
-/
namespace Exemplar

/-- The longest beginning on which `f` is defined, with the values of `f`, and the rest. -/
def takeMap {α β : Type} (f : α → Option β) : List α → List β × List α
  | [] => ([], [])
  | a :: as =>
    match f a with
    | some b => (b :: (takeMap f as).1, (takeMap f as).2)
    | none => ([], a :: as)

theorem takeMap_length {α β : Type} (f : α → Option β) (as : List α) :
    (takeMap f as).1.length + (takeMap f as).2.length = as.length := by
  induction as with
  | nil => rfl
  | cons a as ih =>
    simp only [takeMap]
    split
    · simp only [List.length_cons]; omega
    · simp

namespace Example
open Text Prompt

inductive Problem
  | emptyStatement (line : Nat) (language : String)
  | invalidOption (line : Nat) (option : Text)
  deriving DecidableEq, Repr

namespace Problem

def line : Problem → Nat
  | emptyStatement l _ => l
  | invalidOption l _ => l

def message : Problem → String
  | emptyStatement l _ => s!"line {l}: prompt without a statement"
  | invalidOption l option => s!"line {l}: invalid option `{String.ofList option}`"

/-- What the log says when the problem is met. -/
def records : Problem → List Log.Record
  | emptyStatement l language => [⟨.debug, s!"line {l}: `{language}` prompt without a statement"⟩]
  | invalidOption _ _ => []

end Problem

/-- A well-formed example, or why a prompt begins none. -/
abbrev Item := Except Problem Example

/-- The statement on a line that continues an example with this prompt and indentation. -/
def continuation? (table : Table) (p : Prompt) (indent l : Text) : Option Text :=
  if (table.primary? l).isSome then none
  else (stripPrefix? indent l).bind fun rest => p.stripContinuation? (trimStart rest)

/-- The expected output on a line below an example with this indentation. -/
def output? (table : Table) (indent l : Text) : Option Text :=
  if allBlank l || (table.primary? l).isSome then none else stripPrefix? indent l

/-- The item of a prompt line and the lines that belong to it. -/
def item (m : Table.Primary) (line : Nat) (more expected : List Text) : Item :=
  if allBlank m.statement then .error (.emptyStatement line m.prompt.language)
  else match Options.ofStatements (m.statement :: more) with
    | .error option => .error (.invalidOption line option)
    | .ok options =>
      .ok ⟨m.prompt.language, m.statement :: more, expected, line, m.indent, options⟩

/-- A place between two lines of a text. -/
structure Reader where
  table : Table
  /-- Number of the next line. -/
  line : Nat
  lines : List Text

namespace Reader

def ofText (table : Table) (firstLine : Nat) (t : Text) : Reader := ⟨table, firstLine, Text.lines t⟩

/-- The next item below a line, the number of the line behind it, and the lines there. -/
def nextFrom (table : Table) (line : Nat) : List Text → Option (Item × Nat × List Text)
  | [] => none
  | l :: ls =>
    match table.primary? l with
    | none => nextFrom table (line + 1) ls
    | some m =>
      let more := takeMap (continuation? table m.prompt m.indent) ls
      let out := takeMap (output? table m.indent) more.2
      some (item m line more.1 out.1, line + 1 + more.1.length + out.1.length, out.2)

theorem nextFrom_length {table : Table} {line line' : Nat} {ls ls' : List Text} {i : Item}
    (h : nextFrom table line ls = some (i, line', ls')) : ls'.length < ls.length := by
  induction ls generalizing line with
  | nil => simp [nextFrom] at h
  | cons l ls ih =>
    simp only [nextFrom] at h
    split at h
    · have := ih h
      simp only [List.length_cons]
      omega
    · rename_i m _
      cases h
      have h₁ := takeMap_length (continuation? table m.prompt m.indent) ls
      have h₂ := takeMap_length (output? table m.indent)
        (takeMap (continuation? table m.prompt m.indent) ls).2
      simp only [List.length_cons]
      omega

/-- The next item and the reader behind it. -/
def next? (r : Reader) : Option (Item × Reader) :=
  (nextFrom r.table r.line r.lines).map fun found =>
    (found.1, ⟨r.table, found.2.1, found.2.2⟩)

/-- The items below a line. -/
def itemsFrom (table : Table) (line : Nat) (ls : List Text) : List Item :=
  match _h : nextFrom table line ls with
  | none => []
  | some (i, line', ls') => i :: itemsFrom table line' ls'
termination_by ls.length
decreasing_by exact nextFrom_length _h

/-- All items that are left. -/
def items (r : Reader) : List Item := itemsFrom r.table r.line r.lines

end Reader

/-- The items of a text whose first line has the given number. -/
def parse (table : Table) (firstLine : Nat) (t : Text) : List Item :=
  (Reader.ofText table firstLine t).items

end Example

end Exemplar
