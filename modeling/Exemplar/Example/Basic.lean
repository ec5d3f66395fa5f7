import Exemplar.Example.Options
import Exemplar.Prompt.Basic

/-!
# Examples

An example is a list of statement lines with the output that is expected of them, and
the place where it stands. It can be written back with the prompts of its language.
-/
namespace Exemplar

structure Example where
  language : String
  /-- Statement lines without their markers. -/
  statements : List Text
  /-- Expected lines without the indentation of the prompt. -/
  expected : List Text
  /-- Line of the primary prompt in the file. -/
  line : Nat
  /-- Blanks in front of the primary prompt. -/
  indent : Text
  options : Options
  deriving DecidableEq, Repr

namespace Example
open Text

/-- What is sent to the interpreter. -/
def source (e : Example) : Text := joinLines e.statements

def expectedText (e : Example) : Text := joinLines e.expected

/-- The last line of the example in the file. -/
def endLine (e : Example) : Nat := e.line + e.statements.length + e.expected.length - 1

/-- A further statement with its marker. The end of an empty one is trimmed. -/
def continuationLine (indent marker statement : Text) : Text :=
  let l := indent ++ marker ++ statement
  if statement = [] then trimEnd l else l

/-- The statements with their markers. -/
def promptLines (p : Prompt) (indent : Text) : List Text → List Text
  | [] => []
  | first :: more =>
    (indent ++ p.primary ++ first) :: more.map (continuationLine indent p.continuation)

/-- The example as it is written in a file. -/
def toSource (e : Example) (p : Prompt) : Text :=
  joinLines (promptLines p e.indent e.statements ++ e.expected.map (e.indent ++ ·))

end Example

end Exemplar
