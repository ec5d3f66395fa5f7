import Exemplar.Text.Basic

/-!
# Capture tags

A tag stands between angle brackets: three dots match anything, a name matches anything
and captures it. Texts are read from left to right as characters and tags, and values
can be pasted over the tags of a text.
-/
namespace Exemplar.Expected

inductive Tag
  | any
  | named (name : Text)
  deriving DecidableEq, Repr

namespace Tag

def dots : Text := ['.', '.', '.']

/-- What stands between the brackets. -/
def label : Tag → Text
  | any => dots
  | named name => name

def name? : Tag → Option Text
  | any => none
  | named name => some name

/-- The tag as it is written. -/
def text (t : Tag) : Text := '<' :: t.label ++ ['>']

def startsName (c : Char) : Bool := c.isAlpha || c == '_'

def continuesName (c : Char) : Bool := c.isAlphanum || c == '_' || c == '-'

/-- The tag whose opening bracket stands before the text, with what follows the tag. -/
def read? : Text → Option (Tag × Text)
  | '.' :: '.' :: '.' :: '>' :: rest => some (any, rest)
  | c :: t =>
    if startsName c then
      match t.dropWhile continuesName with
      | '>' :: rest => some (named (c :: t.takeWhile continuesName), rest)
      | _ => none
    else none
  | [] => none

theorem read?_length {t rest : Text} {tag : Tag} (h : read? t = some (tag, rest)) :
    rest.length < t.length := by
  unfold read? at h
  split at h
  · cases h
    simp only [List.length_cons]
    omega
  · rename_i c t _
    split at h
    · split at h
      · rename_i r hr
        cases h
        have := (List.dropWhile_sublist continuesName (l := t)).length_le
        rw [hr] at this
        simp only [List.length_cons] at this ⊢
        omega
      · cases h
    · cases h
  · cases h

end Tag

/-- A piece of a text in which tags are recognised. -/
inductive Token
  | char (c : Char)
  | tag (t : Tag)
  deriving DecidableEq, Repr

namespace Token

def text : Token → Text
  | char c => [c]
  | tag t => t.text

/-- The characters and tags of a text, leftmost tags first. -/
def scan : Text → List Token
  | [] => []
  | c :: t =>
    if c = '<' then
      match _h : Tag.read? t with
      | some (found, rest) => .tag found :: scan rest
      | none => .char c :: scan t
    else .char c :: scan t
termination_by t => t.length
decreasing_by
  · have := Tag.read?_length _h
    simp only [List.length_cons]
    omega
  · simp
  · simp

/-- The names of the tags, in order. -/
def names (tokens : List Token) : List Text :=
  tokens.filterMap fun
    | .tag t => t.name?
    | .char _ => none

end Token

/-- Captured values by name; a later capture stands before an earlier one. -/
abbrev Captures := List (Text × Text)

namespace Captures

def get? (captures : Captures) (name : Text) : Option Text :=
  (captures.find? fun entry => entry.1 == name).map Prod.snd

/-- Newer captures hide older ones of the same name. -/
def extend (newer older : Captures) : Captures := newer ++ older

end Captures

/-- The value of a tag, or the tag itself when nothing was captured under its label. -/
def Token.pasted (captures : Captures) : Token → Text
  | .char c => [c]
  | .tag t => (captures.get? t.label).getD t.text

/-- Replace every tag that has a value. Values are not searched for tags. -/
def pasteKnown (captures : Captures) (t : Text) : Text :=
  (Token.scan t).flatMap (Token.pasted captures)

/-- The first name in a text that has no value. -/
def missing? (captures : Captures) (t : Text) : Option Text :=
  (Token.names (Token.scan t)).find? fun name => (captures.get? name).isNone

/-- Replace every named tag; the first name without a value is the error. -/
def paste (captures : Captures) (t : Text) : Except Text Text :=
  match missing? captures t with
  | some name => .error name
  | none => .ok (pasteKnown captures t)

end Exemplar.Expected
