import Exemplar.Expected.Normal
import Exemplar.Expected.Tag
import Exemplar.Example.Options

/-!
# Patterns of expected output

A pattern alternates between literal text and wildcards. Neighbouring tags make one
wildcard, which takes the first of their names, and no name may occur twice. A pattern
is rendered by writing captured values, or else the tags, between its literals.
-/
namespace Exemplar.Expected
open Text

/-- How output is compared. -/
structure Comparison where
  normWs : Bool
  /-- Tags are recognised; otherwise the expected text is literal. -/
  tags : Bool
  /-- A wildcard may match a line break. -/
  spanLines : Bool
  deriving DecidableEq, Repr

namespace Comparison

def standard : Comparison := ⟨false, true, true⟩

/-- Options that are unset leave the standard comparison as it is. -/
def ofOptions (o : Options) : Comparison where
  normWs := o.normWs.getD standard.normWs
  tags := o.tags.getD standard.tags
  spanLines := o.spanLines.getD standard.spanLines

end Comparison

inductive Segment
  | literal (t : Text)
  | wildcard (name : Option Text)
  deriving DecidableEq, Repr

namespace Segment

/-- Put a token in front of segments that are in normal form. -/
def push (token : Token) (segments : List Segment) : List Segment :=
  match token, segments with
  | .char c, .literal l :: rest => .literal (c :: l) :: rest
  | .char c, rest => .literal [c] :: rest
  | .tag t, .wildcard name :: rest => .wildcard (t.name? <|> name) :: rest
  | .tag t, rest => .wildcard t.name? :: rest

def ofTokens (tokens : List Token) : List Segment := tokens.foldr push []

def isWildcard : Segment → Bool
  | wildcard _ => true
  | literal _ => false

/-- The segment with its captured value, or else as it is written. -/
def render (captures : Captures) : Segment → Text
  | literal t => t
  | wildcard none => Tag.any.text
  | wildcard (some name) => (captures.get? name).getD (Tag.named name).text

end Segment

/-- The first name that has been seen before. -/
def repeated? (seen : List Text) : List Text → Option Text
  | [] => none
  | name :: rest => if name ∈ seen then some name else repeated? (name :: seen) rest

structure Pattern where
  segments : List Segment
  comparison : Comparison
  deriving DecidableEq, Repr

namespace Pattern

/-- A tag was used twice. -/
structure RepeatedTag where
  name : Text
  deriving DecidableEq, Repr

def RepeatedTag.message (e : RepeatedTag) : String :=
  s!"the capture tag <{String.ofList e.name}> is repeated"

/-- The pattern of a text in normal form. -/
def ofNormal (comparison : Comparison) (t : Text) : Except RepeatedTag Pattern :=
  if comparison.tags then
    let tokens := Token.scan t
    match repeated? [] (Token.names tokens) with
    | some name => .error ⟨name⟩
    | none => .ok ⟨Segment.ofTokens tokens, comparison⟩
  else .ok ⟨if t.isEmpty then [] else [.literal t], comparison⟩

/-- The pattern of expected lines. -/
def parse (comparison : Comparison) (expected : List Text) : Except RepeatedTag Pattern :=
  ofNormal comparison (normalize comparison.normWs (joinLines expected))

def isEmpty (p : Pattern) : Bool := p.segments.isEmpty

def hasWildcards (p : Pattern) : Bool := p.segments.any Segment.isWildcard

def render (p : Pattern) (captures : Captures) : Text :=
  p.segments.flatMap (Segment.render captures)

end Pattern

end Exemplar.Expected
