import Exemplar.Comment.Rule
import Exemplar.Text.Blank
import Exemplar.Text.Search

/-!
# The comments of a text

The scan finds the earliest opening, reads the comment that it begins and goes on
behind it. Each delimiter is searched for on its own, over occurrences that do not
overlap; of openings at one place the longest wins, then the one listed first. What the
comments are used for plays no part here.
-/
namespace Exemplar.Comment
open Text

/-- A place in a text, as far as openings depend on it. -/
structure Mark where
  offset : Nat
  line : Nat
  /-- Only spaces and tabs precede the place on its line. -/
  indented : Bool
  /-- Only white space precedes the place on its line. -/
  blank : Bool
  deriving DecidableEq, Repr

namespace Mark

def start : Mark := ⟨0, 1, true, true⟩

def next (m : Mark) (c : Char) : Mark :=
  if c = '\n' then ⟨m.offset + 1, m.line + 1, true, true⟩
  else ⟨m.offset + c.utf8Size, m.line, m.indented && (c == ' ' || c == '\t'), m.blank && isBlank c⟩

/-- The place behind a text that begins at the mark. -/
def pass (m : Mark) (t : Text) : Mark := t.foldl next m

@[simp] theorem pass_nil (m : Mark) : m.pass [] = m := rfl

@[simp] theorem pass_append (m : Mark) (s t : Text) : m.pass (s ++ t) = (m.pass s).pass t := by
  simp [pass, List.foldl_append]

theorem offset_next (m : Mark) (c : Char) : (m.next c).offset = m.offset + c.utf8Size := by
  unfold next
  split
  · rename_i h
    subst h
    rfl
  · rfl

@[simp] theorem offset_pass (m : Mark) (t : Text) : (m.pass t).offset = m.offset + byteSize t := by
  induction t generalizing m with
  | nil => rfl
  | cons c t ih =>
    have : m.pass (c :: t) = (m.next c).pass t := rfl
    rw [this, ih, offset_next, byteSize_cons, Nat.add_assoc]

@[simp] theorem line_pass (m : Mark) (t : Text) : (m.pass t).line = m.line + newlines t := by
  induction t generalizing m with
  | nil => rfl
  | cons c t ih =>
    have : m.pass (c :: t) = (m.next c).pass t := rfl
    rw [this, ih]
    by_cases hc : c = '\n'
    · simp [next, newlines, hc, Nat.add_comm, Nat.add_left_comm]
    · simp [next, newlines, hc]

end Mark

inductive Delimiter
  | block (form : BlockForm)
  | line (marker : Text)
  deriving DecidableEq, Repr

namespace Delimiter

def opener : Delimiter → Text
  | block form => form.opener
  | line marker => marker

/-- Whether an opener at the mark counts. -/
def opensAt (d : Delimiter) (m : Mark) : Bool :=
  match d with
  | block form => !form.opensLine || m.indented
  | line _ => true

end Delimiter

/-- The delimiters of a rule that can open a comment, in the order that settles ties. -/
def Rule.delimiters (rule : Rule) : List Delimiter :=
  let all := rule.blocks.map Delimiter.block ++ (rule.lineMarker.map Delimiter.line).toList
  all.filter fun d => !d.opener.isEmpty

/-- A place where a comment begins: the text passed over, and the text behind the opener. -/
structure Opening where
  delimiter : Delimiter
  skipped : Text
  after : Text
  deriving DecidableEq, Repr

/-- The first occurrence of an opener that counts. An occurrence that does not count is
passed over as a whole. -/
def seek (d : Delimiter) (m : Mark) (t : Text) : Option (Text × Text) :=
  match _h : breakOn d.opener t with
  | none => none
  | some (before, after) =>
    if d.opensAt (m.pass before) then some (before, after)
    else if _hd : d.opener = [] then none
    else
      (seek d ((m.pass before).pass d.opener) after).map fun found =>
        (before ++ d.opener ++ found.1, found.2)
termination_by t.length
decreasing_by
  have := breakOn_length _h
  have := List.length_pos_iff.2 _hd
  omega

namespace Opening

/-- Earlier, or at the same place and longer. -/
def beats (a b : Opening) : Bool :=
  a.skipped.length < b.skipped.length ||
    (a.skipped.length == b.skipped.length && b.delimiter.opener.length < a.delimiter.opener.length)

def better (best : Option Opening) (candidate : Opening) : Option Opening :=
  match best with
  | none => some candidate
  | some current => some (if candidate.beats current then candidate else current)

/-- The opening of a delimiter in the text that follows a mark. -/
def of? (m : Mark) (t : Text) (d : Delimiter) : Option Opening :=
  (seek d m t).map fun found => ⟨d, found.1, found.2⟩

/-- The opening that begins the next comment. -/
def next? (rule : Rule) (m : Mark) (t : Text) : Option Opening :=
  (rule.delimiters.filterMap (of? m t)).foldl better none

end Opening

/-- What kind of comment was read. -/
inductive Form
  | block (form : BlockForm) (closed : Bool)
  | run (marker : Text)
  deriving DecidableEq, Repr

/-- A comment as it stands in the text. The body of a block lies between its delimiters;
the body of a run of line comments is all of it, markers included. -/
structure Span where
  form : Form
  start : Nat
  line : Nat
  body : Text
  deriving DecidableEq, Repr

def untilBreak (t : Text) : Text := t.takeWhile (· != '\n')

def fromBreak (t : Text) : Text := t.dropWhile (· != '\n')

/-- The further lines of a run: those whose first text is the marker. -/
def moreLines (marker : Text) : Text → Text × Text
  | [] => ([], [])
  | c :: t =>
    if startsWith (trimStart (untilBreak t)) marker then
      let more := moreLines marker (fromBreak t)
      (c :: untilBreak t ++ more.1, more.2)
    else ([], c :: t)
termination_by t => t.length
decreasing_by
  have : (fromBreak t).length ≤ t.length := (List.dropWhile_sublist _).length_le
  simp only [List.length_cons]
  omega

/-- A comment read from the text, the place behind it and the text from there on. -/
structure Step where
  comment : Span
  mark : Mark
  rest : Text

/-- A block runs to its first closer, or to the end of the text. -/
def readBlock (form : BlockForm) (m : Mark) (after : Text) : Step :=
  let inside := m.pass form.opener
  match breakOn form.closer after with
  | some (body, rest) =>
    ⟨⟨.block form true, m.offset, m.line, body⟩, (inside.pass body).pass form.closer, rest⟩
  | none => ⟨⟨.block form false, m.offset, m.line, after⟩, inside.pass after, []⟩

/-- A line comment runs to the end of its line; one that is first on its line runs on
over the lines below that begin with the marker too. -/
def readRun (marker : Text) (m : Mark) (after : Text) : Step :=
  let t := marker ++ after
  let more := if m.blank then moreLines marker (fromBreak t) else ([], fromBreak t)
  let body := untilBreak t ++ more.1
  ⟨⟨.run marker, m.offset, m.line, body⟩, m.pass body, more.2⟩

/-- The next comment of the text that follows a mark. -/
def step (rule : Rule) (m : Mark) (t : Text) : Option Step :=
  (Opening.next? rule m t).map fun o =>
    let here := m.pass o.skipped
    match o.delimiter with
    | .block form => readBlock form here o.after
    | .line marker => readRun marker here o.after

/-- The comments of the text that follows a mark. A step that does not move forward
would be the last one. -/
def scanFrom (rule : Rule) (m : Mark) (t : Text) : List Span :=
  match step rule m t with
  | none => []
  | some s =>
    if s.rest.length < t.length then s.comment :: scanFrom rule s.mark s.rest else [s.comment]
termination_by t.length

/-- The comments of a text, in order. -/
def scan (rule : Rule) (t : Text) : List Span := scanFrom rule Mark.start t

end Exemplar.Comment
