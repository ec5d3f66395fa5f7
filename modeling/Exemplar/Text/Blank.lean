import Exemplar.Text.Lines

/-!
# Blanks

White space is the property White_Space of the Unicode character database. Trimming
takes it from the ends of a text; the words of a text are its runs of other characters.
-/
namespace Exemplar.Text

/-- The characters with the property White_Space. -/
def isBlank (c : Char) : Bool :=
  let n := c.toNat
  (0x09 ≤ n && n ≤ 0x0D) || n == 0x20 || n == 0x85 || n == 0xA0 || n == 0x1680 ||
    (0x2000 ≤ n && n ≤ 0x200A) || n == 0x2028 || n == 0x2029 || n == 0x202F ||
    n == 0x205F || n == 0x3000

def allBlank (t : Text) : Bool := t.all isBlank

def trimStart (t : Text) : Text := t.dropWhile isBlank

/-- The blanks in front of a text. -/
def indent (t : Text) : Text := t.takeWhile isBlank

@[simp] theorem indent_append_trimStart (t : Text) : indent t ++ trimStart t = t :=
  List.takeWhile_append_dropWhile

/-- The text without the longest end whose characters all satisfy `p`. -/
def dropEnd (p : Char → Bool) : Text → Text
  | [] => []
  | c :: t =>
    match dropEnd p t with
    | [] => if p c then [] else [c]
    | d :: u => c :: d :: u

def trimEnd (t : Text) : Text := dropEnd isBlank t

def trim (t : Text) : Text := trimStart (trimEnd t)

/-- Only spaces and tabs. -/
def isIndentation (t : Text) : Bool := t.all fun c => c == ' ' || c == '\t'

/-- Runs of characters that are not blank. -/
def words (t : Text) : List Text := (splitBy isBlank t).filter (! ·.isEmpty)

end Exemplar.Text
