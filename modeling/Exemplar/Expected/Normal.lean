import Exemplar.Text.Blank

/-!
# Normal form of output

Output is compared without the white space that ends its lines and without the empty
lines that end it. On request every run of white space counts as one space.
-/
namespace Exemplar.Expected
open Text

/-- Words with one space between neighbours. -/
def joinWords : List Text → Text
  | [] => []
  | [w] => w
  | w :: ws => w ++ ' ' :: joinWords ws

/-- The text without the breaks that end it. -/
def dropBreaks (t : Text) : Text := dropEnd (· == '\n') t

def normalizeLines (t : Text) : Text := dropBreaks (joinLines ((lines t).map trimEnd))

def normalize (words : Bool) (t : Text) : Text :=
  if words then joinWords (Text.words t) else normalizeLines t

end Exemplar.Expected
