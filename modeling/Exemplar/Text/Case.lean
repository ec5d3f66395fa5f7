import Exemplar.Text.Basic

/-!
# Lower case of names

Names that are compared without regard to case consist of ASCII letters. Apart from the
ASCII capitals, the Kelvin sign is the only character with an ASCII lower case.
-/
namespace Exemplar.Text

def lowerChar (c : Char) : Char := if c = '\u212a' then 'k' else c.toLower

def lower (t : Text) : Text := t.map lowerChar

end Exemplar.Text
