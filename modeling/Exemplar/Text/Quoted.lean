import Exemplar.Text.Basic
import Exemplar.Text.Unprintable

/-!
# Texts in quotation marks

Quotation marks, backslashes and line breaks stand behind a backslash, and a character
that is not printed as it is stands by its number.
-/
namespace Exemplar.Text

/-- The letter that stands behind a backslash for a character. -/
def escapeLetter? (c : Char) : Option Char :=
  match c with
  | '\x00' => some '0'
  | '\t' => some 't'
  | '\r' => some 'r'
  | '\n' => some 'n'
  | '"' => some '"'
  | '\\' => some '\\'
  | _ => none

/-- A character as it stands inside of quotation marks. -/
def escaped (c : Char) : Text :=
  match escapeLetter? c with
  | some letter => ['\\', letter]
  | none =>
    if isUnprintable c then "\\u\x7b".toList ++ Nat.toDigits 16 c.toNat ++ ['}'] else [c]

def quoted (t : Text) : Text := '"' :: t.flatMap escaped ++ ['"']

end Exemplar.Text
