import Faultline.Text.Glyph
import Faultline.Text.Hex

/-!
# Quoted text

A text between double quotes, with everything that a reader could not see
written as an escape.

## Main definitions

* `escaped` — the characters that stand for one character between the quotes.
* `quoted` — a text between quotes.
* `quotedList` — a bracketed list of quoted texts.
-/

namespace Faultline.Text

/-- How one character is written between the quotes.  An apostrophe stands for itself,
since the quotes are double. -/
def escaped (c : Char) : List Char :=
  match c with
  | '\x00' => ['\\', '0']
  | '\t' => ['\\', 't']
  | '\r' => ['\\', 'r']
  | '\n' => ['\\', 'n']
  | '\\' => ['\\', '\\']
  | '"' => ['\\', '"']
  | c => if isHidden c then ['\\', 'u', '\x7b'] ++ hexDigits c.toNat ++ ['\x7d'] else [c]

/-- A text between double quotes. -/
def quoted (s : String) : String :=
  String.ofList ('"' :: s.toList.flatMap escaped ++ ['"'])

/-- A list of quoted texts between brackets. -/
def quotedList (xs : List String) : String :=
  "[" ++ ", ".intercalate (xs.map quoted) ++ "]"

end Faultline.Text
