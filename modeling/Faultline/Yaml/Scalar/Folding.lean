import Faultline.Yaml.Mark

/-!
# Folding lines

How the lines of one plain or quoted scalar are put together: a line break between
them becomes a space, and further breaks stay.

## Main definitions

* `Folding` — text that is being put together.
* `Folding.join` — what lies between two words becomes text.
-/

namespace Faultline.Yaml

/-- Text that is being put together, line by line.  All texts are kept backwards. -/
structure Folding where
  /-- The text so far. -/
  text : List Char
  /-- Blanks that belong to the text if more text follows on the line. -/
  blanks : List Char
  /-- The first line break since the text, if it is kept. -/
  leading : List Char
  /-- The line breaks after the first one. -/
  trailing : List Char
  /-- A line break has been passed since the text. -/
  broken : Bool
  deriving Repr, Inhabited

namespace Folding

/-- Nothing so far. -/
def empty : Folding := ⟨[], [], [], [], false⟩

/-- A blank between words. -/
def addBlank (f : Folding) (c : Char) : Folding :=
  if f.broken then f else { f with blanks := c :: f.blanks }

/-- A line break between words. -/
def addBreak (f : Folding) (c : Char) : Folding :=
  if f.broken then { f with trailing := breakText c :: f.trailing }
  else { f with blanks := [], leading := [breakText c], broken := true }

/-- What a line break and the breaks after it become: a single line feed becomes a space,
further breaks stand for themselves. -/
def joint (leading trailing : List Char) : List Char :=
  if leading = ['\n'] then (if trailing.isEmpty then [' '] else trailing)
  else trailing ++ leading

/-- Puts what lies between the words into the text, because more text follows. -/
def join (f : Folding) : Folding :=
  if f.broken then ⟨joint f.leading f.trailing ++ f.text, [], [], [], false⟩
  else ⟨f.blanks ++ f.text, [], [], [], false⟩

/-- Adds a character to the text. -/
def add (f : Folding) (c : Char) : Folding := { f with text := c :: f.text }

/-- The text. -/
def result (f : Folding) : String := String.ofList f.text.reverse

end Folding

end Faultline.Yaml
