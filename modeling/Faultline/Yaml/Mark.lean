/-!
# Places in a YAML text

The classes of characters that the grammar of YAML tells apart, and places in a
text.

## Main definitions

* `isBreak`, `isBlank`, `isEnd` — line breaks, blanks, and whatever ends a word.
* `Mark` — a place: how many octets lie before it, its line and its column.
* `Cursor` — a place together with the text that follows it.
-/

namespace Faultline.Yaml

/-! ### Characters -/

/-- Line breaks: carriage return, line feed, next line, line and paragraph separator. -/
def isBreak (c : Char) : Bool :=
  c == '\n' || c == '\r' || c == '\u0085' || c == '\u2028' || c == '\u2029'

/-- The break that is made of two characters. -/
def breakPair : List Char := ['\r', '\n']

/-- Blanks within a line. -/
def isBlank (c : Char) : Bool := c == ' ' || c == '\t'

/-- Characters that may stand in a YAML text at all. -/
def isAllowed (c : Char) : Bool :=
  let n := c.toNat
  n == 0x09 || n == 0x0A || n == 0x0D || (0x20 ≤ n && n ≤ 0x7E) || n == 0x85 ||
    (0xA0 ≤ n && n ≤ 0xD7FF) || (0xE000 ≤ n && n ≤ 0xFFFD) || 0x10000 ≤ n

/-- Characters of names: letters and digits of ASCII, the underscore and the hyphen. -/
def isNameChar (c : Char) : Bool :=
  ('0' ≤ c && c ≤ '9') || ('A' ≤ c && c ≤ 'Z') || ('a' ≤ c && c ≤ 'z') || c == '_' || c == '-'

/-- The text ends here, or a blank or a line break follows. -/
def isEnd : List Char → Bool
  | [] => true
  | c :: _ => isBlank c || isBreak c

/-- The text ends here, or a line break follows. -/
def isLineEnd : List Char → Bool
  | [] => true
  | c :: _ => isBreak c

/-- A line of three hyphens or three points begins here, alone or before a blank. -/
def isDocumentMark : List Char → Bool
  | '-' :: '-' :: '-' :: r => isEnd r
  | '.' :: '.' :: '.' :: r => isEnd r
  | _ => false

/-- What a line break stands for within a scalar: the breaks of ASCII and the next line
become a line feed, the separators stay. -/
def breakText (c : Char) : Char := if c == '\u2028' || c == '\u2029' then c else '\n'

/-! ### Places -/

/-- A place in a text. -/
structure Mark where
  /-- How many octets of UTF-8 lie before. -/
  index : Nat
  /-- How many lines lie before. -/
  line : Nat
  /-- How many characters of the line lie before. -/
  column : Nat
  deriving DecidableEq, Repr, Inhabited

namespace Mark

/-- The beginning of a text. -/
def start : Mark := ⟨0, 0, 0⟩

/-- The place behind a character that does not end the line. -/
def next (m : Mark) (c : Char) : Mark := ⟨m.index + c.utf8Size, m.line, m.column + 1⟩

/-- The place behind characters of the same line. -/
def advance (m : Mark) (cs : List Char) : Mark := cs.foldl next m

/-- The beginning of the next line, behind the characters of a break. -/
def nextLine (m : Mark) (cs : List Char) : Mark := ⟨(m.advance cs).index, m.line + 1, 0⟩

end Mark

/-- A place together with the text that follows it. -/
structure Cursor where
  /-- The place. -/
  mark : Mark
  /-- The text that follows. -/
  rest : List Char
  deriving DecidableEq, Repr, Inhabited

namespace Cursor

/-- Goes over characters of the same line. -/
def drop (c : Cursor) (n : Nat) : Cursor := ⟨c.mark.advance (c.rest.take n), c.rest.drop n⟩

/-- Splits off the characters that satisfy `p`; they must lie on one line. -/
def span (c : Cursor) (p : Char → Bool) : List Char × Cursor :=
  let taken := c.rest.takeWhile p
  (taken, ⟨c.mark.advance taken, c.rest.dropWhile p⟩)

/-- Goes over the characters that satisfy `p`; they must lie on one line. -/
def skip (c : Cursor) (p : Char → Bool) : Cursor := (c.span p).2

/-- Goes over a line break, if there is one. -/
def skipBreak (c : Cursor) : Cursor :=
  match c.rest with
  | '\r' :: '\n' :: r => ⟨c.mark.nextLine breakPair, r⟩
  | b :: r => if isBreak b then ⟨c.mark.nextLine [b], r⟩ else c
  | [] => c

/-- Goes over blanks, a comment and the line break, if nothing else stands on the line. -/
def endLine? (c : Cursor) : Option Cursor :=
  let c := c.skip isBlank
  let c := match c.rest with
    | '#' :: _ => c.skip fun x => !isBreak x
    | _ => c
  if isLineEnd c.rest then some c.skipBreak else none

end Cursor

end Faultline.Yaml
