import Faultline.Yaml.Mark

/-!
# YAML tokens

The words of a YAML text, with the places where they stand.  Where blocks of lines
begin and end is a word of its own, told by indentation.

## Main definitions

* `Octets` — what tags are made of.
* `Symbol` — the words.
* `Token` — a word with its place.
-/

namespace Faultline.Yaml

/-- The octets of a tag, or of a part of one.  Some of them may have been given by number,
so they need not make up a text. -/
abbrev Octets := List UInt8

/-- The octets of a text in UTF-8. -/
def octetsOf (s : String) : Octets := s.toList.flatMap String.utf8EncodeChar

/-- How a scalar is written. -/
inductive Style
  /-- As it is. -/
  | plain
  /-- Between quotes, or as a block of lines. -/
  | marked
  deriving DecidableEq, Repr, Inhabited

/-- The words of a YAML text. -/
inductive Symbol
  /-- The version of the language is declared. -/
  | version (major minor : Nat)
  /-- A short form for tags is declared. -/
  | tagHandle (handle : String) (start : Octets)
  /-- Three hyphens. -/
  | documentStart
  /-- Three points. -/
  | documentEnd
  /-- A block of list items begins. -/
  | blockSequence
  /-- A block of named values begins. -/
  | blockMapping
  /-- A block ends. -/
  | blockEnd
  /-- An opening bracket. -/
  | flowSequence
  /-- A closing bracket. -/
  | flowSequenceEnd
  /-- An opening brace. -/
  | flowMapping
  /-- A closing brace. -/
  | flowMappingEnd
  /-- The hyphen before a list item. -/
  | entry
  /-- A comma. -/
  | separator
  /-- A key follows. -/
  | key
  /-- A value follows. -/
  | value
  /-- A reference to an anchor. -/
  | reference (name : String)
  /-- An anchor. -/
  | anchor (name : String)
  /-- A tag: its short form, if it has one, and the rest. -/
  | tag (handle : String) (suffix : Octets)
  /-- A scalar. -/
  | scalar (text : String) (style : Style)
  /-- The text ends. -/
  | streamEnd
  deriving DecidableEq, Repr, Inhabited

/-- A word with its place. -/
structure Token where
  /-- The word. -/
  symbol : Symbol
  /-- Where it begins. -/
  start : Mark
  /-- Where it ends; of scalars, tags and names only the beginning is kept. -/
  stop : Mark
  deriving DecidableEq, Repr, Inhabited

/-- A word of which only the beginning matters. -/
def Token.at (m : Mark) (symbol : Symbol) : Token := ⟨symbol, m, m⟩

end Faultline.Yaml
