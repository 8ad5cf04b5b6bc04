import Faultline.Text.Hex
import Faultline.Yaml.Token

/-!
# Names, tags and directives

The words of a YAML text that consist of a sign and a name: anchors, aliases, tags,
and the declarations in front of a document.

## Main definitions

* `anchorName?` — the name behind the sign of an anchor or an alias.
* `tagWord?` — a tag.
* `directive?` — a declaration.
-/

namespace Faultline.Yaml

open Text

/-! ### Anchors -/

/-- What may follow the name of an anchor. -/
def endsAnchor : List Char → Bool
  | [] => true
  | c :: r =>
    isEnd (c :: r) || c == '?' || c == ':' || c == ',' || c == ']' || c == '}' || c == '%' ||
      c == '@' || c == '\x60'

/-- Reads the name behind the sign of an anchor or an alias. -/
def anchorName? (c : Cursor) : Option (String × Cursor) :=
  let (name, c) := (c.drop 1).span isNameChar
  if name.isEmpty || !endsAnchor c.rest then none else some (String.ofList name, c)

/-! ### Tags -/

/-- The characters of a tag that stand for themselves. -/
def isTagChar (c : Char) : Bool :=
  isNameChar c || [';', '/', '?', ':', '@', '&', '=', '+', '$', '.', '!', '~', '*', '\'', '(',
    ')'].contains c

/-- The marks that may stand in a tag between angle brackets only. -/
def isVerbatimChar (c : Char) : Bool := c == ',' || c == '[' || c == ']'

/-- How many octets of a character follow a first octet. -/
def followers? (n : Nat) : Option Nat :=
  if n < 0x80 then some 0
  else if 0xC0 ≤ n ∧ n < 0xE0 then some 1
  else if 0xE0 ≤ n ∧ n < 0xF0 then some 2
  else if 0xF0 ≤ n ∧ n < 0xF8 then some 3
  else none

/-- How many octets are missing behind an octet, when `missing` were before it. -/
def stillMissing? (missing n : Nat) : Option Nat :=
  if missing = 0 then followers? n
  else if 0x80 ≤ n ∧ n < 0xC0 then some (missing - 1)
  else none

/-- Reads the rest of a tag.  Octets may be written as numbers behind a percent sign;
`missing` of them are still needed for the character that has begun.  They are kept as
they are, even where a shorter form or no character at all exists.  Returns the octets and
how many characters were passed. -/
def tagOctets (verbatim : Bool) : (missing : Nat) → List Char → Option (Octets × Nat)
  | missing, '%' :: a :: b :: r => do
    let x ← hexValue? a
    let y ← hexValue? b
    let n := x * 16 + y
    let missing ← stillMissing? missing n
    let (os, width) ← tagOctets verbatim missing r
    return (n.toUInt8 :: os, width + 3)
  | missing, c :: r =>
    if missing ≠ 0 || c == '%' then none
    else if isTagChar c || (verbatim && isVerbatimChar c) then do
      let (os, width) ← tagOctets verbatim 0 r
      return (String.utf8EncodeChar c ++ os, width + 1)
    else some ([], 0)
  | missing, [] => if missing = 0 then some ([], 0) else none

/-- Reads the rest of a tag of which `head` has been read. -/
def tagRest? (verbatim : Bool) (head : List Char) (c : Cursor) : Option (Octets × Cursor) := do
  let (os, width) ← tagOctets verbatim 0 c.rest
  if head.isEmpty && width = 0 then none
  else return ((head.drop 1).flatMap String.utf8EncodeChar ++ os, c.drop width)

/-- The octets up to the first zero, where a name ends. -/
def untilZero (os : Octets) : Octets := os.takeWhile (· ≠ 0)

/-- Reads the short form of a tag: an exclamation mark, perhaps a name and another mark. -/
def tagHandle (c : Cursor) : List Char × Cursor :=
  let (name, c) := (c.drop 1).span isNameChar
  match c.rest with
  | '!' :: _ => ('!' :: name ++ ['!'], c.drop 1)
  | _ => ('!' :: name, c)

/-- A short form is complete when it ends with a second exclamation mark. -/
def isWholeHandle (handle : List Char) : Bool :=
  decide (1 < handle.length) && handle.getLast? == some '!'

/-- Reads a tag: between angle brackets, or with a short form.  Returns the short form
and the rest; a lone exclamation mark is a tag without short form. -/
def tagBody? (c : Cursor) : Option ((String × Octets) × Cursor) :=
  match c.rest with
  | '!' :: '<' :: _ => do
    let (os, c) ← tagRest? true [] (c.drop 2)
    match c.rest with
    | '>' :: _ => return (("", untilZero os), c.drop 1)
    | _ => none
  | _ => do
    let (handle, c) := tagHandle c
    if isWholeHandle handle then
      let (os, c) ← tagRest? false [] c
      return ((String.ofList handle, untilZero os), c)
    else
      let (os, c) ← tagRest? false handle c
      let suffix := untilZero os
      return (if suffix.isEmpty then ("", octetsOf "!") else ("!", suffix), c)

/-- Reads a tag, which a blank must follow, or a comma within brackets. -/
def tagWord? (flow : Bool) (c : Cursor) : Option ((String × Octets) × Cursor) := do
  let (tag, c) ← tagBody? c
  match c.rest with
  | ',' :: _ => if flow then return (tag, c) else none
  | r => if isEnd r then return (tag, c) else none

/-! ### Directives -/

/-- Reads a number of at most nine digits. -/
def versionNumber? (c : Cursor) : Option (Nat × Cursor) :=
  let (ds, c) := c.span fun x => '0' ≤ x && x ≤ '9'
  if ds.isEmpty || decide (9 < ds.length) then none
  else some (ds.foldl (fun n d => n * 10 + (d.toNat - '0'.toNat)) 0, c)

/-- Reads the version of the language. -/
def versionDirective? (c : Cursor) : Option (Symbol × Cursor) := do
  let (major, c) ← versionNumber? (c.skip isBlank)
  match c.rest with
  | '.' :: _ =>
    let (minor, c) ← versionNumber? (c.drop 1)
    return (.version major minor, c)
  | _ => none

/-- Reads the declaration of a short form for tags. -/
def tagDirective? (c : Cursor) : Option (Symbol × Cursor) := do
  let c := c.skip isBlank
  match c.rest with
  | '!' :: _ =>
    let (handle, c) := tagHandle c
    if handle ≠ ['!'] && !isWholeHandle handle then none
    else match c.rest with
      | b :: _ =>
        if isBlank b then
          let (os, c) ← tagRest? true [] (c.skip isBlank)
          if isEnd c.rest then return (.tagHandle (String.ofList handle) (untilZero os), c)
          else none
        else none
      | [] => none
  | _ => none

/-- Reads a declaration and the rest of its line. -/
def directive? (c : Cursor) : Option (Symbol × Cursor) := do
  let (name, c) := (c.drop 1).span isNameChar
  if name.isEmpty || !isEnd c.rest then none
  else
    let (symbol, c) ←
      if name = "YAML".toList then versionDirective? c
      else if name = "TAG".toList then tagDirective? c
      else none
    let c ← c.endLine?
    return (symbol, c)

end Faultline.Yaml
