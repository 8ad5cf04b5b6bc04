import Faultline.Yaml.Scalar.Folding

/-!
# Plain scalars

Scalars that are written as they are.  They end before a colon that is followed by a
blank, before a comment, before a line that is not indented enough, and within
brackets before the marks that mean something there.

## Main definitions

* `plainScalar` — reads a plain scalar.
-/

namespace Faultline.Yaml

/-- A plain scalar that was read. -/
structure PlainScalar where
  /-- Its text. -/
  text : String
  /-- Where the text after it begins. -/
  next : Cursor
  /-- A line break lies between the scalar and what follows. -/
  broken : Bool

/-- The characters that mean something by themselves within brackets. -/
def isFlowMark (c : Char) : Bool :=
  c == ',' || c == '[' || c == ']' || c == '{' || c == '}'

/-- A colon that must not stand here within brackets: one right before another mark. -/
def isStrayColon (flow : Bool) (c : Char) (r : List Char) : Bool :=
  flow && c == ':' && match r with
    | d :: _ => isFlowMark d || d == '?'
    | [] => false

/-- A plain scalar ends before this character. -/
def endsPlain (flow : Bool) (c : Char) (r : List Char) : Bool :=
  (c == ':' && isEnd r) || (flow && isFlowMark c)

/-- Reads a plain scalar from inside.  `between` tells that blanks or breaks have been
passed since the last word.  Below the column `indent` a line no longer belongs to it. -/
def plainFrom (flow : Bool) (indent : Int) :
    Folding → Bool → Mark → List Char → Option PlainScalar
  | f, _, m, [] => some ⟨f.result, ⟨m, []⟩, f.broken⟩
  | f, _, m, '\r' :: '\n' :: r =>
    plainFrom flow indent (f.addBreak '\n') true (m.nextLine breakPair) r
  | f, between, m, c :: r =>
    if isBlank c then
      if f.broken && c == '\t' && (m.column : Int) < indent then none
      else plainFrom flow indent (f.addBlank c) true (m.next c) r
    else if isBreak c then plainFrom flow indent (f.addBreak c) true (m.nextLine [c]) r
    else if between &&
        ((!flow && decide ((m.column : Int) < indent)) ||
          (m.column == 0 && isDocumentMark (c :: r)) || c == '#') then
      some ⟨f.result, ⟨m, c :: r⟩, f.broken⟩
    else if isStrayColon flow c r then none
    else if endsPlain flow c r then some ⟨f.result, ⟨m, c :: r⟩, f.broken⟩
    else plainFrom flow indent (f.join.add c) false (m.next c) r

/-- Reads a plain scalar. -/
def plainScalar (flow : Bool) (indent : Int) (c : Cursor) : Option PlainScalar :=
  plainFrom flow indent .empty false c.mark c.rest

end Faultline.Yaml
