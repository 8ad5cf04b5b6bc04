import Faultline.Yaml.Mark

/-!
# Blocks of lines

Scalars as blocks of lines, which keep their line breaks or fold them.

## Main definitions

* `BlockHeader` — what the first line says about the block.
* `blockScalar` — reads a block of lines.
-/

namespace Faultline.Yaml

/-! ### The first line -/

/-- What becomes of the line breaks at the end of a block. -/
inductive Chomping
  /-- All go. -/
  | strip
  /-- The first one stays. -/
  | clip
  /-- All stay. -/
  | keep
  deriving DecidableEq, Repr

/-- How a block of lines is read. -/
structure BlockHeader where
  /-- The line breaks stay as they are. -/
  literal : Bool
  /-- What becomes of the breaks at the end. -/
  chomping : Chomping
  /-- The indentation of the lines, if it was given. -/
  indent : Option Nat
  deriving Repr

/-- The sign of a chomping rule. -/
def chomping? : Char → Option Chomping
  | '+' => some .keep
  | '-' => some .strip
  | _ => none

/-- A digit that gives an indentation; zero gives none. -/
def indentDigit? (c : Char) : Option Nat :=
  if '0' ≤ c ∧ c ≤ '9' then some (c.toNat - '0'.toNat) else none

/-- Reads the sign and the digit of a block header in either order, and the rest of its
line.  The digit counts from the indentation around the block. -/
def blockHeader? (literal : Bool) (around : Int) (c : Cursor) : Option (BlockHeader × Cursor) := do
  let base := around.toNat
  let header (chomping : Option Chomping) (digit : Option Nat) : BlockHeader :=
    ⟨literal, chomping.getD .clip, digit.map (base + ·)⟩
  let (h, digit, c) := match c.rest with
    | a :: b :: _ =>
      match chomping? a, indentDigit? a with
      | some ch, _ =>
        match indentDigit? b with
        | some d => (header (some ch) (some d), some d, c.drop 2)
        | none => (header (some ch) none, none, c.drop 1)
      | none, some d =>
        match chomping? b with
        | some ch => (header (some ch) (some d), some d, c.drop 2)
        | none => (header none (some d), some d, c.drop 1)
      | none, none => (header none none, none, c)
    | [a] =>
      match chomping? a, indentDigit? a with
      | some ch, _ => (header (some ch) none, none, c.drop 1)
      | none, some d => (header none (some d), some d, c.drop 1)
      | none, none => (header none none, none, c)
    | [] => (header none none, none, c)
  if digit = some 0 then none
  else
    let c ← c.endLine?
    return (h, c)

/-! ### The lines -/

/-- A block of lines that is being read.  All texts are kept backwards. -/
structure Block where
  /-- The text so far. -/
  text : List Char
  /-- The break after the last line of text. -/
  leading : List Char
  /-- The breaks of the empty lines since then. -/
  trailing : List Char
  /-- The last line of text began with a blank. -/
  wasBlank : Bool
  /-- The widest indentation so far, while it is not known which one counts. -/
  widest : Nat
  deriving Repr, Inhabited

namespace Block

/-- Nothing so far. -/
def empty : Block := ⟨[], [], [], false, 0⟩

/-- The text when a line begins with the character `c`.  A folded block turns a single
break between two lines into a space, unless one of them begins with a blank. -/
def beginLine (b : Block) (literal : Bool) (c : Char) : Block :=
  let folds := !literal && b.leading == ['\n'] && !b.wasBlank && !isBlank c
  let between := if folds then (if b.trailing.isEmpty then [' '] else []) else b.leading
  { b with
    text := c :: (b.trailing ++ between ++ b.text)
    leading := []
    trailing := []
    wasBlank := isBlank c }

/-- The text of the block when it ends here. -/
def result (b : Block) (chomping : Chomping) : String :=
  let tail := match chomping with
    | .strip => []
    | .clip => b.leading
    | .keep => b.trailing ++ b.leading
  String.ofList (tail ++ b.text).reverse

end Block

/-- The indentation of a block for which none was given: that of its first line of text
or of a wider empty one before it, but always deeper than what is around. -/
def foundIndent (around : Int) (widest : Nat) : Nat := max (max widest (around + 1).toNat) 1

/-- Reads a block of lines.  `inLine` tells whether the place is within a line of text or
before one; `indent` is the indentation of the lines, once it is known. -/
def blockFrom (literal : Bool) (chomping : Chomping) (around : Int) :
    Block → Option Nat → Bool → Mark → List Char → Option (String × Cursor)
  | b, _, _, m, [] => some (b.result chomping, ⟨m, []⟩)
  | b, indent, true, m, '\r' :: '\n' :: r =>
    blockFrom literal chomping around { b with leading := ['\n'] } indent false
      (m.nextLine breakPair) r
  | b, indent, true, m, c :: r =>
    if isBreak c then
      blockFrom literal chomping around { b with leading := [breakText c] } indent false
        (m.nextLine [c]) r
    else blockFrom literal chomping around { b with text := c :: b.text } indent true (m.next c) r
  | b, indent, false, m, '\r' :: '\n' :: r =>
    blockFrom literal chomping around
      { b with trailing := '\n' :: b.trailing, widest := max b.widest m.column } indent false
      (m.nextLine breakPair) r
  | b, indent, false, m, c :: r =>
    let outside := indent.all (m.column < ·)
    if outside && c == ' ' then blockFrom literal chomping around b indent false (m.next c) r
    else if outside && c == '\t' then none
    else if isBreak c then
      blockFrom literal chomping around
        { b with trailing := breakText c :: b.trailing, widest := max b.widest m.column } indent
        false (m.nextLine [c]) r
    else
      let width := indent.getD (foundIndent around (max b.widest m.column))
      if m.column = width then
        blockFrom literal chomping around (b.beginLine literal c) (some width) true (m.next c) r
      else some (b.result chomping, ⟨m, c :: r⟩)

/-- Reads a block of lines, from its sign on, within blocks of the indentation `around`. -/
def blockScalar (literal : Bool) (around : Int) (c : Cursor) : Option (String × Cursor) := do
  let (h, c) ← blockHeader? literal around (c.drop 1)
  blockFrom literal h.chomping around .empty h.indent false c.mark c.rest

end Faultline.Yaml
