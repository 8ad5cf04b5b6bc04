import Faultline.Text.Hex
import Faultline.Yaml.Scalar.Folding

/-!
# Quoted scalars

Scalars between quotes.  Between single quotes a quote is written twice; between
double quotes a backslash begins an escape, and at the end of a line it joins the
next line without a space.

## Main definitions

* `quotedScalar` — reads a quoted scalar.
-/

namespace Faultline.Yaml

/-! ### Escapes -/

/-- Where a quoted scalar is being read. -/
inductive QuotedPlace
  /-- Within a word. -/
  | word
  /-- Between words or lines. -/
  | between
  /-- Within an escape by number: how many digits are missing, and the number so far. -/
  | number (missing value : Nat)
  deriving DecidableEq, Repr

/-- What an escape between double quotes begins. -/
inductive Escape
  /-- It stands for a character. -/
  | char (c : Char)
  /-- It is followed by the hexadecimal digits of a character. -/
  | number (digits : Nat)

/-- What the letter of an escape means. -/
def escape? : Char → Option Escape
  | '0' => some (.char '\x00')
  | 'a' => some (.char '\x07')
  | 'b' => some (.char '\x08')
  | 't' => some (.char '\t')
  | '\t' => some (.char '\t')
  | 'n' => some (.char '\n')
  | 'v' => some (.char '\x0b')
  | 'f' => some (.char '\x0c')
  | 'r' => some (.char '\r')
  | 'e' => some (.char '\x1b')
  | ' ' => some (.char ' ')
  | '"' => some (.char '"')
  | '/' => some (.char '/')
  | '\\' => some (.char '\\')
  | 'N' => some (.char '\u0085')
  | '_' => some (.char '\u00a0')
  | 'L' => some (.char '\u2028')
  | 'P' => some (.char '\u2029')
  | 'x' => some (.number 2)
  | 'u' => some (.number 4)
  | 'U' => some (.number 8)
  | _ => none

/-- The character with a number, unless it is half of a pair or lies beyond the last one. -/
def charOf? (n : Nat) : Option Char :=
  if (0xD800 ≤ n ∧ n ≤ 0xDFFF) ∨ 0x10FFFF < n then none else some (Char.ofNat n)

/-! ### Reading -/

/-- Reads a quoted scalar from inside, up to its closing quote. -/
def quotedFrom (single : Bool) :
    Folding → QuotedPlace → Mark → List Char → Option (String × Cursor)
  | _, _, _, [] => none
  | f, .number missing value, m, c :: r =>
    match Text.hexValue? c with
    | none => none
    | some d =>
      let value := value * 16 + d
      if missing ≤ 1 then
        match charOf? value with
        | some x => quotedFrom single (f.add x) .word (m.next c) r
        | none => none
      else quotedFrom single f (.number (missing - 1) value) (m.next c) r
  | f, _, m, '\r' :: '\n' :: r =>
    quotedFrom single (f.addBreak '\n') .between (m.nextLine breakPair) r
  | f, place, m, c :: r =>
    if isBlank c then quotedFrom single (f.addBlank c) .between (m.next c) r
    else if isBreak c then quotedFrom single (f.addBreak c) .between (m.nextLine [c]) r
    else if place = .between && m.column == 0 && isDocumentMark (c :: r) then none
    else
      let f := f.join
      if single then
        if c == '\'' then
          match r with
          | '\'' :: r => quotedFrom single (f.add '\'') .word ((m.next c).next c) r
          | r => some (f.result, ⟨m.next c, r⟩)
        else quotedFrom single (f.add c) .word (m.next c) r
      else if c == '"' then some (f.result, ⟨m.next c, r⟩)
      else if c == '\\' then
        match r with
        | [] => none
        | '\r' :: '\n' :: r =>
          quotedFrom single { f with broken := true } .between ((m.next c).nextLine breakPair) r
        | e :: r =>
          if isBreak e then
            quotedFrom single { f with broken := true } .between ((m.next c).nextLine [e]) r
          else match escape? e with
            | none => none
            | some (.char x) => quotedFrom single (f.add x) .word (m.advance [c, e]) r
            | some (.number n) => quotedFrom single f (.number n 0) (m.advance [c, e]) r
      else quotedFrom single (f.add c) .word (m.next c) r

/-- Reads a quoted scalar, from its opening quote on. -/
def quotedScalar (single : Bool) (c : Cursor) : Option (String × Cursor) :=
  let c := c.drop 1
  quotedFrom single .empty .word c.mark c.rest

end Faultline.Yaml
