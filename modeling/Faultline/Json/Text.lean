import Faultline.Mismatch
import Faultline.Text.Hex

/-!
# JSON texts

The text of a JSON string, from the character after the opening quote on, and
why a JSON document can be refused.

## Main definitions

* `Fault` — why a document was refused.
* `quote` — a text between quotes, with the escapes that JSON needs.
* `readText`, `skipText` — the two ways to go over a quoted text: one for its
  content, one only for its end.

## Main statements

* `readText_quote` — what was quoted is read again.
-/

namespace Faultline.Json

open Text

/-- Why a document was refused. -/
inductive Fault
  /-- It is well formed so far but has another shape than wanted. -/
  | mismatch (m : Mismatch)
  /-- It ends too early. -/
  | incomplete
  /-- No document begins like this. -/
  | malformed
  deriving DecidableEq, Repr

/-! ### Writing -/

/-- How one character is written between the quotes: a quote, a backslash and the
control characters are escaped, everything else stands for itself. -/
def escape (c : Char) : List Char :=
  match c with
  | '"' => ['\\', '"']
  | '\\' => ['\\', '\\']
  | '\x08' => ['\\', 'b']
  | '\t' => ['\\', 't']
  | '\n' => ['\\', 'n']
  | '\x0c' => ['\\', 'f']
  | '\r' => ['\\', 'r']
  | c => if c.toNat < 0x20 then '\\' :: 'u' :: hexQuad c.toNat else [c]

/-- The characters of a text between quotes. -/
def quoteChars (cs : List Char) : List Char := '"' :: cs.flatMap escape ++ ['"']

/-- A text between quotes. -/
def quote (s : String) : String := String.ofList (quoteChars s.toList)

/-! ### Reading -/

/-- The length of a text in UTF-8. -/
def octets (cs : List Char) : Nat := cs.foldr (fun c n => c.utf8Size + n) 0

/-- The first half of a pair that stands for one character. -/
def isHighHalf (n : Nat) : Bool := 0xD800 ≤ n && n ≤ 0xDBFF

/-- The second half of a pair that stands for one character. -/
def isLowHalf (n : Nat) : Bool := 0xDC00 ≤ n && n ≤ 0xDFFF

/-- The character that two halves stand for. -/
def joinHalves (high low : Nat) : Char :=
  Char.ofNat (0x10000 + (high - 0xD800) * 0x400 + (low - 0xDC00))

/-- The character of a one-letter escape. -/
def shortEscape? : Char → Option Char
  | '"' => some '"'
  | '\\' => some '\\'
  | '/' => some '/'
  | 'b' => some '\x08'
  | 'f' => some '\x0c'
  | 'n' => some '\n'
  | 'r' => some '\r'
  | 't' => some '\t'
  | _ => none

/-- Puts a character in front of the text that was read. -/
def ahead (c : Char) : Except Fault (List Char × List Char) → Except Fault (List Char × List Char)
  | .ok (cs, rest) => .ok (c :: cs, rest)
  | .error e => .error e

/-- The fault of an escape by number that is cut short: less than four octets are left,
or they are no digits. -/
def quadFault (cs : List Char) : Fault := if octets cs < 4 then .incomplete else .malformed

/-- Reads the content of a text up to its closing quote; what follows comes back too.
A character beyond the first plane is escaped as two halves, and neither half may
stand alone. -/
def readText : List Char → Except Fault (List Char × List Char)
  | [] => .error .incomplete
  | '"' :: r => .ok ([], r)
  | '\\' :: 'u' :: r =>
    match r with
    | a :: b :: c :: d :: r =>
      match quadValue? a b c d with
      | none => .error (quadFault (a :: b :: c :: d :: r))
      | some n =>
        if isLowHalf n then .error .malformed
        else if isHighHalf n then
          match r with
          | '\\' :: 'u' :: e :: f :: g :: h :: r =>
            match quadValue? e f g h with
            | none => .error (quadFault (e :: f :: g :: h :: r))
            | some m => if isLowHalf m then ahead (joinHalves n m) (readText r) else .error .malformed
          | '\\' :: 'u' :: r => .error (quadFault r)
          | [] => .error .incomplete
          | ['\\'] => .error .incomplete
          | _ => .error .malformed
        else ahead (Char.ofNat n) (readText r)
    | r => .error (quadFault r)
  | ['\\'] => .error .incomplete
  | '\\' :: c :: r =>
    match shortEscape? c with
    | some c => ahead c (readText r)
    | none => .error .malformed
  | c :: r => if c.toNat < 0x20 then .error .malformed else ahead c (readText r)

/-- Goes to the end of a text whose content is not wanted.  Halves of pairs are not
looked at. -/
def skipText : List Char → Except Fault (List Char)
  | [] => .error .incomplete
  | '"' :: r => .ok r
  | '\\' :: 'u' :: r =>
    match r with
    | a :: b :: c :: d :: r =>
      match quadValue? a b c d with
      | none => .error (quadFault (a :: b :: c :: d :: r))
      | some _ => skipText r
    | r => .error (quadFault r)
  | ['\\'] => .error .incomplete
  | '\\' :: c :: r => if (shortEscape? c).isSome then skipText r else .error .malformed
  | c :: r => if c.toNat < 0x20 then .error .malformed else skipText r

/-! ### What is quoted is read again -/

/-- A character that needs no escape is read as itself. -/
theorem readText_plain {c : Char} (h1 : c ≠ '"') (h2 : c ≠ '\\') (h3 : ¬ c.toNat < 0x20)
    (r : List Char) : readText (c :: r) = ahead c (readText r) := by
  rw [readText]
  · simp [h3]
  · intro h; exact absurd h h1
  · intro r h; exact absurd h h2
  · intro h; exact absurd h h2
  · intro c r h; exact absurd h h2

/-- A character that was escaped, or needed no escape, is read again. -/
theorem readText_escape (c : Char) (r : List Char) :
    readText (escape c ++ r) = ahead c (readText r) := by
  unfold escape
  split
  · simp [readText, shortEscape?]
  · simp [readText, shortEscape?]
  · simp [readText, shortEscape?]
  · simp [readText, shortEscape?]
  · simp [readText, shortEscape?]
  · simp [readText, shortEscape?]
  · simp [readText, shortEscape?]
  · rename_i h1 h2 _ _ _ _ _
    split
    · rename_i h
      have hq := quadValue?_hexQuad (show c.toNat < 65536 by omega)
      simp only [hexQuad, List.map, List.cons_append, List.nil_append]
      rw [readText]
      rw [hq]
      have hl : isLowHalf c.toNat = false := by simp [isLowHalf]; omega
      have hh : isHighHalf c.toNat = false := by simp [isHighHalf]; omega
      simp only [hl, hh]
      have : Char.ofNat c.toNat = c := Char.ofNat_toNat c
      simp [this]
    · rename_i h
      exact readText_plain h1 h2 h r

/-- What stands between the quotes of a text is read as that text. -/
theorem readText_quote (cs r : List Char) :
    readText (cs.flatMap escape ++ '"' :: r) = .ok (cs, r) := by
  induction cs with
  | nil => simp [readText]
  | cons c cs ih =>
    simp only [List.flatMap_cons, List.append_assoc, readText_escape, ih, ahead]

end Faultline.Json
