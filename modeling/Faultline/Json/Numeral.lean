import Faultline.Decimal.Shortest

/-!
# JSON numerals

A numeral is a number as it stands in a text.  What number it is depends on the
width of the words that hold numbers: a whole numeral within 64 bits is an
integer, any other is a floating-point value.

## Main definitions

* `Numeral` — the parts of a number as written.
* `Numeral.render` — a numeral as text.
* `Numeral.number?` — the number that a numeral is, if it is in range.
* `Number.write` — the text of a number.
-/

namespace Faultline.Json

open Decimal

/-! ### Numbers as written -/

/-- A decimal digit. -/
abbrev Digit := Fin 10

/-- The character of a digit. -/
def Digit.char (d : Digit) : Char := Nat.digitChar d.val

/-- The digit that a character is. -/
def digit? (c : Char) : Option Digit :=
  if h : '0' ≤ c ∧ c ≤ '9' then
    some ⟨c.toNat - '0'.toNat, by
      have := h.2
      have : c.toNat ≤ 57 := this
      have : '0'.toNat = 48 := rfl
      omega⟩
  else none

/-- A number as written. -/
structure Numeral where
  /-- A minus stands in front. -/
  negative : Bool
  /-- The part before the point. -/
  whole : Nat
  /-- The digits after the point; there is no point when there are none. -/
  fraction : List Digit
  /-- The power of ten that is written behind. -/
  exponent : Option Int
  deriving DecidableEq, Repr, Inhabited

/-- The numeral of a natural number. -/
def Numeral.ofNat (n : Nat) : Numeral := ⟨false, n, [], none⟩

/-- The numeral of an integer. -/
def Numeral.ofInt (n : Int) : Numeral := ⟨n < 0, n.natAbs, [], none⟩

/-- A power of ten as it is written behind a numeral. -/
def renderExponent : Option Int → List Char
  | none => []
  | some e => 'e' :: (if e < 0 then ['-'] else []) ++ Nat.toDigits 10 e.natAbs

/-- The digits after the point, with the point. -/
def renderFraction : List Digit → List Char
  | [] => []
  | ds => '.' :: ds.map Digit.char

/-- A numeral as text. -/
def Numeral.render (n : Numeral) : List Char :=
  (if n.negative then ['-'] else []) ++ Nat.toDigits 10 n.whole ++
    renderFraction n.fraction ++ renderExponent n.exponent

/-! ### Numbers in range -/

/-- A number within the range of 64-bit words. -/
inductive Number
  /-- An integer. -/
  | integer (n : Int)
  /-- A finite floating-point value. -/
  | real (negative : Bool) (size : Magnitude)
  deriving DecidableEq, Repr, Inhabited

/-- The layout of floating-point values in JSON. -/
def realLayout : Layout := ⟨some (-5), some 15, .even⟩

/-- The text of a number. -/
def Number.write : Number → String
  | .integer n => toString n
  | .real negative size => realLayout.writeFinite negative size

/-- The first number that does not fit into 64 bits. -/
def wordLimit : Nat := Nat.pow 2 64

/-! ### From a numeral to a number -/

/-- Appends digits to a significand while it fits into 64 bits.  Returns it with the
number of digits that were used. -/
def absorb (significand : Nat) : List Digit → Nat × Nat
  | [] => (significand, 0)
  | d :: ds =>
    let next := significand * 10 + d.val
    if next < wordLimit then
      let (s, used) := absorb next ds
      (s, used + 1)
    else (significand, 0)

/-- The nearest floating-point value to a power of ten that is in range. -/
def tenTo (k : Nat) : Magnitude := (Magnitude.ofNat? (Nat.pow 10 k)).getD .zero

/-- The greatest power of ten that is in range. -/
def maxTenPower : Nat := 308

/-- Divides by the greatest power of ten in range, `n` times or until nothing is left. -/
def divideOften : Nat → Magnitude → Option Magnitude
  | 0, x => some x
  | n + 1, x =>
    if x.isZero then some x else (x.div? (tenTo maxTenPower)).bind (divideOften n)

/-- Divides by a power of ten, in steps that are in range. -/
def scaleDown (x : Magnitude) (k : Nat) : Option Magnitude :=
  let steps := (k - 1) / maxTenPower
  (divideOften steps x).bind fun y => y.div? (tenTo (k - steps * maxTenPower))

/-- Multiplies by a power of ten; `none` beyond the greatest finite value. -/
def scaleUp (x : Magnitude) (k : Nat) : Option Magnitude :=
  if k ≤ maxTenPower then x.mul? (tenTo k) else if x.isZero then some x else none

/-- The value of `significand * 10 ^ exponent`, the significand rounded first and the
product or quotient rounded again. -/
def scaled? (significand : Nat) (exponent : Int) : Option Magnitude :=
  (Magnitude.ofNat? significand).bind fun x =>
    if 0 ≤ exponent then scaleUp x exponent.toNat else scaleDown x (-exponent).toNat

/-- The greatest exponent that is read as a number. -/
def maxExponent : Int := Nat.pow 2 31 - 1

/-- The digits of a natural number. -/
def wholeDigits (n : Nat) : List Digit := (Nat.toDigits 10 n).filterMap digit?

/-- The number that a numeral is; `none` when it is beyond the greatest finite value. -/
def Numeral.number? (n : Numeral) : Option Number :=
  if n.fraction.isEmpty && n.exponent.isNone && decide (n.whole < wordLimit) &&
      (!n.negative || decide (0 < n.whole ∧ n.whole ≤ Nat.pow 2 63)) then
    some (.integer (if n.negative then -(n.whole : Int) else n.whole))
  else
    let digits := wholeDigits n.whole
    let (s, used) := absorb 0 digits
    let dropped := digits.length - used
    let (s, shifted) := absorb s n.fraction
    let written := n.exponent.getD 0
    let size :=
      -- Such an exponent leaves nothing of a value, or makes any value but zero too large.
      if maxExponent < written.natAbs then
        if s ≠ 0 ∧ 0 < written then none else some .zero
      else scaled? s (written + dropped - shifted)
    size.map (.real n.negative ·)

end Faultline.Json
