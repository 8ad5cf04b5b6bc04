/-!
# Binary floating point in exact arithmetic

The finite magnitudes of the 64-bit binary floating-point format, as a natural
number times a power of two, and rounding a ratio of natural numbers to the
nearest of them.  Powers are written with `Nat.pow`, so that they do not depend on
which algebraic structures are known.

## Main definitions

* `Magnitude` — `mantissa * 2 ^ exponent`.
* `Magnitude.ofRatio?` — the magnitude nearest to a ratio, a half going to the
  even neighbour; `none` when it lies beyond the largest finite one.
* `Real64` — a finite value with its sign, an infinity, or no number at all.
-/

namespace Faultline.Decimal

/-- The finite magnitude `mantissa * 2 ^ exponent`.  Zero has mantissa `0`; any
other mantissa is below `2 ^ 53` and reaches `2 ^ 52` unless the exponent is the
least one. -/
structure Magnitude where
  /-- The integral factor. -/
  mantissa : Nat
  /-- The power of two that scales it. -/
  exponent : Int
  deriving DecidableEq, Repr, Inhabited

namespace Magnitude

/-- The least exponent of the format. -/
def minExponent : Int := -1074

/-- The greatest exponent of the format. -/
def maxExponent : Int := 971

/-- Zero. -/
def zero : Magnitude := ⟨0, minExponent⟩

/-- The magnitude is zero. -/
def isZero (x : Magnitude) : Bool := x.mantissa == 0

/-- The magnitude as a ratio: numerator and denominator. -/
def ratio (x : Magnitude) : Nat × Nat :=
  if 0 ≤ x.exponent then (x.mantissa * Nat.pow 2 x.exponent.toNat, 1)
  else (x.mantissa, Nat.pow 2 (-x.exponent).toNat)

end Magnitude

/-! ### Rounding -/

/-- The integer nearest to `num / den`; a half goes to the even neighbour. -/
def roundHalfEven (num den : Nat) : Nat :=
  let quotient := num / den
  let twice := 2 * (num % den)
  if twice < den then quotient
  else if den < twice then quotient + 1
  else quotient + quotient % 2

/-- `num / den` in units of `2 ^ q`, as a ratio again. -/
def inUnits (num den : Nat) (q : Int) : Nat × Nat :=
  if 0 ≤ q then (num, den * Nat.pow 2 q.toNat) else (num * Nat.pow 2 (-q).toNat, den)

namespace Magnitude

/-- The exponent with which the integral part of `num / den` has 53 bits, but not
below the least exponent. -/
def exponentFor (num den : Nat) : Int :=
  let guess : Int := (Nat.log2 num : Int) - (Nat.log2 den : Int) - 53
  let (n, d) := inUnits num den guess
  let exact := if n / d < Nat.pow 2 53 then guess else guess + 1
  max exact minExponent

/-- The magnitude nearest to `num / den`; a half goes to the even neighbour. -/
def ofRatio? (num den : Nat) : Option Magnitude :=
  if num = 0 then some zero
  else
    let q := exponentFor num den
    let (n, d) := inUnits num den q
    let m := roundHalfEven n d
    let (m, q) := if m = Nat.pow 2 53 then (Nat.pow 2 52, q + 1) else (m, q)
    if q ≤ maxExponent then some ⟨m, q⟩ else none

/-- The magnitude nearest to a natural number. -/
def ofNat? (n : Nat) : Option Magnitude := ofRatio? n 1

/-- The product, rounded. -/
def mul? (x y : Magnitude) : Option Magnitude :=
  ofRatio? (x.ratio.1 * y.ratio.1) (x.ratio.2 * y.ratio.2)

/-- The quotient, rounded; by a positive divisor. -/
def div? (x y : Magnitude) : Option Magnitude :=
  ofRatio? (x.ratio.1 * y.ratio.2) (x.ratio.2 * y.ratio.1)

end Magnitude

/-! ### Values -/

/-- A value of the format. -/
inductive Real64
  /-- A finite value; zero has a sign too. -/
  | finite (negative : Bool) (size : Magnitude)
  /-- An infinity. -/
  | infinite (negative : Bool)
  /-- The value that is no number. -/
  | notANumber
  deriving DecidableEq, Repr, Inhabited

end Faultline.Decimal
