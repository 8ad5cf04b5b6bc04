import Faultline.Decimal.Binary

/-!
# Shortest decimal digits

The decimal text of a floating-point magnitude has the fewest digits that read
back as the same magnitude, and among those the ones nearest to it.  Two candidates
can be equally near; which one is taken is a choice of its own.

## Main definitions

* `Digits` — decimal digits with the place of the last.
* `TieRule` — which of two equally near candidates is taken.
* `Magnitude.shortest` — the shortest digits of a magnitude.
* `Layout.write` — digits as text, positional or scientific.
-/

namespace Faultline.Decimal

/-! ### The basin of a magnitude -/

/-- The interval of reals that round to a magnitude, in quarters of its unit. -/
structure Basin where
  /-- Four times the mantissa. -/
  centre : Nat
  /-- The lower end. -/
  lower : Nat
  /-- The upper end. -/
  upper : Nat
  /-- The ends round to the magnitude themselves. -/
  closed : Bool

/-- The basin of a magnitude.  Just below a power of two the grid is twice as
fine, so the lower half of the basin is half as wide. -/
def Magnitude.basin (x : Magnitude) : Basin :=
  let c := 4 * x.mantissa
  let narrow := x.mantissa = Nat.pow 2 52 ∧ Magnitude.minExponent < x.exponent
  ⟨c, if narrow then c - 1 else c - 2, c + 2, x.mantissa % 2 = 0⟩

/-- Compares `a * 2 ^ q` with `b * 10 ^ k`. -/
def compareScaled (a : Nat) (q : Int) (b : Nat) (k : Int) : Ordering :=
  compare (a * Nat.pow 2 q.toNat * Nat.pow 10 (-k).toNat)
    (b * Nat.pow 10 k.toNat * Nat.pow 2 (-q).toNat)

/-- The point `d * 10 ^ k` lies in the basin; `q` is the exponent of a quarter unit. -/
def Basin.holds (b : Basin) (q : Int) (d : Nat) (k : Int) : Bool :=
  let low := compareScaled b.lower q d k
  let high := compareScaled b.upper q d k
  (low == .lt || (b.closed && low == .eq)) && (high == .gt || (b.closed && high == .eq))

/-! ### The shortest digits -/

/-- Decimal digits: `value * 10 ^ scale`. -/
structure Digits where
  /-- The digits read as one number. -/
  value : Nat
  /-- The place of the last digit, as a power of ten. -/
  scale : Int
  deriving DecidableEq, Repr, Inhabited

/-- Which of two neighbours on a grid is taken for a value halfway between them. -/
inductive TieRule
  /-- The even one. -/
  | even
  /-- The greater one. -/
  | up
  deriving DecidableEq, Repr

/-- The neighbour that a rule takes, of `d` and `d + 1`. -/
def TieRule.pick (ties : TieRule) (d : Nat) : Nat :=
  match ties with
  | even => d + d % 2
  | up => d + 1

/-- Drops zeros from the end, at most `fuel` of them. -/
def Digits.strip : Nat → Digits → Digits
  | 0, d => d
  | fuel + 1, d =>
    if d.value ≠ 0 ∧ d.value % 10 = 0 then strip fuel ⟨d.value / 10, d.scale + 1⟩ else d

/-- The digits of a value on the grid `10 ^ k`, if one of its two neighbours there
rounds to it; of two such neighbours the nearer, of two equally near the one that the
rule takes. -/
def Magnitude.onGrid? (ties : TieRule) (x : Magnitude) (k : Int) : Option Nat :=
  let b := x.basin
  let q := x.exponent - 2
  let d := (b.centre * Nat.pow 2 q.toNat * Nat.pow 10 (-k).toNat) /
    (Nat.pow 10 k.toNat * Nat.pow 2 (-q).toNat)
  match b.holds q d k, b.holds q (d + 1) k with
  | true, true =>
    match compareScaled (2 * b.centre) q (2 * d + 1) k with
    | .lt => some d
    | .gt => some (d + 1)
    | .eq => some (ties.pick d)
  | true, false => some d
  | false, true => some (d + 1)
  | false, false => none

/-- Tries grids from coarse to fine: `k`, `k - 1`, and so on, `fuel` of them. -/
def Magnitude.firstGrid (ties : TieRule) (x : Magnitude) : Nat → Int → Digits
  | 0, k => ⟨0, k⟩
  | fuel + 1, k =>
    match x.onGrid? ties k with
    | some d => if d = 0 then firstGrid ties x fuel (k - 1) else ⟨d, k⟩
    | none => firstGrid ties x fuel (k - 1)

/-- The place of the first digit of a positive magnitude. -/
def Magnitude.leadingPlace (x : Magnitude) : Int :=
  let (n, d) := x.ratio
  if d ≤ n then ((Nat.toDigits 10 (n / d)).length : Int) - 1
  else -((Nat.toDigits 10 ((d + n - 1) / n)).length : Int)

/-- The fewest digits that read back as the magnitude, the nearest among those. -/
def Magnitude.shortest (ties : TieRule) (x : Magnitude) : Digits :=
  if x.isZero then ⟨0, 0⟩
  else
    -- Seventeen digits always read back, so twenty grids are enough.
    let d := x.firstGrid ties 20 (x.leadingPlace + 1)
    d.strip 20

/-! ### Layout -/

/-- How digits become text. -/
structure Layout where
  /-- The least place of the first digit for which zeros are written after the point;
  `none` when there is no such bound. -/
  lowest : Option Int
  /-- The greatest place of the first digit for which all places are written. -/
  highest : Option Int
  /-- Which of two equally near digits are taken. -/
  ties : TieRule
  deriving DecidableEq, Repr

/-- All places are written when the first digit stands at place `e`. -/
def Layout.positional (layout : Layout) (e : Int) : Bool :=
  layout.lowest.all (· ≤ e) && layout.highest.all (e ≤ ·)

/-- All places of a number written out, with at least one after the point. -/
def positionalText (ds : List Char) (scale : Int) : List Char :=
  if 0 ≤ scale then ds ++ List.replicate scale.toNat '0' ++ ['.', '0']
  else
    let places := (-scale).toNat
    if places < ds.length then
      ds.take (ds.length - places) ++ '.' :: ds.drop (ds.length - places)
    else '0' :: '.' :: List.replicate (places - ds.length) '0' ++ ds

/-- One digit before the point, the others after it, then the power of ten with its sign. -/
def scientificText (ds : List Char) (e : Int) : List Char :=
  let head := match ds with
    | [] => []
    | [d] => [d]
    | d :: rest => d :: '.' :: rest
  let power := Nat.toDigits 10 e.natAbs
  head ++ 'e' :: (if 0 ≤ e then '+' else '-') :: power

/-- The text of digits under a layout. -/
def Layout.write (layout : Layout) (d : Digits) : String :=
  let ds := Nat.toDigits 10 d.value
  let e : Int := d.scale + (ds.length : Int) - 1
  String.ofList (if layout.positional e then positionalText ds d.scale else scientificText ds e)

/-- The text of a finite value under a layout. -/
def Layout.writeFinite (layout : Layout) (negative : Bool) (x : Magnitude) : String :=
  (if negative then "-" else "") ++ layout.write (x.shortest layout.ties)

end Faultline.Decimal
