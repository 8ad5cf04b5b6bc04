import Faultline.Json.Numeral
import Faultline.Mismatch
import Faultline.Yaml.Node

/-!
# What a scalar is

A scalar that is written as it is may be a number, a truth value or nothing; its tag
may say what it is.  This is only asked when something else than a text was wanted.

## Main definitions

* `integer?`, `real?` — numbers.
* `plainKind` — what a scalar without tag is.
* `Scalar.kind` — what a scalar is, as something that was found.
-/

namespace Faultline.Yaml

open Decimal

/-! ### Words -/

/-- The words that stand for nothing. -/
def isNullWord (s : String) : Bool := ["null", "Null", "NULL", "~"].contains s

/-- The words for truth values. -/
def boolean? (s : String) : Option Bool :=
  if ["true", "True", "TRUE"].contains s then some true
  else if ["false", "False", "FALSE"].contains s then some false
  else none

/-! ### Whole numbers -/

/-- The value of a digit in a base up to sixteen. -/
def digitIn? (base : Nat) (c : Char) : Option Nat := (Text.hexValue? c).filter (· < base)

/-- The number that digits stand for; there must be at least one. -/
def natural? (base : Nat) (cs : List Char) : Option Nat :=
  if cs.isEmpty then none
  else cs.foldlM (fun n c => (digitIn? base c).map (n * base + ·)) 0

/-- Splits off the sign of a number. -/
def splitSign : List Char → Option Char × List Char
  | '+' :: r => (some '+', r)
  | '-' :: r => (some '-', r)
  | r => (none, r)

/-- Digits that begin with a zero and are more than one digit stand for a text. -/
def isPaddedDigits (cs : List Char) : Bool :=
  match (splitSign cs).2 with
  | '0' :: c :: r => (c :: r).all Char.isDigit
  | _ => false

/-- The number behind a sign: in base sixteen, eight or two behind the sign of the base,
else in base ten. -/
def unsigned? (padded : Bool) : List Char → Option Nat
  | '0' :: 'x' :: r => natural? 16 r
  | '0' :: 'o' :: r => natural? 8 r
  | '0' :: 'b' :: r => natural? 2 r
  | r => if padded then none else natural? 10 r

/-- The whole number that a text is, within the range of 128-bit words. -/
def integer? (s : String) : Option Int :=
  let cs := s.toList
  let padded := isPaddedDigits cs
  match splitSign cs with
  | (some '-', r) =>
    ((unsigned? padded r).filter (· ≤ Nat.pow 2 127)).map fun n => -(n : Int)
  | (_, r) => ((unsigned? padded r).filter (· < Nat.pow 2 128)).map fun n => (n : Int)

/-! ### Other numbers -/

/-- The least and the greatest place of a first digit for which a value can be neither zero
nor too large. -/
def placeRange : Int × Int := (-400, 400)

/-- The value of `digits * 10 ^ scale`; `none` when it is too large. -/
def decimal? (digits : Nat) (scale : Int) : Option Magnitude :=
  let place := scale + (Nat.toDigits 10 digits).length
  if digits = 0 || place < placeRange.1 then some .zero
  else if placeRange.2 < place then none
  else Magnitude.ofRatio? (digits * Nat.pow 10 scale.toNat) (Nat.pow 10 (-scale).toNat)

/-- The power of ten behind a number. -/
def exponent? : List Char → Option Int
  | [] => some 0
  | c :: r =>
    if c = 'e' ∨ c = 'E' then
      match splitSign r with
      | (some '-', r) => (natural? 10 r).map fun n => -(n : Int)
      | (_, r) => (natural? 10 r).map fun n => (n : Int)
    else none

/-- The magnitude that a text without sign is: digits with or without a point among them,
and a power of ten. -/
def magnitude? (cs : List Char) : Option Magnitude := do
  let whole := cs.takeWhile Char.isDigit
  let r := cs.dropWhile Char.isDigit
  let (fraction, r) := match r with
    | '.' :: r => (r.takeWhile Char.isDigit, r.dropWhile Char.isDigit)
    | r => ([], r)
  let digits ← natural? 10 (whole ++ fraction)
  let e ← exponent? r
  decimal? digits (e - fraction.length)

/-- The real number that a text is. -/
def real? (s : String) : Option Real64 :=
  let cs := s.toList
  let (sign, r) := splitSign cs
  if [".inf", ".Inf", ".INF"].contains (String.ofList r) then some (.infinite (sign = some '-'))
  else if [".nan", ".NaN", ".NAN"].contains s then some .notANumber
  else (magnitude? r).map (.finite (sign = some '-'))

/-! ### Scalars -/

/-- What a scalar without tag is that is written as it is. -/
def plainKind (s : String) : Found :=
  if s.isEmpty || isNullWord s then .null
  else
    match boolean? s, integer? s with
    | some b, _ => .boolean b
    | none, some n => .integer n
    | none, none =>
      if isPaddedDigits s.toList then .text s
      else match real? s with
        | some x => .real x
        | none => .text s

/-- The tag of what the standard calls by a name. -/
def standardTag (name : String) : Octets := octetsOf ("tag:yaml.org,2002:" ++ name)

/-- What a scalar with a tag of the standard is; `none` when the tag is not one of these.
A text that does not fit its tag is a mismatch of its own. -/
def taggedKind (tag : Octets) (s : String) : Option (Except Mismatch Found) :=
  let fits (wanted : String) (kind : Option Found) : Except Mismatch Found :=
    match kind with
    | some k => .ok k
    | none => .error (.value (.text s) wanted)
  if tag = standardTag "bool" then some (fits "a boolean" ((boolean? s).map .boolean))
  else if tag = standardTag "int" then some (fits "an integer" ((integer? s).map .integer))
  else if tag = standardTag "float" then some (fits "a float" ((real? s).map .real))
  else if tag = standardTag "null" then
    some (fits "null" (if isNullWord s then some .null else none))
  else none

/-- What a scalar is. -/
def Scalar.kind (s : Scalar) : Except Mismatch Found :=
  match s.tag with
  | none => .ok (if s.style = .plain then plainKind s.text else .text s.text)
  | some tag =>
    (taggedKind tag s.text).getD
      (.ok (if (octetsOf "!").isPrefixOf tag && s.style = .plain then plainKind s.text
        else .text s.text))

/-- The layout of real numbers: all places are written out, and halves go up. -/
def realLayout : Layout := ⟨none, none, .up⟩

/-- The words in which a mismatch in a YAML document is told. -/
def dialect : Dialect := ⟨"unit value", realLayout⟩

end Faultline.Yaml
