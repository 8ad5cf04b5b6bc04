import Faultline.Decimal.Shortest
import Faultline.Text.Quoted

/-!
# Mismatches of shape

A document may be well formed and still not have the shape that its reader
wants.  This module holds what a reader may find, how it can disagree with what
was wanted, and the wording of both.

## Main definitions

* `Found` — what stood where something else was wanted.
* `Mismatch` — the ways in which a document disagrees with a shape.
* `Dialect` — the words in which one document format names what was found.
* `Mismatch.message` — the text of a mismatch.
-/

namespace Faultline

open Decimal Text

/-- What stood where something else was wanted. -/
inductive Found
  /-- The value that stands for nothing. -/
  | null
  /-- A truth value. -/
  | boolean (b : Bool)
  /-- A whole number. -/
  | integer (n : Int)
  /-- A number with a fractional part or an exponent. -/
  | real (x : Real64)
  /-- A text. -/
  | text (s : String)
  /-- An ordered collection. -/
  | sequence
  /-- A keyed collection. -/
  | mapping
  /-- A variant name without content. -/
  | unitVariant
  deriving DecidableEq, Repr

/-- How a document disagrees with a shape. -/
inductive Mismatch
  /-- Something of another kind than wanted. -/
  | kind (found : Found) (wanted : String)
  /-- Something of the right kind with an impossible value. -/
  | value (found : Found) (wanted : String)
  /-- A member that must be there is not. -/
  | missing (member : String)
  /-- A member that may be there once is there again. -/
  | repeated (member : String)
  /-- A variant name that is none of the known ones. -/
  | unknownVariant (name : String) (known : List String)
  deriving DecidableEq, Repr

/-! ### Wording -/

/-- The words in which a document format names what was found. -/
structure Dialect where
  /-- The name of the value that stands for nothing. -/
  null : String
  /-- The text of a number that is not whole. -/
  layout : Layout
  deriving DecidableEq, Repr

/-- A text between backquotes. -/
def backquoted (s : String) : String := "\x60" ++ s ++ "\x60"

/-- The text of a real number; the values that are not finite have names. -/
def Dialect.real (dialect : Dialect) : Real64 → String
  | .finite negative x => dialect.layout.writeFinite negative x
  | .infinite negative => if negative then "-inf" else "inf"
  | .notANumber => "NaN"

/-- The text of a whole number.  One that no word of 64 bits holds is marked with
the width that holds it. -/
def integerText (n : Int) : String :=
  backquoted (toString n) ++
    (if Nat.pow 2 64 ≤ n then " as u128" else if n < -Nat.pow 2 63 then " as i128" else "")

/-- How a dialect names what was found. -/
def Dialect.describe (dialect : Dialect) : Found → String
  | .null => dialect.null
  | .boolean b => "boolean " ++ backquoted (if b then "true" else "false")
  | .integer n => "integer " ++ integerText n
  | .real x => "floating point " ++ backquoted (dialect.real x)
  | .text s => "string " ++ quoted s
  | .sequence => "sequence"
  | .mapping => "map"
  | .unitVariant => "unit variant"

/-- The names that were possible: two are joined by a conjunction, more are listed. -/
def alternatives : List String → String
  | [a] => backquoted a
  | [a, b] => backquoted a ++ " or " ++ backquoted b
  | names => "one of " ++ ", ".intercalate (names.map backquoted)

/-- The text of a mismatch in a dialect. -/
def Mismatch.message (dialect : Dialect) : Mismatch → String
  | .kind found wanted => "invalid type: " ++ dialect.describe found ++ ", expected " ++ wanted
  | .value found wanted => "invalid value: " ++ dialect.describe found ++ ", expected " ++ wanted
  | .missing member => "missing field " ++ backquoted member
  | .repeated member => "duplicate field " ++ backquoted member
  | .unknownVariant name known =>
    "unknown variant " ++ backquoted name ++ ", expected " ++ alternatives known

end Faultline
