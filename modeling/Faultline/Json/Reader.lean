import Faultline.Json.Value

/-!
# Reading JSON

Readers go over a text from left to right and return what follows.  The first
fault in the text is the answer, whether it is one of shape or one of form.

## Main definitions

* `readNumeral` — a number as written.
* `found` — what stands here, for a reader that wants something else.
* `skipValue` — goes over a value that is not wanted; only its form matters.
* `readValue` — reads a value of any shape.
* `readAll` — applies a reader to a whole document.
-/

namespace Faultline.Json

/-- A reader takes a text and returns a value with the rest of the text. -/
abbrev Reader (α : Type) := List Char → Except Fault (α × List Char)

/-- The characters that may stand between the parts of a document. -/
def isSpace (c : Char) : Bool := c == ' ' || c == '\n' || c == '\t' || c == '\r'

/-- Drops the spaces in front. -/
def skipSpace (cs : List Char) : List Char := cs.dropWhile isSpace

/-- Goes over the letters of a word. -/
def expectLetters : List Char → List Char → Except Fault (List Char)
  | [], cs => .ok cs
  | _ :: _, [] => .error .incomplete
  | w :: ws, c :: cs => if c = w then expectLetters ws cs else .error .malformed

/-! ### Numbers -/

/-- Splits off the digits in front. -/
def spanDigits : List Char → List Digit × List Char
  | [] => ([], [])
  | c :: cs =>
    match digit? c with
    | some d => let (ds, r) := spanDigits cs; (d :: ds, r)
    | none => ([], c :: cs)

/-- The number that digits stand for. -/
def digitsValue (ds : List Digit) : Nat := ds.foldl (fun n d => n * 10 + d.val) 0

/-- The fault of a number that ends before a digit that it needs. -/
def digitFault : List Char → Fault
  | [] => .incomplete
  | _ :: _ => .malformed

/-- Reads the part before the point: one zero, or digits that begin with another digit. -/
def readWhole : Reader Nat := fun cs =>
  match spanDigits cs with
  | ([], r) => .error (digitFault r)
  | (d :: ds, r) => if d = 0 ∧ ds ≠ [] then .error .malformed else .ok (digitsValue (d :: ds), r)

/-- Reads the point and the digits after it, if there is a point. -/
def readFraction : Reader (List Digit)
  | '.' :: cs =>
    match spanDigits cs with
    | ([], r) => .error (digitFault r)
    | (ds, r) => .ok (ds, r)
  | cs => .ok ([], cs)

/-- Splits off a sign: whether it is a minus, and the rest. -/
def spanSign : List Char → Bool × List Char
  | '-' :: cs => (true, cs)
  | '+' :: cs => (false, cs)
  | cs => (false, cs)

/-- Reads the power of ten, if there is one. -/
def readExponent : Reader (Option Int)
  | [] => .ok (none, [])
  | c :: cs =>
    if c = 'e' ∨ c = 'E' then
      let (negative, cs) := spanSign cs
      match spanDigits cs with
      | ([], r) => .error (digitFault r)
      | (ds, r) =>
        let e : Int := digitsValue ds
        .ok (some (if negative then -e else e), r)
    else .ok (none, c :: cs)

/-- Reads a number as written. -/
def readNumeral : Reader Numeral := fun cs => do
  let (negative, cs) := match cs with
    | '-' :: r => (true, r)
    | r => (false, r)
  let (whole, cs) ← readWhole cs
  let (fraction, cs) ← readFraction cs
  let (exponent, cs) ← readExponent cs
  return (⟨negative, whole, fraction, exponent⟩, cs)

/-- A number begins with this character. -/
def beginsNumeral (c : Char) : Bool := c == '-' || (digit? c).isSome

/-- A number as something that was found. -/
def Number.found : Number → Found
  | .integer n => .integer n
  | .real negative size => .real (.finite negative size)

/-! ### What stands here -/

/-- What stands at the front of a text.  Collections are named by their first
character, everything else is read to its end. -/
def found : List Char → Except Fault Found
  | [] => .error .incomplete
  | c :: cs =>
    match c with
    | '[' => .ok .sequence
    | '{' => .ok .mapping
    | '"' => do
      let (s, _) ← readText cs
      return .text (String.ofList s)
    | 'n' => do
      let _ ← expectLetters ['u', 'l', 'l'] cs
      return .null
    | 't' => do
      let _ ← expectLetters ['r', 'u', 'e'] cs
      return .boolean true
    | 'f' => do
      let _ ← expectLetters ['a', 'l', 's', 'e'] cs
      return .boolean false
    | c =>
      if beginsNumeral c then do
        let (n, _) ← readNumeral (c :: cs)
        match n.number? with
        | some x => return x.found
        | none => throw .malformed
      else throw .malformed

/-- Refuses what stands at the front of a text, because something else was wanted. -/
def refuse {α : Type} (wanted : String) (cs : List Char) : Except Fault α :=
  match found cs with
  | .ok f => .error (.mismatch (.kind f wanted))
  | .error e => .error e

/-- Reads a text; anything else is refused. -/
def wantText (wanted : String) : Reader String := fun cs =>
  match skipSpace cs with
  | '"' :: r => do
    let (s, r) ← readText r
    return (String.ofList s, r)
  | r => refuse wanted r

/-! ### Values that are not wanted -/

/-- The two kinds of collections. -/
inductive Bracket
  /-- A collection of values. -/
  | array
  /-- A collection of named values. -/
  | object
  deriving DecidableEq, Repr

/-- What comes next while a value is skipped. -/
inductive Awaited
  /-- A value. -/
  | value
  /-- A comma or the end of the innermost open collection. -/
  | separator
  deriving DecidableEq, Repr

/-- Goes over a member's name and the colon. -/
def skipName (cs : List Char) : Except Fault (List Char) :=
  match skipSpace cs with
  | [] => .error .incomplete
  | '"' :: r =>
    match skipText r with
    | .error e => .error e
    | .ok r =>
      match skipSpace r with
      | [] => .error .incomplete
      | ':' :: r => .ok r
      | _ => .error .malformed
  | _ => .error .malformed

/-- Goes over a value that is no collection.  A number that is cut short is malformed,
even at the end of the text. -/
def skipScalar : List Char → Except Fault (List Char)
  | [] => .error .incomplete
  | c :: cs =>
    match c with
    | '"' => skipText cs
    | 'n' => expectLetters ['u', 'l', 'l'] cs
    | 't' => expectLetters ['r', 'u', 'e'] cs
    | 'f' => expectLetters ['a', 'l', 's', 'e'] cs
    | c =>
      if beginsNumeral c then
        match readNumeral (c :: cs) with
        | .ok (_, r) => .ok r
        | .error _ => .error .malformed
      else .error .malformed

/-- Goes over a value, with the collections that are open around it, innermost first.
Every step but the last takes a character, so `fuel` is bounded by the text. -/
def skipSteps : Nat → Awaited → List Bracket → List Char → Except Fault (List Char)
  | 0, _, _, _ => .error .malformed
  | _ + 1, .separator, [], cs => .ok cs
  | fuel + 1, .separator, b :: around, cs =>
    match skipSpace cs, b with
    | [], _ => .error .incomplete
    | ']' :: r, .array => skipSteps fuel .separator around r
    | '}' :: r, .object => skipSteps fuel .separator around r
    | ',' :: r, .array => skipSteps fuel .value (.array :: around) r
    | ',' :: r, .object =>
      match skipName r with
      | .error e => .error e
      | .ok r => skipSteps fuel .value (.object :: around) r
    | _, _ => .error .malformed
  | fuel + 1, .value, around, cs =>
    match skipSpace cs with
    | '[' :: r =>
      match skipSpace r with
      | ']' :: r => skipSteps fuel .separator around r
      | r => skipSteps fuel .value (.array :: around) r
    | '{' :: r =>
      match skipSpace r with
      | '}' :: r => skipSteps fuel .separator around r
      | r =>
        match skipName r with
        | .error e => .error e
        | .ok r => skipSteps fuel .value (.object :: around) r
    | r =>
      match skipScalar r with
      | .error e => .error e
      | .ok r => skipSteps fuel .separator around r

/-- Goes over a value that is not wanted. -/
def skipValue (cs : List Char) : Except Fault (List Char) :=
  skipSteps (cs.length + 2) .value [] cs

/-! ### Values of any shape -/

mutual

/-- Reads a value of any shape. -/
def readValueWithin : Nat → Reader Value
  | 0, _ => .error .malformed
  | fuel + 1, cs =>
    match skipSpace cs with
    | [] => .error .incomplete
    | '[' :: r =>
      match skipSpace r with
      | ']' :: r => .ok (.array [], r)
      | r => do
        let (items, r) ← readItemsWithin fuel r
        return (.array items, r)
    | '{' :: r =>
      match skipSpace r with
      | '}' :: r => .ok (.object [], r)
      | r => do
        let (members, r) ← readMembersWithin fuel r
        return (.object members, r)
    | '"' :: r => do
      let (s, r) ← readText r
      return (.text (String.ofList s), r)
    | 'n' :: r => do
      let r ← expectLetters ['u', 'l', 'l'] r
      return (.null, r)
    | 't' :: r => do
      let r ← expectLetters ['r', 'u', 'e'] r
      return (.boolean true, r)
    | 'f' :: r => do
      let r ← expectLetters ['a', 'l', 's', 'e'] r
      return (.boolean false, r)
    | c :: r =>
      if beginsNumeral c then do
        let (n, r) ← readNumeral (c :: r)
        return (.number n, r)
      else .error .malformed

/-- Reads values up to the end of an array. -/
def readItemsWithin : Nat → Reader (List Value)
  | 0, _ => .error .malformed
  | fuel + 1, cs => do
    let (v, r) ← readValueWithin fuel cs
    match skipSpace r with
    | [] => throw .incomplete
    | ']' :: r => return ([v], r)
    | ',' :: r => do
      let (vs, r) ← readItemsWithin fuel r
      return (v :: vs, r)
    | _ => throw .malformed

/-- Reads named values up to the end of an object. -/
def readMembersWithin : Nat → Reader (List (String × Value))
  | 0, _ => .error .malformed
  | fuel + 1, cs =>
    match skipSpace cs with
    | [] => .error .incomplete
    | '"' :: r => do
      let (name, r) ← readText r
      match skipSpace r with
      | [] => throw .incomplete
      | ':' :: r => do
        let (v, r) ← readValueWithin fuel r
        match skipSpace r with
        | [] => throw .incomplete
        | '}' :: r => return ([(String.ofList name, v)], r)
        | ',' :: r => do
          let (ms, r) ← readMembersWithin fuel r
          return ((String.ofList name, v) :: ms, r)
        | _ => throw .malformed
      | _ => throw .malformed
    | _ => .error .malformed

end

/-- Reads a value of any shape. -/
def readValue : Reader Value := fun cs => readValueWithin (2 * cs.length + 2) cs

/-- Applies a reader to a whole document: only spaces may follow what it reads. -/
def readAll {α : Type} (reader : Reader α) (text : String) : Except Fault α := do
  let (x, r) ← reader text.toList
  match skipSpace r with
  | [] => return x
  | _ => throw .malformed

/-- The value that a text is. -/
def Value.ofText (text : String) : Except Fault Value := readAll readValue text

end Faultline.Json
