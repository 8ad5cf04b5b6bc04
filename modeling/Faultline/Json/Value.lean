import Faultline.Json.Numeral
import Faultline.Json.Text
import Faultline.Table

/-!
# JSON values

A document as a tree, and its two written forms: as it is, and compact with the
members of every object in the order of their names.

## Main definitions

* `Value` — a document; numbers are kept as they were written.
* `Value.render`, `Value.write` — the text of a document.
* `Value.compact` — the text with sorted members and normal numbers.
-/

namespace Faultline.Json

/-- A document. -/
inductive Value
  /-- The value that stands for nothing. -/
  | null
  /-- A truth value. -/
  | boolean (b : Bool)
  /-- A number as written. -/
  | number (n : Numeral)
  /-- A text. -/
  | text (s : String)
  /-- Values in order. -/
  | array (items : List Value)
  /-- Named values in order; a name may occur more than once. -/
  | object (members : List (String × Value))
  deriving Repr, Inhabited

/-! ### The text of a document -/

/-- A truth value as text. -/
def renderBoolean (b : Bool) : List Char :=
  if b then ['t', 'r', 'u', 'e'] else ['f', 'a', 'l', 's', 'e']

/-- The value that stands for nothing as text. -/
def renderNull : List Char := ['n', 'u', 'l', 'l']

mutual

/-- The text of a document, without blanks. -/
def Value.render : Value → List Char
  | .null => renderNull
  | .boolean b => renderBoolean b
  | .number n => n.render
  | .text s => quoteChars s.toList
  | .array items => '[' :: renderItems items ++ [']']
  | .object members => '{' :: renderMembers members ++ ['}']

/-- Values with commas between them. -/
def renderItems : List Value → List Char
  | [] => []
  | [v] => v.render
  | v :: vs => v.render ++ ',' :: renderItems vs

/-- Named values with commas between them. -/
def renderMembers : List (String × Value) → List Char
  | [] => []
  | [(name, v)] => quoteChars name.toList ++ ':' :: v.render
  | (name, v) :: ms => quoteChars name.toList ++ ':' :: v.render ++ ',' :: renderMembers ms

end

/-- A document as a text. -/
def Value.write (v : Value) : String := String.ofList v.render

/-- An object whose members are texts. -/
def Value.texts (members : List (String × String)) : Value :=
  .object (members.map fun m => (m.1, .text m.2))

/-! ### The compact text -/

/-- The text of a number in normal form; one that is out of range stays as written. -/
def Numeral.compact (n : Numeral) : String :=
  match n.number? with
  | some x => x.write
  | none => String.ofList n.render

mutual

/-- The text of a document with the members of objects in the order of their names,
the last one of a name standing for all of them. -/
def Value.compact : Value → String
  | .null => "null"
  | .boolean b => if b then "true" else "false"
  | .number n => n.compact
  | .text s => quote s
  | .array items => "[" ++ ",".intercalate (compactItems items) ++ "]"
  | .object members =>
    let sorted := (Table.ofList (compactMembers members)).sorted
    "\x7b" ++ ",".intercalate (sorted.map fun m => quote m.1 ++ ":" ++ m.2) ++ "\x7d"

/-- The compact texts of values. -/
def compactItems : List Value → List String
  | [] => []
  | v :: vs => v.compact :: compactItems vs

/-- The names of members with the compact texts of their values. -/
def compactMembers : List (String × Value) → List (String × String)
  | [] => []
  | (name, v) :: ms => (name, v.compact) :: compactMembers ms

end

end Faultline.Json
