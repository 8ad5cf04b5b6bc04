/-!
# Causes

What an error says: its own text, and the texts of the errors that led to it.

## Main definitions

* `Cause` — the texts, the outermost first.
* `Cause.joined` — all texts in one line.
* `Cause.dump` — the texts below each other.
-/

namespace Faultline

/-- What an error says. -/
structure Cause where
  /-- The text of the error itself. -/
  text : String
  /-- The texts of the errors that led to it, the nearest first. -/
  beneath : List String
  deriving DecidableEq, Repr, Inhabited

namespace Cause

/-- The cause that says one thing. -/
def ofText (text : String) : Cause := ⟨text, []⟩

/-- All texts, the outermost first. -/
def lines (c : Cause) : List String := c.text :: c.beneath

/-- All texts in one line. -/
def joined (c : Cause) : String := ": ".intercalate c.lines

/-- The cause whose texts are those of a list; an empty list says nothing. -/
def ofLines : List String → Cause
  | [] => ⟨"", []⟩
  | t :: ts => ⟨t, ts⟩

/-! ### The texts below each other -/

/-- Puts a mark before the first line of a text and a margin before the others. -/
def indent (mark margin text : String) : String :=
  mark ++ ("\n" ++ margin).intercalate (text.splitOn "\n")

/-- A number at the right end of five places. -/
def numberMark (n : Nat) : String :=
  let ds := toString n
  String.ofList (List.replicate (5 - ds.length) ' ') ++ ds ++ ": "

/-- Texts with their numbers in front. -/
def numbered (n : Nat) : List String → List String
  | [] => []
  | t :: ts => indent (numberMark n) "       " t :: numbered (n + 1) ts

/-- The texts that led to an error, each on lines of its own; several are numbered. -/
def beneathLines : List String → List String
  | [t] => [indent "    " "    " t]
  | ts => numbered 0 ts

/-- The texts below each other. -/
def dump (c : Cause) : String :=
  if c.beneath.isEmpty then c.text
  else c.text ++ "\n\nCaused by:\n" ++ "\n".intercalate (beneathLines c.beneath)

end Cause

end Faultline
