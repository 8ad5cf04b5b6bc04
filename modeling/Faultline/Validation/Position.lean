import Faultline.Validation.Finding

/-!
# Positions

Where a field stands in nested data: the names of fields and the indices of list
items on the way to it, and the one text that stands for the way.

## Main definitions

* `Step`, `Position` — the way to a field.
* `Position.path` — the text of a position, such as `items[0].sku`.
-/

namespace Faultline.Validation

/-- One step into nested data. -/
inductive Step
  /-- To the field of a record. -/
  | name (s : String)
  /-- To the item of a list. -/
  | index (n : Nat)
  deriving DecidableEq, Repr

/-- The way to a field, from the outside in. -/
abbrev Position := List Step

/-- The text of a way that is one step longer.  Only a name needs a point in front, and
not at the very beginning. -/
def Step.extend (path : String) : Step → String
  | .name s => if path.isEmpty then s else path ++ "." ++ s
  | .index n => path ++ "[" ++ toString n ++ "]"

/-- The text of a position. -/
def Position.path (p : Position) : String := p.foldl Step.extend ""

@[simp] theorem Position.path_nil : Position.path [] = "" := rfl

theorem Position.path_concat (p : Position) (s : Step) :
    Position.path (p ++ [s]) = s.extend p.path := by
  simp [Position.path]

end Faultline.Validation
