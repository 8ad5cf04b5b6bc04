import Faultline.Table

/-!
# Findings

A finding says that one field breaks one rule.

## Main definitions

* `Finding` — the path of the field, the rule, the rule's parameters and, perhaps, a
  message of its own.
* `Finding.field` — the field's own name.
* `Finding.plainMessage` — what can be said about a finding in no language in particular.
-/

namespace Faultline.Validation

/-- One field breaks one rule. -/
structure Finding where
  /-- Where the field is, such as `address.city` or `items[0].sku`. -/
  path : String
  /-- The name of the rule. -/
  rule : String
  /-- The parameters of the rule. -/
  params : Table String
  /-- A message that is used as it is. -/
  message : Option String

namespace Finding

/-- A finding about which nothing else is known. -/
def make (path rule : String) : Finding := ⟨path, rule, .empty, none⟩

/-- The finding with a parameter. -/
def withParam (f : Finding) (key value : String) : Finding :=
  { f with params := f.params.put key value }

/-- The finding with a message of its own. -/
def withMessage (f : Finding) (message : String) : Finding := { f with message := some message }

/-- The value of a parameter. -/
def param? (f : Finding) (key : String) : Option String := f.params.get? key

/-! ### The name of the field -/

/-- The characters after the last point. -/
def afterLastPoint (cs : List Char) : List Char :=
  (cs.reverse.takeWhile (· ≠ '.')).reverse

/-- The field's own name in a path: what follows the last point, without an index. -/
def fieldOf (path : String) : String :=
  String.ofList ((afterLastPoint path.toList).takeWhile (· ≠ '['))

/-- The field's own name. -/
def field (f : Finding) : String := fieldOf f.path

/-- What can be said about a finding in no language in particular. -/
def plainMessage (f : Finding) : String :=
  "field validation for '" ++ f.field ++ "' failed on the '" ++ f.rule ++ "' rule"

/-- Two findings say the same; the order in which parameters were given means nothing. -/
def same (f g : Finding) : Bool :=
  f.path == g.path && f.rule == g.rule && f.params.sorted == g.params.sorted &&
    f.message == g.message

end Finding

end Faultline.Validation
