import Faultline.Json.Value
import Faultline.Validation.Position

/-!
# Reviews

A review of nested data says for every field what is wrong there, or what is wrong
further inside.  Flattened, it is a list of findings in the order of their paths.

## Main definitions

* `Complaint` — one broken rule at a field.
* `Review` — what is wrong in a record.
* `Review.complaints` — all complaints with their positions.
* `Review.findings` — all complaints as findings.
-/

namespace Faultline.Validation

/-- One broken rule at a field. -/
structure Complaint where
  /-- The name of the rule. -/
  rule : String
  /-- A message that is used as it is. -/
  message : Option String
  /-- The parameters of the rule, of any shape. -/
  params : List (String × Json.Value)

/-- What is wrong at a field or further inside. -/
inductive Verdict
  /-- The field itself breaks rules. -/
  | here (complaints : List Complaint)
  /-- The field is a record with something wrong inside. -/
  | inside (fields : List (String × Verdict))
  /-- The field is a list with something wrong inside some of its items. -/
  | items (items : List (Nat × List (String × Verdict)))

/-- What is wrong in a record, field by field. -/
abbrev Review := List (String × Verdict)

/-! ### Complaints -/

mutual

/-- All complaints of a verdict with their positions. -/
def Verdict.complaints (place : Position) : Verdict → List (Position × Complaint)
  | .here cs => cs.map fun c => (place, c)
  | .inside fields => fieldComplaints place fields
  | .items items => itemComplaints place items

/-- All complaints about the fields of a record. -/
def fieldComplaints (place : Position) : List (String × Verdict) → List (Position × Complaint)
  | [] => []
  | (name, v) :: rest => v.complaints (place ++ [.name name]) ++ fieldComplaints place rest

/-- All complaints about the items of a list. -/
def itemComplaints (place : Position) :
    List (Nat × List (String × Verdict)) → List (Position × Complaint)
  | [] => []
  | (n, fields) :: rest =>
    fieldComplaints (place ++ [.index n]) fields ++ itemComplaints place rest

end

/-! ### Findings -/

/-- The parameter that repeats the refused value; it is left out of findings. -/
def refusedValue : String := "value"

/-- A parameter as text: a text is itself, anything else its compact JSON form. -/
def paramText : Json.Value → String
  | .text s => s
  | v => v.compact

/-- A complaint as a finding. -/
def Complaint.finding (c : Complaint) (p : Position) : Finding where
  path := p.path
  rule := c.rule
  params := .ofList ((c.params.filter (·.1 ≠ refusedValue)).map fun e => (e.1, paramText e.2))
  message := c.message

namespace Review

/-- All complaints of a review with their positions. -/
def complaints (r : Review) : List (Position × Complaint) := fieldComplaints [] r

/-- All complaints as findings, in the order of their paths; those of one field stay in
their order. -/
def findings (r : Review) : List Finding :=
  (r.complaints.map fun e => e.2.finding e.1).mergeSort fun a b => decide (a.path ≤ b.path)

end Review

end Faultline.Validation
