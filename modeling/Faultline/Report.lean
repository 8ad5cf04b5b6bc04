import Faultline.Category
import Faultline.Cause
import Faultline.Desk
import Faultline.Table

/-!
# Reports

A report describes one occurrence of a failure together with everything that was
learned about it on its way up.

## Main definitions

* `Report` — the description.
* `Report.ofCause`, `Report.ofDetail`, `Report.ofNotes` — opening a report.
* `Report.addOperation`, `Report.addNote`, `Report.addNotes`, `Report.withMessage` — enriching it.
* `Report.asCause` — what a report says when it is taken as an error.
-/

namespace Faultline

/-- The description of one occurrence of a failure. -/
structure Report where
  /-- The mark of the occurrence. -/
  occurrence : Occurrence
  /-- A short summary for people; may be empty. -/
  message : String
  /-- What the cause says. -/
  detail : String
  /-- The operations that the failure passed through, the innermost first. -/
  operations : List String
  /-- The category, chosen when the report is opened. -/
  category : Option Category
  /-- Named remarks. -/
  notes : Table String
  /-- The cause, where one is known. -/
  cause : Option Cause

namespace Report

/-! ### Opening a report -/

/-- The detail of a cause that says nothing. -/
def unspecified : String := "unspecified error"

/-- A detail, or the one that stands for an empty one. -/
def specified (detail : String) : String := if detail.isEmpty then unspecified else detail

/-- A report without content. -/
def blank (occurrence : Occurrence) (category : Option Category) : Report where
  occurrence := occurrence
  message := ""
  detail := ""
  operations := []
  category := category
  notes := .empty
  cause := none

/-- Opens a report on a cause. -/
def ofCause (category : Category) (cause : Cause) : Work Report := do
  let occurrence ← newOccurrence
  return { blank occurrence (some category) with
    detail := specified cause.joined
    cause := some cause }

/-- Opens a report on something that is only known by a description. -/
def ofDetail (category : Category) (detail : String) : Work Report := do
  let occurrence ← newOccurrence
  return { blank occurrence (some category) with detail := specified detail }

/-- Opens a report whose notes say everything: it has neither category nor detail. -/
def ofNotes (message : String) (notes : Table String) : Work Report := do
  let occurrence ← newOccurrence
  return { blank occurrence none with message := message, notes := notes }

/-! ### Enriching a report -/

/-- The text of the category; empty when there is none. -/
def tag (r : Report) : String := (r.category.map Category.tag).getD ""

/-- The report with another message. -/
def withMessage (r : Report) (message : String) : Report := { r with message := message }

/-- The report after the failure passed through one more operation. -/
def addOperation (r : Report) (operation : String) : Report :=
  { r with operations := r.operations ++ [operation] }

/-- The report after the failure passed through more operations. -/
def addOperations (r : Report) (operations : List String) : Report :=
  operations.foldl addOperation r

/-- The report with a remark, which replaces the one of that name. -/
def addNote (r : Report) (key value : String) : Report :=
  { r with notes := r.notes.put key value }

/-- The report with remarks, a later one replacing an earlier one of its name. -/
def addNotes (r : Report) (entries : List (String × String)) : Report :=
  { r with notes := r.notes.putAll entries }

/-- What the report says when it is taken as an error: its detail, and then what the
cause says. -/
def asCause (r : Report) : Cause := ⟨r.detail, (r.cause.map Cause.lines).getD []⟩

/-! ### Laws -/

theorem addOperations_eq (r : Report) (operations : List String) :
    r.addOperations operations = { r with operations := r.operations ++ operations } := by
  induction operations generalizing r with
  | nil => simp [addOperations]
  | cons o os ih =>
    have : r.addOperations (o :: os) = (r.addOperation o).addOperations os := rfl
    rw [this, ih]
    simp [addOperation]

@[simp] theorem specified_ne_empty (detail : String) : specified detail ≠ "" := by
  unfold specified unspecified
  split
  · decide
  · rename_i h
    intro h'
    exact h (by simp [h'])

end Report

end Faultline
