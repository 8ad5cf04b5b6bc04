import Faultline.Failure
import Faultline.Host.Error

/-!
# Enriching failures

A failure on its way up gains operations and notes.  Only a report can hold them,
so a foreign failure is given a report first, and a notice says so.

## Main definitions

* `Failure.toReport` — the report of a failure, opened if there is none.
* `Failure.snapshot` — a report that shows a failure, without touching it.
* `Failure.addOperation`, `Failure.addNote` — enrichment.
* `Failure.ofSystem` — the failure that an error of the operating system is.
* `Failure.compose` — a failure with everything that is known about it.
-/

namespace Faultline.Failure

/-- The report of a failure.  A foreign failure becomes an internal one, and a notice
says so. -/
def toReport : Failure → Work Report
  | reported r => return r
  | foreign s => do
    tell (.reclassified s.asCause.joined)
    Report.ofCause .internal s.asCause

/-- A report that shows a failure.  A foreign failure is shown by a fresh report on the
text of what it says. -/
def snapshot : Failure → Work Report
  | reported r => return r
  | foreign s => Report.ofDetail .internal s.asCause.joined

/-- The failure after it passed through one more operation. -/
def addOperation (f : Failure) (operation : String) : Work Failure := do
  let r ← f.toReport
  return .reported (r.addOperation operation)

/-- The failure with a remark. -/
def addNote (f : Failure) (key value : String) : Work Failure := do
  let r ← f.toReport
  return .reported (r.addNote key value)

/-- The failure that an error of the operating system is: something does not exist, or
something went wrong inside. -/
def ofSystem (e : Host.Error) : Work Failure := do
  let category := if e.kind = .notFound then Category.notFound else Category.internal
  let r ← Report.ofCause category e.cause
  return .reported r

/-- Opens a report on a cause. -/
def classify (category : Category) (cause : Cause) : Work Failure := do
  let r ← Report.ofCause category cause
  return .reported r

/-- Opens a report on something that is only known by a description. -/
def describe (category : Category) (detail : String) : Work Failure := do
  let r ← Report.ofDetail category detail
  return .reported r

/-- Opens a report on a cause, with everything that is known about it. -/
def compose (message : String) (cause : Cause) (category : Category)
    (notes : List (String × String)) (operations : List String) : Work Failure := do
  let r ← Report.ofCause category cause
  return .reported (((r.withMessage message).addNotes notes).addOperations operations)

/-- Drops a failure on purpose and leaves a notice of it. -/
def swallow (f : Failure) (reason : String) : Work Unit := do
  let r ← f.toReport
  tell (.swallowed r.occurrence.id r.tag r.detail r.operations reason)

end Faultline.Failure
