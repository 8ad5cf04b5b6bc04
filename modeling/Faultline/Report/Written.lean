import Faultline.Report

/-!
# Written reports

The two written forms of a report: the one for the outside, which shows five
members and hides the rest, and the one for those who look for the fault.

## Main definitions

* `Report.json` — the form for the outside.
* `Report.dump` — the form for those who look for the fault.
-/

namespace Faultline.Report

/-- The members that are shown to the outside, in their order. -/
def shown (r : Report) : List (String × String) :=
  [("id", r.occurrence.id), ("message", r.message), ("detail", r.detail), ("type", r.tag),
    ("timestamp", r.occurrence.timestamp)]

/-- The form for the outside. -/
def json (r : Report) : String := (Json.Value.texts r.shown).write

/-- A section of the dump with a title. -/
def paragraph (present : Bool) (title text : String) : String :=
  if present then "\n    " ++ title ++ text ++ "\n" else ""

/-- The notes of a dump, a line each, in the order of their names. -/
def noteLines (notes : Table String) : String :=
  String.join (notes.sorted.map fun e => "\n        " ++ e.1 ++ ": " ++ e.2)

/-- The form for those who look for the fault: a head line, and a section for everything
that is there. -/
def dump (r : Report) : String :=
  r.tag ++ " [" ++ r.occurrence.id ++ "] at " ++ r.occurrence.timestamp ++ "\n" ++
    paragraph (!r.message.isEmpty) "Message: " r.message ++
    paragraph (!r.detail.isEmpty) "Detail: " r.detail ++
    paragraph (!r.operations.isEmpty) "Operations: " (" -> ".intercalate r.operations) ++
    paragraph (!r.notes.isEmpty) "Meta:" (noteLines r.notes) ++
    paragraph r.cause.isSome "Source: " ((r.cause.map Cause.dump).getD "")

end Faultline.Report
