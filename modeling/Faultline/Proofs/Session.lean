import Faultline.Proofs.Passage
import Faultline.Validation.Refusal

/-!
# Sessions

A program that works on failures has reports, failures, stacks and outcomes at hand, and
makes more of them out of those.  In a session all that is done happens at one desk, one
piece of work after the other, and whatever was made stays at hand, as copies of it do.
Failures with which input was refused are remembered apart.

## Main definitions

* `Form.reports` — the reports within what is held, however deep.
* `Item` — what can be at hand.
* `Possible` — the work that can be done with what is at hand.
* `Session`, `Session.Step` — a session, and what happens next in it.
-/

namespace Faultline

variable {α : Type}

/-! ### Reports within -/

mutual

/-- The reports within a failure. -/
def Failure.reports : Failure → List Report
  | .reported r => [r]
  | .foreign s => s.reports

/-- The reports within a layer. -/
def Layer.reports : Layer → List Report
  | .text _ => []
  | .report r => [r]
  | .failure f => f.reports

/-- The reports within a stack, those of the outermost layer first. -/
def Stack.reports : Stack → List Report
  | .root base => base.reports
  | .over context below => context.reports ++ below.reports

end

/-- The reports within the failing side of an outcome. -/
def Outcome.reports : Outcome α → List Report
  | .ok _ => []
  | .error f => f.reports

namespace Form

/-- The reports within what is held. -/
def reports : (k : Form) → k.Held → List Report
  | report, r => [r]
  | failure, f => f.reports
  | stack, s => s.reports

/-- What is said by what is held. -/
def asCause : (k : Form) → k.Held → Cause
  | report, r => r.asCause
  | failure, f => f.asCause
  | stack, s => s.asCause

/-- The stack that is made by erasing what is held. -/
def erase : (k : Form) → k.Held → Stack
  | report, r => .root (.report r)
  | failure, f => f.erase
  | stack, s => s

end Form

/-! ### What is at hand -/

/-- What a program can have at hand. -/
inductive Item (α : Type)
  /-- Something held in one of the forms of a failure. -/
  | held (k : Form) (x : k.Held)
  /-- A value or a failure. -/
  | outcome (o : Outcome α)

namespace Item

/-- The reports within an item. -/
def reports : Item α → List Report
  | held k x => k.reports x
  | outcome o => o.reports

/-- Work whose result is held in a form, as work that makes an item. -/
def of (k : Form) (work : Work k.Held) : Work (Item α) := do return held k (← work)

end Item

/-- The work that can be done with what is at hand. -/
inductive Possible (items : List (Item α)) : Work (Item α) → Prop
  /-- An error comes from elsewhere; nothing but its texts can be seen. -/
  | receive (cause : Cause) : Possible items (Item.of .stack (return .ofCause cause))
  /-- An error of the operating system is converted. -/
  | convertSystem (e : Host.Error) : Possible items (Item.of .failure (Failure.ofSystem e))
  /-- Something succeeds. -/
  | succeed (a : α) : Possible items (return .outcome (.ok a))
  /-- A report is opened on a description. -/
  | describe (category : Category) (detail : String) :
      Possible items (Item.of .report (Report.ofDetail category detail))
  /-- A report is opened on a cause. -/
  | openReport {k : Form} {x : k.Held} (h : .held k x ∈ items) (category : Category) :
      Possible items (Item.of .report (Report.ofCause category (k.asCause x)))
  /-- A cause is classified. -/
  | classify {k : Form} {x : k.Held} (h : .held k x ∈ items) (category : Category) :
      Possible items (Item.of .failure (Failure.classify category (k.asCause x)))
  /-- A failure is made with everything that is known about it. -/
  | compose {k : Form} {x : k.Held} (h : .held k x ∈ items) (message : String)
      (category : Category) (notes : List (String × String)) (operations : List String) :
      Possible items
        (Item.of .failure (Failure.compose message (k.asCause x) category notes operations))
  /-- A report gets another message. -/
  | withMessage {r : Report} (h : .held .report r ∈ items) (message : String) :
      Possible items (Item.of .report (return r.withMessage message))
  /-- A report is enriched. -/
  | enrichReport {r : Report} (h : .held .report r ∈ items) (e : Enrichment) :
      Possible items (Item.of .report (return r.enrich e))
  /-- Remarks are added to a report. -/
  | addNotes {r : Report} (h : .held .report r ∈ items) (entries : List (String × String)) :
      Possible items (Item.of .report (return r.addNotes entries))
  /-- What is held is converted into a failure, and that is enriched. -/
  | enrich {k : Form} {x : k.Held} (h : .held k x ∈ items) (e : Enrichment) :
      Possible items (Item.of .failure ((k.toFailure x).enrich e))
  /-- Something fails. -/
  | fail {f : Failure} (h : .held .failure f ∈ items) : Possible items (return .outcome (.error f))
  /-- An outcome is enriched. -/
  | enrichOutcome {o : Outcome α} (h : .outcome o ∈ items) (e : Enrichment) :
      Possible items (do return .outcome (← o.enrich e))
  /-- An outcome is classified anew. -/
  | classifyOutcome {o : Outcome α} (h : .outcome o ∈ items) (category : Category) :
      Possible items (do return .outcome (← o.classify category))
  /-- A failure is taken out of an outcome. -/
  | takeFailure {f : Failure} (h : .outcome (.error f) ∈ items) :
      Possible items (Item.of .failure (return f))
  /-- What is held is erased. -/
  | erase {k : Form} {x : k.Held} (h : .held k x ∈ items) :
      Possible items (Item.of .stack (return k.erase x))
  /-- A text is put on a stack. -/
  | context {s : Stack} (h : .held .stack s ∈ items) (text : String) :
      Possible items (Item.of .stack (return .over (.text text) s))
  /-- A report is put on a stack. -/
  | contextReport {s : Stack} {r : Report} (h : .held .stack s ∈ items)
      (hr : .held .report r ∈ items) : Possible items (Item.of .stack (return .over (.report r) s))
  /-- A failure is put on a stack. -/
  | contextFailure {s : Stack} {f : Failure} (h : .held .stack s ∈ items)
      (hf : .held .failure f ∈ items) :
      Possible items (Item.of .stack (return .over (.failure f) s))
  /-- What is held is converted into a failure. -/
  | convert {k : Form} {x : k.Held} (h : .held k x ∈ items) :
      Possible items (Item.of .failure (return k.toFailure x))
  /-- A stack is made a foreign failure without looking for a report in it. -/
  | foreign {s : Stack} (h : .held .stack s ∈ items) :
      Possible items (Item.of .failure (return .foreign s))
  /-- The report of a failure is taken out, or opened. -/
  | takeReport {f : Failure} (h : .held .failure f ∈ items) :
      Possible items (Item.of .report f.toReport)
  /-- A report that shows a failure is made. -/
  | snapshot {f : Failure} (h : .held .failure f ∈ items) :
      Possible items (Item.of .report f.snapshot)

/-! ### Sessions -/

/-- What was done so far at a desk. -/
structure Session (α : Type) where
  /-- The desk. -/
  desk : Desk
  /-- What is at hand, the latest first. -/
  items : List (Item α)
  /-- The reports with which input was refused, as they were opened. -/
  refusals : List Report

namespace Session

/-- The session in which nothing was done yet. -/
def start (d : Desk) : Session α := ⟨d, [], []⟩

/-- The reports within what is at hand. -/
def reports (s : Session α) : List Report := s.items.flatMap Item.reports

/-- The session after work at its desk. -/
def after (s : Session α) (work : Work (Item α)) : Session α :=
  { s with desk := (work s.desk).2, items := (work s.desk).1 :: s.items }

/-- The session after input was refused. -/
def afterRefusal (s : Session α) (settings : Validation.Settings)
    (provider : Validation.Provider) (findings : List Validation.Finding) : Session α :=
  { s.after (Item.of .failure (settings.refuse provider findings)) with
    refusals := (settings.refuse provider findings s.desk).1.reports ++ s.refusals }

/-- What happens next in a session. -/
inductive Step : Session α → Session α → Prop
  /-- Something possible is done. -/
  | work {s : Session α} {w : Work (Item α)} (h : Possible s.items w) : Step s (s.after w)
  /-- Input is refused. -/
  | refuse (s : Session α) (settings : Validation.Settings) (provider : Validation.Provider)
      (findings : List Validation.Finding) : Step s (s.afterRefusal settings provider findings)
  /-- An outcome is dropped on purpose if it failed. -/
  | swallow {s : Session α} {o : Outcome α} (h : .outcome o ∈ s.items) (reason : String) :
      Step s { s with desk := (o.swallow reason s.desk).2 }

@[simp] theorem reports_start (d : Desk) : (start d : Session α).reports = [] := rfl

@[simp] theorem reports_after (s : Session α) (work : Work (Item α)) :
    (s.after work).reports = (work s.desk).1.reports ++ s.reports := rfl

end Session

end Faultline
