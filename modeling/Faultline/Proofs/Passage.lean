import Faultline.Outcome

/-!
# Passages

A failure on its way through a program is held as a report, as a failure or as a stack,
perhaps on the failing side of an outcome.  Each thing that is done to it on the way is a
move from one form to another, and a passage is a sequence of moves that fit together.

## Main definitions

* `Form`, `Form.Held` — the forms, and what is held in each.
* `Form.toFailure` — the failure that something held converts into.
* `Move`, `Move.act` — one thing that is done, and its effect on an outcome.
* `Passage`, `Passage.act` — moves one after the other.

## Main results

* `Move.act_ok`, `Passage.act_ok` — a value passes untouched, and nothing is noticed.
* `Passage.act_append` — a passage is as good as its two parts.
-/

namespace Faultline

/-- The forms in which a failure is held on its way. -/
inductive Form
  /-- A report. -/
  | report
  /-- A failure, foreign or with a report. -/
  | failure
  /-- An erased error with the contexts on it. -/
  | stack
  deriving DecidableEq, Repr

namespace Form

/-- What is held in a form. -/
abbrev Held : Form → Type
  | report => Report
  | failure => Failure
  | stack => Stack

/-- The failure that something held converts into. -/
def toFailure : (k : Form) → k.Held → Failure
  | report, r => .reported r
  | failure, f => f
  | stack, s => s.recover

end Form

/-! ### Enrichment -/

/-- What can be learned about a failure on its way. -/
inductive Enrichment
  /-- An operation that it passed through. -/
  | operation (name : String)
  /-- A remark. -/
  | note (key value : String)
  deriving DecidableEq, Repr

/-- The report with what was learned. -/
def Report.enrich (r : Report) : Enrichment → Report
  | .operation name => r.addOperation name
  | .note key value => r.addNote key value

/-- The failure with what was learned. -/
def Failure.enrich (f : Failure) : Enrichment → Work Failure
  | .operation name => f.addOperation name
  | .note key value => f.addNote key value

/-- To enrich a failure is to enrich its report, which may be opened for that. -/
theorem Failure.enrich_apply (f : Failure) (e : Enrichment) (d : Desk) :
    f.enrich e d = (.reported ((f.toReport d).1.enrich e), (f.toReport d).2) := by
  cases e <;> rfl

/-- The outcome with what was learned about its failure. -/
def Outcome.enrich {α : Type} (o : Outcome α) : Enrichment → Work (Outcome α)
  | .operation name => o.addOperation name
  | .note key value => o.addNote key value

/-! ### Moves -/

/-- What is done to a failure on its way.  The forms before and after are part of the type,
so only what makes sense can be done. -/
inductive Move : Form → Form → Type
  /-- A report is enriched. -/
  | enrichReport (e : Enrichment) : Move .report .report
  /-- Remarks are added to a report. -/
  | addNotes (entries : List (String × String)) : Move .report .report
  /-- What is held is converted into a failure, and that is enriched. -/
  | enrich (k : Form) (e : Enrichment) : Move k .failure
  /-- An outcome is enriched; what is held on its failing side is converted. -/
  | enrichOutcome (k : Form) (e : Enrichment) : Move k .failure
  /-- A report is erased. -/
  | eraseReport : Move .report .stack
  /-- A failure is erased. -/
  | eraseFailure : Move .failure .stack
  /-- A text is put on an erased error. -/
  | context (text : String) : Move .stack .stack
  /-- What is held is converted into a failure. -/
  | convert (k : Form) : Move k .failure
  /-- The report of a failure is taken out, or opened. -/
  | takeReport : Move .failure .report
  /-- A report that shows a failure is made, and converted in its place. -/
  | reopen : Move .failure .failure

variable {α : Type} {k l m : Form}

/-- Work on the failing side of an outcome. -/
def onError (work : k.Held → Work l.Held) : Except k.Held α → Work (Except l.Held α)
  | .ok a => return .ok a
  | .error x => do return .error (← work x)

/-- The effect of a move on an outcome. -/
def Move.act : Move k l → Except k.Held α → Work (Except l.Held α)
  | .enrichReport e => onError fun (r : Report) => return r.enrich e
  | .addNotes entries => onError fun (r : Report) => return r.addNotes entries
  | .enrich k e => onError fun x => (k.toFailure x).enrich e
  | .enrichOutcome k e => fun o => Outcome.enrich (o.mapError k.toFailure) e
  | .eraseReport => onError fun r => return Stack.root (.report r)
  | .eraseFailure => onError fun (f : Failure) => return f.erase
  | .context text => onError fun s => return Stack.over (.text text) s
  | .convert k => onError fun x => return k.toFailure x
  | .takeReport => onError Failure.toReport
  | .reopen => onError fun (f : Failure) => do return Failure.reported (← f.snapshot)

@[simp] theorem onError_ok (work : k.Held → Work l.Held) (a : α) (d : Desk) :
    onError work (.ok a) d = (.ok a, d) := rfl

@[simp] theorem onError_error (work : k.Held → Work l.Held) (x : k.Held) (d : Desk) :
    (onError work (.error x) : Work (Except l.Held α)) d = (.error (work x d).1, (work x d).2) :=
  rfl

/-- To enrich an outcome is to enrich what its failing side converts into. -/
theorem Move.act_enrichOutcome (e : Enrichment) (x : k.Held) (d : Desk) :
    (Move.enrichOutcome k e).act (.error x : Except k.Held α) d =
      (Move.enrich k e).act (.error x) d := by
  cases e <;> rfl

/-- A value passes a move untouched, and nothing is noticed. -/
@[simp] theorem Move.act_ok (move : Move k l) (a : α) (d : Desk) :
    move.act (.ok a) d = (.ok a, d) := by
  cases move with
  | enrichOutcome k e => cases e <;> rfl
  | _ => rfl

/-! ### Passages -/

/-- Moves that fit together, the first one outermost. -/
inductive Passage : Form → Form → Type
  /-- Nothing is done. -/
  | rest (k : Form) : Passage k k
  /-- A move, and then more. -/
  | step {k l m : Form} (move : Move k l) (next : Passage l m) : Passage k m

namespace Passage

/-- The effect of a passage on an outcome. -/
def act : {k l : Form} → Passage k l → Except k.Held α → Work (Except l.Held α)
  | _, _, rest _, o => return o
  | _, _, step move next, o => do next.act (← move.act o)

/-- One passage and then another. -/
def append : {k l m : Form} → Passage k l → Passage l m → Passage k m
  | _, _, _, rest _, q => q
  | _, _, _, step move next, q => step move (next.append q)

@[simp] theorem act_rest (o : Except k.Held α) (d : Desk) : (rest k).act o d = (o, d) := rfl

@[simp] theorem act_step (move : Move k l) (next : Passage l m) (o : Except k.Held α)
    (d : Desk) : (step move next).act o d = next.act (move.act o d).1 (move.act o d).2 := rfl

/-- A passage is as good as its two parts. -/
@[simp] theorem act_append (p : Passage k l) (q : Passage l m) (o : Except k.Held α) (d : Desk) :
    (p.append q).act o d = q.act (p.act o d).1 (p.act o d).2 := by
  induction p generalizing d with
  | rest k => rfl
  | step move next ih => simp [append, ih]

/-- A value passes untouched, and nothing is noticed. -/
theorem act_ok (p : Passage k l) (a : α) (d : Desk) : p.act (.ok a) d = (.ok a, d) := by
  induction p with
  | rest k => rfl
  | step move next ih => simp [ih]

end Passage

end Faultline
