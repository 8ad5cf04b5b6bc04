import Faultline.Report.Written

/-!
# Failures

A failure has a report, or it is foreign: nobody has classified it yet.  What a
foreign failure holds is a stack: an error at the root and the contexts that were
put on it.  A layer of a stack can be a report or a failure itself, and then it
can be taken out again.

## Main definitions

* `Failure`, `Layer`, `Stack` — the three kinds of values.
* `Failure.asCause`, `Layer.asCause`, `Stack.asCause` — what they say.
* `Stack.recover` — the failure that a stack is.
-/

namespace Faultline

mutual

/-- A failure: with a report, or foreign. -/
inductive Failure
  /-- A failure with a report. -/
  | reported (report : Report)
  /-- A failure that nobody has classified yet. -/
  | foreign (stack : Stack)

/-- A layer of a stack. -/
inductive Layer
  /-- A text, or an error of which only the text can be seen. -/
  | text (text : String)
  /-- A report. -/
  | report (report : Report)
  /-- A failure. -/
  | failure (failure : Failure)

/-- An error with the contexts that were put on it. -/
inductive Stack
  /-- The error itself. -/
  | root (base : Layer)
  /-- A context on what is below. -/
  | over (context : Layer) (below : Stack)

end

instance : Inhabited Stack := ⟨.root (.text "")⟩

/-! ### What is said -/

mutual

/-- What a failure says.  A foreign one says in its first text all that its stack says. -/
def Failure.asCause : Failure → Cause
  | .reported r => r.asCause
  | .foreign s => ⟨s.asCause.joined, s.asCause.lines⟩

/-- What a layer says when it is the root of a stack. -/
def Layer.asCause : Layer → Cause
  | .text t => .ofText t
  | .report r => r.asCause
  | .failure f => f.asCause

/-- What a stack says: of a context only its own text, then what is below. -/
def Stack.asCause : Stack → Cause
  | .root b => b.asCause
  | .over c s => ⟨c.asCause.text, s.asCause.lines⟩

end

/-! ### Stacks -/

namespace Stack

/-- The texts of a stack, the outermost first. -/
def lines (s : Stack) : List String := s.asCause.lines

/-- Puts contexts on a stack, the first one innermost. -/
def addTexts (s : Stack) (contexts : List String) : Stack :=
  contexts.foldl (fun s c => .over (.text c) s) s

/-- The stack of texts, the outermost first. -/
def ofTexts : String → List String → Stack
  | t, [] => .root (.text t)
  | t, u :: us => .over (.text t) (ofTexts u us)

/-- The stack in which nothing but the texts of a cause can be seen. -/
def ofCause (c : Cause) : Stack := ofTexts c.text c.beneath

/-! ### Recovery -/

/-- The outermost layer that is a failure. -/
def failure? : Stack → Option Failure
  | .root (.failure f) => some f
  | .root _ => none
  | .over (.failure f) _ => some f
  | .over _ s => s.failure?

/-- The outermost layer that is a report. -/
def report? : Stack → Option Report
  | .root (.report r) => some r
  | .root _ => none
  | .over (.report r) _ => some r
  | .over _ s => s.report?

/-- The contexts above the text `detail`, the innermost first. -/
def contextsAbove (s : Stack) (detail : String) : List String :=
  (s.lines.takeWhile (· ≠ detail)).reverse

/-- The failure that a stack is.  A failure in a layer comes before a report in a layer,
and of several the outermost counts.  The contexts above a report that is found this way
become operations. -/
def recover (s : Stack) : Failure :=
  let enriched (r : Report) := .reported (r.addOperations (s.contextsAbove r.detail))
  match s.failure? with
  | some (.reported r) => enriched r
  -- A foreign failure in a layer is taken out alone; the contexts above it are dropped.
  | some (.foreign inner) => .foreign inner
  | none =>
    match s.report? with
    | some r => enriched r
    | none => .foreign s

end Stack

/-! ### Failures -/

namespace Failure

/-- The report of a failure that has one. -/
def report? : Failure → Option Report
  | reported r => some r
  | foreign _ => none

/-- The text of the category; a foreign failure counts as an internal one. -/
def tag : Failure → String
  | reported r => r.tag
  | foreign _ => Category.internal.tag

/-- What the failure says in one line. -/
def details : Failure → String
  | reported r => r.detail
  | foreign s => s.asCause.joined

/-- The failure as it is shown to those who look for the fault. -/
def dump : Failure → String
  | reported r => r.dump
  | foreign s => s.asCause.dump

/-- The failure that an erased failure is. -/
def erase (f : Failure) : Stack := .root (.failure f)

end Failure

end Faultline
