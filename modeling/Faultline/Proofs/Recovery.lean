import Faultline.Proofs.Passage.Identity

/-!
# The report that is recovered

Several layers of a stack may hold a report: a report does, and so does a failure that has
one.  Recovery looks for a failure first, through the whole stack, and for a report only if
there is no failure.  So the outermost failure decides what is recovered, whatever stands
above it.

## Main definitions

* `Stack.layers` — the layers of a stack, the outermost first.
* `Layer.failure?`, `Layer.report?` — the failure that a layer is, and the report it holds.

## Main results

* `Stack.failure?_eq_findSome?`, `Stack.report?_eq_findSome?` — what recovery looks for, said
  of the layers.
* `recovers_outermost_iff` — **the outermost report is recovered exactly if no layer is a
  failure, or the outermost failure has that report**; nothing with a report is recovered if
  the outermost failure is foreign.
-/

namespace Faultline

/-! ### Layers -/

/-- Induction on the layers of a stack, from the root on. -/
@[elab_as_elim]
theorem Stack.induction {motive : Stack → Prop} (root : ∀ base, motive (.root base))
    (layer : ∀ context below, motive below → motive (.over context below)) : ∀ s, motive s
  | .root base => root base
  | .over context below => layer context below (Stack.induction root layer below)

/-- The layers of a stack, the outermost first. -/
def Stack.layers : Stack → List Layer
  | .root base => [base]
  | .over context below => context :: below.layers

namespace Layer

/-- The failure that a layer is. -/
def failure? : Layer → Option Failure
  | failure f => some f
  | _ => none

/-- The report that a layer holds: the layer itself, or that of a failure. -/
def report? : Layer → Option Report
  | text _ => none
  | report r => some r
  | failure f => f.report?

end Layer

namespace Stack

/-- The failure that recovery finds is the outermost one. -/
theorem failure?_eq_findSome? (s : Stack) : s.failure? = s.layers.findSome? Layer.failure? := by
  induction s using Stack.induction with
  | root base => cases base <;> rfl
  | layer context below ih =>
    cases context with
    | failure f => rfl
    | text t => exact ih
    | report r => exact ih

/-- In a stack without failures, the report that recovery finds is the outermost one. -/
theorem report?_eq_findSome? {s : Stack} (h : s.failure? = none) :
    s.report? = s.layers.findSome? Layer.report? := by
  induction s using Stack.induction with
  | root base =>
    cases base with
    | failure f => cases h
    | text t => rfl
    | report r => rfl
  | layer context below ih =>
    cases context with
    | failure f => cases h
    | text t => exact ih h
    | report r => rfl

/-! ### What decides -/

/-- Without failures, the outermost report is recovered. -/
theorem recover_of_failure?_none {s : Stack} {r : Report} (hf : s.failure? = none)
    (hr : s.layers.findSome? Layer.report? = some r) :
    s.recover = .reported (r.addOperations (s.contextsAbove r.detail)) := by
  apply recover_of_held?
  rw [held?, hf, report?_eq_findSome? hf, hr]

/-- If the outermost failure has a report, that report is recovered. -/
theorem recover_of_failure?_reported {s : Stack} {r : Report}
    (hf : s.failure? = some (.reported r)) :
    s.recover = .reported (r.addOperations (s.contextsAbove r.detail)) := by
  apply recover_of_held?
  rw [held?, hf]
  rfl

/-- If the outermost failure is foreign, it is recovered, and nothing of the stack remains. -/
theorem recover_of_failure?_foreign {s inner : Stack} (hf : s.failure? = some (.foreign inner)) :
    s.recover = .foreign inner := by
  unfold recover
  rw [hf]

/-- A stack in which there is neither a failure nor a report becomes a foreign failure. -/
theorem recover_of_none {s : Stack} (hf : s.failure? = none) (hr : s.report? = none) :
    s.recover = .foreign s := by
  unfold recover
  rw [hf, hr]

end Stack

theorem Report.occurrence_addOperations (r : Report) (operations : List String) :
    (r.addOperations operations).occurrence = r.occurrence :=
  (r.extends_addOperations operations).occurrence

theorem Report.category_addOperations (r : Report) (operations : List String) :
    (r.addOperations operations).category = r.category :=
  (r.extends_addOperations operations).category

/-- **The outermost failure decides.**  Of a stack in which some layer holds a report, a
failure with a report is recovered exactly if the outermost failure among the layers, if
there is one, is not foreign; and it is the outermost report of all that is recovered exactly
if no layer is a failure or the outermost one has a report of that occurrence. -/
theorem recovers_outermost_iff {s : Stack} {r : Report}
    (h : s.layers.findSome? Layer.report? = some r) :
    ((∃ later, s.recover = .reported later) ↔
        ∀ inner, s.layers.findSome? Layer.failure? ≠ some (.foreign inner)) ∧
      ((∃ later, s.recover = .reported later ∧
          later.occurrence = r.occurrence ∧ later.category = r.category) ↔
        s.layers.findSome? Layer.failure? = none ∨
          ∃ r', s.layers.findSome? Layer.failure? = some (.reported r') ∧
            r'.occurrence = r.occurrence ∧ r'.category = r.category) := by
  rw [← Stack.failure?_eq_findSome?]
  cases hf : s.failure? with
  | none =>
    have hrec := Stack.recover_of_failure?_none hf h
    refine ⟨iff_of_true ⟨_, hrec⟩ (by simp), iff_of_true ⟨_, hrec, ?_, ?_⟩ (Or.inl rfl)⟩
    · exact r.occurrence_addOperations _
    · exact r.category_addOperations _
  | some f =>
    cases f with
    | foreign inner =>
      have hrec := Stack.recover_of_failure?_foreign hf
      simp [hrec]
    | reported r' =>
      have hrec := Stack.recover_of_failure?_reported hf
      simp [hrec, Report.occurrence_addOperations, Report.category_addOperations]

/-- The failure in the middle is found above a report and a foreign failure. -/
theorem recovers_outermost_iff_above_others :
    let r : Report := { Report.blank ⟨"0", "0"⟩ (some .business) with detail := "not allowed" }
    let other : Report := { Report.blank ⟨"1", "0"⟩ (some .notFound) with detail := "row missing" }
    let s : Stack := .over (.text "rendering page") <| .over (.failure (.reported r)) <|
      .over (.report other) <| .root (.failure (.foreign (.root (.text "connection refused"))))
    s.layers.findSome? Layer.report? = some r ∧
      ∃ later, s.recover = .reported later ∧
        later.occurrence = r.occurrence ∧ later.category = r.category := by
  intro r other s
  exact ⟨rfl, (recovers_outermost_iff (s := s) rfl).2.mpr (Or.inr ⟨r, rfl, rfl, rfl⟩)⟩

/-- A report is lost under a foreign failure; and a report is passed over for another one
that a failure within it has. -/
theorem report_lost_under_foreign_failure :
    let r : Report := { Report.blank ⟨"0", "0"⟩ (some .notFound) with detail := "row missing" }
    let unclassified : Stack := .root (.text "connection refused")
    let hidden : Stack := .over (.failure (.foreign unclassified)) (.root (.report r))
    let other : Report := { Report.blank ⟨"1", "0"⟩ (some .business) with detail := "not allowed" }
    let passed : Stack := .over (.report other) (.root (.failure (.reported r)))
    (hidden.layers.findSome? Layer.report? = some r ∧ hidden.recover = .foreign unclassified) ∧
      passed.layers.findSome? Layer.report? = some other ∧
        passed.recover = .reported (r.addOperation "not allowed") ∧
        (r.addOperation "not allowed").occurrence ≠ other.occurrence := by
  intro r unclassified hidden other passed
  refine ⟨⟨rfl, rfl⟩, rfl, ?_, by decide⟩
  rw [Stack.recover_of_failure?_reported (r := r) rfl]
  rfl

end Faultline
