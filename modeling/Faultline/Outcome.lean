import Faultline.Failure.Enrich

/-!
# Outcomes

The outcome of a computation that may fail.  Enrichment reaches the failure and
leaves a value alone.

## Main definitions

* `Outcome α` — a value or a failure.
* `Outcome.addOperation`, `Outcome.addNote` — enrichment of the failure.
* `Outcome.swallow` — the value, if there is one; a failure is dropped.

## Main statements

* `Outcome.eq_ok_iff_of_ways`, `Outcome.eq_error_iff_of_ways` — an outcome tells how it came
  about, if something always leads to a value or stands in the way.
-/

namespace Faultline

/-- A value or a failure. -/
abbrev Outcome (α : Type) := Except Failure α

namespace Outcome

variable {α : Type}

/-- Applies work to the failure. -/
def onFailure (work : Failure → Work Failure) : Outcome α → Work (Outcome α)
  | .ok a => return .ok a
  | .error f => do
    let f ← work f
    return .error f

/-- The failure passed through one more operation. -/
def addOperation (o : Outcome α) (operation : String) : Work (Outcome α) :=
  o.onFailure (·.addOperation operation)

/-- The failure gains a remark. -/
def addNote (o : Outcome α) (key value : String) : Work (Outcome α) :=
  o.onFailure (·.addNote key value)

/-- Classifies the failure anew: a report is opened on what it says. -/
def classify (o : Outcome α) (category : Category) : Work (Outcome α) :=
  o.onFailure fun f => Failure.classify category f.asCause

/-- The value, if there is one; a failure is dropped on purpose. -/
def swallow (o : Outcome α) (reason : String) : Work (Option α) :=
  match o with
  | .ok a => return some a
  | .error f => do
    f.swallow reason
    return none

/-! ### Ways to an outcome -/

variable {β : Type} {Leads : α → Prop} {Meets : β → Prop} {report : β → Failure} {o : Outcome α}

/-- Where a value comes of whatever leads to one, and a failure of whatever stands in the way, a
value tells that something leads to it. -/
theorem eq_ok_iff_of_ways (ways : (∃ a, Leads a) ∨ ∃ b, Meets b)
    (leads : ∀ a, Leads a → o = .ok a) (meets : ∀ b, Meets b → o = .error (report b)) (a : α) :
    o = .ok a ↔ Leads a := by
  constructor
  · intro ha
    rcases ways with ⟨a', h⟩ | ⟨b, h⟩
    · rw [leads a' h] at ha
      exact Except.ok.inj ha ▸ h
    · rw [meets b h] at ha
      cases ha
  · exact leads a

/-- Then a failure tells what stands in the way, if no more than one thing can. -/
theorem eq_error_iff_of_ways (ways : (∃ a, Leads a) ∨ ∃ b, Meets b)
    (leads : ∀ a, Leads a → o = .ok a) (meets : ∀ b, Meets b → o = .error (report b))
    (unique : ∀ b b', Meets b → Meets b' → b = b') (f : Failure) :
    o = .error f ↔ ∃ b, Meets b ∧ (∀ b', Meets b' → b' = b) ∧ f = report b := by
  constructor
  · intro hf
    rcases ways with ⟨a, h⟩ | ⟨b, h⟩
    · rw [leads a h] at hf
      cases hf
    · rw [meets b h] at hf
      exact ⟨b, h, fun b' h' => unique b' b h' h, (Except.error.inj hf).symm⟩
  · rintro ⟨b, h, -, rfl⟩
    exact meets b h

end Outcome

end Faultline
