import Faultline.Proofs.Handling
import Faultline.Proofs.Snapshot

/-!
# What a failure says while it is handled

What a foreign failure says is put together anew each time from its stack, and what a report
says is kept in it.  That a foreign failure is given a report changes nothing of what is said,
except that a report says at least that there was an error.

## Main results

* `Report.Extends.asCause_eq` — a later state of a report says what the report said.
* `Failure.asCause_toReport` — what the report of a failure says.
* `handling_keeps_what_is_said` — **no handling changes what a failure says**, except that a
  foreign one which says nothing says that there was an error once its report was asked for.
-/

namespace Faultline

variable {α : Type} {k : Form}

/-- A later state of a report says what the report said. -/
theorem Report.Extends.asCause_eq {later r : Report} (h : later.Extends r) :
    later.asCause = r.asCause := by
  rw [asCause, asCause, h.detail, h.cause]

namespace Failure

/-- A later state of a failure says what the failure said. -/
theorem Continues.asCause_eq {f g : Failure} (h : f.Continues g) : f.asCause = g.asCause := by
  cases h with
  | reported later => exact later.asCause_eq
  | foreign s => rfl

/-- What the report of a failure says: what the failure says, unless this is a foreign one that
says nothing first. -/
theorem asCause_toReport (f : Failure) (d : Desk) :
    (f.toReport d).1.asCause =
      ⟨if f.isForeign ∧ f.asCause.text = "" then "unspecified error" else f.asCause.text,
        f.asCause.beneath⟩ := by
  cases f with
  | reported r => simp [toReport, asCause, isForeign]
  | foreign s =>
    change Cause.mk (Report.specified s.asCause.joined) s.asCause.lines = _
    simp [Report.specified, Report.unspecified, asCause, isForeign]

/-- What is said by a failure that another one has become. -/
theorem Becomes.asCause_eq {f g : Failure} {d d' : Desk} {asked : Bool}
    (h : f.Becomes d asked g d') :
    g.asCause =
      ⟨if asked ∧ f.isForeign ∧ f.asCause.text = "" then "unspecified error"
        else f.asCause.text, f.asCause.beneath⟩ := by
  cases h with
  | unasked continues _ => simpa using continues.asCause_eq
  | asked d₁ _ continues _ => simpa using continues.asCause_eq.trans (f.asCause_toReport d₁)

/-- A failure says nothing first and is foreign exactly if its stack has one text, which is
empty. -/
theorem says_nothing_iff (f : Failure) :
    f.isForeign ∧ f.asCause.text = "" ↔ ∃ s, f = .foreign s ∧ s.lines = [""] := by
  cases f with
  | reported r => simp [isForeign]
  | foreign s =>
    change _ ∧ s.asCause.joined = "" ↔ _
    rw [Cause.joined_eq_empty_iff]
    simp [isForeign, Stack.lines]

end Failure

/-- **No handling changes what a failure says.**  However a failure is moved and read, erased
and recovered, what is held in the end converts into one that says the same: the texts beneath
the first one are those of the start, and so is the first one, unless the failure is a foreign
one whose only text is empty and some move asked for its report; then it is the text that
stands for nothing. -/
theorem handling_keeps_what_is_said (f : Failure) (p : Handling .failure k) (d : Desk) :
    ∃ (x : k.Held) (d' : Desk), p.act (.error f : Outcome α) d = (.error x, d') ∧
      (k.toFailure x).asCause.beneath = f.asCause.beneath ∧
      (k.toFailure x).asCause.text =
        (if p.asksReport ∧ f.isForeign ∧ f.asCause.text = "" then "unspecified error"
          else f.asCause.text) ∧
      ((k.toFailure x).asCause.lines = f.asCause.lines ↔
        ¬ (p.asksReport ∧ ∃ s, f = .foreign s ∧ s.lines = [""])) := by
  obtain ⟨x, g, d', run, held, becomes⟩ := p.act_of_failure? (α := α) (x := f) rfl d
  have said := (Form.continues_toFailure held).asCause_eq.trans becomes.asCause_eq
  refine ⟨x, d', run, by rw [said], by rw [said], ?_⟩
  rw [← f.says_nothing_iff, said, Cause.lines, Cause.lines]
  split
  · rename_i silent
    simp [silent.2.2, silent.1, silent.2.1]
  · rename_i spoken
    simpa using spoken

end Faultline
