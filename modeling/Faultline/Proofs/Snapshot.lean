import Faultline.Failure.Enrich

/-!
# Ways to read a failure

What a failure says can be asked of the failure itself, read off a snapshot, or read off the
report that is taken out of it.  The three ways agree but for one thing: a foreign failure
whose only text is empty has no details, while each report on it has the detail that stands
for nothing.

## Main definitions

* `Report.SaysSame` — two reports say the same.

## Main results

* `Cause.joined_eq_empty_iff` — only a cause whose one text is empty says nothing.
* `Failure.detail_snapshot` — the detail of a snapshot.
* `readers_agree_unless_silent` — **the ways to read a failure agree**, and its details are
  those of a snapshot exactly if the failure is not a foreign one that says nothing.
-/

namespace Faultline

/-! ### Causes that say nothing -/

/-- Only a cause whose one text is empty says nothing: between two texts stands at least the
mark that parts them. -/
theorem Cause.joined_eq_empty_iff {c : Cause} : c.joined = "" ↔ c.lines = [""] := by
  obtain ⟨text, beneath⟩ := c
  cases beneath with
  | nil => simp [joined, lines]
  | cons t ts =>
    have long : (joined ⟨text, t :: ts⟩).toList ≠ [] := by
      rw [joined, String.toList_intercalate, lines, List.map_cons, List.map_cons,
        List.intercalate_cons_cons]
      simp
    have apart : joined ⟨text, t :: ts⟩ ≠ "" := fun h => long (by rw [h]; rfl)
    simp [apart, lines]

namespace Report

/-- A detail stands for itself exactly if it is not empty. -/
theorem eq_specified_iff {detail : String} : detail = specified detail ↔ detail ≠ "" := by
  constructor
  · intro h he
    exact specified_ne_empty detail (h ▸ he)
  · intro h
    rw [specified, if_neg (by simpa using h)]

/-- Two reports say the same, though they may be of different occurrences and keep different
causes. -/
structure SaysSame (r s : Report) : Prop where
  category : r.category = s.category
  detail : r.detail = s.detail
  message : r.message = s.message
  operations : r.operations = s.operations
  notes : r.notes = s.notes

end Report

namespace Failure

/-! ### Snapshots -/

/-- The tag of a snapshot is that of the failure. -/
theorem tag_snapshot (f : Failure) (d : Desk) : (f.snapshot d).1.tag = f.tag := by
  cases f <;> rfl

/-- The detail of a snapshot is that of the report, or what a foreign failure says in one line
unless that is nothing. -/
theorem detail_snapshot (f : Failure) (d : Desk) :
    (f.snapshot d).1.detail = match f with
      | .reported r => r.detail
      | .foreign _ => Report.specified f.details := by
  cases f <;> rfl

/-- A snapshot says the same as the report that is taken out. -/
theorem saysSame_snapshot_toReport (f : Failure) (d d' : Desk) :
    (f.snapshot d).1.SaysSame (f.toReport d').1 := by
  cases f with
  | reported r => exact ⟨rfl, rfl, rfl, rfl, rfl⟩
  | foreign s => exact ⟨rfl, rfl, rfl, rfl, rfl⟩

/-- The details of a failure are those of a snapshot, unless it is a foreign one that says
nothing. -/
theorem details_eq_detail_snapshot_iff (f : Failure) (d : Desk) :
    f.details = (f.snapshot d).1.detail ↔ ∀ s, f = .foreign s → s.lines ≠ [""] := by
  rw [detail_snapshot]
  cases f with
  | reported r => exact iff_of_true rfl fun s h => nomatch h
  | foreign s =>
    change s.asCause.joined = Report.specified s.asCause.joined ↔ _
    rw [Report.eq_specified_iff, ne_eq, Cause.joined_eq_empty_iff]
    constructor
    · rintro h t ⟨⟩
      exact h
    · exact fun h => h s rfl

end Failure

/-- **The ways to read a failure agree.**  Its tag is that of a snapshot; its details are those
of a snapshot exactly if it is no foreign failure whose only text is empty, and such a one has
no details while its snapshot has the detail that stands for nothing; a snapshot says the same
as the report that is taken out; and a snapshot of a snapshot is that snapshot, made without
any work. -/
theorem readers_agree_unless_silent (f : Failure) (d d' : Desk) :
    f.tag = (f.snapshot d).1.tag ∧
      (f.details = (f.snapshot d).1.detail ↔ ∀ s, f = .foreign s → s.lines ≠ [""]) ∧
      (∀ s, f = .foreign s → s.lines = [""] →
        f.details = "" ∧ (f.snapshot d).1.detail = "unspecified error") ∧
      (f.snapshot d).1.SaysSame (f.toReport d').1 ∧
      (Failure.reported (f.snapshot d).1).snapshot d' = ((f.snapshot d).1, d') := by
  refine ⟨(f.tag_snapshot d).symm, f.details_eq_detail_snapshot_iff d, ?_,
    f.saysSame_snapshot_toReport d d', rfl⟩
  rintro s rfl hs
  have silent : (Failure.foreign s).details = "" := Cause.joined_eq_empty_iff.mpr hs
  refine ⟨silent, ?_⟩
  rw [Failure.detail_snapshot, silent]
  rfl

/-- A foreign failure that says nothing has no details, but its snapshot has a detail. -/
theorem details_of_silent_failure_unlike_snapshot :
    let f : Failure := .foreign (.root (.text ""))
    let d := Desk.fresh fun _ => ⟨"0", "0"⟩
    f.details = "" ∧ (f.snapshot d).1.detail = "unspecified error" ∧
      f.details ≠ (f.snapshot d).1.detail := by
  intro f d
  exact ⟨by decide +kernel, by decide +kernel, by decide +kernel⟩

end Faultline
