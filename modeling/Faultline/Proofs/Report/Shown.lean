import Faultline.Proofs.Json.Value
import Faultline.Proofs.Passage.Identity

/-!
# What the outside sees of a report

The form for the outside is an object with five members.  They can be read again from it, so
it tells them apart; it tells nothing else, so whatever a failure gains on its way leaves it
as it was.

## Main results

* `Report.ofText_json` — what is shown is read again.
* `Report.json_eq_iff` — two reports look alike if and only if they agree in what is shown.
* `Report.Extends.json_eq` — a later state of a report looks as it did.
* `json_shows_five_members` — **the outside sees five members, and no passage changes them.**
-/

namespace Faultline

open Json (Value)

/-! ### Objects of texts -/

theorem Json.Value.texts_inj {ms ns : List (String × String)} :
    Value.texts ms = Value.texts ns ↔ ms = ns := by
  have member : Function.Injective fun m : String × String => (m.1, Value.text m.2) := by
    rintro ⟨k, v⟩ ⟨l, w⟩ h
    simpa using h
  rw [texts, texts, Value.object.injEq, (List.map_injective_iff.mpr member).eq_iff]

/-! ### The form for the outside -/

namespace Report

/-- What is shown to the outside is read again. -/
theorem ofText_json (r : Report) : Value.ofText r.json = .ok (Value.texts r.shown) :=
  Value.ofText_write _

/-- Two reports look alike if and only if they agree in what is shown. -/
theorem json_eq_iff {r s : Report} : r.json = s.json ↔ r.shown = s.shown := by
  rw [json, json, Value.write_inj, Value.texts_inj]

/-- The same is shown of two reports if and only if they agree in five things. -/
theorem shown_eq_iff {r s : Report} :
    r.shown = s.shown ↔ r.occurrence.id = s.occurrence.id ∧ r.message = s.message ∧
      r.detail = s.detail ∧ r.tag = s.tag ∧ r.occurrence.timestamp = s.occurrence.timestamp := by
  simp [shown]

/-- A later state of a report looks as the report did when it was opened. -/
theorem Extends.json_eq {later r : Report} (h : later.Extends r) : later.json = r.json := by
  have htag : later.tag = r.tag := by rw [tag, tag, h.category]
  rw [json_eq_iff, shown_eq_iff, h.occurrence]
  exact ⟨rfl, h.message, h.detail, htag, rfl⟩

end Report

/-- **The outside sees five members and nothing else.**  The form for the outside of a report
is read again as an object with exactly its id, message, detail, category and timestamp, in
this order; two reports look alike if and only if they agree in these; and the report that is
held after a passage, or recovered from a stack, looks as it did at the start. -/
theorem json_shows_five_members (r : Report) :
    Value.ofText r.json = .ok (.object [("id", .text r.occurrence.id),
      ("message", .text r.message), ("detail", .text r.detail),
      ("type", .text ((r.category.map Category.tag).getD "")),
      ("timestamp", .text r.occurrence.timestamp)]) ∧
    (∀ s : Report, r.json = s.json ↔ r.occurrence.id = s.occurrence.id ∧
      r.message = s.message ∧ r.detail = s.detail ∧ r.tag = s.tag ∧
      r.occurrence.timestamp = s.occurrence.timestamp) ∧
    ∀ {α : Type} {k : Form} (p : Passage .report k) (d : Desk),
      ∃ (x : k.Held) (later : Report), p.act (.error r : Except Report α) d = (.error x, d) ∧
        k.toFailure x = .reported later ∧ later.json = r.json := by
  refine ⟨r.ofText_json, fun s => Report.json_eq_iff.trans Report.shown_eq_iff, ?_⟩
  intro α k p d
  obtain ⟨x, held, hact, hheld, hext⟩ := p.extends_act (α := α) (x := r) rfl d
  obtain ⟨later, hlater, hext'⟩ := Form.extends_toFailure hheld
  exact ⟨x, later, hact, hlater, (hext'.trans hext).json_eq⟩

end Faultline
