import Faultline.Proofs.Validation.Flattening
import Faultline.Validation.Refusal

/-!
# Refusing a review

A refused review has one note for each field with complaints, and none is lost, because the
path of the note tells the field.

## Main results

* `Settings.refuse_apply` — a refusal is a failure with the notes on its findings.
* `notesOn_get?` — the note at a path is the explanation of the last finding there.
* `refuseReview_one_note_for_each_field` — **a refused review has exactly one note for each
  field with complaints**, about the last of them.
-/

namespace Faultline.Validation

/-! ### Notes on findings -/

/-- The keys of the notes are the paths of the findings. -/
theorem mem_keys_notesOn (translator : Option Translator) (findings : List Finding)
    (k : String) :
    k ∈ (notesOn translator findings).keys ↔ ∃ f ∈ findings, f.path = k := by
  rw [notesOn, Table.mem_keys_ofList, List.map_map, List.mem_map]
  rfl

/-- The note at a path is the explanation of the last finding there. -/
theorem notesOn_get? (translator : Option Translator) (findings : List Finding) (k : String) :
    (notesOn translator findings).get? k =
      ((findings.filter (·.path = k)).getLast?).map (explainWith translator) :=
  Table.get?_ofList_map Finding.path (explainWith translator) findings k

/-! ### Refusals -/

/-- What is told about a translator that was looked for. -/
def untranslatedNotices (locale : String) : Option Translator → List Notice
  | some _ => []
  | none => [.untranslated locale]

/-- A refusal is a fresh report with the notes on the findings. -/
theorem Settings.refuse_apply (settings : Settings) (provider : Provider)
    (findings : List Finding) (d : Desk) :
    settings.refuse provider findings d =
      (.reported { Report.blank (d.supply d.issued) none with
          message := settings.message
          notes := notesOn (provider.find? settings.locale) findings },
        { d with
          issued := d.issued + 1
          notices := d.notices ++
            untranslatedNotices settings.locale (provider.find? settings.locale) }) := by
  unfold refuse
  cases h : provider.find? settings.locale with
  | none => rfl
  | some t =>
    rw [untranslatedNotices, List.append_nil]
    rfl

/-- The notes on a refused review are about the last complaint at each position. -/
theorem Review.notesOn_get? {r : Review} {p : Position} {cs : List Complaint} (hr : r.Proper)
    (h : r.At p cs) (translator : Option Translator) :
    (notesOn translator r.findings).get? p.path =
      cs.getLast?.map fun c => explainWith translator (c.finding p) := by
  rw [Validation.notesOn_get?, filter_findings hr h, List.getLast?_map, Option.map_map]
  rfl

/-- The keys of the notes on a refused review are the paths of all positions with
complaints. -/
theorem Review.mem_keys_notesOn {r : Review} (hr : r.Proper) (translator : Option Translator)
    (k : String) :
    k ∈ (notesOn translator r.findings).keys ↔ ∃ p cs, r.At p cs ∧ cs ≠ [] ∧ p.path = k := by
  rw [Validation.mem_keys_notesOn]
  constructor
  · rintro ⟨f, hf, rfl⟩
    obtain ⟨p, cs, c, hat, hc, rfl⟩ := exists_of_mem_findings hf
    exact ⟨p, cs, hat, List.ne_nil_of_mem hc, rfl⟩
  · rintro ⟨p, cs, hat, hne, rfl⟩
    obtain ⟨c, hc⟩ := List.exists_mem_of_ne_nil cs hne
    have hmem : c.finding p ∈ r.findings.filter (·.path = p.path) := by
      rw [filter_findings hr hat]
      exact List.mem_map_of_mem hc
    exact ⟨c.finding p, List.mem_of_mem_filter hmem, rfl⟩

/-- **A refused review has exactly one note for each field with complaints.**  For a review
made of maps with plain names, no two positions have one path, and the name of the field is
found again in each finding.  Whatever the settings and whoever is asked for a translator,
the refusal is a report whose notes are at the paths of the positions with complaints, and
explain the last complaint there. -/
theorem refuseReview_one_note_for_each_field (r : Review) (hr : r.Proper) :
    (∀ p q cs ds, r.At p cs → r.At q ds → p.path = q.path → p = q) ∧
      (∀ f ∈ r.findings, ∃ q name cs, r.At (q ++ [.name name]) cs ∧
        f.path = Position.path (q ++ [.name name]) ∧ f.field = name) ∧
      ∀ (settings : Settings) (provider : Provider) (d : Desk),
        ∃ (report : Report) (d' : Desk),
          settings.refuseReview provider r d = (.reported report, d') ∧
            (∀ k, k ∈ report.notes.keys ↔ ∃ p cs, r.At p cs ∧ cs ≠ [] ∧ p.path = k) ∧
            ∀ p cs (hcs : cs ≠ []), r.At p cs → report.notes.get? p.path =
              some (explainWith (provider.find? settings.locale)
                ((cs.getLast hcs).finding p)) := by
  refine ⟨?_, ?_, ?_⟩
  · intro p q cs ds hp hq
    exact Position.path_injective (hp.plain hr) (hq.plain hr)
  · intro f hf
    obtain ⟨p, cs, c, hat, -, rfl⟩ := Review.exists_of_mem_findings hf
    obtain ⟨q, name, rfl⟩ := hat.eq_concat
    have hname : PlainName name := hat.plain hr name (by simp)
    exact ⟨q, name, cs, hat, rfl, Finding.fieldOf_path q hname⟩
  · intro settings provider d
    refine ⟨_, _, settings.refuse_apply provider r.findings d, Review.mem_keys_notesOn hr _, ?_⟩
    intro p cs hcs hat
    change (notesOn _ r.findings).get? p.path = _
    rw [Review.notesOn_get? hr hat, List.getLast?_eq_some_getLast hcs]
    rfl

/-- A blank text in a list inside a record is explained at its path. -/
theorem refuseReview_one_note_for_each_field_nested :
    let blank : Complaint := ⟨"length", some "sku must not be blank", [("min", .text "1")]⟩
    let r : Review := [("items", .items [(1, [("sku", .here [blank])]), (12, [])])]
    r.Proper ∧ ∃ (report : Report) (d' : Desk),
      Settings.standard.refuseReview Translations.english r (Desk.fresh fun _ => default) =
          (.reported report, d') ∧
        report.notes.get? "items[1].sku" = some "sku must not be blank" := by
  intro blank r
  have hr : r.Proper := by
    refine .inside (by decide) (by decide) ?_
    simp only [r, List.forall_mem_cons]
    refine ⟨.items (by decide) ?_, by simp⟩
    simp only [List.forall_mem_cons]
    refine ⟨.inside (by decide) (by decide) ?_, .inside (by decide) (by decide) (by simp), by simp⟩
    simp only [List.forall_mem_cons]
    exact ⟨.here (by decide), by simp⟩
  have hat : r.At [.name "items", .index 1, .name "sku"] [blank] :=
    .inside (List.mem_cons_self ..)
      (.items (List.mem_cons_self ..) (.inside (List.mem_cons_self ..) (.here _)))
  obtain ⟨report, d', hreport, -, hnote⟩ :=
    (refuseReview_one_note_for_each_field r hr).2.2 Settings.standard Translations.english
      (Desk.fresh fun _ => default)
  exact ⟨hr, report, d', hreport, hnote _ _ (by simp) hat⟩

end Faultline.Validation
