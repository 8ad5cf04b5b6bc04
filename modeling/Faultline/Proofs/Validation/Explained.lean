import Faultline.Proofs.Enrichment
import Faultline.Proofs.Validation.Refusal

/-!
# What a refusal explains

The notes of a refusal say of each path the last word: how the last finding there is
explained.  So the order of the findings matters only among those at one path, and when there
is one at each, not at all.

## Main definitions

* `Explains` — a report is a refusal of some findings.

## Main results

* `Settings.refuse_explains` — a refusal explains the findings.
* `Explains.sameContent_iff` — when refusals of different findings say the same.
* `refusal_explains_last_finding` — **a refusal explains the last finding at each path**, and
  the order of findings at distinct paths does not show.
-/

namespace Faultline.Validation

/-- What is told about the last finding at a path. -/
def lastWord (translator : Option Translator) (findings : List Finding) (path : String) :
    Option String :=
  (findings.filter (·.path = path)).getLast?.map (explainWith translator)

/-- A report is a refusal of some findings: it has the message of the settings, notes that
explain the last finding at each path, and nothing else. -/
structure Explains (settings : Settings) (provider : Provider) (findings : List Finding)
    (r : Report) : Prop where
  message : r.message = settings.message
  category : r.category = none
  detail : r.detail = ""
  operations : r.operations = []
  cause : r.cause = none
  keys : ∀ path, path ∈ r.notes.keys ↔ ∃ f ∈ findings, f.path = path
  note : ∀ path, r.notes.get? path = lastWord (provider.find? settings.locale) findings path
  size : r.notes.size = (findings.map Finding.path).toFinset.card

variable {settings : Settings} {provider : Provider}

/-- A refusal explains the findings. -/
theorem Settings.refuse_explains (settings : Settings) (provider : Provider)
    (findings : List Finding) (d : Desk) :
    ∃ r : Report, (settings.refuse provider findings d).1 = .reported r ∧
      Explains settings provider findings r := by
  rw [Settings.refuse_apply]
  exact ⟨_, rfl, {
    message := rfl
    category := rfl
    detail := rfl
    operations := rfl
    cause := rfl
    keys := mem_keys_notesOn _ findings
    note := notesOn_get? _ findings
    size := by
      change (Table.ofList _).size = _
      rw [Table.size_ofList, List.map_map]
      rfl }⟩

/-- Refusals of different findings say the same exactly if the last word at each path is the
same. -/
theorem Explains.sameContent_iff {findings others : List Finding} {r s : Report}
    (hr : Explains settings provider findings r) (hs : Explains settings provider others s) :
    r.SameContent s ↔ ∀ path, lastWord (provider.find? settings.locale) findings path =
      lastWord (provider.find? settings.locale) others path := by
  constructor
  · intro h path
    rw [← hr.note, ← hs.note, h.notes path]
  · intro h
    exact {
      message := hr.message.trans hs.message.symm
      detail := hr.detail.trans hs.detail.symm
      operations := hr.operations.trans hs.operations.symm
      category := hr.category.trans hs.category.symm
      notes := fun path => by rw [hr.note, hs.note, h path]
      cause := hr.cause.trans hs.cause.symm }

/-- Where there is one finding at each path, their order does not matter for what is found at a
path. -/
theorem filter_path_eq_of_perm {findings others : List Finding} (perm : findings.Perm others)
    (distinct : (findings.map Finding.path).Nodup) (path : String) :
    findings.filter (·.path = path) = others.filter (·.path = path) := by
  have perm_at := perm.filter (·.path = path)
  have distinct_at : ((findings.filter (·.path = path)).map Finding.path).Nodup :=
    distinct.sublist (List.filter_sublist.map _)
  have at_path : ∀ f ∈ findings.filter (·.path = path), f.path = path := fun f hf => by
    simpa using List.of_mem_filter hf
  cases h : findings.filter (·.path = path) with
  | nil =>
    rw [h] at perm_at
    exact (List.nil_perm.mp perm_at).symm
  | cons f fs =>
    cases fs with
    | nil =>
      rw [h] at perm_at
      exact (List.perm_singleton.mp perm_at.symm).symm
    | cons g gs =>
      -- Two findings are at one path, which there cannot be.
      rw [h] at distinct_at at_path
      have one : f.path = g.path := (at_path f (by simp)).trans (at_path g (by simp)).symm
      simp [one] at distinct_at

/-- **A refusal explains the last finding at each path.**  Whatever the settings and the findings
and whoever is asked for a translator, the refusal is a report with the message of the settings
and with notes, one for each path, which explain the last finding there.  One notice tells if
there is no translator, however many findings there are.  In whatever order findings at distinct
paths come, the notes are the same, and the report looks the same but for its occurrence.  A
review is refused like its findings, and without settings the standard ones count. -/
theorem refusal_explains_last_finding (settings : Settings) (provider : Provider)
    (findings : List Finding) (d : Desk) :
    ∃ (r : Report) (d' : Desk), settings.refuse provider findings d = (.reported r, d') ∧
      Explains settings provider findings r ∧
      d'.notices = d.notices ++
        (if (provider.find? settings.locale).isNone then [.untranslated settings.locale]
          else []) ∧
      (Notice.untranslated settings.locale).level = .debug ∧
      (∀ others, findings.Perm others → (findings.map Finding.path).Nodup → ∀ e : Desk,
        ∃ (s : Report) (e' : Desk), settings.refuse provider others e = (.reported s, e') ∧
          r.notes.Same s.notes ∧ { s with occurrence := r.occurrence }.dump = r.dump) ∧
      (∀ review : Review, review.findings = findings →
        settings.refuseReview provider review = settings.refuse provider findings ∧
          provider.refuseReview review = provider.refuse findings) ∧
      provider.refuse findings = Settings.refuse ⟨"en", "Invalid Inputs"⟩ provider findings := by
  obtain ⟨r, refused, explains⟩ := settings.refuse_explains provider findings d
  refine ⟨r, _, Prod.ext refused rfl, explains, ?_, rfl, ?_, ?_, rfl⟩
  · rw [Settings.refuse_apply]
    cases provider.find? settings.locale <;> rfl
  · intro others perm distinct e
    obtain ⟨s, refused', explains'⟩ := settings.refuse_explains provider others e
    have same : r.SameContent s := (explains.sameContent_iff explains').mpr fun path => by
      rw [lastWord, lastWord, filter_path_eq_of_perm perm distinct]
    have same' : r.SameContent { s with occurrence := r.occurrence } := { same with }
    exact ⟨s, _, Prod.ext refused' rfl, same.notes, (same'.written_eq rfl).2.symm⟩
  · rintro review rfl
    exact ⟨rfl, rfl⟩

/-- Two findings about a person are explained alike in either order. -/
theorem refusal_explains_last_finding_person :
    let name := Finding.make "name" "required"
    let age := (Finding.make "age" "min").withParam "min" "18"
    let d := Desk.fresh fun n => ⟨toString n, "0"⟩
    [name, age].Perm [age, name] ∧ ([name, age].map Finding.path).Nodup ∧
      ∃ (r s : Report) (d' e' : Desk),
        Settings.standard.refuse Translations.english [name, age] d = (.reported r, d') ∧
        Settings.standard.refuse Translations.english [age, name] d' = (.reported s, e') ∧
        r.notes.get? "age" = some "age must be 18 or greater" ∧
        s.notes.get? "age" = some "age must be 18 or greater" ∧
        { s with occurrence := r.occurrence }.dump = r.dump := by
  intro name age d
  have perm : [name, age].Perm [age, name] := .swap age name []
  have distinct : ([name, age].map Finding.path).Nodup := by decide
  obtain ⟨r, d', refused, explains, -, -, ordered, -⟩ :=
    refusal_explains_last_finding .standard Translations.english [name, age] d
  obtain ⟨s, e', refused', same, dump⟩ := ordered [age, name] perm distinct d'
  have note : r.notes.get? "age" = some "age must be 18 or greater" :=
    (explains.note "age").trans (by decide +kernel)
  exact ⟨perm, distinct, r, s, d', e', refused, refused', note, (same "age").symm.trans note, dump⟩

end Faultline.Validation
