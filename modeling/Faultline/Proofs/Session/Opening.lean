import Faultline.Proofs.Recovery
import Faultline.Proofs.Session
import Faultline.Proofs.Validation.Refusal
import Mathlib.Logic.Relation

/-!
# How a report was opened

What is settled when a report is opened stays as it is.  A report is opened on a cause, on a
description or to refuse input, and it can be seen from the report which of them it was: a
refusal has neither category nor detail nor cause, and any other report has a category, and a
detail that says what its cause says.

## Main definitions

* `Report.SameOpening` — two reports agree in what is settled when a report is opened.
* `Report.Bare`, `Report.Described` — the two ways in which a report can have been opened.
* `Report.Traced` — a report is described, or continues one of some other reports.

## Main results

* `Possible.traced` — what is possible makes no reports but described ones and later states
  of those at hand.
* `Session.Sound.step`, `Session.Sound.run` — in a session every report is described or
  continues a refusal.
* `bare_refusal_xor_described` — **every report within anything that was ever made is either
  a bare refusal or described by its cause**, and never both.
-/

namespace Faultline

variable {α : Type}

namespace Report

/-- Two reports agree in all that is settled when a report is opened, apart from the message. -/
structure SameOpening (r s : Report) : Prop where
  occurrence : r.occurrence = s.occurrence
  category : r.category = s.category
  detail : r.detail = s.detail
  cause : r.cause = s.cause

/-- A report has neither category nor detail nor cause. -/
structure Bare (r : Report) : Prop where
  category : r.category = none
  detail : r.detail = ""
  cause : r.cause = none

/-- A report has a category and a detail; and if it has a cause, the detail is all that the
cause says, or the text that stands for nothing. -/
structure Described (r : Report) : Prop where
  category : r.category ≠ none
  detail : r.detail ≠ ""
  cause : ∀ c, r.cause = some c →
    r.detail = if c.joined = "" then "unspecified error" else c.joined

@[refl] theorem SameOpening.refl (r : Report) : r.SameOpening r := ⟨rfl, rfl, rfl, rfl⟩

theorem SameOpening.trans {r s t : Report} (h : r.SameOpening s) (h' : s.SameOpening t) :
    r.SameOpening t where
  occurrence := h.occurrence.trans h'.occurrence
  category := h.category.trans h'.category
  detail := h.detail.trans h'.detail
  cause := h.cause.trans h'.cause

/-- A later state of a report was opened as that was. -/
theorem Extends.sameOpening {later earlier : Report} (h : later.Extends earlier) :
    later.SameOpening earlier :=
  ⟨h.occurrence, h.category, h.detail, h.cause⟩

theorem Described.of_sameOpening {r s : Report} (hs : s.Described) (h : r.SameOpening s) :
    r.Described where
  category := h.category ▸ hs.category
  detail := h.detail ▸ hs.detail
  cause := fun c hc => h.detail ▸ hs.cause c (h.cause ▸ hc)

theorem Bare.of_sameOpening {r s : Report} (hs : s.Bare) (h : r.SameOpening s) : r.Bare :=
  ⟨h.category.trans hs.category, h.detail.trans hs.detail, h.cause.trans hs.cause⟩

/-- A report cannot have been opened in both ways. -/
theorem Bare.not_described {r : Report} (h : r.Bare) : ¬ r.Described :=
  fun h' => h'.category h.category

/-! ### Opening -/

theorem described_ofCause (category : Category) (cause : Cause) (d : Desk) :
    (ofCause category cause d).1.Described where
  category := by simp [ofCause, blank]
  detail := specified_ne_empty _
  cause := by
    intro c hc
    obtain rfl : cause = c := Option.some.inj hc
    change specified cause.joined = _
    simp only [specified, unspecified, String.isEmpty_iff]

theorem described_ofDetail (category : Category) (detail : String) (d : Desk) :
    (ofDetail category detail d).1.Described where
  category := by simp [ofDetail, blank]
  detail := specified_ne_empty _
  cause := fun c hc => by cases hc

/-- A report is described, or continues one of the given reports. -/
def Traced (earlier : List Report) (r : Report) : Prop :=
  r.Described ∨ ∃ r' ∈ earlier, r.SameOpening r'

namespace Traced

variable {r s : Report} {earlier before : List Report}

theorem of_mem (h : r ∈ earlier) : r.Traced earlier := Or.inr ⟨r, h, .refl r⟩

theorem of_sameOpening (hs : s.Traced earlier) (h : r.SameOpening s) : r.Traced earlier :=
  hs.imp (·.of_sameOpening h) fun ⟨t, ht, hst⟩ => ⟨t, ht, h.trans hst⟩

/-- If all reports that a report may continue are traced, it is traced as they are. -/
theorem trans (hr : r.Traced earlier) (h : ∀ s ∈ earlier, s.Traced before) : r.Traced before := by
  rcases hr with hr | ⟨s, hs, hrs⟩
  · exact Or.inl hr
  · exact (h s hs).of_sameOpening hrs

theorem mono (hr : r.Traced earlier) (h : earlier ⊆ before) : r.Traced before :=
  hr.trans fun _ hs => of_mem (h hs)

theorem enrich (hr : r.Traced earlier) (e : Enrichment) : (r.enrich e).Traced earlier :=
  hr.of_sameOpening (r.extends_enrich e).sameOpening

end Traced

end Report

/-! ### Failures and stacks -/

/-- The report that a failure has is within it. -/
theorem Failure.mem_reports_of_report? {f : Failure} {r : Report} (h : f.report? = some r) :
    r ∈ f.reports := by
  cases f with
  | reported q =>
    obtain rfl : q = r := Option.some.inj h
    exact List.mem_singleton_self _
  | foreign s => cases h

/-- The report that a layer holds is within it. -/
theorem Layer.mem_reports_of_report? {layer : Layer} {r : Report} (h : layer.report? = some r) :
    r ∈ layer.reports := by
  cases layer with
  | text t => cases h
  | report q =>
    obtain rfl : q = r := Option.some.inj h
    exact List.mem_singleton_self _
  | failure f => exact Failure.mem_reports_of_report? h

/-- A layer that is a failure has the reports of that failure within it. -/
theorem Layer.reports_of_failure? {layer : Layer} {f : Failure} (h : layer.failure? = some f) :
    layer.reports = f.reports := by
  cases layer with
  | text t => cases h
  | report q => cases h
  | failure g =>
    obtain rfl : g = f := Option.some.inj h
    rfl

namespace Stack

/-- The reports within a stack are those within its layers. -/
theorem reports_eq_flatMap (s : Stack) : s.reports = s.layers.flatMap Layer.reports := by
  induction s using Stack.induction with
  | root base => exact (List.append_nil _).symm
  | layer context below ih =>
    rw [layers, List.flatMap_cons, ← ih]
    rfl

/-- The reports of the failure that recovery finds are within the stack. -/
theorem reports_subset_of_failure? {s : Stack} {f : Failure} (h : s.failure? = some f) :
    f.reports ⊆ s.reports := by
  intro r hr
  rw [failure?_eq_findSome?] at h
  obtain ⟨layer, hmem, hlayer⟩ := List.exists_of_findSome?_eq_some h
  rw [reports_eq_flatMap]
  exact List.mem_flatMap.mpr ⟨layer, hmem, Layer.reports_of_failure? hlayer ▸ hr⟩

/-- The report inside a stack is within it. -/
theorem mem_reports_of_held? {s : Stack} {r : Report} (h : s.held? = some r) :
    r ∈ s.reports := by
  unfold held? at h
  cases hf : s.failure? with
  | none =>
    rw [hf] at h
    change s.report? = some r at h
    rw [report?_eq_findSome? hf] at h
    obtain ⟨layer, hmem, hlayer⟩ := List.exists_of_findSome?_eq_some h
    rw [reports_eq_flatMap]
    exact List.mem_flatMap.mpr ⟨layer, hmem, Layer.mem_reports_of_report? hlayer⟩
  | some f =>
    rw [hf] at h
    exact reports_subset_of_failure? hf (Failure.mem_reports_of_report? h)

/-- Recovery makes no reports but later states of those within the stack. -/
theorem traced_recover (s : Stack) : ∀ r ∈ s.recover.reports, r.Traced s.reports := by
  intro r hr
  cases hheld : s.held? with
  | some q =>
    rw [recover_of_held? hheld] at hr
    obtain rfl := List.mem_singleton.mp hr
    exact (Report.Traced.of_mem (mem_reports_of_held? hheld)).of_sameOpening
      (q.extends_addOperations _).sameOpening
  | none =>
    -- Nothing is found, or a foreign failure is taken out as it is.
    unfold held? at hheld
    cases hf : s.failure? with
    | none =>
      rw [hf] at hheld
      rw [recover_of_none hf hheld] at hr
      exact .of_mem hr
    | some f =>
      rw [hf] at hheld
      cases f with
      | reported q => cases hheld
      | foreign inner =>
        rw [recover_of_failure?_foreign hf] at hr
        exact .of_mem (reports_subset_of_failure? hf hr)

end Stack

/-- A failure that something held converts into has no reports but later states of those
that were held. -/
theorem Form.traced_toFailure (k : Form) (x : k.Held) :
    ∀ r ∈ (k.toFailure x).reports, r.Traced (k.reports x) := by
  cases k with
  | report => exact fun r hr => .of_mem hr
  | failure => exact fun r hr => .of_mem hr
  | stack => exact Stack.traced_recover x

namespace Failure

/-- The report of a failure is one within it, or a described one. -/
theorem traced_toReport (f : Failure) (d : Desk) : (f.toReport d).1.Traced f.reports := by
  cases f with
  | reported r => exact .of_mem (List.mem_singleton_self r)
  | foreign s => exact Or.inl (Report.described_ofCause _ _ _)

/-- A report that shows a failure is one within it, or a described one. -/
theorem traced_snapshot (f : Failure) (d : Desk) : (f.snapshot d).1.Traced f.reports := by
  cases f with
  | reported r => exact .of_mem (List.mem_singleton_self r)
  | foreign s => exact Or.inl (Report.described_ofDetail _ _ _)

theorem traced_enrich (f : Failure) (e : Enrichment) (d : Desk) :
    ∀ r ∈ (f.enrich e d).1.reports, r.Traced f.reports := by
  intro r hr
  rw [enrich_apply] at hr
  obtain rfl := List.mem_singleton.mp hr
  exact (f.traced_toReport d).enrich e

theorem described_classify (category : Category) (cause : Cause) (d : Desk) :
    ∀ r ∈ (classify category cause d).1.reports, r.Described := by
  intro r hr
  obtain rfl := List.mem_singleton.mp hr
  exact Report.described_ofCause category cause d

theorem described_ofSystem (e : Host.Error) (d : Desk) :
    ∀ r ∈ (ofSystem e d).1.reports, r.Described := by
  intro r hr
  obtain rfl := List.mem_singleton.mp hr
  exact Report.described_ofCause _ _ d

theorem described_compose (message : String) (cause : Cause) (category : Category)
    (notes : List (String × String)) (operations : List String) (d : Desk) :
    ∀ r ∈ (compose message cause category notes operations d).1.reports, r.Described := by
  intro r hr
  obtain rfl := List.mem_singleton.mp hr
  have opened := Report.described_ofCause category cause d
  refine opened.of_sameOpening (((Report.extends_addOperations _ _).trans
    (Report.extends_addNotes _ _)).sameOpening.trans ?_)
  exact ⟨rfl, rfl, rfl, rfl⟩

end Failure

namespace Outcome

/-- To enrich a failed outcome is to enrich the failure. -/
theorem enrich_error (f : Failure) (e : Enrichment) (d : Desk) :
    Outcome.enrich (.error f : Outcome α) e d = (.error (f.enrich e d).1, (f.enrich e d).2) := by
  cases e <;> rfl

theorem traced_enrich (o : Outcome α) (e : Enrichment) (d : Desk) :
    ∀ r ∈ (o.enrich e d).1.reports, r.Traced o.reports := by
  cases o with
  | ok a => cases e <;> exact fun r hr => nomatch hr
  | error f =>
    rw [enrich_error]
    exact f.traced_enrich e d

theorem described_classify (o : Outcome α) (category : Category) (d : Desk) :
    ∀ r ∈ (o.classify category d).1.reports, r.Described := by
  cases o with
  | ok a => exact fun r hr => nomatch hr
  | error f => exact Failure.described_classify category f.asCause d

end Outcome

/-! ### What is possible -/

/-- There are no reports in a stack made of texts. -/
theorem Stack.reports_ofTexts (t : String) (ts : List String) : (ofTexts t ts).reports = [] := by
  induction ts generalizing t with
  | nil => rfl
  | cons u us ih => exact ih u

/-- Erasing keeps the reports. -/
theorem Form.reports_erase (k : Form) (x : k.Held) : (k.erase x).reports = k.reports x := by
  cases k <;> rfl

/-- A report traced to an item at hand is traced to what is at hand. -/
theorem Report.Traced.at_hand {items : List (Item α)} {item : Item α} {r : Report}
    (h : item ∈ items) (hr : r.Traced item.reports) : r.Traced (items.flatMap Item.reports) :=
  hr.mono fun _ hs => List.mem_flatMap.mpr ⟨item, h, hs⟩

/-- **What is possible makes no reports but described ones and later states of those at
hand.** -/
theorem Possible.traced {items : List (Item α)} {work : Work (Item α)}
    (h : Possible items work) (d : Desk) :
    ∀ r ∈ (work d).1.reports, r.Traced (items.flatMap Item.reports) := by
  intro r hr
  -- Work either opens the report, or takes it from an item that the constructor names.
  cases h with
  | receive cause =>
    change r ∈ (Stack.ofTexts cause.text cause.beneath).reports at hr
    rw [Stack.reports_ofTexts] at hr
    cases hr
  | convertSystem e => exact Or.inl (Failure.described_ofSystem e d r hr)
  | succeed a => exact nomatch hr
  | describe category detail =>
    obtain rfl := List.mem_singleton.mp hr
    exact Or.inl (Report.described_ofDetail category detail d)
  | @openReport k x h category =>
    obtain rfl := List.mem_singleton.mp hr
    exact Or.inl (Report.described_ofCause category (k.asCause x) d)
  | classify h category => exact Or.inl (Failure.described_classify category _ d r hr)
  | compose h message category notes operations =>
    exact Or.inl (Failure.described_compose message _ category notes operations d r hr)
  | @withMessage q h message =>
    obtain rfl := List.mem_singleton.mp hr
    exact .at_hand h (.of_sameOpening (.of_mem (List.mem_singleton_self q)) ⟨rfl, rfl, rfl, rfl⟩)
  | @enrichReport q h e =>
    obtain rfl := List.mem_singleton.mp hr
    exact .at_hand h (.enrich (.of_mem (List.mem_singleton_self q)) e)
  | @addNotes q h entries =>
    obtain rfl := List.mem_singleton.mp hr
    exact .at_hand h (.of_sameOpening (.of_mem (List.mem_singleton_self q))
      (q.extends_addNotes entries).sameOpening)
  | @enrich k x h e =>
    exact .at_hand h (((k.toFailure x).traced_enrich e d r hr).trans (k.traced_toFailure x))
  | fail h => exact .at_hand h (.of_mem hr)
  | @enrichOutcome o h e => exact .at_hand h (o.traced_enrich e d r hr)
  | @classifyOutcome o h category => exact Or.inl (o.described_classify category d r hr)
  | takeFailure h => exact .at_hand h (.of_mem hr)
  | @erase k x h =>
    change r ∈ (k.erase x).reports at hr
    rw [k.reports_erase] at hr
    exact .at_hand h (.of_mem hr)
  | context h text => exact .at_hand h (.of_mem hr)
  | contextReport h hq =>
    rcases List.mem_append.mp hr with hr | hr
    · exact .at_hand hq (.of_mem hr)
    · exact .at_hand h (.of_mem hr)
  | contextFailure h hf =>
    rcases List.mem_append.mp hr with hr | hr
    · exact .at_hand hf (.of_mem hr)
    · exact .at_hand h (.of_mem hr)
  | @convert k x h => exact .at_hand h (k.traced_toFailure x r hr)
  | foreign h => exact .at_hand h (.of_mem hr)
  | @takeReport f h =>
    obtain rfl := List.mem_singleton.mp hr
    exact .at_hand h (f.traced_toReport d)
  | @snapshot f h =>
    obtain rfl := List.mem_singleton.mp hr
    exact .at_hand h (f.traced_snapshot d)

/-! ### Sessions -/

namespace Session

/-- In a session every refusal is bare, and every report is described or continues one. -/
structure Sound (s : Session α) : Prop where
  refusals : ∀ r ∈ s.refusals, r.Bare
  reports : ∀ r ∈ s.reports, r.Traced s.refusals

theorem sound_start (d : Desk) : (start d : Session α).Sound where
  refusals := List.forall_mem_nil _
  reports := by simp

/-- What possible work makes is traced as all that is at hand. -/
theorem Sound.after {s : Session α} (hs : s.Sound) {work : Work (Item α)}
    (h : Possible s.items work) : (s.after work).Sound where
  refusals := hs.refusals
  reports := by
    intro r hr
    rw [reports_after] at hr
    rcases List.mem_append.mp hr with hr | hr
    · exact (h.traced s.desk r hr).trans hs.reports
    · exact hs.reports r hr

/-- A refusal is a bare report. -/
theorem bare_refuse (settings : Validation.Settings) (provider : Validation.Provider)
    (findings : List Validation.Finding) (d : Desk) :
    ∀ r ∈ (settings.refuse provider findings d).1.reports, r.Bare := by
  intro r hr
  rw [Validation.Settings.refuse_apply] at hr
  obtain rfl := List.mem_singleton.mp hr
  exact ⟨rfl, rfl, rfl⟩

/-- What happens next keeps a session sound. -/
theorem Sound.step {s t : Session α} (hs : s.Sound) (h : s.Step t) : t.Sound := by
  cases h with
  | work h => exact hs.after h
  | swallow h reason => exact ⟨hs.refusals, hs.reports⟩
  | refuse settings provider findings =>
    constructor
    · intro r hr
      rcases List.mem_append.mp hr with hr | hr
      · exact bare_refuse settings provider findings s.desk r hr
      · exact hs.refusals r hr
    · intro r hr
      rcases List.mem_append.mp hr with hr | hr
      · exact .of_mem (List.mem_append_left _ hr)
      · exact (hs.reports r hr).mono (List.subset_append_right _ _)

/-- Whatever happens keeps a session sound. -/
theorem Sound.run {s t : Session α} (hs : s.Sound) (h : Relation.ReflTransGen Step s t) :
    t.Sound := by
  induction h with
  | refl => exact hs
  | tail _ step ih => exact ih.step step

end Session

/-- **A report is a bare refusal or described by its cause.**  Every report within anything
that is at hand in a session, however it came to be there, either has neither category nor
detail nor cause, and was opened to refuse input; or it has a category and a detail, and if it
has a cause, its detail is all that the cause says, or the text that stands for nothing.
Never does it have both. -/
theorem bare_refusal_xor_described {d : Desk} {s : Session α}
    (h : Relation.ReflTransGen Session.Step (Session.start d) s) {r : Report}
    (hr : r ∈ s.reports) :
    Xor (r.Bare ∧ ∃ refusal ∈ s.refusals, r.SameOpening refusal) r.Described := by
  have sound := (Session.sound_start d).run h
  rcases sound.reports r hr with described | ⟨refusal, hmem, same⟩
  · exact Or.inr ⟨described, fun bare => bare.1.not_described described⟩
  · have bare : r.Bare := (sound.refusals refusal hmem).of_sameOpening same
    exact Or.inl ⟨⟨bare, refusal, hmem, same⟩, bare.not_described⟩

/-- A refusal is erased, put under a context and recovered; and an error that says nothing is
enriched. -/
theorem bare_refusal_xor_described_after_recovery :
    let d := Desk.fresh fun n => ⟨if n = 0 then "first" else "second", "0"⟩
    let refusal : Report := { Report.blank ⟨"first", "0"⟩ none with
      message := "Invalid Inputs"
      operations := ["saving circle"] }
    let silent : Report := { Report.blank ⟨"second", "0"⟩ (some .internal) with
      detail := "unspecified error"
      operations := ["dial cluster"]
      cause := some (.ofText "") }
    ∃ s : Session Unit, Relation.ReflTransGen Session.Step (Session.start d) s ∧
      refusal ∈ s.reports ∧ silent ∈ s.reports ∧ refusal.Bare ∧ silent.Described := by
  intro d refusal silent
  let f : Failure := .reported { refusal with operations := [] }
  let s₁ : Session Unit :=
    (Session.start d).afterRefusal .standard Validation.Translations.english []
  let s₂ := s₁.after (Item.of .stack (return f.erase))
  let s₃ := s₂.after (Item.of .stack (return .over (.text "saving circle") f.erase))
  let s₄ := s₃.after (Item.of .failure
    (return Form.toFailure .stack (.over (.text "saving circle") f.erase)))
  let s₅ := s₄.after (Item.of .stack (return .ofCause (.ofText "")))
  let s₆ := s₅.after (Item.of .failure
    ((Form.toFailure .stack (.ofCause (.ofText ""))).enrich (.operation "dial cluster")))
  have run : Relation.ReflTransGen Session.Step (Session.start d) s₆ := by
    have h₁ : (Session.start d).Step s₁ := .refuse _ _ _ _
    have h₂ : s₁.Step s₂ := .work (.erase (k := .failure) (x := f) (List.mem_cons_self ..))
    have h₃ : s₂.Step s₃ := .work (.context (List.mem_cons_self ..) _)
    have h₄ : s₃.Step s₄ := .work (.convert (k := .stack) (List.mem_cons_self ..))
    have h₅ : s₄.Step s₅ := .work (.receive _)
    have h₆ : s₅.Step s₆ := .work (.enrich (k := .stack) (List.mem_cons_self ..) _)
    exact (((((Relation.ReflTransGen.single h₁).tail h₂).tail h₃).tail h₄).tail h₅).tail h₆
  have hrefusal : refusal ∈ s₆.reports :=
    List.mem_flatMap.mpr ⟨.held .failure (.reported refusal), .tail _ (.tail _ (.head _)),
      List.mem_singleton_self _⟩
  have hsilent : silent ∈ s₆.reports :=
    List.mem_flatMap.mpr ⟨.held .failure (.reported silent), .head _, List.mem_singleton_self _⟩
  refine ⟨s₆, run, hrefusal, hsilent, ?_, ?_⟩
  · rcases bare_refusal_xor_described run hrefusal with ⟨⟨bare, -⟩, -⟩ | ⟨described, -⟩
    · exact bare
    · exact absurd rfl described.category
  · rcases bare_refusal_xor_described run hsilent with ⟨⟨bare, -⟩, -⟩ | ⟨described, -⟩
    · exact absurd bare.category (by simp [silent, Report.blank])
    · exact described

end Faultline
