import Faultline.Proofs.Enrichment

/-!
# What a foreign failure hides

A stack is converted into a foreign failure only if it was searched in vain, for a failure and for
a report; and a foreign failure that is found in a layer is taken out as it is.  So it depends on
how that one was made whether something is hidden in it.  A failure that came about by conversions
alone hides nothing, however often it was erased and converted since: enriching it opens a report
only where there was none.

## Main definitions

* `Stack.Textual` — nothing but texts is in the layers of a stack.
* `Failure.Searched`, `Stack.Searched` — a failure is foreign only with such a stack, and so are
  the failures in the layers of a stack.
* `Converted` — what comes about by erasing, by putting contexts on stacks and by converting.

## Main results

* `Stack.textual_iff` — there are only texts in a stack exactly if nothing is found in it.
* `Form.searched_erase`, `Form.searched_toFailure` — what one step keeps.
* `Converted.searched` — what is kept over any number of steps.
* `foreign_hides_no_report` — **no layer of a foreign failure is a failure or a report**, and no
  report within a failure is buried under a fresh one.
-/

namespace Faultline

/-! ### Stacks in which nothing can be found -/

/-- Nothing but texts is in the layers of a stack. -/
def Stack.Textual (s : Stack) : Prop := ∀ layer ∈ s.layers, ∃ t, layer = .text t

namespace Stack

/-- There are only texts in a stack exactly if neither a failure nor a report is found in it. -/
theorem textual_iff {s : Stack} : s.Textual ↔ s.failure? = none ∧ s.report? = none := by
  constructor
  · intro h
    have hf : s.failure? = none := by
      rw [failure?_eq_findSome?, List.findSome?_eq_none_iff]
      intro layer hl
      obtain ⟨t, rfl⟩ := h layer hl
      rfl
    refine ⟨hf, ?_⟩
    rw [report?_eq_findSome? hf, List.findSome?_eq_none_iff]
    intro layer hl
    obtain ⟨t, rfl⟩ := h layer hl
    rfl
  · rintro ⟨hf, hr⟩ layer hl
    rw [report?_eq_findSome? hf, List.findSome?_eq_none_iff] at hr
    rw [failure?_eq_findSome?, List.findSome?_eq_none_iff] at hf
    cases layer with
    | text t => exact ⟨t, rfl⟩
    | report r => cases hr _ hl
    | failure f => cases hf _ hl

/-- There are only texts in the stack that is made of a cause. -/
theorem textual_ofTexts (t : String) (ts : List String) : (ofTexts t ts).Textual := by
  induction ts generalizing t with
  | nil => exact List.forall_mem_singleton.mpr ⟨t, rfl⟩
  | cons u us ih => exact List.forall_mem_cons.mpr ⟨⟨t, rfl⟩, ih u⟩

/-- There is no report within a stack of texts. -/
theorem Textual.reports_eq_nil {s : Stack} (h : s.Textual) : s.reports = [] := by
  rw [reports_eq_flatMap, List.flatMap_eq_nil_iff]
  intro layer hl
  obtain ⟨t, rfl⟩ := h layer hl
  rfl

end Stack

/-! ### Failures that were searched -/

/-- If a failure is foreign, there are only texts in its stack. -/
def Failure.Searched (f : Failure) : Prop := ∀ s, f = .foreign s → s.Textual

/-- If a layer is a failure, it was searched. -/
def Layer.Searched (layer : Layer) : Prop := ∀ f, layer = .failure f → f.Searched

/-- The failures in the layers of a stack were searched. -/
def Stack.Searched (s : Stack) : Prop := ∀ layer ∈ s.layers, layer.Searched

/-- The failures were searched that are held, or are layers of what is held. -/
def Form.Searched : (k : Form) → k.Held → Prop
  | report, _ => True
  | failure, f => f.Searched
  | stack, s => s.Searched

theorem Failure.searched_reported (r : Report) : (reported r).Searched := fun _ h => nomatch h

theorem Layer.searched_text (t : String) : (text t).Searched := fun _ h => nomatch h

theorem Layer.searched_report (r : Report) : (report r).Searched := fun _ h => nomatch h

theorem Layer.searched_failure {f : Failure} (h : f.Searched) : (failure f).Searched := by
  rintro _ ⟨⟩
  exact h

namespace Stack

variable {s : Stack}

theorem searched_root {base : Layer} : (root base).Searched ↔ base.Searched :=
  List.forall_mem_singleton

theorem searched_over {context : Layer} :
    (Stack.over context s).Searched ↔ context.Searched ∧ s.Searched :=
  List.forall_mem_cons

theorem Textual.searched (h : s.Textual) : s.Searched := by
  intro layer hl
  obtain ⟨t, rfl⟩ := h layer hl
  exact Layer.searched_text t

/-- The failure that is found in a stack is one of its layers, and was searched as these were. -/
theorem Searched.of_failure? (h : s.Searched) {f : Failure} (hf : s.failure? = some f) :
    f.Searched := by
  rw [failure?_eq_findSome?] at hf
  obtain ⟨layer, hmem, hlayer⟩ := List.exists_of_findSome?_eq_some hf
  cases layer with
  | text t => cases hlayer
  | report r => cases hlayer
  | failure g =>
    obtain rfl : g = f := Option.some.inj hlayer
    exact h _ hmem g rfl

/-- **Recovery searches.**  If the failures in the layers of a stack were searched, so was the one
that is recovered: either it is found in a layer, or there was nothing to be found. -/
theorem Searched.recover (h : s.Searched) : s.recover.Searched := by
  intro inner hinner
  cases hf : s.failure? with
  | some f =>
    cases f with
    | reported r =>
      rw [recover_of_failure?_reported hf] at hinner
      cases hinner
    | foreign t =>
      rw [recover_of_failure?_foreign hf] at hinner
      exact h.of_failure? hf inner hinner
  | none =>
    cases hr : s.report? with
    | some r =>
      rw [recover_of_held? (by rw [held?, hf, hr])] at hinner
      cases hinner
    | none =>
      rw [recover_of_none hf hr] at hinner
      obtain rfl := Failure.foreign.inj hinner
      exact textual_iff.mpr ⟨hf, hr⟩

end Stack

/-! ### What one step keeps -/

namespace Form

variable {k : Form} {x : k.Held}

/-- What is erased is a layer. -/
theorem searched_erase (h : k.Searched x) : (k.erase x).Searched := by
  cases k with
  | report => exact Stack.searched_root.mpr (Layer.searched_report x)
  | failure => exact Stack.searched_root.mpr (Layer.searched_failure h)
  | stack => exact h

/-- What is converted was searched before, or is searched now. -/
theorem searched_toFailure (h : k.Searched x) : (k.toFailure x).Searched := by
  cases k with
  | report => exact Failure.searched_reported x
  | failure => exact h
  | stack => exact Stack.Searched.recover h

end Form

/-! ### Any number of steps -/

/-- What comes about by erasing, by putting contexts on stacks and by converting.  Any report may
be at hand, so whatever is done to a failure that has one needs no steps of its own. -/
inductive Converted : (k : Form) → k.Held → Prop
  /-- An error comes from elsewhere; nothing but its texts can be seen. -/
  | receive (cause : Cause) : Converted .stack (.ofCause cause)
  /-- A report is at hand. -/
  | report (r : Report) : Converted .report r
  /-- An error of the operating system is converted. -/
  | convertSystem (e : Host.Error) (d : Desk) : Converted .failure (Failure.ofSystem e d).1
  /-- What is held is converted into a failure. -/
  | convert {k : Form} {x : k.Held} (h : Converted k x) : Converted .failure (k.toFailure x)
  /-- What is held is erased. -/
  | erase {k : Form} {x : k.Held} (h : Converted k x) : Converted .stack (k.erase x)
  /-- A text is put on a stack. -/
  | context {s : Stack} (h : Converted .stack s) (text : String) :
      Converted .stack (.over (.text text) s)
  /-- A report is put on a stack. -/
  | contextReport {s : Stack} (h : Converted .stack s) (r : Report) :
      Converted .stack (.over (.report r) s)
  /-- A failure is put on a stack. -/
  | contextFailure {s : Stack} {f : Failure} (h : Converted .stack s)
      (hf : Converted .failure f) : Converted .stack (.over (.failure f) s)
  /-- The stack of a foreign failure is taken out. -/
  | takeStack {s : Stack} (h : Converted .failure (.foreign s)) : Converted .stack s

/-- To take something for a foreign failure is to erase it and to convert that. -/
theorem Converted.takenForForeign {k : Form} {x : k.Held} (h : Converted k x) :
    Converted .failure (k.erase x).recover :=
  h.erase.convert

/-- **Whatever comes about by conversions was searched.** -/
theorem Converted.searched {k : Form} {x : k.Held} (h : Converted k x) : k.Searched x := by
  -- What is carried is said of stacks as well: a foreign failure may be taken out of a layer.
  induction h with
  | receive cause => exact (Stack.textual_ofTexts _ _).searched
  | report r => trivial
  | convertSystem e d => exact Failure.searched_reported _
  | convert _ ih => exact Form.searched_toFailure ih
  | erase _ ih => exact Form.searched_erase ih
  | context _ text ih => exact Stack.searched_over.mpr ⟨Layer.searched_text text, ih⟩
  | contextReport _ r ih => exact Stack.searched_over.mpr ⟨Layer.searched_report r, ih⟩
  | contextFailure _ _ ih ihf => exact Stack.searched_over.mpr ⟨Layer.searched_failure ihf, ih⟩
  | takeStack _ ih => exact (ih _ rfl).searched

/-- Enriching a foreign failure opens an internal report on what its stack says. -/
theorem Failure.enrich_foreign (s : Stack) (e : Enrichment) (d : Desk) :
    ∃ fresh : Report, fresh.occurrence = d.supply d.issued ∧
      fresh.OpenedOn .internal s.asCause ∧
      ((foreign s).enrich e d).1 = .reported (fresh.enrich e) :=
  ⟨_, rfl, ⟨rfl, rfl, rfl⟩, by rw [enrich_apply]⟩

/-- **A foreign failure hides no report.**  If a failure came about by conversions alone, over any
number of erasures and contexts, and is foreign, then neither a failure nor a report is found in
its stack, for there are only texts in the layers.  So enriching the failure enriches the report
that it has, and nothing else happens; or a report is opened, but then there was none within the
failure, however deep. -/
theorem foreign_hides_no_report {f : Failure} (h : Converted .failure f) :
    (∀ s, f = .foreign s → s.failure? = none ∧ s.report? = none ∧
      ∀ layer ∈ s.layers, ∃ t, layer = .text t) ∧
    ∀ (e : Enrichment) (d : Desk),
      (∃ r, f = .reported r ∧ f.enrich e d = (.reported (r.enrich e), d)) ∨
        f.reports = [] ∧ ∃ (s : Stack) (fresh : Report), f = .foreign s ∧
          fresh.occurrence = d.supply d.issued ∧ fresh.OpenedOn .internal s.asCause ∧
          (f.enrich e d).1 = .reported (fresh.enrich e) := by
  have searched : f.Searched := h.searched
  constructor
  · intro s hs
    have textual := searched s hs
    obtain ⟨hf, hr⟩ := Stack.textual_iff.mp textual
    exact ⟨hf, hr, textual⟩
  · intro e d
    cases f with
    | reported r => exact Or.inl ⟨r, rfl, Failure.enrich_reported r e d⟩
    | foreign s =>
      obtain ⟨fresh, occurrence, opened, enriched⟩ := Failure.enrich_foreign s e d
      exact Or.inr ⟨(searched s rfl).reports_eq_nil, s, fresh, rfl, occurrence, opened, enriched⟩

/-- A foreign failure is erased and put on another error, which is erased and converted: it comes
out as it was, and enriching it opens a report. -/
theorem foreign_hides_no_report_erased :
    let unclassified : Stack := .ofCause ⟨"dial cluster", ["connection refused"]⟩
    let s : Stack := .over (.text "rendering page") <| .over (.failure (.foreign unclassified)) <|
      .ofCause (.ofText "row missing")
    let d := Desk.fresh fun _ => ⟨"first", "0"⟩
    Converted .failure s.recover ∧ s.recover = .foreign unclassified ∧
      (∀ layer ∈ unclassified.layers, ∃ t, layer = .text t) ∧ s.recover.reports = [] ∧
      ∃ fresh : Report, fresh.category = some .internal ∧
        (s.recover.enrich (.operation "page.Render") d).1 =
          .reported (fresh.addOperation "page.Render") := by
  intro unclassified s d
  have received : Converted .stack unclassified := .receive _
  have made : Converted .failure (.foreign unclassified) := received.takenForForeign
  have stacked : Converted .stack s :=
    .context (.contextFailure (.receive (.ofText "row missing")) made) "rendering page"
  have converted : Converted .failure s.recover := stacked.convert
  have recovered : s.recover = .foreign unclassified := rfl
  obtain ⟨hidden, enriched⟩ := foreign_hides_no_report converted
  refine ⟨converted, recovered, (hidden _ recovered).2.2, ?_⟩
  rcases enriched (.operation "page.Render") d with
    ⟨r, hr, -⟩ | ⟨none_within, t, fresh, -, -, opened, hfresh⟩
  · cases recovered.symm.trans hr
  · exact ⟨none_within, fresh, opened.category, hfresh⟩

end Faultline
