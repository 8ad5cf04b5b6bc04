import Faultline.Proofs.Passage
import Faultline.Proofs.Table

/-!
# An occurrence keeps its identity

Whatever happens to a report on its way, it stays the report of the same occurrence: it
gains operations and notes and loses nothing, also while it is erased.

## Main definitions

* `Report.Extends` — a report is a later state of another one.
* `Form.report?` — the report inside of what is held.

## Main results

* `Stack.recover_of_held?` — a report inside a stack is recovered, with operations added.
* `Move.extends_act`, `Passage.extends_act` — a move and a passage extend the report inside.
* `passage_keeps_occurrence` — **between any two moments of a passage the report is extended**,
  and what is erased and recovered at once is as it was.
-/

namespace Faultline

/-! ### Later states of a report -/

/-- A report is a later state of another one: nothing that was said when it was opened
changes, operations are only appended and no note disappears. -/
structure Report.Extends (later earlier : Report) : Prop where
  occurrence : later.occurrence = earlier.occurrence
  category : later.category = earlier.category
  detail : later.detail = earlier.detail
  message : later.message = earlier.message
  cause : later.cause = earlier.cause
  operations : earlier.operations <+: later.operations
  notes : ∀ k ∈ earlier.notes.keys, k ∈ later.notes.keys

namespace Report

@[refl] theorem Extends.refl (r : Report) : r.Extends r :=
  ⟨rfl, rfl, rfl, rfl, rfl, List.prefix_rfl, fun _ hk => hk⟩

theorem Extends.trans {r s t : Report} (h : r.Extends s) (h' : s.Extends t) : r.Extends t where
  occurrence := h.occurrence.trans h'.occurrence
  category := h.category.trans h'.category
  detail := h.detail.trans h'.detail
  message := h.message.trans h'.message
  cause := h.cause.trans h'.cause
  operations := h'.operations.trans h.operations
  notes := fun k hk => h.notes k (h'.notes k hk)

theorem extends_addOperations (r : Report) (operations : List String) :
    (r.addOperations operations).Extends r := by
  rw [addOperations_eq]
  exact ⟨rfl, rfl, rfl, rfl, rfl, List.prefix_append _ _, fun _ hk => hk⟩

theorem extends_addNotes (r : Report) (entries : List (String × String)) :
    (r.addNotes entries).Extends r :=
  ⟨rfl, rfl, rfl, rfl, rfl, List.prefix_rfl,
    fun k hk => (Table.mem_keys_putAll _ _ k).mpr (Or.inl hk)⟩

theorem extends_enrich (r : Report) (e : Enrichment) : (r.enrich e).Extends r := by
  cases e with
  | operation name => exact r.extends_addOperations [name]
  | note key value => exact r.extends_addNotes [(key, value)]

end Report

/-! ### The report inside -/

/-- The report inside a stack, without regard to the contexts above it. -/
def Stack.held? (s : Stack) : Option Report :=
  match s.failure? with
  | some f => f.report?
  | none => s.report?

/-- The report inside of what is held; there is none in a foreign failure. -/
def Form.report? : (k : Form) → k.Held → Option Report
  | report, r => some r
  | failure, f => f.report?
  | stack, s => s.held?

/-- A report inside a stack is recovered.  Contexts become operations, and nothing else
changes. -/
theorem Stack.recover_of_held? {s : Stack} {r : Report} (h : s.held? = some r) :
    s.recover = .reported (r.addOperations (s.contextsAbove r.detail)) := by
  unfold held? at h
  unfold recover
  cases hf : s.failure? with
  | none =>
    rw [hf] at h
    simp only [h]
  | some f =>
    rw [hf] at h
    cases f with
    | reported r' =>
      obtain rfl : r' = r := by simpa [Failure.report?] using h
      rfl
    | foreign inner => simp [Failure.report?] at h

/-- Converting what holds a report gives a failure with an extension of that report. -/
theorem Form.extends_toFailure {k : Form} {x : k.Held} {r : Report} (h : k.report? x = some r) :
    ∃ later : Report, k.toFailure x = .reported later ∧ later.Extends r := by
  cases k with
  | report =>
    obtain rfl : x = r := by simpa [report?] using h
    exact ⟨x, rfl, .refl x⟩
  | failure =>
    cases x with
    | reported r' =>
      obtain rfl : r' = r := by simpa [report?, Failure.report?] using h
      exact ⟨r', rfl, .refl r'⟩
    | foreign s => simp [report?, Failure.report?] at h
  | stack => exact ⟨_, Stack.recover_of_held? h, r.extends_addOperations _⟩

/-- Enriching a failure with a report enriches the report, and nothing is noticed. -/
theorem Failure.enrich_reported (r : Report) (e : Enrichment) (d : Desk) :
    (Failure.reported r).enrich e d = (.reported (r.enrich e), d) := by
  cases e <;> rfl

/-! ### Moves and passages -/

variable {α : Type} {k l : Form}

/-- Converting what holds a report and enriching the failure extends the report. -/
theorem Move.extends_act_enrich {x : k.Held} {r : Report} (hx : k.report? x = some r)
    (e : Enrichment) (d : Desk) :
    ∃ (y : Failure) (later : Report),
      (Move.enrich k e).act (.error x : Except k.Held α) d = (.error y, d) ∧
        y.report? = some later ∧ later.Extends r := by
  obtain ⟨r', hr', hext⟩ := Form.extends_toFailure hx
  refine ⟨.reported (r'.enrich e), r'.enrich e, ?_, rfl, (r'.extends_enrich e).trans hext⟩
  simp only [act, onError_error, hr', Failure.enrich_reported]

/-- A move extends the report inside.  No report is opened, and nothing is noticed. -/
theorem Move.extends_act (move : Move k l) {x : k.Held} {r : Report}
    (hx : k.report? x = some r) (d : Desk) :
    ∃ (y : l.Held) (later : Report),
      move.act (.error x : Except k.Held α) d = (.error y, d) ∧
        l.report? y = some later ∧ later.Extends r := by
  -- The moves that convert first all work on the failure of which this speaks.
  have convert := Form.extends_toFailure hx
  cases move with
  | enrichReport e =>
    obtain rfl : x = r := by simpa [Form.report?] using hx
    exact ⟨_, _, rfl, rfl, Report.extends_enrich _ e⟩
  | addNotes entries =>
    obtain rfl : x = r := by simpa [Form.report?] using hx
    exact ⟨_, _, rfl, rfl, Report.extends_addNotes _ entries⟩
  | enrich _ e => exact extends_act_enrich hx e d
  | enrichOutcome _ e =>
    rw [act_enrichOutcome]
    exact extends_act_enrich hx e d
  | eraseReport =>
    obtain rfl : x = r := by simpa [Form.report?] using hx
    exact ⟨_, _, rfl, rfl, .refl _⟩
  | eraseFailure => exact ⟨_, r, rfl, hx, .refl r⟩
  | context text => exact ⟨_, r, rfl, hx, .refl r⟩
  | convert _ =>
    obtain ⟨r', hr', hext⟩ := convert
    exact ⟨k.toFailure x, r', rfl, by rw [hr']; rfl, hext⟩
  | takeReport =>
    obtain ⟨r', hr', hext⟩ := convert
    change x = _ at hr'
    subst hr'
    exact ⟨r', r', rfl, rfl, hext⟩
  | reopen =>
    obtain ⟨r', hr', hext⟩ := convert
    change x = _ at hr'
    subst hr'
    exact ⟨.reported r', r', rfl, rfl, hext⟩

/-- A passage extends the report inside.  No report is opened, and nothing is noticed. -/
theorem Passage.extends_act (p : Passage k l) {x : k.Held} {r : Report}
    (hx : k.report? x = some r) (d : Desk) :
    ∃ (y : l.Held) (later : Report),
      p.act (.error x : Except k.Held α) d = (.error y, d) ∧
        l.report? y = some later ∧ later.Extends r := by
  induction p generalizing r with
  | rest k => exact ⟨x, r, rfl, hx, .refl r⟩
  | step move next ih =>
    obtain ⟨y, r₁, hy, hy₁, hext₁⟩ := move.extends_act (α := α) hx d
    obtain ⟨z, r₂, hz, hz₂, hext₂⟩ := ih hy₁
    exact ⟨z, r₂, by rw [act_step, hy]; exact hz, hz₂, hext₂.trans hext₁⟩

/-- What is erased and recovered at once is as it was. -/
theorem Failure.recover_erase (f : Failure) : f.erase.recover = f := by
  cases f with
  | reported r =>
    rw [Stack.recover_of_held? (r := r) rfl]
    simp [erase, Stack.contextsAbove, Stack.lines, Stack.asCause, Layer.asCause, asCause,
      Report.asCause, Cause.lines, Report.addOperations]
  | foreign s => rfl

/-- **An occurrence keeps its identity.**  From a report on, at any two moments of a passage
a report is held, the first one extends the report at the start, and the second one extends
the first; no report is opened, and nothing is noticed.  A failure that is erased and
recovered at once, foreign or not, is as it was. -/
theorem passage_keeps_occurrence (r : Report) (before : Passage .report k) (after : Passage k l)
    (d : Desk) :
    (∃ (x : k.Held) (y : l.Held) (r₁ r₂ : Report),
      before.act (.error r : Except Report α) d = (.error x, d) ∧
        after.act (.error x : Except k.Held α) d = (.error y, d) ∧
        k.report? x = some r₁ ∧ l.report? y = some r₂ ∧ r₁.Extends r ∧ r₂.Extends r₁) ∧
      ∀ f : Failure,
        (Passage.step .eraseFailure (.step (.convert .stack) (.rest .failure))).act
          (.error f : Outcome α) d = (.error f, d) := by
  constructor
  · obtain ⟨x, r₁, hx, hx₁, hext₁⟩ := before.extends_act (α := α) (x := r) rfl d
    obtain ⟨y, r₂, hy, hy₂, hext₂⟩ := after.extends_act (α := α) hx₁ d
    exact ⟨x, y, r₁, r₂, hx, hy, hx₁, hy₂, hext₁, hext₂⟩
  · intro f
    change (Except.error (f.erase.recover), d) = _
    rw [f.recover_erase]

end Faultline
