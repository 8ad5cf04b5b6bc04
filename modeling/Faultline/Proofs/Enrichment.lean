import Faultline.Proofs.Session.Opening
import Faultline.Proofs.Table

/-!
# Runs of enrichments

Whatever a failure begins as, and by whichever way the things reach it that are learned of it,
it ends with one report: the operations stand in the order in which they were learned, and at
each key stands the last remark.  So a run can be told in a closed form, parts of it can be
exchanged, and its result can be made at once.

## Main definitions

* `Report.SameContent` — two reports say the same, perhaps of different occurrences.
* `Report.OpenedOn` — a report was opened on a cause.
* `Route`, `learning` — the ways on which something learned reaches a failure.
* `Origin` — as what a failure can begin.
* `Origin.Learned` — what is learned of a failure, in closed form.

## Main results

* `Report.enrichAll_eq` — a report after all that was learned.
* `Report.SameContent.written_eq` — reports of one occurrence that say the same are written alike.
* `Report.enrich_enrich_sameContent` — what is independent can be exchanged.
* `Failure.compose_sameContent_iff` — when a report can be made at once.
* `meaning_of_enrichments` — **what a run of enrichments means.**
-/

namespace Faultline

variable {α : Type}

/-! ### What is learned -/

namespace Enrichment

/-- The operation, if one is learned. -/
def operation? : Enrichment → Option String
  | operation name => some name
  | note _ _ => none

/-- The remark with its key, if one is learned. -/
def note? : Enrichment → Option (String × String)
  | operation _ => none
  | note key value => some (key, value)

/-- It cannot be seen afterwards which of two things was learned first: they are of two kinds,
or remarks at two keys. -/
def Independent : Enrichment → Enrichment → Prop
  | operation _, operation _ => False
  | note key _, note key' _ => key ≠ key'
  | operation _, note _ _ => True
  | note _ _, operation _ => True

end Enrichment

/-! ### Reports that say the same -/

namespace Report

/-- Two reports say the same, perhaps of different occurrences, and the keys of their notes may
have come in another order. -/
structure SameContent (r s : Report) : Prop where
  message : r.message = s.message
  detail : r.detail = s.detail
  operations : r.operations = s.operations
  category : r.category = s.category
  notes : r.notes.Same s.notes
  cause : r.cause = s.cause

namespace SameContent

variable {r s : Report}

@[refl] theorem refl (r : Report) : r.SameContent r := ⟨rfl, rfl, rfl, rfl, .refl _, rfl⟩

/-- Reports that say the same say the same after the same was learned. -/
theorem enrich (h : r.SameContent s) (e : Enrichment) : (r.enrich e).SameContent (s.enrich e) := by
  cases e with
  | operation name =>
    exact { h with operations := congrArg (· ++ [name]) h.operations }
  | note key value => exact { h with notes := h.notes.put key value }

/-- Reports of one occurrence that say the same are written alike. -/
theorem written_eq (h : r.SameContent s) (ho : r.occurrence = s.occurrence) :
    r.json = s.json ∧ r.dump = s.dump := by
  have htag : r.tag = s.tag := by rw [tag, tag, h.category]
  have hempty : r.notes.isEmpty = s.notes.isEmpty := by
    rw [Table.isEmpty, Table.isEmpty, h.notes.perm.isEmpty_eq]
  constructor
  · simp only [json, shown, ho, h.message, h.detail, htag]
  · simp only [dump, noteLines, ho, h.message, h.detail, h.operations, h.cause, htag, hempty,
      h.notes.sorted_eq]

end SameContent

/-- What is independent can be exchanged. -/
theorem enrich_enrich_sameContent (r : Report) {a b : Enrichment} (h : a.Independent b) :
    ((r.enrich a).enrich b).SameContent ((r.enrich b).enrich a) := by
  cases a with
  | operation name =>
    cases b with
    | operation name' => exact h.elim
    | note key value => exact .refl _
  | note key value =>
    cases b with
    | operation name => exact .refl _
    | note key' value' =>
      exact ⟨rfl, rfl, rfl, rfl, Table.put_put_same r.notes h value value', rfl⟩

/-! ### All that is learned -/

/-- The report with all that was learned, one thing after the other. -/
def enrichAll (r : Report) (es : List Enrichment) : Report := es.foldl enrich r

/-- **A report after all that was learned**: operations are appended, and remarks are written. -/
theorem enrichAll_eq (r : Report) (es : List Enrichment) :
    r.enrichAll es = { r with
      operations := r.operations ++ es.filterMap Enrichment.operation?
      notes := r.notes.putAll (es.filterMap Enrichment.note?) } := by
  induction es generalizing r with
  | nil => simp [enrichAll]
  | cons e es ih =>
    change (r.enrich e).enrichAll es = _
    rw [ih]
    cases e with
    | operation name =>
      simp [enrich, addOperation, List.filterMap_cons, Enrichment.operation?, Enrichment.note?]
    | note key value =>
      simp [enrich, addNote, List.filterMap_cons, Enrichment.operation?, Enrichment.note?]

/-- Reports that say the same say the same after all that was learned. -/
theorem SameContent.enrichAll {r s : Report} (h : r.SameContent s) (es : List Enrichment) :
    (r.enrichAll es).SameContent (s.enrichAll es) := by
  induction es generalizing r s with
  | nil => exact h
  | cons e es ih => exact ih (h.enrich e)

/-- Wherever two independent things are learned one after the other, they can be exchanged. -/
theorem enrichAll_exchange (r : Report) (before after : List Enrichment) {a b : Enrichment}
    (h : a.Independent b) :
    (r.enrichAll (before ++ a :: b :: after)).occurrence =
        (r.enrichAll (before ++ b :: a :: after)).occurrence ∧
      (r.enrichAll (before ++ a :: b :: after)).SameContent
        (r.enrichAll (before ++ b :: a :: after)) := by
  constructor
  · rw [enrichAll_eq, enrichAll_eq]
  · simp only [Report.enrichAll, List.foldl_append, List.foldl_cons]
    exact (enrich_enrich_sameContent _ h).enrichAll after

/-! ### Making a report at once -/

/-- A report was opened on a cause. -/
structure OpenedOn (r : Report) (c : Category) (e : Cause) : Prop where
  category : r.category = some c
  cause : r.cause = some e
  detail : r.detail = specified e.joined

/-- A described report that has a cause was opened on it. -/
theorem Described.openedOn {r : Report} (h : r.Described) {category : Category} {cause : Cause}
    (hcategory : r.category = some category) (hcause : r.cause = some cause) :
    r.OpenedOn category cause := by
  refine ⟨hcategory, hcause, ?_⟩
  simp only [h.cause cause hcause, specified, unspecified, String.isEmpty_iff]

/-- Reports that were opened alike were opened on the same causes. -/
theorem SameOpening.openedOn_iff {r s : Report} (h : r.SameOpening s) {category : Category}
    {cause : Cause} : r.OpenedOn category cause ↔ s.OpenedOn category cause := by
  constructor
  · rintro ⟨hcategory, hcause, hdetail⟩
    exact ⟨h.category ▸ hcategory, h.cause ▸ hcause, h.detail ▸ hdetail⟩
  · rintro ⟨hcategory, hcause, hdetail⟩
    exact ⟨h.category.trans hcategory, h.cause.trans hcause, h.detail.trans hdetail⟩

end Report

/-- A report can be made at once from what another one says.  Its message, its operations and
what its notes hold are as they were given; all of it is the same exactly if the other one was
opened on the category and the cause that are given. -/
theorem Failure.compose_sameContent_iff (r : Report) (category : Category) (cause : Cause)
    {seed : List (String × String)} (h : (Table.ofList seed).Same r.notes) (d : Desk) :
    ∃ s : Report, (compose r.message cause category seed r.operations d).1 = .reported s ∧
      s.message = r.message ∧ s.operations = r.operations ∧ s.notes.Same r.notes ∧
      (s.SameContent r ↔ r.OpenedOn category cause) := by
  refine ⟨_, rfl, ?_⟩
  rw [Report.addOperations_eq]
  refine ⟨rfl, rfl, h, ?_, ?_⟩
  · intro same
    exact ⟨same.category.symm, same.cause.symm, same.detail.symm⟩
  · intro opened
    exact ⟨rfl, opened.detail.symm, rfl, opened.category.symm, h, opened.cause.symm⟩

/-! ### Ways to a failure -/

/-- The ways on which something learned reaches a failure. -/
inductive Route
  /-- It is told to what is held. -/
  | held
  /-- It is told to an outcome, and reaches the failing side. -/
  | outcome
  deriving DecidableEq, Repr

/-- The move by which something learned reaches a failure. -/
def Route.move (route : Route) (k : Form) (e : Enrichment) : Move k .failure :=
  match route with
  | held => .enrich k e
  | outcome => .enrichOutcome k e

/-- The passage on which things are learned of what is held, each on its way; what is held is
converted first. -/
def learning : (k : Form) → List (Route × Enrichment) → Passage k .failure
  | k, [] => .step (.convert k) (.rest .failure)
  | k, (route, e) :: steps => .step (route.move k e) (learning .failure steps)

/-- On either way it is a report that is enriched, and it may be opened for that. -/
theorem Route.act_move (route : Route) (k : Form) (e : Enrichment) (x : k.Held) (d : Desk) :
    (route.move k e).act (.error x : Except k.Held α) d =
      (.error (.reported (((k.toFailure x).toReport d).1.enrich e)),
        ((k.toFailure x).toReport d).2) := by
  cases route with
  | held => rw [move, Move.act, onError_error, Failure.enrich_apply]
  | outcome => rw [move, Move.act_enrichOutcome, Move.act, onError_error, Failure.enrich_apply]

/-- A report that is there is enriched with all that is learned, and nothing is noticed. -/
theorem act_learning_reported (r : Report) (steps : List (Route × Enrichment)) (d : Desk) :
    (learning .failure steps).act (.error (.reported r) : Outcome α) d =
      (.error (.reported (r.enrichAll (steps.map Prod.snd))), d) := by
  induction steps generalizing r with
  | nil => rfl
  | cons step steps ih =>
    rw [learning, Passage.act_step, Route.act_move]
    exact ih (r.enrich step.2)

/-- If anything is learned of what is held, its report is enriched with all of it. -/
theorem act_learning {k : Form} (x : k.Held) {steps : List (Route × Enrichment)}
    (h : steps ≠ []) (d : Desk) :
    (learning k steps).act (.error x : Except k.Held α) d =
      (.error (.reported (((k.toFailure x).toReport d).1.enrichAll (steps.map Prod.snd))),
        ((k.toFailure x).toReport d).2) := by
  cases steps with
  | nil => exact absurd rfl h
  | cons step steps =>
    rw [learning, Passage.act_step, Route.act_move]
    exact act_learning_reported _ steps _

/-! ### Origins -/

/-- As what a failure can begin. -/
inductive Origin
  /-- Something that is held. -/
  | held (k : Form) (x : k.Held)
  /-- An error of the operating system. -/
  | system (e : Host.Error)

namespace Origin

/-- The failure that an origin converts into. -/
def convert : Origin → Work Failure
  | held k x => return k.toFailure x
  | system e => Failure.ofSystem e

/-- The report that is enriched: the one of the failure that an origin converts into, or one
that is opened for that. -/
def begin (x : Origin) : Work Report := do (← x.convert).toReport

/-- The report that is there at the start, if one is. -/
def report? : Origin → Option Report
  | held k x => (k.toFailure x).report?
  | system _ => none

/-- The operations at the start; there are none without a report. -/
def operations (x : Origin) : List String := (x.report?.map Report.operations).getD []

/-- The notes at the start; there are none without a report. -/
def notes (x : Origin) : Table String := (x.report?.map Report.notes).getD .empty

/-- Things are learned of what begins as an origin, or of a value. -/
def learn : Except Origin α → List (Route × Enrichment) → Work (Outcome α)
  | .ok a, steps => (learning .failure steps).act (.ok a)
  | .error (held k x), steps => (learning k steps).act (.error x)
  | .error (system e), steps => do
    let f ← Failure.ofSystem e
    (learning .failure steps).act (.error f)

/-- The category and the cause on which the report is opened that is enriched. -/
def OpenedOn : Origin → Category → Cause → Prop
  | held k x, category, cause =>
    match k.toFailure x with
    | .reported r => r.OpenedOn category cause
    | .foreign s => category = .internal ∧ cause = s.asCause
  | system e, category, cause =>
    category = (if e.kind = .notFound then .notFound else .internal) ∧ cause = e.cause

/-- What is learned of a failure, in closed form: the operations in their order, at each key
the last remark, and all else as it was at the start. -/
structure Learned (x : Origin) (es : List Enrichment) (d : Desk) (r : Report) : Prop where
  operations : r.operations = x.operations ++ es.filterMap Enrichment.operation?
  notes : ∀ key, r.notes.get? key =
    ((es.filterMap Enrichment.note?).reverse.lookup key).or (x.notes.get? key)
  keys : ∀ key, key ∈ r.notes.keys ↔
    key ∈ x.notes.keys ∨ key ∈ (es.filterMap Enrichment.note?).map Prod.fst
  size : r.notes.size = x.notes.size +
    (((es.filterMap Enrichment.note?).map Prod.fst).toFinset \ x.notes.keys.toFinset).card
  opening : r.SameOpening (x.begin d).1
  message : r.message = (x.begin d).1.message

/-- The report that is enriched has the operations and the notes of the start. -/
theorem begin_eq (x : Origin) (d : Desk) :
    (x.begin d).1.operations = x.operations ∧ (x.begin d).1.notes = x.notes := by
  cases x with
  | held k x =>
    change ((k.toFailure x).toReport d).1.operations = _ ∧
      ((k.toFailure x).toReport d).1.notes = _
    rw [operations, notes, report?]
    cases k.toFailure x <;> exact ⟨rfl, rfl⟩
  | system e => exact ⟨rfl, rfl⟩

/-- The report that is enriched is opened on what the origin says. -/
theorem begin_openedOn_iff (x : Origin) (category : Category) (cause : Cause) (d : Desk) :
    (x.begin d).1.OpenedOn category cause ↔ x.OpenedOn category cause := by
  -- A report that is opened for the origin has a category and a cause of its own.
  have opened (category' : Category) (cause' : Cause) (d : Desk) :
      (Report.ofCause category' cause' d).1.OpenedOn category cause ↔
        category = category' ∧ cause = cause' := by
    constructor
    · intro h
      exact ⟨(Option.some.inj h.category).symm, (Option.some.inj h.cause).symm⟩
    · rintro ⟨rfl, rfl⟩
      exact ⟨rfl, rfl, rfl⟩
  cases x with
  | held k x =>
    change ((k.toFailure x).toReport d).1.OpenedOn category cause ↔ _
    rw [OpenedOn]
    cases k.toFailure x with
    | reported r => rfl
    | foreign s => exact opened .internal s.asCause _
  | system e => exact opened _ _ d

/-- If anything is learned, the report is enriched with all of it. -/
theorem learn_error (x : Origin) {steps : List (Route × Enrichment)} (h : steps ≠ []) (d : Desk) :
    learn (.error x : Except Origin α) steps d =
      (.error (.reported ((x.begin d).1.enrichAll (steps.map Prod.snd))), (x.begin d).2) := by
  cases x with
  | held k x => exact act_learning x h d
  | system e => exact act_learning (k := .failure) _ h _

/-- The closed form of a report after all that was learned. -/
theorem learned_enrichAll (x : Origin) (es : List Enrichment) (d : Desk) :
    x.Learned es d ((x.begin d).1.enrichAll es) := by
  obtain ⟨operations_eq, notes_eq⟩ := x.begin_eq d
  rw [Report.enrichAll_eq, operations_eq, notes_eq]
  exact {
    operations := rfl
    notes := Table.get?_putAll x.notes _
    keys := Table.mem_keys_putAll x.notes _
    size := Table.size_putAll x.notes _
    opening := ⟨rfl, rfl, rfl, rfl⟩
    message := rfl }

end Origin

/-- **What a run of enrichments means.**  As whatever a failure begins, if anything is learned
of it, it ends with a report: that of the start, or one opened then, with the operations in
the order in which they were learned and at each key the last remark.  The report can be made
at once, exactly from the category and the cause on which it was opened; and if it is described
by its cause, it was opened on that.  Two independent things can be exchanged, and the reports
are written alike.  A value is left alone, and nothing is noticed. -/
theorem meaning_of_enrichments (x : Origin) (a : α) (d : Desk) :
    (∀ steps ≠ [], ∃ r : Report,
      Origin.learn (.error x : Except Origin α) steps d =
        (.error (.reported r), (x.begin d).2) ∧
      x.Learned (steps.map Prod.snd) d r ∧
      ∀ (category : Category) (cause : Cause) (seed : List (String × String)) (d' : Desk),
        (Table.ofList seed).Same r.notes →
        ∃ s : Report,
          (Failure.compose r.message cause category seed r.operations d').1 = .reported s ∧
          s.message = r.message ∧ s.operations = r.operations ∧ s.notes.Same r.notes ∧
          (s.SameContent r ↔ x.OpenedOn category cause) ∧
          (r.Described → r.category = some category → r.cause = some cause →
            x.OpenedOn category cause)) ∧
    (∀ (before after : List (Route × Enrichment)) (e e' : Route × Enrichment),
      e.2.Independent e'.2 → ∃ r s : Report,
        Origin.learn (.error x : Except Origin α) (before ++ e :: e' :: after) d =
          (.error (.reported r), (x.begin d).2) ∧
        Origin.learn (.error x : Except Origin α) (before ++ e' :: e :: after) d =
          (.error (.reported s), (x.begin d).2) ∧
        r.occurrence = s.occurrence ∧ r.SameContent s ∧ r.json = s.json ∧ r.dump = s.dump) ∧
    ∀ steps, Origin.learn (.ok a) steps d = (.ok a, d) := by
  refine ⟨fun steps h => ?_, fun before after e e' h => ?_, fun steps => ?_⟩
  · have learned := x.learned_enrichAll (steps.map Prod.snd) d
    refine ⟨_, x.learn_error h d, learned, fun category cause seed d' hseed => ?_⟩
    obtain ⟨s, hs, message, operations, notes, same_iff⟩ :=
      Failure.compose_sameContent_iff _ category cause hseed d'
    have opened_iff := learned.opening.openedOn_iff.trans (x.begin_openedOn_iff category cause d)
    refine ⟨s, hs, message, operations, notes, same_iff.trans opened_iff, ?_⟩
    intro described hcategory hcause
    exact opened_iff.mp (described.openedOn hcategory hcause)
  · have exchange := (x.begin d).1.enrichAll_exchange (before.map Prod.snd) (after.map Prod.snd) h
    simp only [← List.map_cons, ← List.map_append] at exchange
    obtain ⟨same_occurrence, same⟩ := exchange
    exact ⟨_, _, x.learn_error (by simp) d, x.learn_error (by simp) d, same_occurrence, same,
      same.written_eq same_occurrence⟩
  · exact Passage.act_ok _ a d

/-- A file is missing, and two remarks at one key and an operation are learned of it on both
ways; or the same report is made at once. -/
theorem meaning_of_enrichments_of_missing_file :
    let d := Desk.fresh fun _ => ⟨"first", "0"⟩
    let missing := Origin.system ⟨.notFound, .ofText "manifest is missing"⟩
    let steps : List (Route × Enrichment) := [(.outcome, .note "path" "/etc"),
      (.held, .operation "manifest.read"), (.outcome, .note "path" "/srv")]
    let r : Report := { Report.blank ⟨"first", "0"⟩ (some .notFound) with
      detail := "manifest is missing"
      operations := ["manifest.read"]
      notes := .ofList [("path", "/srv")]
      cause := some (.ofText "manifest is missing") }
    steps ≠ [] ∧
      Origin.learn (.error missing : Except Origin Unit) steps d =
        (.error (.reported r), (missing.begin d).2) ∧
      ∃ s : Report, s.SameContent r ∧
        (Failure.compose "" (.ofText "manifest is missing") .notFound [("path", "/srv")]
          ["manifest.read"] d).1 = .reported s := by
  intro d missing steps r
  have learned : steps ≠ [] := List.cons_ne_nil _ _
  obtain ⟨run, -, -⟩ := meaning_of_enrichments missing () d
  obtain ⟨q, hq, -, made⟩ := run steps learned
  obtain rfl : r = q := Failure.reported.inj (Except.error.inj (congrArg Prod.fst hq))
  obtain ⟨s, hs, -, -, -, same_iff, -⟩ :=
    made .notFound (.ofText "manifest is missing") [("path", "/srv")] d (.refl _)
  exact ⟨learned, hq, s, same_iff.mpr ⟨rfl, rfl⟩, hs⟩

end Faultline
