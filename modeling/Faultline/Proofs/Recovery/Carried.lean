import Faultline.Proofs.Passage.Contexts
import Faultline.Proofs.Recovery

/-!
# What is still carried after recovery

A stack says many texts: those of its contexts and those of the error at its root.  The
failure that is recovered from it is one of its layers, and it carries the texts of that
layer; of the others only those can be carried that stand above it and become operations.

## Main definitions

* `Failure.Carries` — a text can still be found in a failure.
* `Report.layer` — the layer that a report is put on a stack as.

## Main results

* `carries_foreign` — a foreign failure carries the parts of what its stack says.
* `contexts_around_foreign` — **contexts on an erased foreign failure are lost**, while those
  that are put on a stack before it becomes a failure are carried.
* `carries_over_report` — **what is beneath a report is lost** when the report is recovered.
-/

namespace Faultline

/-! ### Texts that a failure carries -/

/-- The operations of the report that a failure has; a foreign failure has none. -/
def Failure.operations (f : Failure) : List String := (f.report?.map Report.operations).getD []

/-- A text can still be found in a failure: it is a part of what the failure says in one
line, or one of the texts that led to the failure, or one of the operations. -/
def Failure.Carries (f : Failure) (t : String) : Prop :=
  t.toList <:+: f.details.toList ∨ t ∈ f.asCause.lines ∨ t ∈ f.operations

instance (f : Failure) (t : String) : Decidable (f.Carries t) :=
  inferInstanceAs (Decidable (_ ∨ _ ∨ _))

/-- A member of a list is a part of the members put one after the other. -/
theorem infix_intercalate {α : Type} (sep : List α) {l : List α} {ls : List (List α)}
    (h : l ∈ ls) : l <:+: sep.intercalate ls := by
  induction ls with
  | nil => cases h
  | cons a as ih =>
    cases as with
    | nil =>
      obtain rfl := List.mem_singleton.mp h
      simp [List.intercalate_singleton]
    | cons b bs =>
      rw [List.intercalate_cons_cons, List.append_assoc]
      rcases List.mem_cons.mp h with rfl | h
      · exact (List.prefix_append _ _).isInfix
      · exact (ih h).trans (List.suffix_append_of_suffix (List.suffix_append _ _)).isInfix

/-- Each text of a cause is a part of what it says in one line. -/
theorem Cause.infix_joined {c : Cause} {t : String} (h : t ∈ c.lines) :
    t.toList <:+: c.joined.toList := by
  rw [joined, String.toList_intercalate]
  exact infix_intercalate _ (List.mem_map_of_mem h)

/-- A foreign failure carries the parts of what its stack says in one line. -/
theorem carries_foreign (s : Stack) (t : String) :
    (Failure.foreign s).Carries t ↔ t.toList <:+: s.asCause.joined.toList := by
  constructor
  · rintro (h | h | h)
    · exact h
    · rcases List.mem_cons.mp h with rfl | h
      · exact List.infix_rfl
      · exact Cause.infix_joined h
    · cases h
  · exact Or.inl

/-- A report with more operations carries these too. -/
theorem carries_addOperations (r : Report) (operations : List String) (t : String) :
    (Failure.reported (r.addOperations operations)).Carries t ↔
      (Failure.reported r).Carries t ∨ t ∈ operations := by
  rw [Report.addOperations_eq]
  simp only [Failure.Carries, Failure.operations, Failure.report?, Failure.details,
    Failure.asCause, Report.asCause, Option.map_some, Option.getD_some, List.mem_append]
  tauto

/-! ### Contexts around a foreign failure -/

/-- A stack that becomes a foreign failure as a whole does so with any contexts on it. -/
theorem recover_addTexts_of_foreign {s inner : Stack} (h : s.recover = .foreign inner)
    (hf : s.failure? = none) (contexts : List String) :
    (s.addTexts contexts).recover = .foreign (s.addTexts contexts) := by
  have hr : s.report? = none := by
    cases hr : s.report? with
    | none => rfl
    | some r => simp [Stack.recover, hf, hr] at h
  apply Stack.recover_of_none
  · rw [Stack.failure?_addTexts, hf]
  · rw [Stack.report?_addTexts, hr]

/-- **Contexts on an erased foreign failure are lost.**  When a foreign failure is erased and
contexts are put on it, recovery gives back the failure as it was: a context is carried only
if it happens to be a part of what the failure said before.  When the same contexts are put
on the stack before it becomes a failure, and no layer of it is one, then all are carried. -/
theorem contexts_around_foreign {s inner : Stack} (h : s.recover = .foreign inner)
    (contexts : List String) :
    (s.recover.erase.addTexts contexts).recover = s.recover ∧
      (∀ c, (s.recover.erase.addTexts contexts).recover.Carries c ↔
        c.toList <:+: inner.asCause.joined.toList) ∧
      (s.layers.findSome? Layer.failure? = none →
        ∀ c ∈ contexts, (s.addTexts contexts).recover.Carries c) := by
  have late : (s.recover.erase.addTexts contexts).recover = s.recover := by
    rw [h]
    apply Stack.recover_of_failure?_foreign
    rw [Stack.failure?_addTexts]
    rfl
  refine ⟨late, fun c => ?_, fun hf c hc => ?_⟩
  · rw [late, h, carries_foreign]
  · rw [← Stack.failure?_eq_findSome?] at hf
    rw [recover_addTexts_of_foreign h hf, carries_foreign]
    apply Cause.infix_joined
    change c ∈ (s.addTexts contexts).lines
    rw [Stack.lines_addTexts]
    exact List.mem_append_left _ (List.mem_reverse.mpr hc)

/-- A foreign failure with a cause beneath it: of two contexts the one that repeats the cause
is carried, and the other one is not. -/
theorem contexts_around_foreign_with_cause :
    let s : Stack := .ofTexts "dial cluster" ["connection refused"]
    s.recover = .foreign s ∧
      ((s.recover.erase.addTexts ["connection refused", "loading circle"]).recover.Carries
          "connection refused" ∧
        ¬ (s.recover.erase.addTexts ["connection refused", "loading circle"]).recover.Carries
          "loading circle") ∧
      ∀ c ∈ ["connection refused", "loading circle"],
        (s.addTexts ["connection refused", "loading circle"]).recover.Carries c := by
  intro s
  obtain ⟨-, late, early⟩ := contexts_around_foreign (s := s) rfl
    ["connection refused", "loading circle"]
  exact ⟨rfl, ⟨(late _).mpr (by decide +kernel),
    fun h => absurd ((late _).mp h) (by decide +kernel)⟩, early rfl⟩

/-- A context on an erased foreign failure is lost; on its stack it would be carried. -/
theorem context_lost_around_foreign_failure :
    let s : Stack := .root (.text "connection refused")
    s.recover = .foreign s ∧
      ¬ (s.recover.erase.addTexts ["loading circle"]).recover.Carries "loading circle" ∧
      (s.addTexts ["loading circle"]).recover.Carries "loading circle" := by
  intro s
  exact ⟨rfl, by decide +kernel, by decide +kernel⟩

/-! ### What is beneath a report -/

/-- The layer that a report is put on a stack as. -/
def Report.layer (r : Report) : Erasure → Layer
  | .asReport => .report r
  | .asFailure => .failure (.reported r)

/-- A report with contexts above it that is found there is recovered: its texts are carried,
and the contexts that were kept. -/
theorem carries_over_of_held? {below : Stack} {r : Report} {how : Erasure}
    {contexts : List String}
    (h : ((Stack.over (r.layer how) below).addTexts contexts).held? = some r) (t : String) :
    ((Stack.over (r.layer how) below).addTexts contexts).recover.Carries t ↔
      (Failure.reported r).Carries t ∨ t ∈ contextsKept r.detail contexts := by
  have lines : (Stack.over (r.layer how) below).lines = r.detail :: below.lines := by
    cases how <;> rfl
  rw [Stack.recover_of_held? h, carries_addOperations, Stack.contextsAbove_addTexts lines]

/-- **What is beneath a report is lost.**  A report is put on a stack, as it is or as a
failure, and contexts above it.  If the report is a failure, or no failure is beneath it,
then what is carried after recovery does not depend on what is beneath: it is what the report
says itself, and the contexts that were kept.  Else the outermost failure beneath decides: if
it is foreign, only what it says is carried; if it has a report, then what that says, and
the texts above the first one that repeats its detail. -/
theorem carries_over_report (below : Stack) (r : Report) (how : Erasure)
    (contexts : List String) (t : String) :
    ((Stack.over (r.layer how) below).addTexts contexts).recover.Carries t ↔
      match how, below.layers.findSome? Layer.failure? with
      | .asReport, some (.foreign inner) => t.toList <:+: inner.asCause.joined.toList
      | .asReport, some (.reported r') =>
        (Failure.reported r').Carries t ∨
          t ∈ (contexts.reverse ++ r.detail :: below.lines).takeWhile (· ≠ r'.detail)
      | _, _ => (Failure.reported r).Carries t ∨ t ∈ contextsKept r.detail contexts := by
  rw [← Stack.failure?_eq_findSome?]
  cases how with
  | asFailure =>
    apply carries_over_of_held?
    rw [Stack.held?, Stack.failure?_addTexts]
    rfl
  | asReport =>
    -- A report hides no failure, so the search goes on beneath it.
    have found : ((Stack.over (r.layer .asReport) below).addTexts contexts).failure? =
        below.failure? := Stack.failure?_addTexts _ _
    cases hf : below.failure? with
    | none =>
      apply carries_over_of_held?
      rw [Stack.held?, found, hf, Stack.report?_addTexts]
      rfl
    | some f =>
      rw [hf] at found
      cases f with
      | foreign inner => rw [Stack.recover_of_failure?_foreign found, carries_foreign]
      | reported r' =>
        rw [Stack.recover_of_failure?_reported found, carries_addOperations,
          Stack.contextsAbove, List.mem_reverse, Stack.lines_addTexts]
        rfl

/-- The cause beneath a report is lost, whether the report is put on it as it is or as a
failure. -/
theorem cause_lost_beneath_report :
    let below : Stack := .root (.text "connection refused")
    let r : Report := { Report.blank ⟨"0", "0"⟩ (some .notFound) with detail := "row missing" }
    "connection refused" ∈ below.lines ∧
      ¬ (Stack.over (r.layer .asReport) below).recover.Carries "connection refused" ∧
      ¬ (Stack.over (r.layer .asFailure) below).recover.Carries "connection refused" := by
  intro below r
  exact ⟨by decide +kernel, by decide +kernel, by decide +kernel⟩

end Faultline
