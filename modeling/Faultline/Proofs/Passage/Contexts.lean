import Faultline.Proofs.Passage
import Mathlib.Data.List.DropRight

/-!
# Contexts become operations

A failure with a report is erased, contexts are put on it, and it is recovered.  The
contexts become operations, the innermost first.  Where they begin is found by comparing
texts: the report ends the contexts because its text is the detail, and so does a context
with that text.  Such a context is lost with all that are within it.

## Main definitions

* `contextsKept` — the contexts that become operations.
* `Erasure`, `Round`, `Round.passages` — rounds of erasing and recovering.

## Main results

* `recover_addTexts` — a recovered report has the contexts that were kept as operations.
* `operations_of_rounds` — **after any rounds the operations are the contexts kept and the
  operations of each round**, which are all contexts exactly if none repeats the detail.
-/

namespace Faultline

/-! ### Contexts on a stack -/

namespace Stack

theorem addTexts_cons (s : Stack) (c : String) (cs : List String) :
    s.addTexts (c :: cs) = (Stack.over (.text c) s).addTexts cs := rfl

/-- Contexts stand above the texts of the stack, the last one first. -/
theorem lines_addTexts (s : Stack) (contexts : List String) :
    (s.addTexts contexts).lines = contexts.reverse ++ s.lines := by
  induction contexts generalizing s with
  | nil => rfl
  | cons c cs ih =>
    rw [addTexts_cons, ih, List.reverse_cons, List.append_assoc]
    rfl

/-- A text hides no failure. -/
@[simp] theorem failure?_addTexts (s : Stack) (contexts : List String) :
    (s.addTexts contexts).failure? = s.failure? := by
  induction contexts generalizing s with
  | nil => rfl
  | cons c cs ih =>
    rw [addTexts_cons, ih]
    rfl

/-- A text hides no report. -/
@[simp] theorem report?_addTexts (s : Stack) (contexts : List String) :
    (s.addTexts contexts).report? = s.report? := by
  induction contexts generalizing s with
  | nil => rfl
  | cons c cs ih =>
    rw [addTexts_cons, ih]
    rfl

end Stack

/-- The contexts that become operations of a report: those that were put on after the last
one that repeats its detail. -/
def contextsKept (detail : String) (contexts : List String) : List String :=
  contexts.rtakeWhile (· ≠ detail)

/-- All contexts are kept exactly if none of them repeats the detail. -/
theorem contextsKept_eq_self_iff {detail : String} {contexts : List String} :
    contextsKept detail contexts = contexts ↔ detail ∉ contexts := by
  rw [contextsKept, List.rtakeWhile_eq_self_iff]
  simp only [decide_eq_true_eq]
  exact ⟨fun h hd => h detail hd rfl, fun h c hc he => h (he ▸ hc)⟩

/-- Contexts on a stack whose first text is the detail are taken as far as they are kept. -/
theorem Stack.contextsAbove_addTexts {s : Stack} {detail : String} {rest : List String}
    (h : s.lines = detail :: rest) (contexts : List String) :
    (s.addTexts contexts).contextsAbove detail = contextsKept detail contexts := by
  have hstop : (contexts.reverse ++ detail :: rest).takeWhile (· ≠ detail) =
      contexts.reverse.takeWhile (· ≠ detail) := by
    rw [List.takeWhile_append]
    split
    · rename_i hlen
      rw [(List.takeWhile_prefix _).eq_of_length hlen]
      simp
    · rfl
  rw [contextsAbove, lines_addTexts, h, hstop]
  rfl

/-! ### Erasing a report -/

/-- How a failure with a report is erased. -/
inductive Erasure
  /-- Its report is taken out and erased. -/
  | asReport
  /-- The failure itself is erased. -/
  | asFailure
  deriving DecidableEq, Repr

/-- The stack that an erased report is. -/
def Report.erase (r : Report) : Erasure → Stack
  | .asReport => .root (.report r)
  | .asFailure => (Failure.reported r).erase

theorem Report.lines_erase (r : Report) (how : Erasure) :
    (r.erase how).lines = r.detail :: (r.cause.map Cause.lines).getD [] := by
  cases how <;> rfl

/-- **A recovered report has the contexts that were kept as operations**, after its own. -/
theorem recover_addTexts (r : Report) (how : Erasure) (contexts : List String) :
    ((r.erase how).addTexts contexts).recover =
      .reported (r.addOperations (contextsKept r.detail contexts)) := by
  rw [← Stack.contextsAbove_addTexts (r.lines_erase how)]
  unfold Stack.recover
  rw [Stack.failure?_addTexts, Stack.report?_addTexts]
  cases how <;> rfl

/-! ### Rounds -/

/-- A round of a failure: it is erased, contexts are put on it, it is recovered, and then
it passes through operations. -/
structure Round where
  /-- How it is erased. -/
  erasure : Erasure
  /-- The contexts, the innermost first. -/
  contexts : List String
  /-- The operations, the first one first. -/
  operations : List String

/-- The passage of a failure that is erased. -/
def Erasure.passage : Erasure → Passage .failure .stack
  | .asReport => .step .takeReport (.step .eraseReport (.rest .stack))
  | .asFailure => .step .eraseFailure (.rest .stack)

/-- The passage of a stack on which contexts are put. -/
def contextsPassage : List String → Passage .stack .stack
  | [] => .rest .stack
  | c :: cs => .step (.context c) (contextsPassage cs)

/-- The passage of a failure through operations. -/
def operationsPassage : List String → Passage .failure .failure
  | [] => .rest .failure
  | o :: os => .step (.enrich .failure (.operation o)) (operationsPassage os)

namespace Round

/-- The passage of a round. -/
def passage (x : Round) : Passage .failure .failure :=
  ((x.erasure.passage.append (contextsPassage x.contexts)).append
    (.step (.convert .stack) (.rest .failure))).append (operationsPassage x.operations)

/-- The passage of rounds, one after the other. -/
def passages : List Round → Passage .failure .failure
  | [] => .rest .failure
  | x :: xs => x.passage.append (passages xs)

/-- All that was put on in a round: its contexts, then its operations. -/
def given (x : Round) : List String := x.contexts ++ x.operations

/-- What is left of a round in a report with the given detail. -/
def kept (detail : String) (x : Round) : List String :=
  contextsKept detail x.contexts ++ x.operations

theorem kept_eq_given_iff {detail : String} {x : Round} :
    x.kept detail = x.given ↔ detail ∉ x.contexts := by
  rw [kept, given, List.append_left_inj, contextsKept_eq_self_iff]

theorem length_kept_le (detail : String) (x : Round) :
    (x.kept detail).length ≤ x.given.length := by
  rw [kept, given, List.length_append, List.length_append]
  exact Nat.add_le_add_right (List.rtakeWhile_suffix _ _).length_le _

theorem length_flatMap_kept_le (detail : String) (rounds : List Round) :
    (rounds.flatMap (kept detail)).length ≤ (rounds.flatMap given).length := by
  induction rounds with
  | nil => simp
  | cons x xs ih =>
    rw [List.flatMap_cons, List.flatMap_cons, List.length_append, List.length_append]
    exact Nat.add_le_add (x.length_kept_le detail) ih

/-- Nothing is lost in rounds exactly if nothing is lost in any of them. -/
theorem flatMap_kept_eq_iff {detail : String} {rounds : List Round} :
    rounds.flatMap (kept detail) = rounds.flatMap given ↔
      ∀ x ∈ rounds, detail ∉ x.contexts := by
  induction rounds with
  | nil => simp
  | cons x xs ih =>
    rw [List.flatMap_cons, List.flatMap_cons, List.forall_mem_cons]
    constructor
    · intro h
      -- What is kept is no longer than what was given, so equal sums have equal parts.
      have hlen := congrArg List.length h
      rw [List.length_append, List.length_append] at hlen
      have hx := x.length_kept_le detail
      have hxs := length_flatMap_kept_le detail xs
      have hparts := List.append_inj h (by omega)
      exact ⟨kept_eq_given_iff.mp hparts.1, ih.mp hparts.2⟩
    · rintro ⟨hx, hxs⟩
      rw [kept_eq_given_iff.mpr hx, ih.mpr hxs]

end Round

variable {α : Type}

theorem act_contextsPassage (s : Stack) (contexts : List String) (d : Desk) :
    (contextsPassage contexts).act (.error s : Except Stack α) d =
      (.error (s.addTexts contexts), d) := by
  induction contexts generalizing s with
  | nil => rfl
  | cons c cs ih => exact ih (.over (.text c) s)

theorem act_operationsPassage (r : Report) (operations : List String) (d : Desk) :
    (operationsPassage operations).act (.error (.reported r) : Outcome α) d =
      (.error (.reported (r.addOperations operations)), d) := by
  induction operations generalizing r with
  | nil => rfl
  | cons o os ih => exact ih (r.addOperation o)

theorem act_erasurePassage (r : Report) (how : Erasure) (d : Desk) :
    how.passage.act (.error (.reported r) : Outcome α) d = (.error (r.erase how), d) := by
  cases how <;> rfl

/-- A round adds what is left of it to the operations. -/
theorem Round.act_passage (r : Report) (x : Round) (d : Desk) :
    x.passage.act (.error (.reported r) : Outcome α) d =
      (.error (.reported (r.addOperations (x.kept r.detail))), d) := by
  have recover := recover_addTexts r x.erasure x.contexts
  rw [passage, Passage.act_append, Passage.act_append, Passage.act_append, act_erasurePassage,
    act_contextsPassage]
  change (operationsPassage x.operations).act
    (.error ((r.erase x.erasure).addTexts x.contexts).recover : Outcome α) d = _
  rw [recover, act_operationsPassage, kept]
  simp only [Report.addOperations_eq, List.append_assoc]

/-- Rounds add what is left of them to the operations, one after the other. -/
theorem Round.act_passages (r : Report) (rounds : List Round) (d : Desk) :
    (passages rounds).act (.error (.reported r) : Outcome α) d =
      (.error (.reported (r.addOperations (rounds.flatMap (kept r.detail)))), d) := by
  induction rounds generalizing r with
  | nil => rfl
  | cons x xs ih =>
    have detail : (r.addOperations (x.kept r.detail)).detail = r.detail := by
      rw [Report.addOperations_eq]
    rw [passages, Passage.act_append, act_passage, ih, detail, List.flatMap_cons]
    simp only [Report.addOperations_eq, List.append_assoc]

/-- **Contexts become operations.**  After any rounds a failure still has a report, and its
operations are those at the start, followed by the contexts kept and the operations of each
round.  These are all contexts, in order, exactly if none repeats the detail. -/
theorem operations_of_rounds (r : Report) (rounds : List Round) (d : Desk) :
    ∃ later : Report,
      (Round.passages rounds).act (.error (.reported r) : Outcome α) d =
          (.error (.reported later), d) ∧
        later.operations = r.operations ++ rounds.flatMap (Round.kept r.detail) ∧
        (later.operations = r.operations ++ rounds.flatMap Round.given ↔
          ∀ x ∈ rounds, r.detail ∉ x.contexts) := by
  have operations : (r.addOperations (rounds.flatMap (Round.kept r.detail))).operations =
      r.operations ++ rounds.flatMap (Round.kept r.detail) := by
    rw [Report.addOperations_eq]
  refine ⟨_, Round.act_passages r rounds d, operations, ?_⟩
  rw [operations, List.append_right_inj, Round.flatMap_kept_eq_iff]

/-- A context that repeats the detail is lost, and so is the one within it. -/
theorem contexts_lost_at_repeated_detail :
    let r : Report :=
      { Report.blank ⟨"0", "0"⟩ (some .notFound) with detail := "row missing" }
    let round : Round := ⟨.asReport, ["loading circle", "row missing", "rendering page"], []⟩
    let desk := Desk.fresh fun _ => ⟨"0", "0"⟩
    (Round.passages [round]).act (.error (.reported r) : Outcome Unit) desk =
        (.error (.reported { r with operations := ["rendering page"] }), desk) ∧
      ["rendering page"] ≠ r.operations ++ [round].flatMap Round.given := by
  intro r round desk
  refine ⟨?_, by decide⟩
  rw [Round.act_passages, Report.addOperations_eq]
  rfl

end Faultline
