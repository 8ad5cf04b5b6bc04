import Faultline.Proofs.Handling

/-!
# What is noticed while a failure is handled

Two things that are done to a failure must not be done silently: to give it a category that
nobody chose, and to drop it.  The first is done where a report is asked for and there is none,
so it is noticed once at most, however the failure is erased and recovered in between.

## Main definitions

* `Failure.reclassifications` — what is noticed when the report of a failure is asked for.
* `Notice.tellsReclassified` — a warning says that a failure was given a category.
* `Desk.reclassified` — how many of them there are.
* `Form.swallow` — what is held on the failing side of an outcome is dropped on purpose.

## Main results

* `Move.notices_act` — what is noticed when a move is made.
* `Failure.Becomes.notices_eq` — what was noticed when a failure has become another one.
* `noticed_exactly_once` — **a foreign failure is given a category in the open and only once,
  and a failure is dropped in the open.**
-/

namespace Faultline

variable {α : Type} {k l : Form}

/-! ### Giving a category -/

namespace Failure

/-- What is noticed when the report of a failure is asked for: that a foreign one is given a
category, with all that it says. -/
def reclassifications : Failure → List Notice
  | reported _ => []
  | foreign s => [.reclassified s.asCause.joined]

theorem notices_toReport (f : Failure) (d : Desk) :
    (f.toReport d).2.notices = d.notices ++ f.reclassifications := by
  cases f with
  | reported r => exact (List.append_nil _).symm
  | foreign s => rfl

theorem notices_enrich (f : Failure) (e : Enrichment) (d : Desk) :
    (f.enrich e d).2.notices = d.notices ++ f.reclassifications := by
  rw [enrich_apply, notices_toReport]

/-- **What was noticed when a failure has become another one**: that it was given a category,
if it is foreign and its report was asked for, and nothing else. -/
theorem Becomes.notices_eq {f g : Failure} {d d' : Desk} {asked : Bool}
    (h : f.Becomes d asked g d') :
    d'.notices = d.notices ++ if asked then f.reclassifications else [] := by
  cases h with
  | unasked continues notices => simpa using notices
  | asked d₁ before continues notices => simpa [f.notices_toReport, before] using notices

end Failure

/-- **What is noticed when a move is made**, whatever is held: that a foreign failure is given
a category, if the move asks for the report, and nothing else. -/
theorem Move.notices_act (move : Move k l) (x : k.Held) (d : Desk) :
    (move.act (.error x : Except k.Held α) d).2.notices =
      d.notices ++ if move.asksReport then (k.toFailure x).reclassifications else [] := by
  have silent : d.notices = d.notices ++ [] := (List.append_nil _).symm
  cases move with
  | enrich _ e => exact (k.toFailure x).notices_enrich e d
  | enrichOutcome _ e =>
    rw [act_enrichOutcome]
    exact (k.toFailure x).notices_enrich e d
  | takeReport => exact Failure.notices_toReport x d
  | reopen => exact (Failure.notices_snapshot x d).trans silent
  | _ => exact silent

/-! ### Counting -/

/-- A warning says that a failure without category was given one. -/
def Notice.tellsReclassified (n : Notice) : Bool :=
  n.level = .warn && n.message == "enriching an unclassified error, wrapping it as InternalError"

/-- How often it was noticed that a failure without category was given one. -/
def Desk.reclassified (d : Desk) : Nat := d.notices.countP Notice.tellsReclassified

@[simp] theorem Notice.tellsReclassified_reclassified (detail : String) :
    (reclassified detail).tellsReclassified = true :=
  Bool.and_eq_true_iff.mpr ⟨rfl, beq_self_eq_true _⟩

/-- Whatever the reason, that a failure is dropped reads as something else. -/
@[simp] theorem Notice.tellsReclassified_swallowed (id category detail : String)
    (operations : List String) (reason : String) :
    (swallowed id category detail operations reason).tellsReclassified = false := by
  have apart : "error swallowed: " ++ reason ≠
      "enriching an unclassified error, wrapping it as InternalError" := by
    intro h
    have second := congrArg (fun s => s.toList[1]?) h
    rw [String.toList_append, List.getElem?_append_left (by decide)] at second
    exact absurd second (by decide)
  exact Bool.and_eq_false_iff.mpr (.inr (beq_eq_false_iff_ne.mpr apart))

/-- A foreign failure is given a category with one notice. -/
theorem Failure.countP_reclassifications (f : Failure) :
    f.reclassifications.countP Notice.tellsReclassified = if f.isForeign then 1 else 0 := by
  cases f with
  | reported r => rfl
  | foreign s => simp [reclassifications, isForeign]

/-- How often it was noticed that a failure was given a category, after it has become another
one. -/
theorem Failure.Becomes.reclassified_eq {f g : Failure} {d d' : Desk} {asked : Bool}
    (h : f.Becomes d asked g d') :
    d'.reclassified = d.reclassified + if f.isForeign && asked then 1 else 0 := by
  rw [Desk.reclassified, h.notices_eq, List.countP_append, ← Desk.reclassified]
  cases asked with
  | false => simp
  | true => simp [f.countP_reclassifications]

/-! ### Dropping a failure -/

/-- What is held on the failing side of an outcome is converted, and dropped on purpose. -/
def Form.swallow (k : Form) (o : Except k.Held α) (reason : String) : Work (Option α) :=
  Outcome.swallow (o.mapError k.toFailure) reason

/-- To drop what is held is to ask for its report, and to notice what that says. -/
theorem Form.swallow_error {x : k.Held} {r : Report} {d d' : Desk}
    (h : (k.toFailure x).toReport d = (r, d')) (reason : String) :
    k.swallow (.error x : Except k.Held α) reason d =
      (none, { d' with notices := d'.notices ++
        [.swallowed r.occurrence.id r.tag r.detail r.operations reason] }) := by
  change (none, ((k.toFailure x).swallow reason d).2) = _
  rw [Failure.swallow, Work.bind_apply, h]
  rfl

/-- **A foreign failure is given a category in the open and only once, and a failure is
dropped in the open.**  A failure is handled, and dropped at the end.  While it is handled, it
is noticed once that it was given a category, if it was foreign and some move asked for its
report; when it is dropped, this is noticed by then in any case if it was foreign, and the last
notice says what its report says then, which is the report of the start or the one that was
opened for it.  A value is left alone, and nothing is noticed.  Readings are not noticed at
all, and moves only if they ask for the report of a foreign failure. -/
theorem noticed_exactly_once (f : Failure) (p : Handling .failure k) (a : α) (reason : String)
    (d : Desk) :
    (∃ (x : k.Held) (r : Report) (handled dropped : Desk),
      p.act (.error f : Outcome α) d = (.error x, handled) ∧
        handled.notices = d.notices ++ (if p.asksReport then f.reclassifications else []) ∧
        handled.reclassified = d.reclassified + (if f.isForeign && p.asksReport then 1 else 0) ∧
      k.swallow (.error x : Except k.Held α) reason handled = (none, dropped) ∧
        dropped.notices = d.notices ++ f.reclassifications ++
          [.swallowed r.occurrence.id r.tag r.detail r.operations reason] ∧
        dropped.reclassified = d.reclassified + (if f.isForeign then 1 else 0) ∧
      r = ((k.toFailure x).toReport handled).1 ∧
        ∃ opening, opening.notices = d.notices ∧ r.Extends (f.toReport opening).1) ∧
    (p.act (.ok a) d = (.ok a, d) ∧ k.swallow (.ok a) reason d = (some a, d)) ∧
    (∀ (reading : Reading) (g : Failure), (reading.read g d).2.notices = d.notices) ∧
    ∀ {l m : Form} (move : Move l m) (y : l.Held),
      (move.act (.error y : Except l.Held α) d).2.notices =
        d.notices ++ if move.asksReport then (l.toFailure y).reclassifications else [] := by
  refine ⟨?_, ⟨p.act_ok a d, rfl⟩, fun reading g => reading.notices_read g d, ?_⟩
  · obtain ⟨x, g, handled, run, held, becomes⟩ := p.act_of_failure? (α := α) (x := f) rfl d
    obtain ⟨r, opened, opens⟩ : ∃ r opened, (k.toFailure x).toReport handled = (r, opened) :=
      ⟨_, _, rfl⟩
    -- To drop it is to ask for the report of what has become of the failure.
    have asked := becomes.trans (Form.becomes_toReport held handled)
    rw [Bool.or_true, opens] at asked
    refine ⟨x, r, handled, _, run, becomes.notices_eq, becomes.reclassified_eq,
      Form.swallow_error opens reason, ?_, ?_, (congrArg Prod.fst opens).symm,
      asked.exists_extends⟩
    · change opened.notices ++ [_] = _
      rw [asked.notices_eq, if_pos rfl]
    · change (opened.notices ++ [_]).countP _ = _
      rw [List.countP_append, ← Desk.reclassified, asked.reclassified_eq]
      simp
  · exact fun move y => move.notices_act y d

end Faultline
