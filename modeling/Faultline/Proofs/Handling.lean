import Faultline.Proofs.Recovery

/-!
# Handling a failure

A failure is handled by moving it from form to form and by reading it in between.  Only some
moves ask for its report, and the first of these gives a report to a foreign failure; all
others, and the readings, leave what is held as it is or merely put it into another form.

## Main definitions

* `Reading`, `Reading.read` — the ways in which a failure is read.
* `Move.asksReport` — a move asks for the report of the failure.
* `Handling`, `Handling.act` — moves with readings in between.
* `Form.failure?` — the failure that is held, in whatever form.
* `Failure.Continues` — a failure is a later state of another one.
* `Failure.Becomes` — what becomes of a failure, and whether its report was asked for.

## Main results

* `Move.act_of_failure?` — what a move does with the failure that is held.
* `Handling.act_of_failure?` — **what a handling does with it**: nothing, until a move asks
  for the report; then the report is there to stay.
-/

namespace Faultline

variable {α : Type} {k l m : Form}

/-! ### Readings -/

/-- Nothing is noticed when a report is made that shows a failure. -/
theorem Failure.notices_snapshot (f : Failure) (d : Desk) :
    (f.snapshot d).2.notices = d.notices := by
  cases f with
  | reported r => rfl
  | foreign s => rfl

/-- The ways in which a failure is read. -/
inductive Reading
  /-- A report is made that shows it. -/
  | snapshot
  /-- Its category is asked for. -/
  | tag
  /-- Its details are asked for. -/
  | details
  /-- What it says first is asked for. -/
  | text
  deriving DecidableEq, Repr

namespace Reading

/-- What is read. -/
abbrev Answer : Reading → Type
  | snapshot => Report
  | _ => String

/-- Reads a failure, which stays as it is. -/
def read : (reading : Reading) → Failure → Work reading.Answer
  | snapshot, f => f.snapshot
  | tag, f => return f.tag
  | details, f => return f.details
  | text, f => return f.asCause.text

/-- Nothing is noticed when a failure is read. -/
theorem notices_read (reading : Reading) (f : Failure) (d : Desk) :
    (reading.read f d).2.notices = d.notices := by
  cases reading with
  | snapshot => exact f.notices_snapshot d
  | tag => rfl
  | details => rfl
  | text => rfl

end Reading

/-! ### Moves and handlings -/

namespace Move

/-- A move asks for the report of the failure, which is opened if there is none. -/
def asksReport : Move k l → Bool
  | enrichReport _ | addNotes _ | enrich _ _ | enrichOutcome _ _ | takeReport => true
  | eraseReport | eraseFailure | context _ | convert _ | reopen => false

/-- A move holds on to the failure: nothing that was made anew is put in its place. -/
def HoldsOn : Move k l → Prop
  | reopen => False
  | _ => True

end Move

/-- How a failure is handled: it is moved, and read in between. -/
inductive Handling : Form → Form → Type
  /-- Nothing more is done. -/
  | rest (k : Form) : Handling k k
  /-- A move that holds on to the failure, and then more. -/
  | move {k l m : Form} (move : Move k l) (holdsOn : move.HoldsOn) (next : Handling l m) :
      Handling k m
  /-- A failure is read, and then more is done. -/
  | read {m : Form} (reading : Reading) (next : Handling .failure m) : Handling .failure m

namespace Handling

/-- The effect of a handling on an outcome.  There is nothing to be read of a value. -/
def act : {k l : Form} → Handling k l → Except k.Held α → Work (Except l.Held α)
  | _, _, rest _, o => return o
  | _, _, move step _ next, o => do next.act (← step.act o)
  | _, _, read _ next, .ok a => next.act (.ok a)
  | _, _, read reading next, .error f => do
    let _ ← reading.read f
    next.act (.error f)

/-- Some move of a handling asks for the report. -/
def asksReport : {k l : Form} → Handling k l → Bool
  | _, _, rest _ => false
  | _, _, move step _ next => step.asksReport || next.asksReport
  | _, _, read _ next => next.asksReport

@[simp] theorem act_move (step : Move k l) (holdsOn : step.HoldsOn) (next : Handling l m)
    (o : Except k.Held α) (d : Desk) :
    (move step holdsOn next).act o d = next.act (step.act o d).1 (step.act o d).2 := rfl

@[simp] theorem act_read (reading : Reading) (next : Handling .failure m) (f : Failure)
    (d : Desk) : (read reading next).act (.error f : Outcome α) d =
      next.act (.error f) (reading.read f d).2 := rfl

/-- A value is left alone, and nothing is noticed. -/
theorem act_ok (p : Handling k l) (a : α) (d : Desk) : p.act (.ok a) d = (.ok a, d) := by
  induction p with
  | rest k => rfl
  | move step holdsOn next ih => rw [act_move, Move.act_ok, ih]
  | read reading next ih => exact ih

end Handling

/-! ### The failure that is held -/

/-- The failure that is held, in whatever form: of a stack it is the one that is found in it,
without regard to the contexts.  A stack in which nothing is found holds no failure yet. -/
def Form.failure? : (k : Form) → k.Held → Option Failure
  | report, r => some (.reported r)
  | failure, f => some f
  | stack, s => s.failure?.or (s.report?.map .reported)

/-- Nobody has classified the failure yet. -/
def Failure.isForeign : Failure → Bool
  | reported _ => false
  | foreign _ => true

/-- A failure is a later state of another one: of one with a report the report goes on, and a
foreign one is as it was. -/
inductive Failure.Continues : Failure → Failure → Prop
  /-- The report goes on. -/
  | reported {later r : Report} (h : later.Extends r) : Continues (.reported later) (.reported r)
  /-- Nothing has changed. -/
  | foreign (s : Stack) : Continues (.foreign s) (.foreign s)

namespace Failure

@[refl] theorem Continues.refl (f : Failure) : f.Continues f := by
  cases f with
  | reported r => exact .reported (.refl r)
  | foreign s => exact .foreign s

theorem Continues.trans {f g h : Failure} (hfg : f.Continues g) (hgh : g.Continues h) :
    f.Continues h := by
  cases hgh with
  | foreign s => exact hfg
  | reported later =>
    cases hfg with
    | reported latest => exact .reported (latest.trans later)

theorem Continues.eq_reported {f : Failure} {r : Report} (h : f.Continues (.reported r)) :
    ∃ later : Report, f = .reported later ∧ later.Extends r := by
  cases h with
  | reported h => exact ⟨_, rfl, h⟩

/-- The report of a later state goes on from the report of the earlier one, at the same cost. -/
theorem Continues.toReport {f g : Failure} (h : f.Continues g) (d : Desk) :
    (f.toReport d).1.Extends (g.toReport d).1 ∧ (f.toReport d).2 = (g.toReport d).2 := by
  cases h with
  | reported h => exact ⟨h, rfl⟩
  | foreign s => exact ⟨.refl _, rfl⟩

end Failure

/-- What is held converts into a later state of the failure that is held. -/
theorem Form.continues_toFailure {x : k.Held} {f : Failure} (h : k.failure? x = some f) :
    (k.toFailure x).Continues f := by
  cases k with
  | report =>
    obtain rfl := Option.some.inj h
    exact .refl _
  | failure =>
    obtain rfl := Option.some.inj h
    exact .refl _
  | stack =>
    change (Stack.recover x).Continues f
    change (Stack.failure? x).or _ = some f at h
    cases hf : Stack.failure? x with
    | some g =>
      obtain rfl : g = f := by simpa [hf] using h
      cases g with
      | reported r =>
        rw [Stack.recover_of_failure?_reported hf]
        exact .reported (r.extends_addOperations _)
      | foreign s =>
        rw [Stack.recover_of_failure?_foreign hf]
    | none =>
      obtain ⟨r, hr, rfl⟩ : ∃ r, Stack.report? x = some r ∧ .reported r = f := by
        simpa [hf] using h
      have held : Stack.held? x = some r := by rw [Stack.held?, hf, hr]
      rw [Stack.recover_of_held? held]
      exact .reported (r.extends_addOperations _)

/-! ### What becomes of a failure -/

/-- What becomes of a failure at a desk, and whether its report was asked for.  If not, a later
state of the failure is there, and nothing was noticed.  Else the report is there to stay, or
the one that was opened for it, and nothing was noticed but what comes with opening it. -/
inductive Failure.Becomes (f : Failure) (d : Desk) : Bool → Failure → Desk → Prop
  /-- Nothing asked for the report. -/
  | unasked {g : Failure} {d' : Desk} (continues : g.Continues f)
      (notices : d'.notices = d.notices) : Becomes f d false g d'
  /-- The report was asked for at a desk where no more had been noticed. -/
  | asked {g : Failure} {d' : Desk} (d₁ : Desk) (before : d₁.notices = d.notices)
      (continues : g.Continues (.reported (f.toReport d₁).1))
      (notices : d'.notices = (f.toReport d₁).2.notices) : Becomes f d true g d'

/-- A report that was asked for goes on from that of the start, or from the one that was opened
for the failure at a desk where no more had been noticed. -/
theorem Failure.Becomes.exists_extends {f : Failure} {r : Report} {d d' : Desk}
    (h : f.Becomes d true (.reported r) d') :
    ∃ d₁ : Desk, d₁.notices = d.notices ∧ r.Extends (f.toReport d₁).1 := by
  cases h with
  | asked d₁ before continues _ =>
    obtain ⟨later, same, later_extends⟩ := continues.eq_reported
    obtain rfl := Failure.reported.inj same
    exact ⟨d₁, before, later_extends⟩

/-- The report is asked for in the whole if it is in one of two parts. -/
theorem Failure.Becomes.trans {f g h : Failure} {d d' d'' : Desk} {b c : Bool}
    (hfg : f.Becomes d b g d') (hgh : g.Becomes d' c h d'') : f.Becomes d (b || c) h d'' := by
  cases hfg with
  | unasked later same =>
    cases hgh with
    | unasked latest same' => exact .unasked (latest.trans later) (same'.trans same)
    | asked d₁ before opened same' =>
      obtain ⟨extends_report, same_desk⟩ := later.toReport d₁
      exact .asked d₁ (before.trans same) (opened.trans (.reported extends_report))
        (same_desk ▸ same')
  | asked d₁ before opened same =>
    -- There is a report from now on, so it makes no difference whether it is asked for again.
    obtain ⟨r, rfl, -⟩ := opened.eq_reported
    cases hgh with
    | unasked latest same' => exact .asked d₁ before (latest.trans opened) (same'.trans same)
    | asked d₂ before' latest same' =>
      exact .asked d₁ before (latest.trans opened) (same'.trans (before'.trans same))

/-- Converting what is held and taking the report out is asking for the report. -/
theorem Form.becomes_toReport {x : k.Held} {f : Failure} (hx : k.failure? x = some f) (d : Desk) :
    f.Becomes d true (.reported ((k.toFailure x).toReport d).1)
      ((k.toFailure x).toReport d).2 := by
  obtain ⟨extends_report, same_desk⟩ := (continues_toFailure hx).toReport d
  exact .asked d rfl (.reported extends_report) (congrArg _ same_desk)

/-- **What a move does with the failure that is held.** -/
theorem Move.act_of_failure? (move : Move k l) (holdsOn : move.HoldsOn) {x : k.Held}
    {f : Failure} (hx : k.failure? x = some f) (d : Desk) :
    ∃ (y : l.Held) (g : Failure) (d' : Desk),
      move.act (.error x : Except k.Held α) d = (.error y, d') ∧ l.failure? y = some g ∧
        f.Becomes d move.asksReport g d' := by
  have asked := Form.becomes_toReport hx d
  -- All moves that ask for the report extend the one that is there then.
  have enriched {r : Report} (h : r.Extends ((k.toFailure x).toReport d).1) :
      f.Becomes d true (.reported r) ((k.toFailure x).toReport d).2 :=
    asked.trans (.unasked (.reported h) rfl)
  cases move with
  | enrichReport e => exact ⟨_, _, d, rfl, rfl, enriched (Report.extends_enrich x e)⟩
  | addNotes entries => exact ⟨_, _, d, rfl, rfl, enriched (Report.extends_addNotes x entries)⟩
  | enrich _ e =>
    refine ⟨_, _, _, ?_, rfl, enriched (Report.extends_enrich _ e)⟩
    rw [act, onError_error, Failure.enrich_apply]
  | enrichOutcome _ e =>
    refine ⟨_, _, _, ?_, rfl, enriched (Report.extends_enrich _ e)⟩
    rw [act_enrichOutcome, act, onError_error, Failure.enrich_apply]
  | takeReport => exact ⟨_, _, _, rfl, rfl, asked⟩
  | eraseReport => exact ⟨_, f, d, rfl, hx, .unasked (.refl f) rfl⟩
  | eraseFailure => exact ⟨_, f, d, rfl, hx, .unasked (.refl f) rfl⟩
  | context text => exact ⟨Stack.over (.text text) x, f, d, rfl, hx, .unasked (.refl f) rfl⟩
  | convert _ => exact ⟨_, _, d, rfl, rfl, .unasked (Form.continues_toFailure hx) rfl⟩
  | reopen => exact holdsOn.elim

/-- **What a handling does with the failure that is held.** -/
theorem Handling.act_of_failure? (p : Handling k l) {x : k.Held} {f : Failure}
    (hx : k.failure? x = some f) (d : Desk) :
    ∃ (y : l.Held) (g : Failure) (d' : Desk),
      p.act (.error x : Except k.Held α) d = (.error y, d') ∧ l.failure? y = some g ∧
        f.Becomes d p.asksReport g d' := by
  induction p generalizing f d with
  | rest k => exact ⟨x, f, d, rfl, hx, .unasked (.refl f) rfl⟩
  | move step holdsOn next ih =>
    obtain ⟨y, g, d₁, hy, hg, becomes⟩ := step.act_of_failure? (α := α) holdsOn hx d
    obtain ⟨z, h, d₂, hz, hh, becomes'⟩ := ih hg d₁
    exact ⟨z, h, d₂, by rw [act_move, hy]; exact hz, hh, becomes.trans becomes'⟩
  | read reading next ih =>
    obtain ⟨y, g, d₁, hy, hg, becomes⟩ := ih hx (reading.read x d).2
    have unnoticed : f.Becomes d false f (reading.read x d).2 :=
      .unasked (.refl f) (reading.notices_read x d)
    exact ⟨y, g, d₁, by rw [act_read]; exact hy, hg, unnoticed.trans becomes⟩

end Faultline
