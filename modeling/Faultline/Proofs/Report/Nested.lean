import Faultline.Proofs.Recovery
import Faultline.Proofs.Snapshot
import Mathlib.Algebra.Group.Nat.Defs

/-!
# Reports on reports

The detail of a report is all that its cause says, in one line.  A report says its detail
first, and then what its cause says: the same again.  So a report on a report with a cause says
everything twice, and a report on that says it four times; only a report without a cause is
quoted as it is.

## Main definitions

* `Opening`, `Opening.act` — the ways to open a report on a cause.
* `nest` — reports that are opened on each other.

## Main results

* `nest_apply` — **what is said by reports on a cause that are opened on each other.**
* `detail_of_nested_report` — **each report on a report doubles the detail**, so that only a
  first report on a failure without a cause says in its detail what the failure says first.
-/

namespace Faultline

/-! ### Texts that are repeated -/

/-- A text that is repeated some times in one line. -/
def repeated (times : ℕ) (t : String) : String := ": ".intercalate (List.replicate times t)

@[simp] theorem repeated_one (t : String) : repeated 1 t = t := by
  rw [repeated, List.replicate_one, String.intercalate_singleton]

theorem repeated_add {m n : ℕ} (hm : m ≠ 0) (hn : n ≠ 0) (t : String) :
    repeated (m + n) t = repeated m t ++ ": " ++ repeated n t := by
  rw [repeated, List.replicate_add, String.intercalate_append_of_ne_nil (by simpa) (by simpa)]
  rfl

theorem repeated_two (t : String) : repeated 2 t = t ++ ": " ++ t := by
  simpa using repeated_add (m := 1) (n := 1) one_ne_zero one_ne_zero t

/-- A text that is said twice, and this some times. -/
theorem repeated_repeated_two (n : ℕ) (t : String) :
    repeated n (repeated 2 t) = repeated (2 * n) t := by
  induction n with
  | zero => rfl
  | succ n ih =>
    rcases eq_or_ne n 0 with rfl | hn
    · rw [repeated_one]
    · have hn' : 2 * n ≠ 0 := Nat.mul_ne_zero two_ne_zero hn
      rw [repeated_add hn one_ne_zero, ih, repeated_one, Nat.mul_succ,
        repeated_add hn' two_ne_zero]

/-- A text that is repeated is as long as all of the copies and the marks between them. -/
theorem length_repeated {n : ℕ} (hn : n ≠ 0) (t : String) :
    (repeated n t).length + 2 = n * (t.length + 2) := by
  induction n with
  | zero => exact absurd rfl hn
  | succ n ih =>
    rcases eq_or_ne n 0 with rfl | hn
    · simp
    · have mark : (": " : String).length = 2 := rfl
      rw [repeated_add hn one_ne_zero, repeated_one, String.length_append, String.length_append,
        mark, Nat.succ_mul, ← ih hn]
      omega

namespace Cause

/-! ### Causes with something beneath -/

/-- What a cause says in one line is no shorter than its first text, and longer if there is
something beneath. -/
theorem length_text_add_le (c : Cause) :
    c.text.length + (if c.beneath = [] then 0 else 2) ≤ c.joined.length := by
  obtain ⟨text, beneath⟩ := c
  cases beneath with
  | nil => simp [joined, lines]
  | cons t ts =>
    have mark : (": " : String).length = 2 := rfl
    rw [joined, lines, String.intercalate_cons_cons, String.length_append, String.length_append,
      mark, if_neg (List.cons_ne_nil t ts)]
    omega

/-- A cause that says something first says something in one line. -/
theorem joined_ne_empty (c : Cause) (spoken : c.text ≠ "") : c.joined ≠ "" := by
  intro silent
  have only : c.text :: c.beneath = [""] := joined_eq_empty_iff.mp silent
  exact spoken (List.cons.inj only).1

/-- A cause that says the texts of another one beneath all that this says in one line. -/
theorem joined_on_lines (c : Cause) : joined ⟨c.joined, c.lines⟩ = repeated 2 c.joined := by
  change ": ".intercalate (c.joined :: c.text :: c.beneath) = _
  rw [String.intercalate_cons_cons, repeated_two]
  rfl

/-- A cause is its first text, repeated, exactly if there is nothing beneath and it is said
once. -/
theorem repeated_joined_eq_text_iff (c : Cause) {n : ℕ} (hn : n ≠ 0) :
    repeated n c.joined = c.text ↔ n = 1 ∧ c.beneath = [] := by
  constructor
  · intro h
    have long := c.length_text_add_le
    have total := length_repeated hn c.joined
    rw [h] at total
    obtain ⟨m, rfl⟩ := Nat.exists_eq_succ_of_ne_zero hn
    rw [Nat.succ_mul] at total
    -- One copy is no shorter than the text, so there is no second one.
    have once : m = 0 := by
      by_contra more
      have second : 1 * (c.joined.length + 2) ≤ m * (c.joined.length + 2) :=
        Nat.mul_le_mul_right _ (Nat.one_le_iff_ne_zero.mpr more)
      omega
    subst once
    refine ⟨rfl, ?_⟩
    by_contra more
    rw [if_neg more] at long
    omega
  · rintro ⟨rfl, bare⟩
    rw [repeated_one, joined, lines, bare, String.intercalate_singleton]

end Cause

/-- There is nothing beneath what a failure says exactly if it has a report without a cause. -/
theorem Failure.beneath_eq_nil_iff (f : Failure) :
    f.asCause.beneath = [] ↔ ∃ r : Report, f = .reported r ∧ r.cause = none := by
  cases f with
  | reported r =>
    cases hr : r.cause with
    | none => simp [asCause, Report.asCause, hr]
    | some c => simp [asCause, Report.asCause, Cause.lines, hr]
  | foreign s => simp [asCause, Cause.lines]

/-! ### Opening reports on each other -/

/-- The ways to open a report on a cause. -/
inductive Opening
  /-- A report is opened, and taken as a failure. -/
  | report (category : Category)
  /-- The cause is classified. -/
  | classify (category : Category)
  /-- A failure is made with everything that is known about it. -/
  | compose (message : String) (category : Category) (notes : List (String × String))
      (operations : List String)
  deriving Repr

/-- The failure that has the report which is opened on a cause. -/
def Opening.act : Opening → Cause → Work Failure
  | report category, c => return .reported (← Report.ofCause category c)
  | classify category, c => Failure.classify category c
  | compose message category notes operations, c =>
    Failure.compose message c category notes operations

/-- Reports that are opened on each other, the first one on a cause. -/
def nest (first : Opening) : List Opening → Cause → Work Failure
  | [], c => first.act c
  | next :: more, c => do nest next more (← first.act c).asCause

/-- In whatever way a report is opened on a cause, it says first all that the cause says in one
line, and then what the cause says. -/
theorem Opening.asCause_act (o : Opening) {c : Cause} (spoken : c.joined ≠ "") (d : Desk) :
    ∃ r : Report, (o.act c d).1 = .reported r ∧ r.asCause = ⟨c.joined, c.lines⟩ := by
  have specified : Report.specified c.joined = c.joined := (Report.eq_specified_iff.mpr spoken).symm
  have opened : Cause.mk (Report.specified c.joined) c.lines = ⟨c.joined, c.lines⟩ := by
    rw [specified]
  cases o with
  | report category => exact ⟨_, rfl, opened⟩
  | classify category => exact ⟨_, rfl, opened⟩
  | compose message category notes operations =>
    refine ⟨_, rfl, ?_⟩
    -- What else is known is put into other members.
    rw [Report.addOperations_eq]
    exact opened

/-- **What is said by reports on a cause that are opened on each other**: all that the cause
says, and with each report after the first one twice as often. -/
theorem nest_apply (first : Opening) (more : List Opening) {c : Cause} (spoken : c.text ≠ "")
    (d : Desk) :
    ∃ r : Report, (nest first more c d).1 = .reported r ∧
      r.detail = repeated (2 ^ more.length) c.joined := by
  have said := c.joined_ne_empty spoken
  induction more generalizing first c d with
  | nil =>
    obtain ⟨r, reported, reads⟩ := first.asCause_act said d
    have detail : r.detail = c.joined := congrArg Cause.text reads
    exact ⟨r, reported, by simpa using detail⟩
  | cons next more ih =>
    obtain ⟨r, reported, reads⟩ := first.asCause_act said d
    have reads : (first.act c d).1.asCause = ⟨c.joined, c.lines⟩ := by
      rw [reported, Failure.asCause, reads]
    -- The next report is opened on a cause that says the joined text before it is joined again.
    obtain ⟨last, opened, repeats⟩ :=
      ih next (c := ⟨c.joined, c.lines⟩) said (first.act c d).2 (Cause.joined_ne_empty _ said)
    refine ⟨last, ?_, ?_⟩
    · rw [nest, Work.bind_apply, reads]
      exact opened
    · rw [repeats, Cause.joined_on_lines, repeated_repeated_two, List.length_cons, pow_succ']

/-- **Each report on a report doubles the detail.**  Whatever a failure says first, in whatever
ways reports are opened on it and on each other, the first one has all that the failure says as
its detail, and each further one has twice what the one before has.  So the detail is what the
failure says first exactly if one report was opened, on a failure that has a report without a
cause.  A report itself says what the failure says that has it. -/
theorem detail_of_nested_report (f : Failure) (spoken : f.asCause.text ≠ "") (first : Opening)
    (more : List Opening) (d : Desk) :
    ∃ (r : Report) (d' : Desk), nest first more f.asCause d = (.reported r, d') ∧
      (Failure.reported r).snapshot d' = (r, d') ∧
      r.detail = ": ".intercalate (List.replicate (2 ^ more.length) f.asCause.joined) ∧
      (r.detail = f.asCause.text ↔
        more = [] ∧ ∃ s : Report, f = .reported s ∧ s.cause = none) := by
  obtain ⟨r, hr, detail⟩ := nest_apply first more spoken d
  refine ⟨r, _, Prod.ext hr rfl, rfl, detail, ?_⟩
  have some_time : 2 ^ more.length ≠ 0 := by simp
  rw [detail, Cause.repeated_joined_eq_text_iff _ some_time, f.beneath_eq_nil_iff,
    Nat.pow_eq_one]
  simp

/-- A report on a report on a refused connection does not say what that says. -/
theorem detail_of_nested_report_refused :
    let d := Desk.fresh fun _ => ⟨"0", "0"⟩
    let f := (Failure.classify .internal (.ofText "connection refused") d).1
    f.asCause.text ≠ "" ∧ ∃ (r : Report) (d' : Desk),
      nest (.compose "" .business [] []) [] f.asCause d = (.reported r, d') ∧
        r.detail ≠ f.asCause.text := by
  intro d f
  have spoken : f.asCause.text ≠ "" := by decide +kernel
  obtain ⟨r, d', opened, -, -, same⟩ :=
    detail_of_nested_report f spoken (.compose "" .business [] []) [] d
  refine ⟨spoken, r, d', opened, fun h => ?_⟩
  obtain ⟨s, reported, bare⟩ := (same.mp h).2
  obtain rfl := Failure.reported.inj reported
  cases bare

/-- A failure made on a report on a refused connection says twice that it was refused. -/
theorem report_on_report_doubles_detail :
    let d := Desk.fresh fun _ => ⟨"0", "0"⟩
    let refused := Report.ofCause .internal (.ofText "connection refused") d
    let made := Failure.compose "" refused.1.asCause .business [] [] refused.2
    let shown := (made.1.snapshot made.2).1
    refused.1.asCause.text = "connection refused" ∧
      shown.detail = "connection refused: connection refused" ∧
      shown.detail ≠ refused.1.asCause.text := by
  intro d refused made shown
  exact ⟨by decide +kernel, by decide +kernel, by decide +kernel⟩

end Faultline
