import Faultline.Proofs.Json.Members
import Mathlib.Data.List.Induction

/-!
# What members tell

Members are taken in one after the other, and yet what was taken in can be told from the values of
each known name alone: there is none, or there is one and it is what it should be.  Otherwise the
first member that does not fit with those before it is the fault.

## Main definitions

* `valuesOf` — the values of a name.
* `Given` — what members tell of a name; `Records` — what was taken in is what they tell.
* `Offends` — a member cannot be taken in after others.

## Main results

* `Records.takeMember`, `Records.takeMember_eq_error_iff` — what one member does.
* `exists_foldlM_takeMember_eq_ok_iff`, `foldlM_takeMember_eq_error_iff` — **members are all taken
  in exactly if something is told of each known name**, and otherwise the first one that offends
  is told.
-/

namespace Faultline.Json

/-- The values of a name among members. -/
def valuesOf (name : String) (ms : List (String × Value)) : List Value :=
  (ms.filter fun m => m.1 = name).map Prod.snd

section Given

variable {α : Type} {known : List String} {judge : Value → Except Fault α} {name : String}
  {ms before after : List (String × Value)} {m : String × Value} {given : List (String × α)}

theorem valuesOf_append : valuesOf name (before ++ after) =
    valuesOf name before ++ valuesOf name after := by
  simp [valuesOf]

theorem valuesOf_singleton : valuesOf name [m] = if m.1 = name then [m.2] else [] := by
  by_cases h : m.1 = name <;> simp [valuesOf, h]

theorem valuesOf_eq_nil_iff : valuesOf name ms = [] ↔ ∀ m ∈ ms, m.1 ≠ name := by
  simp [valuesOf]

/-- A name that is given once has one value, wherever that stands. -/
theorem valuesOf_amid {v : Value} (others : ∀ m ∈ before ++ after, m.1 ≠ name) :
    valuesOf name (before ++ (name, v) :: after) = [v] := by
  have hbefore : valuesOf name before = [] :=
    valuesOf_eq_nil_iff.mpr fun m hm => others m (List.mem_append_left after hm)
  have hafter : valuesOf name after = [] :=
    valuesOf_eq_nil_iff.mpr fun m hm => others m (List.mem_append_right before hm)
  rw [← List.singleton_append, valuesOf_append, valuesOf_append, valuesOf_singleton, if_pos rfl,
    hbefore, hafter]
  rfl

/-- What members tell of a name: nothing if they do not give it, and otherwise what is thought of
the one value that they give. -/
inductive Given (judge : Value → Except Fault α) (name : String) (ms : List (String × Value)) :
    Option α → Prop
  /-- The name is not given. -/
  | absent (h : valuesOf name ms = []) : Given judge name ms none
  /-- The name is given once. -/
  | once {v : Value} {x : α} (h : valuesOf name ms = [v]) (hx : judge v = .ok x) :
      Given judge name ms (some x)

theorem Given.unique {o o' : Option α} (h : Given judge name ms o) (h' : Given judge name ms o') :
    o = o' := by
  cases h with
  | absent h =>
    cases h' with
    | absent => rfl
    | once h' => cases h.symm.trans h'
  | once h hx =>
    cases h' with
    | absent h' => cases h.symm.trans h'
    | once h' hx' =>
      obtain ⟨rfl, -⟩ := List.cons.inj (h.symm.trans h')
      rw [Except.ok.inj (hx.symm.trans hx')]

/-- In another order members tell the same. -/
theorem Given.of_perm {o : Option α} {ms' : List (String × Value)} (h : Given judge name ms o)
    (perm : (valuesOf name ms).Perm (valuesOf name ms')) : Given judge name ms' o := by
  cases h with
  | absent h =>
    rw [h] at perm
    exact .absent (List.nil_perm.mp perm)
  | once h hx =>
    rw [h] at perm
    exact .once (List.singleton_perm.mp perm).symm hx

theorem valuesOf_filter {p : String × Value → Bool} (h : ∀ m ∈ ms, m.1 = name → p m = true) :
    valuesOf name (ms.filter p) = valuesOf name ms := by
  rw [valuesOf, valuesOf, List.filter_filter]
  congr 1
  refine List.filter_congr fun m hm => ?_
  by_cases same : m.1 = name
  · simp [same, h m hm same]
  · simp [same]

/-- A member cannot be taken in after others. -/
inductive Offends (known : List String) (judge : Value → Except Fault α)
    (before : List (String × Value)) (m : String × Value) : Fault → Prop
  /-- Its name is known and was given before. -/
  | again (hknown : m.1 ∈ known) (h : valuesOf m.1 before ≠ []) :
      Offends known judge before m (.mismatch (.repeated m.1))
  /-- Its name is known, and its value is not what it should be. -/
  | unfit {f : Fault} (hknown : m.1 ∈ known) (h : valuesOf m.1 before = [])
      (hf : judge m.2 = .error f) : Offends known judge before m f

/-- What was taken in is what members tell. -/
def Records (known : List String) (judge : Value → Except Fault α) (ms : List (String × Value))
    (given : List (String × α)) : Prop :=
  ∀ name ∈ known, Given judge name ms (given.lookup name)

theorem Records.lookup_eq_none_iff (h : Records known judge ms given) (hname : name ∈ known) :
    given.lookup name = none ↔ valuesOf name ms = [] := by
  have told := h name hname
  generalize given.lookup name = o at told
  cases told with
  | absent h => simp [h]
  | once h => simp [h]

/-- A member tells nothing of another name. -/
theorem Given.append_of_ne {o : Option α} (h : Given judge name ms o) (apart : m.1 ≠ name) :
    Given judge name (ms ++ [m]) o := by
  have same : valuesOf name (ms ++ [m]) = valuesOf name ms := by
    rw [valuesOf_append, valuesOf_singleton, if_neg apart, List.append_nil]
  cases h with
  | absent h => exact .absent (same.trans h)
  | once h hx => exact .once (same.trans h) hx

theorem given_append {x : α} (h : valuesOf m.1 ms = []) (hx : judge m.2 = .ok x) :
    Given judge m.1 (ms ++ [m]) (some x) := by
  refine .once ?_ hx
  rw [valuesOf_append, valuesOf_singleton, h, if_pos rfl, List.nil_append]

/-- To take in a member is to tell what there is to tell with it. -/
theorem Records.takeMember (h : Records known judge ms given) {given' : List (String × α)}
    (hm : takeMember known judge given m = .ok given') :
    Records known judge (ms ++ [m]) given' := by
  intro name hname
  unfold Json.takeMember at hm
  split at hm
  · rename_i hknown
    split at hm
    · cases hm
    · rename_i new
      have none : given.lookup m.1 = none := Option.not_isSome_iff_eq_none.mp new
      cases hx : judge m.2 with
      | error f =>
        rw [hx] at hm
        cases hm
      | ok x =>
        rw [hx] at hm
        obtain rfl := Except.ok.inj hm
        by_cases same : m.1 = name
        · subst same
          have told : (given ++ [(m.1, x)]).lookup m.1 = some x := by
            simp [List.lookup_append, none]
          rw [told]
          exact given_append ((h.lookup_eq_none_iff hknown).mp none) hx
        · have kept : (given ++ [(m.1, x)]).lookup name = given.lookup name := by
            simp [List.lookup_append, List.lookup_cons, beq_false_of_ne (Ne.symm same)]
          rw [kept]
          exact (h name hname).append_of_ne same
  · rename_i unknown
    obtain rfl := Except.ok.inj hm
    exact (h name hname).append_of_ne fun same => unknown (same ▸ hname)

/-- A member is not taken in exactly if it offends. -/
theorem Records.takeMember_eq_error_iff (h : Records known judge ms given) {f : Fault} :
    Json.takeMember known judge given m = .error f ↔ Offends known judge ms m f := by
  unfold Json.takeMember
  by_cases hknown : m.1 ∈ known
  · rw [if_pos hknown]
    have iff := h.lookup_eq_none_iff hknown
    by_cases again : (given.lookup m.1).isSome
    · have values : valuesOf m.1 ms ≠ [] := fun hv => by simp [iff.mpr hv] at again
      rw [if_pos again]
      constructor
      · rintro ⟨⟩
        exact .again hknown values
      · rintro (_ | ⟨-, hv, -⟩)
        · rfl
        · exact absurd hv values
    · have values : valuesOf m.1 ms = [] := iff.mp (Option.not_isSome_iff_eq_none.mp again)
      rw [if_neg again]
      cases hx : judge m.2 with
      | error g =>
        constructor
        · rintro ⟨⟩
          exact .unfit hknown values hx
        · rintro (⟨-, hv⟩ | ⟨-, -, hf⟩)
          · exact absurd values hv
          · obtain rfl := Except.error.inj (hx.symm.trans hf)
            rfl
      | ok x =>
        constructor
        · rintro ⟨⟩
        · rintro (⟨-, hv⟩ | ⟨-, -, hf⟩)
          · exact absurd values hv
          · cases hx.symm.trans hf
  · rw [if_neg hknown]
    constructor
    · rintro ⟨⟩
    · rintro (⟨hk, -⟩ | ⟨hk, -, -⟩) <;> exact absurd hk hknown

theorem records_nil : Records known judge [] ([] : List (String × α)) := fun _ _ => .absent rfl

theorem records_of_foldlM (h : ms.foldlM (takeMember known judge) [] = .ok given) :
    Records known judge ms given := by
  induction ms using List.reverseRecOn generalizing given with
  | nil =>
    obtain rfl := Except.ok.inj h
    exact records_nil
  | append_singleton ms m ih =>
    simp only [List.foldlM_append, List.foldlM_cons, List.foldlM_nil, bind_pure] at h
    cases hs : ms.foldlM (takeMember known judge) [] with
    | error f =>
      rw [hs] at h
      cases h
    | ok s =>
      rw [hs] at h
      exact (ih hs).takeMember h

/-- What members tell with one more, they tell without it, or they do not tell. -/
theorem Given.of_append {o : Option α} (h : Given judge name (ms ++ [m]) o) :
    ∃ o, Given judge name ms o := by
  cases h with
  | absent h =>
    rw [valuesOf_append] at h
    exact ⟨none, .absent (List.append_eq_nil_iff.mp h).1⟩
  | @once v x h hx =>
    rw [valuesOf_append] at h
    rcases List.append_eq_singleton_iff.mp h with ⟨hms, -⟩ | ⟨hms, -⟩
    · exact ⟨none, .absent hms⟩
    · exact ⟨some x, .once hms hx⟩

/-- A member does not offend if something is told of its name with it. -/
theorem Given.not_offends {o : Option α} (h : Given judge m.1 (ms ++ [m]) o) (f : Fault) :
    ¬ Offends known judge ms m f := by
  have values : valuesOf m.1 (ms ++ [m]) = valuesOf m.1 ms ++ [m.2] := by
    rw [valuesOf_append, valuesOf_singleton, if_pos rfl]
  intro offends
  cases h with
  | absent h =>
    rw [values] at h
    exact absurd h (by simp)
  | @once v x h hx =>
    rw [values] at h
    cases offends with
    | again hknown given =>
      rcases List.append_eq_singleton_iff.mp h with ⟨hms, -⟩ | ⟨-, hm⟩
      · exact given hms
      · cases hm
    | unfit hknown new hf =>
      rw [new, List.nil_append] at h
      rw [(List.cons.inj h).1, hx] at hf
      cases hf

/-- **Members are all taken in exactly if something is told of each known name.** -/
theorem exists_foldlM_takeMember_eq_ok_iff :
    (∃ given, ms.foldlM (takeMember known judge) [] = .ok given) ↔
      ∀ name ∈ known, ∃ o, Given judge name ms o := by
  constructor
  · rintro ⟨given, h⟩ name hname
    exact ⟨_, records_of_foldlM h name hname⟩
  · intro told
    -- From the end, since what comes before a member decides whether it offends.
    induction ms using List.reverseRecOn with
    | nil => exact ⟨[], rfl⟩
    | append_singleton ms m ih =>
      obtain ⟨given, hgiven⟩ := ih fun name hname => by
        obtain ⟨o, h⟩ := told name hname
        exact h.of_append
      simp only [List.foldlM_append, List.foldlM_cons, List.foldlM_nil, bind_pure, hgiven]
      cases hm : takeMember known judge given m with
      | ok given' => exact ⟨given', hm⟩
      | error f =>
        have offends := (records_of_foldlM hgiven).takeMember_eq_error_iff.mp hm
        have hknown : m.1 ∈ known := by
          cases offends <;> assumption
        obtain ⟨o, h⟩ := told m.1 hknown
        exact absurd offends (h.not_offends f)

/-- A fold fails where it fails first. -/
theorem foldlM_eq_error_iff {β σ ε : Type} {step : σ → β → Except ε σ} {xs : List β} {s : σ}
    {e : ε} : xs.foldlM step s = .error e ↔
      ∃ before x after t, xs = before ++ x :: after ∧ before.foldlM step s = .ok t ∧
        step t x = .error e := by
  induction xs generalizing s with
  | nil =>
    constructor
    · rintro ⟨⟩
    · rintro ⟨before, x, after, t, h, -⟩
      exact absurd h (by simp)
  | cons y ys ih =>
    rw [List.foldlM_cons]
    cases hy : step s y with
    | error e' =>
      constructor
      · rintro ⟨⟩
        exact ⟨[], y, ys, s, rfl, rfl, hy⟩
      · rintro ⟨before, x, after, t, h, hbefore, hx⟩
        cases before with
        | nil =>
          obtain ⟨rfl, rfl⟩ := List.cons.inj h
          obtain rfl := Except.ok.inj hbefore
          exact hy.symm.trans hx
        | cons b before =>
          obtain ⟨rfl, rfl⟩ := List.cons.inj h
          rw [List.foldlM_cons, hy] at hbefore
          cases hbefore
    | ok s' =>
      refine ih.trans ⟨?_, ?_⟩
      · rintro ⟨before, x, after, t, rfl, hbefore, hx⟩
        exact ⟨y :: before, x, after, t, rfl, by rw [List.foldlM_cons, hy]; exact hbefore, hx⟩
      · rintro ⟨before, x, after, t, h, hbefore, hx⟩
        cases before with
        | nil =>
          obtain ⟨rfl, rfl⟩ := List.cons.inj h
          obtain rfl := Except.ok.inj hbefore
          cases hy.symm.trans hx
        | cons b before =>
          obtain ⟨rfl, rfl⟩ := List.cons.inj h
          rw [List.foldlM_cons, hy] at hbefore
          exact ⟨before, x, after, t, rfl, hbefore, hx⟩

/-- **Where members are not all taken in, the first one that offends is told.** -/
theorem foldlM_takeMember_eq_error_iff {f : Fault} :
    ms.foldlM (takeMember known judge) [] = .error f ↔
      ∃ before m after, ms = before ++ m :: after ∧
        (∀ name ∈ known, ∃ o, Given judge name before o) ∧ Offends known judge before m f := by
  rw [foldlM_eq_error_iff]
  constructor
  · rintro ⟨before, m, after, given, rfl, hgiven, hm⟩
    exact ⟨before, m, after, rfl, exists_foldlM_takeMember_eq_ok_iff.mp ⟨given, hgiven⟩,
      (records_of_foldlM hgiven).takeMember_eq_error_iff.mp hm⟩
  · rintro ⟨before, m, after, rfl, told, offends⟩
    obtain ⟨given, hgiven⟩ := exists_foldlM_takeMember_eq_ok_iff.mpr told
    exact ⟨before, m, after, given, rfl, hgiven,
      (records_of_foldlM hgiven).takeMember_eq_error_iff.mpr offends⟩

end Given

end Faultline.Json
