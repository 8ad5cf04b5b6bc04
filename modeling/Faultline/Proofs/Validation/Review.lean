import Faultline.Proofs.Validation.Position
import Faultline.Validation.Review
import Mathlib.Data.List.Forall2
import Mathlib.Data.List.Nodup

/-!
# The fields of a review

Where a review has complaints, and which complaints flattening finds there.  A record is a
map from names, so the order of its fields means nothing, and the same holds for the
parameters of a complaint.

## Main definitions

* `Verdict.At` — the complaints at a position.
* `Verdict.Proper` — no key occurs twice in a map, and names are plain.
* `Verdict.Reordered` — two verdicts differ in the order of their maps only.

## Main results

* `mem_complaints`, `filter_complaints` — flattening finds at each position the complaints
  there, in their order, and nothing else.
* `Verdict.At.of_reordered` — the order of maps does not matter for what is at a position.
-/

namespace Faultline.Validation

/-- Induction on verdicts: an item of a list is a record. -/
@[elab_as_elim]
theorem Verdict.induction {motive : Verdict → Prop} (here : ∀ cs, motive (.here cs))
    (inside : ∀ fields, (∀ e ∈ fields, motive e.2) → motive (.inside fields))
    (items : ∀ items, (∀ e ∈ items, motive (.inside e.2)) → motive (.items items)) :
    ∀ v, motive v
  | .here cs => here cs
  | .inside fields => inside fields fun e _ => Verdict.induction here inside items e.2
  | .items xs => items xs fun e _ => Verdict.induction here inside items (.inside e.2)
termination_by v => sizeOf v
decreasing_by
  all_goals
    rename_i he
    have hlt := List.sizeOf_lt_of_mem he
    have hsize : sizeOf e = 1 + sizeOf e.1 + sizeOf e.2 := by cases e; rfl
    simp only [Verdict.inside.sizeOf_spec, Verdict.items.sizeOf_spec]
    omega

/-! ### What is at a position -/

/-- A verdict has the complaints `cs` at a position. -/
inductive Verdict.At : Verdict → Position → List Complaint → Prop
  /-- Complaints about the field itself are right here. -/
  | here (cs : List Complaint) : At (.here cs) [] cs
  /-- In a record, the way goes through the name of a field. -/
  | inside {fields : List (String × Verdict)} {name : String} {v : Verdict} {p : Position}
      {cs : List Complaint} (mem : (name, v) ∈ fields) (next : At v p cs) :
      At (.inside fields) (.name name :: p) cs
  /-- In a list, the way goes through the index of an item. -/
  | items {items : List (Nat × List (String × Verdict))} {n : Nat}
      {fields : List (String × Verdict)} {p : Position} {cs : List Complaint}
      (mem : (n, fields) ∈ items) (next : At (.inside fields) p cs) :
      At (.items items) (.index n :: p) cs

/-- A verdict that is made of maps: no name occurs twice in a record, no index in a list and
no parameter in a complaint.  All names are plain. -/
inductive Verdict.Proper : Verdict → Prop
  | here {cs : List Complaint} (params : ∀ c ∈ cs, (c.params.map Prod.fst).Nodup) :
      Proper (.here cs)
  | inside {fields : List (String × Verdict)} (nodup : (fields.map Prod.fst).Nodup)
      (plain : ∀ e ∈ fields, PlainName e.1) (inner : ∀ e ∈ fields, Proper e.2) :
      Proper (.inside fields)
  | items {items : List (Nat × List (String × Verdict))} (nodup : (items.map Prod.fst).Nodup)
      (inner : ∀ e ∈ items, Proper (.inside e.2)) : Proper (.items items)

/-- A review has the complaints `cs` at a position. -/
abbrev Review.At (r : Review) (p : Position) (cs : List Complaint) : Prop :=
  Verdict.At (.inside r) p cs

/-- A review that is made of maps, with plain names. -/
abbrev Review.Proper (r : Review) : Prop := Verdict.Proper (.inside r)

namespace Verdict

/-- The names on the way to complaints are plain. -/
theorem At.plain {v : Verdict} {p : Position} {cs : List Complaint} (h : v.At p cs)
    (hv : v.Proper) : p.Plain := by
  induction h with
  | here cs => exact fun s hs => absurd hs List.not_mem_nil
  | inside mem next ih =>
    cases hv with
    | inside _ plain inner =>
      intro s hs
      rcases List.mem_cons.mp hs with he | hs
      · exact Step.name.inj he ▸ plain _ mem
      · exact ih (inner _ mem) s hs
  | items mem next ih =>
    cases hv with
    | items _ inner =>
      intro s hs
      rcases List.mem_cons.mp hs with he | hs
      · cases he
      · exact ih (inner _ mem) s hs

/-- The parameters of complaints are a map. -/
theorem At.nodup_params {v : Verdict} {p : Position} {cs : List Complaint} (h : v.At p cs)
    (hv : v.Proper) : ∀ c ∈ cs, (c.params.map Prod.fst).Nodup := by
  induction h with
  | here cs =>
    cases hv with
    | here params => exact params
  | inside mem next ih =>
    cases hv with
    | inside _ _ inner => exact ih (inner _ mem)
  | items mem next ih =>
    cases hv with
    | items _ inner => exact ih (inner _ mem)

/-- The way ends here or with the name of a field. -/
theorem At.eq_here_or_concat {v : Verdict} {p : Position} {cs : List Complaint} (h : v.At p cs) :
    v = .here cs ∨ ∃ q name, p = q ++ [.name name] := by
  induction h with
  | here cs => exact Or.inl rfl
  | @inside fields name v p cs mem next ih =>
    rcases ih with rfl | ⟨q, last, rfl⟩
    · cases next
      exact Or.inr ⟨[], name, rfl⟩
    · exact Or.inr ⟨.name name :: q, last, rfl⟩
  | @items items n fields p cs mem next ih =>
    rcases ih with he | ⟨q, last, rfl⟩
    · cases he
    · exact Or.inr ⟨.index n :: q, last, rfl⟩

end Verdict

/-- The way to the complaints of a review ends with the name of a field. -/
theorem Review.At.eq_concat {r : Review} {p : Position} {cs : List Complaint} (h : r.At p cs) :
    ∃ q name, p = q ++ [.name name] := by
  rcases Verdict.At.eq_here_or_concat h with he | hend
  · cases he
  · exact hend

/-! ### What flattening finds -/

theorem fieldComplaints_eq_flatMap (place : Position) (fields : List (String × Verdict)) :
    fieldComplaints place fields =
      fields.flatMap fun e => e.2.complaints (place ++ [.name e.1]) := by
  induction fields with
  | nil => rfl
  | cons e rest ih => rw [fieldComplaints, ih, List.flatMap_cons]

theorem itemComplaints_eq_flatMap (place : Position)
    (items : List (Nat × List (String × Verdict))) :
    itemComplaints place items =
      items.flatMap fun e => (Verdict.inside e.2).complaints (place ++ [.index e.1]) := by
  induction items with
  | nil => rfl
  | cons e rest ih => rw [itemComplaints, ih, List.flatMap_cons, Verdict.complaints]

namespace Verdict

theorem complaints_inside (place : Position) (fields : List (String × Verdict)) :
    (inside fields).complaints place =
      fields.flatMap fun e => e.2.complaints (place ++ [.name e.1]) := by
  rw [complaints, fieldComplaints_eq_flatMap]

theorem complaints_items (place : Position) (items : List (Nat × List (String × Verdict))) :
    (Verdict.items items).complaints place =
      items.flatMap fun e => (inside e.2).complaints (place ++ [.index e.1]) := by
  rw [complaints, itemComplaints_eq_flatMap]

/-- All that flattening finds is at some position. -/
theorem mem_complaints {v : Verdict} {place : Position} {e : Position × Complaint}
    (h : e ∈ v.complaints place) : ∃ p cs, v.At p cs ∧ e.1 = place ++ p ∧ e.2 ∈ cs := by
  induction v using Verdict.induction generalizing place with
  | here cs =>
    rw [complaints, List.mem_map] at h
    obtain ⟨c, hc, rfl⟩ := h
    exact ⟨[], cs, .here cs, by simp, hc⟩
  | inside fields ih =>
    rw [complaints_inside, List.mem_flatMap] at h
    obtain ⟨f, hf, hmem⟩ := h
    obtain ⟨p, cs, hat, hp, hc⟩ := ih f hf hmem
    exact ⟨.name f.1 :: p, cs, .inside hf hat, by rw [hp, List.append_assoc]; rfl, hc⟩
  | items xs ih =>
    rw [complaints_items, List.mem_flatMap] at h
    obtain ⟨f, hf, hmem⟩ := h
    obtain ⟨p, cs, hat, hp, hc⟩ := ih f hf hmem
    exact ⟨.index f.1 :: p, cs, .items hf hat, by rw [hp, List.append_assoc]; rfl, hc⟩

end Verdict

/-- Of several parts with distinct keys, if only the one with a given key has anything, the
whole is what that one has. -/
theorem flatMap_eq_of_unique {κ α β : Type} {l : List (κ × α)} (hl : (l.map Prod.fst).Nodup)
    {f : κ × α → List β} {a : κ × α} (ha : a ∈ l) (h : ∀ b ∈ l, b.1 ≠ a.1 → f b = []) :
    l.flatMap f = f a := by
  induction l with
  | nil => exact absurd ha List.not_mem_nil
  | cons b bs ih =>
    rw [List.map_cons, List.nodup_cons] at hl
    rw [List.flatMap_cons]
    rcases List.mem_cons.mp ha with rfl | ha
    · have hrest : bs.flatMap f = [] := by
        rw [List.flatMap_eq_nil_iff]
        intro c hc
        refine h c (List.mem_cons_of_mem _ hc) fun he => hl.1 ?_
        exact he ▸ List.mem_map_of_mem hc
      rw [hrest, List.append_nil]
    · have hb : b.1 ≠ a.1 := fun he => hl.1 (he ▸ List.mem_map_of_mem ha)
      rw [h b (List.mem_cons_self ..) hb, List.nil_append,
        ih hl.2 ha fun c hc => h c (List.mem_cons_of_mem _ hc)]

/-- Nothing at a position is found behind another step. -/
theorem Verdict.filter_complaints_of_ne {v : Verdict} {place p : Position} {s t : Step}
    (h : s ≠ t) :
    (v.complaints (place ++ [s])).filter (·.1 = place ++ t :: p) = [] := by
  rw [List.filter_eq_nil_iff]
  intro e he
  obtain ⟨q, cs, -, hq, -⟩ := mem_complaints he
  rw [decide_eq_true_eq, hq, List.append_assoc, List.append_right_inj]
  exact fun hst => h (List.cons.inj hst).1

/-- Flattening finds at each position the complaints there, in their order. -/
theorem Verdict.filter_complaints {v : Verdict} (place : Position) {p : Position}
    {cs : List Complaint} (hv : v.Proper) (h : v.At p cs) :
    (v.complaints place).filter (·.1 = place ++ p) = cs.map fun c => (place ++ p, c) := by
  induction h generalizing place with
  | here cs => simp [complaints, List.filter_map, Function.comp_def]
  | @inside fields name v p cs mem next ih =>
    cases hv with
    | inside nodup _ inner =>
      have hplace : place ++ .name name :: p = (place ++ [.name name]) ++ p := by simp
      rw [complaints_inside, List.filter_flatMap, flatMap_eq_of_unique nodup mem, hplace,
        ih _ (inner _ mem)]
      exact fun b _ hb => filter_complaints_of_ne fun he => hb (Step.name.inj he)
  | @items items n fields p cs mem next ih =>
    cases hv with
    | items nodup inner =>
      have hplace : place ++ .index n :: p = (place ++ [.index n]) ++ p := by simp
      rw [complaints_items, List.filter_flatMap, flatMap_eq_of_unique nodup mem, hplace,
        ih _ (inner _ mem)]
      exact fun b _ hb => filter_complaints_of_ne fun he => hb (Step.index.inj he)

/-! ### The order of maps -/

/-- Two complaints differ in the order of their parameters only. -/
structure Complaint.Reordered (c d : Complaint) : Prop where
  rule : c.rule = d.rule
  message : c.message = d.message
  params : c.params.Perm d.params

/-- Two verdicts differ in the order of their maps only.  A map anywhere inside may be
reordered, and then another one. -/
inductive Verdict.Reordered : Verdict → Verdict → Prop
  | refl (v : Verdict) : Reordered v v
  | trans {u v w : Verdict} (first : Reordered u v) (second : Reordered v w) : Reordered u w
  /-- The fields of a record change places. -/
  | fields {fields fields' : List (String × Verdict)} (perm : fields.Perm fields') :
      Reordered (.inside fields) (.inside fields')
  /-- Something changes places inside a field. -/
  | field {front back : List (String × Verdict)} {name : String} {v w : Verdict}
      (inner : Reordered v w) :
      Reordered (.inside (front ++ (name, v) :: back)) (.inside (front ++ (name, w) :: back))
  /-- Something changes places inside an item. -/
  | item {front back : List (Nat × List (String × Verdict))} {n : Nat}
      {fields fields' : List (String × Verdict)}
      (inner : Reordered (.inside fields) (.inside fields')) :
      Reordered (.items (front ++ (n, fields) :: back)) (.items (front ++ (n, fields') :: back))
  /-- The parameters of a complaint change places. -/
  | params {front back : List Complaint} {c d : Complaint} (inner : c.Reordered d) :
      Reordered (.here (front ++ c :: back)) (.here (front ++ d :: back))

/-- Two reviews differ in the order of their maps only. -/
abbrev Review.Reordered (r r' : Review) : Prop := Verdict.Reordered (.inside r) (.inside r')

namespace Complaint.Reordered

variable {b c d : Complaint}

theorem refl (c : Complaint) : c.Reordered c := ⟨rfl, rfl, .refl _⟩

theorem symm (h : c.Reordered d) : d.Reordered c :=
  ⟨h.rule.symm, h.message.symm, h.params.symm⟩

theorem trans (h : b.Reordered c) (h' : c.Reordered d) : b.Reordered d :=
  ⟨h.rule.trans h'.rule, h.message.trans h'.message, h.params.trans h'.params⟩

theorem forall₂_refl (cs : List Complaint) : List.Forall₂ Reordered cs cs :=
  List.forall₂_same.mpr fun c _ => refl c

theorem forall₂_trans {bs cs ds : List Complaint} (h : List.Forall₂ Reordered bs cs)
    (h' : List.Forall₂ Reordered cs ds) : List.Forall₂ Reordered bs ds := by
  induction h generalizing ds with
  | nil => exact h'
  | cons hbc _ ih =>
    cases h' with
    | cons hcd hrest => exact .cons (hbc.trans hcd) (ih hrest)

end Complaint.Reordered

namespace Verdict

theorem Reordered.symm {v w : Verdict} (h : Reordered v w) : Reordered w v := by
  induction h with
  | refl v => exact .refl v
  | trans _ _ ih ih' => exact ih'.trans ih
  | fields perm => exact .fields perm.symm
  | field _ ih => exact .field ih
  | item _ ih => exact .item ih
  | params inner => exact .params inner.symm

/-- Verdicts made of maps stay so when maps are reordered. -/
theorem Proper.of_reordered {v w : Verdict} (h : Reordered v w) (hv : v.Proper) : w.Proper := by
  induction h with
  | refl v => exact hv
  | trans _ _ ih ih' => exact ih' (ih hv)
  | fields perm =>
    cases hv with
    | inside nodup plain inner =>
      exact .inside ((perm.map _).nodup_iff.mp nodup) (fun e he => plain e (perm.mem_iff.mpr he))
        fun e he => inner e (perm.mem_iff.mpr he)
  | field _ ih =>
    cases hv with
    | inside nodup plain inner =>
      simp only [List.forall_mem_append, List.forall_mem_cons] at plain inner
      refine .inside (by simpa using nodup) ?_ ?_ <;>
        simp only [List.forall_mem_append, List.forall_mem_cons]
      · exact plain
      · exact ⟨inner.1, ih inner.2.1, inner.2.2⟩
  | item _ ih =>
    cases hv with
    | items nodup inner =>
      simp only [List.forall_mem_append, List.forall_mem_cons] at inner
      refine .items (by simpa using nodup) ?_
      simp only [List.forall_mem_append, List.forall_mem_cons]
      exact ⟨inner.1, ih inner.2.1, inner.2.2⟩
  | params hcd =>
    cases hv with
    | here params =>
      simp only [List.forall_mem_append, List.forall_mem_cons] at params
      refine .here ?_
      simp only [List.forall_mem_append, List.forall_mem_cons]
      exact ⟨params.1, (hcd.params.map _).nodup_iff.mp params.2.1, params.2.2⟩

/-- When the value at one key is replaced, what was found among the entries is either that
value or still there. -/
theorem mem_of_mem_replaced {κ α : Type} {front back : List (κ × α)} {key k : κ} {v w u : α}
    (h : (k, u) ∈ front ++ (key, v) :: back) :
    (k = key ∧ u = v) ∨ (k, u) ∈ front ++ (key, w) :: back := by
  rw [List.mem_append, List.mem_cons] at h
  rcases h with hfront | he | hback
  · exact Or.inr (List.mem_append_left _ hfront)
  · exact Or.inl (Prod.mk.inj he)
  · exact Or.inr (List.mem_append_right _ (List.mem_cons_of_mem _ hback))

/-- What is at a position is there in any order of the maps. -/
theorem At.of_reordered {v w : Verdict} (h : Reordered v w) {p : Position}
    {cs : List Complaint} (hv : v.At p cs) :
    ∃ ds, w.At p ds ∧ List.Forall₂ Complaint.Reordered cs ds := by
  have same {p : Position} {cs : List Complaint} {w : Verdict} (hw : w.At p cs) :
      ∃ ds, w.At p ds ∧ List.Forall₂ Complaint.Reordered cs ds :=
    ⟨cs, hw, Complaint.Reordered.forall₂_refl cs⟩
  induction h generalizing p cs with
  | refl v => exact same hv
  | trans _ _ ih ih' =>
    obtain ⟨ds, hds, hcd⟩ := ih hv
    obtain ⟨es, hes, hde⟩ := ih' hds
    exact ⟨es, hes, Complaint.Reordered.forall₂_trans hcd hde⟩
  | fields perm =>
    cases hv with
    | inside mem next => exact same (.inside (perm.mem_iff.mp mem) next)
  | field _ ih =>
    cases hv with
    | inside mem next =>
      rcases mem_of_mem_replaced mem with ⟨rfl, rfl⟩ | hkept
      · obtain ⟨ds, hds, hcd⟩ := ih next
        exact ⟨ds, .inside (List.mem_append_right _ (List.mem_cons_self ..)) hds, hcd⟩
      · exact same (.inside hkept next)
  | item _ ih =>
    cases hv with
    | items mem next =>
      rcases mem_of_mem_replaced mem with ⟨rfl, rfl⟩ | hkept
      · obtain ⟨ds, hds, hcd⟩ := ih next
        exact ⟨ds, .items (List.mem_append_right _ (List.mem_cons_self ..)) hds, hcd⟩
      · exact same (.items hkept next)
  | @params front back c d hcd =>
    cases hv
    exact ⟨front ++ d :: back, .here _,
      List.rel_append (Complaint.Reordered.forall₂_refl front)
        (.cons hcd (Complaint.Reordered.forall₂_refl back))⟩

end Verdict

end Faultline.Validation
