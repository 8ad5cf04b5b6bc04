import Faultline.Proofs.Yaml.Record

/-!
# Documents that tell the same

Entries of a record may stand in any order, and there may be more of them than are known.  Two
nodes are alike when they differ in nothing else that a reader looks at; where they begin does not
matter either.  Alike nodes are read alike: each is accepted if the other one is, with the same
result.

## Main definitions

* `Rearranged` — entries in another order, with more or fewer unknown names.
* `SameScalar`, `ListsAlike`, `RecordsAlike` — nodes that are alike, by what they should be.

## Main results

* `Rearranged.once_iff`, `Rearranged.mayTell_iff` — rearranged entries tell the same.
* `ListsAlike.iff`, `RecordsAlike.iff` — so do alike lists and records.
-/

namespace Faultline.Yaml

/-- Entries are rearranged: they are moved, entries of unknown names are put in or left out, and
values of known names are replaced by others that are alike. -/
inductive Rearranged (known : List String) (Alike : String → Node → Node → Prop) :
    List (Node × Node) → List (Node × Node) → Prop
  /-- There is nothing to rearrange. -/
  | nil : Rearranged known Alike [] []
  /-- An entry stays, its value may be replaced. -/
  | keep {k k' v v' : Node} {name : String} {es es' : List (Node × Node)} (hk : k.IsText name)
      (hk' : k'.IsText name) (alike : Alike name v v') (rest : Rearranged known Alike es es') :
      Rearranged known Alike ((k, v) :: es) ((k', v') :: es')
  /-- Entries are moved. -/
  | move {es mid es' : List (Node × Node)} (perm : es.Perm mid)
      (rest : Rearranged known Alike mid es') : Rearranged known Alike es es'
  /-- An entry of an unknown name is put in. -/
  | insert {k v : Node} {name : String} {es es' : List (Node × Node)} (hk : k.IsText name)
      (unknown : name ∉ known) (rest : Rearranged known Alike es es') :
      Rearranged known Alike es ((k, v) :: es')
  /-- An entry of an unknown name is left out. -/
  | remove {k v : Node} {name : String} {es es' : List (Node × Node)} (hk : k.IsText name)
      (unknown : name ∉ known) (rest : Rearranged known Alike es es') :
      Rearranged known Alike ((k, v) :: es) es'

/-- Two nodes are the same scalar, or neither is a scalar. -/
def SameScalar (n n' : Node) : Prop := ∀ s, n.IsScalar s ↔ n'.IsScalar s

/-- Two nodes are lists of alike items, or neither is a list. -/
def ListsAlike (Alike : Node → Node → Prop) (n n' : Node) : Prop :=
  (∃ ns ns', n.IsList ns ∧ n'.IsList ns' ∧ List.Forall₂ Alike ns ns') ∨
    (∀ ns, ¬ n.IsList ns) ∧ ∀ ns, ¬ n'.IsList ns

/-- Two nodes are records whose entries are the same up to rearrangement, or neither is a
record. -/
def RecordsAlike (known : List String) (Alike : String → Node → Node → Prop) (n n' : Node) :
    Prop :=
  (∃ es es', n.IsRecord es ∧ n'.IsRecord es' ∧ Rearranged known Alike es es') ∨
    (∀ es, ¬ n.IsRecord es) ∧ ∀ es, ¬ n'.IsRecord es

/-! ### Scalars -/

section Alike

variable {α : Type} {n n' : Node}

theorem SameScalar.isText_iff (h : SameScalar n n') (t : String) :
    n.IsText t ↔ n'.IsText t := by
  simp only [Node.IsText, h _]

theorem SameScalar.isOptionalText_iff (h : SameScalar n n') (o : Option String) :
    n.IsOptionalText o ↔ n'.IsOptionalText o := by
  constructor
  · rintro (⟨scalar, null⟩ | ⟨scalar, null⟩)
    · exact .nothing ((h _).mp scalar) null
    · exact .text ((h _).mp scalar) null
  · rintro (⟨scalar, null⟩ | ⟨scalar, null⟩)
    · exact .nothing ((h _).mpr scalar) null
    · exact .text ((h _).mpr scalar) null

/-! ### Entries -/

variable {known : List String} {Alike : String → Node → Node → Prop} {name : String}
  {es es' : List (Node × Node)}

/-- The values of a known name are moved and replaced. -/
theorem Rearranged.forall₂_valuesOf (h : Rearranged known Alike es es') (hn : name ∈ known) :
    ∃ vs, (valuesOf name es).Perm vs ∧ List.Forall₂ (Alike name) vs (valuesOf name es') := by
  induction h with
  | nil => exact ⟨[], .refl _, .nil⟩
  | @keep k k' v v' other es es' hk hk' alike rest ih =>
    obtain ⟨vs, perm, all⟩ := ih
    by_cases same : name = other
    · subst same
      rw [valuesOf_cons hk, valuesOf_cons hk']
      exact ⟨v :: vs, perm.cons v, all.cons alike⟩
    · rw [valuesOf_cons_of_ne hk same, valuesOf_cons_of_ne hk' same]
      exact ⟨vs, perm, all⟩
  | move perm rest ih =>
    obtain ⟨vs, perm', all⟩ := ih
    exact ⟨vs, (perm.filterMap _).trans perm', all⟩
  | insert hk unknown rest ih =>
    rw [valuesOf_cons_of_ne hk fun h => unknown (h ▸ hn)]
    exact ih
  | remove hk unknown rest ih =>
    rw [valuesOf_cons_of_ne hk fun h => unknown (h ▸ hn)]
    exact ih

/-- Rearranged entries give the same names. -/
theorem Rearranged.valuesOf_eq_nil_iff (h : Rearranged known Alike es es') (hn : name ∈ known) :
    valuesOf name es = [] ↔ valuesOf name es' = [] := by
  obtain ⟨vs, perm, all⟩ := h.forall₂_valuesOf hn
  rw [← List.length_eq_zero_iff, perm.length_eq, all.length_eq, List.length_eq_zero_iff]

/-- Rearranged entries tell the same of a name that is given once. -/
theorem Rearranged.once_iff {P P' : Node → Prop} (h : Rearranged known Alike es es')
    (hn : name ∈ known) (respects : ∀ v v', Alike name v v' → (P v ↔ P' v')) :
    Once name P es ↔ Once name P' es' := by
  -- The values of the name are moved first and then replaced, and one value stays one value.
  obtain ⟨vs, perm, all⟩ := h.forall₂_valuesOf hn
  constructor
  · rintro ⟨v, hv, hP⟩
    obtain rfl := List.perm_singleton.mp (hv ▸ perm.symm)
    obtain ⟨v', vs', alike, others, hv'⟩ := List.forall₂_cons_left_iff.mp all
    rw [List.forall₂_nil_left_iff.mp others] at hv'
    exact ⟨v', hv', (respects v v' alike).mp hP⟩
  · rintro ⟨v', hv', hP⟩
    rw [hv'] at all
    obtain ⟨v, vs', alike, others, hv⟩ := List.forall₂_cons_right_iff.mp all
    rw [hv, List.forall₂_nil_right_iff.mp others] at perm
    exact ⟨v, List.perm_singleton.mp perm, (respects v v' alike).mpr hP⟩

/-- Rearranged entries tell the same of a name that may be given. -/
theorem Rearranged.mayTell_iff {Tells : Node → α → Prop} {usual c : α}
    (h : Rearranged known Alike es es') (hn : name ∈ known)
    (respects : ∀ v v', Alike name v v' → ∀ c, Tells v c ↔ Tells v' c) :
    MayTell name Tells usual es c ↔ MayTell name Tells usual es' c := by
  rw [MayTell, MayTell, h.valuesOf_eq_nil_iff hn,
    h.once_iff hn fun v v' alike => respects v v' alike c]

/-! ### Lists and records -/

/-- What is said of the one content of a thing is said of an alike content, or of neither. -/
theorem exists_iff_of_alike {β : Type} {Is Is' P : β → Prop} {Alike : β → β → Prop}
    (unique : ∀ x y, Is x → Is y → x = y) (unique' : ∀ x y, Is' x → Is' y → x = y)
    (h : (∃ x x', Is x ∧ Is' x' ∧ Alike x x') ∨ (∀ x, ¬ Is x) ∧ ∀ x, ¬ Is' x)
    (respects : ∀ x x', Alike x x' → (P x ↔ P x')) : (∃ x, Is x ∧ P x) ↔ ∃ x, Is' x ∧ P x := by
  rcases h with ⟨x, x', hx, hx', alike⟩ | ⟨none, none'⟩
  · constructor
    · rintro ⟨y, hy, told⟩
      obtain rfl := unique y x hy hx
      exact ⟨x', hx', (respects y x' alike).mp told⟩
    · rintro ⟨y, hy, told⟩
      obtain rfl := unique' y x' hy hx'
      exact ⟨x, hx, (respects x y alike).mpr told⟩
  · exact iff_of_false (fun ⟨x, hx, _⟩ => none x hx) fun ⟨x, hx, _⟩ => none' x hx

theorem Node.IsList.unique {ns ns' : List Node} (h : n.IsList ns) (h' : n.IsList ns') :
    ns = ns' := by
  cases h <;> cases h' <;> rfl

theorem Node.IsRecord.unique (h : n.IsRecord es) (h' : n.IsRecord es') : es = es' := by
  cases h <;> cases h' <;> rfl

/-- Alike lists tell the same items, if alike items tell the same. -/
theorem ListsAlike.iff {Alike : Node → Node → Prop} {P : Node → α → Prop} {xs : List α}
    (h : ListsAlike Alike n n') (respects : ∀ m m', Alike m m' → ∀ x, P m x ↔ P m' x) :
    (∃ ns, n.IsList ns ∧ List.Forall₂ P ns xs) ↔ ∃ ns, n'.IsList ns ∧ List.Forall₂ P ns xs := by
  refine exists_iff_of_alike (fun _ _ => Node.IsList.unique) (fun _ _ => Node.IsList.unique) h
    fun ns ns' all => ?_
  induction all generalizing xs with
  | nil => rfl
  | cons alike _ ih =>
    rw [List.forall₂_cons_left_iff, List.forall₂_cons_left_iff]
    simp only [respects _ _ alike, ih]

/-- Alike records tell the same, if rearranged entries do. -/
theorem RecordsAlike.iff {P : List (Node × Node) → Prop} (h : RecordsAlike known Alike n n')
    (respects : ∀ es es', Rearranged known Alike es es' → (P es ↔ P es')) :
    (∃ es, n.IsRecord es ∧ P es) ↔ ∃ es, n'.IsRecord es ∧ P es :=
  exists_iff_of_alike (fun _ _ => Node.IsRecord.unique) (fun _ _ => Node.IsRecord.unique) h respects

/-! ### Nodes as they are -/

theorem SameScalar.refl (n : Node) : SameScalar n n := fun _ => Iff.rfl

/-- Nothing needs to be rearranged. -/
theorem Rearranged.refl (names : ∀ e ∈ es, ∃ t, e.1.IsText t)
    (alike : ∀ e ∈ es, ∀ name, Alike name e.2 e.2) : Rearranged known Alike es es := by
  induction es with
  | nil => exact .nil
  | cons e es ih =>
    obtain ⟨name, hk⟩ := names e (List.mem_cons_self ..)
    exact .keep hk hk (alike e (List.mem_cons_self ..) name)
      (ih (fun e he => names e (List.mem_cons_of_mem _ he))
        fun e he => alike e (List.mem_cons_of_mem _ he))

theorem ListsAlike.refl {Alike : Node → Node → Prop} (tree : n.IsTree)
    (alike : ∀ m : Node, m.IsTree → Alike m m) : ListsAlike Alike n n := by
  by_cases list : ∃ ns, n.IsList ns
  · obtain ⟨ns, list⟩ := list
    exact Or.inl ⟨ns, ns, list, list,
      List.forall₂_same.mpr fun m hm => alike m (tree.item list m hm)⟩
  · have none := not_exists.mp list
    exact Or.inr ⟨none, none⟩

theorem RecordsAlike.refl (tree : n.IsTree)
    (alike : ∀ (name : String) (v : Node), v.IsTree → Alike name v v) :
    RecordsAlike known Alike n n := by
  by_cases record : ∃ es, n.IsRecord es
  · obtain ⟨es, record⟩ := record
    exact Or.inl ⟨es, es, record, record, .refl (fun e he => (tree.name record e he).2)
      fun e he name => alike name e.2 (tree.value record e he)⟩
  · have none := not_exists.mp record
    exact Or.inr ⟨none, none⟩

end Alike

end Faultline.Yaml
