import Faultline.Proofs.Yaml.Reading
import Mathlib.Data.List.Nodup

/-!
# Records in a document

A record is read entry by entry, in the order of the document, and yet its members do not depend
on that order: each known name may come once, fills a slot of its own, and leaves the other slots
alone.  Entries of unknown names do nothing at all.

## Main definitions

* `valuesOf`, `Once`, `AtMostOnce`, `MayTell` — the values of a name among entries.
* `Slot`, `Lawful` — the places for the members of a record.

## Main results

* `accepts_membersFrom` — **a record is accepted exactly if each slot is filled from the one value
  of its name**, or left as it was when there is none.
-/

namespace Faultline.Yaml

/-! ### The values of a name -/

/-- The text that a node is, if it is one. -/
def Node.text? : Node → Option String
  | .scalar _ s => some s.text
  | _ => none

theorem Node.text?_eq_some_iff {n : Node} {t : String} : n.text? = some t ↔ n.IsText t := by
  constructor
  · intro h
    cases n with
    | scalar m s => exact ⟨s, .intro, Option.some.inj h⟩
    | _ => cases h
  · rintro ⟨s, ⟨⟩, rfl⟩
    rfl

/-- The values of a name among entries. -/
def valuesOf (name : String) (es : List (Node × Node)) : List Node :=
  es.filterMap fun e => if e.1.text? = some name then some e.2 else none

section Values

variable {α : Type} {name other : String} {k v : Node} {es : List (Node × Node)}

theorem valuesOf_cons (hk : k.IsText name) :
    valuesOf name ((k, v) :: es) = v :: valuesOf name es := by
  simp [valuesOf, Node.text?_eq_some_iff.mpr hk]

theorem valuesOf_cons_of_ne (hk : k.IsText other) (h : name ≠ other) :
    valuesOf name ((k, v) :: es) = valuesOf name es := by
  simp [valuesOf, Node.text?_eq_some_iff.mpr hk, h.symm]

/-- A name is given once, and its value has a property. -/
def Once (name : String) (P : Node → Prop) (es : List (Node × Node)) : Prop :=
  ∃ v, valuesOf name es = [v] ∧ P v

/-- A name is not given, or it is given once and its value has a property. -/
def AtMostOnce (name : String) (P : Node → Prop) (es : List (Node × Node)) : Prop :=
  valuesOf name es = [] ∨ Once name P es

/-- A name is given once, and its value tells a content; or it is not given, and the content is
the usual one. -/
def MayTell (name : String) (Tells : Node → α → Prop) (usual : α) (es : List (Node × Node))
    (c : α) : Prop :=
  (valuesOf name es = [] ∧ c = usual) ∨ Once name (Tells · c) es

/-- Where nothing is given, every content is the usual one. -/
theorem mayTell_nil_iff {Tells : Node → α → Prop} {usual c : α} :
    MayTell name Tells usual [] c ↔ c = usual := by
  simp [MayTell, Once, valuesOf]

/-- A content is told by the one value of a name if the value is one that tells some content. -/
theorem exists_once_iff {Tells : Node → α → Prop} {Fits : Node → Prop}
    (h : ∀ v, (∃ c, Tells v c) ↔ Fits v) :
    (∃ c, Once name (Tells · c) es) ↔ Once name Fits es := by
  constructor
  · rintro ⟨c, v, hv, hc⟩
    exact ⟨v, hv, (h v).mp ⟨c, hc⟩⟩
  · rintro ⟨v, hv, fits⟩
    obtain ⟨c, hc⟩ := (h v).mpr fits
    exact ⟨c, v, hv, hc⟩

theorem exists_mayTell_iff {Tells : Node → α → Prop} {Fits : Node → Prop} (usual : α)
    (h : ∀ v, (∃ c, Tells v c) ↔ Fits v) :
    (∃ c, MayTell name Tells usual es c) ↔ AtMostOnce name Fits es := by
  rw [AtMostOnce, ← exists_once_iff h]
  constructor
  · rintro ⟨c, ⟨hv, -⟩ | once⟩
    · exact Or.inl hv
    · exact Or.inr ⟨c, once⟩
  · rintro (hv | ⟨c, once⟩)
    · exact ⟨usual, Or.inl ⟨hv, rfl⟩⟩
    · exact ⟨c, Or.inr once⟩

end Values

/-! ### Slots -/

/-- A place for a member of a record of which `σ` is known: its name, and what a value under that
name tells about it. -/
structure Slot (σ : Type) where
  /-- The name of the member. -/
  name : String
  /-- What may be in the slot. -/
  Content : Type
  /-- What is in the slot. -/
  get : σ → Content
  /-- Fills the slot. -/
  set : Content → σ → σ
  /-- What a value tells. -/
  Tells : Node → Content → Prop

/-- Slots of distinct names do not touch each other, and there is nothing else in a record. -/
structure Lawful {σ : Type} (slots : List (Slot σ)) : Prop where
  nodup : (slots.map Slot.name).Nodup
  get_set : ∀ s ∈ slots, ∀ c x, s.get (s.set c x) = c
  get_set_of_ne : ∀ s ∈ slots, ∀ t ∈ slots, t.name ≠ s.name → ∀ c x, t.get (s.set c x) = t.get x
  ext : ∀ x y, (∀ s ∈ slots, s.get x = s.get y) → x = y

section Slots

variable {σ τ : Type}

/-- The slot that is all of a record. -/
def Slot.only (name : String) (Tells : Node → σ → Prop) : Slot σ where
  name := name
  Content := σ
  get x := x
  set c _ := c
  Tells := Tells

/-- The first of two slots. -/
def Slot.first (name : String) (Tells : Node → σ → Prop) : Slot (σ × τ) where
  name := name
  Content := σ
  get x := x.1
  set c x := (c, x.2)
  Tells := Tells

/-- The second of two slots. -/
def Slot.second (name : String) (Tells : Node → τ → Prop) : Slot (σ × τ) where
  name := name
  Content := τ
  get x := x.2
  set c x := (x.1, c)
  Tells := Tells

theorem lawful_only (name : String) (Tells : Node → σ → Prop) :
    Lawful [Slot.only name Tells] where
  nodup := by simp
  get_set := by simp [Slot.only]
  get_set_of_ne := by simp
  ext := by simp [Slot.only]

theorem lawful_pair {a b : String} (h : a ≠ b) (P : Node → σ → Prop) (Q : Node → τ → Prop) :
    Lawful [Slot.first a P, Slot.second b Q] where
  nodup := by simp [Slot.first, Slot.second, h]
  get_set := by simp [Slot.first, Slot.second]
  get_set_of_ne := by simp [Slot.first, Slot.second]
  ext := by
    intro x y
    simp [Slot.first, Slot.second, Prod.ext_iff]

/-- In lawful slots there is one slot of a name. -/
theorem Lawful.eq_of_name_eq {slots : List (Slot σ)} (lawful : Lawful slots) {s t : Slot σ}
    (hs : s ∈ slots) (ht : t ∈ slots) (h : s.name = t.name) : s = t :=
  List.inj_on_of_nodup_map lawful.nodup hs ht h

/-- A slot is filled from entries: from the one value of its name, which must be new, or not at all
if there is none. -/
def Slot.Filled (s : Slot σ) (seen : List String) (es : List (Node × Node)) (x y : σ) : Prop :=
  (valuesOf s.name es = [] ∧ s.get y = s.get x) ∨
    (s.name ∉ seen ∧ Once s.name (s.Tells · (s.get y)) es)

variable {d : Document} {ms : Document.Members σ} {slots : List (Slot σ)} {seen : List String}
  {k v : Node} {es : List (Node × Node)} {x y : σ} {s : Slot σ}

/-- To fill all slots from entries is to fill the slot of the first one and then the others. -/
theorem forall_filled_cons_iff (lawful : Lawful slots) (hs : s ∈ slots) (hk : k.IsText s.name)
    (new : s.name ∉ seen) :
    (∃ x', (∃ c, s.Tells v c ∧ x' = s.set c x) ∧
        ∀ t ∈ slots, t.Filled (s.name :: seen) es x' y) ↔
      ∀ t ∈ slots, t.Filled seen ((k, v) :: es) x y := by
  constructor
  · rintro ⟨x', ⟨c, hc, rfl⟩, rest⟩ t ht
    by_cases same : t.name = s.name
    · obtain rfl := lawful.eq_of_name_eq ht hs same
      rcases rest t ht with ⟨hv, hy⟩ | ⟨again, -⟩
      · refine Or.inr ⟨new, v, ?_, ?_⟩
        · rw [valuesOf_cons hk, hv]
        · rw [hy, lawful.get_set t hs]
          exact hc
      · exact absurd (List.mem_cons_self ..) again
    · rw [Slot.Filled, valuesOf_cons_of_ne hk same, Once, valuesOf_cons_of_ne hk same]
      rcases rest t ht with ⟨hv, hy⟩ | ⟨unseen, once⟩
      · exact Or.inl ⟨hv, by rw [hy, lawful.get_set_of_ne s hs t ht same]⟩
      · exact Or.inr ⟨fun h => unseen (List.mem_cons_of_mem _ h), once⟩
  · intro filled
    obtain ⟨hv, hc⟩ : valuesOf s.name es = [] ∧ s.Tells v (s.get y) := by
      rcases filled s hs with ⟨hv, -⟩ | ⟨-, w, hw, hc⟩
      · rw [valuesOf_cons hk] at hv
        cases hv
      · rw [valuesOf_cons hk] at hw
        obtain ⟨rfl, hv⟩ := List.cons.inj hw
        exact ⟨hv, hc⟩
    -- What is in the slot in the end is what was told by its value.
    refine ⟨s.set (s.get y) x, ⟨s.get y, hc, rfl⟩, fun t ht => ?_⟩
    by_cases same : t.name = s.name
    · obtain rfl := lawful.eq_of_name_eq ht hs same
      exact Or.inl ⟨hv, (lawful.get_set t ht _ _).symm⟩
    · have h := filled t ht
      rw [Slot.Filled, valuesOf_cons_of_ne hk same, Once, valuesOf_cons_of_ne hk same] at h
      rcases h with ⟨hv, hy⟩ | ⟨unseen, once⟩
      · exact Or.inl ⟨hv, by rw [hy, lawful.get_set_of_ne s hs t ht same]⟩
      · exact Or.inr ⟨by simp [same, unseen], once⟩

/-- **A record is accepted exactly if each slot is filled** from the entries. -/
theorem accepts_membersFrom (lawful : Lawful slots) (known : ms.names = slots.map Slot.name)
    (reads : ∀ s ∈ slots, ∀ v : Node, v.IsTree → ∀ path x,
      Accepts (ms.read s.name path v x) fun y => ∃ c, s.Tells v c ∧ y = s.set c x)
    (owner : Path × Mark) (names : ∀ e ∈ es, e.1.IsTree ∧ ∃ t, e.1.IsText t)
    (values : ∀ e ∈ es, e.2.IsTree) :
    Accepts (d.membersFrom ms owner seen x es) fun y => ∀ s ∈ slots, s.Filled seen es x y := by
  induction es generalizing seen x with
  | nil =>
    refine (Accepts.pure x).congr fun y => ?_
    constructor
    · rintro rfl s -
      exact Or.inl ⟨rfl, rfl⟩
    · intro filled
      refine lawful.ext y x fun s hs => ?_
      rcases filled s hs with ⟨-, h⟩ | ⟨-, v, hv, -⟩
      · exact h
      · cases hv
  | cons e es ih =>
    obtain ⟨k, v⟩ := e
    obtain ⟨tree, name, hk⟩ := names (k, v) (List.mem_cons_self ..)
    have others : ∀ seen x, Accepts (d.membersFrom ms owner seen x es)
        fun y => ∀ s ∈ slots, s.Filled seen es x y := fun seen x =>
      ih (fun e he => names e (List.mem_cons_of_mem _ he))
        (fun e he => values e (List.mem_cons_of_mem _ he))
    refine ((accepts_text tree "field identifier" owner.1).bind fun name' hk' => ?_).congr
      fun y => ⟨fun ⟨_, _, h⟩ => h, fun h => ⟨name, hk, h⟩⟩
    obtain rfl := hk'.unique hk
    by_cases mem : name' ∈ ms.names
    · obtain ⟨s, hs, rfl⟩ := List.mem_map.mp (known ▸ mem)
      rw [if_pos mem]
      by_cases old : s.name ∈ seen
      · -- A value of a name that was there before is not looked at.
        rw [if_pos old]
        refine .fail _ fun y filled => ?_
        rcases filled s hs with ⟨none, -⟩ | ⟨new, -⟩
        · rw [valuesOf_cons hk] at none
          cases none
        · exact new old
      · rw [if_neg old]
        have value := reads s hs v (values (k, v) (List.mem_cons_self ..))
          (Document.memberPath owner.1 k) x
        refine (value.bind fun x' _ => others (s.name :: seen) x').congr fun y => ?_
        exact forall_filled_cons_iff lawful hs hk old
    · rw [if_neg mem]
      refine (others seen x).congr fun y => forall₂_congr fun s hs => ?_
      have apart : s.name ≠ name' := fun h =>
        mem (known ▸ h ▸ List.mem_map_of_mem hs)
      rw [Slot.Filled, Slot.Filled, Once, Once, valuesOf_cons_of_ne hk apart]

end Slots

end Faultline.Yaml
