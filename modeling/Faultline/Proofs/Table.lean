import Faultline.Proofs.Sorting
import Faultline.Table
import Mathlib.Data.Finset.Card
import Mathlib.Data.List.Nodup

/-!
# Laws of tables

What a table holds after many writes, and what does not depend on their order.

## Main definitions

* `Same` — two tables hold the same values at the same keys.

## Main results

* `mem_keys_putAll` — the keys are the old ones and those that were written.
* `get?_putAll`, `get?_putAll_getLast?`, `get?_ofList_map` — the last write at a key counts.
* `size_putAll` — a table grows by the number of new keys.
* `entries_ofList` — entries with distinct keys are kept as they are.
* `mem_keys_sorted`, `pairwise_keys_sorted` — all keys are shown, in ascending order.
* `mem_sorted_iff` — what is shown at a key is the value there.
* `sortEntries_eq_of_perm` — sorted entries with distinct keys do not depend on their order.
* `put_put_same` — writes to different keys can be exchanged.
* `Same.perm`, `same_of_perm` — tables hold the same if their entries differ only in order.
* `Same.sorted_eq` — tables that hold the same are shown alike.
-/

namespace Faultline.Table

variable {α : Type}

/-! ### Keys -/

theorem mem_keys_put (t : Table α) (key k : String) (value : α) :
    k ∈ (t.put key value).keys ↔ k ∈ t.keys ∨ k = key := by
  rw [keys_put]
  split
  · rename_i h
    exact ⟨Or.inl, fun hk => hk.elim id fun e => e ▸ h⟩
  · simp

/-- The keys are the old ones and those that were written. -/
theorem mem_keys_putAll (t : Table α) (entries : List (String × α)) (k : String) :
    k ∈ (t.putAll entries).keys ↔ k ∈ t.keys ∨ k ∈ entries.map Prod.fst := by
  induction entries generalizing t with
  | nil => simp
  | cons e es ih => rw [putAll_cons, ih, mem_keys_put, List.map_cons, List.mem_cons, or_assoc]

@[simp] theorem keys_empty : (empty : Table α).keys = [] := rfl

theorem mem_keys_ofList (entries : List (String × α)) (k : String) :
    k ∈ (ofList entries).keys ↔ k ∈ entries.map Prod.fst := by
  rw [ofList, mem_keys_putAll]
  simp

/-! ### Values -/

/-- The last write at a key counts. -/
theorem get?_putAll (t : Table α) (entries : List (String × α)) (k : String) :
    (t.putAll entries).get? k = (entries.reverse.lookup k).or (t.get? k) := by
  induction entries generalizing t with
  | nil => simp
  | cons e es ih =>
    rw [putAll_cons, ih, get?_put, List.reverse_cons, List.lookup_append, lookup_cons,
      List.lookup_nil]
    split <;> cases es.reverse.lookup k <;> simp

theorem get?_ofList (entries : List (String × α)) (k : String) :
    (ofList entries).get? k = entries.reverse.lookup k := by
  rw [ofList, get?_putAll]
  simp

/-- Looking up among entries made of the members of a list finds the first member with the key. -/
theorem lookup_map {β : Type} (key : β → String) (value : β → α) (xs : List β) (k : String) :
    (xs.map fun x => (key x, value x)).lookup k =
      ((xs.filter (key · = k)).head?).map value := by
  induction xs with
  | nil => rfl
  | cons x xs ih =>
    rw [List.map_cons, lookup_cons]
    split
    · rename_i h
      rw [List.filter_cons_of_pos (by simpa using h.symm)]
      rfl
    · rename_i h
      rw [ih, List.filter_cons_of_neg (by simpa using fun he => h he.symm)]

/-- In a table made of the members of a list, the last member with the key counts. -/
theorem get?_ofList_map {β : Type} (key : β → String) (value : β → α) (xs : List β) (k : String) :
    (ofList (xs.map fun x => (key x, value x))).get? k =
      ((xs.filter (key · = k)).getLast?).map value := by
  rw [get?_ofList, ← List.map_reverse, lookup_map, List.filter_reverse, List.head?_reverse]

/-- The last write at a key is the last entry with the key. -/
theorem get?_putAll_getLast? (t : Table α) (entries : List (String × α)) (k : String) :
    (t.putAll entries).get? k =
      ((entries.filter (·.1 = k)).getLast?.map Prod.snd).or (t.get? k) := by
  have found := lookup_map Prod.fst Prod.snd entries.reverse k
  rw [List.filter_reverse, List.head?_reverse] at found
  rw [get?_putAll, ← found]
  simp

/-! ### Distinct keys -/

theorem putEntry_of_notMem {key : String} (value : α) {es : List (String × α)}
    (h : key ∉ es.map Prod.fst) : putEntry key value es = es ++ [(key, value)] := by
  induction es with
  | nil => rfl
  | cons e es ih =>
    rw [List.map_cons, List.mem_cons, not_or] at h
    rw [putEntry, if_neg (Ne.symm h.1), ih h.2, List.cons_append]

theorem entries_putAll {t : Table α} {es : List (String × α)}
    (h : ((t.entries ++ es).map Prod.fst).Nodup) : (t.putAll es).entries = t.entries ++ es := by
  induction es generalizing t with
  | nil => simp
  | cons e es ih =>
    have hput : (t.put e.1 e.2).entries = t.entries ++ [e] := by
      apply putEntry_of_notMem
      rw [List.map_append, List.nodup_append] at h
      intro he
      exact h.2.2 e.1 he e.1 (by simp) rfl
    rw [putAll_cons, ih (by rw [hput]; simpa using h), hput]
    simp

/-- Entries with distinct keys are kept as they are. -/
theorem entries_ofList {es : List (String × α)} (h : (es.map Prod.fst).Nodup) :
    (ofList es).entries = es := by
  have hes : (((empty : Table α).entries ++ es).map Prod.fst).Nodup := by simpa [empty] using h
  simpa [ofList, empty] using entries_putAll hes

/-- Sorted entries with distinct keys do not depend on their order. -/
theorem sortEntries_eq_of_perm {es fs : List (String × α)} (h : (es.map Prod.fst).Nodup)
    (hp : es.Perm fs) : sortEntries es = sortEntries fs := by
  have perm : (sortEntries es).Perm (sortEntries fs) :=
    (List.mergeSort_perm _ _).trans (hp.trans (List.mergeSort_perm _ _).symm)
  refine perm.eq_of_pairwise ?_ (pairwise_sortedBy Prod.fst es) (pairwise_sortedBy Prod.fst fs)
  -- Two entries that are both before the other have one key, and so are one entry.
  intro a b ha hb hab hba
  have ha' : a ∈ es := List.mem_mergeSort.mp ha
  have hb' : b ∈ es := hp.mem_iff.mpr (List.mem_mergeSort.mp hb)
  exact List.inj_on_of_nodup_map h ha' hb' (le_antisymm hab hba)

/-- The keys are shown, and no others. -/
theorem mem_keys_sorted (t : Table α) (k : String) : k ∈ t.sorted.map Prod.fst ↔ k ∈ t.keys :=
  ((List.mergeSort_perm _ _).map Prod.fst).mem_iff

/-- Each key is shown once, and they ascend. -/
theorem pairwise_keys_sorted (t : Table α) : (t.sorted.map Prod.fst).Pairwise (· < ·) := by
  have ascending : (t.sorted.map Prod.fst).Pairwise (· ≤ ·) :=
    List.pairwise_map.mpr (pairwise_sortedBy Prod.fst t.entries)
  have distinct : (t.sorted.map Prod.fst).Nodup :=
    ((List.mergeSort_perm _ _).map Prod.fst).nodup_iff.mpr t.nodup
  exact (ascending.and distinct).imp fun h => lt_of_le_of_ne h.1 h.2

/-! ### Size -/

/-- The keys of a table are as many as its entries. -/
theorem card_keys (t : Table α) : t.keys.toFinset.card = t.size := by
  rw [keys, List.toFinset_card_of_nodup t.nodup, List.length_map, size]

/-- A table grows by the number of new keys, however often they are written. -/
theorem size_putAll (t : Table α) (entries : List (String × α)) :
    (t.putAll entries).size =
      t.size + ((entries.map Prod.fst).toFinset \ t.keys.toFinset).card := by
  have keys_eq :
      (t.putAll entries).keys.toFinset = (entries.map Prod.fst).toFinset ∪ t.keys.toFinset := by
    ext k
    rw [List.mem_toFinset, mem_keys_putAll, Finset.mem_union, List.mem_toFinset,
      List.mem_toFinset, or_comm]
  rw [← card_keys, keys_eq, ← Finset.card_sdiff_add_card, card_keys, Nat.add_comm]

/-- A table has as many entries as distinct keys were written. -/
theorem size_ofList (entries : List (String × α)) :
    (ofList entries).size = (entries.map Prod.fst).toFinset.card := by
  rw [ofList, size_putAll, keys_empty, List.toFinset_nil, Finset.sdiff_empty]
  exact Nat.zero_add _

/-! ### Tables that hold the same -/

/-- Two tables hold the same values at the same keys, though these may have come in another
order. -/
def Same (t u : Table α) : Prop := ∀ k, t.get? k = u.get? k

namespace Same

variable {t u : Table α}

@[refl] theorem refl (t : Table α) : t.Same t := fun _ => rfl

theorem put (h : t.Same u) (key : String) (value : α) :
    (t.put key value).Same (u.put key value) := by
  intro k
  rw [get?_put, get?_put, h k]

end Same

/-- Writes to different keys can be exchanged. -/
theorem put_put_same (t : Table α) {key key' : String} (h : key ≠ key') (value value' : α) :
    ((t.put key value).put key' value').Same ((t.put key' value').put key value) := by
  intro k
  rw [get?_put, get?_put, get?_put, get?_put]
  split
  · rename_i hk
    rw [if_neg (hk ▸ Ne.symm h)]
  · rfl

/-- The entries of a table are the values at its keys. -/
theorem mem_entries_iff {t : Table α} {k : String} {value : α} :
    (k, value) ∈ t.entries ↔ t.get? k = some value := by
  obtain ⟨es, nodup⟩ := t
  change (k, value) ∈ es ↔ es.lookup k = some value
  induction es with
  | nil => simp
  | cons e es ih =>
    rw [List.map_cons, List.nodup_cons] at nodup
    rw [List.mem_cons, ih nodup.2, lookup_cons]
    by_cases hk : k = e.1
    · -- The key of the first entry is that of no other.
      have absent : es.lookup k ≠ some value := fun h =>
        nodup.1 (List.mem_map.mpr ⟨(k, value), (ih nodup.2).mpr h, hk⟩)
      simp [hk ▸ absent, hk, Prod.ext_iff, eq_comm]
    · simp [hk, Prod.ext_iff]

/-- Tables that hold the same have the same entries, if in another order. -/
theorem Same.perm {t u : Table α} (h : t.Same u) : t.entries.Perm u.entries := by
  have distinct : ∀ t : Table α, t.entries.Nodup := fun t => .of_map Prod.fst t.nodup
  rw [List.perm_ext_iff_of_nodup (distinct t) (distinct u)]
  rintro ⟨k, value⟩
  rw [mem_entries_iff, mem_entries_iff, h k]

/-- Tables that have the same entries, if in another order, hold the same. -/
theorem same_of_perm {t u : Table α} (h : t.entries.Perm u.entries) : t.Same u := by
  intro k
  ext value
  rw [← mem_entries_iff, h.mem_iff, mem_entries_iff]

/-- What is shown of a table are the values at its keys. -/
theorem mem_sorted_iff {t : Table α} {k : String} {value : α} :
    (k, value) ∈ t.sorted ↔ t.get? k = some value :=
  List.mem_mergeSort.trans mem_entries_iff

/-- Something is shown of a table unless it is empty. -/
theorem isEmpty_sorted (t : Table α) : t.sorted.isEmpty = t.isEmpty :=
  (List.mergeSort_perm _ _).isEmpty_eq

/-- Tables that hold the same are shown alike. -/
theorem Same.sorted_eq {t u : Table α} (h : t.Same u) : t.sorted = u.sorted :=
  sortEntries_eq_of_perm t.nodup h.perm

end Faultline.Table
