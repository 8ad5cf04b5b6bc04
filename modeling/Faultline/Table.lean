/-!
# Tables

A table holds one value for each of its keys.  Writing to a key that is there
replaces its value; the order in which the keys came is kept but means nothing,
and whatever is shown of a table is shown in the order of its keys.

## Main definitions

* `Table α` — entries with distinct keys.
* `Table.put`, `Table.putAll`, `Table.ofList` — writing.
* `Table.get?` — the value at a key.
* `Table.sorted` — the entries in ascending order of their keys.

## Main statements

* `get?_put` — a write is seen at its key and nowhere else.
* `keys_put` — a write adds its key unless the key is there.
-/

namespace Faultline

/-- Entries with distinct keys. -/
structure Table (α : Type) where
  /-- The entries, in the order in which their keys were first written. -/
  entries : List (String × α)
  /-- No key occurs twice. -/
  nodup : (entries.map Prod.fst).Nodup

namespace Table

variable {α : Type}

/-! ### Writing to a list of entries -/

/-- Writes a value into a list of entries: in place where its key is, else at the end. -/
def putEntry (key : String) (value : α) : List (String × α) → List (String × α)
  | [] => [(key, value)]
  | e :: es => if e.1 = key then (key, value) :: es else e :: putEntry key value es

@[simp] theorem putEntry_nil (key : String) (value : α) :
    putEntry key value [] = [(key, value)] := rfl

theorem keys_putEntry (key : String) (value : α) (es : List (String × α)) :
    (putEntry key value es).map Prod.fst =
      if key ∈ es.map Prod.fst then es.map Prod.fst else es.map Prod.fst ++ [key] := by
  induction es with
  | nil => simp
  | cons e es ih =>
    by_cases h : e.1 = key
    · simp [putEntry, h]
    · by_cases hm : key ∈ es.map Prod.fst
      · simp only [putEntry, h, ↓reduceIte, List.map_cons, ih, hm, List.mem_cons, or_true]
      · have : ¬ key = e.1 := fun h' => h h'.symm
        simp only [putEntry, h, ↓reduceIte, List.map_cons, ih, hm, List.mem_cons, this,
          or_self, List.cons_append]

theorem nodup_putEntry {key : String} {value : α} {es : List (String × α)}
    (h : (es.map Prod.fst).Nodup) : ((putEntry key value es).map Prod.fst).Nodup := by
  rw [keys_putEntry]
  split
  · exact h
  · rename_i hm
    rw [List.nodup_append]
    refine ⟨h, by simp, ?_⟩
    intro a ha b hb hab
    rw [List.mem_singleton] at hb
    exact hm (hb ▸ hab ▸ ha)

/-! ### Tables -/

/-- The table without entries. -/
def empty : Table α := ⟨[], by simp⟩

instance : Inhabited (Table α) := ⟨empty⟩

/-- Writes a value at a key, replacing the one that was there. -/
def put (t : Table α) (key : String) (value : α) : Table α :=
  ⟨putEntry key value t.entries, nodup_putEntry t.nodup⟩

/-- Writes entries one after the other. -/
def putAll (t : Table α) (entries : List (String × α)) : Table α :=
  entries.foldl (fun t e => t.put e.1 e.2) t

/-- The table that results from writing entries one after the other. -/
def ofList (entries : List (String × α)) : Table α := empty.putAll entries

/-- The value at a key. -/
def get? (t : Table α) (key : String) : Option α := t.entries.lookup key

/-- The keys, in the order in which they were first written. -/
def keys (t : Table α) : List String := t.entries.map Prod.fst

/-- How many keys there are. -/
def size (t : Table α) : Nat := t.entries.length

/-- There is no entry. -/
def isEmpty (t : Table α) : Bool := t.entries.isEmpty

/-! ### The order of the keys -/

/-- Entries in ascending order of their keys. -/
def sortEntries (es : List (String × α)) : List (String × α) :=
  es.mergeSort fun a b => decide (a.1 ≤ b.1)

/-- The entries in ascending order of their keys. -/
def sorted (t : Table α) : List (String × α) := sortEntries t.entries

/-! ### What a write changes -/

theorem lookup_cons (k : String) (e : String × α) (es : List (String × α)) :
    (e :: es).lookup k = if k = e.1 then some e.2 else es.lookup k := by
  obtain ⟨key, value⟩ := e
  rw [List.lookup_cons]
  by_cases h : k = key
  · simp [h]
  · simp [h, beq_false_of_ne h]

theorem lookup_putEntry (key k : String) (value : α) (es : List (String × α)) :
    (putEntry key value es).lookup k = if k = key then some value else es.lookup k := by
  induction es with
  | nil => simp [lookup_cons]
  | cons e es ih =>
    by_cases h : e.1 = key
    · by_cases hk : k = key <;> simp [putEntry, lookup_cons, h, hk]
    · by_cases hk : k = e.1 <;> simp [putEntry, lookup_cons, h, hk, ih]

@[simp] theorem get?_empty (k : String) : (empty : Table α).get? k = none := rfl

/-- A write is seen at its key and nowhere else. -/
theorem get?_put (t : Table α) (key k : String) (value : α) :
    (t.put key value).get? k = if k = key then some value else t.get? k :=
  lookup_putEntry key k value t.entries

/-- A write adds its key unless the key is there. -/
theorem keys_put (t : Table α) (key : String) (value : α) :
    (t.put key value).keys = if key ∈ t.keys then t.keys else t.keys ++ [key] :=
  keys_putEntry key value t.entries

@[simp] theorem putAll_nil (t : Table α) : t.putAll [] = t := rfl

@[simp] theorem putAll_cons (t : Table α) (e : String × α) (es : List (String × α)) :
    t.putAll (e :: es) = (t.put e.1 e.2).putAll es := rfl

theorem putAll_append (t : Table α) (es fs : List (String × α)) :
    t.putAll (es ++ fs) = (t.putAll es).putAll fs := by
  simp [putAll]

end Table

end Faultline
