import Faultline.Yaml.Shape
import Mathlib.Data.List.Forall2

/-!
# What readers of a document accept

A reader gives a result or fails.  Where a document has no references it is enough to
say of which nodes it accepts which results, for it follows nothing and leaves no trace of its
way.  What a reader accepts is put together from what its parts accept.

## Main definitions

* `Node.IsTree` — a node without references and tags, whose names are scalars.
* `Node.IsText`, `Node.IsOptionalText`, `Node.IsList`, `Node.IsRecord` — what a node is.
* `Accepts` — a reader gives exactly the results with a property.

## Main results

* `Accepts.bind` — a reader that goes on with what another one gives.
* `accepts_text`, `accepts_optionalText`, `accepts_items`, `accepts_entries` — **the readers accept
  what the nodes are**.
-/

namespace Faultline.Yaml

/-! ### What a node is -/

/-- A node with what is in it is a tree: it has neither references nor tags, and all names in it
are scalars. -/
inductive Node.IsTree : Node → Prop
  /-- A scalar without a tag. -/
  | scalar {m : Mark} {s : Scalar} (untagged : s.tag = none) : IsTree (.scalar m s)
  /-- A list of trees. -/
  | sequence {m : Mark} {ns : List Node} (items : ∀ n ∈ ns, IsTree n) : IsTree (.sequence m ns)
  /-- Named trees, the names being scalars. -/
  | mapping {m : Mark} {es : List (Node × Node)}
      (names : ∀ e ∈ es, ∃ m s, e.1 = .scalar m s ∧ s.tag = none)
      (values : ∀ e ∈ es, IsTree e.2) : IsTree (.mapping m es)

/-- A scalar that is written as it is, and of which nothing is written. -/
def Scalar.IsVoid (s : Scalar) : Prop := s.text = "" ∧ s.style = .plain

/-- A scalar that is written as it is, and stands for nothing. -/
def Scalar.IsNull (s : Scalar) : Prop :=
  (s.text = "" ∨ s.text ∈ ["null", "Null", "NULL", "~"]) ∧ s.style = .plain

namespace Node

/-- A node is a scalar. -/
inductive IsScalar : Node → Scalar → Prop
  | intro {m : Mark} {s : Scalar} : IsScalar (.scalar m s) s

/-- A node is a text: any scalar is the one that it consists of. -/
def IsText (n : Node) (t : String) : Prop := ∃ s, n.IsScalar s ∧ s.text = t

/-- A node is a text or stands for nothing. -/
inductive IsOptionalText (n : Node) : Option String → Prop
  /-- It stands for nothing. -/
  | nothing {s : Scalar} (scalar : n.IsScalar s) (null : s.IsNull) : n.IsOptionalText none
  /-- It is a text. -/
  | text {s : Scalar} (scalar : n.IsScalar s) (null : ¬ s.IsNull) : n.IsOptionalText (some s.text)

/-- A node is a list; one of which nothing is written is an empty list. -/
inductive IsList : Node → List Node → Prop
  /-- The items are written. -/
  | sequence {m : Mark} {ns : List Node} : IsList (.sequence m ns) ns
  /-- Nothing is written. -/
  | void {m : Mark} {s : Scalar} (h : s.IsVoid) : IsList (.scalar m s) []

/-- A node is a record; one of which nothing is written is an empty record. -/
inductive IsRecord : Node → List (Node × Node) → Prop
  /-- The names and the values are written. -/
  | mapping {m : Mark} {es : List (Node × Node)} : IsRecord (.mapping m es) es
  /-- Nothing is written. -/
  | void {m : Mark} {s : Scalar} (h : s.IsVoid) : IsRecord (.scalar m s) []

variable {n : Node}

/-- A node is one text only. -/
theorem IsText.unique {t u : String} (h : n.IsText t) (h' : n.IsText u) : t = u := by
  obtain ⟨s, ⟨⟩, rfl⟩ := h
  obtain ⟨s', ⟨⟩, rfl⟩ := h'
  rfl

theorem IsTree.item {ns : List Node} (tree : n.IsTree) (list : n.IsList ns) :
    ∀ m ∈ ns, m.IsTree := by
  cases list with
  | sequence =>
    cases tree with
    | sequence items => exact items
  | void h => simp

theorem IsTree.name {es : List (Node × Node)} (tree : n.IsTree) (record : n.IsRecord es) :
    ∀ e ∈ es, e.1.IsTree ∧ ∃ t, e.1.IsText t := by
  cases record with
  | mapping =>
    cases tree with
    | mapping names values =>
      intro e he
      obtain ⟨m, s, hs, untagged⟩ := names e he
      rw [hs]
      exact ⟨.scalar untagged, s.text, s, .intro, rfl⟩
  | void h => simp

theorem IsTree.value {es : List (Node × Node)} (tree : n.IsTree) (record : n.IsRecord es) :
    ∀ e ∈ es, e.2.IsTree := by
  cases record with
  | mapping =>
    cases tree with
    | mapping names values => exact values
  | void h => simp

end Node

theorem isVoid_eq_true_iff {s : Scalar} : Document.isVoid s = true ↔ s.IsVoid := by
  simp [Document.isVoid, Scalar.IsVoid]

/-- Without a tag it is told by the text whether a scalar stands for nothing. -/
theorem isNothing_untagged {s : Scalar} (untagged : s.tag = none) :
    ∃ b, Document.isNothing s = .ok b ∧ (b = true ↔ s.IsNull) := by
  by_cases plain : s.style = .plain
  · refine ⟨s.text.isEmpty || isNullWord s.text, ?_, ?_⟩
    · simp [Document.isNothing, plain, untagged]
    · simp [Scalar.IsNull, plain, isNullWord]
  · exact ⟨false, by simp [Document.isNothing, plain], by simp [Scalar.IsNull, plain]⟩

/-! ### What a reader accepts -/

section Accepts

variable {α β : Type} {x : Shaped α} {f : α → Shaped β} {P : α → Prop} {Q : α → β → Prop}

/-- A reader gives exactly the results with a property, and follows no reference. -/
def Accepts (x : Shaped α) (P : α → Prop) : Prop :=
  ∀ (s : Nat) (a : α) (s' : Nat), x.run s = .ok (a, s') ↔ P a ∧ s' = s

namespace Accepts

theorem pure (a : α) : Accepts (Pure.pure a) (· = a) := by
  intro s b s'
  constructor
  · rintro ⟨⟩
    exact ⟨rfl, rfl⟩
  · rintro ⟨rfl, rfl⟩
    rfl

/-- A reader that fails gives nothing. -/
theorem fail (e : DecodeError) {P : α → Prop} (none : ∀ a, ¬ P a) :
    Accepts (throw e : Shaped α) P := by
  intro s a s'
  constructor
  · rintro ⟨⟩
  · rintro ⟨h, -⟩
    exact absurd h (none a)

/-- A reader that goes on with what another one gives. -/
theorem bind (hx : Accepts x P) (hf : ∀ a, P a → Accepts (f a) (Q a)) :
    Accepts (x >>= f) fun b => ∃ a, P a ∧ Q a b := by
  intro s b s'
  rw [StateT.run_bind]
  constructor
  · intro h
    cases hr : x.run s with
    | error e =>
      rw [hr] at h
      cases h
    | ok r =>
      obtain ⟨a, t⟩ := r
      obtain ⟨ha, rfl⟩ := (hx s a t).mp hr
      rw [hr] at h
      obtain ⟨hb, rfl⟩ := (hf a ha t b s').mp h
      exact ⟨⟨a, ha, hb⟩, rfl⟩
  · rintro ⟨⟨a, ha, hb⟩, rfl⟩
    rw [(hx s' a s').mpr ⟨ha, rfl⟩]
    exact (hf a ha s' b s').mpr ⟨hb, rfl⟩

/-- The same results may be described in another way. -/
theorem congr {P' : α → Prop} (hx : Accepts x P) (h : ∀ a, P a ↔ P' a) : Accepts x P' :=
  fun s a s' => by rw [hx s a s', h a]

theorem run'_eq_ok_iff (hx : Accepts x P) (s : Nat) (a : α) : x.run' s = .ok a ↔ P a := by
  change Prod.fst <$> x.run s = .ok a ↔ P a
  constructor
  · intro h
    cases hr : x.run s with
    | error e =>
      rw [hr] at h
      cases h
    | ok r =>
      rw [hr] at h
      obtain rfl : r.1 = a := Except.ok.inj h
      exact ((hx s r.1 r.2).mp hr).1
  · intro ha
    rw [(hx s a s).mpr ⟨ha, rfl⟩]
    rfl

end Accepts

/-- A reader that refuses a node gives nothing. -/
theorem accepts_refuse (path : Path) (wanted : String) (n : Node) {P : α → Prop}
    (none : ∀ a, ¬ P a) : Accepts (Document.refuse path wanted n) P := by
  cases n with
  | scalar m s =>
    -- A tag that does not fit its scalar is a mismatch too.
    cases h : s.kind with
    | ok found =>
      simp only [Document.refuse, h]
      exact .fail _ none
    | error mismatch =>
      simp only [Document.refuse, h]
      exact .fail _ none
  | _ => exact .fail _ none

end Accepts

/-! ### Readers -/

section Readers

variable {α : Type} {n : Node} {d : Document}

/-- A tree is no reference, so it leads to itself. -/
theorem follow_tree (tree : n.IsTree) : d.follow n = pure n := by
  cases tree <;> rfl

/-- Any scalar is read as a text. -/
theorem accepts_text (tree : n.IsTree) (wanted : String) (path : Path) :
    Accepts (d.text wanted path n) n.IsText := by
  rw [Document.text, follow_tree tree, pure_bind]
  cases tree with
  | scalar untagged =>
    refine (Accepts.pure _).congr fun t => ⟨fun h => ⟨_, .intro, h.symm⟩, ?_⟩
    rintro ⟨s, ⟨⟩, h⟩
    exact h.symm
  | _ => exact accepts_refuse _ _ _ (by rintro t ⟨s, ⟨⟩, -⟩)

/-- A scalar that stands for nothing is read as nothing, and any other as a text. -/
theorem accepts_optionalText (tree : n.IsTree) (owner : Path × Mark) (wanted : String)
    (path : Path) : Accepts (d.optionalText owner wanted path n) n.IsOptionalText := by
  rw [Document.optionalText, follow_tree tree, pure_bind]
  cases tree with
  | @scalar m s untagged =>
    obtain ⟨b, hb, null⟩ := isNothing_untagged untagged
    simp only [hb]
    cases b with
    | true =>
      refine (Accepts.pure _).congr fun o => ⟨fun h => h ▸ .nothing .intro (null.mp rfl), ?_⟩
      rintro (⟨⟨⟩, -⟩ | ⟨⟨⟩, other⟩)
      · rfl
      · exact absurd (null.mp rfl) other
    | false =>
      have other : ¬ s.IsNull := fun h => Bool.false_ne_true (null.mpr h)
      refine (Accepts.pure _).congr fun o => ⟨fun h => h ▸ .text .intro other, ?_⟩
      rintro (⟨⟨⟩, h⟩ | ⟨⟨⟩, -⟩)
      · exact absurd h other
      · rfl
  | _ => exact accepts_refuse _ _ _ (by rintro o (⟨⟨⟩, -⟩ | ⟨⟨⟩, -⟩))

/-- Items are read one by one. -/
theorem accepts_itemsFrom {read : Path → Node → Shaped α} {P : Node → α → Prop} {path : Path}
    {ns : List Node} (hread : ∀ n ∈ ns, ∀ path, Accepts (read path n) (P n)) (i : Nat) :
    Accepts (Document.itemsFrom read path i ns) (List.Forall₂ P ns) := by
  induction ns generalizing i with
  | nil =>
    refine (Accepts.pure []).congr fun xs => ?_
    rw [List.forall₂_nil_left_iff]
  | cons n ns ih =>
    have first := hread n (List.mem_cons_self ..)
    have others := ih (fun m hm => hread m (List.mem_cons_of_mem n hm))
    refine ((first _).bind fun x _ => (others _).bind fun xs _ => Accepts.pure (x :: xs)).congr
      fun ys => ?_
    rw [List.forall₂_cons_left_iff]
    constructor
    · rintro ⟨x, hx, xs, hxs, rfl⟩
      exact ⟨x, xs, hx, hxs, rfl⟩
    · rintro ⟨x, xs, hx, hxs, rfl⟩
      exact ⟨x, hx, xs, hxs, rfl⟩

/-- A list is read item by item. -/
theorem accepts_items {read : Path → Node → Shaped α} {P : Node → α → Prop} (tree : n.IsTree)
    (hread : ∀ m : Node, m.IsTree → ∀ path, Accepts (read path m) (P m)) (path : Path) :
    Accepts (d.items read path n) fun xs => ∃ ns, n.IsList ns ∧ List.Forall₂ P ns xs := by
  rw [Document.items, follow_tree tree, pure_bind]
  cases tree with
  | @sequence m ns items =>
    refine (accepts_itemsFrom (fun n hn => hread n (items n hn)) 0).congr fun xs => ?_
    constructor
    · intro h
      exact ⟨ns, .sequence, h⟩
    · rintro ⟨ns, ⟨⟩, h⟩
      exact h
  | @scalar m s untagged =>
    by_cases void : s.IsVoid
    · simp only [isVoid_eq_true_iff.mpr void, if_true]
      refine (Accepts.pure []).congr fun xs => ?_
      constructor
      · rintro rfl
        exact ⟨[], .void void, .nil⟩
      · rintro ⟨ns, ⟨⟩, h⟩
        exact List.forall₂_nil_left_iff.mp h
    · simp only [mt isVoid_eq_true_iff.mp void, Bool.false_eq_true, if_false]
      refine accepts_refuse _ _ _ ?_
      rintro xs ⟨ns, h, -⟩
      cases h with
      | void h => exact void h
  | mapping names values => exact accepts_refuse _ _ _ (by rintro xs ⟨ns, ⟨⟩, -⟩)

/-- A record is read as the names and values in it, with the place where it begins. -/
theorem accepts_entries (tree : n.IsTree) (wanted : String) (path : Path) :
    Accepts (d.entries wanted path n) fun x => x.1 = n.start ∧ n.IsRecord x.2 := by
  rw [Document.entries, follow_tree tree, pure_bind]
  cases tree with
  | @mapping m es names values =>
    refine (Accepts.pure (m, es)).congr fun x => ?_
    constructor
    · rintro rfl
      exact ⟨rfl, .mapping⟩
    · rintro ⟨hm, ⟨⟩⟩
      exact Prod.ext hm rfl
  | @scalar m s untagged =>
    by_cases void : s.IsVoid
    · simp only [isVoid_eq_true_iff.mpr void, if_true]
      refine (Accepts.pure (m, [])).congr fun x => ?_
      constructor
      · rintro rfl
        exact ⟨rfl, .void void⟩
      · rintro ⟨hm, h⟩
        obtain ⟨m', es⟩ := x
        cases h
        exact Prod.ext hm rfl
    · simp only [mt isVoid_eq_true_iff.mp void, Bool.false_eq_true, if_false]
      refine accepts_refuse _ _ _ ?_
      rintro ⟨m', es⟩ ⟨-, h⟩
      cases h with
      | void h => exact void h
  | sequence items => exact accepts_refuse _ _ _ (by rintro x ⟨-, ⟨⟩⟩)

end Readers

end Faultline.Yaml
