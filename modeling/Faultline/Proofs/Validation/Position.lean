import Faultline.Validation.Position
import Mathlib.Data.List.TakeWhile

/-!
# The path tells the position

A path is made of pieces, one for each step.  A name begins with a point, an index with a
bracket, and neither sign occurs further inside of a piece, so the pieces can be read off
the path.  Only the point of the very first name is left out.

## Main definitions

* `PlainName`, `Position.Plain` — names without the signs that part a path.
* `Step.piece` — the piece of a path that stands for a step.

## Main results

* `Position.pieces_injective` — the pieces tell the steps.
* `Position.path_injective` — **the path tells the position.**
* `Finding.fieldOf_path` — the name of the field is found again at the end of the path.
-/

namespace Faultline.Validation

/-- A name as fields have it: it is not empty, and no sign that parts a path is in it. -/
structure PlainName (s : String) : Prop where
  ne_empty : s ≠ ""
  notMem_point : '.' ∉ s.toList
  notMem_bracket : '[' ∉ s.toList

instance (s : String) : Decidable (PlainName s) :=
  decidable_of_iff (s ≠ "" ∧ '.' ∉ s.toList ∧ '[' ∉ s.toList)
    ⟨fun h => ⟨h.1, h.2.1, h.2.2⟩, fun h => ⟨h.1, h.2, h.3⟩⟩

/-- All names on the way are plain. -/
def Position.Plain (p : Position) : Prop := ∀ s, .name s ∈ p → PlainName s

/-- The signs with which pieces begin. -/
def isMark (c : Char) : Bool := c = '.' || c = '['

/-- What stands behind the sign in the piece of a step. -/
def Step.body : Step → List Char
  | .name s => s.toList
  | .index n => Nat.toDigits 10 n ++ [']']

/-- The piece of a path that stands for a step. -/
def Step.piece : Step → List Char
  | .name s => '.' :: (Step.name s).body
  | .index n => '[' :: (Step.index n).body

/-! ### Pieces -/

theorem Position.Plain.tail {s : Step} {p : Position} (h : Position.Plain (s :: p)) :
    Position.Plain p := fun n hn => h n (List.mem_cons_of_mem _ hn)

/-- No sign is further inside of a piece. -/
theorem Step.isMark_body {s : Step} {p : Position} (h : Position.Plain (s :: p)) :
    ∀ c ∈ s.body, isMark c = false := by
  intro c hc
  cases s with
  | name s =>
    have hs := h s (List.mem_cons_self ..)
    have hpoint : c ≠ '.' := fun e => hs.notMem_point (e ▸ hc)
    have hbracket : c ≠ '[' := fun e => hs.notMem_bracket (e ▸ hc)
    simp [isMark, hpoint, hbracket]
  | index n =>
    rcases List.mem_append.mp hc with hdigit | hclose
    · have hd := Nat.isDigit_of_mem_toDigits (by decide) (by decide) hdigit
      have hpoint : c ≠ '.' := by rintro rfl; simp at hd
      have hbracket : c ≠ '[' := by rintro rfl; simp at hd
      simp [isMark, hpoint, hbracket]
    · rw [List.mem_singleton.mp hclose]
      decide

/-- The pieces of a position begin with a sign, if there are any. -/
theorem Position.isMark_head_pieces (p : Position) :
    ∀ c ∈ (p.flatMap Step.piece).head?, isMark c = true := by
  cases p with
  | nil => simp
  | cons s p => cases s <;> simp [Step.piece, isMark]

/-- A text without signs is found again in front of one that begins with a sign. -/
theorem takeWhile_append_of_isMark {a u : List Char} (ha : ∀ c ∈ a, isMark c = false)
    (hu : ∀ c ∈ u.head?, isMark c = true) : (a ++ u).takeWhile (! isMark ·) = a := by
  have hnone : u.takeWhile (! isMark ·) = [] := by
    cases u with
    | nil => rfl
    | cons c cs => simp [hu c rfl]
  rw [List.takeWhile_append_of_pos (by simpa using ha), hnone, List.append_nil]

/-- Texts without signs, each with something behind it that begins with a sign, are equal
if the whole is equal. -/
theorem append_inj_of_isMark {a b u v : List Char} (ha : ∀ c ∈ a, isMark c = false)
    (hb : ∀ c ∈ b, isMark c = false) (hu : ∀ c ∈ u.head?, isMark c = true)
    (hv : ∀ c ∈ v.head?, isMark c = true) (h : a ++ u = b ++ v) : a = b ∧ u = v := by
  have hab : a = b := by
    rw [← takeWhile_append_of_isMark ha hu, h, takeWhile_append_of_isMark hb hv]
  exact ⟨hab, List.append_cancel_left (hab ▸ h)⟩

/-- A piece is a sign with the body behind it. -/
theorem Step.exists_piece_eq (s : Step) : ∃ c, s.piece = c :: s.body := by
  cases s <;> exact ⟨_, rfl⟩

theorem Step.piece_injective {s t : Step} (h : s.piece = t.piece) : s = t := by
  cases s with
  | name s =>
    cases t with
    | name t => exact congrArg Step.name (String.toList_injective (List.cons.inj h).2)
    | index n => simp [piece] at h
  | index n =>
    cases t with
    | name t => simp [piece] at h
    | index m =>
      have hd : Nat.toDigits 10 n = Nat.toDigits 10 m :=
        List.append_cancel_right (List.cons.inj h).2
      rw [← Nat.ofDigitChars_ten_toDigits (n := n), hd, Nat.ofDigitChars_ten_toDigits]

/-- The pieces tell the steps. -/
theorem Position.pieces_injective {p q : Position} (hp : p.Plain) (hq : q.Plain)
    (h : p.flatMap Step.piece = q.flatMap Step.piece) : p = q := by
  induction p generalizing q with
  | nil =>
    cases q with
    | nil => rfl
    | cons t q => cases t <;> simp [Step.piece] at h
  | cons s p ih =>
    cases q with
    | nil => cases s <;> simp [Step.piece] at h
    | cons t q =>
      rw [List.flatMap_cons, List.flatMap_cons] at h
      -- The piece of the first step ends where the next sign is.
      have hpiece : s.piece = t.piece ∧ p.flatMap Step.piece = q.flatMap Step.piece := by
        obtain ⟨c, hc⟩ := s.exists_piece_eq
        obtain ⟨d, hd⟩ := t.exists_piece_eq
        rw [hc, hd, List.cons_append, List.cons_append] at h
        obtain ⟨hcd, hrest⟩ := List.cons.inj h
        obtain ⟨hbody, hpq⟩ := append_inj_of_isMark (Step.isMark_body hp) (Step.isMark_body hq)
          (isMark_head_pieces p) (isMark_head_pieces q) hrest
        exact ⟨by rw [hc, hd, hcd, hbody], hpq⟩
      rw [Step.piece_injective hpiece.1, ih hp.tail hq.tail hpiece.2]

/-! ### Paths -/

theorem Step.toList_extend (s : Step) {path : String} (h : path ≠ "") :
    (s.extend path).toList = path.toList ++ s.piece := by
  cases s with
  | name s =>
    have : path.isEmpty = false := by simpa using h
    simp [extend, this, piece, body]
  | index n => simp [extend, piece, body, toString]

theorem Step.extend_ne_empty (s : Step) {path : String} (h : path ≠ "") :
    s.extend path ≠ "" := by
  intro he
  have := s.toList_extend h
  rw [he] at this
  cases s <;> simp [piece] at this

/-- Behind what is not empty, a path consists of pieces. -/
theorem Position.toList_foldl_extend (p : Position) {path : String} (h : path ≠ "") :
    (p.foldl Step.extend path).toList = path.toList ++ p.flatMap Step.piece := by
  induction p generalizing path with
  | nil => simp
  | cons s p ih =>
    rw [List.foldl_cons, ih (s.extend_ne_empty h), s.toList_extend h, List.append_assoc,
      List.flatMap_cons]

/-- A path that begins with a name lacks the point of its first piece. -/
theorem Position.point_cons_path {s : String} {p : Position} (h : s ≠ "") :
    '.' :: (path (.name s :: p)).toList = (Step.name s :: p).flatMap Step.piece := by
  have hfirst : (Step.name s).extend "" = s := by simp [Step.extend]
  rw [path, List.foldl_cons, hfirst, toList_foldl_extend p h, List.flatMap_cons]
  simp [Step.piece, Step.body]

/-- A path that begins with an index consists of its pieces. -/
theorem Position.path_index_cons (n : Nat) (p : Position) :
    (path (.index n :: p)).toList = (Step.index n :: p).flatMap Step.piece := by
  have hfirst : ((Step.index n).extend "").toList = (Step.index n).piece := by
    simp [Step.extend, Step.piece, Step.body, toString]
  have hne : (Step.index n).extend "" ≠ "" := by
    intro he
    rw [he] at hfirst
    simp [Step.piece] at hfirst
  rw [path, List.foldl_cons, toList_foldl_extend p hne, hfirst, List.flatMap_cons]

/-- The path of a position is empty only if there is no step. -/
theorem Position.path_cons_ne_empty {s : Step} {p : Position} (h : Position.Plain (s :: p)) :
    path (s :: p) ≠ "" := by
  intro he
  cases s with
  | name s =>
    have hs := h s (List.mem_cons_self ..)
    have := point_cons_path (p := p) hs.ne_empty
    rw [he] at this
    simp [Step.piece, Step.body, hs.ne_empty] at this
  | index n =>
    have := path_index_cons n p
    rw [he] at this
    simp [Step.piece] at this

/-- A path that begins with a name does not begin like one with an index. -/
theorem Position.path_name_ne_path_index {s : String} {n : Nat} {p q : Position}
    (h : PlainName s) : path (.name s :: p) ≠ path (.index n :: q) := by
  intro he
  have hname := point_cons_path (p := p) h.ne_empty
  rw [he, path_index_cons, List.flatMap_cons, List.flatMap_cons] at hname
  cases hs : s.toList with
  | nil => exact h.ne_empty (String.toList_injective (by simpa using hs))
  | cons c cs =>
    simp only [Step.piece, Step.body, hs, List.cons_append, List.cons.injEq] at hname
    have hmem : '[' ∈ s.toList := by rw [hs, hname.2.1]; exact List.mem_cons_self ..
    exact h.notMem_bracket hmem

/-- **The path tells the position.** -/
theorem Position.path_injective {p q : Position} (hp : p.Plain) (hq : q.Plain)
    (h : p.path = q.path) : p = q := by
  cases p with
  | nil =>
    cases q with
    | nil => rfl
    | cons t q => exact absurd h.symm (path_cons_ne_empty hq)
  | cons s p =>
    cases q with
    | nil => exact absurd h (path_cons_ne_empty hp)
    | cons t q =>
      apply pieces_injective hp hq
      match s, t with
      | .name s, .name t =>
        rw [← point_cons_path (hp s (List.mem_cons_self ..)).ne_empty,
          ← point_cons_path (hq t (List.mem_cons_self ..)).ne_empty, h]
      | .name s, .index n =>
        exact absurd h (path_name_ne_path_index (hp s (List.mem_cons_self ..)))
      | .index n, .name t =>
        exact absurd h.symm (path_name_ne_path_index (hq t (List.mem_cons_self ..)))
      | .index n, .index m => rw [← path_index_cons, ← path_index_cons, h]

/-! ### The name at the end -/

/-- What follows the last point is found where it is, if there is no point in it. -/
theorem Finding.afterLastPoint_append {front name : List Char} (h : '.' ∉ name) :
    afterLastPoint (front ++ '.' :: name) = name := by
  have hname : ∀ c ∈ name.reverse, decide (c ≠ '.') = true := by
    intro c hc
    rw [decide_eq_true_eq]
    exact fun e => h (e ▸ List.mem_reverse.mp hc)
  rw [afterLastPoint, List.reverse_append, List.reverse_cons, List.append_assoc,
    List.takeWhile_append_of_pos hname]
  simp

/-- A text without points follows its last point. -/
theorem Finding.afterLastPoint_self {name : List Char} (h : '.' ∉ name) :
    afterLastPoint name = name := by
  have hname : name.reverse.takeWhile (· ≠ '.') = name.reverse := by
    rw [List.takeWhile_eq_self_iff]
    intro c hc
    rw [decide_eq_true_eq]
    exact fun e => h (e ▸ List.mem_reverse.mp hc)
  rw [afterLastPoint, hname, List.reverse_reverse]

/-- **The name of the field is found again at the end of the path.** -/
theorem Finding.fieldOf_path (p : Position) {name : String} (h : PlainName name) :
    fieldOf (Position.path (p ++ [.name name])) = name := by
  have hlast : afterLastPoint (Position.path (p ++ [.name name])).toList = name.toList := by
    rw [Position.path_concat, Step.extend]
    split
    · exact afterLastPoint_self h.notMem_point
    · rw [String.toList_append, String.toList_append, List.append_assoc]
      exact afterLastPoint_append h.notMem_point
  have hbracket : name.toList.takeWhile (· ≠ '[') = name.toList := by
    rw [List.takeWhile_eq_self_iff]
    intro c hc
    rw [decide_eq_true_eq]
    exact fun e => h.notMem_bracket (e ▸ hc)
  rw [fieldOf, hlast, hbracket, String.ofList_toList]

end Faultline.Validation
