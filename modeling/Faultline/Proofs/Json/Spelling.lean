import Faultline.Proofs.Json.Value

/-!
# The spellings of a document

A document can be written in many ways: blanks may stand between its parts, a character may be
escaped though it need not be, and a power of ten may have a plus.  The spellings of a document
are all texts that say the same; one of them is the text that is written for it.

## Main definitions

* `Blank` — nothing but spaces.
* `SpellsChar`, `SpellsText` — what may stand between quotes.
* `SpellsNumeral` — the spellings of a number.
* `SpellsValue`, `SpellsItems`, `SpellsMembers` — the spellings of a value and of what is in it.
* `Spells` — the spellings of a document.

## Main results

* `SpellsText.readText`, `SpellsText.skipText`, `SpellsNumeral.readNumeral` — the readers go over
  any spelling.
* `spellsValue_render`, `spells_write` — what is written is a spelling.
-/

namespace Faultline.Json

open Text

/-! ### Blanks -/

/-- There is nothing but spaces. -/
def Blank (cs : List Char) : Prop := ∀ c ∈ cs, isSpace c = true

theorem blank_nil : Blank [] := nofun

theorem Blank.skipSpace_append {cs : List Char} (h : Blank cs) (r : List Char) :
    skipSpace (cs ++ r) = skipSpace r :=
  List.dropWhile_append_of_pos h

theorem Blank.skipSpace_append_cons {cs : List Char} (h : Blank cs) {c : Char}
    (hc : isSpace c = false) (r : List Char) : skipSpace (cs ++ c :: r) = c :: r := by
  rw [h.skipSpace_append, skipSpace_cons hc]

/-- Spaces that were skipped are not there again. -/
theorem skipSpace_idem (cs : List Char) : skipSpace (skipSpace cs) = skipSpace cs := by
  induction cs with
  | nil => rfl
  | cons c cs ih =>
    cases hc : isSpace c with
    | true => rw [(show skipSpace (c :: cs) = skipSpace cs by simp [skipSpace, hc]), ih]
    | false => rw [skipSpace_cons hc, skipSpace_cons hc]

/-! ### Texts -/

/-- What may stand between quotes for a character. -/
inductive SpellsChar : List Char → Char → Prop
  /-- The character itself, if it needs no escape. -/
  | plain {c : Char} (quote : c ≠ '"') (backslash : c ≠ '\\') (control : ¬ c.toNat < 0x20) :
      SpellsChar [c] c
  /-- A one-letter escape. -/
  | short {e c : Char} (h : shortEscape? e = some c) : SpellsChar ['\\', e] c
  /-- Its number, unless it stands for a half of a pair. -/
  | number {a b c d : Char} {n : Nat} (h : quadValue? a b c d = some n)
      (low : isLowHalf n = false) (high : isHighHalf n = false) :
      SpellsChar ['\\', 'u', a, b, c, d] (Char.ofNat n)
  /-- The numbers of the two halves that stand for it. -/
  | halves {a b c d e f g h : Char} {n m : Nat} (hn : quadValue? a b c d = some n)
      (hm : quadValue? e f g h = some m) (high : isHighHalf n = true) (low : isLowHalf m = true) :
      SpellsChar ['\\', 'u', a, b, c, d, '\\', 'u', e, f, g, h] (joinHalves n m)

/-- What may stand between quotes for a text. -/
inductive SpellsText : List Char → List Char → Prop
  /-- Nothing is to be written. -/
  | nil : SpellsText [] []
  /-- The characters are written one after the other. -/
  | cons {w ws : List Char} {c : Char} {cs : List Char} (first : SpellsChar w c)
      (rest : SpellsText ws cs) : SpellsText (w ++ ws) (c :: cs)

section Texts

variable {w cs : List Char} {c : Char}

/-- Any spelling of a character is read as the character. -/
theorem SpellsChar.readText (h : SpellsChar w c) (r : List Char) :
    readText (w ++ r) = ahead c (Json.readText r) := by
  cases h with
  | plain quote backslash control => exact readText_plain quote backslash control r
  | short h =>
    rw [List.cons_append, List.singleton_append, Json.readText]
    · simp only [h]
    · rintro rfl
      cases h
  | number h low high =>
    simp only [List.cons_append, List.nil_append, Json.readText, h, low, high,
      Bool.false_eq_true, ↓reduceIte]
  | halves hn hm high low =>
    rename_i n m
    -- No number is both a first and a second half.
    have first : isLowHalf n = false := by
      simp only [isHighHalf, Bool.and_eq_true, decide_eq_true_eq] at high
      simp only [isLowHalf, Bool.and_eq_false_iff, decide_eq_false_iff_not]
      omega
    simp only [List.cons_append, List.nil_append, Json.readText, hn, hm, first, high, low,
      Bool.false_eq_true, ↓reduceIte]

theorem SpellsText.readText (h : SpellsText w cs) (r : List Char) :
    readText (w ++ '"' :: r) = .ok (cs, r) := by
  induction h with
  | nil => simp [Json.readText]
  | cons first rest ih => rw [List.append_assoc, first.readText, ih, ahead]

theorem skipText_plain (h1 : c ≠ '"') (h2 : c ≠ '\\') (h3 : ¬ c.toNat < 0x20) (r : List Char) :
    skipText (c :: r) = skipText r := by
  rw [skipText]
  · simp [h3]
  · exact fun h => absurd h h1
  · exact fun r h => absurd h h2
  · exact fun h => absurd h h2
  · exact fun c r h => absurd h h2

theorem SpellsChar.skipText (h : SpellsChar w c) (r : List Char) :
    skipText (w ++ r) = Json.skipText r := by
  cases h with
  | plain quote backslash control => exact skipText_plain quote backslash control r
  | short h =>
    rw [List.cons_append, List.singleton_append, Json.skipText]
    · simp only [h, Option.isSome_some, ↓reduceIte]
    · rintro rfl
      cases h
  | number h low high => simp only [List.cons_append, List.nil_append, Json.skipText, h]
  | halves hn hm high low => simp only [List.cons_append, List.nil_append, Json.skipText, hn, hm]

theorem SpellsText.skipText (h : SpellsText w cs) (r : List Char) :
    skipText (w ++ '"' :: r) = .ok r := by
  induction h with
  | nil => simp [Json.skipText]
  | cons first rest ih => rw [List.append_assoc, first.skipText, ih]

end Texts

/-! ### Numbers -/

/-- What may be written for a power of ten. -/
inductive SpellsExponent : List Char → Option Int → Prop
  /-- No power of ten is written. -/
  | absent : SpellsExponent [] none
  /-- A power that is not negative, with a plus or without one. -/
  | up {c : Char} {sign : List Char} {ds : List Digit} (hc : c = 'e' ∨ c = 'E')
      (hsign : sign = [] ∨ sign = ['+']) (hds : ds ≠ []) :
      SpellsExponent (c :: (sign ++ ds.map Digit.char)) (some (digitsValue ds))
  /-- A power with a minus. -/
  | down {c : Char} {ds : List Digit} (hc : c = 'e' ∨ c = 'E') (hds : ds ≠ []) :
      SpellsExponent (c :: '-' :: ds.map Digit.char) (some (-digitsValue ds))

/-- What may be written for a number: its sign and its digits, and after them the power of ten in
one of its spellings. -/
def SpellsNumeral (cs : List Char) (n : Numeral) : Prop :=
  ∃ power, SpellsExponent power n.exponent ∧
    cs = (if n.negative then ['-'] else []) ++ Nat.toDigits 10 n.whole ++
      renderFraction n.fraction ++ power

section Numbers

variable {power r : List Char} {e : Option Int}

theorem spanSign_map_char {ds : List Digit} (hds : ds ≠ []) (r : List Char) :
    spanSign (ds.map Digit.char ++ r) = (false, ds.map Digit.char ++ r) := by
  cases ds with
  | nil => exact absurd rfl hds
  | cons d ds =>
    obtain ⟨hminus, hplus⟩ := char_ne_sign d
    unfold spanSign
    split
    · rename_i h
      exact absurd (List.cons.inj h).1 hminus
    · rename_i h
      exact absurd (List.cons.inj h).1 hplus
    · rfl

/-- Any spelling of a power of ten is read as the power. -/
theorem SpellsExponent.readExponent (h : SpellsExponent power e) (hr : EndsNumeral r) :
    readExponent (power ++ r) = .ok (e, r) := by
  cases h with
  | absent => exact readExponent_render hr none
  | @up c sign ds hc hsign hds =>
    have hspan : spanSign (sign ++ ds.map Digit.char ++ r) = (false, ds.map Digit.char ++ r) := by
      rcases hsign with rfl | rfl
      · exact spanSign_map_char hds r
      · rfl
    obtain ⟨d, ds, rfl⟩ := List.exists_cons_of_ne_nil hds
    simp only [List.cons_append, Json.readExponent, hc, ↓reduceIte, hspan,
      spanDigits_map_char hr.1, Bool.false_eq_true]
  | @down c ds hc hds =>
    have hspan : spanSign ('-' :: (ds.map Digit.char ++ r)) = (true, ds.map Digit.char ++ r) := rfl
    obtain ⟨d, ds, rfl⟩ := List.exists_cons_of_ne_nil hds
    simp only [List.cons_append, Json.readExponent, hc, ↓reduceIte, hspan,
      spanDigits_map_char hr.1]

theorem SpellsExponent.endsDigits (h : SpellsExponent power e) (hr : EndsNumeral r) :
    EndsDigits (power ++ r) ∧ ∀ c ∈ (power ++ r).head?, c ≠ '.' := by
  have letter {c : Char} (hc : c = 'e' ∨ c = 'E') : digit? c = none ∧ c ≠ '.' := by
    rcases hc with rfl | rfl <;> decide
  cases h with
  | absent => exact endsDigits_renderExponent hr none
  | up hc =>
    constructor <;> intro b hb <;> obtain rfl := Option.some.inj hb
    · exact (letter hc).1
    · exact (letter hc).2
  | down hc =>
    constructor <;> intro b hb <;> obtain rfl := Option.some.inj hb
    · exact (letter hc).1
    · exact (letter hc).2

variable {cs : List Char} {n : Numeral}

/-- Any spelling of a number is read as the number, if what follows is no part of it. -/
theorem SpellsNumeral.readNumeral (h : SpellsNumeral cs n) (hr : EndsNumeral r) :
    readNumeral (cs ++ r) = .ok (n, r) := by
  obtain ⟨power, spelled, rfl⟩ := h
  obtain ⟨hdigits, hpoint⟩ := spelled.endsDigits hr
  rw [List.append_assoc]
  exact readNumeral_of_readExponent (spelled.readExponent hr) hdigits hpoint n.negative n.whole
    n.fraction

/-- A number begins with a sign or a digit, and with nothing by which another value begins. -/
theorem SpellsNumeral.exists_eq_cons (h : SpellsNumeral cs n) :
    ∃ c rest, cs = c :: rest ∧ beginsNumeral c = true ∧ isSpace c = false ∧
      c ∉ ['[', ']', '{', '"', 'n', 't', 'f'] := by
  obtain ⟨power, -, rfl⟩ := h
  -- The power of ten stands behind the whole part, so what is written begins as that does.
  obtain ⟨c, rest, hrender, begins⟩ := exists_render_numeral_eq ⟨n.negative, n.whole, [], none⟩
  refine ⟨c, rest ++ renderFraction n.fraction ++ power, ?_, begins⟩
  simp only [Numeral.render, renderFraction, renderExponent, List.append_nil] at hrender
  rw [hrender]
  simp

end Numbers

/-! ### Values -/

mutual

/-- What may be written for a value. -/
inductive SpellsValue : List Char → Value → Prop
  /-- The value that stands for nothing. -/
  | null : SpellsValue renderNull .null
  /-- A truth value. -/
  | boolean (b : Bool) : SpellsValue (renderBoolean b) (.boolean b)
  /-- A number. -/
  | number {cs : List Char} {n : Numeral} (h : SpellsNumeral cs n) : SpellsValue cs (.number n)
  /-- A text between quotes. -/
  | text {w : List Char} {s : String} (h : SpellsText w s.toList) :
      SpellsValue ('"' :: (w ++ ['"'])) (.text s)
  /-- An array without items. -/
  | emptyArray {blank : List Char} (hblank : Blank blank) :
      SpellsValue ('[' :: (blank ++ [']'])) (.array [])
  /-- An array. -/
  | array {w : List Char} {items : List Value} (h : SpellsItems w items) :
      SpellsValue ('[' :: (w ++ [']'])) (.array items)
  /-- An object without members. -/
  | emptyObject {blank : List Char} (hblank : Blank blank) :
      SpellsValue ('{' :: (blank ++ ['}'])) (.object [])
  /-- An object. -/
  | object {w : List Char} {members : List (String × Value)} (h : SpellsMembers w members) :
      SpellsValue ('{' :: (w ++ ['}'])) (.object members)

/-- What may be written for one or more items of an array. -/
inductive SpellsItems : List Char → List Value → Prop
  /-- The last item. -/
  | last {before w after : List Char} {v : Value} (hbefore : Blank before) (h : SpellsValue w v)
      (hafter : Blank after) : SpellsItems (before ++ w ++ after) [v]
  /-- An item with others after it. -/
  | more {before w after ws : List Char} {v : Value} {vs : List Value} (hbefore : Blank before)
      (h : SpellsValue w v) (hafter : Blank after) (rest : SpellsItems ws vs) :
      SpellsItems (before ++ w ++ after ++ ',' :: ws) (v :: vs)

/-- What may be written for one or more members of an object. -/
inductive SpellsMembers : List Char → List (String × Value) → Prop
  /-- The last member. -/
  | last {w : List Char} {m : String × Value} (h : SpellsMember w m) : SpellsMembers w [m]
  /-- A member with others after it. -/
  | more {w ws : List Char} {m : String × Value} {ms : List (String × Value)}
      (h : SpellsMember w m) (rest : SpellsMembers ws ms) :
      SpellsMembers (w ++ ',' :: ws) (m :: ms)

/-- What may be written for a member of an object. -/
inductive SpellsMember : List Char → String × Value → Prop
  /-- Its name between quotes, a colon and its value. -/
  | intro {before name between beyond w after : List Char} {m : String × Value}
      (hbefore : Blank before) (hname : SpellsText name m.1.toList) (hbetween : Blank between)
      (hbeyond : Blank beyond) (h : SpellsValue w m.2) (hafter : Blank after) :
      SpellsMember (before ++ '"' :: (name ++ '"' :: (between ++ ':' :: (beyond ++ w ++ after)))) m

end

/-- What may be written for a document: its value, with blanks around it. -/
def Spells (text : String) (v : Value) : Prop :=
  ∃ before w after, Blank before ∧ SpellsValue w v ∧ Blank after ∧
    text.toList = before ++ w ++ after

/-- A value begins with neither a space nor the end of an array. -/
theorem SpellsValue.exists_eq_cons {w : List Char} {v : Value} (h : SpellsValue w v) :
    ∃ c cs, w = c :: cs ∧ isSpace c = false ∧ c ≠ ']' := by
  cases h with
  | null => exact ⟨'n', _, rfl, by decide, by decide⟩
  | boolean b => cases b <;> exact ⟨_, _, rfl, by decide, by decide⟩
  | number h =>
    obtain ⟨c, cs, rfl, -, hspace, hnone⟩ := h.exists_eq_cons
    exact ⟨c, cs, rfl, hspace, fun h => hnone (by simp [h])⟩
  | text h => exact ⟨'"', _, rfl, by decide, by decide⟩
  | emptyArray hblank => exact ⟨'[', _, rfl, by decide, by decide⟩
  | array h => exact ⟨'[', _, rfl, by decide, by decide⟩
  | emptyObject hblank => exact ⟨'{', _, rfl, by decide, by decide⟩
  | object h => exact ⟨'{', _, rfl, by decide, by decide⟩

/-! ### What is written is a spelling -/

/-- What is written for a character is a spelling of it. -/
theorem spellsChar_escape (c : Char) : SpellsChar (escape c) c := by
  unfold escape
  split
  · exact .short rfl
  · exact .short rfl
  · exact .short rfl
  · exact .short rfl
  · exact .short rfl
  · exact .short rfl
  · exact .short rfl
  · rename_i quote backslash _ _ _ _ _
    split
    · rename_i control
      have hquad := quadValue?_hexQuad (show c.toNat < 65536 by omega)
      have low : isLowHalf c.toNat = false := by simp [isLowHalf]; omega
      have high : isHighHalf c.toNat = false := by simp [isHighHalf]; omega
      have spelled := SpellsChar.number hquad low high
      rw [Char.ofNat_toNat] at spelled
      exact spelled
    · rename_i control
      exact .plain quote backslash control

theorem spellsText_escape (cs : List Char) : SpellsText (cs.flatMap escape) cs := by
  induction cs with
  | nil => exact .nil
  | cons c cs ih =>
    rw [List.flatMap_cons]
    exact .cons (spellsChar_escape c) ih

theorem spellsExponent_render (e : Option Int) : SpellsExponent (renderExponent e) e := by
  cases e with
  | none => exact .absent
  | some e =>
    have hvalue := digitsValue_wholeDigits e.natAbs
    have hne : wholeDigits e.natAbs ≠ [] := by
      obtain ⟨d, ds, hds, -⟩ := exists_toDigits_eq e.natAbs
      rw [hds]
      exact List.cons_ne_nil d ds
    by_cases he : e < 0
    · have spelled := SpellsExponent.down (c := 'e') (Or.inl rfl) hne
      rw [map_char_wholeDigits, hvalue] at spelled
      have hsize : -(e.natAbs : Int) = e := by omega
      rw [hsize] at spelled
      simpa [renderExponent, he] using spelled
    · have spelled := SpellsExponent.up (c := 'e') (Or.inl rfl) (Or.inl rfl) hne
      rw [map_char_wholeDigits, hvalue] at spelled
      have hsize : (e.natAbs : Int) = e := by omega
      rw [hsize] at spelled
      simpa [renderExponent, he] using spelled

theorem spellsNumeral_render (n : Numeral) : SpellsNumeral n.render n :=
  ⟨renderExponent n.exponent, spellsExponent_render n.exponent, rfl⟩

theorem spellsItems_render {v : Value} {vs : List Value}
    (h : ∀ x ∈ v :: vs, SpellsValue x.render x) :
    SpellsItems (renderItems (v :: vs)) (v :: vs) := by
  have first : SpellsValue v.render v := h v (List.mem_cons_self ..)
  induction vs generalizing v with
  | nil => simpa [renderItems] using SpellsItems.last blank_nil first blank_nil
  | cons w ws ih =>
    have rest := ih (fun x hx => h x (List.mem_cons_of_mem v hx))
      (h w (List.mem_cons_of_mem v (List.mem_cons_self ..)))
    rw [renderItems_cons_cons]
    simpa using SpellsItems.more blank_nil first blank_nil rest

theorem spellsMember_render {m : String × Value} (h : SpellsValue m.2.render m.2) :
    SpellsMember (renderMember m) m := by
  simpa [renderMember] using SpellsMember.intro blank_nil (spellsText_escape m.1.toList) blank_nil
    blank_nil h blank_nil

theorem spellsMembers_render {m : String × Value} {ms : List (String × Value)}
    (h : ∀ x ∈ m :: ms, SpellsValue x.2.render x.2) :
    SpellsMembers (renderMembers (m :: ms)) (m :: ms) := by
  have first : SpellsMember (renderMember m) m := spellsMember_render (h m (List.mem_cons_self ..))
  induction ms generalizing m with
  | nil =>
    rw [renderMembers_singleton]
    exact .last first
  | cons n ms ih =>
    have rest := ih (fun x hx => h x (List.mem_cons_of_mem m hx))
      (spellsMember_render (h n (List.mem_cons_of_mem m (List.mem_cons_self ..))))
    rw [renderMembers_cons_cons]
    exact .more first rest

/-- What is written for a value is a spelling of it. -/
theorem spellsValue_render (v : Value) : SpellsValue v.render v := by
  induction v using Value.induction with
  | null => exact .null
  | boolean b =>
    rw [Value.render]
    exact .boolean b
  | number n =>
    rw [Value.render]
    exact .number (spellsNumeral_render n)
  | text s =>
    rw [Value.render, quoteChars, List.cons_append]
    exact .text (spellsText_escape s.toList)
  | array items ih =>
    rw [Value.render, List.cons_append]
    cases items with
    | nil => exact .emptyArray blank_nil
    | cons v vs => exact .array (spellsItems_render ih)
  | object members ih =>
    rw [Value.render, List.cons_append]
    cases members with
    | nil => exact .emptyObject blank_nil
    | cons m ms => exact .object (spellsMembers_render ih)

/-- **What is written for a document is a spelling of it.** -/
theorem spells_write (v : Value) : Spells v.write v :=
  ⟨[], v.render, [], blank_nil, spellsValue_render v, blank_nil,
    by simp [Value.write, String.toList_ofList]⟩

end Faultline.Json
