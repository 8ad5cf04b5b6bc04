import Faultline.Proofs.Json.Numeral

/-!
# Documents are read again

A document that was written is read again, so what is written tells the document.  The reader
has fuel for as many steps as the text has characters, and no document needs more: each of its
parts is written with a character of its own.

## Main definitions

* `Value.ReadAgain` — a value is read again wherever it is written.

## Main results

* `Value.induction` — induction on the values within a value.
* `Value.readAgain` — every value is read again.
* `Value.ofText_write`, `Value.write_inj` — a document is read again, and told by its text.
-/

namespace Faultline.Json

/-- Induction on the values within a value. -/
@[elab_as_elim]
theorem Value.induction {motive : Value → Prop} (null : motive .null)
    (boolean : ∀ b, motive (.boolean b)) (number : ∀ n, motive (.number n))
    (text : ∀ s, motive (.text s))
    (array : ∀ items, (∀ v ∈ items, motive v) → motive (.array items))
    (object : ∀ members, (∀ m ∈ members, motive m.2) → motive (.object members)) : ∀ v, motive v
  | .null => null
  | .boolean b => boolean b
  | .number n => number n
  | .text s => text s
  | .array items => array items fun v _ =>
    Value.induction null boolean number text array object v
  | .object members => object members fun m _ =>
    Value.induction null boolean number text array object m.2
termination_by v => sizeOf v
decreasing_by
  all_goals
    rename_i hm
    have hlt := List.sizeOf_lt_of_mem hm
  · simp only [Value.array.sizeOf_spec]
    omega
  · have hsize : sizeOf m = 1 + sizeOf m.1 + sizeOf m.2 := by cases m; rfl
    simp only [Value.object.sizeOf_spec]
    omega

/-! ### How a value begins -/

/-- Nothing is skipped before a character that is no space. -/
theorem skipSpace_cons {c : Char} (h : isSpace c = false) (cs : List Char) :
    skipSpace (c :: cs) = c :: cs := by
  simp [skipSpace, h]

/-- A numeral begins with a sign or a digit, and with nothing by which another value begins. -/
theorem exists_render_numeral_eq (n : Numeral) :
    ∃ c cs, n.render = c :: cs ∧ beginsNumeral c = true ∧ isSpace c = false ∧
      c ∉ ['[', ']', '{', '"', 'n', 't', 'f'] := by
  obtain ⟨d, ds, -, hd⟩ := exists_toDigits_eq n.whole
  cases h : n.negative with
  | true => exact ⟨'-', _, by simp [Numeral.render, h]; rfl, by decide, by decide, by decide⟩
  | false =>
    have front : ∀ d : Digit, beginsNumeral d.char = true ∧ isSpace d.char = false ∧
        d.char ∉ ['[', ']', '{', '"', 'n', 't', 'f'] := by decide
    exact ⟨d.char, _, by simp [Numeral.render, h, hd]; rfl, front d⟩

/-- A value begins with neither a space nor the end of an array. -/
theorem Value.exists_render_eq (v : Value) :
    ∃ c cs, v.render = c :: cs ∧ isSpace c = false ∧ c ≠ ']' := by
  cases v with
  | null => exact ⟨'n', _, rfl, by decide, by decide⟩
  | boolean b => cases b <;> exact ⟨_, _, rfl, by decide, by decide⟩
  | number n =>
    obtain ⟨c, cs, hrender, -, hspace, hnone⟩ := exists_render_numeral_eq n
    exact ⟨c, cs, by rw [render, hrender], hspace, fun h => hnone (by simp [h])⟩
  | text s => exact ⟨'"', _, by rw [render]; rfl, by decide, by decide⟩
  | array items => exact ⟨'[', _, by rw [render]; rfl, by decide, by decide⟩
  | object members => exact ⟨'{', _, by rw [render]; rfl, by decide, by decide⟩

/-- What begins as a numeral is read as one. -/
theorem readValueWithin_numeral {c : Char} (hspace : isSpace c = false)
    (hbegins : beginsNumeral c = true) (hnone : c ∉ ['[', ']', '{', '"', 'n', 't', 'f'])
    (fuel : Nat) (cs : List Char) :
    readValueWithin (fuel + 1) (c :: cs) =
      (do let (n, r) ← readNumeral (c :: cs); return (.number n, r)) := by
  rw [readValueWithin, skipSpace_cons hspace]
  split
  case h_1 h => cases h
  case h_8 h =>
    obtain ⟨rfl, rfl⟩ := List.cons.inj h
    rw [if_pos hbegins]
  -- Any other value begins with a character by which no numeral begins.
  all_goals
    rename_i h
    exact absurd (by simp [(List.cons.inj h).1]) hnone

/-- An array that is not closed at once has items. -/
theorem readValueWithin_array {c : Char} (hspace : isSpace c = false) (hclose : c ≠ ']')
    (fuel : Nat) (cs : List Char) :
    readValueWithin (fuel + 1) ('[' :: c :: cs) =
      (do let (items, r) ← readItemsWithin fuel (c :: cs); return (.array items, r)) := by
  rw [readValueWithin, skipSpace_cons (by decide)]
  simp only [skipSpace_cons hspace]
  split
  case h_1 h => exact absurd (List.cons.inj h).1 hclose
  case h_2 => rfl

/-- An object that is not closed at once has members. -/
theorem readValueWithin_object (fuel : Nat) (cs : List Char) :
    readValueWithin (fuel + 1) ('{' :: '"' :: cs) =
      (do let (members, r) ← readMembersWithin fuel ('"' :: cs); return (.object members, r)) := by
  rw [readValueWithin, skipSpace_cons (by decide)]
  simp only [skipSpace_cons (show isSpace '"' = false by decide)]
  rfl

/-! ### Values are read again -/

/-- A value is read again wherever it is written, if what follows is no part of a numeral. -/
def Value.ReadAgain (v : Value) : Prop :=
  ∀ (fuel : Nat) (r : List Char), v.render.length ≤ fuel → EndsNumeral r →
    readValueWithin fuel (v.render ++ r) = .ok (v, r)

/-- No text of a value is empty, so only readers that have fuel need be looked at. -/
theorem Value.readAgain_of_succ {v : Value}
    (h : ∀ (fuel : Nat) (r : List Char), v.render.length ≤ fuel + 1 → EndsNumeral r →
      readValueWithin (fuel + 1) (v.render ++ r) = .ok (v, r)) : v.ReadAgain := by
  intro fuel r hf hr
  obtain ⟨c, cs, hrender, -⟩ := v.exists_render_eq
  cases fuel with
  | zero => exact absurd hf (by simp [hrender])
  | succ fuel => exact h fuel r hf hr

/-- Neither a comma nor the end of a collection is a part of a numeral. -/
theorem endsNumeral_cons {c : Char} (h : c ∈ [',', ']', '}']) (r : List Char) :
    EndsNumeral (c :: r) := by
  have all : ∀ c ∈ [',', ']', '}'], digit? c = none ∧ c ≠ '.' ∧ c ≠ 'e' ∧ c ≠ 'E' := by
    simp [digit?]
  constructor <;> intro c' hc' <;> obtain rfl := Option.some.inj hc'
  · exact (all c h).1
  · exact (all c h).2

theorem renderItems_cons_cons (v w : Value) (ws : List Value) :
    renderItems (v :: w :: ws) = v.render ++ ',' :: renderItems (w :: ws) := by
  simp [renderItems]

/-- Values begin as the first of them does. -/
theorem exists_renderItems_eq (v : Value) (vs : List Value) :
    ∃ c cs, renderItems (v :: vs) = c :: cs ∧ isSpace c = false ∧ c ≠ ']' := by
  obtain ⟨c, cs, hv, hspace, hclose⟩ := v.exists_render_eq
  cases vs with
  | nil => exact ⟨c, cs, by rw [renderItems, hv], hspace, hclose⟩
  | cons w ws => exact ⟨c, _, by rw [renderItems_cons_cons, hv]; rfl, hspace, hclose⟩

/-- Items are read again up to the end of their array. -/
theorem readItemsWithin_render {v : Value} {vs : List Value} (h : ∀ x ∈ v :: vs, x.ReadAgain)
    (fuel : Nat) (hf : (renderItems (v :: vs)).length < fuel) (r : List Char) :
    readItemsWithin fuel (renderItems (v :: vs) ++ ']' :: r) = .ok (v :: vs, r) := by
  induction vs generalizing v fuel with
  | nil =>
    obtain ⟨fuel, rfl⟩ : ∃ n, fuel = n + 1 := ⟨fuel - 1, by omega⟩
    rw [renderItems] at hf
    have hv := h v (List.mem_cons_self ..) fuel (']' :: r) (by omega)
      (endsNumeral_cons (by decide) r)
    rw [renderItems, readItemsWithin, hv]
    rfl
  | cons w ws ih =>
    obtain ⟨fuel, rfl⟩ : ∃ n, fuel = n + 1 := ⟨fuel - 1, by omega⟩
    rw [renderItems_cons_cons, List.length_append, List.length_cons] at hf
    have hv := h v (List.mem_cons_self ..) fuel (',' :: (renderItems (w :: ws) ++ ']' :: r))
      (by omega) (endsNumeral_cons (by decide) _)
    have hws := ih (fun x hx => h x (List.mem_cons_of_mem v hx)) fuel (by omega)
    rw [renderItems_cons_cons, List.append_assoc, List.cons_append, readItemsWithin, hv]
    change (do
      let (vs, r) ← readItemsWithin fuel (renderItems (w :: ws) ++ ']' :: r)
      return (v :: vs, r) : Except Fault (List Value × List Char)) = _
    rw [hws]
    rfl

/-- A member is written as its name between quotes, a colon and its value. -/
def renderMember (m : String × Value) : List Char :=
  '"' :: (m.1.toList.flatMap escape ++ '"' :: ':' :: m.2.render)

theorem renderMembers_singleton (m : String × Value) : renderMembers [m] = renderMember m := by
  simp [renderMembers, renderMember, quoteChars]

theorem renderMembers_cons_cons (m n : String × Value) (ms : List (String × Value)) :
    renderMembers (m :: n :: ms) = renderMember m ++ ',' :: renderMembers (n :: ms) := by
  simp [renderMembers, renderMember, quoteChars]

/-- Members begin with the quote of a name. -/
theorem exists_renderMembers_eq (m : String × Value) (ms : List (String × Value)) :
    ∃ cs, renderMembers (m :: ms) = '"' :: cs := by
  cases ms with
  | nil => exact ⟨_, by rw [renderMembers_singleton]; rfl⟩
  | cons n ms => exact ⟨_, by rw [renderMembers_cons_cons]; rfl⟩

/-- What follows a member says whether there are more. -/
def readFurtherMembers (fuel : Nat) (m : String × Value) : Reader (List (String × Value)) :=
  fun cs =>
    match skipSpace cs with
    | [] => throw .incomplete
    | '}' :: r => return ([m], r)
    | ',' :: r => do
      let (ms, r) ← readMembersWithin fuel r
      return (m :: ms, r)
    | _ => throw .malformed

/-- A member is read again, and then what follows it. -/
theorem readMembersWithin_renderMember {m : String × Value} {fuel : Nat} {r : List Char}
    (hv : readValueWithin fuel (m.2.render ++ r) = .ok (m.2, r)) :
    readMembersWithin (fuel + 1) (renderMember m ++ r) = readFurtherMembers fuel m r := by
  have hname := readText_quote m.1.toList (':' :: (m.2.render ++ r))
  simp only [renderMember, List.cons_append, List.append_assoc, readMembersWithin]
  rw [skipSpace_cons (by decide)]
  simp only [hname, bind, Except.bind]
  rw [skipSpace_cons (by decide)]
  simp only [hv, String.ofList_toList]
  rfl

/-- Members are read again up to the end of their object. -/
theorem readMembersWithin_render {m : String × Value} {ms : List (String × Value)}
    (h : ∀ x ∈ m :: ms, x.2.ReadAgain) (fuel : Nat)
    (hf : (renderMembers (m :: ms)).length < fuel) (r : List Char) :
    readMembersWithin fuel (renderMembers (m :: ms) ++ '}' :: r) = .ok (m :: ms, r) := by
  have shorter : ∀ x : String × Value, x.2.render.length ≤ (renderMember x).length := by
    intro x
    simp only [renderMember, List.length_cons, List.length_append]
    omega
  induction ms generalizing m fuel with
  | nil =>
    obtain ⟨fuel, rfl⟩ : ∃ n, fuel = n + 1 := ⟨fuel - 1, by omega⟩
    rw [renderMembers_singleton] at hf
    have hlen := shorter m
    have hv := h m (List.mem_cons_self ..) fuel ('}' :: r) (by omega)
      (endsNumeral_cons (by decide) r)
    rw [renderMembers_singleton, readMembersWithin_renderMember hv]
    rfl
  | cons n ms ih =>
    obtain ⟨fuel, rfl⟩ : ∃ n, fuel = n + 1 := ⟨fuel - 1, by omega⟩
    rw [renderMembers_cons_cons, List.length_append, List.length_cons] at hf
    have hlen := shorter m
    have hv := h m (List.mem_cons_self ..) fuel
      (',' :: (renderMembers (n :: ms) ++ '}' :: r)) (by omega) (endsNumeral_cons (by decide) _)
    have hms := ih (fun x hx => h x (List.mem_cons_of_mem m hx)) fuel (by omega)
    rw [renderMembers_cons_cons, List.append_assoc, List.cons_append,
      readMembersWithin_renderMember hv, readFurtherMembers, skipSpace_cons (by decide)]
    simp only [hms, bind, Except.bind]
    rfl

/-- **Every value is read again** wherever it is written. -/
theorem Value.readAgain (v : Value) : v.ReadAgain := by
  induction v using Value.induction with
  | null => exact readAgain_of_succ fun _ _ _ _ => rfl
  | boolean b =>
    refine readAgain_of_succ fun _ _ _ _ => ?_
    cases b <;> rfl
  | number n =>
    refine readAgain_of_succ fun fuel r _ hr => ?_
    obtain ⟨c, cs, hrender, hbegins, hspace, hnone⟩ := exists_render_numeral_eq n
    have hread := readNumeral_render hr n
    rw [hrender, List.cons_append] at hread
    rw [render, hrender, List.cons_append, readValueWithin_numeral hspace hbegins hnone, hread]
    rfl
  | text s =>
    refine readAgain_of_succ fun fuel r _ _ => ?_
    have hread := readText_quote s.toList r
    simp only [render, quoteChars, List.cons_append, List.append_assoc, List.nil_append,
      readValueWithin]
    rw [skipSpace_cons (by decide)]
    simp only [hread, bind, Except.bind, pure, Except.pure, String.ofList_toList]
  | array items ih =>
    refine readAgain_of_succ fun fuel r hf _ => ?_
    rw [render, List.length_append, List.length_cons, List.length_singleton] at hf
    cases items with
    | nil => rfl
    | cons v vs =>
      have hread := readItemsWithin_render ih fuel (by omega) r
      obtain ⟨c, cs, hitems, hspace, hclose⟩ := exists_renderItems_eq v vs
      rw [hitems, List.cons_append] at hread
      rw [render, List.append_assoc, List.singleton_append, hitems, List.cons_append,
        List.cons_append, readValueWithin_array hspace hclose, hread]
      rfl
  | object members ih =>
    refine readAgain_of_succ fun fuel r hf _ => ?_
    rw [render, List.length_append, List.length_cons, List.length_singleton] at hf
    cases members with
    | nil => rfl
    | cons m ms =>
      have hread := readMembersWithin_render ih fuel (by omega) r
      obtain ⟨cs, hmembers⟩ := exists_renderMembers_eq m ms
      rw [hmembers, List.cons_append] at hread
      rw [render, List.append_assoc, List.singleton_append, hmembers, List.cons_append,
        List.cons_append, readValueWithin_object, hread]
      rfl

/-- **A document is read again** from its text. -/
theorem Value.ofText_write (v : Value) : ofText v.write = .ok v := by
  have hread := v.readAgain (2 * v.render.length + 2) [] (by omega)
    (by simp [EndsNumeral, EndsDigits])
  rw [List.append_nil] at hread
  rw [ofText, readAll, write, String.toList_ofList, readValue, hread]
  rfl

/-- A document is told by its text. -/
theorem Value.write_inj {v w : Value} : v.write = w.write ↔ v = w := by
  refine ⟨fun h => ?_, congrArg _⟩
  have hread := v.ofText_write
  rw [h, w.ofText_write] at hread
  exact (Except.ok.inj hread).symm

end Faultline.Json
