import Faultline.Json.Members
import Faultline.Proofs.Json.Skipping

/-!
# Records in JSON are read in any spelling

A record is read while its text goes by, so its members are taken in one after the other.  Whatever
the text looks like, what comes of it is told by the values in it: an object is its members taken
in in their order, and an array is its items in the order of the known names.

## Main definitions

* `Value.asText` — the text that a value is, or the fault of one that is none.
* `Judges` — a reader gives of any spelling of a value what is thought of the value.
* `takeMember` — what becomes of the members so far when another one is taken in.
* `takeItems` — what becomes of the items of an array.
* `judgeRecord` — what is thought of a record.

## Main results

* `judges_wantText` — a text is read out of any of its spellings, and out of nothing else.
* `judges_readRecord` — **a record is read out of any of its spellings**, be it an object
  (`readRecord_object`) or an array (`readRecord_array`).
* `Judges.readAll` — a document is read in any of its spellings.
-/

namespace Faultline.Json

/-! ### Values as texts -/

/-- What a value is found to be; a number may be out of range. -/
def Value.found? : Value → Option Found
  | .null => some .null
  | .boolean b => some (.boolean b)
  | .number n => n.number?.map Number.found
  | .text s => some (.text s)
  | .array _ => some .sequence
  | .object _ => some .mapping

/-- The fault of a value where something else is wanted. -/
def Value.unwanted (wanted : String) (v : Value) : Fault :=
  match v.found? with
  | some f => .mismatch (.kind f wanted)
  | none => .malformed

/-- The text that a value is. -/
def Value.asText (wanted : String) : Value → Except Fault String
  | .text s => .ok s
  | v => .error (v.unwanted wanted)

/-- A reader gives of any spelling of a value what is thought of the value. -/
def Judges {α : Type} (reader : Reader α) (judge : Value → Except Fault α) : Prop :=
  ∀ {blank w r : List Char} {v : Value}, Blank blank → SpellsValue w v → EndsNumeral r →
    reader (blank ++ w ++ r) = (judge v).map fun x => (x, r)

section Texts

variable {w r : List Char} {v : Value}

/-- What stands in front is found in any of its spellings. -/
theorem SpellsValue.found (h : SpellsValue w v) (hr : EndsNumeral r) :
    found (w ++ r) = match v.found? with
      | some f => .ok f
      | none => .error .malformed := by
  cases h with
  | null => rfl
  | boolean b => cases b <;> rfl
  | number h =>
    rename_i n
    have hread := h.readNumeral hr
    obtain ⟨c, cs, rfl, hbegins, hspace, hnone⟩ := h.exists_eq_cons
    simp only [List.mem_cons, List.not_mem_nil, or_false, not_or] at hnone
    obtain ⟨hopen, -, hbrace, hquote, hn, ht, hf⟩ := hnone
    rw [List.cons_append] at hread ⊢
    simp only [Json.found, hbegins, ↓reduceIte, hread, bind, Except.bind, Value.found?]
    cases n.number? <;> rfl
  | text h =>
    simp only [List.cons_append, List.append_assoc, List.nil_append, Json.found, h.readText,
      bind, Except.bind, String.ofList_toList]
    rfl
  | emptyArray hblank => rfl
  | array h => rfl
  | emptyObject hblank => rfl
  | object h => rfl

/-- What stands in front is refused as what it is, in any of its spellings. -/
theorem SpellsValue.refuse {α : Type} (h : SpellsValue w v) (hr : EndsNumeral r)
    (wanted : String) :
    refuse wanted (w ++ r) = (.error (v.unwanted wanted) : Except Fault α) := by
  unfold Json.refuse Value.unwanted
  rw [h.found hr]
  cases v.found? <;> rfl

/-- Blanks in front of a value are skipped, and nothing of the value is. -/
theorem SpellsValue.skipSpace {blank : List Char} (h : SpellsValue w v) (hblank : Blank blank)
    (r : List Char) : skipSpace (blank ++ w ++ r) = w ++ r := by
  obtain ⟨c, cs, rfl, hspace, -⟩ := h.exists_eq_cons
  rw [List.append_assoc, List.cons_append, hblank.skipSpace_append_cons hspace]

/-- The character that a value begins with tells what kind of value it is. -/
def Value.BeginsWith : Value → Char → Prop
  | .null, c => c = 'n'
  | .boolean _, c => c = 't' ∨ c = 'f'
  | .number _, c => c ∉ ['[', '{', '"', 'n']
  | .text _, c => c = '"'
  | .array _, c => c = '['
  | .object _, c => c = '{'

theorem SpellsValue.exists_beginsWith (h : SpellsValue w v) :
    ∃ c cs, w = c :: cs ∧ v.BeginsWith c := by
  cases h with
  | null => exact ⟨'n', _, rfl, rfl⟩
  | boolean b =>
    cases b with
    | true => exact ⟨'t', _, rfl, Or.inl rfl⟩
    | false => exact ⟨'f', _, rfl, Or.inr rfl⟩
  | number h =>
    obtain ⟨c, cs, rfl, -, -, hnone⟩ := h.exists_eq_cons
    refine ⟨c, cs, rfl, fun hc => hnone ?_⟩
    simp only [List.mem_cons, List.not_mem_nil, or_false] at hc ⊢
    rcases hc with rfl | rfl | rfl | rfl <;> simp
  | text h => exact ⟨'"', _, rfl, rfl⟩
  | emptyArray hblank => exact ⟨'[', _, rfl, rfl⟩
  | array h => exact ⟨'[', _, rfl, rfl⟩
  | emptyObject hblank => exact ⟨'{', _, rfl, rfl⟩
  | object h => exact ⟨'{', _, rfl, rfl⟩

/-- A value begins with nothing by which only another kind of value begins. -/
theorem SpellsValue.ne_cons {c : Char} (h : SpellsValue w v) (other : ¬ v.BeginsWith c)
    (r cs : List Char) : w ++ r ≠ c :: cs := by
  obtain ⟨d, ds, rfl, begins⟩ := h.exists_beginsWith
  intro same
  obtain rfl : d = c := (List.cons.inj same).1
  exact other begins

/-- **A text is read out of any of its spellings**, and out of no other value. -/
theorem judges_wantText (wanted : String) : Judges (wantText wanted) (Value.asText wanted) := by
  intro blank w r v hblank h hr
  unfold wantText
  rw [h.skipSpace hblank]
  cases v with
  | text s =>
    cases h with
    | text h =>
      simp only [List.cons_append, List.append_assoc, List.nil_append, h.readText, bind,
        Except.bind, String.ofList_toList]
      rfl
  | _ =>
    -- Nothing but a text begins with a quote.
    split
    · rename_i quote
      exact absurd quote (h.ne_cons (by simp [Value.BeginsWith]) r _)
    · exact h.refuse hr wanted

end Texts

/-! ### Members that are taken in -/

section Members

variable {α : Type} {known : List String} {reader : Reader α} {judge : Value → Except Fault α}

/-- What becomes of the members so far when another one is taken in.  One of an unknown name is
left out; one of a known name must be the first of its name. -/
def takeMember (known : List String) (judge : Value → Except Fault α) (given : List (String × α))
    (m : String × Value) : Except Fault (List (String × α)) :=
  if m.1 ∈ known then
    if (given.lookup m.1).isSome then .error (.mismatch (.repeated m.1))
    else (judge m.2).map fun x => given ++ [(m.1, x)]
  else .ok given

/-- What separates a member from the one before it. -/
def separator (first : Bool) : List Char := if first then [] else [',']

variable {w r blank : List Char} {m : String × Value} {given : List (String × α)}

theorem nextName_quote {before : List Char} (hbefore : Blank before) (first : Bool)
    (r : List Char) :
    nextName first (separator first ++ (before ++ '"' :: r)) = .ok (some r, []) := by
  have hskip := hbefore.skipSpace_append_cons (show isSpace '"' = false by decide) r
  cases first with
  | true => simp only [separator, ↓reduceIte, List.nil_append, nextName, hskip]
  | false =>
    simp only [separator, Bool.false_eq_true, ↓reduceIte, List.cons_append, List.nil_append,
      nextName, skipSpace_cons (show isSpace ',' = false by decide), hskip]

/-- Blanks before the next member, or before the end of the object, are skipped. -/
theorem readMembersFrom_blank (hblank : Blank blank) (fuel : Nat) (first : Bool)
    (r : List Char) :
    readMembersFrom known reader fuel given first (blank ++ r) =
      readMembersFrom known reader fuel given first r := by
  cases fuel with
  | zero => rfl
  | succ fuel => simp only [readMembersFrom, nextName, hblank.skipSpace_append]

theorem readMembersFrom_close (fuel : Nat) (first : Bool) (r : List Char) :
    readMembersFrom known reader (fuel + 1) given first ('}' :: r) = .ok (given, r) := by
  simp only [readMembersFrom, nextName, skipSpace_cons (show isSpace '}' = false by decide), bind,
    Except.bind]
  rfl

/-- A member is read in any of its spellings, and taken in. -/
theorem SpellsMember.readMembersFrom (h : SpellsMember w m) (judges : Judges reader judge)
    (hr : EndsNumeral r) (fuel : Nat) (first : Bool) :
    readMembersFrom known reader (fuel + 1) given first (separator first ++ (w ++ r)) =
      takeMember known judge given m >>= fun given =>
        Json.readMembersFrom known reader fuel given false r := by
  cases h with
  | @intro before name between beyond w after m hbefore hname hbetween hbeyond spelled hafter =>
    have hcolon : readColon (between ++ ':' :: (beyond ++ w ++ (after ++ r))) =
        .ok (beyond ++ w ++ (after ++ r)) := by
      simp only [readColon, hbetween.skipSpace_append_cons (show isSpace ':' = false by decide)]
    have hends : EndsNumeral (after ++ r) := hafter.endsNumeral_append hr
    have hread := judges hbeyond spelled hends
    have hskip := spelled.skipValue hbeyond hends
    have htext := hname.readText (between ++ ':' :: (beyond ++ w ++ (after ++ r)))
    rw [show separator first ++ (before ++ '"' :: (name ++ '"' :: (between ++
        ':' :: (beyond ++ w ++ after))) ++ r) = separator first ++ (before ++ '"' :: (name ++
        '"' :: (between ++ ':' :: (beyond ++ w ++ (after ++ r))))) by simp, Json.readMembersFrom,
      nextName_quote hbefore first]
    simp only [bind, Except.bind, htext, String.ofList_toList, takeMember]
    -- The reader and `takeMember` ask the same questions in the same order.
    by_cases hknown : m.1 ∈ known
    · rw [if_pos hknown, if_pos hknown]
      by_cases again : (given.lookup m.1).isSome
      · rw [if_pos again, if_pos again]
        rfl
      · rw [if_neg again, if_neg again, hcolon]
        simp only [hread]
        cases judge m.2 with
        | error f => rfl
        | ok x =>
          simp only [Except.map]
          exact readMembersFrom_blank hafter fuel false r
    · rw [if_neg hknown, if_neg hknown, hcolon]
      simp only [hskip]
      exact readMembersFrom_blank hafter fuel false r

/-- Members are read in any of their spellings, and taken in one after the other. -/
theorem SpellsMembers.readMembersFrom {ms : List (String × Value)} (h : SpellsMembers w ms)
    (judges : Judges reader judge) (fuel : Nat) (hfuel : w.length + 1 < fuel) (first : Bool)
    (r : List Char) :
    readMembersFrom known reader fuel given first (separator first ++ (w ++ '}' :: r)) =
      (ms.foldlM (takeMember known judge) given).map fun given => (given, r) := by
  induction ms generalizing w given first fuel with
  | nil => cases h
  | cons m ms ih =>
    -- A member takes one unit of fuel, and more than one character.
    obtain ⟨fuel, rfl⟩ : ∃ n, fuel = n + 1 := ⟨fuel - 1, by omega⟩
    rw [List.foldlM_cons]
    cases h with
    | last spelled =>
      rw [spelled.readMembersFrom judges (endsNumeral_cons (by decide) r)]
      obtain ⟨fuel, rfl⟩ : ∃ n, fuel = n + 1 := ⟨fuel - 1, by omega⟩
      cases takeMember known judge given m with
      | error f => rfl
      | ok given =>
        change Json.readMembersFrom known reader (fuel + 1) given false ('}' :: r) = _
        rw [readMembersFrom_close]
        rfl
    | @more w ws m ms spelled rest =>
      rw [List.length_append, List.length_cons] at hfuel
      rw [List.append_assoc, List.cons_append,
        spelled.readMembersFrom judges (endsNumeral_cons (by decide) _)]
      cases takeMember known judge given m with
      | error f => rfl
      | ok given => exact ih rest fuel (by omega) false

/-- **An object is read in any of its spellings**: its members are taken in. -/
theorem readRecord_object {ms : List (String × Value)} (h : SpellsValue w (.object ms))
    (judges : Judges reader judge) (hblank : Blank blank) (wanted : String) (r : List Char) :
    readRecord wanted known reader (blank ++ w ++ r) =
      (ms.foldlM (takeMember known judge) []).map fun given => (given, r) := by
  cases h with
  | @emptyObject inner hinner =>
    rw [show blank ++ '{' :: (inner ++ ['}']) ++ r = blank ++ '{' :: (inner ++ '}' :: r) by simp,
      readRecord, hblank.skipSpace_append_cons (by decide)]
    simp only [readMembers, readMembersFrom_blank hinner]
    exact readMembersFrom_close _ true r
  | @object w ms spelled =>
    rw [show blank ++ '{' :: (w ++ ['}']) ++ r = blank ++ '{' :: (w ++ '}' :: r) by simp,
      readRecord, hblank.skipSpace_append_cons (by decide)]
    exact spelled.readMembersFrom judges _ (by simp) true r

end Members

/-! ### Members by position -/

section Positions

variable {α : Type} {reader : Reader α} {judge : Value → Except Fault α} {w r blank : List Char}
  {names : List String}

theorem readPositionsFrom_blank (hblank : Blank blank) (first : Bool) (r : List Char) :
    readPositionsFrom reader first names (blank ++ r) = readPositionsFrom reader first names r := by
  cases names with
  | nil => simp only [readPositionsFrom, closeArray, hblank.skipSpace_append]
  | cons name names => simp only [readPositionsFrom, hblank.skipSpace_append]

theorem readPositionsFrom_close (first : Bool) (r : List Char) :
    readPositionsFrom reader first names (']' :: r) = .ok ([], r) := by
  have hskip : skipSpace (']' :: r) = ']' :: r := skipSpace_cons (by decide) r
  cases names with
  | nil =>
    simp only [readPositionsFrom, closeArray, hskip]
    rfl
  | cons name names => simp only [readPositionsFrom, hskip]

/-- What is read of an item goes with the next name. -/
theorem readPositionsFrom_of_skipSpace {name : String} {c : Char} {cs rest : List Char}
    (hskip : skipSpace cs = c :: rest) (hclose : c ≠ ']') (first : Bool) :
    readPositionsFrom reader first (name :: names) (separator first ++ cs) = (do
      let (x, r) ← reader (c :: rest)
      let (xs, r) ← readPositionsFrom reader false names r
      return ((name, x) :: xs, r)) := by
  cases first with
  | true => simp only [separator, ↓reduceIte, List.nil_append, readPositionsFrom, hskip]
  | false =>
    have hcomma : skipSpace (',' :: cs) = ',' :: cs := skipSpace_cons (by decide) cs
    simp only [separator, Bool.false_eq_true, ↓reduceIte, List.cons_append, List.nil_append,
      readPositionsFrom, hcomma]
    split
    · rename_i h
      cases h
    · rename_i h
      exact absurd (List.cons.inj h).1 (by decide)
    · rename_i h
      obtain ⟨rfl, rfl⟩ := List.cons.inj h
      simp only [↓reduceIte, hskip]
      split
      · rename_i h
        cases h
      · rename_i h
        exact absurd (List.cons.inj h).1 hclose
      · rfl

/-- An item is read in any of its spellings, and has the next name. -/
theorem readPositionsFrom_item {before after : List Char} {v : Value} {name : String}
    (hbefore : Blank before) (h : SpellsValue w v) (hafter : Blank after)
    (judges : Judges reader judge) (hr : EndsNumeral r) (first : Bool) :
    readPositionsFrom reader first (name :: names)
        (separator first ++ (before ++ w ++ after ++ r)) = (do
      let x ← judge v
      let (xs, r) ← readPositionsFrom reader false names r
      return ((name, x) :: xs, r)) := by
  have hends : EndsNumeral (after ++ r) := hafter.endsNumeral_append hr
  have hread : reader (w ++ (after ++ r)) = (judge v).map fun x => (x, after ++ r) :=
    judges blank_nil h hends
  obtain ⟨c, cs, rfl, hspace, hclose⟩ := h.exists_eq_cons
  rw [List.cons_append] at hread
  have hskip : skipSpace (before ++ c :: (cs ++ (after ++ r))) = c :: (cs ++ (after ++ r)) :=
    hbefore.skipSpace_append_cons hspace _
  simp only [List.append_assoc, List.cons_append]
  rw [readPositionsFrom_of_skipSpace hskip hclose, hread]
  cases judge v with
  | error f => rfl
  | ok x =>
    simp only [Except.map, bind, Except.bind]
    rw [readPositionsFrom_blank hafter]

/-- What becomes of items: each goes with the next name, and there must be a name for each. -/
def takeItems (judge : Value → Except Fault α) :
    List String → List Value → Except Fault (List (String × α))
  | _, [] => .ok []
  | [], _ :: _ => .error .malformed
  | name :: names, v :: vs => do
    let x ← judge v
    let xs ← takeItems judge names vs
    return (name, x) :: xs

theorem closeArray_of_skipSpace {c : Char} {cs rest : List Char} (hskip : skipSpace cs = c :: rest)
    (hclose : c ≠ ']') : closeArray cs = .error .malformed := by
  unfold closeArray
  rw [hskip]
  split
  · rename_i h
    cases h
  · rename_i h
    exact absurd (List.cons.inj h).1 hclose
  · rfl

/-- Where the names are used up, no item is read. -/
theorem SpellsItems.readPositionsFrom_nil {vs : List Value} (h : SpellsItems w vs) (first : Bool)
    (r : List Char) :
    readPositionsFrom reader first [] (separator first ++ (w ++ r)) = .error .malformed := by
  have other : ∃ c cs, skipSpace (separator first ++ (w ++ r)) = c :: cs ∧ c ≠ ']' := by
    cases first with
    | false => exact ⟨',', _, skipSpace_cons (by decide) _, by decide⟩
    | true => exact h.exists_skipSpace_eq r
  obtain ⟨c, cs, hskip, hclose⟩ := other
  rw [Json.readPositionsFrom, closeArray_of_skipSpace hskip hclose]
  rfl

/-- Items are read in any of their spellings, and taken in one after the other. -/
theorem SpellsItems.readPositionsFrom {vs : List Value} (h : SpellsItems w vs)
    (judges : Judges reader judge) (first : Bool) (r : List Char) :
    readPositionsFrom reader first names (separator first ++ (w ++ ']' :: r)) =
      (takeItems judge names vs).map fun xs => (xs, r) := by
  induction vs generalizing w names first with
  | nil => cases h
  | cons v vs ih =>
    cases names with
    | nil => exact h.readPositionsFrom_nil first (']' :: r)
    | cons name names =>
      rw [takeItems]
      cases h with
      | last hbefore spelled hafter =>
        rw [readPositionsFrom_item hbefore spelled hafter judges (endsNumeral_cons (by decide) r),
          readPositionsFrom_close]
        cases judge v with
        | error f => rfl
        | ok x => cases names <;> rfl
      | @more before w after ws v vs hbefore spelled hafter rest =>
        have others : Json.readPositionsFrom reader false names
            (separator false ++ (ws ++ ']' :: r)) =
              (takeItems judge names vs).map fun xs => (xs, r) := ih rest false
        rw [List.append_assoc, List.cons_append, readPositionsFrom_item hbefore spelled hafter
          judges (endsNumeral_cons (by decide) (ws ++ ']' :: r))]
        change (do
          let x ← judge v
          let (xs, r) ← Json.readPositionsFrom reader false names
            (separator false ++ (ws ++ ']' :: r))
          return ((name, x) :: xs, r)) = _
        rw [others]
        cases judge v with
        | error f => rfl
        | ok x =>
          simp only [bind, Except.bind]
          cases takeItems judge names vs <;> rfl

/-- **An array is read in any of its spellings**: its items have the known names in their order. -/
theorem readRecord_array {vs : List Value} (h : SpellsValue w (.array vs))
    (judges : Judges reader judge) (hblank : Blank blank) (wanted : String) (r : List Char) :
    readRecord wanted names reader (blank ++ w ++ r) =
      (takeItems judge names vs).map fun xs => (xs, r) := by
  cases h with
  | @emptyArray inner hinner =>
    rw [show blank ++ '[' :: (inner ++ [']']) ++ r = blank ++ '[' :: (inner ++ ']' :: r) by simp,
      readRecord, hblank.skipSpace_append_cons (by decide)]
    simp only [readPositions, readPositionsFrom_blank hinner, readPositionsFrom_close]
    cases names <;> rfl
  | @array w items spelled =>
    rw [show blank ++ '[' :: (w ++ [']']) ++ r = blank ++ '[' :: (w ++ ']' :: r) by simp,
      readRecord, hblank.skipSpace_append_cons (by decide)]
    exact spelled.readPositionsFrom judges true r

/-- Texts are taken in as they are, if there is a name for each. -/
theorem takeItems_text (wanted : String) {texts : List String}
    (enough : texts.length ≤ names.length) :
    takeItems (Value.asText wanted) names (texts.map .text) = .ok (names.zip texts) := by
  induction texts generalizing names with
  | nil =>
    rw [List.zip_nil_right]
    cases names <;> rfl
  | cons t ts ih =>
    cases names with
    | nil => cases enough
    | cons name names =>
      rw [List.map_cons, takeItems, ih (Nat.le_of_succ_le_succ enough)]
      rfl

end Positions

/-! ### Records and documents -/

section Judges

variable {α β : Type} {reader : Reader α} {judge : Value → Except Fault α}

/-- What is thought of a record: of an object the members are taken in, and of an array the items.
Nothing else is a record. -/
def judgeRecord (wanted : String) (known : List String) (judge : Value → Except Fault α) :
    Value → Except Fault (List (String × α))
  | .object ms => ms.foldlM (takeMember known judge) []
  | .array vs => takeItems judge known vs
  | v => .error (v.unwanted wanted)

/-- **A record is read out of any of its spellings**, and out of no other value. -/
theorem judges_readRecord (judges : Judges reader judge) (wanted : String) (known : List String) :
    Judges (readRecord wanted known reader) (judgeRecord wanted known judge) := by
  intro blank w r v hblank h hr
  cases v with
  | object ms => exact readRecord_object h judges hblank wanted r
  | array vs => exact readRecord_array h judges hblank wanted r
  | _ =>
    -- Nothing else begins with a brace or a bracket.
    rw [readRecord, h.skipSpace hblank]
    split
    · rename_i bracket
      exact absurd bracket (h.ne_cons (by simp [Value.BeginsWith]) r _)
    · rename_i brace
      exact absurd brace (h.ne_cons (by simp [Value.BeginsWith]) r _)
    · exact h.refuse hr wanted

/-- What is made of what was read is made of what is thought of the value. -/
theorem Judges.map (judges : Judges reader judge) (f : α → β) :
    Judges (fun cs => do let (x, r) ← reader cs; return (f x, r)) fun v => (judge v).map f := by
  intro blank w r v hblank h hr
  simp only [judges hblank h hr]
  cases judge v <;> rfl

/-- **A document is read in any of its spellings.** -/
theorem Judges.readAll (judges : Judges reader judge) {text : String} {v : Value}
    (spelled : Spells text v) : readAll reader text = judge v := by
  obtain ⟨before, w, after, hbefore, h, hafter, htext⟩ := spelled
  have nothing : EndsNumeral [] := ⟨nofun, nofun⟩
  have hends : EndsNumeral after := by
    have := hafter.endsNumeral_append nothing
    rwa [List.append_nil] at this
  have hskip : skipSpace after = [] := by
    have := hafter.skipSpace_append []
    rwa [List.append_nil] at this
  rw [Json.readAll, htext, judges hbefore h hends]
  cases judge v with
  | error f => rfl
  | ok x =>
    simp only [Except.map, bind, Except.bind, hskip]
    rfl

end Judges

end Faultline.Json
