import Faultline.Proofs.Json.Spelling

/-!
# Values that are skipped

A value that is not wanted is skipped without being read: the reader knows only which collections
are open, and what may come next in the innermost one.  It has fuel for as many steps as the text
has characters and takes a character in each, so it is enough to follow from which state it gets
to which.  From the beginning of a value it gets to its end, whatever the value is and however it
is written.

## Main definitions

* `Skip` — a state of the reader; `Skip.Leads` — from one state the reader gets to another.

## Main results

* `Value.skippable` — the reader gets over any value.
* `SpellsValue.skipValue` — **a value is skipped in any of its spellings**.
-/

namespace Faultline.Json

/-! ### States -/

/-- A state in which values are skipped. -/
structure Skip where
  /-- What comes next. -/
  awaited : Awaited
  /-- The collections that are open, the innermost first. -/
  around : List Bracket
  /-- What is left of the text. -/
  rest : List Char

/-- From one state the reader gets to another, with fuel for what is left. -/
def Skip.Leads (s t : Skip) : Prop :=
  ∀ fuel, s.rest.length < fuel → ∃ left, t.rest.length < left ∧
    skipSteps fuel s.awaited s.around s.rest = skipSteps left t.awaited t.around t.rest

section Leads

variable {s t u : Skip}

theorem Skip.Leads.trans (h : s.Leads t) (h' : t.Leads u) : s.Leads u := by
  intro fuel hfuel
  obtain ⟨left, hleft, hst⟩ := h fuel hfuel
  obtain ⟨left', hleft', htu⟩ := h' left hleft
  exact ⟨left', hleft', hst.trans htu⟩

/-- A step that takes a character leaves fuel enough. -/
theorem Skip.leads_of_step (shorter : t.rest.length < s.rest.length)
    (h : ∀ fuel, skipSteps (fuel + 1) s.awaited s.around s.rest =
      skipSteps fuel t.awaited t.around t.rest) : s.Leads t := by
  intro fuel hfuel
  obtain ⟨left, rfl⟩ : ∃ left, fuel = left + 1 := ⟨fuel - 1, by omega⟩
  exact ⟨left, by omega, h left⟩

/-- Two states with the same next step lead to the same. -/
theorem Skip.leads_of_same_step (shorter : t.rest.length ≤ s.rest.length)
    (h : ∀ fuel, skipSteps (fuel + 1) s.awaited s.around s.rest =
      skipSteps (fuel + 1) t.awaited t.around t.rest) : s.Leads t := by
  intro fuel hfuel
  obtain ⟨left, rfl⟩ : ∃ left, fuel = left + 1 := ⟨fuel - 1, by omega⟩
  exact ⟨left + 1, by omega, h left⟩

end Leads

/-! ### Steps -/

/-- What the reader does where a value comes next. -/
theorem skipSteps_value (fuel : Nat) (around : List Bracket) (cs : List Char) :
    skipSteps (fuel + 1) .value around cs =
      match skipSpace cs with
      | '[' :: r =>
        match skipSpace r with
        | ']' :: r => skipSteps fuel .separator around r
        | r => skipSteps fuel .value (.array :: around) r
      | '{' :: r =>
        match skipSpace r with
        | '}' :: r => skipSteps fuel .separator around r
        | r =>
          match skipName r with
          | .error e => .error e
          | .ok r => skipSteps fuel .value (.object :: around) r
      | r =>
        match skipScalar r with
        | .error e => .error e
        | .ok r => skipSteps fuel .separator around r :=
  rfl

/-- What the reader does behind a value in a collection. -/
theorem skipSteps_separator (fuel : Nat) (b : Bracket) (around : List Bracket) (cs : List Char) :
    skipSteps (fuel + 1) .separator (b :: around) cs =
      match skipSpace cs, b with
      | [], _ => .error .incomplete
      | ']' :: r, .array => skipSteps fuel .separator around r
      | '}' :: r, .object => skipSteps fuel .separator around r
      | ',' :: r, .array => skipSteps fuel .value (.array :: around) r
      | ',' :: r, .object =>
        match skipName r with
        | .error e => .error e
        | .ok r => skipSteps fuel .value (.object :: around) r
      | _, _ => .error .malformed :=
  rfl

section Steps

variable {around : List Bracket} {blank cs r : List Char}

/-- Blanks before a value are skipped. -/
theorem leads_blank_value (hblank : Blank blank) (cs : List Char) :
    Skip.Leads ⟨.value, around, blank ++ cs⟩ ⟨.value, around, cs⟩ := by
  refine Skip.leads_of_same_step (by simp) fun fuel => ?_
  simp only [skipSteps_value, hblank.skipSpace_append]

/-- Blanks behind a value are skipped if it is in a collection; at the end of the outermost value
the reader stops at once. -/
theorem leads_blank_separator (hblank : Blank blank) {b : Bracket} (cs : List Char) :
    Skip.Leads ⟨.separator, b :: around, blank ++ cs⟩ ⟨.separator, b :: around, cs⟩ := by
  refine Skip.leads_of_same_step (by simp) fun fuel => ?_
  simp only [skipSteps_separator, hblank.skipSpace_append]

theorem leads_comma_array (r : List Char) :
    Skip.Leads ⟨.separator, .array :: around, ',' :: r⟩ ⟨.value, .array :: around, r⟩ := by
  refine Skip.leads_of_step (Nat.lt_succ_self _) fun fuel => ?_
  simp only [skipSteps_separator, skipSpace_cons (show isSpace ',' = false by decide)]

theorem leads_close_array (r : List Char) :
    Skip.Leads ⟨.separator, .array :: around, ']' :: r⟩ ⟨.separator, around, r⟩ := by
  refine Skip.leads_of_step (Nat.lt_succ_self _) fun fuel => ?_
  simp only [skipSteps_separator, skipSpace_cons (show isSpace ']' = false by decide)]

theorem leads_comma_object (hname : skipName cs = .ok r) (shorter : r.length < cs.length) :
    Skip.Leads ⟨.separator, .object :: around, ',' :: cs⟩ ⟨.value, .object :: around, r⟩ := by
  refine Skip.leads_of_step (Nat.lt_succ_of_lt shorter) fun fuel => ?_
  simp only [skipSteps_separator, skipSpace_cons (show isSpace ',' = false by decide), hname]

theorem leads_close_object (r : List Char) :
    Skip.Leads ⟨.separator, .object :: around, '}' :: r⟩ ⟨.separator, around, r⟩ := by
  refine Skip.leads_of_step (Nat.lt_succ_self _) fun fuel => ?_
  simp only [skipSteps_separator, skipSpace_cons (show isSpace '}' = false by decide)]

theorem leads_empty_array (hblank : Blank blank) (r : List Char) :
    Skip.Leads ⟨.value, around, '[' :: (blank ++ ']' :: r)⟩ ⟨.separator, around, r⟩ := by
  refine Skip.leads_of_step (by simp only [List.length_cons, List.length_append]; omega)
    fun fuel => ?_
  simp only [skipSteps_value, skipSpace_cons (show isSpace '[' = false by decide),
    hblank.skipSpace_append_cons (show isSpace ']' = false by decide)]

theorem leads_open_array (hopen : ∀ r, skipSpace cs ≠ ']' :: r) :
    Skip.Leads ⟨.value, around, '[' :: cs⟩ ⟨.value, .array :: around, cs⟩ := by
  refine Skip.leads_of_step (Nat.lt_succ_self _) fun fuel => ?_
  simp only [skipSteps_value, skipSpace_cons (show isSpace '[' = false by decide)]
  -- The blanks have been skipped in this step, and it makes no difference if they are again.
  cases fuel with
  | zero => rfl
  | succ fuel => simp only [skipSteps_value, skipSpace_idem]

theorem leads_empty_object (hblank : Blank blank) (r : List Char) :
    Skip.Leads ⟨.value, around, '{' :: (blank ++ '}' :: r)⟩ ⟨.separator, around, r⟩ := by
  refine Skip.leads_of_step (by simp only [List.length_cons, List.length_append]; omega)
    fun fuel => ?_
  simp only [skipSteps_value, skipSpace_cons (show isSpace '{' = false by decide),
    hblank.skipSpace_append_cons (show isSpace '}' = false by decide)]

theorem leads_open_object (hname : skipName cs = .ok r) (shorter : r.length < cs.length) :
    Skip.Leads ⟨.value, around, '{' :: cs⟩ ⟨.value, .object :: around, r⟩ := by
  refine Skip.leads_of_step (Nat.lt_succ_of_lt shorter) fun fuel => ?_
  simp only [skipSteps_value, skipSpace_cons (show isSpace '{' = false by decide)]
  split
  · -- No name begins with the end of an object.
    rename_i h
    rw [skipName, h] at hname
    cases hname
  · have hname' : skipName (skipSpace cs) = .ok r := by
      rw [skipName, skipSpace_idem, ← skipName]
      exact hname
    rw [hname']

/-- A value that is no collection is skipped in one step. -/
theorem leads_scalar {c : Char} (hspace : isSpace c = false) (hopen : c ≠ '[' ∧ c ≠ '{')
    (h : skipScalar (c :: cs) = .ok r) (shorter : r.length ≤ cs.length) :
    Skip.Leads ⟨.value, around, c :: cs⟩ ⟨.separator, around, r⟩ := by
  refine Skip.leads_of_step (Nat.lt_succ_of_le shorter) fun fuel => ?_
  simp only [skipSteps_value, skipSpace_cons hspace]
  split
  · rename_i h'
    exact absurd (List.cons.inj h').1 hopen.1
  · rename_i h'
    exact absurd (List.cons.inj h').1 hopen.2
  · rw [h]

end Steps

/-! ### Over a value -/

section Values

variable {around : List Bracket} {w r : List Char} {v : Value}

/-- No number goes on after a blank. -/
theorem Blank.endsNumeral_append {blank : List Char} (hblank : Blank blank)
    (hr : EndsNumeral r) : EndsNumeral (blank ++ r) := by
  cases blank with
  | nil => exact hr
  | cons c cs =>
    have hc : isSpace c = true := hblank c (List.mem_cons_self ..)
    have spaces : c = ' ' ∨ c = '\n' ∨ c = '\t' ∨ c = '\r' := by simpa [isSpace, or_assoc] using hc
    have none : digit? c = none ∧ c ≠ '.' ∧ c ≠ 'e' ∧ c ≠ 'E' := by
      rcases spaces with rfl | rfl | rfl | rfl <;> decide
    constructor <;> intro b hb <;> obtain rfl := Option.some.inj hb
    · exact none.1
    · exact none.2

theorem skipScalar_numeral {c : Char} (hbegins : beginsNumeral c = true)
    (hnone : c ∉ ['[', ']', '{', '"', 'n', 't', 'f']) {cs : List Char} {n : Numeral}
    (hread : readNumeral (c :: cs) = .ok (n, r)) : skipScalar (c :: cs) = .ok r := by
  simp only [List.mem_cons, List.not_mem_nil, or_false, not_or] at hnone
  obtain ⟨-, -, -, hquote, hn, ht, hf⟩ := hnone
  simp only [skipScalar, hbegins, ↓reduceIte, hread]

theorem SpellsNumeral.leads {n : Numeral} (h : SpellsNumeral w n) (hr : EndsNumeral r) :
    Skip.Leads ⟨.value, around, w ++ r⟩ ⟨.separator, around, r⟩ := by
  have hread := h.readNumeral hr
  obtain ⟨c, cs, rfl, hbegins, hspace, hnone⟩ := h.exists_eq_cons
  rw [List.cons_append] at hread ⊢
  exact leads_scalar hspace ⟨fun h => hnone (by simp [h]), fun h => hnone (by simp [h])⟩
    (skipScalar_numeral hbegins hnone hread) (by simp)

/-- A value is skipped wherever it is written. -/
def Value.Skippable (v : Value) : Prop :=
  ∀ {w : List Char}, SpellsValue w v → ∀ {around : List Bracket} {r : List Char}, EndsNumeral r →
    Skip.Leads ⟨.value, around, w ++ r⟩ ⟨.separator, around, r⟩

/-- A value in a collection is skipped with the blanks around it. -/
theorem Value.Skippable.leads_within {before after : List Char} (h : v.Skippable)
    (hbefore : Blank before) (spelled : SpellsValue w v) (hafter : Blank after)
    (hr : EndsNumeral r) (b : Bracket) :
    Skip.Leads ⟨.value, b :: around, before ++ w ++ after ++ r⟩ ⟨.separator, b :: around, r⟩ := by
  simp only [List.append_assoc]
  exact ((leads_blank_value hbefore _).trans
    (h spelled (hafter.endsNumeral_append hr))).trans (leads_blank_separator hafter r)

/-- Items are skipped up to the end of their array. -/
theorem SpellsItems.leads {vs : List Value} (h : SpellsItems w vs)
    (skippable : ∀ v ∈ vs, v.Skippable) (r : List Char) :
    Skip.Leads ⟨.value, .array :: around, w ++ ']' :: r⟩ ⟨.separator, around, r⟩ := by
  induction vs generalizing w with
  | nil => cases h
  | cons v vs ih =>
    have first : v.Skippable := skippable v (List.mem_cons_self ..)
    cases h with
    | last hbefore spelled hafter =>
      have hr : EndsNumeral (']' :: r) := endsNumeral_cons (by decide) r
      exact (first.leads_within hbefore spelled hafter hr .array).trans (leads_close_array r)
    | @more before w after ws v vs hbefore spelled hafter rest =>
      have others := ih rest fun x hx => skippable x (List.mem_cons_of_mem v hx)
      have hr : EndsNumeral (',' :: (ws ++ ']' :: r)) := endsNumeral_cons (by decide) _
      rw [List.append_assoc, List.cons_append]
      exact ((first.leads_within hbefore spelled hafter hr .array).trans
        (leads_comma_array _)).trans others

/-- The name of a member and its colon are skipped, and then its value. -/
theorem SpellsMember.exists_skipName {m : String × Value} (h : SpellsMember w m)
    (skippable : m.2.Skippable) (hr : EndsNumeral r) :
    ∃ value, skipName (w ++ r) = .ok value ∧ value.length < (w ++ r).length ∧
      Skip.Leads ⟨.value, .object :: around, value⟩ ⟨.separator, .object :: around, r⟩ := by
  cases h with
  | @intro before name between beyond w after m hbefore hname hbetween hbeyond spelled hafter =>
    refine ⟨beyond ++ w ++ after ++ r, ?_, ?_,
      skippable.leads_within hbeyond spelled hafter hr .object⟩
    · simp only [List.append_assoc, List.cons_append, skipName,
        hbefore.skipSpace_append_cons (show isSpace '"' = false by decide), hname.skipText,
        hbetween.skipSpace_append_cons (show isSpace ':' = false by decide)]
    · simp only [List.length_append, List.length_cons]
      omega

/-- Members are skipped up to the end of their object. -/
theorem SpellsMembers.exists_skipName {ms : List (String × Value)} (h : SpellsMembers w ms)
    (skippable : ∀ m ∈ ms, m.2.Skippable) (r : List Char) :
    ∃ value, skipName (w ++ '}' :: r) = .ok value ∧ value.length < (w ++ '}' :: r).length ∧
      Skip.Leads ⟨.value, .object :: around, value⟩ ⟨.separator, around, r⟩ := by
  induction ms generalizing w with
  | nil => cases h
  | cons m ms ih =>
    have first : m.2.Skippable := skippable m (List.mem_cons_self ..)
    cases h with
    | last spelled =>
      obtain ⟨value, hname, shorter, passed⟩ :=
        spelled.exists_skipName first (endsNumeral_cons (show '}' ∈ _ by decide) r)
      exact ⟨value, hname, shorter, passed.trans (leads_close_object r)⟩
    | @more w ws m ms spelled rest =>
      obtain ⟨next, hnext, hnextlen, others⟩ :=
        ih rest fun x hx => skippable x (List.mem_cons_of_mem m hx)
      obtain ⟨value, hname, shorter, passed⟩ :=
        spelled.exists_skipName first
          (endsNumeral_cons (show ',' ∈ _ by decide) (ws ++ '}' :: r))
      rw [List.append_assoc, List.cons_append]
      exact ⟨value, hname, shorter, (passed.trans (leads_comma_object hnext hnextlen)).trans others⟩

/-- Items begin with something else than the end of their array. -/
theorem SpellsItems.exists_skipSpace_eq {vs : List Value} (h : SpellsItems w vs) (r : List Char) :
    ∃ c cs, skipSpace (w ++ r) = c :: cs ∧ c ≠ ']' := by
  have first {before w after : List Char} {v : Value} (hbefore : Blank before)
      (spelled : SpellsValue w v) :
      ∃ c cs, skipSpace (before ++ w ++ after) = c :: cs ∧ c ≠ ']' := by
    obtain ⟨c, cs, rfl, hspace, hclose⟩ := spelled.exists_eq_cons
    rw [List.append_assoc, List.cons_append, hbefore.skipSpace_append_cons hspace]
    exact ⟨c, _, rfl, hclose⟩
  cases h with
  | last hbefore spelled hafter =>
    rw [List.append_assoc]
    exact first hbefore spelled
  | more hbefore spelled hafter rest =>
    rw [List.append_assoc, List.append_assoc]
    exact first hbefore spelled

theorem SpellsItems.skipSpace_ne {vs : List Value} (h : SpellsItems w vs) (r s : List Char) :
    skipSpace (w ++ r) ≠ ']' :: s := by
  obtain ⟨c, cs, hskip, hclose⟩ := h.exists_skipSpace_eq r
  rw [hskip]
  exact fun h => hclose (List.cons.inj h).1

/-- **The reader gets over any value**, if what follows is no part of a number. -/
theorem Value.skippable (v : Value) : v.Skippable := by
  -- On the value and not on its spelling, for the spellings of values and of items go together.
  induction v using Value.induction with
  | null =>
    intro w spelled around r hr
    cases spelled
    exact leads_scalar (by decide) (by decide) rfl (Nat.le_add_right r.length 3)
  | boolean b =>
    intro w spelled around r hr
    cases spelled
    cases b with
    | true => exact leads_scalar (by decide) (by decide) rfl (Nat.le_add_right r.length 3)
    | false => exact leads_scalar (by decide) (by decide) rfl (Nat.le_add_right r.length 4)
  | number n =>
    intro w spelled around r hr
    cases spelled with
    | number h => exact h.leads hr
  | text s =>
    intro w spelled around r hr
    cases spelled with
    | @text w s h =>
      have hskip : skipScalar ('"' :: (w ++ '"' :: r)) = .ok r := h.skipText r
      have passed : Skip.Leads ⟨.value, around, '"' :: (w ++ '"' :: r)⟩ ⟨.separator, around, r⟩ :=
        leads_scalar (by decide) (by decide) hskip
          (by simp only [List.length_append, List.length_cons]; omega)
      simpa using passed
  | array items ih =>
    intro w spelled around r hr
    cases spelled with
    | emptyArray hblank => simpa using leads_empty_array hblank r
    | @array w items h =>
      have passed : Skip.Leads ⟨.value, around, '[' :: (w ++ ']' :: r)⟩ ⟨.separator, around, r⟩ :=
        (leads_open_array (h.skipSpace_ne (']' :: r))).trans (h.leads ih r)
      simpa using passed
  | object members ih =>
    intro w spelled around r hr
    cases spelled with
    | emptyObject hblank => simpa using leads_empty_object hblank r
    | @object w ms h =>
      obtain ⟨value, hname, shorter, rest⟩ := h.exists_skipName ih r
      have passed : Skip.Leads ⟨.value, around, '{' :: (w ++ '}' :: r)⟩ ⟨.separator, around, r⟩ :=
        (leads_open_object hname shorter).trans rest
      simpa using passed

/-- **A value is skipped** in any of its spellings, with the blanks in front. -/
theorem SpellsValue.skipValue {blank : List Char} (h : SpellsValue w v) (hblank : Blank blank)
    (hr : EndsNumeral r) : skipValue (blank ++ w ++ r) = .ok r := by
  rw [List.append_assoc]
  have passed : Skip.Leads ⟨.value, [], blank ++ (w ++ r)⟩ ⟨.separator, [], r⟩ :=
    (leads_blank_value hblank (w ++ r)).trans (v.skippable h hr)
  obtain ⟨left, hleft, hskip⟩ := passed ((blank ++ (w ++ r)).length + 2) (by simp only; omega)
  obtain ⟨left, rfl⟩ : ∃ n, left = n + 1 := ⟨left - 1, by omega⟩
  rw [Json.skipValue, hskip]
  rfl

end Values

end Faultline.Json
