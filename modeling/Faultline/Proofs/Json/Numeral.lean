import Faultline.Json.Reader

/-!
# Numerals are read again

A numeral that was written is read again with all its parts, whatever follows it, unless that
could be a part of it.

## Main definitions

* `EndsNumeral` — what follows is no part of a numeral.

## Main results

* `digitsValue_wholeDigits`, `head?_wholeDigits_ne` — the digits of a number stand for it, and
  do not begin with a zero.
* `readNumeral_render` — a numeral is read again.
-/

namespace Faultline.Json

/-! ### Digits -/

theorem digit?_char (d : Digit) : digit? d.char = some d := by
  revert d
  decide

theorem wholeDigits_of_lt {n : Nat} (h : n < 10) : wholeDigits n = [⟨n, h⟩] := by
  have hd : digit? (Nat.digitChar n) = some ⟨n, h⟩ := digit?_char ⟨n, h⟩
  simp [wholeDigits, Nat.toDigits_of_lt_base h, hd]

theorem wholeDigits_of_le {n : Nat} (h : 10 ≤ n) :
    wholeDigits n = wholeDigits (n / 10) ++ [⟨n % 10, Nat.mod_lt n (by decide)⟩] := by
  have hd : digit? (Nat.digitChar (n % 10)) = some ⟨n % 10, Nat.mod_lt n (by decide)⟩ :=
    digit?_char ⟨n % 10, Nat.mod_lt n (by decide)⟩
  simp [wholeDigits, Nat.toDigits_of_base_le (by decide) h, hd]

/-- The digits of a number are those that are written. -/
theorem map_char_wholeDigits (n : Nat) : (wholeDigits n).map Digit.char = Nat.toDigits 10 n := by
  induction n using Nat.strongRecOn with
  | ind n ih =>
    rcases Nat.lt_or_ge n 10 with h | h
    · rw [wholeDigits_of_lt h, Nat.toDigits_of_lt_base h]
      rfl
    · rw [wholeDigits_of_le h, Nat.toDigits_of_base_le (by decide) h, List.map_append,
        ih (n / 10) (by omega)]
      rfl

/-- The digits of a number stand for it. -/
theorem digitsValue_wholeDigits (n : Nat) : digitsValue (wholeDigits n) = n := by
  induction n using Nat.strongRecOn with
  | ind n ih =>
    rcases Nat.lt_or_ge n 10 with h | h
    · simp [wholeDigits_of_lt h, digitsValue]
    · have step : digitsValue (wholeDigits n) =
          digitsValue (wholeDigits (n / 10)) * 10 + n % 10 := by
        simp [wholeDigits_of_le h, digitsValue]
      rw [step, ih (n / 10) (by omega)]
      omega

/-- The digits of a number that is not zero do not begin with a zero. -/
theorem head?_wholeDigits_ne {n : Nat} (hn : n ≠ 0) : (wholeDigits n).head? ≠ some 0 := by
  induction n using Nat.strongRecOn with
  | ind n ih =>
    rcases Nat.lt_or_ge n 10 with h | h
    · rw [wholeDigits_of_lt h]
      intro he
      exact hn (congrArg Fin.val (Option.some.inj he))
    · have front := ih (n / 10) (by omega) (by omega)
      rw [wholeDigits_of_le h]
      cases hds : wholeDigits (n / 10) with
      | nil =>
        have hvalue := digitsValue_wholeDigits (n / 10)
        rw [hds] at hvalue
        have : n / 10 = 0 := hvalue.symm
        omega
      | cons d ds =>
        rw [hds] at front
        exact front

/-- What is written of a number begins with a digit. -/
theorem exists_toDigits_eq (n : Nat) :
    ∃ (d : Digit) (ds : List Digit), wholeDigits n = d :: ds ∧
      Nat.toDigits 10 n = d.char :: ds.map Digit.char := by
  cases hds : wholeDigits n with
  | nil =>
    have : Nat.toDigits 10 n = [] := by rw [← map_char_wholeDigits, hds]; rfl
    exact absurd this Nat.toDigits_ne_nil
  | cons d ds => exact ⟨d, ds, rfl, by rw [← map_char_wholeDigits, hds]; rfl⟩

/-- A digit is no sign. -/
theorem char_ne_sign (d : Digit) : d.char ≠ '-' ∧ d.char ≠ '+' := by
  revert d
  decide

/-! ### The parts of a numeral -/

/-- No digit follows. -/
def EndsDigits (r : List Char) : Prop := ∀ c ∈ r.head?, digit? c = none

/-- What follows is no part of a numeral. -/
def EndsNumeral (r : List Char) : Prop :=
  EndsDigits r ∧ ∀ c ∈ r.head?, c ≠ '.' ∧ c ≠ 'e' ∧ c ≠ 'E'

/-- The characters of digits are split off again. -/
theorem spanDigits_map_char {r : List Char} (hr : EndsDigits r) (ds : List Digit) :
    spanDigits (ds.map Digit.char ++ r) = (ds, r) := by
  induction ds with
  | nil =>
    cases r with
    | nil => rfl
    | cons c r =>
      have hc := hr c rfl
      simp [spanDigits, hc]
  | cons d ds ih => simp [spanDigits, digit?_char, ih]

/-- The digits of a number are split off again. -/
theorem spanDigits_toDigits {r : List Char} (hr : EndsDigits r) (n : Nat) :
    spanDigits (Nat.toDigits 10 n ++ r) = (wholeDigits n, r) := by
  rw [← map_char_wholeDigits, spanDigits_map_char hr]

/-- A whole number is read again. -/
theorem readWhole_toDigits {r : List Char} (hr : EndsDigits r) (n : Nat) :
    readWhole (Nat.toDigits 10 n ++ r) = .ok (n, r) := by
  obtain ⟨d, ds, hds, -⟩ := exists_toDigits_eq n
  have value := digitsValue_wholeDigits n
  have plain : ¬ (d = 0 ∧ ds ≠ []) := by
    rintro ⟨rfl, hne⟩
    by_cases hn : n = 0
    · rw [hn, wholeDigits_of_lt (by decide)] at hds
      exact hne (List.cons.inj hds).2.symm
    · exact head?_wholeDigits_ne hn (by rw [hds]; rfl)
  rw [hds] at value
  unfold readWhole
  rw [spanDigits_toDigits hr, hds]
  simp only [plain, ↓reduceIte, value]

/-- The digits after a point are read again. -/
theorem readFraction_render {r : List Char} (hr : EndsDigits r) (hp : ∀ c ∈ r.head?, c ≠ '.')
    (ds : List Digit) : readFraction (renderFraction ds ++ r) = .ok (ds, r) := by
  cases ds with
  | nil =>
    change readFraction r = _
    unfold readFraction
    split
    · exact absurd rfl (hp '.' rfl)
    · rfl
  | cons d ds =>
    change readFraction ('.' :: ((d :: ds).map Digit.char ++ r)) = _
    rw [readFraction, spanDigits_map_char hr]

/-- The size of a power of ten is read with its sign. -/
theorem spanSign_render (e : Int) (r : List Char) :
    spanSign ((if e < 0 then ['-'] else []) ++ Nat.toDigits 10 e.natAbs ++ r) =
      (decide (e < 0), Nat.toDigits 10 e.natAbs ++ r) := by
  by_cases he : e < 0
  · simp [he, spanSign]
  · obtain ⟨d, ds, -, hd⟩ := exists_toDigits_eq e.natAbs
    obtain ⟨hminus, hplus⟩ := char_ne_sign d
    simp only [he, ↓reduceIte, List.nil_append, hd, List.cons_append, decide_false]
    unfold spanSign
    split
    · rename_i h
      exact absurd (List.cons.inj h).1 hminus
    · rename_i h
      exact absurd (List.cons.inj h).1 hplus
    · rfl

/-- A power of ten is read again. -/
theorem readExponent_render {r : List Char} (hr : EndsNumeral r) (e : Option Int) :
    readExponent (renderExponent e ++ r) = .ok (e, r) := by
  cases e with
  | none =>
    change readExponent r = _
    cases r with
    | nil => rfl
    | cons c r =>
      obtain ⟨-, he, hE⟩ := hr.2 c rfl
      simp [readExponent, he, hE]
  | some e =>
    obtain ⟨d, ds, hds, -⟩ := exists_toDigits_eq e.natAbs
    have value := digitsValue_wholeDigits e.natAbs
    rw [hds] at value
    have sign : (if e < 0 then -(e.natAbs : Int) else e.natAbs) = e := by
      split <;> omega
    simp only [renderExponent, List.cons_append, readExponent, true_or, ↓reduceIte,
      spanSign_render, spanDigits_toDigits hr.1, hds, value, decide_eq_true_eq, sign]

/-- Digits end before a power of ten, and so does a text without a point. -/
theorem endsDigits_renderExponent {r : List Char} (hr : EndsNumeral r) (e : Option Int) :
    EndsDigits (renderExponent e ++ r) ∧ ∀ c ∈ (renderExponent e ++ r).head?, c ≠ '.' := by
  cases e with
  | none => exact ⟨hr.1, fun c hc => (hr.2 c hc).1⟩
  | some e =>
    refine ⟨fun c hc => ?_, fun c hc => ?_⟩ <;> obtain rfl := Option.some.inj hc <;> decide

/-- Digits end before a point. -/
theorem endsDigits_renderFraction {r : List Char} (hr : EndsDigits r) (ds : List Digit) :
    EndsDigits (renderFraction ds ++ r) := by
  cases ds with
  | nil => exact hr
  | cons d ds =>
    intro c hc
    obtain rfl := Option.some.inj hc
    decide

/-- The sign and the digits of a numeral are read again before a power of ten that is read. -/
theorem readNumeral_of_readExponent {power r : List Char} {exponent : Option Int}
    (hexponent : readExponent power = .ok (exponent, r)) (hdigits : EndsDigits power)
    (hpoint : ∀ c ∈ power.head?, c ≠ '.') (negative : Bool) (whole : Nat)
    (fraction : List Digit) :
    readNumeral ((if negative then ['-'] else []) ++ Nat.toDigits 10 whole ++
      renderFraction fraction ++ power) = .ok (⟨negative, whole, fraction, exponent⟩, r) := by
  have wholeRead := readWhole_toDigits (endsDigits_renderFraction hdigits fraction) whole
  have fractionRead := readFraction_render hdigits hpoint fraction
  cases negative with
  | true =>
    simp only [↓reduceIte, List.append_assoc, List.cons_append, List.nil_append, readNumeral,
      bind, Except.bind, wholeRead, fractionRead, hexponent]
    rfl
  | false =>
    simp only [Bool.false_eq_true, ↓reduceIte, List.append_assoc, List.nil_append, readNumeral]
    split
    · rename_i h
      obtain ⟨d, ds, -, hd⟩ := exists_toDigits_eq whole
      rw [hd] at h
      exact absurd (List.cons.inj h).1 (char_ne_sign d).1
    · simp only [bind, Except.bind, wholeRead, fractionRead, hexponent]
      rfl

/-- **A numeral is read again**, if what follows is no part of it. -/
theorem readNumeral_render {r : List Char} (hr : EndsNumeral r) (n : Numeral) :
    readNumeral (n.render ++ r) = .ok (n, r) := by
  obtain ⟨hdigits, hpoint⟩ := endsDigits_renderExponent hr n.exponent
  have hread := readNumeral_of_readExponent (readExponent_render hr n.exponent) hdigits hpoint
    n.negative n.whole n.fraction
  rw [← List.append_assoc] at hread
  exact hread

end Faultline.Json
