/-!
# Blank characters

The characters that separate words in Unicode text, and trimming them off both
ends of a text.

## Main definitions

* `isBlank c` — `c` has the Unicode property White_Space.
* `trimmed s` — `s` without the blank characters at its two ends.

## Main statements

* `trimmed_eq_nil_iff` — what is left is empty exactly when every character is blank.
-/

namespace Faultline.Text

/-- The twenty-five characters with the Unicode property White_Space. -/
def isBlank (c : Char) : Bool :=
  let n := c.toNat
  (9 ≤ n && n ≤ 13) || n == 0x20 || n == 0x85 || n == 0xA0 || n == 0x1680 ||
    (0x2000 ≤ n && n ≤ 0x200A) || n == 0x2028 || n == 0x2029 || n == 0x202F ||
    n == 0x205F || n == 0x3000

/-! ### Trimming -/

/-- Drops the blank characters at both ends of a list of characters. -/
def trimmedChars (cs : List Char) : List Char :=
  ((cs.dropWhile isBlank).reverse.dropWhile isBlank).reverse

/-- Drops the blank characters at both ends of a text. -/
def trimmed (s : String) : String :=
  String.ofList (trimmedChars s.toList)

theorem dropWhile_eq_nil {p : Char → Bool} {cs : List Char} :
    cs.dropWhile p = [] ↔ ∀ c ∈ cs, p c = true := by
  induction cs with
  | nil => simp
  | cons c cs ih => by_cases h : p c = true <;> simp [h, ih]

theorem trimmedChars_eq_nil_iff {cs : List Char} :
    trimmedChars cs = [] ↔ ∀ c ∈ cs, isBlank c = true := by
  constructor
  · intro h
    rw [trimmedChars, List.reverse_eq_nil_iff, dropWhile_eq_nil] at h
    have drop : ∀ ds : List Char, (∀ c ∈ ds.dropWhile isBlank, isBlank c = true) →
        ∀ c ∈ ds, isBlank c = true := by
      intro ds hds
      induction ds with
      | nil => simp
      | cons d ds ih =>
        by_cases hd : isBlank d = true
        · simp only [List.dropWhile_cons, hd, ↓reduceIte] at hds
          simpa [hd] using ih hds
        · simp only [List.dropWhile_cons, hd] at hds
          exact hds
    exact drop cs fun c hc => h c (by simpa using hc)
  · intro h
    simp [trimmedChars, dropWhile_eq_nil.2 h]

/-- Nothing is left of a text exactly when it is blank throughout. -/
theorem trimmed_eq_nil_iff {s : String} :
    trimmed s = "" ↔ ∀ c ∈ s.toList, isBlank c = true := by
  rw [← trimmedChars_eq_nil_iff, trimmed]
  constructor
  · intro h
    simpa using congrArg String.toList h
  · intro h
    rw [h]

end Faultline.Text
