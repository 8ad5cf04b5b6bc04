import Faultline.Text.Blank
import Mathlib.Data.List.TakeWhile

/-!
# Trimming

What is left of a text without the blanks at its two ends, said of the two texts and not of how
one is made from the other.

## Main definitions

* `Trims` — one text is another one without the blanks at its ends.

## Main results

* `trims_iff` — **exactly one text is**, and it is the trimmed one.
* `Trims.ne_empty_iff` — something is left exactly if not every character is blank.
-/

namespace Faultline.Text

/-- A text `t` is the text `s` without the blanks at its two ends: around it there are only blanks,
and it neither begins nor ends with one. -/
structure Trims (s t : String) : Prop where
  /-- Around the text there are only blanks. -/
  around : ∃ before after, s.toList = before ++ t.toList ++ after ∧
    (∀ c ∈ before, isBlank c = true) ∧ ∀ c ∈ after, isBlank c = true
  /-- The text does not begin with a blank. -/
  first : ∀ c ∈ t.toList.head?, isBlank c = false
  /-- The text does not end with a blank. -/
  last : ∀ c ∈ t.toList.getLast?, isBlank c = false

variable {cs : List Char} {s t : String}

/-- What is left without the blanks in front does not begin with one. -/
theorem head?_dropWhile_isBlank : ∀ c ∈ (cs.dropWhile isBlank).head?, isBlank c = false := by
  intro c hc
  have h := List.head?_dropWhile_not isBlank cs
  rw [Option.mem_def.mp hc] at h
  exact h

/-- Blanks in front are dropped up to the first character that is none. -/
theorem dropWhile_isBlank_append {before rest : List Char}
    (blank : ∀ c ∈ before, isBlank c = true) (first : ∀ c ∈ rest.head?, isBlank c = false) :
    (before ++ rest).dropWhile isBlank = rest := by
  rw [List.dropWhile_append_of_pos blank]
  cases rest with
  | nil => rfl
  | cons c rest =>
    have hc : isBlank c = false := first c rfl
    rw [List.dropWhile_cons, hc]
    rfl

/-- The trimmed text is the text without the blanks at its ends. -/
theorem trims_trimmed (s : String) : Trims s (trimmed s) := by
  have chars : (trimmed s).toList = trimmedChars s.toList := String.toList_ofList
  -- First the blanks in front are taken away, and then those behind.
  have front : s.toList = s.toList.takeWhile isBlank ++ s.toList.dropWhile isBlank :=
    List.takeWhile_append_dropWhile.symm
  have back : s.toList.dropWhile isBlank = trimmedChars s.toList ++
      ((s.toList.dropWhile isBlank).reverse.takeWhile isBlank).reverse := by
    rw [trimmedChars, ← List.reverse_append, List.takeWhile_append_dropWhile,
      List.reverse_reverse]
  constructor
  · refine ⟨s.toList.takeWhile isBlank,
      ((s.toList.dropWhile isBlank).reverse.takeWhile isBlank).reverse, ?_, ?_, ?_⟩
    · rw [chars, List.append_assoc, ← back, ← front]
    · exact fun c hc => List.mem_takeWhile_imp hc
    · exact fun c hc => List.mem_takeWhile_imp (List.mem_reverse.mp hc)
  · intro c hc
    -- What is left begins as the text does without the blanks in front.
    refine @head?_dropWhile_isBlank s.toList c ?_
    rw [chars] at hc
    rw [back, List.head?_append, Option.mem_def.mp hc]
    rfl
  · intro c hc
    rw [chars, trimmedChars, List.getLast?_reverse] at hc
    exact head?_dropWhile_isBlank c hc

/-- Nothing else is the text without the blanks at its ends. -/
theorem Trims.eq_trimmed (h : Trims s t) : t = trimmed s := by
  obtain ⟨⟨before, after, hs, hbefore, hafter⟩, first, last⟩ := h
  have chars : trimmedChars s.toList = t.toList := by
    by_cases ht : t.toList = []
    · rw [hs, ht, List.append_nil, trimmedChars_eq_nil_iff]
      intro c hc
      rcases List.mem_append.mp hc with h | h
      · exact hbefore c h
      · exact hafter c h
    · obtain ⟨c, ts, hts⟩ := List.exists_cons_of_ne_nil ht
      have front : s.toList.dropWhile isBlank = t.toList ++ after := by
        rw [hs, List.append_assoc]
        refine dropWhile_isBlank_append hbefore fun c' hc' => first c' ?_
        rw [hts] at hc' ⊢
        exact hc'
      rw [trimmedChars, front, List.reverse_append, dropWhile_isBlank_append,
        List.reverse_reverse]
      · exact fun c hc => hafter c (List.mem_reverse.mp hc)
      · rw [List.head?_reverse]
        exact last
  rw [trimmed, chars, String.ofList_toList]

/-- **Exactly one text is a text without the blanks at its ends.** -/
theorem trims_iff : Trims s t ↔ t = trimmed s :=
  ⟨Trims.eq_trimmed, fun h => h ▸ trims_trimmed s⟩

/-- Something is left of a text exactly if not every character is blank. -/
theorem Trims.ne_empty_iff (h : Trims s t) : t ≠ "" ↔ ∃ c ∈ s.toList, isBlank c = false := by
  rw [h.eq_trimmed, ne_eq, trimmed_eq_nil_iff]
  simp

end Faultline.Text
