import Mathlib.Data.String.Basic

/-!
# The order of texts is that of their octets

Texts are compared character by character.  In UTF-8 a greater character has greater octets
at the first place where they differ, so comparing octet by octet gives the same order.

## Main definitions

* `utf8` — the octets of a text.

## Main results

* `utf8EncodeChar_append_lt` — the octets of two characters are ordered as these are,
  whatever follows them.
* `utf8_le_utf8_iff` — **texts are ordered as their octets are.**
-/

namespace Faultline.Text

/-- The octets of a text. -/
def utf8 (s : String) : List UInt8 := s.toByteArray.data.toList

theorem utf8_eq_flatMap (s : String) : utf8 s = s.toList.flatMap String.utf8EncodeChar := by
  rw [utf8, ← String.utf8Encode_toList, List.utf8Encode]
  simp

theorem codePoint_lt (c : Char) : c.val.toNat < 0x110000 := by
  rcases c.valid with hlow | hhigh
  · exact Nat.lt_trans hlow (by decide)
  · exact hhigh.2

/-- A code point has no more than four digits to the base of 64, and the first is below 8. -/
theorem quotients_of_codePoint {n : Nat} (h : n < 0x110000) :
    n / 64 / 64 = n / 4096 ∧ n / 4096 / 64 = n / 262144 ∧ n / 262144 % 8 = n / 262144 :=
  ⟨Nat.div_div_eq_div_mul n 64 64, Nat.div_div_eq_div_mul n 4096 64, Nat.mod_eq_of_lt (by omega)⟩

/-- The octets of two characters are ordered as these are, whatever follows them. -/
theorem utf8EncodeChar_append_lt {c d : Char} (h : c < d) (u v : List UInt8) :
    String.utf8EncodeChar c ++ u < String.utf8EncodeChar d ++ v := by
  have hd := codePoint_lt d
  have hcd : c.val.toNat < d.val.toNat := h
  have octet (k : Nat) (hk : k < 256) : (UInt8.ofNat k).toNat = k := by simp [hk]
  simp only [String.utf8EncodeChar]
  generalize c.val.toNat = m at *
  generalize d.val.toNat = n at *
  have hm := quotients_of_codePoint (hcd.trans hd)
  have hn := quotients_of_codePoint hd
  -- A longer form has a greater first octet; forms of one length compare digit by digit.
  split_ifs <;> try omega
  all_goals
    simp only [List.cons_append, List.nil_append, List.cons_lt_cons_iff,
      UInt8.lt_iff_toNat_lt, ← UInt8.toNat_inj]
    simp (disch := omega) only [octet]
    omega

theorem utf8EncodeChar_ne_nil (c : Char) : String.utf8EncodeChar c ≠ [] := by
  simp only [String.utf8EncodeChar]
  split_ifs <;> simp

/-- Comparing octet by octet is comparing character by character. -/
theorem flatMap_utf8EncodeChar_lt {cs ds : List Char} (h : cs < ds) :
    cs.flatMap String.utf8EncodeChar < ds.flatMap String.utf8EncodeChar := by
  induction h with
  | @nil d ds =>
    rw [List.flatMap_nil, List.flatMap_cons]
    cases hd : String.utf8EncodeChar d with
    | nil => exact absurd hd (utf8EncodeChar_ne_nil d)
    | cons x xs => exact List.nil_lt_cons x _
  | rel hcd =>
    rw [List.flatMap_cons, List.flatMap_cons]
    exact utf8EncodeChar_append_lt hcd _ _
  | cons _ ih =>
    rw [List.flatMap_cons, List.flatMap_cons]
    exact List.append_left_lt ih

theorem utf8_lt_utf8_of_lt {s t : String} (h : s < t) : utf8 s < utf8 t := by
  rw [utf8_eq_flatMap, utf8_eq_flatMap]
  exact flatMap_utf8EncodeChar_lt (String.lt_iff_toList_lt.mp h)

/-- **Texts are ordered as their octets are.** -/
theorem utf8_le_utf8_iff {s t : String} : utf8 s ≤ utf8 t ↔ s ≤ t := by
  constructor
  · intro h hts
    exact h (utf8_lt_utf8_of_lt hts)
  · intro h hts
    rcases lt_or_eq_of_le h with hst | rfl
    · exact List.lt_asymm (utf8_lt_utf8_of_lt hst) hts
    · exact List.lt_irrefl _ hts

end Faultline.Text
