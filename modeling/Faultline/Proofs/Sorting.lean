import Mathlib.Data.List.Sort
import Mathlib.Data.String.Basic

/-!
# Sorting by a text

A list that is sorted by a text of its members is determined by what it holds for each
text, in order.  Sorting keeps that order.

## Main results

* `filter_sortedBy` — sorting keeps the order of members with one text.
* `forall₂_of_forall₂_filter` — sorted lists are alike if they are alike for each text.
-/

namespace Faultline

variable {α β : Type}

/-- The members of a list in ascending order of a text, those with one text in their order. -/
def sortedBy (key : α → String) (l : List α) : List α :=
  l.mergeSort fun a b => decide (key a ≤ key b)

theorem keyLE_trans (key : α → String) (a b c : α) (hab : decide (key a ≤ key b) = true)
    (hbc : decide (key b ≤ key c) = true) : decide (key a ≤ key c) = true := by
  rw [decide_eq_true_eq] at *
  exact le_trans hab hbc

theorem keyLE_total (key : α → String) (a b : α) :
    (decide (key a ≤ key b) || decide (key b ≤ key a)) = true := by
  simpa using le_total (key a) (key b)

theorem pairwise_sortedBy (key : α → String) (l : List α) :
    (sortedBy key l).Pairwise fun a b => key a ≤ key b := by
  have sorted : (sortedBy key l).Pairwise fun a b => decide (key a ≤ key b) = true :=
    List.pairwise_mergeSort (keyLE_trans key) (keyLE_total key) l
  exact sorted.imp of_decide_eq_true

/-- Sorting keeps the order of members with one text. -/
theorem filter_sortedBy (key : α → String) (l : List α) (k : String) :
    (sortedBy key l).filter (key · = k) = l.filter (key · = k) := by
  have hequal : (l.filter (key · = k)).Pairwise fun a b => decide (key a ≤ key b) = true := by
    rw [List.pairwise_iff_forall_sublist]
    intro a b hab
    have ha : a ∈ l.filter (key · = k) := hab.subset (by simp)
    have hb : b ∈ l.filter (key · = k) := hab.subset (by simp)
    rw [List.mem_filter, decide_eq_true_eq] at ha hb
    rw [decide_eq_true_eq, ha.2, hb.2]
  have hsub : (l.filter (key · = k)).Sublist (sortedBy key l) :=
    List.sublist_mergeSort (keyLE_trans key) (keyLE_total key) hequal List.filter_sublist
  -- What is kept in order has the length of all that is there.
  have hfilter := hsub.filter (key · = k)
  rw [List.filter_filter] at hfilter
  simp only [Bool.and_self] at hfilter
  exact (hfilter.eq_of_length ((List.mergeSort_perm _ _).filter _).length_eq.symm).symm

/-- Sorted lists are alike if they are alike for each text. -/
theorem forall₂_of_forall₂_filter {key : α → String} {key' : β → String} {R : α → β → Prop}
    {l : List α} {l' : List β} (hl : l.Pairwise fun a b => key a ≤ key b)
    (hl' : l'.Pairwise fun a b => key' a ≤ key' b)
    (h : ∀ k, List.Forall₂ R (l.filter (key · = k)) (l'.filter (key' · = k))) :
    List.Forall₂ R l l' := by
  induction l generalizing l' with
  | nil =>
    cases l' with
    | nil => exact .nil
    | cons b bs =>
      have hb := h (key' b)
      simp at hb
  | cons a as ih =>
    cases l' with
    | nil =>
      have ha := h (key a)
      simp at ha
    | cons b bs =>
      rw [List.pairwise_cons] at hl hl'
      -- Each of the two has a member with the first text of the other.
      have hba : key' b ≤ key a := by
        have ha := h (key a)
        rw [List.filter_cons_of_pos (by simp)] at ha
        obtain ⟨c, cs, -, -, hc⟩ := List.forall₂_cons_left_iff.mp ha
        have hmem : c ∈ (b :: bs).filter (key' · = key a) := hc ▸ List.mem_cons_self ..
        rw [List.mem_filter, decide_eq_true_eq] at hmem
        rcases List.mem_cons.mp hmem.1 with rfl | hcs
        · exact hmem.2.le
        · exact hmem.2 ▸ hl'.1 c hcs
      have hab : key a ≤ key' b := by
        have hb := h (key' b)
        rw [List.filter_cons_of_pos (a := b) (by simp)] at hb
        obtain ⟨c, cs, -, -, hc⟩ := List.forall₂_cons_right_iff.mp hb
        have hmem : c ∈ (a :: as).filter (key · = key' b) := hc ▸ List.mem_cons_self ..
        rw [List.mem_filter, decide_eq_true_eq] at hmem
        rcases List.mem_cons.mp hmem.1 with rfl | hcs
        · exact hmem.2.le
        · exact hmem.2 ▸ hl.1 c hcs
      have hkey : key a = key' b := le_antisymm hab hba
      have hfirst := h (key a)
      rw [List.filter_cons_of_pos (by simp), List.filter_cons_of_pos (by simp [hkey]),
        List.forall₂_cons] at hfirst
      refine .cons hfirst.1 (ih hl.2 hl'.2 fun k => ?_)
      by_cases hk : key a = k
      · exact hk ▸ hfirst.2
      · have hrest := h k
        rwa [List.filter_cons_of_neg (by simpa using hk),
          List.filter_cons_of_neg (by simpa [← hkey] using hk)] at hrest

end Faultline
