import Mathlib.Algebra.Order.BigOperators.Group.List
import Mathlib.Data.List.Forall2
import Mathlib.Data.List.Pairwise
import Mathlib.Data.List.Perm.Basic
import Mathlib.Order.Basic

/-!
# Ascending lists

In an ascending list the values up to a bound stand in front, so a value is within the bound exactly if its
place is below the number of those that are (`Ascending.getElem_le_iff`). That number does not depend on the
order of the values. It follows that what is put in order after a change of its values for greater ones has at
every place a value that is no smaller than before (`Ascending.getElem_le_getElem`), whatever stood where.
-/

namespace HttpBench.Ascending

variable {A : Type} [LinearOrder A] {values values' sorted sorted' : List A} {bound : A} {i j : Nat}

theorem getElem_le_getElem_of_le (h : values.Pairwise (· ≤ ·)) (hij : i ≤ j) (hj : j < values.length) :
    values[i] ≤ values[j] := by
  rcases hij.eq_or_lt with rfl | hlt
  · exact le_refl _
  · exact List.pairwise_iff_getElem.mp h i j _ hj hlt

/-- **A value is within a bound** if its place is below the number of those that are. -/
theorem getElem_le_iff (h : values.Pairwise (· ≤ ·)) (hi : i < values.length) :
    values[i] ≤ bound ↔ i < values.countP (· ≤ bound) := by
  induction values generalizing i with
  | nil => cases hi
  | cons x rest ih =>
    obtain ⟨hleast, hrest⟩ := List.pairwise_cons.mp h
    by_cases hx : x ≤ bound
    · rw [List.countP_cons_of_pos (by simpa using hx)]
      cases i with
      | zero => simpa using hx
      | succ i => simpa using ih hrest (by simpa using hi)
    -- a list whose first value is beyond the bound has none within it
    · have hnone : (x :: rest).countP (· ≤ bound) = 0 := by
        refine List.countP_eq_zero.mpr fun y hy hwithin => hx ?_
        exact (h.rel_head hy).trans (by simpa using hwithin)
      rw [hnone]
      exact iff_of_false (fun hwithin => hx ((h.rel_head (List.getElem_mem hi)).trans hwithin)) (Nat.not_lt_zero i)

/-- What stands at a place and behind it is at least the value there. -/
theorem length_sub_le_countP (h : values.Pairwise (· ≤ ·)) (hi : i < values.length) (hbound : bound ≤ values[i]) :
    values.length - i ≤ values.countP (bound ≤ ·) := by
  have hall : (values.drop i).countP (bound ≤ ·) = (values.drop i).length := by
    refine List.countP_eq_length.mpr fun y hy => ?_
    obtain ⟨k, hk, rfl⟩ := List.getElem_of_mem hy
    rw [List.getElem_drop]
    exact decide_eq_true (hbound.trans (getElem_le_getElem_of_le h (Nat.le_add_right i k) _))
  calc values.length - i = (values.drop i).countP (bound ≤ ·) := by rw [hall, List.length_drop]
    _ ≤ values.countP (bound ≤ ·) := (List.drop_sublist i values).countP_le

/-- Of greater values no more are within a bound. -/
theorem countP_le_countP (h : List.Forall₂ (· ≤ ·) values values') :
    values'.countP (· ≤ bound) ≤ values.countP (· ≤ bound) := by
  induction h with
  | nil => exact Nat.le_refl _
  | @cons x y rest rest' hxy _ ih =>
    by_cases hy : y ≤ bound
    · rw [List.countP_cons_of_pos (by simpa using hy), List.countP_cons_of_pos (by simpa using hxy.trans hy)]
      exact Nat.succ_le_succ ih
    · rw [List.countP_cons_of_neg (by simpa using hy)]
      exact ih.trans (List.sublist_cons_self x rest).countP_le

/-- **Greater values in order** are greater place by place. -/
theorem getElem_le_getElem (h : List.Forall₂ (· ≤ ·) values values') (hperm : sorted.Perm values)
    (hperm' : sorted'.Perm values') (hsorted : sorted.Pairwise (· ≤ ·)) (hsorted' : sorted'.Pairwise (· ≤ ·))
    (hi : i < sorted.length) (hi' : i < sorted'.length) : sorted[i] ≤ sorted'[i] := by
  have hplace : i < sorted'.countP (· ≤ sorted'[i]) := (getElem_le_iff hsorted' hi').mp (le_refl _)
  have hfewer : values'.countP (· ≤ sorted'[i]) ≤ values.countP (· ≤ sorted'[i]) := countP_le_countP h
  rw [← hperm'.countP_eq, ← hperm.countP_eq] at hfewer
  exact (getElem_le_iff hsorted hi).mpr (hplace.trans_le hfewer)

end HttpBench.Ascending
