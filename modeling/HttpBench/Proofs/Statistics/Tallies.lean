import Mathlib.Algebra.BigOperators.Group.List.Basic
import Mathlib.Algebra.Ring.Nat
import Mathlib.Data.List.Induction
import Mathlib.Data.String.Basic
import HttpBench.Statistics.Tally

/-!
# Tallies

A tally shows each key of a list with the number of its occurrences (`Tally.lookup_ofList`), so its counts add up
to the length of the list (`Tally.sum_ofList`), and the tally of two lists together shows the sum of what those of
the two show (`Tally.lookup_ofList_append`).

A key is inserted before the first greater one. That it is not found further behind, and so counted under two
entries, is what the ascending order of the keys is for.
-/

namespace HttpBench.Tally

variable {K : Type} [LT K] [DecidableLT K] [DecidableEq K] {tally : Tally K} {key k : K}

/-- **The keys ascend.** -/
def Ascending (tally : Tally K) : Prop := tally.Pairwise fun a b => a.1 < b.1

theorem mem_keys_add (h : k ∈ (tally.add key).map Prod.fst) : k = key ∨ k ∈ tally.map Prod.fst := by
  induction tally with
  | nil => simpa [add] using h
  | cons entry rest ih =>
    obtain ⟨first, n⟩ := entry
    unfold add at h
    split at h
    · exact .inr h
    · split at h
      · exact List.mem_cons.mp h
      · rcases List.mem_cons.mp h with rfl | h
        · exact .inr (List.mem_cons_self ..)
        · exact (ih h).imp_right (List.mem_cons_of_mem _)

/-- The counts add up to one more. -/
theorem sum_add (tally : Tally K) (key : K) :
    ((tally.add key).map Prod.snd).sum = (tally.map Prod.snd).sum + 1 := by
  induction tally with
  | nil => rfl
  | cons entry rest ih =>
    obtain ⟨first, n⟩ := entry
    unfold add
    split
    · simp only [List.map_cons, List.sum_cons]
      omega
    · split
      · simp only [List.map_cons, List.sum_cons]
        omega
      · simp only [List.map_cons, List.sum_cons, ih]
        omega

theorem ofList_concat (keys : List K) (key : K) : ofList (keys ++ [key]) = (ofList keys).add key := by
  rw [ofList, List.foldl_append]
  rfl

/-- **The counts of a tally** add up to the number of what is counted. -/
theorem sum_ofList (keys : List K) : ((ofList keys).map Prod.snd).sum = keys.length := by
  induction keys using List.reverseRecOn with
  | nil => rfl
  | append_singleton keys key ih => rw [ofList_concat, sum_add, ih, List.length_append, List.length_singleton]

section
variable [IsStrictTotalOrder K (· < ·)]

theorem Ascending.add (h : tally.Ascending) (key : K) : (tally.add key).Ascending := by
  induction tally with
  | nil => exact List.pairwise_singleton _ _
  | cons entry rest ih =>
    obtain ⟨first, n⟩ := entry
    obtain ⟨hfirst, hrest⟩ := List.pairwise_cons.mp h
    unfold Tally.add
    split
    · exact List.pairwise_cons.mpr ⟨hfirst, hrest⟩
    · split
      next hless =>
        refine List.pairwise_cons.mpr ⟨fun e he => ?_, h⟩
        rcases List.mem_cons.mp he with rfl | he
        · exact hless
        · exact trans_of (· < ·) hless (hfirst e he)
      next hne hnot =>
        have hgreater : first < key :=
          ((trichotomous_of (· < ·) first key).resolve_right fun hor => hor.elim (hne ∘ Eq.symm) hnot)
        refine List.pairwise_cons.mpr ⟨fun e he => ?_, ih hrest⟩
        rcases mem_keys_add (List.mem_map_of_mem he) with heq | hmem
        · rw [heq]
          exact hgreater
        · obtain ⟨e', he', heq⟩ := List.mem_map.mp hmem
          rw [← heq]
          exact hfirst e' he'

theorem ascending_ofList (keys : List K) : (ofList keys).Ascending := by
  induction keys using List.reverseRecOn with
  | nil => exact List.Pairwise.nil
  | append_singleton keys key ih => exact ofList_concat keys key ▸ ih.add key

omit [DecidableLT K] in
/-- A key below all others is not there. -/
theorem lookup_eq_none (h : ∀ e ∈ tally, k < e.1) : tally.lookup k = none := by
  rw [List.lookup_eq_none_iff]
  intro e he
  simpa using ne_of_irrefl (h e he)

/-- **What is counted once more** is shown with one more, and the rest as before. -/
theorem lookup_add (h : tally.Ascending) (key k : K) :
    (tally.add key).lookup k = if k = key then some ((tally.lookup k).getD 0 + 1) else tally.lookup k := by
  induction tally with
  | nil =>
    by_cases hk : k = key
    · simp [add, hk]
    · simp [add, List.lookup_cons, beq_false_of_ne hk, hk]
  | cons entry rest ih =>
    obtain ⟨first, n⟩ := entry
    obtain ⟨hfirst, hrest⟩ := List.pairwise_cons.mp h
    unfold add
    split
    next heq =>
      subst heq
      by_cases hk : k = key
      · simp [hk]
      · simp [List.lookup_cons, beq_false_of_ne hk, hk]
    next hne =>
      split
      next hless =>
        have habsent : List.lookup key ((first, n) :: rest) = none := by
          refine lookup_eq_none fun e he => ?_
          rcases List.mem_cons.mp he with rfl | he
          · exact hless
          · exact trans_of (· < ·) hless (hfirst e he)
        by_cases hk : k = key
        · rw [hk, habsent, if_pos rfl]
          simp
        · rw [if_neg hk, List.lookup_cons, beq_false_of_ne hk]
      next =>
        by_cases hk : k = first
        · subst hk
          simp [Ne.symm hne]
        · simp only [List.lookup_cons, beq_false_of_ne hk, ih hrest]

/-- **A tally shows** each key with the number of its occurrences. -/
theorem lookup_ofList (keys : List K) (k : K) :
    (ofList keys).lookup k = if keys.count k = 0 then none else some (keys.count k) := by
  induction keys using List.reverseRecOn with
  | nil => rfl
  | append_singleton keys key ih =>
    rw [ofList_concat, lookup_add (ascending_ofList keys), ih, List.count_append, List.count_singleton]
    by_cases hk : k = key
    · subst hk
      by_cases hnone : keys.count k = 0 <;> simp [hnone]
    · simp [hk, Ne.symm hk]

/-- **The tally of two lists** shows the sum of what those of the two show. -/
theorem lookup_ofList_append (keys keys' : List K) (k : K) :
    (ofList (keys ++ keys')).lookup k = Option.merge (· + ·) ((ofList keys).lookup k) ((ofList keys').lookup k) := by
  rw [lookup_ofList, lookup_ofList, lookup_ofList, List.count_append]
  by_cases hone : keys.count k = 0 <;> by_cases hother : keys'.count k = 0 <;> simp [hone, hother]

end

end HttpBench.Tally
