import Mathlib.Data.List.Nodup

/-!
# Lists of things that have a key

Slots have numbers, calls have callers, entries have keys: each of them is kept in a list in which
no two have the same one. What is found by a key there, and what is left without it.
-/

namespace HttpBench.Keyed

variable {A B : Type} [DecidableEq B] {key : A → B} {l : List A} {e : A} {k : B}

/-- Nothing is found by the key that was left out, and the same as before by any other. -/
theorem find?_others (key : A → B) (l : List A) (k k' : B) :
    (l.filter fun e => key e != k).find? (fun e => key e == k') =
      if k' = k then none else l.find? fun e => key e == k' := by
  rw [List.find?_filter]
  by_cases hk : k' = k
  · rw [if_pos hk, List.find?_eq_none]
    intro e _
    simp [hk]
  · rw [if_neg hk]
    congr 1
    funext e
    by_cases he : key e = k' <;> simp [he, hk]

/-- **Where keys are distinct**, what is found by a key is what has it. -/
theorem find?_eq_some_iff (hkeys : (l.map key).Nodup) : l.find? (fun e => key e = k) = some e ↔ e ∈ l ∧ key e = k := by
  constructor
  · intro h
    exact ⟨List.mem_of_find?_eq_some h, by simpa using List.find?_some h⟩
  · rintro ⟨he, rfl⟩
    cases hf : l.find? fun x => key x = key e with
    | none => exact absurd (decide_eq_true rfl) (List.find?_eq_none.mp hf e he)
    | some x =>
      have hkey : key x = key e := by simpa using List.find?_some hf
      rw [List.inj_on_of_nodup_map hkeys (List.mem_of_find?_eq_some hf) he hkey]

/-- A key that nothing has takes nothing away. -/
theorem filter_ne_eq_self (h : ∀ e ∈ l, key e ≠ k) : l.filter (fun e => key e ≠ k) = l :=
  List.filter_eq_self.mpr fun e he => by simpa using h e he

/-- Without the key of its first member, a list with distinct keys is the rest. -/
theorem filter_ne_head (hkeys : ((e :: l).map key).Nodup) : (e :: l).filter (fun x => key x ≠ key e) = l := by
  have hnot := (List.nodup_cons.mp hkeys).1
  rw [List.filter_cons_of_neg (by simp)]
  exact filter_ne_eq_self fun x hx hkey => hnot (hkey ▸ List.mem_map_of_mem hx)

/-- The key of a member takes something away. -/
theorem length_filter_ne_lt (he : e ∈ l) : (l.filter fun x => key x ≠ key e).length < l.length :=
  List.length_filter_lt_length_iff_exists.mpr ⟨e, he, by simp⟩

/-- **Without a key** there is one less if something has it. -/
theorem length_filter_ne (hkeys : (l.map key).Nodup) (k : B) :
    (l.filter fun e => key e ≠ k).length + (l.find? fun e => key e = k).isSome.toNat = l.length := by
  induction l with
  | nil => rfl
  | cons x l ih =>
    have htail := ih (List.nodup_cons.mp hkeys).2
    by_cases hx : key x = k
    · subst hx
      rw [filter_ne_head hkeys, List.find?_cons_of_pos (by simp)]
      rfl
    · rw [List.filter_cons_of_pos (by simpa using hx), List.find?_cons_of_neg (by simpa using hx), List.length_cons,
        List.length_cons, ← htail]
      omega

/-- To change what has a key where it stands, or to take it out and put it behind, comes to the same
but for the order. -/
theorem map_key_perm (f : A → A) (hkeys : (l.map key).Nodup) (he : e ∈ l) :
    (l.map fun x => if key x = key e then f x else x).Perm ((l.filter fun x => key x ≠ key e) ++ [f e]) := by
  induction l with
  | nil => cases he
  | cons x l ih =>
    have hnot := (List.nodup_cons.mp hkeys).1
    rcases List.mem_cons.mp he with rfl | he
    · have hsame : (l.map fun x => if key x = key e then f x else x) = l := by
        refine (List.map_congr_left fun x hx => ?_).trans (List.map_id l)
        exact if_neg fun (hkey : key x = key e) => hnot (hkey ▸ List.mem_map_of_mem hx)
      rw [filter_ne_head hkeys, List.map_cons, if_pos rfl, hsame]
      exact (List.perm_append_singleton (f e) l).symm
    · have hne : key x ≠ key e := fun hkey => hnot (hkey ▸ List.mem_map_of_mem he)
      rw [List.map_cons, if_neg hne, List.filter_cons_of_pos (by simpa using hne), List.cons_append]
      exact (ih (List.nodup_cons.mp hkeys).2 he).cons x

end HttpBench.Keyed
