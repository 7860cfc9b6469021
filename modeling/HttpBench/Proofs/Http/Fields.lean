import Mathlib.Data.List.Induction
import HttpBench.Http.Fields
import HttpBench.Proofs.Keyed

/-!
# What a table of fields holds

A table is read by its names, in their order (`FieldTable.names`), and by the values of each name (`FieldTable.values`).
What every operation does to the two is said here; nothing else of a table counts.

A table that is made of fields in their order has all their values and no others, each behind those of its name before
it (`FieldTable.values_ofList`), and the names stand where they first appeared (`FieldTable.names_ofList`). A name that
is set or taken out leaves the values of all others as they are, wherever the table has moved them.
-/

namespace HttpBench.FieldTable

variable {V : Type} {t : FieldTable V} {name n : String}

/-- The names in the order of the table. -/
def names (t : FieldTable V) : List String := t.groups.map (·.1)

theorem has_iff : t.has name = true ↔ name ∈ t.names := by
  simp only [has, names, List.any_eq_true, beq_iff_eq, List.mem_map]

/-- A name that the table does not have has no values. -/
theorem find?_eq_none (h : ¬t.has name = true) : t.groups.find? (·.1 == name) = none := by
  rw [has, List.any_eq_true] at h
  exact List.find?_eq_none.mpr fun g hg hname => h ⟨g, hg, hname⟩

/-! ## Changing and adding -/

theorem names_change (f : List V → List V) : (t.change name f).names = t.names := by
  unfold names change
  rw [List.map_map]
  refine List.map_congr_left fun g _ => ?_
  simp only [Function.comp]
  split <;> rfl

theorem values_change (h : t.has name = true) (f : List V → List V) (n : String) :
    (t.change name f).values n = if n = name then f (t.values n) else t.values n := by
  have hkey : ((fun g : String × List V => g.1 == n) ∘ fun g => if g.1 == name then (g.1, f g.2) else g) =
      fun g => g.1 == n := by
    funext g
    simp only [Function.comp]
    split <;> rfl
  simp only [values, change, List.find?_map, hkey]
  cases hfind : t.groups.find? (·.1 == n) with
  | none =>
    have hne : n ≠ name := by
      rintro rfl
      obtain ⟨g, hg, hname⟩ := List.any_eq_true.mp h
      exact List.find?_eq_none.mp hfind g hg hname
    rw [if_neg hne]
    rfl
  | some g =>
    obtain rfl : g.1 = n := by simpa using List.find?_some hfind
    by_cases hname : g.1 = name <;> simp [hname]

/-- A new name stands behind all others. -/
theorem values_append (h : ¬t.has name = true) (vs : List V) (n : String) :
    values { groups := t.groups ++ [(name, vs)] } n = if n = name then vs else t.values n := by
  simp only [values, List.find?_append]
  by_cases hn : n = name
  · subst hn
    rw [find?_eq_none h, if_pos rfl]
    simp
  · simp [hn, Ne.symm hn]

theorem values_of_not_has (h : ¬t.has name = true) : t.values name = [] := by
  rw [values, find?_eq_none h]
  rfl

theorem values_add (t : FieldTable V) (name : String) (value : V) (n : String) :
    (t.add name value).values n = if name.toLower = n then t.values n ++ [value] else t.values n := by
  simp only [add, eq_comm (a := name.toLower)]
  split
  next h => exact values_change h _ n
  next h =>
    rw [values_append h]
    split
    next hn => rw [hn, values_of_not_has h, List.nil_append]
    next => rfl

theorem names_add (t : FieldTable V) (name : String) (value : V) :
    (t.add name value).names = if name.toLower ∈ t.names then t.names else t.names ++ [name.toLower] := by
  simp only [add, ← has_iff]
  split
  next => exact names_change _
  next => exact List.map_append

/-! ## Tables of fields in their order -/

theorem ofList_concat (fields : List (String × V)) (f : String × V) :
    ofList (fields ++ [f]) = (ofList fields).add f.1 f.2 := List.foldl_concat ..

/-- **The values of a name** are those of its fields, in their order. -/
theorem values_ofList (fields : List (String × V)) (n : String) :
    (ofList fields).values n = (fields.filter fun f => f.1.toLower = n).map (·.2) := by
  induction fields using List.reverseRecOn with
  | nil => rfl
  | append_singleton fields f ih =>
    rw [ofList_concat, values_add, ih, List.filter_append, List.map_append]
    by_cases hf : f.1.toLower = n <;> simp [hf]

/-- **The names** stand in the order in which they first appeared, each once. -/
theorem names_ofList (fields : List (String × V)) :
    (ofList fields).names = (fields.map (·.1.toLower)).eraseDups := by
  induction fields using List.reverseRecOn with
  | nil => rfl
  | append_singleton fields f ih =>
    rw [ofList_concat, names_add, ih, List.map_append, List.eraseDups_append]
    by_cases hf : f.1.toLower ∈ fields.map (·.1.toLower)
    · rw [if_pos (List.mem_eraseDups.mpr hf)]
      simp [List.removeAll, hf]
    · rw [if_neg (mt List.mem_eraseDups.mp hf)]
      simp [List.removeAll, hf, List.eraseDups_cons]

/-! ## Distinct names -/

theorem nodup_names_add (h : t.names.Nodup) (name : String) (value : V) : (t.add name value).names.Nodup := by
  rw [names_add]
  split
  next => exact h
  next hname => exact List.nodup_append.mpr ⟨h, List.nodup_singleton _, by grind⟩

theorem nodup_names_ofList (fields : List (String × V)) : (ofList fields).names.Nodup := by
  induction fields using List.reverseRecOn with
  | nil => exact List.nodup_nil
  | append_singleton fields f ih =>
    rw [ofList_concat]
    exact nodup_names_add ih f.1 f.2

theorem values_set (t : FieldTable V) (name : String) (value : V) (n : String) :
    (t.set name value).values n = if n = name then [value] else t.values n := by
  unfold set
  split
  next h => exact values_change h _ n
  next h => exact values_append h _ n

/-- **To take a name out** leaves the groups of all others, if not in their order. -/
theorem groups_remove_perm (h : t.names.Nodup) (name : String) :
    (t.remove name).groups.Perm (t.groups.filter fun g => g.1 != name) := by
  unfold remove
  split
  next hhas =>
    cases hlast : t.groups.getLast? with
    | none =>
      rw [List.getLast?_eq_none_iff.mp hlast]
      exact .refl _
    | some last =>
      obtain ⟨others, hgroups⟩ := List.getLast?_eq_some_iff.mp hlast
      rw [has_iff] at hhas
      simp only [names, hgroups, List.map_append, List.map_cons, List.map_nil, List.mem_append,
        List.mem_singleton] at h hhas
      obtain ⟨hothers, _, hapart⟩ := List.nodup_append.mp h
      simp only [hgroups, List.dropLast_concat, List.filter_append, beq_iff_eq]
      by_cases hname : last.1 = name
      -- the last group is the one to go
      · have hkept : others.filter (fun g => g.1 != name) = others := List.filter_eq_self.mpr fun g hg => by
          simpa [hname] using hapart g.1 (List.mem_map_of_mem hg) last.1 (List.mem_singleton_self _)
        rw [if_pos hname, hkept, List.filter_cons_of_neg (by simpa using hname)]
        simp
      · obtain ⟨g, hg, rfl⟩ := List.mem_map.mp (hhas.resolve_right (Ne.symm hname))
        rw [if_neg hname, List.filter_cons_of_pos (by simpa using hname), List.filter_nil]
        simpa only [bne, beq_eq_decide, ← decide_not] using Keyed.map_key_perm (fun _ => last) hothers hg
  next hhas =>
    rw [has_iff] at hhas
    refine .of_eq (List.filter_eq_self.mpr fun g hg => ?_).symm
    simpa using fun hname : g.1 = name => hhas (hname ▸ List.mem_map_of_mem hg)

/-- Where names are distinct, what a name has does not depend on its place. -/
theorem values_eq_of_perm {t' : FieldTable V} (h : t.names.Nodup) (hperm : t'.groups.Perm t.groups) (n : String) :
    t'.values n = t.values n := by
  have h' : t'.names.Nodup := (hperm.map _).nodup_iff.mpr h
  have hfind : t'.groups.find? (fun g => g.1 = n) = t.groups.find? fun g => g.1 = n := Option.ext fun g => by
    rw [Keyed.find?_eq_some_iff h', Keyed.find?_eq_some_iff h, hperm.mem_iff]
  simpa only [values, beq_eq_decide] using congrArg (fun g => (g.map Prod.snd).getD []) hfind

/-- A name that is taken out has no values any more, and every other name those that it had. -/
theorem values_remove (h : t.names.Nodup) (name n : String) :
    (t.remove name).values n = if n = name then [] else t.values n := by
  let others : FieldTable V := { groups := t.groups.filter fun g => g.1 != name }
  have hothers : others.names.Nodup := (List.filter_sublist.map _).nodup h
  have hfind := Keyed.find?_others (·.1) t.groups name n
  rw [values_eq_of_perm hothers (groups_remove_perm h name), values, hfind]
  split <;> rfl

end HttpBench.FieldTable
