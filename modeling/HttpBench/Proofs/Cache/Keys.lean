import Mathlib.Data.String.Basic
import HttpBench.Http.Target

/-!
# Requests with one key

A cache key holds the header fields of a request in a canonical order. Two lists of fields have the same canonical form
exactly if one is the other in some order, once their names are in lower case (`CacheKey.canonical_eq_iff`): sorting
loses nothing but the order, and there is only one way to sort, since fields that stand before each other are equal.

So keys tell requests apart exactly by method, URL, body and fields (`Target.cacheKey_eq_iff`). Whether a connection
may be kept alive is no part of it.
-/

namespace HttpBench

namespace CacheKey

/-- A field with its name in lower case. Its value stays as it is. -/
def folded (field : String × String) : String × String := (field.1.toLower, field.2)

variable {a b : String × String} {headers headers' : List (String × String)}

theorem fieldLe_iff : fieldLe a b = true ↔ a.1 < b.1 ∨ a.1 = b.1 ∧ a.2 ≤ b.2 := by
  simp only [fieldLe, Bool.or_eq_true, Bool.and_eq_true, decide_eq_true_eq, beq_iff_eq]

theorem fieldLe_trans (a b c : String × String) (hab : fieldLe a b = true) (hbc : fieldLe b c = true) :
    fieldLe a c = true := by
  rw [fieldLe_iff] at *
  rcases hab with hab | ⟨hab, hab'⟩ <;> rcases hbc with hbc | ⟨hbc, hbc'⟩
  · exact .inl (hab.trans hbc)
  · exact .inl (hbc ▸ hab)
  · exact .inl (hab ▸ hbc)
  · exact .inr ⟨hab.trans hbc, hab'.trans hbc'⟩

theorem fieldLe_total (a b : String × String) : (fieldLe a b || fieldLe b a) = true := by
  rw [Bool.or_eq_true, fieldLe_iff, fieldLe_iff]
  rcases lt_trichotomy a.1 b.1 with hlt | heq | hgt
  · exact .inl (.inl hlt)
  · exact (le_total a.2 b.2).imp (fun hle => .inr ⟨heq, hle⟩) fun hle => .inr ⟨heq.symm, hle⟩
  · exact .inr (.inl hgt)

/-- Fields that may stand in either order are the same. -/
theorem fieldLe_antisymm (hab : fieldLe a b = true) (hba : fieldLe b a = true) : a = b := by
  rw [fieldLe_iff] at *
  rcases hab with hab | ⟨hab, hab'⟩ <;> rcases hba with hba | ⟨hba, hba'⟩
  · exact absurd hba hab.asymm
  · exact absurd hba hab.ne'
  · exact absurd hab hba.ne'
  · exact Prod.ext hab (le_antisymm hab' hba')

theorem canonical_perm (headers : List (String × String)) : (canonical headers).Perm (headers.map folded) :=
  List.mergeSort_perm _ _

theorem canonical_pairwise (headers : List (String × String)) :
    (canonical headers).Pairwise fun a b => fieldLe a b = true :=
  List.pairwise_mergeSort fieldLe_trans fieldLe_total _

/-- **One canonical form** is that of the same fields in any order, names without regard to case. -/
theorem canonical_eq_iff : canonical headers = canonical headers' ↔
    (headers.map folded).Perm (headers'.map folded) := by
  constructor
  · intro h
    exact (canonical_perm headers).symm.trans (h ▸ canonical_perm headers')
  · intro h
    have hperm : (canonical headers).Perm (canonical headers') :=
      (canonical_perm headers).trans (h.trans (canonical_perm headers').symm)
    exact hperm.eq_of_pairwise (fun _ _ _ _ => fieldLe_antisymm) (canonical_pairwise headers)
      (canonical_pairwise headers')

end CacheKey

namespace Target

/-- **Requests have one key** exactly if they agree in method, written URL and body, where no body is not an empty
one, and have the same header fields in some order: every name in lower case, every value as it is, each field as
often. -/
theorem cacheKey_eq_iff (t t' : Target) : t.cacheKey = t'.cacheKey ↔
    t.method = t'.method ∧ t.url.text = t'.url.text ∧ t.body = t'.body ∧
      (t.headers.map CacheKey.folded).Perm (t'.headers.map CacheKey.folded) := by
  rw [← CacheKey.canonical_eq_iff]
  simp only [cacheKey, CacheKey.ofRequest, CacheKey.mk.injEq]
  exact and_congr_right fun _ => and_congr_right fun _ => and_comm

end Target

end HttpBench
