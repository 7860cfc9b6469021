import Mathlib.Tactic.Linarith
import HttpBench.Diagnosis.Basic
import HttpBench.Proofs.Statistics.Percentiles

/-!
# Findings in exact arithmetic

In exact arithmetic a finding says of a figure and its limit what is so of the rationals that they are. It is flagged
if the figure lies beyond the limit at all (`Finding.flagged_exact`), and critical if it lies beyond a positive limit
by at least that limit (`Finding.critical_exact`).

A diagnosis flags the findings of its rules that are flagged, and ranking them neither adds one nor leaves one out
(`Diagnosis.mem_flagged`).
-/

namespace HttpBench

open Number

theorem Number.toRat_one {R : Type} [Scalar R] [Exact R] : Scalar.toRat? (Scalar.one : R) = some 1 := by
  rw [Scalar.one, Exact.toRat_ofInt, Int.cast_one]

/-- How far a figure lies beyond its limit; negative within it. -/
def Bound.excess : Bound → Rat → Rat → Rat
  | .max, figure, limit => figure - limit
  | .min, figure, limit => limit - figure

namespace Finding

variable {R : Type} [Scalar R] {rule label unit : String} {dimension : Dimension} {bound : Bound}
  {observed limit : R} {figure bar : Rat}

/-- A finding is fine exactly if it is not flagged. -/
theorem severity_eq_ok : (evaluate rule dimension label observed limit bound unit).severity = .ok ↔
    (evaluate rule dimension label observed limit bound unit).flagged = false := by
  cases hflagged : beyond bound observed limit
  · simp [evaluate, hflagged]
  · simp only [evaluate, hflagged, Bool.not_true, Bool.false_eq_true, if_false, Bool.true_eq_false, iff_false]
    split_ifs <;> simp

/-- A finding is critical exactly if it is flagged and exceeds its limit by the whole of it. -/
theorem severity_eq_critical : (evaluate rule dimension label observed limit bound unit).severity = .critical ↔
    (evaluate rule dimension label observed limit bound unit).flagged = true ∧
      Scalar.le Scalar.one (evaluate rule dimension label observed limit bound unit).exceedance = true := by
  cases hflagged : beyond bound observed limit
  · simp [evaluate, hflagged]
  · simp only [evaluate, hflagged, Bool.not_true, Bool.false_eq_true, if_false, true_and]
    split_ifs <;> simp_all

/-- A critical figure lies beyond a positive limit, and its distance by the limit is at least one. -/
theorem severity_eq_critical_iff (hzero : Scalar.le (Scalar.one : R) Scalar.zero = false) :
    (evaluate rule dimension label observed limit bound unit).severity = .critical ↔
      beyond bound observed limit = true ∧ Scalar.le limit Scalar.zero = false ∧
        Scalar.le Scalar.one (distance bound observed limit / limit) = true := by
  rw [severity_eq_critical]
  simp only [evaluate]
  cases beyond bound observed limit <;> cases Scalar.le limit Scalar.zero <;> simp [hzero]

section
variable [ExactArithmetic R] (hobserved : Scalar.toRat? observed = some figure)
  (hlimit : Scalar.toRat? limit = some bar)
include hobserved hlimit

theorem beyond_exact : beyond bound observed limit = true ↔ 0 < bound.excess figure bar := by
  cases bound with
  | max => exact (Exact.lt_iff hlimit hobserved).trans sub_pos.symm
  | min => exact (Exact.lt_iff hobserved hlimit).trans sub_pos.symm

/-- **A finding is flagged** exactly if its figure lies beyond its limit. -/
theorem flagged_exact : (evaluate rule dimension label observed limit bound unit).flagged = true ↔
    0 < bound.excess figure bar := beyond_exact hobserved hlimit

theorem distance_exact : Scalar.toRat? (distance bound observed limit) = some (bound.excess figure bar) := by
  cases bound with
  | max => exact ExactArithmetic.toRat_sub hobserved hlimit
  | min => exact ExactArithmetic.toRat_sub hlimit hobserved

/-- Only a positive limit is exceeded by a share of itself. -/
theorem exceedance_exact : Scalar.toRat? (evaluate rule dimension label observed limit bound unit).exceedance =
    some (if 0 < bound.excess figure bar ∧ 0 < bar then bound.excess figure bar / bar else 0) := by
  have hlow : Scalar.le limit Scalar.zero = true ↔ bar ≤ 0 := ExactArithmetic.le_iff hlimit (toRat_ofNat 0)
  have hguard : (!beyond bound observed limit || Scalar.le limit Scalar.zero) = true ↔
      ¬(0 < bound.excess figure bar ∧ 0 < bar) := by
    rw [Bool.or_eq_true, Bool.not_eq_true', ← Bool.not_eq_true, beyond_exact hobserved hlimit, hlow,
      not_and_or, not_lt (b := bar)]
  simp only [evaluate]
  by_cases h : 0 < bound.excess figure bar ∧ 0 < bar
  · rw [if_neg (hguard.not.mpr (not_not.mpr h)), if_pos h]
    exact Exact.toRat_div (distance_exact hobserved hlimit) hlimit h.2.ne'
  · rw [if_pos (hguard.mpr h), if_neg h]
    exact toRat_ofNat 0

/-- **A finding is critical** exactly if its figure lies beyond a positive limit by at least that limit. -/
theorem critical_exact : (evaluate rule dimension label observed limit bound unit).severity = .critical ↔
    0 < bar ∧ bar ≤ bound.excess figure bar := by
  rw [severity_eq_critical, flagged_exact hobserved hlimit,
    ExactArithmetic.le_iff toRat_one (exceedance_exact hobserved hlimit)]
  constructor
  · rintro ⟨hbeyond, hle⟩
    split at hle
    next h => exact ⟨h.2, (one_le_div₀ h.2).mp hle⟩
    next => exact absurd hle (by norm_num)
  · rintro ⟨hbar, hle⟩
    have hbeyond := hbar.trans_le hle
    rw [if_pos ⟨hbeyond, hbar⟩, one_le_div₀ hbar]
    exact ⟨hbeyond, hle⟩

end

end Finding

/-! ## Flagged findings -/

namespace Finding

variable {R : Type} [Scalar R]

theorem insertRanked_perm (f : Finding R) (ranked : List (Finding R)) : (insertRanked f ranked).Perm (f :: ranked) := by
  induction ranked with
  | nil => exact .refl _
  | cons last rest ih =>
    unfold insertRanked
    split
    · exact (ih.cons last).trans (.swap _ _ _)
    · exact .refl _

/-- **A ranking** has the findings that are ranked. -/
theorem ranking_perm (findings : List (Finding R)) : (ranking findings).Perm findings := by
  have hfold : ∀ ranked : List (Finding R),
      (findings.foldl (fun ranked f => insertRanked f ranked) ranked).Perm (findings ++ ranked) := by
    induction findings with
    | nil => exact fun ranked => .refl _
    | cons f findings ih =>
      exact fun ranked => (ih _).trans (((insertRanked_perm f ranked).append_left findings).trans List.perm_middle)
  rw [ranking]
  exact (List.reverse_perm _).trans (by simpa using hfold [])

end Finding

namespace Diagnosis

variable {R : Type} [Scalar R] {rules : List (Rule R)} {s : RunStatistics R} {context : RunContext R}
  {t : Thresholds R} {f : Finding R}

/-- **The flagged findings** are those of the rules that are flagged. -/
theorem mem_flagged : f ∈ (ofRules rules s context t).flagged ↔
    ∃ rule ∈ rules, rule.evaluate s context t = some f ∧ f.flagged = true := by
  simp only [ofRules, (Finding.ranking_perm _).mem_iff, List.mem_filter, List.mem_filterMap, List.mem_map]
  constructor
  · rintro ⟨⟨_, ⟨rule, hrule, rfl⟩, hf⟩, hflagged⟩
    exact ⟨rule, hrule, hf, hflagged⟩
  · rintro ⟨rule, hrule, hf, hflagged⟩
    exact ⟨⟨_, ⟨rule, hrule, rfl⟩, hf⟩, hflagged⟩

theorem mem_flagged_of_evaluate {rule : Rule R} (hrule : rule ∈ rules) (h : rule.evaluate s context t = some f) :
    f ∈ (ofRules rules s context t).flagged ↔ f.flagged = true := by
  rw [mem_flagged]
  exact ⟨fun ⟨_, _, _, hflagged⟩ => hflagged, fun hflagged => ⟨rule, hrule, h, hflagged⟩⟩

end Diagnosis

end HttpBench
