import HttpBench.Proofs.Diagnosis.Findings
import HttpBench.Proofs.Diagnosis.Rules
import HttpBench.Proofs.Number.Margins
import HttpBench.Proofs.Statistics.Reordering

/-!
# Stricter limits

A table of limits is at least as strict as another one if no maximum of its is higher, no minimum is lower, and the
optional one is set where it was (`Thresholds.Stricter`). What a built-in rule then says of the same run is the same
figure against a limit at least as strict. So what was flagged is flagged again (`Finding.Tightened.flagged`), in any
doubles, infinite ones included.

It need not be as bad. A figure is critical if its distance from a limit, relative to that limit, is one or more. There
is no such distance from a maximum that is not positive, nor from an infinite minimum, and from a great minimum it may
be rounded away. These are the only cases in which a finding ranks lower with a stricter limit
(`Finding.Tightened.rank_lt_iff`, and for a whole run `Diagnosis.flagged_of_stricter`).
-/

namespace HttpBench

open Number

/-! ## Limits at least as strict -/

/-- **A limit at least as strict**: a maximum no higher, a minimum no lower. -/
def Bound.asStrict {R : Type} [Scalar R] : Bound → R → R → Bool
  | .max, limit, limit' => Scalar.le limit' limit
  | .min, limit, limit' => Scalar.le limit limit'

/-- **A table at least as strict**: each limit that the first table sets is set in the second one, at least as
strictly. -/
def Thresholds.Stricter {R : Type} [Scalar R] (t t' : Thresholds R) : Prop :=
  ∀ e ∈ limits, ∀ l ∈ e.2 t, ∃ l' ∈ e.2 t', e.1.asStrict l l' = true

instance {R : Type} [Scalar R] (t t' : Thresholds R) : Decidable (t.Stricter t') := by
  unfold Thresholds.Stricter
  infer_instance

namespace Finding

/-- **A finding whose limit is tightened**: the same figure against a limit at least as strict. -/
inductive Tightened {R : Type} [Scalar R] : Finding R → Finding R → Prop where
  | intro (rule : String) (dimension : Dimension) (label unit : String) (bound : Bound) (observed : R)
      {limit limit' : R} (h : bound.asStrict limit limit' = true) :
    Tightened (evaluate rule dimension label observed limit bound unit)
      (evaluate rule dimension label observed limit' bound unit)

/-- **What a limit is tightened to** where no figure is critical any more, or not the one that was. -/
inductive Weakened (f f' : Finding Float) : Prop where
  /-- A figure exceeds nothing by a share of what is not positive. -/
  | maximum (hbound : f.bound = .max) (hlimit : Scalar.le f'.threshold Scalar.zero = true)
  /-- The distance from an infinity by that infinity is no number. -/
  | infinite (hbound : f.bound = .min) (hlimit : Scalar.isFinite f'.threshold = false)
  /-- The distance from a limit is rounded to it where the figure is too small beside that, and below the next one. -/
  | rounded {figure bar : Rat} (hbound : f.bound = .min) (hobserved : Scalar.toRat? f.observed = some figure)
      (hlimit : Scalar.toRat? f.threshold = some bar) (hpositive : 0 < figure) (hsmall : 2 ^ 52 * figure < bar)
      (hless : Scalar.lt (f'.threshold - f.observed) f'.threshold = true)

namespace Tightened

variable {f f' : Finding Float}

/-- **What is flagged stays flagged** when its limit is tightened. -/
theorem flagged (h : f.Tightened f') (hf : f.flagged = true) : f'.flagged = true := by
  obtain ⟨_, _, _, _, bound, observed, hstrict⟩ := h
  cases bound with
  | max =>
    obtain ⟨p, q, hp, hq, hless⟩ := places_of_lt hf
    obtain ⟨p', _, hp', hp'', hle⟩ := places_of_le hstrict
    obtain rfl := Option.some.inj (hp.symm.trans hp'')
    exact (lt_iff_place hp' hq).mpr (hle.trans_lt hless)
  | min =>
    obtain ⟨p, q, hp, hq, hless⟩ := places_of_lt hf
    obtain ⟨_, q', hq'', hq', hle⟩ := places_of_le hstrict
    obtain rfl := Option.some.inj (hq.symm.trans hq'')
    exact (lt_iff_place hp hq').mpr (hless.trans_le hle)

theorem rule_eq (h : f.Tightened f') : f'.rule = f.rule := by
  cases h
  rfl

/-- Neither finding is fine if it is flagged. -/
theorem ne_ok (h : f.Tightened f') :
    (f.flagged = true → f.severity ≠ .ok) ∧ (f'.flagged = true → f'.severity ≠ .ok) := by
  cases h
  exact ⟨fun hf hok => by simp [severity_eq_ok.mp hok] at hf, fun hf hok => by simp [severity_eq_ok.mp hok] at hf⟩

end Tightened

section
variable {rule label unit : String} {dimension : Dimension} {bound : Bound} {observed limit limit' : Float}

theorem critical_double :
    (evaluate rule dimension label observed limit bound unit).severity = .critical ↔
      beyond bound observed limit = true ∧ Scalar.le limit Scalar.zero = false ∧
        Scalar.le Scalar.one (distance bound observed limit / limit) = true :=
  severity_eq_critical_iff (by decide +kernel)

/-- No distance from an infinite limit is critical. -/
theorem not_critical_of_infinite {s : Float.Model.UnpackedFloat.Sign} (hlimit : limit.toModel.unpack = .infinity s) :
    (evaluate rule dimension label observed limit bound unit).severity ≠ .critical := by
  intro hcritical
  have hone := (critical_double.mp hcritical).2.2
  rw [one_le_div_of_infinite hlimit] at hone
  cases hone

theorem not_le_zero_iff {bar : Rat} (hbar : place? limit = some bar) :
    Scalar.le limit Scalar.zero = false ↔ 0 < bar := by
  have hzero : place? (Scalar.zero : Float) = some 0 := place_of_toRat toRat_ofNat_zero
  rw [← not_le, ← le_iff_place hbar hzero, Bool.not_eq_true]

/-- **Beyond a lower maximum** a figure is critical again, as long as that is positive. -/
theorem critical_of_max (hstrict : Scalar.le limit' limit = true) (hlow : Scalar.le limit' Scalar.zero = false)
    (h : (evaluate rule dimension label observed limit .max unit).severity = .critical) :
    (evaluate rule dimension label observed limit' .max unit).severity = .critical := by
  obtain ⟨hbeyond, _, hone⟩ := critical_double.mp h
  obtain ⟨bar, figure, hbar, hfigure, hless⟩ := places_of_lt hbeyond
  obtain ⟨bar', _, hbar', hbar'', hle⟩ := places_of_le hstrict
  obtain rfl := Option.some.inj (hbar.symm.trans hbar'')
  have hpositive := (not_le_zero_iff hbar').mp hlow
  have hroom := hless.trans_le (place_le_reach hfigure)
  have hvalue := toRat_of_place hbar (hpositive.le.trans hle) hroom
  have hvalue' := toRat_of_place hbar' hpositive.le (hle.trans_lt hroom)
  obtain ⟨v, v', hv, hv', hnonneg, hmore⟩ := place_sub_le hfigure hvalue hvalue' hpositive hle hless
  rw [distance, one_le_div_iff hv hnonneg hvalue (hpositive.trans_le hle)] at hone
  refine critical_double.mpr ⟨(lt_iff_place hbar' hfigure).mpr (hle.trans_lt hless), hlow, ?_⟩
  rw [distance, one_le_div_iff hv' (hnonneg.trans hmore) hvalue' hpositive]
  exact hle.trans (hone.trans hmore)

/-- A figure that is critical below a minimum lies below one that has a value. -/
theorem minimum_of_critical {bar : Rat} (hbar : place? limit = some bar)
    (h : (evaluate rule dimension label observed limit .min unit).severity = .critical) :
    0 < bar ∧ Scalar.toRat? limit = some bar := by
  have hpositive := (not_le_zero_iff hbar).mp (critical_double.mp h).2.1
  refine ⟨hpositive, (toRat_or_reach hbar hpositive.le).resolve_right fun hinfinite => ?_⟩
  exact not_critical_of_infinite hinfinite.1 h

/-- **Below a minimum that has a value** a figure is critical exactly if its distance is no less than that value. -/
theorem critical_min_iff {figure bar : Rat} (hfigure : place? observed = some figure)
    (hbar : Scalar.toRat? limit = some bar) (hpositive : 0 < bar) (hless : figure < bar) :
    (evaluate rule dimension label observed limit .min unit).severity = .critical ↔
      Scalar.lt (limit - observed) limit = false := by
  have hplace := place_of_toRat hbar
  obtain ⟨v, hv, hnonneg, _⟩ := place_sub_of_lt hbar hfigure hpositive hless
  have hbeyond : beyond .min observed limit = true := (lt_iff_place hfigure hplace).mpr hless
  rw [critical_double, and_iff_right hbeyond, and_iff_right ((not_le_zero_iff hplace).mpr hpositive), distance,
    one_le_div_iff hv hnonneg hbar hpositive, ← not_lt, ← lt_iff_place hv hplace, Bool.not_eq_true]

/-- **Below a higher minimum** only a small figure can be critical no more. -/
theorem small_of_min {figure bar bar' : Rat} (hfigure : place? observed = some figure)
    (hbar : Scalar.toRat? limit = some bar) (hbar' : Scalar.toRat? limit' = some bar') (hpositive : 0 < bar)
    (hless : figure < bar) (hle : bar ≤ bar') (hkept : Scalar.lt (limit - observed) limit = false)
    (hlost : Scalar.lt (limit' - observed) limit' = true) :
    Scalar.toRat? observed = some figure ∧ 0 < figure ∧ 2 ^ 52 * figure < bar := by
  obtain ⟨v, hv, _, _, hsmall⟩ := place_sub_of_lt hbar hfigure hpositive hless
  obtain ⟨v', hv', _, hmore, _⟩ := place_sub_of_lt hbar' hfigure (hpositive.trans_le hle) (hless.trans_le hle)
  rw [← Bool.not_eq_true, lt_iff_place hv (place_of_toRat hbar), not_lt] at hkept
  rw [lt_iff_place hv' (place_of_toRat hbar')] at hlost
  have hsome : 0 < figure := lt_of_not_ge fun hnone => (hmore hnone).not_gt hlost
  exact ⟨toRat_of_place hfigure hsome.le (hless.trans (value_bounds hbar).2), hsome, hsmall hkept⟩

end

namespace Tightened

variable {f f' : Finding Float}

/-- **What is critical does not stay so** exactly if its limit is tightened to one of those. -/
theorem not_critical_iff (h : f.Tightened f') (hf : f.severity = .critical) :
    f'.severity ≠ .critical ↔ f.Weakened f' := by
  obtain ⟨_, _, _, _, bound, observed, hstrict⟩ := h
  cases bound with
  | max =>
    constructor
    · intro hnot
      refine .maximum rfl (by_contra fun hlow => hnot ?_)
      exact critical_of_max hstrict (Bool.not_eq_true _ ▸ hlow) hf
    · rintro (⟨_, hlow⟩ | ⟨hbound, _⟩ | ⟨hbound, _⟩)
      · intro hcritical
        have hnot := (critical_double.mp hcritical).2.1
        exact Bool.false_ne_true (hnot.symm.trans hlow)
      · cases hbound
      · cases hbound
  | min =>
    obtain ⟨figure, bar, hfigure, hbar, hless⟩ := places_of_lt (critical_double.mp hf).1
    obtain ⟨_, bar', hbar'', hbar', hle⟩ := places_of_le hstrict
    obtain rfl := Option.some.inj (hbar.symm.trans hbar'')
    obtain ⟨hpositive, hvalue⟩ := minimum_of_critical hbar hf
    rcases toRat_or_reach hbar' (hpositive.le.trans hle) with hvalue' | ⟨hinfinite, _⟩
    · have hkept := (critical_min_iff hfigure hvalue hpositive hless).mp hf
      rw [ne_eq, critical_min_iff hfigure hvalue' (hpositive.trans_le hle) (hless.trans_le hle), Bool.not_eq_false]
      constructor
      · intro hlost
        obtain ⟨hobserved, hsome, hsmall⟩ := small_of_min hfigure hvalue hvalue' hpositive hless hle hkept hlost
        exact .rounded rfl hobserved hvalue hsome hsmall hlost
      · rintro (⟨hbound, _⟩ | ⟨_, hinfinite⟩ | ⟨_, _, _, _, _, hlost⟩)
        · cases hbound
        · simp [evaluate, Scalar.isFinite, hvalue'] at hinfinite
        · exact hlost
    · refine iff_of_true (not_critical_of_infinite hinfinite) (.infinite rfl ?_)
      show (Scalar.toRat? _).isSome = false
      rw [toRat_eq, evaluate, hinfinite]
      rfl

/-- **A finding ranks lower** with a stricter limit only if it was critical, and its limit is tightened to one of
those. -/
theorem rank_lt_iff (h : f.Tightened f') (hf : f.flagged = true) :
    f'.severity.rank < f.severity.rank ↔ f.severity = .critical ∧ f.Weakened f' := by
  have hfine := h.ne_ok.1 hf
  have hfine' := h.ne_ok.2 (h.flagged hf)
  cases hseverity : f.severity with
  | ok => exact absurd hseverity hfine
  | warning =>
    refine iff_of_false ?_ (by simp)
    cases hseverity' : f'.severity with
    | ok => exact absurd hseverity' hfine'
    | warning => decide
    | critical => decide
  | critical =>
    have hlt : f'.severity.rank < Severity.critical.rank ↔ f'.severity ≠ .critical := by
      cases f'.severity <;> decide
    rw [hlt, h.not_critical_iff hseverity]
    exact (and_iff_right rfl).symm

end Tightened

/-- A half is rounded up from one minimum and rounded away from the next, and nothing is critical below an infinite
one. -/
example :
    let severity := fun limit : Float =>
      (evaluate "connection_reuse" .network "Connection reuse poor" (Scalar.quotient 1 2) limit .min "%").severity
    severity (ofInt (2 ^ 53 - 2)) = .critical ∧ severity (ofInt (2 ^ 53 - 1)) = .warning ∧
      severity (Scalar.one / Scalar.zero) = .warning := by decide +kernel

end Finding

/-! ## Diagnoses -/

namespace Rule

/-- **A built-in rule says the same with a stricter table**: what it finds has its limit tightened. -/
theorem exists_tightened {R : Type} [Scalar R] {rule : Rule R} {s : RunStatistics R} {context : RunContext R}
    {t t' : Thresholds R} {f : Finding R} (hrule : rule ∈ standard) (ht : t.Stricter t')
    (hf : rule.evaluate s context t = some f) : ∃ f', rule.evaluate s context t' = some f' ∧ f.Tightened f' := by
  obtain ⟨bound, limit, hmem, hcompares⟩ := compares_of_standard hrule s context
  obtain ⟨dimension, label, unit, x, l, _, hl, rfl, hevaluate⟩ := hcompares.exists_finding hf
  obtain ⟨l', hl', hstrict⟩ := ht _ hmem l hl
  exact ⟨_, hevaluate t' l' hl', .intro _ _ _ _ _ _ hstrict⟩

end Rule

namespace Diagnosis

/-- **Stricter limits flag no less.** Take any figures of a run, any context and any built-in rules. What is flagged with
one table of limits is flagged by the same rule with every stricter one. Its severity is no lower either, but where it
was critical and its limit is tightened to one that is no measure of its distance any more. -/
theorem flagged_of_stricter {rules : List (Rule Float)} (hrules : ∀ rule ∈ rules, rule ∈ Rule.standard)
    {t t' : Thresholds Float} (ht : t.Stricter t') (s : RunStatistics Float) (context : RunContext Float) :
    ∀ f ∈ (ofRules rules s context t).flagged,
      ∃ f' ∈ (ofRules rules s context t').flagged, f'.rule = f.rule ∧ f.Tightened f' ∧
        (f'.severity.rank < f.severity.rank ↔ f.severity = .critical ∧ f.Weakened f') := by
  intro f hf
  obtain ⟨rule, hrule, hevaluate, hflagged⟩ := mem_flagged.mp hf
  obtain ⟨f', hevaluate', htightened⟩ := Rule.exists_tightened (hrules rule hrule) ht hevaluate
  exact ⟨f', mem_flagged.mpr ⟨rule, hrule, hevaluate', htightened.flagged hflagged⟩, htightened.rule_eq, htightened,
    htightened.rank_lt_iff hflagged⟩

/-- Where all requests fail, that is critical with the usual limit, and with a stricter one that is positive too. -/
theorem flagged_of_stricter_of_one :
    let failed := RunStatistics.sampleOf 0 0 (.transportError (.dns "no such host")) {} false
    let strict : Thresholds Float := { Thresholds.standard with maxErrorRate := Scalar.quotient 1 100 }
    Thresholds.standard.Stricter strict ∧
      ∃ s : RunStatistics Float, RunStatistics.ofSamples [failed] (.seconds 1) = .ok s ∧
        ∃ f ∈ (ofRules Rule.standard s {} .standard).flagged, f.rule = "error_rate" ∧ f.severity = .critical ∧
          ∃ f' ∈ (ofRules Rule.standard s {} strict).flagged, f'.rule = "error_rate" ∧ f'.severity = .critical ∧
            f.Tightened f' ∧ ¬f.Weakened f' := by
  intro failed strict
  have hstrict : Thresholds.standard.Stricter strict := by decide +kernel
  have hrun : (match (RunStatistics.ofSamples [failed] (.seconds 1) : Except Fault (RunStatistics Float)) with
      | .ok s =>
        ((ofRules Rule.standard s {} .standard).flagged.any fun f =>
          f.rule == "error_rate" && f.severity == .critical) &&
        (ofRules Rule.standard s {} strict).flagged.all fun f => f.severity == .critical
      | .error _ => false) = true := by decide +kernel
  split at hrun
  next s hs =>
    obtain ⟨hany, hall⟩ := Bool.and_eq_true_iff.mp hrun
    obtain ⟨f, hf, hfound⟩ := List.any_eq_true.mp hany
    obtain ⟨hrule, hcritical⟩ := Bool.and_eq_true_iff.mp hfound
    obtain ⟨f', hf', hrule', htightened, hrank⟩ := flagged_of_stricter (fun _ h => h) hstrict s {} f hf
    have hcritical' : f'.severity = .critical := eq_of_beq (List.all_eq_true.mp hall f' hf')
    refine ⟨hstrict, s, hs, f, hf, eq_of_beq hrule, eq_of_beq hcritical, f', hf', hrule'.trans (eq_of_beq hrule),
      hcritical', htightened, fun hweakened => ?_⟩
    have hlower := hrank.mpr ⟨eq_of_beq hcritical, hweakened⟩
    rw [hcritical', eq_of_beq hcritical] at hlower
    exact absurd hlower (lt_irrefl _)
  next => cases hrun

/-- **A maximum of zero ranks lower.** Where all requests fail, that is critical with the usual limit, and a warning if
none may fail. -/
theorem severity_falls_of_zero :
    let failed := RunStatistics.sampleOf 0 0 (.transportError (.dns "no such host")) {} false
    let strict : Thresholds Float := { Thresholds.standard with maxErrorRate := Scalar.zero }
    Thresholds.standard.Stricter strict ∧
      ∃ s : RunStatistics Float, RunStatistics.ofSamples [failed] (.seconds 1) = .ok s ∧
        (ofRules Rule.standard s {} .standard).flagged.map (fun f => (f.rule, f.severity)) =
          [("error_rate", .critical)] ∧
        (ofRules Rule.standard s {} strict).flagged.map (fun f => (f.rule, f.severity)) =
          [("error_rate", .warning)] := by
  intro failed strict
  refine ⟨by decide +kernel, ?_⟩
  have hrun : (match (RunStatistics.ofSamples [failed] (.seconds 1) : Except Fault (RunStatistics Float)) with
      | .ok s => decide ((ofRules Rule.standard s {} .standard).flagged.map (fun f => (f.rule, f.severity)) =
          [("error_rate", .critical)] ∧
        (ofRules Rule.standard s {} strict).flagged.map (fun f => (f.rule, f.severity)) = [("error_rate", .warning)])
      | .error _ => false) = true := by decide +kernel
  split at hrun
  next s hs => exact ⟨s, hs, of_decide_eq_true hrun⟩
  next => cases hrun

end Diagnosis

end HttpBench
