import HttpBench.Proofs.Diagnosis.Findings
import HttpBench.Proofs.Diagnosis.Rules

/-!
# Ranked findings

A ranking asks for the severity of two findings first, and for their exceedances only where the severities are equal.
Of findings that `Finding.evaluate` makes of finite figures that is no different from asking for the exceedances alone,
since a severity is read off the exceedance: what is flagged is critical from one on (`Finding.Rankable.ahead_iff`).
So the exceedance falls all the way through a ranking, and findings of one exceedance keep their order
(`Finding.isRanking_ranking`).

A diagnosis sends every rule one of two ways, and ranks what is flagged (`Diagnosis.ofRules_ranked`). To list the rules
in another order moves a flagged finding only among those of its exceedance.

The built-in rules are such that this holds of them (`Rule.evaluates_of_standard`), with the statistics of any samples
(`Rule.evaluates_of_samples`). Nothing is said of a rule whose finding is made in another way: it could have any
severity with any exceedance.
-/

namespace HttpBench

open Number

namespace Finding

variable {R : Type} [Scalar R]

/-- **A finding of finite figures**, as `evaluate` makes it. -/
inductive Evaluated : Finding R → Prop where
  | intro (rule : String) (dimension : Dimension) (label unit : String) (bound : Bound) {observed limit : R}
      (hobserved : Scalar.isFinite observed = true) (hlimit : Scalar.isFinite limit = true) :
    Evaluated (evaluate rule dimension label observed limit bound unit)

/-- **A finding that can be ranked**: it is flagged, and of finite figures. -/
structure Rankable (f : Finding R) : Prop where
  evaluated : f.Evaluated
  flagged : f.flagged = true

/-- The exceedance is this rational. -/
def exceedsBy (q : Rat) (f : Finding R) : Bool := Scalar.toRat? f.exceedance = some q

/-- The exceedance as a rational. -/
def degree (f : Finding R) : Rat := (Scalar.toRat? f.exceedance).getD 0

/-! ## One order -/

section
variable [ExactArithmetic R] {a b f : Finding R}

theorem Evaluated.toRat_exceedance (h : f.Evaluated) : Scalar.toRat? f.exceedance = some f.degree := by
  obtain ⟨_, _, _, _, _, hobserved, hlimit⟩ := h
  obtain ⟨figure, hfigure⟩ := Option.isSome_iff_exists.mp hobserved
  obtain ⟨bar, hbar⟩ := Option.isSome_iff_exists.mp hlimit
  rw [degree, exceedance_exact hfigure hbar]
  rfl

theorem Evaluated.exceedsBy_iff (h : f.Evaluated) (q : Rat) : f.exceedsBy q = true ↔ f.degree = q := by
  rw [exceedsBy, decide_eq_true_iff, h.toRat_exceedance, Option.some_inj]

/-- **What is flagged is critical** from an exceedance of one on, and a warning below. -/
theorem Rankable.severity_eq (h : f.Rankable) : f.severity = if 1 ≤ f.degree then .critical else .warning := by
  have hle : Scalar.le Scalar.one f.exceedance = true ↔ 1 ≤ f.degree :=
    ExactArithmetic.le_iff toRat_one h.evaluated.toRat_exceedance
  have hcritical : f.severity = .critical ↔ 1 ≤ f.degree := by
    rw [← hle]
    obtain ⟨⟨⟩, hflagged⟩ := h
    rw [severity_eq_critical, and_iff_right hflagged]
  have hfine : f.severity ≠ .ok := by
    obtain ⟨⟨⟩, hflagged⟩ := h
    rw [ne_eq, severity_eq_ok, hflagged]
    decide
  split
  next hone => exact hcritical.mpr hone
  next hone =>
    cases hseverity : f.severity with
    | ok => exact absurd hseverity hfine
    | warning => rfl
    | critical => exact absurd (hcritical.mp hseverity) hone

/-- **To be ranked ahead** is to have the greater exceedance. -/
theorem Rankable.ahead_iff (ha : a.Rankable) (hb : b.Rankable) : a.ahead b = true ↔ b.degree < a.degree := by
  have hlt : Scalar.lt b.exceedance a.exceedance = true ↔ b.degree < a.degree :=
    Exact.lt_iff hb.evaluated.toRat_exceedance ha.evaluated.toRat_exceedance
  simp only [ahead, Bool.or_eq_true, Bool.and_eq_true, decide_eq_true_eq, beq_iff_eq, hlt, ha.severity_eq,
    hb.severity_eq]
  by_cases hone : 1 ≤ a.degree <;> by_cases hone' : 1 ≤ b.degree
  · simp [hone, hone', Severity.rank]
  · simpa [hone, hone', Severity.rank] using (not_le.mp hone').trans_le hone
  · simpa [hone, hone', Severity.rank] using (not_le.mp hone).le.trans hone'
  · simp [hone, hone', Severity.rank]

end

/-! ## Rankings -/

/-- **A ranking of findings.** -/
structure IsRanking (ranked findings : List (Finding R)) : Prop where
  perm : ranked.Perm findings
  /-- no exceedance is greater than one before it -/
  descending : ranked.Pairwise fun a b => Scalar.le b.exceedance a.exceedance = true
  fine : ∀ f ∈ ranked, f.severity ≠ .ok
  /-- no warning stands before what is critical -/
  critical_first : ranked.Pairwise fun a b => ¬(a.severity = .warning ∧ b.severity = .critical)
  /-- findings of one exceedance keep their order -/
  ties : ∀ q, ranked.filter (exceedsBy q) = findings.filter (exceedsBy q)

/-- **Alike but for ties**: every place has the same exceedance, and each exceedance the same findings. -/
structure AlikeButTies (ranked ranked' : List (Finding R)) : Prop where
  places : (ranked.map fun f => Scalar.toRat? f.exceedance) = ranked'.map fun f => Scalar.toRat? f.exceedance
  findings : ∀ q, (ranked.filter (exceedsBy q)).Perm (ranked'.filter (exceedsBy q))

section
variable [ExactArithmetic R] {f : Finding R} {findings ranked ranked' : List (Finding R)}

theorem pairwise_insertRanked (hf : f.Rankable) (hranked : ∀ x ∈ ranked, x.Rankable)
    (h : ranked.Pairwise fun a b => a.degree ≤ b.degree) :
    (insertRanked f ranked).Pairwise fun a b => a.degree ≤ b.degree := by
  induction ranked with
  | nil => exact List.pairwise_singleton _ _
  | cons last rest ih =>
    obtain ⟨hlast, hrest⟩ := List.forall_mem_cons.mp hranked
    obtain ⟨hle, h⟩ := List.pairwise_cons.mp h
    unfold insertRanked
    split
    next hahead =>
      refine List.pairwise_cons.mpr ⟨fun x hx => ?_, ih hrest h⟩
      rcases List.mem_cons.mp ((insertRanked_perm f rest).mem_iff.mp hx) with rfl | hx
      · exact ((hf.ahead_iff hlast).mp hahead).le
      · exact hle x hx
    next hahead =>
      have hbefore : f.degree ≤ last.degree := not_lt.mp (mt (hf.ahead_iff hlast).mpr hahead)
      exact List.pairwise_cons.mpr
        ⟨List.forall_mem_cons.mpr ⟨hbefore, fun x hx => hbefore.trans (hle x hx)⟩, List.pairwise_cons.mpr ⟨hle, h⟩⟩

/-- A finding only passes those of another exceedance. -/
theorem filter_insertRanked (hf : f.Rankable) (hranked : ∀ x ∈ ranked, x.Rankable) (q : Rat) :
    (insertRanked f ranked).filter (exceedsBy q) = (f :: ranked).filter (exceedsBy q) := by
  induction ranked with
  | nil => rfl
  | cons last rest ih =>
    obtain ⟨hlast, hrest⟩ := List.forall_mem_cons.mp hranked
    unfold insertRanked
    split
    next hahead =>
      have hlt := (hf.ahead_iff hlast).mp hahead
      rw [List.filter_cons, ih hrest]
      by_cases hq : f.exceedsBy q = true
      · have hq' : ¬last.exceedsBy q = true := fun hq' =>
          hlt.ne (((hlast.evaluated.exceedsBy_iff q).mp hq').trans ((hf.evaluated.exceedsBy_iff q).mp hq).symm)
        simp [hq, hq']
      · simp [List.filter_cons, hq]
    next => rfl

/-- What is ranked in reverse, while more and more findings are inserted. -/
theorem foldl_insertRanked (hfindings : ∀ f ∈ findings, f.Rankable) (hranked : ∀ f ∈ ranked, f.Rankable)
    (h : ranked.Pairwise fun a b => a.degree ≤ b.degree) :
    (findings.foldl (fun ranked f => insertRanked f ranked) ranked).Pairwise (fun a b => a.degree ≤ b.degree) ∧
      ∀ q, (findings.foldl (fun ranked f => insertRanked f ranked) ranked).filter (exceedsBy q) =
        (findings.reverse ++ ranked).filter (exceedsBy q) := by
  induction findings generalizing ranked with
  | nil => exact ⟨h, fun q => rfl⟩
  | cons f findings ih =>
    obtain ⟨hf, hfindings⟩ := List.forall_mem_cons.mp hfindings
    have hinserted : ∀ x ∈ insertRanked f ranked, x.Rankable := fun x hx =>
      List.forall_mem_cons.mpr ⟨hf, hranked⟩ x ((insertRanked_perm f ranked).mem_iff.mp hx)
    obtain ⟨hpairwise, hfilter⟩ := ih hfindings hinserted (pairwise_insertRanked hf hranked h)
    refine ⟨hpairwise, fun q => (hfilter q).trans ?_⟩
    rw [List.filter_append, filter_insertRanked hf hranked, ← List.filter_append, List.reverse_cons,
      List.append_assoc, List.singleton_append]

/-- **Findings of finite figures are ranked** by their exceedance. -/
theorem isRanking_ranking (hfindings : ∀ f ∈ findings, f.Rankable) : IsRanking (ranking findings) findings := by
  have hrankable : ∀ f ∈ ranking findings, f.Rankable := fun f hf =>
    hfindings f ((ranking_perm findings).mem_iff.mp hf)
  obtain ⟨hpairwise, hfilter⟩ := foldl_insertRanked hfindings (List.forall_mem_nil Rankable) List.Pairwise.nil
  have hdegrees : (ranking findings).Pairwise fun a b => b.degree ≤ a.degree := List.pairwise_reverse.mpr hpairwise
  refine ⟨ranking_perm findings, ?_, fun f hf => ?_, ?_, fun q => ?_⟩
  · refine hdegrees.imp_of_mem fun ha hb hle => ?_
    exact (ExactArithmetic.le_iff (hrankable _ hb).evaluated.toRat_exceedance
      (hrankable _ ha).evaluated.toRat_exceedance).mpr hle
  · rw [(hrankable f hf).severity_eq]
    split <;> decide
  · refine hdegrees.imp_of_mem fun {a b} ha hb hle => ?_
    rintro ⟨hwarning, hcritical⟩
    rw [(hrankable a ha).severity_eq, ite_eq_right_iff] at hwarning
    rw [(hrankable b hb).severity_eq, ite_eq_left_iff] at hcritical
    by_cases hone : 1 ≤ b.degree
    · cases hwarning (hone.trans hle)
    · cases hcritical hone
  · rw [ranking, List.filter_reverse, hfilter q, List.append_nil, List.filter_reverse, List.reverse_reverse]

/-- **Rankings of the same findings** in two orders. -/
theorem IsRanking.alike {findings' : List (Finding R)} (h : IsRanking ranked findings)
    (h' : IsRanking ranked' findings') (hperm : findings.Perm findings') (hfindings : ∀ f ∈ findings, f.Rankable) :
    AlikeButTies ranked ranked' := by
  have hranked : ranked.Perm ranked' := h.perm.trans (hperm.trans h'.perm.symm)
  have hrankable : ∀ f ∈ ranked, f.Rankable := fun f hf => hfindings f (h.perm.mem_iff.mp hf)
  have hdegrees : ∀ {l : List (Finding R)}, (∀ f ∈ l, f.Rankable) →
      (l.Pairwise fun a b => Scalar.le b.exceedance a.exceedance = true) →
      (l.map degree).Pairwise (fun p q => q ≤ p) := fun hl hdescending =>
    List.pairwise_map.mpr <| hdescending.imp_of_mem fun ha hb hle =>
      (ExactArithmetic.le_iff (hl _ hb).evaluated.toRat_exceedance (hl _ ha).evaluated.toRat_exceedance).mp hle
  have hrankable' : ∀ f ∈ ranked', f.Rankable := fun f hf => hrankable f (hranked.mem_iff.mpr hf)
  have heq : ranked.map degree = ranked'.map degree :=
    (hranked.map degree).eq_of_pairwise (fun p q _ _ hle hge => le_antisymm hge hle)
      (hdegrees hrankable h.descending) (hdegrees hrankable' h'.descending)
  have hplaces : ∀ {l : List (Finding R)}, (∀ f ∈ l, f.Rankable) →
      (l.map fun f => Scalar.toRat? f.exceedance) = (l.map degree).map some := fun hl => by
    rw [List.map_map]
    exact List.map_congr_left fun f hf => (hl f hf).evaluated.toRat_exceedance
  exact ⟨by rw [hplaces hrankable, hplaces hrankable', heq], fun q => hranked.filter _⟩

end

end Finding

/-! ## Rules -/

namespace Rule

variable {R : Type} [Scalar R] {rule : Rule R} {s : RunStatistics R} {context : RunContext R} {t : Thresholds R}

/-- **What the rule finds comes from `Finding.evaluate`**, and its figures are finite. -/
def Evaluates (rule : Rule R) (s : RunStatistics R) (context : RunContext R) (t : Thresholds R) : Prop :=
  ∀ f, rule.evaluate s context t = some f → f.Evaluated

/-- **The built-in rules** do so wherever the figures and the limits are finite. -/
theorem evaluates_of_standard (hs : ∀ x, s.IsFigure context x → Scalar.isFinite x = true)
    (ht : ∀ e ∈ Thresholds.limits, ∀ l ∈ e.2 t, Scalar.isFinite l = true) (hrule : rule ∈ standard) :
    rule.Evaluates s context t := by
  intro f hf
  obtain ⟨bound, limit, hmem, hcompares⟩ := compares_of_standard hrule s context
  obtain ⟨_, _, _, x, l, hx, hl, rfl, _⟩ := hcompares.exists_finding hf
  exact .intro _ _ _ _ _ (hs x hx) (ht _ hmem l hl)

/-- So they do for the statistics of any samples. -/
theorem evaluates_of_samples [ExactArithmetic R] [FiniteRoots R] {samples : List Sample} {elapsed : Duration}
    (hs : s.IsOf samples elapsed) (ht : ∀ e ∈ Thresholds.limits, ∀ l ∈ e.2 t, Scalar.isFinite l = true) :
    ∀ rule ∈ standard, rule.Evaluates s context t :=
  fun _ hrule => evaluates_of_standard (fun _ hx => hs.isFinite_figure hx) ht hrule

end Rule

/-! ## Diagnoses -/

namespace Diagnosis

variable {R : Type} [Scalar R] {rules rules' : List (Rule R)} {s : RunStatistics R} {context : RunContext R}
  {t : Thresholds R}

/-- **Every rule goes one of two ways**: in the order of the rules there is a finding or a skipped name for each. -/
inductive Divides (s : RunStatistics R) (context : RunContext R) (t : Thresholds R) :
    List (Rule R) → List (Finding R) → List String → Prop where
  | nil : Divides s context t [] [] []
  | found {rule : Rule R} {f : Finding R} {rules findings skipped} (hrule : rule.evaluate s context t = some f)
      (hrest : Divides s context t rules findings skipped) : Divides s context t (rule :: rules) (f :: findings) skipped
  | skipped {rule : Rule R} {rules findings skipped} (hrule : rule.evaluate s context t = none)
      (hrest : Divides s context t rules findings skipped) :
    Divides s context t (rule :: rules) findings (rule.name :: skipped)

theorem findings_ofRules : (ofRules rules s context t).findings = rules.filterMap (·.evaluate s context t) :=
  List.filterMap_map

theorem divides_ofRules :
    Divides s context t rules (ofRules rules s context t).findings (ofRules rules s context t).skipped := by
  induction rules with
  | nil => exact .nil
  | cons rule rules ih =>
    cases hrule : rule.evaluate s context t with
    | some f =>
      have hfindings : (ofRules (rule :: rules) s context t).findings = f :: (ofRules rules s context t).findings := by
        simp [findings_ofRules, hrule]
      have hskipped : (ofRules (rule :: rules) s context t).skipped = (ofRules rules s context t).skipped := by
        simp [ofRules, hrule]
      rw [hfindings, hskipped]
      exact .found hrule ih
    | none =>
      have hfindings : (ofRules (rule :: rules) s context t).findings = (ofRules rules s context t).findings := by
        simp [findings_ofRules, hrule]
      have hskipped : (ofRules (rule :: rules) s context t).skipped =
          rule.name :: (ofRules rules s context t).skipped := by
        simp [ofRules, hrule]
      rw [hfindings, hskipped]
      exact .skipped hrule ih

/-- What is flagged of the findings of such rules can be ranked. -/
theorem rankable_of_flagged (hrules : ∀ rule ∈ rules, rule.Evaluates s context t) :
    ∀ f ∈ (ofRules rules s context t).findings.filter (·.flagged), f.Rankable := by
  intro f hf
  obtain ⟨hf, hflagged⟩ := List.mem_filter.mp hf
  rw [findings_ofRules] at hf
  obtain ⟨rule, hrule, hevaluate⟩ := List.mem_filterMap.mp hf
  exact ⟨hrules rule hrule f hevaluate, hflagged⟩

/-- **A diagnosis leaves no rule out and ranks what is flagged.** Take any rules, built-in or not, whose findings come
from `Finding.evaluate` with finite figures. Each of them is once among the findings or among the skipped, in the order
of the rules. The flagged findings are ranked, and the summary has the same order. The same rules in any other order
flag the same findings, and only those of equal exceedance may change places. -/
theorem ofRules_ranked [ExactArithmetic R] (hrules : ∀ rule ∈ rules, rule.Evaluates s context t) :
    let d := ofRules rules s context t
    Divides s context t rules d.findings d.skipped ∧
      Finding.IsRanking d.flagged (d.findings.filter (·.flagged)) ∧
      d.summary = d.flagged.map Finding.text ∧
      ∀ rules', rules'.Perm rules → Finding.AlikeButTies (ofRules rules' s context t).flagged d.flagged := by
  have hranking : ∀ {rules : List (Rule R)}, (∀ rule ∈ rules, rule.Evaluates s context t) →
      Finding.IsRanking (ofRules rules s context t).flagged ((ofRules rules s context t).findings.filter (·.flagged)) :=
    fun hrules => Finding.isRanking_ranking (rankable_of_flagged hrules)
  refine ⟨divides_ofRules, hranking hrules, rfl, fun rules' hperm => ?_⟩
  have hrules' : ∀ rule ∈ rules', rule.Evaluates s context t := fun rule hrule =>
    hrules rule (hperm.mem_iff.mp hrule)
  refine (hranking hrules').alike (hranking hrules) ?_ (rankable_of_flagged hrules')
  rw [findings_ofRules, findings_ofRules]
  exact (hperm.filterMap _).filter _

/-- Behind a maximum of zero a figure exceeds by nothing, and is flagged all the same: it comes last. Reuse and cache
fall short by half of their limits, so they stand in the order of their rules. -/
theorem ofRules_ranked_of_four :
    let queue : Rule Rat := ⟨"queue", fun _ _ _ => some (.evaluate "queue" .application "Requests queued" 3 0 .max "")⟩
    let s : RunStatistics Rat :=
      { (default : RunStatistics Rat) with
        samples := 4, errorRate := 1 / 10, cacheHitRatio := 1 / 10, reuseRatio := some (1 / 4), reuseKnown := 4 }
    let context : RunContext Rat := { cacheEnabled := true }
    let rules := queue :: Rule.standard
    let names := fun rules : List (Rule Rat) =>
      (ofRules rules s context .standard).flagged.map fun f => (f.rule, f.severity, f.exceedance)
    (∀ rule ∈ rules, rule.Evaluates s context .standard) ∧
      Finding.IsRanking (ofRules rules s context .standard).flagged
        ((ofRules rules s context .standard).findings.filter (·.flagged)) ∧
      Finding.AlikeButTies (ofRules rules.reverse s context .standard).flagged
        (ofRules rules s context .standard).flagged ∧
      names rules = [("error_rate", .critical, 1), ("connection_reuse", .warning, 1 / 2),
        ("cache_effectiveness", .warning, 1 / 2), ("queue", .warning, 0)] ∧
      names rules.reverse = [("error_rate", .critical, 1), ("cache_effectiveness", .warning, 1 / 2),
        ("connection_reuse", .warning, 1 / 2), ("queue", .warning, 0)] := by
  intro queue s context rules names
  have hrules : ∀ rule ∈ rules, rule.Evaluates s context .standard := by
    refine List.forall_mem_cons.mpr ⟨fun f hf => ?_, fun rule hrule =>
      Rule.evaluates_of_standard (fun _ _ => rfl) (fun _ _ _ _ => rfl) hrule⟩
    obtain rfl := Option.some.inj hf
    exact .intro _ _ _ _ _ rfl rfl
  obtain ⟨_, hranking, _, halike⟩ := ofRules_ranked hrules
  exact ⟨hrules, hranking, halike _ (List.reverse_perm rules), by decide +kernel, by decide +kernel⟩

end Diagnosis

end HttpBench
