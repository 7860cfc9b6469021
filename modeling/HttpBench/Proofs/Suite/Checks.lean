import Mathlib.Data.List.Forall2
import HttpBench.Proofs.Run.Plans
import HttpBench.Proofs.Run.Stages
import HttpBench.Simulation.Bench
import HttpBench.Simulation.Script

/-!
# Runs that are refused

All runs of a suite are checked before the first one is made. If something is wrong with one of them,
nothing is done for any: the suite ends with what is wrong first (`Suite.FirstWrong`), and where it
would have run everything is as it was (`Suite.refused_undone`). The same goes for one run on its own.

What passes its check has somebody to do each share and something to do for everybody, so requests are
never shared out among no workers, in the warmup as little as in the measured run.
-/

namespace HttpBench

open Simulation

/-- A list goes through as a whole. -/
theorem Except.mapM_eq_ok {E A B : Type} {f : A → Except E B} {l : List A} {bs : List B} :
    l.mapM f = .ok bs ↔ List.Forall₂ (fun a b => f a = .ok b) l bs := by
  induction l generalizing bs with
  | nil => simp [pure, Except.pure, eq_comm]
  | cons a l ih =>
    rw [List.mapM_cons]
    cases ha : f a with
    | error e => cases bs <;> simp [bind, Except.bind, ha]
    | ok b =>
      cases hl : l.mapM f with
      | error e => cases bs <;> simp [bind, Except.bind, ← ih, hl]
      | ok rest => cases bs <;> simp [bind, Except.bind, pure, Except.pure, ← ih, hl, ha]

/-- **A list fails** with the first member that fails. -/
theorem Except.mapM_eq_error {E A B : Type} {f : A → Except E B} {l : List A} {e : E} :
    l.mapM f = .error e ↔
      ∃ before a after, l = before ++ a :: after ∧ (∀ x ∈ before, ∃ b, f x = .ok b) ∧ f a = .error e := by
  induction l with
  | nil => simp [pure, Except.pure]
  | cons a l ih =>
    have hsplit : ∀ P : List A → A → List A → Prop, (∃ before x after, a :: l = before ++ x :: after ∧ P before x after) ↔
        P [] a l ∨ ∃ before x after, l = before ++ x :: after ∧ P (a :: before) x after := by
      intro P
      constructor
      · rintro ⟨before, x, after, hl, hP⟩
        cases before with
        | nil =>
          obtain ⟨rfl, rfl⟩ := List.cons.inj hl
          exact .inl hP
        | cons y before =>
          obtain ⟨rfl, rfl⟩ := List.cons.inj hl
          exact .inr ⟨before, x, after, rfl, hP⟩
      · rintro (hP | ⟨before, x, after, rfl, hP⟩)
        · exact ⟨[], a, l, rfl, hP⟩
        · exact ⟨a :: before, x, after, rfl, hP⟩
    rw [List.mapM_cons, hsplit]
    cases ha : f a with
    | error e' => simp [bind, Except.bind, ha]
    | ok b =>
      have hrest : (do let b' ← Except.ok b; let bs ← l.mapM f; pure (b' :: bs)) = .error e ↔ l.mapM f = .error e := by
        cases l.mapM f <;> simp [bind, Except.bind, pure, Except.pure]
      rw [hrest, ih]
      simp [ha]

/-! ## What is wrong -/

namespace Suite

/-- **The first thing that is wrong** with the runs of a suite, in their order. -/
inductive FirstWrong : List RunSettings → SetupError → Prop
  | none : FirstWrong [] .noRuns
  | run {before after : List RunSettings} {s : RunSettings} {e : SetupError}
      (hbefore : ∀ r ∈ before, ∃ plan, r.validate = .ok plan) (hwrong : s.validate = .error e) :
      FirstWrong (before ++ s :: after) e

variable {runs : List RunSettings} {plans : List RunPlan} {e : SetupError}

/-- **A suite passes its check** when it has runs and all of them pass theirs. -/
theorem validate_eq_ok :
    validate runs = .ok plans ↔ runs ≠ [] ∧ List.Forall₂ (fun s plan => s.validate = .ok plan) runs plans := by
  unfold validate
  cases runs with
  | nil => simp
  | cons s runs => rw [if_neg (by simp), Except.mapM_eq_ok, and_iff_right (by simp)]

/-- **A suite is refused** for the first thing that is wrong. -/
theorem validate_eq_error : validate runs = .error e ↔ FirstWrong runs e := by
  unfold validate
  cases runs with
  | nil =>
    constructor
    · intro h
      obtain rfl := Except.error.inj h
      exact .none
    · intro h
      generalize hnil : ([] : List RunSettings) = runs at h
      cases h with
      | none => rfl
      | run => simp at hnil
  | cons s runs =>
    rw [if_neg (by simp), Except.mapM_eq_error]
    constructor
    · rintro ⟨before, s', after, hruns, hbefore, hwrong⟩
      rw [hruns]
      exact .run hbefore hwrong
    · intro h
      generalize hruns : s :: runs = runs' at h
      cases h with
      | none => cases hruns
      | run hbefore hwrong => exact ⟨_, _, _, rfl, hbefore, hwrong⟩

end Suite

/-! ## What passes -/

/-- **There is something to do for everybody** where there are no more workers than requests. -/
theorem RunState.one_le_share {total concurrency : Nat} (w : Nat) (h : 0 < concurrency) (hle : concurrency ≤ total) :
    1 ≤ share total concurrency w := by
  have hquotient : 1 ≤ total / concurrency := (Nat.one_le_div_iff h).mpr hle
  unfold share
  omega

namespace Dispatch

variable {d : Dispatch} {plan : RunPlan} {shared : Option ResponseCache} {cancelled : Bool} {now : Instant}
  {steps : List DispatchTransition} {run : RunState}

theorem workers_measuredRun : (plan.measuredRun shared cancelled now).workers.length = plan.concurrency := by
  simp [RunPlan.measuredRun, RunState.begin]

theorem workers_warmupRun : (plan.warmupRun cancelled now).workers.length = min plan.concurrency plan.warmup := by
  simp [RunPlan.warmupRun, RunState.begin]

/-- **There is somebody to do each share** in every run under way. -/
theorem workers_pos (hplan : 0 < plan.concurrency) (past : (begin plan shared cancelled now).History steps d)
    (hrun : d.run? = some run) : 0 < run.workers.length := by
  have hall : d.plan = plan ∧ ∀ run, d.run? = some run → 0 < run.workers.length := by
    refine past.invariant (P := fun d => d.plan = plan ∧ ∀ run, d.run? = some run → 0 < run.workers.length) ?_ ?_
    · unfold begin
      split_ifs with hwarmup
      · refine ⟨rfl, fun run hrun => ?_⟩
        obtain rfl := Option.some.inj hrun
        rw [workers_warmupRun]
        omega
      · refine ⟨rfl, fun run hrun => ?_⟩
        obtain rfl := Option.some.inj hrun
        exact workers_measuredRun.symm ▸ hplan
    · rintro d label d' ⟨rfl, hworkers⟩ hstep
      cases happens_of_step hstep with
      | warm hstage hinner | measured hstage hinner =>
        refine ⟨rfl, fun run hrun => ?_⟩
        obtain rfl := Option.some.inj hrun
        rw [RunState.step_length hinner]
        exact hworkers _ (by rw [run?, hstage])
      | warmedUp =>
        refine ⟨rfl, fun run hrun => ?_⟩
        obtain rfl := Option.some.inj hrun
        exact workers_measuredRun.symm ▸ hplan
      | @cancelWarmup run hstage | @cancelMeasured _ run hstage | @expire _ run hstage =>
        have hbefore : 0 < run.workers.length := hworkers run (by rw [run?, hstage])
        refine ⟨rfl, fun run hrun => ?_⟩
        obtain rfl := Option.some.inj hrun
        exact hbefore
      | finish => exact ⟨rfl, fun run hrun => by cases hrun⟩
      | cancelDone hstage => exact ⟨rfl, fun run hrun => by simp [run?, hstage] at hrun⟩
  exact hall.2 run hrun

end Dispatch

/-! ## All or nothing -/

namespace Suite

/-- **Nothing is done for runs that are not in order.** If there is no run, or one that does not pass
its check, a suite ends with the first thing that is wrong, wherever it was to run: no run is
dispatched, nothing is watched or reported, and on a bench the transport, the shared cache and the
clock are as they were. The same goes for a run on its own. What does pass has at least one worker and
no more workers than requests. So whatever run of it is under way, its requests are shared out among
somebody, and in the measured run there is at least one for everybody. -/
theorem refused_undone {m : Type → Type} [Monad m] (v : Venue m) (interval : Option Duration) :
    (∀ runs : List RunSettings, (runs = [] ∨ ∃ s ∈ runs, ∀ plan, s.validate ≠ .ok plan) →
      ∃ e, FirstWrong runs e ∧ attempt v interval runs = pure (.error e) ∧
        ∀ (N : Type) [Carrier N] (w : World BenchTask (Bench N)),
          (attempt Bench.venue interval runs).run w = (.error e, w)) ∧
    (∀ s : RunSettings, (∀ plan, s.validate ≠ .ok plan) →
      ∃ e, s.validate = .error e ∧ v.attempt s = pure (.error e) ∧
        ∀ (N : Type) [Carrier N] (w : World BenchTask (Bench N)), (Bench.venue.attempt s).run w = (.error e, w)) ∧
    ∀ (s : RunSettings) (plan : RunPlan), s.validate = .ok plan →
      1 ≤ plan.concurrency ∧ plan.concurrency ≤ plan.requests ∧
      ∀ shared cancelled now,
        (∀ steps d, (Dispatch.begin plan shared cancelled now).History steps d →
          ∀ run, d.run? = some run → 0 < run.workers.length) ∧
        ∀ worker ∈ (plan.measuredRun shared cancelled now).workers, 1 ≤ worker.remaining := by
  refine ⟨?_, ?_, ?_⟩
  · intro runs hwrong
    cases hcheck : validate runs with
    | ok plans =>
      obtain ⟨hsome, hplans⟩ := validate_eq_ok.mp hcheck
      obtain hnone | ⟨s, hs, hbad⟩ := hwrong
      · exact absurd hnone hsome
      · obtain ⟨i, hi, rfl⟩ := List.getElem_of_mem hs
        exact absurd (hplans.get hi (hplans.length_eq ▸ hi)) (hbad _)
    | error e =>
      refine ⟨e, validate_eq_error.mp hcheck, ?_, fun N _ w => ?_⟩
      · simp only [attempt, hcheck]
      · simp only [attempt, hcheck]
        rfl
  · intro s hbad
    cases hcheck : s.validate with
    | ok plan => exact absurd hcheck (hbad plan)
    | error e =>
      refine ⟨e, rfl, ?_, fun N _ w => ?_⟩
      · simp only [Venue.attempt, hcheck]
      · simp only [Venue.attempt, hcheck]
        rfl
  · intro s plan hcheck
    obtain ⟨_, hsound⟩ := RunSettings.sound_of_validate hcheck
    refine ⟨hsound.concurrency, hsound.share, fun shared cancelled now => ⟨?_, ?_⟩⟩
    · exact fun steps d past run hrun => Dispatch.workers_pos hsound.concurrency past hrun
    · intro worker hworker
      obtain ⟨w, _, rfl⟩ := List.mem_map.mp hworker
      exact RunState.one_le_share w hsound.concurrency hsound.share

/-- Three runs of which the second has more workers than requests, and the third nothing to do. -/
def threeRuns : List RunSettings :=
  [{ url := "http://a/", requests := 4, concurrency := 2, warmup := 1 },
    { url := "http://a/", requests := 1, concurrency := 2 }, { url := "http://a/", requests := 0 }]

theorem refused_undone_of_three :
    (∃ e, FirstWrong threeRuns e ∧
      (attempt Bench.venue none threeRuns).run (Bench.world ({ entries := [] } : Script) none) =
        (.error e, Bench.world { entries := [] } none)) ∧
    ∃ s ∈ threeRuns, ∃ plan, s.validate = .ok plan ∧ 1 ≤ plan.concurrency ∧ plan.concurrency ≤ plan.requests := by
  obtain ⟨hrefused, _, hpassed⟩ := refused_undone (Bench.venue (N := Script)) none
  constructor
  · have hbad : ∀ plan, RunSettings.validate { url := "http://a/", requests := 1, concurrency := 2 } ≠ .ok plan :=
      fun plan h => by cases h
    obtain ⟨e, hfirst, _, hundone⟩ := hrefused threeRuns (.inr ⟨_, by simp [threeRuns], hbad⟩)
    exact ⟨e, hfirst, hundone Script _⟩
  · have hcheck : (RunSettings.validate { url := "http://a/", requests := 4, concurrency := 2, warmup := 1 }).isOk =
        true := by
      decide +kernel
    cases hplan : RunSettings.validate { url := "http://a/", requests := 4, concurrency := 2, warmup := 1 } with
    | error e => rw [hplan] at hcheck; cases hcheck
    | ok plan =>
      obtain ⟨hconcurrency, hshare, _⟩ := hpassed _ plan hplan
      exact ⟨_, List.mem_cons_self, plan, hplan, hconcurrency, hshare⟩

end Suite

end HttpBench
