import HttpBench.Proofs.Run.Fetches
import HttpBench.Proofs.Run.Results
import HttpBench.Proofs.Suite.Progress
import HttpBench.Proofs.Suite.Reports

/-!
# What a suite makes of its schedule

The runs that a suite makes are the first ones of its schedule, and all of them if it is never
cancelled. Of these only the last one can be cut short from outside: before each run the suite looks
whether it has been cancelled. A run can also be ended by its own deadline, but nothing tells the
suite, and so neither the suite nor any other run is cut short by that (`Suite.Followed`).

A suite whose runs are within reach reports on each of them in their order, and compares the first report
with each later one (`Suite.Reported`). What its calls return says whether a run is within reach
(`SuiteRun.CameOf.withinReach`).

The calls that the transport gets are counted run by run (`Suite.Makes.calls_eq`). A worker that the
transport takes down with it makes no more requests, so without a cache there may be fewer calls than
requests although nobody has cancelled anything (`Suite.calls_of_crash`).
-/

namespace HttpBench

/-- The steps inside a run. -/
def SuiteEvent.inner : SuiteEvent → List RunTransition
  | .aside _ => []
  | .dispatched _ steps => steps.filterMap DispatchTransition.inner?

/-- A dispatched run with the steps that it has taken. -/
abbrev DispatchCourse := Dispatch × List DispatchTransition

namespace DispatchCourse

/-- It has been cancelled from outside. -/
def Stopped (c : DispatchCourse) : Prop := Dispatch.Stopped c.1.cancelled c.2

/-- The samples that the calls of its measured run have returned. -/
def returned (c : DispatchCourse) : List Sample :=
  (c.2.filterMap DispatchTransition.measured?).filterMap RunTransition.returned?

end DispatchCourse

namespace Suite

/-- The runs that a suite has begun, in their order. -/
def begun (events : List SuiteEvent) : List DispatchCourse := events.filterMap SuiteEvent.run?

/-- The steps inside the runs of a suite. -/
def inner (events : List SuiteEvent) : List RunTransition := events.flatMap SuiteEvent.inner

/-- **The calls that the transport gets**, in the warmups too. -/
def calls (events : List SuiteEvent) : Nat := (inner events).countP RunTransition.fetches

end Suite

/-- **A run of a suite has come of a dispatched run.** Whatever has ended it early has happened to itself. -/
structure SuiteRun.CameOf (r : SuiteRun) (c : DispatchCourse) : Prop where
  begins : ∃ shared cancelled now, c.1 = .begin r.result.plan shared cancelled now
  finished : ∃ d, c.1.History c.2 d ∧ d.stage = .done r.result
  shortened : r.result.cancelled = true → c.Stopped ∨ Dispatch.Expired r.result.plan c.2
  whole : r.result.cancelled = false → (∀ t ∈ c.2.filterMap DispatchTransition.inner?, t.crashes = false) →
    r.result.samples.map (·.sequence) = List.range r.result.plan.requests ∧ r.result.incomplete = 0

namespace Dispatch

variable {d : Dispatch} {plan : RunPlan} {shared : Option ResponseCache} {cancelled : Bool} {now : Instant}
  {steps : List DispatchTransition}

theorem cameOf {r : SuiteRun} (hplan : 0 < plan.concurrency) (past : (begin plan shared cancelled now).History steps d)
    (hdone : d.stage = .done r.result) : r.CameOf (begin plan shared cancelled now, steps) := by
  obtain ⟨early, started, run, hrun, hall, hresult⟩ := run_of_done past hdone
  have hsame : r.result.plan = plan := by rw [hresult]; rfl
  refine ⟨⟨shared, cancelled, now, by rw [hsame]⟩, ⟨d, past, hdone⟩, fun hshort => ?_, fun hrunning hcrash => ?_⟩
  · have hshort : d.isShort = true := by rw [isShort, hdone]; exact hshort
    rw [DispatchCourse.Stopped, begin_cancelled, hsame]
    exact (stopped_or_expired past hshort).imp_right And.left
  · rw [hresult] at hrunning ⊢
    have huncrashed := uncrashed_measuredRun.history hrun fun t ht =>
      hcrash t (DispatchTransition.mem_inner_of_measured ht)
    exact whole_of_running (.history (.begin hplan) (.begin rfl) hrun) huncrashed hall hrunning

end Dispatch

namespace SuiteRun.CameOf

variable {r : SuiteRun} {c : DispatchCourse}

/-- The samples of a run are among those that its calls have returned, ... -/
theorem samples_subperm (h : r.CameOf c) : r.result.samples.Subperm c.returned := by
  obtain ⟨shared, cancelled, now, hfirst⟩ := h.begins
  obtain ⟨d, past, hdone⟩ := h.finished
  rw [hfirst] at past
  exact Dispatch.samples_subperm past hdone

/-- ... and so it is within reach where these are. -/
theorem withinReach (h : r.CameOf c) (hbytes : (c.returned.map Sample.bytes).sum < Number.range64)
    (hsamples : RunStatistics.WithinReach Float c.returned) : r.WithinReach := by
  obtain ⟨kept, hkept, hsub⟩ := h.samples_subperm
  refine ⟨lt_of_le_of_lt ?_ hbytes, hsamples.subperm h.samples_subperm⟩
  calc (r.result.samples.map Sample.bytes).sum
      = (kept.map Sample.bytes).sum := (hkept.map _).sum_eq.symm
    _ ≤ (c.returned.map Sample.bytes).sum := List.Sublist.sum_le_sum (hsub.map _) fun _ _ => Nat.zero_le _

end SuiteRun.CameOf

namespace Suite

open Possibly

variable {p q : Scene} {entries : List (RunPlan × Nat)} {events : List SuiteEvent} {made : List SuiteRun}
  {plans : List RunPlan} {settings : List RunSettings}

/-! ## What happens around a run -/

@[simp]
theorem begun_append (events later : List SuiteEvent) : begun (events ++ later) = begun events ++ begun later :=
  List.filterMap_append

@[simp]
theorem begun_asides (asides : List Aside) : begun (asides.map .aside) = [] := by
  simp [begun, List.filterMap_map, SuiteEvent.run?, Function.comp_def]

@[simp]
theorem begun_dispatched (first : Dispatch) (steps : List DispatchTransition) (later : List SuiteEvent) :
    begun (.dispatched first steps :: later) = (first, steps) :: begun later := rfl

@[simp]
theorem inner_append (events later : List SuiteEvent) : inner (events ++ later) = inner events ++ inner later :=
  List.flatMap_append

@[simp]
theorem inner_asides (asides : List Aside) : inner (asides.map .aside) = [] := by
  simp [inner, List.flatMap_map, SuiteEvent.inner]

@[simp]
theorem inner_dispatched (first : Dispatch) (steps : List DispatchTransition) (later : List SuiteEvent) :
    inner (.dispatched first steps :: later) = steps.filterMap DispatchTransition.inner? ++ inner later := rfl

section
variable (looked before after : List Aside) (first : Dispatch) (steps : List DispatchTransition)

theorem begun_around :
    begun (looked.map .aside ++ (before.map .aside ++ .dispatched first steps :: after.map .aside) ++ events) =
      (first, steps) :: begun events := by simp

theorem inner_around :
    inner (looked.map .aside ++ (before.map .aside ++ .dispatched first steps :: after.map .aside) ++ events) =
      steps.filterMap DispatchTransition.inner? ++ inner events := by simp

end

/-! ## The runs that are made -/

/-- A suite that goes on uncancelled after a run has not been cancelled within it either. -/
theorem not_stopped {plan : RunPlan} {steps : List DispatchTransition} {d : Dispatch} {result : RunResult}
    {after : List Aside} (past : (p.begin plan).History steps d)
    (hgo : ((Scene.afterRun d result).afterAll after).cancelled = false) : ¬Dispatch.Stopped p.cancelled steps := by
  intro hstopped
  have hcancelled : d.cancelled = true := (Dispatch.cancelled_iff past).mpr hstopped
  have hrunning : d.cancelled = false := Scene.running_of_afterAll hgo
  rw [hcancelled] at hrunning
  cases hrunning

/-- One time a plan is carried out as it is, only that the warmup is made the first time. -/
theorem planFor_eq (plan : RunPlan) (iteration : Nat) :
    planFor plan iteration = { plan with warmup := if 1 < iteration then 0 else plan.warmup } := by
  unfold planFor
  split <;> rfl

namespace Makes

/-- **Only from outside** is a suite cancelled: before it began, in between its runs or within one. -/
theorem cancelled_iff (h : Makes p entries events made q) :
    q.cancelled = true ↔ p.cancelled = true ∨ ∃ e ∈ events, e.Cancels := by
  induction h with
  | ended => simp
  | stopped asides => simp [Scene.cancelled_afterAll, SuiteEvent.Cancels]
  | made looked before after _ past _ _ _ ih =>
    rw [ih, Scene.cancelled_afterAll, Scene.afterRun, Dispatch.cancelled_iff past, Dispatch.Stopped,
      Scene.cancelled_afterAll, Scene.cancelled_afterAll]
    simp [SuiteEvent.Cancels, or_and_right, exists_or, or_assoc]

/-- A suite that makes a run has not been cancelled before. -/
theorem running (h : Makes p entries events made q) (hsome : begun events ≠ []) : p.cancelled = false := by
  cases h with
  | ended => exact absurd rfl hsome
  | stopped asides => exact absurd (begun_asides asides) hsome
  | made looked before after hgo => exact Scene.running_of_afterAll hgo

/-- **The runs are the first ones of the schedule**, ... -/
theorem scheduled (h : Makes p entries events made q) :
    made.map (fun r => (r.result.plan, r.iteration)) <+: entries.map fun e => (planFor e.1 e.2, e.2) := by
  induction h with
  | ended | stopped => exact List.nil_prefix
  | made looked before after _ past hdone hiteration _ ih =>
    obtain ⟨_, _, _, _, _, hresult⟩ := Dispatch.run_of_done past hdone
    rw [List.map_cons, List.map_cons, List.cons_prefix_cons, hresult, hiteration]
    exact ⟨rfl, ih⟩

/-- ... and all of them, unless the suite is cancelled. -/
theorem length_eq (h : Makes p entries events made q) (hrun : q.cancelled = false) :
    made.length = entries.length := by
  induction h with
  | ended => rfl
  | stopped asides hstop =>
    rw [hrun] at hstop
    cases hstop
  | made _ _ _ _ _ _ _ _ ih => exact congrArg (· + 1) (ih hrun)

/-- Each of them has come of a dispatched run. -/
theorem cameOf (h : Makes p entries events made q) (hplans : ∀ e ∈ entries, 0 < e.1.concurrency) :
    List.Forall₂ SuiteRun.CameOf made (begun events) := by
  induction h with
  | ended => exact .nil
  | stopped asides =>
    rw [begun_asides]
    exact .nil
  | made looked before after _ past hdone _ _ ih =>
    obtain ⟨hplan, hplans⟩ := List.forall_mem_cons.mp hplans
    have hcame := Dispatch.cameOf (by rw [planFor_eq]; exact hplan) past hdone
    rw [begun_around]
    exact .cons hcame (ih hplans)

/-- **Only the last run** is cancelled from outside. -/
theorem last (h : Makes p entries events made q) : ∀ c ∈ (begun events).dropLast, ¬c.Stopped := by
  induction h with
  | ended => simp [begun]
  | stopped asides => simp
  | @made _ _ _ _ _ _ _ _ events _ looked before after _ past _ _ hrest ih =>
    rw [begun_around]
    by_cases hlater : begun events = []
    · simp [hlater]
    -- a later run has begun, and so the suite was not cancelled when this one was over
    · rw [List.dropLast_cons_of_ne_nil hlater]
      refine List.forall_mem_cons.mpr ⟨?_, ih⟩
      rw [DispatchCourse.Stopped, Scene.begin, Dispatch.begin_cancelled]
      exact not_stopped past (hrest.running hlater)

/-- **The calls are counted run by run**, where nothing ends one early. -/
theorem calls_eq (h : Makes p entries events made q)
    (hplans : ∀ e ∈ entries, 0 < e.1.concurrency ∧ e.1.cacheEnabled = false ∧ e.1.deadline = none)
    (hrun : q.cancelled = false) (hcrash : ∀ t ∈ inner events, t.crashes = false) :
    calls events = (entries.map fun e => (planFor e.1 e.2).warmup + e.1.requests).sum := by
  induction h with
  | ended => rfl
  | stopped asides hstop =>
    rw [hrun] at hstop
    cases hstop
  | @made _ _ plan iteration _ _ steps _ _ _ looked before after _ past hdone _ hrest ih =>
    obtain ⟨⟨hplan, hcache, hdeadline⟩, hplans⟩ := List.forall_mem_cons.mp hplans
    rw [inner_around] at hcrash
    obtain ⟨hcrash, hcrashes⟩ := List.forall_mem_append.mp hcrash
    -- what is not cancelled in the end was not cancelled within this run either
    have hgo : ((Scene.afterRun _ _).afterAll after).cancelled = false :=
      Bool.eq_false_iff.mpr fun h => Bool.eq_false_iff.mp hrun (hrest.cancelled_iff.mpr (.inl h))
    have hexpired : ¬Dispatch.Expired (planFor plan iteration) steps := by
      rintro ⟨hsome, _⟩
      rw [planFor_eq, hdeadline] at hsome
      cases hsome
    have hfetches := Dispatch.fetches_eq (by rw [planFor_eq]; exact hplan) (by rw [planFor_eq]; exact hcache) past
      hdone (not_stopped past hgo) hexpired hcrash
    rw [calls, inner_around, List.countP_append, hfetches, ← calls, ih hplans hrun hcrashes, List.map_cons,
      List.sum_cons, planFor_eq]

end Makes

/-! ## Checked runs -/

/-- Checked runs have the numbers that were asked for, and these are in order. -/
theorem options_of_checked (h : List.Forall₂ (fun s plan => s.validate = .ok plan) settings plans) :
    plans.map (·.toRunOptions) = settings.map (·.toRunOptions) ∧ ∀ plan ∈ plans, plan.Sound := by
  induction h with
  | nil => simp
  | cons hplan _ ih =>
    obtain ⟨hsame, hsound⟩ := RunSettings.sound_of_validate hplan
    exact ⟨by rw [List.map_cons, List.map_cons, hsame, ih.1], List.forall_mem_cons.mpr ⟨hsound, ih.2⟩⟩

theorem mem_of_mem_schedule {e : RunPlan × Nat} (h : e ∈ schedule plans) : e.1 ∈ plans := by
  obtain ⟨plan, hplan, he⟩ := List.mem_flatMap.mp h
  obtain ⟨_, _, rfl⟩ := List.mem_map.mp he
  exact hplan

/-- However often a run is made, there is one warmup. -/
theorem sum_iterations (plan : RunPlan) {n : Nat} (h : 0 < n) :
    ((List.range n).map fun i => (planFor plan (i + 1)).warmup + plan.requests).sum =
      plan.warmup + n * plan.requests := by
  induction n, h using Nat.le_induction with
  | base => simp [planFor]
  | succ n hn ih =>
    have hlater : (planFor plan (n + 1)).warmup = 0 := by rw [planFor_eq, if_pos (Nat.succ_lt_succ hn)]
    rw [List.range_succ, List.map_append, List.sum_append, ih, List.map_singleton, List.sum_singleton, hlater,
      Nat.zero_add, Nat.add_mul, Nat.one_mul, Nat.add_assoc]

/-- **The requests of a schedule**, with those of the warmups. -/
theorem sum_schedule (h : ∀ plan ∈ plans, plan.Sound) :
    ((schedule plans).map fun e => (planFor e.1 e.2).warmup + e.1.requests).sum =
      (plans.map fun plan => plan.warmup + plan.iterations * plan.requests).sum := by
  induction plans with
  | nil => rfl
  | cons plan plans ih =>
    obtain ⟨hsound, hplans⟩ := List.forall_mem_cons.mp h
    have hfirst := sum_iterations plan hsound.iterations
    have hrest := ih hplans
    unfold schedule at hrest ⊢
    rw [List.flatMap_cons, List.map_append, List.sum_append, hrest, List.map_map, List.map_cons, List.sum_cons]
    exact congrArg (· + _) hfirst

/-! ## Suites -/

/-- **A suite has followed its schedule** from one scene to another. -/
structure Followed (plans : List RunPlan) (p : Scene) (events : List SuiteEvent) (made : List SuiteRun) (q : Scene) :
    Prop where
  /-- the runs made are the first ones of the schedule, each carried out as it is there -/
  scheduled : made.map (fun r => (r.result.plan, r.iteration)) <+: (schedule plans).map fun e => (planFor e.1 e.2, e.2)
  /-- all runs are made, unless the suite is cancelled -/
  whole : q.cancelled = false → made.length = (schedule plans).length
  /-- the suite is cancelled from outside, and by nothing else -/
  cancelled : q.cancelled = true ↔ p.cancelled = true ∨ ∃ e ∈ events, e.Cancels
  /-- what cuts a run short is its own deadline, or a cancellation of the suite ... -/
  cameOf : List.Forall₂ SuiteRun.CameOf made (begun events)
  /-- ... within the last run -/
  last : ∀ c ∈ (begun events).dropLast, ¬c.Stopped

/-- **What is reported of a suite.** -/
structure Reported (plans : List RunPlan) (made : List SuiteRun) (cancelled : Bool) (o : SuiteOutcome) : Prop where
  inOrder : List.Forall₂ (fun e report => report.IsOn e.1 e.2) ((schedule plans).take made.length) o.reports
  figures : List.Forall₂ (fun r report => report.cancelled = r.result.cancelled ∧
    statisticsOf r.result = .ok report.statistics) made o.reports
  comparisons : ∀ i, o.comparisons[i]? = o.reports[0]?.bind fun first => o.reports[i + 1]?.map (.between first)
  cancelled : o.cancelled = cancelled

/-- The reports are named in the order of the schedule. -/
theorem Reported.names {cancelled : Bool} {o : SuiteOutcome} (h : Reported plans made cancelled o) :
    o.reports.map (fun report => (report.name, report.iteration)) =
      ((schedule plans).take made.length).map fun e => (e.1.name, e.2) := by
  have hsame : List.Forall₂ (fun report e => (report.name, report.iteration) = (e.1.name, e.2)) o.reports
      ((schedule plans).take made.length) :=
    (h.inOrder.imp fun _ _ hon => Prod.ext hon.name hon.iteration).flip
  rw [← List.forall₂_eq_eq_eq, List.forall₂_map_left_iff, List.forall₂_map_right_iff]
  exact hsame

/-- What a suite reports is on the runs that it has made. -/
theorem Followed.reported {name : String} {rules : List (Rule Float)} {thresholds : Thresholds Float} {o : SuiteOutcome}
    {cancelled : Bool} (h : Followed plans p events made q)
    (ho : outcome name rules thresholds (made, cancelled) = .ok o) : Reported plans made cancelled o := by
  obtain ⟨hreports, hcomparisons, hcancelled⟩ := of_outcome ho
  have hfirst : made.map (fun r => (r.result.plan, r.iteration)) =
      ((schedule plans).take made.length).map fun e => (planFor e.1 e.2, e.2) := by
    have htake := List.prefix_iff_eq_take.mp h.scheduled
    rwa [List.length_map, ← List.map_take] at htake
  have hon : List.Forall₂ (fun e report => report.IsOn e.1 e.2) (made.map fun r => (r.result.plan, r.iteration))
      o.reports :=
    List.forall₂_map_left_iff.mpr (hreports.imp fun _ _ hr => (of_report hr).1)
  rw [hfirst, List.forall₂_map_left_iff] at hon
  refine ⟨hon.imp fun e report hr => ?_, hreports.imp fun _ _ hr => (of_report hr).2, hcomparisons, hcancelled⟩
  rw [planFor_eq] at hr
  exact { hr with }

/-- What comes of a schedule has followed it, and so it has with what happens before and after. -/
theorem Makes.followed {p' : Scene} {before after : List Aside} (hsound : ∀ plan ∈ plans, plan.Sound)
    (h : Makes (p.afterAll before) (schedule plans) events made p') :
    Followed plans p (before.map .aside ++ events ++ after.map .aside) made (p'.afterAll after) where
  scheduled := h.scheduled
  whole hrun := h.length_eq (Scene.running_of_afterAll hrun)
  cancelled := by
    rw [Scene.cancelled_afterAll, h.cancelled_iff, Scene.cancelled_afterAll]
    simp [SuiteEvent.Cancels, or_and_right, exists_or, or_assoc]
  cameOf := by simpa using h.cameOf fun e he => (hsound _ (mem_of_mem_schedule he)).concurrency
  last := by simpa using h.last

/-- **Without a cache, a deadline, a cancellation and a crash** the transport gets a call for each request. -/
theorem Makes.calls_eq_sum (hplans : List.Forall₂ (fun s plan => s.validate = .ok plan) settings plans)
    (h : Makes p (schedule plans) events made q) (hplain : ∀ s ∈ settings, s.cacheEnabled = false ∧ s.deadline = none)
    (hrun : q.cancelled = false) (hcrash : ∀ t ∈ inner events, t.crashes = false) :
    calls events = (settings.map fun s => s.warmup + s.iterations * s.requests).sum := by
  obtain ⟨hoptions, hsound⟩ := options_of_checked hplans
  have hall : ∀ e ∈ schedule plans, 0 < e.1.concurrency ∧ e.1.cacheEnabled = false ∧ e.1.deadline = none := by
    intro e he
    have hplan := mem_of_mem_schedule he
    have hmem : e.1.toRunOptions ∈ settings.map (·.toRunOptions) := hoptions ▸ List.mem_map_of_mem hplan
    obtain ⟨s, hs, hsame⟩ := List.mem_map.mp hmem
    refine ⟨(hsound _ hplan).concurrency, ?_⟩
    rw [← hsame]
    exact hplain s hs
  rw [h.calls_eq hall hrun hcrash, sum_schedule hsound]
  have hsame := congrArg (List.map fun o : RunOptions => o.warmup + o.iterations * o.requests) hoptions
  rw [List.map_map, List.map_map] at hsame
  exact congrArg List.sum hsame

/-- **A suite follows its schedule.** Let all its runs pass their checks. Whatever happens, and whenever
it is cancelled, a suite that is over has made the first runs of its schedule, and all of them if it was
never cancelled. Where the bytes of each run fit a word and its samples are within reach of doubles, it
reports on each of them in order and compares the first report with each later one; nothing else is ever
reported, and only the figures of a run can keep a suite from it. A run that is short of something has
been cancelled with the suite, and then it is the last one, or ended by its own deadline, or has lost a
worker to a crash. If no run uses the cache or has a deadline, nothing is cancelled and nothing crashes,
then the transport gets a call for each request of the schedule and of the first warmups. And a suite does
come to its end, from wherever it has got to. -/
theorem schedule_followed (hsome : settings ≠ [])
    (hplans : List.Forall₂ (fun s plan => s.validate = .ok plan) settings plans) (name : String)
    (interval : Option Duration) (rules : List (Rule Float)) (thresholds : Thresholds Float) :
    (∀ p events answer q, attempt (anywhere name) interval settings p events (.finished answer q) →
      ∃ made, answer = .ok (made, q.cancelled) ∧ Followed plans p events made q ∧
        ((∀ r ∈ made, r.WithinReach) →
          ∃ o, outcome name rules thresholds (made, q.cancelled) = .ok o ∧ Reported plans made q.cancelled o) ∧
        (∀ o, outcome name rules thresholds (made, q.cancelled) = .ok o → Reported plans made q.cancelled o) ∧
        (∀ fault, outcome name rules thresholds (made, q.cancelled) = .error fault →
          ∃ r ∈ made, statisticsOf r.result = .error fault) ∧
        ((∀ s ∈ settings, s.cacheEnabled = false ∧ s.deadline = none) → q.cancelled = false →
          (∀ t ∈ inner events, t.crashes = false) →
          calls events = (settings.map fun s => s.warmup + s.iterations * s.requests).sum)) ∧
    ∀ x, Ends x (attempt (anywhere name) interval settings) := by
  have hcheck := validate_eq_ok.mpr ⟨hsome, hplans⟩
  refine ⟨fun p events answer q hfinished => ?_, fun x => ends_attempt hcheck⟩
  obtain ⟨before, after, middle, made, p', rfl, hmakes, rfl, rfl⟩ := makes_of_attempt hcheck hfinished
  have hfollowed : Followed plans p (before.map .aside ++ middle ++ after.map .aside) made (p'.afterAll after) :=
    hmakes.followed (options_of_checked hplans).2
  have hinner : inner (before.map .aside ++ middle ++ after.map .aside) = inner middle := by simp
  refine ⟨made, rfl, hfollowed, fun hreach => ?_, fun o ho => hfollowed.reported ho,
    fun fault => outcome_eq_error, ?_⟩
  · obtain ⟨o, ho⟩ := exists_outcome hreach
    exact ⟨o, ho, hfollowed.reported ho⟩
  intro hplain hrun hcrash
  rw [calls, hinner]
  exact hmakes.calls_eq_sum hplans hplain (Scene.running_of_afterAll hrun) (hinner ▸ hcrash)

/-- Two runs, of which the first one is made twice after a warmup. -/
def twoRuns : List RunSettings :=
  [{ name := "first", url := "http://a/", requests := 1, concurrency := 1, warmup := 1, iterations := 2 },
    { name := "second", url := "http://a/", requests := 2, concurrency := 2 }]

/-- Every request is answered in 5 ms; of two workers the second one comes first. -/
def playTwoRuns : List (List DispatchLabel) :=
  let answer : Exchange :=
    { phases := {}, total := .millis 5
      result := .ok { status := 200, headers := [], body := [], protocol := "HTTP/1.1" } }
  let request w : List DispatchLabel :=
    [.run (.look w), .run (.take w), .run (.look w), .run (.start w), .run (.call w (.reply answer)), .run (.leave w),
      .run (.finish w)]
  let one := request 0 ++ [.proceed]
  [one ++ one, one, request 1 ++ request 0 ++ [.proceed]]

/-- The runs are these, nothing crashes in them, and what their calls return is within reach. -/
def showsTwoRuns (plans : List RunPlan) (events : List SuiteEvent) : Bool :=
  (schedule plans).map (fun e => (e.1.name, e.2)) == [("first", 1), ("first", 2), ("second", 1)] &&
    (inner events).all (!·.crashes) && (begun events).all fun c =>
      decide ((c.returned.map Sample.bytes).sum < Number.range64) && decide (c.returned.length < Number.range64) &&
        c.returned.all fun x => decide (x.total.nanos ≤ Duration.longest.nanos) && x.phases == {}

/-- Of two runs there are three reports, two comparisons and five calls, one of them in the warmup. -/
theorem schedule_followed_of_two :
    ∃ events made q o first second third,
      attempt (anywhere "script") none twoRuns ⟨none, false, ⟨0⟩⟩ events (.finished (.ok (made, false)) q) ∧
      outcome "script" Rule.standard .standard (made, false) = .ok o ∧ o.reports = [first, second, third] ∧
      o.reports.map (fun r => (r.name, r.iteration)) = [("first", 1), ("first", 2), ("second", 1)] ∧
      o.comparisons = [.between first second, .between first third] ∧ calls events = 5 := by
  have hplay : ((validate twoRuns).toOption.bind fun plans =>
      (playAll ⟨none, false, ⟨0⟩⟩ (schedule plans) playTwoRuns).map fun r =>
        !r.2.2.cancelled && showsTwoRuns plans r.1) = some true := by
    decide +kernel
  obtain ⟨plans, events, made, q, hplans, hrun, hattempt, hshown⟩ := exists_of_playAll
    (P := fun plans events _ => showsTwoRuns plans events) hplay
  simp only [showsTwoRuns, Bool.and_eq_true, beq_iff_eq, List.all_eq_true, Bool.not_eq_true', decide_eq_true_eq]
    at hshown
  obtain ⟨⟨hnames, hcrash⟩, hfits⟩ := hshown
  obtain ⟨hsome, hall⟩ := validate_eq_ok.mp hplans
  obtain ⟨hfollowed, _⟩ := schedule_followed hsome hall "script" none Rule.standard .standard
  obtain ⟨_, hanswer, hmade, hreported, _, _, hcalls⟩ := hfollowed _ _ _ _ hattempt
  obtain rfl : made = _ := congrArg Prod.fst (Except.ok.inj hanswer)
  have hreach : ∀ r ∈ made, r.WithinReach := by
    intro r hr
    obtain ⟨i, hi, rfl⟩ := List.getElem_of_mem hr
    have hcame := hmade.cameOf.get hi (hmade.cameOf.length_eq ▸ hi)
    obtain ⟨⟨hbytes, hcount⟩, hsamples⟩ := hfits _ (List.get_mem _ _)
    refine hcame.withinReach hbytes (.double hcount (fun x hx => (hsamples x hx).1) fun x hx phase d hd => ?_)
    rw [(hsamples x hx).2] at hd
    cases phase <;> cases hd
  obtain ⟨o, ho, hreports⟩ := hreported hreach
  rw [hrun] at ho
  have hinOrder := hreports.names
  rw [hmade.whole hrun, List.take_length, hnames] at hinOrder
  obtain ⟨first, second, third, hthree⟩ := List.length_eq_three.mp (by simpa using congrArg List.length hinOrder)
  refine ⟨events, made, q, o, first, second, third, hattempt, ho, hthree, hinOrder, ?_, ?_⟩
  · refine List.ext_getElem? fun i => ?_
    rw [hreports.comparisons, hthree]
    rcases i with _ | _ | i <;> rfl
  · exact hcalls (by simp [twoRuns]) hrun hcrash

/-! ## Calls that a crash prevents -/

/-- One run with two requests. -/
def oneRun : RunSettings := { url := "http://a/", requests := 2, concurrency := 1 }

/-- The first request takes the only worker down. -/
def playCrash : List DispatchLabel :=
  [.run (.look 0), .run (.take 0), .run (.look 0), .run (.start 0), .run (.call 0 .crash), .run (.leave 0), .proceed]

/-- **A crash prevents calls** where nothing is cancelled: of two requests the transport gets one. -/
theorem calls_of_crash :
    ∃ events made q,
      attempt (anywhere "script") none [oneRun] ⟨none, false, ⟨0⟩⟩ events (.finished (.ok (made, false)) q) ∧
      oneRun.cacheEnabled = false ∧ oneRun.deadline = none ∧ (∀ e ∈ events, ¬e.Cancels) ∧
      calls events = 1 ∧ oneRun.warmup + oneRun.iterations * oneRun.requests = 2 := by
  have hplay : ((validate [oneRun]).toOption.bind fun plans =>
      (playAll ⟨none, false, ⟨0⟩⟩ (schedule plans) [playCrash]).map fun r => !r.2.2.cancelled &&
        decide ((∀ e ∈ r.1, ¬e.Cancels) ∧ calls r.1 = 1)) = some true := by
    decide +kernel
  obtain ⟨_, events, made, q, _, _, hmade, hP⟩ := exists_of_playAll
    (P := fun _ events _ => decide ((∀ e ∈ events, ¬e.Cancels) ∧ calls events = 1)) hplay
  obtain ⟨hquiet, hcalls⟩ := of_decide_eq_true hP
  exact ⟨events, made, q, hmade, rfl, rfl, hquiet, hcalls, rfl⟩

end Suite

end HttpBench
