import HttpBench.Proofs.Run.Endings
import HttpBench.Suite

/-!
# What can happen to a suite

A suite runs wherever it is given a venue. `Possibly.anywhere` is a venue where everything can happen
that can: time passes and the suite is cancelled at any moment, in between its runs and within them,
and every run takes any course that its machine allows. An action is there what it can lead to, from
where it begins, with what happens on the way; it may stand anywhere in between as well. So what holds
of `Suite.run` at this venue holds of it for every order of the workers, every answer of the transport
and every moment of a cancellation.

`Suite.Makes` lists what can come of a schedule, and is read off the program once
(`Suite.makes_of_runAll`). Conversely a schedule can be played, with nothing in between its runs, and what is
played is something that a suite can come to (`Suite.exists_of_playAll`).
-/

namespace HttpBench

/-- **What the runs of a suite share.** -/
structure Scene where
  shared : Option ResponseCache
  /-- the suite has been cancelled -/
  cancelled : Bool
  now : Instant

/-- **What can happen besides the runs** of a suite. -/
inductive Aside where
  | cancel
  | purge
  | pass (d : Duration)

/-- The suite is cancelled. -/
def Aside.isCancel : Aside → Bool
  | .cancel => true
  | _ => false

namespace Scene

def aside (p : Scene) : Aside → Scene
  | .cancel => { p with cancelled := true }
  | .purge => { p with shared := p.shared.map fun k => { k with store := (k.store.purge p.now).1 } }
  | .pass d => { p with now := p.now.after d }

def afterAll (p : Scene) (asides : List Aside) : Scene := asides.foldl aside p

/-- A run begins. -/
def begin (p : Scene) (plan : RunPlan) : Dispatch := .begin plan p.shared p.cancelled p.now

/-- What a run leaves behind for the next. -/
def afterRun (d : Dispatch) (result : RunResult) : Scene :=
  { shared := d.shared, cancelled := d.cancelled, now := result.started.after result.elapsed }

/-- Nobody is at work on the shared cache. -/
def Unused (p : Scene) : Prop := ResponseCache.Unused p.shared

theorem afterAll_append (p : Scene) (before after : List Aside) :
    p.afterAll (before ++ after) = (p.afterAll before).afterAll after :=
  List.foldl_append

theorem cancelled_afterAll (p : Scene) (asides : List Aside) :
    (p.afterAll asides).cancelled = true ↔ p.cancelled = true ∨ ∃ a ∈ asides, a.isCancel = true := by
  induction asides generalizing p with
  | nil => simp [afterAll]
  | cons a asides ih =>
    refine (ih (p.aside a)).trans ?_
    cases a <;> simp [aside, Aside.isCancel]

/-- What has not been cancelled after all was not cancelled before. -/
theorem running_of_afterAll {p : Scene} {asides : List Aside} (h : (p.afterAll asides).cancelled = false) :
    p.cancelled = false :=
  Bool.eq_false_iff.mpr fun hcancelled => Bool.eq_false_iff.mp h ((p.cancelled_afterAll asides).mpr (.inl hcancelled))

theorem Unused.afterAll {p : Scene} (h : p.Unused) (asides : List Aside) : (p.afterAll asides).Unused := by
  induction asides generalizing p with
  | nil => exact h
  | cons a asides ih =>
    refine ih ?_
    cases a with
    | cancel | pass => exact h
    | purge =>
      intro cache hcache
      obtain ⟨before, hbefore, rfl⟩ := Option.map_eq_some_iff.mp hcache
      exact h before hbefore

end Scene

/-- **What happens** in the course of a suite: a run that begins and has taken some steps, or something
else. -/
inductive SuiteEvent where
  | aside (a : Aside)
  | dispatched (first : Dispatch) (steps : List DispatchTransition)

namespace SuiteEvent

/-- The run that begins, with its steps. -/
def run? : SuiteEvent → Option (Dispatch × List DispatchTransition)
  | .aside _ => none
  | .dispatched first steps => some (first, steps)

/-- The suite is cancelled. -/
def Cancels : SuiteEvent → Prop
  | .aside a => a.isCancel = true
  | .dispatched _ steps => ∃ t ∈ steps, t.label.isCancel = true

instance (e : SuiteEvent) : Decidable e.Cancels :=
  match e with
  | .aside a => inferInstanceAs (Decidable (a.isCancel = true))
  | .dispatched _ steps => inferInstanceAs (Decidable (∃ t ∈ steps, t.label.isCancel = true))

/-- What happens by itself, while the transport gives always the same answer. -/
def IsOwn (x : Exchange) : SuiteEvent → Prop
  | .aside _ => False
  | .dispatched _ steps => ∀ t ∈ steps, t.label.IsOwn x

end SuiteEvent

/-- **How far an action has got**: to a moment in between, into a run, or to its end. -/
inductive Standing (A : Type) where
  | between (p : Scene)
  | within (d : Dispatch)
  | finished (a : A) (p : Scene)

/-- **What an action can come to**, from where it begins. -/
def Possibly (A : Type) : Type := Scene → List SuiteEvent → Standing A → Prop

namespace Possibly

variable {A B : Type}

/-- One action after another. -/
inductive Both (m : Possibly A) (f : A → Possibly B) (p : Scene) : List SuiteEvent → Standing B → Prop
  | between {events : List SuiteEvent} {q : Scene} (h : m p events (.between q)) : Both m f p events (.between q)
  | within {events : List SuiteEvent} {d : Dispatch} (h : m p events (.within d)) : Both m f p events (.within d)
  | finished {before after : List SuiteEvent} {a : A} {q : Scene} {standing : Standing B}
      (h : m p before (.finished a q)) (h' : f a q after standing) : Both m f p (before ++ after) standing

instance : Monad Possibly where
  pure a := fun p events standing => events = [] ∧ standing = .finished a p
  bind := Both

/-- **What takes no run**: something may happen meanwhile. -/
inductive Meanwhile (answer : Scene → A → Prop) (p : Scene) : List SuiteEvent → Standing A → Prop
  | before (asides : List Aside) : Meanwhile answer p (asides.map .aside) (.between (p.afterAll asides))
  | finished (asides : List Aside) {a : A} (ha : answer (p.afterAll asides) a) :
      Meanwhile answer p (asides.map .aside) (.finished a (p.afterAll asides))

/-- **What takes a run**, which begins sooner or later. -/
inductive Dispatching (plan : RunPlan) (p : Scene) : List SuiteEvent → Standing RunResult → Prop
  | before (asides : List Aside) : Dispatching plan p (asides.map .aside) (.between (p.afterAll asides))
  | within (asides : List Aside) {steps : List DispatchTransition} {d : Dispatch}
      (past : ((p.afterAll asides).begin plan).History steps d) :
      Dispatching plan p (asides.map .aside ++ [.dispatched ((p.afterAll asides).begin plan) steps]) (.within d)
  | finished (asides : List Aside) {steps : List DispatchTransition} {d : Dispatch} {result : RunResult}
      (past : ((p.afterAll asides).begin plan).History steps d) (hdone : d.stage = .done result) :
      Dispatching plan p (asides.map .aside ++ [.dispatched ((p.afterAll asides).begin plan) steps])
        (.finished result (.afterRun d result))

/-- **A venue where everything can happen.** -/
def anywhere (name : String) : Venue Possibly where
  transport := name
  isCancelled := Meanwhile fun p answer => answer = p.cancelled
  dispatch := Dispatching
  startMonitor _ := Meanwhile fun _ _ => True
  stopMonitor := Meanwhile fun _ _ => True
  say _ := Meanwhile fun _ _ => True

variable {p q : Scene} {events : List SuiteEvent} {a a' : A} {b : B} {m : Possibly A} {f : A → Possibly B}
  {answer : Scene → A → Prop} {standing : Standing B}

theorem pure_finished : (pure a : Possibly A) p events (.finished a' q) ↔ events = [] ∧ a' = a ∧ q = p := by
  refine and_congr_right fun _ => ?_
  rw [Standing.finished.injEq]

/-- **Two actions are over** when both are. -/
theorem bind_finished :
    (m >>= f) p events (.finished b q) ↔
      ∃ before after a p', events = before ++ after ∧ m p before (.finished a p') ∧ f a p' after (.finished b q) := by
  constructor
  · intro h
    obtain _ | _ | ⟨h, h'⟩ := h
    exact ⟨_, _, _, _, rfl, h, h'⟩
  · rintro ⟨before, after, a, p', rfl, h, h'⟩
    exact .finished h h'

/-- After an action in which nothing happens the second one goes on from the same scene, ... -/
theorem bind_of_silent (h : m p [] (.finished a p)) (h' : f a p events standing) : (m >>= f) p events standing :=
  Both.finished h h'

/-- ... and nothing need happen in the second one. -/
theorem bind_of_settled (h : m p events (.finished a q)) (h' : f a q [] standing) : (m >>= f) p events standing := by
  have hboth : (m >>= f) p (events ++ []) standing := Both.finished h h'
  rwa [List.append_nil] at hboth

theorem meanwhile_finished :
    Meanwhile answer p events (.finished a q) ↔
      ∃ asides : List Aside, events = asides.map .aside ∧ q = p.afterAll asides ∧ answer q a := by
  constructor
  · rintro ⟨⟩
    next asides ha => exact ⟨asides, rfl, rfl, ha⟩
  · rintro ⟨asides, rfl, rfl, ha⟩
    exact .finished asides ha

theorem dispatching_finished {plan : RunPlan} {result : RunResult}
    (h : Dispatching plan p events (.finished result q)) :
    ∃ (asides : List Aside) (steps : List DispatchTransition) (d : Dispatch),
      events = asides.map .aside ++ [.dispatched ((p.afterAll asides).begin plan) steps] ∧
      ((p.afterAll asides).begin plan).History steps d ∧ d.stage = .done result ∧ q = .afterRun d result := by
  cases h with
  | finished asides past hdone => exact ⟨asides, _, _, rfl, past, hdone, rfl⟩

end Possibly

/-! ## What can come of a schedule -/

namespace Suite

open Possibly

variable {name : String} {interval : Option Duration} {p q : Scene} {events : List SuiteEvent} {plan : RunPlan}
  {iteration : Nat} {made : List SuiteRun} {r : SuiteRun} {entries : List (RunPlan × Nat)}

/-- **What comes of a schedule** from some scene on: its runs are made one after another, unless the suite
has been cancelled before one of them. -/
inductive Makes : Scene → List (RunPlan × Nat) → List SuiteEvent → List SuiteRun → Scene → Prop
  | ended {p : Scene} : Makes p [] [] [] p
  | stopped {p : Scene} {entry : RunPlan × Nat} {entries : List (RunPlan × Nat)} (asides : List Aside)
      (hstop : (p.afterAll asides).cancelled = true) :
      Makes p (entry :: entries) (asides.map .aside) [] (p.afterAll asides)
  | made {p q : Scene} {plan : RunPlan} {iteration : Nat} {entries : List (RunPlan × Nat)} {r : SuiteRun}
      {steps : List DispatchTransition} {d : Dispatch} {events : List SuiteEvent} {made : List SuiteRun}
      (looked before after : List Aside) (hgo : (p.afterAll looked).cancelled = false)
      (past : (((p.afterAll looked).afterAll before).begin (planFor plan iteration)).History steps d)
      (hdone : d.stage = .done r.result) (hiteration : r.iteration = iteration)
      (hrest : Makes ((Scene.afterRun d r.result).afterAll after) entries events made q) :
      Makes p ((plan, iteration) :: entries)
        (looked.map .aside ++ (before.map .aside ++
          .dispatched (((p.afterAll looked).afterAll before).begin (planFor plan iteration)) steps ::
          after.map .aside) ++ events) (r :: made) q

/-- **One run is made**, and something may happen before and after it. -/
theorem runOnce_finished (h : runOnce (anywhere name) interval plan iteration p events (.finished r q)) :
    ∃ before after steps d,
      events = before.map .aside ++ .dispatched ((p.afterAll before).begin (planFor plan iteration)) steps ::
        after.map .aside ∧
      ((p.afterAll before).begin (planFor plan iteration)).History steps d ∧ d.stage = .done r.result ∧
      r.iteration = iteration ∧ q = (Scene.afterRun d r.result).afterAll after := by
  cases interval with
  | none =>
    obtain ⟨_, _, _, _, rfl, hsaid, h⟩ := bind_finished.mp h
    obtain ⟨said, rfl, rfl, _⟩ := meanwhile_finished.mp hsaid
    obtain ⟨_, _, result, _, rfl, hrun, h⟩ := bind_finished.mp h
    obtain ⟨asides, steps, d, rfl, past, hdone, rfl⟩ := dispatching_finished hrun
    obtain ⟨_, _, _, _, rfl, hnone, h⟩ := bind_finished.mp h
    obtain ⟨rfl, rfl, rfl⟩ := pure_finished.mp hnone
    obtain ⟨rfl, rfl, rfl⟩ := pure_finished.mp h
    rw [← Scene.afterAll_append] at past ⊢
    exact ⟨said ++ asides, [], steps, d, by simp, past, hdone, rfl, rfl⟩
  | some interval =>
    obtain ⟨_, _, _, _, rfl, hsaid, h⟩ := bind_finished.mp h
    obtain ⟨said, rfl, rfl, _⟩ := meanwhile_finished.mp hsaid
    obtain ⟨_, _, _, _, rfl, hstarted, h⟩ := bind_finished.mp h
    obtain ⟨started, rfl, rfl, _⟩ := meanwhile_finished.mp hstarted
    obtain ⟨_, _, result, _, rfl, hrun, h⟩ := bind_finished.mp h
    obtain ⟨asides, steps, d, rfl, past, hdone, rfl⟩ := dispatching_finished hrun
    obtain ⟨_, _, _, _, rfl, hstopped, h⟩ := bind_finished.mp h
    obtain ⟨stopped, rfl, rfl, _⟩ := meanwhile_finished.mp hstopped
    obtain ⟨rfl, rfl, rfl⟩ := pure_finished.mp h
    rw [← Scene.afterAll_append, ← Scene.afterAll_append] at past ⊢
    exact ⟨said ++ (started ++ asides), stopped, steps, d, by simp, past, hdone, rfl, rfl⟩

/-- **Whatever comes of a schedule** is one of these. -/
theorem makes_of_runAll (h : runAll (anywhere name) interval entries p events (.finished made q)) :
    Makes p entries events made q := by
  induction entries generalizing p events made with
  | nil =>
    obtain ⟨rfl, rfl, rfl⟩ := pure_finished.mp h
    exact .ended
  | cons entry entries ih =>
    obtain ⟨plan, iteration⟩ := entry
    obtain ⟨_, _, stop, _, rfl, hlooked, h⟩ := bind_finished.mp h
    obtain ⟨looked, rfl, rfl, rfl⟩ := meanwhile_finished.mp hlooked
    split at h
    next hstop =>
      obtain ⟨rfl, rfl, rfl⟩ := pure_finished.mp h
      rw [List.append_nil]
      exact .stopped looked hstop
    next hgo =>
      obtain ⟨_, _, r, _, rfl, hrun, h⟩ := bind_finished.mp h
      obtain ⟨_, _, rest, _, rfl, hrest, h⟩ := bind_finished.mp h
      obtain ⟨rfl, rfl, rfl⟩ := pure_finished.mp h
      obtain ⟨before, after, steps, d, rfl, past, hdone, hiteration, rfl⟩ := runOnce_finished hrun
      have hmakes := Makes.made looked before after (Bool.eq_false_iff.mpr hgo) past hdone hiteration (ih hrest)
      simpa using hmakes

/-- **A suite of checked runs** makes those of its schedule, and says whether it has been cancelled. -/
theorem makes_of_attempt {settings : List RunSettings} {plans : List RunPlan}
    {answer : Except SetupError (List SuiteRun × Bool)} (hplans : validate settings = .ok plans)
    (h : attempt (anywhere name) interval settings p events (.finished answer q)) :
    ∃ (before after : List Aside) (middle : List SuiteEvent) (made : List SuiteRun) (p' : Scene),
      events = before.map .aside ++ middle ++ after.map .aside ∧
      Makes (p.afterAll before) (schedule plans) middle made p' ∧ q = p'.afterAll after ∧
      answer = .ok (made, q.cancelled) := by
  unfold attempt at h
  rw [hplans] at h
  obtain ⟨_, _, _, _, rfl, h, hanswer⟩ := bind_finished.mp h
  obtain ⟨rfl, rfl, rfl⟩ := pure_finished.mp hanswer
  obtain ⟨_, _, _, _, rfl, hsaid, h⟩ := bind_finished.mp h
  obtain ⟨said, rfl, rfl, _⟩ := meanwhile_finished.mp hsaid
  obtain ⟨_, _, made, p', rfl, hmade, h⟩ := bind_finished.mp h
  obtain ⟨_, _, cancelled, _, rfl, hlooked, h⟩ := bind_finished.mp h
  obtain ⟨looked, rfl, rfl, rfl⟩ := meanwhile_finished.mp hlooked
  have hmakes := makes_of_runAll hmade
  split at h
  next hcancelled =>
    obtain ⟨_, _, _, _, rfl, hwarned, h⟩ := bind_finished.mp h
    obtain ⟨warned, rfl, rfl, _⟩ := meanwhile_finished.mp hwarned
    obtain ⟨rfl, rfl, rfl⟩ := pure_finished.mp h
    have hstill := ((p'.afterAll looked).cancelled_afterAll warned).mpr (.inl hcancelled)
    refine ⟨said, looked ++ warned, _, made, p', by simp, hmakes, (Scene.afterAll_append ..).symm, ?_⟩
    rw [hcancelled, hstill]
  next =>
    obtain ⟨rfl, rfl, rfl⟩ := pure_finished.mp h
    exact ⟨said, looked, _, made, p', by simp, hmakes, rfl, rfl⟩

/-! ## Suites that are played -/

/-- **Play a schedule**: one run after another takes the labels that are given for it, and nothing else happens. -/
def playAll (p : Scene) :
    List (RunPlan × Nat) → List (List DispatchLabel) → Option (List SuiteEvent × List SuiteRun × Scene)
  | [], [] => some ([], [], p)
  | (plan, iteration) :: entries, labels :: rest =>
    if p.cancelled then none else do
      let first := p.begin (planFor plan iteration)
      let (steps, d) ← playFrom Dispatch.step first labels
      let result ← d.result?
      let (events, made, q) ← playAll (.afterRun d result) entries rest
      some (.dispatched first steps :: events, { iteration, result, resources := none } :: made, q)
  | _, _ => none

/-- A schedule that is played is carried out. -/
theorem runAll_of_playAll {labels : List (List DispatchLabel)}
    (h : playAll p entries labels = some (events, made, q)) :
    runAll (anywhere name) none entries p events (.finished made q) := by
  induction entries generalizing p labels events made with
  | nil =>
    cases labels with
    | nil =>
      cases h
      exact pure_finished.mpr ⟨rfl, rfl, rfl⟩
    | cons => cases h
  | cons entry entries ih =>
    obtain ⟨plan, iteration⟩ := entry
    cases labels with
    | nil => cases h
    | cons labels rest =>
      unfold playAll at h
      split at h
      next => cases h
      next hgo =>
        obtain ⟨⟨steps, d⟩, hplayed, h⟩ := Option.bind_eq_some_iff.mp h
        obtain ⟨result, hresult, h⟩ := Option.bind_eq_some_iff.mp h
        obtain ⟨⟨later, others, last⟩, hrest, h⟩ := Option.bind_eq_some_iff.mp h
        cases h
        have past : (p.begin (planFor plan iteration)).History steps d := .of_playFrom hplayed
        have hmade : runOnce (anywhere name) none plan iteration p
            [.dispatched (p.begin (planFor plan iteration)) steps]
            (.finished { iteration, result, resources := none } (.afterRun d result)) := by
          refine bind_of_silent (a := ()) (.finished [] trivial) ?_
          refine bind_of_settled (a := result) (.finished [] past (Dispatch.stage_of_result hresult)) ?_
          exact bind_of_silent (a := none) ⟨rfl, rfl⟩ ⟨rfl, rfl⟩
        refine bind_of_silent (a := false) (.finished [] (Bool.eq_false_iff.mpr hgo).symm) ?_
        refine .finished hmade ?_
        exact bind_of_settled (ih hrest) ⟨rfl, rfl⟩

/-- **Labels that can be played** to the end of a schedule make a suite. -/
theorem exists_of_playAll {settings : List RunSettings} {labels : List (List DispatchLabel)}
    {P : List RunPlan → List SuiteEvent → List SuiteRun → Bool}
    (h : ((validate settings).toOption.bind fun plans => (playAll p (schedule plans) labels).map fun r =>
      !r.2.2.cancelled && P plans r.1 r.2.1) = some true) :
    ∃ plans events made q, validate settings = .ok plans ∧ q.cancelled = false ∧
      attempt (anywhere name) none settings p events (.finished (.ok (made, false)) q) ∧
      P plans events made = true := by
  obtain ⟨plans, hplans, h⟩ := Option.bind_eq_some_iff.mp h
  obtain ⟨⟨events, made, q⟩, hplayed, h⟩ := Option.map_eq_some_iff.mp h
  rw [Bool.and_eq_true, Bool.not_eq_true'] at h
  obtain ⟨hrun, hP⟩ := h
  have hchecked : validate settings = .ok plans := by
    cases hv : validate settings with
    | error e =>
      rw [hv] at hplans
      cases hplans
    | ok checked =>
      rw [hv] at hplans
      exact congrArg _ (Option.some.inj hplans)
  refine ⟨plans, events, made, q, hchecked, hrun, ?_, hP⟩
  unfold attempt
  rw [hchecked]
  refine bind_of_settled (a := (made, false)) ?_ ⟨rfl, rfl⟩
  refine bind_of_silent (a := ()) (.finished [] trivial) ?_
  refine bind_of_settled (runAll_of_playAll hplayed) ?_
  exact bind_of_silent (a := false) (.finished [] hrun.symm) ⟨rfl, rfl⟩

end Suite

end HttpBench
