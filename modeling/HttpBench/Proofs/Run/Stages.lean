import HttpBench.Proofs.Run.Samples
import HttpBench.Run.Dispatch

/-!
# The stages of a dispatched run

A dispatched run goes through two runs, its warmup and the measured one. What happens to it is
split into what happens to either of them (`DispatchTransition.warmed?`, `.measured?`), and in
every state both parts are histories of the run in question (`Dispatch.Course`). So whatever holds
of all histories of runs holds of what a dispatched run leaves behind.
-/

namespace HttpBench

/-- What a label is to the run under way. -/
def DispatchLabel.inner : DispatchLabel → RunLabel
  | .run label => label
  | .proceed | .cancel | .expire => .cancel

namespace Dispatch

variable {d d' : Dispatch} {label : DispatchLabel} {plan : RunPlan} {shared : Option ResponseCache}
  {cancelled : Bool} {now : Instant} {result : RunResult}

/-- **What happens in one step** of a dispatched run: what each step needs, and where it leads. -/
inductive Happens (d : Dispatch) : DispatchLabel → Dispatch → Prop
  | warm {run run' : RunState} {inner : RunLabel} (hstage : d.stage = .warming run)
      (hrun : run.step inner = some run') : Happens d (.run inner) { d with stage := .warming run' }
  | measured {started : Instant} {run run' : RunState} {inner : RunLabel} (hstage : d.stage = .measuring started run)
      (hrun : run.step inner = some run') : Happens d (.run inner) { d with stage := .measuring started run' }
  | warmedUp {run : RunState} (hstage : d.stage = .warming run) (hdone : run.isDone = true) :
      Happens d .proceed (measure d.plan d.shared d.cancelled run.now)
  | finish {started : Instant} {run : RunState} {shared : Option ResponseCache}
      (hstage : d.stage = .measuring started run) (hdone : run.isDone = true) :
      Happens d .proceed { d with shared, stage := .done (d.plan.resultOf started run) }
  | cancelWarmup {run : RunState} (hstage : d.stage = .warming run) :
      Happens d .cancel { d with cancelled := true, stage := .warming { run with cancelled := true } }
  | cancelMeasured {started : Instant} {run : RunState} (hstage : d.stage = .measuring started run) :
      Happens d .cancel { d with cancelled := true, stage := .measuring started { run with cancelled := true } }
  | cancelDone {result : RunResult} (hstage : d.stage = .done result) : Happens d .cancel { d with cancelled := true }
  | expire {started : Instant} {run : RunState} (hstage : d.stage = .measuring started run) :
      Happens d .expire { d with stage := .measuring started { run with cancelled := true } }

/-- **A step is one of these.** -/
theorem happens_of_step (h : d.step label = some d') : d.Happens label d' := by
  cases label with
  | run inner =>
    obtain ⟨run, hrun, h⟩ := Option.bind_eq_some_iff.mp h
    obtain ⟨_, _, h⟩ := Option.bind_eq_some_iff.mp h
    obtain ⟨run', hstep, h⟩ := Option.bind_eq_some_iff.mp h
    obtain rfl := Option.some.inj h
    cases hstage : d.stage with
    | warming =>
      simp only [run?, setRun, hstage] at hrun ⊢
      cases hrun
      exact .warm hstage hstep
    | measuring =>
      simp only [run?, setRun, hstage] at hrun ⊢
      cases hrun
      exact .measured hstage hstep
    | done =>
      simp only [run?, hstage] at hrun
      cases hrun
  | proceed =>
    cases hstage : d.stage with
    | warming =>
      simp only [step, hstage, Option.ite_none_right_eq_some, Option.some.injEq] at h
      obtain ⟨hdone, rfl⟩ := h
      exact .warmedUp hstage hdone
    | measuring =>
      simp only [step, hstage, Option.ite_none_right_eq_some, Option.some.injEq] at h
      obtain ⟨hdone, rfl⟩ := h
      exact .finish hstage hdone
    | done =>
      simp only [step, hstage] at h
      cases h
  | cancel =>
    cases hstage : d.stage with
    | warming => simp only [step, run?, setRun, hstage] at h; cases h; exact .cancelWarmup hstage
    | measuring => simp only [step, run?, setRun, hstage] at h; cases h; exact .cancelMeasured hstage
    | done => simp only [step, run?, hstage] at h; cases h; rw [← hstage]; exact .cancelDone hstage
  | expire =>
    cases hstage : d.stage with
    | measuring =>
      simp only [step, hstage, Option.ite_none_right_eq_some, Option.some.injEq] at h
      obtain ⟨_, rfl⟩ := h
      exact .expire hstage
    | _ =>
      simp only [step, hstage] at h
      cases h

/-- One step of a dispatched run, as a relation. -/
def Next (d : Dispatch) (label : DispatchLabel) (d' : Dispatch) : Prop := d.step label = some d'

/-- **A history of a dispatched run** from a state on. -/
abbrev History (first : Dispatch) : List (Transition Dispatch DispatchLabel) → Dispatch → Prop :=
  HttpBench.History Next first

end Dispatch

/-- **A step of a dispatched run**, with the states around it. -/
abbrev DispatchTransition := Transition Dispatch DispatchLabel

namespace DispatchTransition

/-- The step that the warmup takes. -/
def warmed? (t : DispatchTransition) : Option RunTransition :=
  match t.before.stage, t.after.stage with
  | .warming run, .warming run' => some ⟨run, t.label.inner, run'⟩
  | _, _ => none

/-- The step that the measured run takes. -/
def measured? (t : DispatchTransition) : Option RunTransition :=
  match t.before.stage, t.after.stage with
  | .measuring _ run, .measuring _ run' => some ⟨run, t.label.inner, run'⟩
  | _, _ => none

/-- The step that either of the two runs takes. -/
def inner? (t : DispatchTransition) : Option RunTransition := t.warmed?.or t.measured?

theorem inner?_of_measured? {t : DispatchTransition} {r : RunTransition} (h : t.measured? = some r) :
    t.inner? = some r := by
  have hwarmed : t.warmed? = none := by
    unfold measured? at h
    unfold warmed?
    split at h
    next hb _ => simp [hb]
    next => cases h
  rw [inner?, hwarmed, h, Option.or]

theorem label_of_inner? {t : DispatchTransition} {r : RunTransition} (h : t.inner? = some r) :
    r.label = t.label.inner := by
  rcases Option.or_eq_some_iff.mp h with h | ⟨_, h⟩
  · unfold warmed? at h
    split at h
    next => rw [← Option.some.inj h]
    next => cases h
  · unfold measured? at h
    split at h
    next => rw [← Option.some.inj h]
    next => cases h

variable {steps : List DispatchTransition} {r : RunTransition}

theorem mem_inner_of_measured (h : r ∈ steps.filterMap measured?) : r ∈ steps.filterMap inner? := by
  obtain ⟨t, ht, hr⟩ := List.mem_filterMap.mp h
  exact List.mem_filterMap.mpr ⟨t, ht, inner?_of_measured? hr⟩

theorem mem_inner_of_warmed (h : r ∈ steps.filterMap warmed?) : r ∈ steps.filterMap inner? := by
  obtain ⟨t, ht, hr⟩ := List.mem_filterMap.mp h
  exact List.mem_filterMap.mpr ⟨t, ht, by rw [inner?, hr, Option.or]⟩

theorem warmed_or_measured (h : r ∈ steps.filterMap inner?) :
    r ∈ steps.filterMap warmed? ∨ r ∈ steps.filterMap measured? := by
  obtain ⟨t, ht, hr⟩ := List.mem_filterMap.mp h
  rcases Option.or_eq_some_iff.mp hr with hr | ⟨_, hr⟩
  · exact .inl (List.mem_filterMap.mpr ⟨t, ht, hr⟩)
  · exact .inr (List.mem_filterMap.mpr ⟨t, ht, hr⟩)

end DispatchTransition

namespace Dispatch

variable {d d' : Dispatch} {label : DispatchLabel} {plan : RunPlan} {shared : Option ResponseCache}
  {cancelled : Bool} {now : Instant} {result : RunResult} {steps : List DispatchTransition}
  {warmed measured : List RunTransition} {stage : DispatchStage}

/-- **The course of a dispatched run**: how its two runs got where they are. -/
inductive Course (plan : RunPlan) (shared : Option ResponseCache) (cancelled : Bool) (now : Instant)
    (warmed measured : List RunTransition) : DispatchStage → Prop
  | warming {run : RunState} (warmup : (plan.warmupRun cancelled now).History warmed run) (hnone : measured = []) :
      Course plan shared cancelled now warmed measured (.warming run)
  | measuring {warmup run : RunState} {early : Bool} {started : Instant}
      (warmup : (plan.warmupRun cancelled now).History warmed warmup)
      (past : (plan.measuredRun shared early started).History measured run) :
      Course plan shared cancelled now warmed measured (.measuring started run)
  | done {warmup run : RunState} {early : Bool} {started : Instant}
      (warmup : (plan.warmupRun cancelled now).History warmed warmup)
      (past : (plan.measuredRun shared early started).History measured run) (hdone : run.isDone = true) :
      Course plan shared cancelled now warmed measured (.done (plan.resultOf started run))

/-- **A step goes on with one of the two runs**, or ends it. -/
theorem Course.step (h : Course plan shared cancelled now warmed measured d.stage) (hplan : d.plan = plan)
    (hshared : (∃ result, d.stage = .done result) ∨ d.shared = shared) (hstep : d.step label = some d') :
    Course plan shared cancelled now (warmed ++ (DispatchTransition.warmed? ⟨d, label, d'⟩).toList)
      (measured ++ (DispatchTransition.measured? ⟨d, label, d'⟩).toList) d'.stage := by
  cases happens_of_step hstep with
  | warm hstage hrun =>
    simp only [DispatchTransition.warmed?, DispatchTransition.measured?, hstage] at h ⊢
    obtain ⟨warmup, rfl⟩ := h
    exact .warming (warmup.step hrun) rfl
  | cancelWarmup hstage =>
    simp only [DispatchTransition.warmed?, DispatchTransition.measured?, hstage] at h ⊢
    obtain ⟨warmup, rfl⟩ := h
    exact .warming (warmup.step rfl) rfl
  | measured hstage hrun =>
    simp only [DispatchTransition.warmed?, DispatchTransition.measured?, hstage, Option.toList, List.append_nil] at h ⊢
    obtain _ | ⟨warmup, past⟩ := h
    exact .measuring warmup (past.step hrun)
  | cancelMeasured hstage | expire hstage =>
    simp only [DispatchTransition.warmed?, DispatchTransition.measured?, hstage, Option.toList, List.append_nil] at h ⊢
    obtain _ | ⟨warmup, past⟩ := h
    exact .measuring warmup (past.step rfl)
  | warmedUp hstage =>
    have hshared : d.shared = shared := hshared.resolve_left fun ⟨_, hdone⟩ => by rw [hstage] at hdone; cases hdone
    simp only [DispatchTransition.warmed?, DispatchTransition.measured?, hstage, measure, hplan, hshared,
      Option.toList, List.append_nil] at h ⊢
    obtain ⟨warmup, rfl⟩ := h
    exact .measuring warmup .start
  | finish hstage hdone =>
    simp only [DispatchTransition.warmed?, DispatchTransition.measured?, hstage, hplan, Option.toList,
      List.append_nil] at h ⊢
    obtain _ | ⟨warmup, past⟩ := h
    exact .done warmup past hdone
  | cancelDone hstage =>
    simp only [DispatchTransition.warmed?, DispatchTransition.measured?, hstage, Option.toList, List.append_nil] at h ⊢
    exact h

/-- A step keeps the plan, and leaves the shared cache alone until the measured run is over. -/
theorem step_plan (hstep : d.step label = some d') :
    d'.plan = d.plan ∧ ((∃ result, d'.stage = .done result) ∨ d'.shared = d.shared) := by
  cases happens_of_step hstep with
  | finish => exact ⟨rfl, .inl ⟨_, rfl⟩⟩
  | _ => exact ⟨rfl, .inr rfl⟩

/-- What is over stays so. -/
theorem step_done (hstep : d.step label = some d') (hdone : d.stage = .done result) : d'.stage = .done result := by
  cases happens_of_step hstep with
  | cancelDone => exact hdone
  | warm hstage | measured hstage | warmedUp hstage | finish hstage | cancelWarmup hstage | cancelMeasured hstage
  | expire hstage =>
    rw [hstage] at hdone
    cases hdone

/-- The plan is that of the beginning, and so is the shared cache until the measured run is over. -/
theorem plan_eq (past : (begin plan shared cancelled now).History steps d) :
    d.plan = plan ∧ ((∃ result, d.stage = .done result) ∨ d.shared = shared) := by
  induction past with
  | start =>
    unfold begin
    split <;> exact ⟨rfl, .inr rfl⟩
  | step _ hstep ih =>
    obtain ⟨hplan, hshared⟩ := ih
    obtain ⟨hplan', hshared'⟩ := step_plan hstep
    refine ⟨hplan'.trans hplan, ?_⟩
    rcases hshared with ⟨result, hdone⟩ | hshared
    · exact .inl ⟨result, step_done hstep hdone⟩
    · exact hshared'.imp id (·.trans hshared)

/-- **In every state** both runs have a history. -/
theorem course (past : (begin plan shared cancelled now).History steps d) :
    Course plan shared cancelled now (steps.filterMap DispatchTransition.warmed?)
      (steps.filterMap DispatchTransition.measured?) d.stage := by
  induction past with
  | start =>
    unfold begin
    split
    · exact .warming .start rfl
    · exact .measuring .start .start
  | @step steps s s' label before hstep ih =>
    obtain ⟨hplan, hshared⟩ := plan_eq before
    have hnext := ih.step hplan hshared hstep
    rw [List.filterMap_append, List.filterMap_append]
    convert hnext using 2
    · cases hw : DispatchTransition.warmed? ⟨s, label, s'⟩ <;> simp [hw]
    · cases hm : DispatchTransition.measured? ⟨s, label, s'⟩ <;> simp [hm]

/-- The warmup has a history in every state, also when there is none to make. -/
theorem warmup_history (past : (begin plan shared cancelled now).History steps d) :
    ∃ run, (plan.warmupRun cancelled now).History (steps.filterMap DispatchTransition.warmed?) run := by
  have h := course past
  generalize d.stage = stage at h
  cases h with
  | warming warmup | measuring warmup | done warmup => exact ⟨_, warmup⟩

/-- So has the measured run, unless it has not begun. -/
theorem measured_history (past : (begin plan shared cancelled now).History steps d) :
    steps.filterMap DispatchTransition.measured? = [] ∨ ∃ early started run,
      (plan.measuredRun shared early started).History (steps.filterMap DispatchTransition.measured?) run := by
  have h := course past
  generalize d.stage = stage at h
  cases h with
  | warming _ hnone => exact .inl hnone
  | measuring _ past | done _ past => exact .inr ⟨_, _, _, past⟩

/-- **A dispatched run that is over** has measured a run to its end. -/
theorem run_of_done (past : (begin plan shared cancelled now).History steps d) (hdone : d.stage = .done result) :
    ∃ early started run,
      (plan.measuredRun shared early started).History (steps.filterMap DispatchTransition.measured?) run ∧
        run.isDone = true ∧ result = plan.resultOf started run := by
  have h := course past
  rw [hdone] at h
  obtain _ | _ | ⟨_, past, hrun⟩ := h
  exact ⟨_, _, _, past, hrun, rfl⟩

/-! ## Runs that are played -/

/-- The result of a dispatched run that is over. -/
def result? (d : Dispatch) : Option RunResult :=
  match d.stage with
  | .done result => some result
  | _ => none

theorem stage_of_result (h : d.result? = some result) : d.stage = .done result := by
  unfold result? at h
  split at h
  next hstage => exact hstage.trans (congrArg _ (Option.some.inj h))
  next => cases h

/-- Labels that can be played to the end make a history of a checked run, of all that can happen or of less. -/
theorem exists_of_play {next : Dispatch → DispatchLabel → Option Dispatch} {settings : RunSettings}
    {labels : List DispatchLabel} {P : List DispatchTransition → RunResult → Bool}
    (h : (settings.validate.toOption.bind fun plan =>
      (playFrom next (begin plan shared cancelled now) labels).bind fun r => r.2.result?.map (P r.1)) = some true) :
    ∃ plan steps d result, settings.validate = .ok plan ∧
      HttpBench.History (fun d label d' => next d label = some d') (begin plan shared cancelled now) steps d ∧
      d.stage = .done result ∧ P steps result = true := by
  obtain ⟨plan, hplan, h⟩ := Option.bind_eq_some_iff.mp h
  obtain ⟨r, hplayed, h⟩ := Option.bind_eq_some_iff.mp h
  obtain ⟨result, hresult, hP⟩ := Option.map_eq_some_iff.mp h
  refine ⟨plan, r.1, r.2, result, ?_, HttpBench.History.of_playFrom hplayed, stage_of_result hresult, hP⟩
  cases hv : settings.validate with
  | error e => rw [hv] at hplan; cases hplan
  | ok plan' => rw [hv] at hplan; exact congrArg _ (Option.some.inj hplan)

end Dispatch

end HttpBench
