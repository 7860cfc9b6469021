import HttpBench.Proofs.Run.Results

/-!
# What a crash costs

A worker keeps the samples that its calls have returned and hands them over when it is done. One that
is taken down by the transport hands over nothing: it loses the request that it was inside, and every
sample that it had. So the samples of a run are those that were returned to workers which never crash
(`Dispatch.samples_kept`), and a crash leaves the samples of all other workers alone.

A worker that sees a cancellation loses only the request that it was inside.
-/

namespace HttpBench

namespace RunTransition

variable {t : RunTransition} {w : Nat} {x : Sample}

/-- A sample is returned to a worker that leaves its request. -/
theorem label_of_returned (h : t.returned? = some x) (hw : RunState.worker? t.label = some w) : t.label = .leave w := by
  unfold returned? at h
  split at h
  next v hlabel =>
    rw [hlabel] at hw
    rw [hlabel, Option.some.inj hw]
  next => cases h

theorem label_of_crashes (h : t.crashes = true) : ∃ w, t.label = .call w .crash := by
  unfold crashes at h
  split at h
  next w hlabel => exact ⟨w, hlabel⟩
  next => cases h

end RunTransition

namespace RunState

variable {first s s' : RunState} {label : RunLabel} {steps : List RunTransition} {w : Nat} {worker : Worker}

/-- **A sample was returned to a worker** in one of these steps. -/
def ReturnedTo (steps : List RunTransition) (w : Nat) (x : Sample) : Prop :=
  ∃ t ∈ steps, t.label = .leave w ∧ t.returned? = some x

/-- **The transport took a worker down** in one of these steps. -/
def TakenDown (steps : List RunTransition) (w : Nat) : Prop := ∃ t ∈ steps, t.label = .call w .crash

theorem returnedTo_snoc {t : RunTransition} {x : Sample} :
    ReturnedTo (steps ++ [t]) w x ↔ ReturnedTo steps w x ∨ t.label = .leave w ∧ t.returned? = some x := by
  simp only [ReturnedTo, List.mem_append, List.mem_singleton, or_and_right, exists_or, exists_eq_left]

theorem takenDown_snoc {t : RunTransition} : TakenDown (steps ++ [t]) w ↔ TakenDown steps w ∨ t.label = .call w .crash := by
  simp only [TakenDown, List.mem_append, List.mem_singleton, or_and_right, exists_or, exists_eq_left]

/-- A worker has crashed, or its call is known to end so. -/
def IsDown (s : RunState) (w : Nat) (worker : Worker) : Prop :=
  worker.stage = .crashed ∨ s.executor.ending? w = some .crash

/-- **What a worker has**: the samples returned to it, and it is down if it has been taken down. -/
structure Keeps (steps : List RunTransition) (s : RunState) (w : Nat) (worker : Worker) : Prop where
  samples : ∀ x, x ∈ worker.samples ↔ ReturnedTo steps w x
  down : IsDown s w worker ↔ TakenDown steps w

namespace Keeps

variable {worker' : Worker}

/-- A step that neither returns a sample to a worker nor takes it down leaves it what it has. -/
theorem snoc (h : Keeps steps s w worker) (hsamples : worker'.samples = worker.samples)
    (hdown : IsDown s' w worker' ↔ IsDown s w worker)
    (hreturned : label = .leave w → RunTransition.returned? ⟨s, label, s'⟩ = none) (hcrash : label ≠ .call w .crash) :
    Keeps (steps ++ [⟨s, label, s'⟩]) s' w worker' := by
  constructor
  · intro x
    rw [hsamples, h.samples, returnedTo_snoc]
    refine (or_iff_left ?_).symm
    rintro ⟨hleave, hx⟩
    rw [hreturned hleave] at hx
    cases hx
  · rw [hdown, h.down, takenDown_snoc]
    exact (or_iff_left hcrash).symm

/-- So does a step of its call that is no crash, and after which the call is still there. -/
theorem snoc_call {inner : CallLabel} (h : Keeps steps s w worker) (hcall : s.executor.step w inner = some s'.executor)
    (hcrash : inner ≠ .crash) (hleave : inner ≠ .leave) (hlabel : label ≠ .leave w) (hlabel' : label ≠ .call w .crash)
    (hsamples : worker'.samples = worker.samples) (hstage : worker'.stage = .crashed ↔ worker.stage = .crashed) :
    Keeps (steps ++ [⟨s, label, s'⟩]) s' w worker' := by
  refine h.snoc hsamples (or_congr hstage ⟨?_, ?_⟩) (fun hl => absurd hl hlabel) hlabel'
  · exact Executor.step_crash hcall hcrash
  · exact Executor.step_ended hcall hleave

/-- **Every step** leaves each worker what it has, or gives it the sample that it returns. -/
theorem step (h : ∀ w worker, s.workers[w]? = some worker → Keeps steps s w worker) (hseated : s.Seated)
    (hstep : s.step label = some s') :
    ∀ w worker, s'.workers[w]? = some worker → Keeps (steps ++ [⟨s, label, s'⟩]) s' w worker := by
  intro v worker' hv
  by_cases hown : worker? label = some v
  swap
  · obtain ⟨hworkers, hcalls⟩ := step_others hstep hown
    refine (h v worker' (hworkers ▸ hv)).snoc rfl ?_ ?_ ?_
    · rw [IsDown, IsDown, Executor.ending?_eq, Executor.ending?_eq, hcalls]
    · rintro rfl
      exact absurd rfl hown
    · rintro rfl
      exact absurd rfl hown
  have hset : ∀ {w worker worker'' workers}, s.workers[w]? = some worker → workers = s.workers.set w worker'' →
      workers[w]? = some worker' → worker'' = worker' := by
    intro w worker worker'' workers hw heq hw'
    rw [heq, List.getElem?_set_self (List.getElem?_eq_some_iff.mp hw).1] at hw'
    exact Option.some.inj hw'
  cases happens_of_step hstep with
  | look hw | rest hw =>
    obtain rfl := Option.some.inj hown
    obtain rfl := hset hw rfl hv
    exact (h _ _ hw).snoc rfl Iff.rfl (by simp) (by simp)
  | take hw hidle | stop hw hidle | finish hw hidle =>
    obtain rfl := Option.some.inj hown
    obtain rfl := hset hw rfl hv
    exact (h _ _ hw).snoc rfl (or_congr_left (by simp [hidle])) (by simp) (by simp)
  | quitEntered hw hstage =>
    obtain rfl := Option.some.inj hown
    obtain rfl := hset hw rfl hv
    exact (h _ _ hw).snoc rfl (or_congr_left (by simp [hstage])) (by simp) (by simp)
  | start hw hstage _ hcall =>
    obtain rfl := Option.some.inj hown
    obtain rfl := hset hw rfl hv
    exact (h _ _ hw).snoc_call hcall (by simp) (by simp) (by simp) (by simp) rfl (by simp [hstage])
  | quitCalling hw _ _ _ hcall =>
    obtain rfl := Option.some.inj hown
    exact (h _ _ hv).snoc_call hcall (by simp) (by simp) (by simp) (by simp) rfl Iff.rfl
  | unlist hcall =>
    obtain rfl := Option.some.inj hown
    exact (h _ _ hv).snoc_call hcall (by simp) (by simp) (by simp) (by simp) rfl Iff.rfl
  | @call w worker inner e hw _ hinner hcall =>
    obtain rfl := Option.some.inj hown
    by_cases hcrash : inner = .crash
    · subst hcrash
      have hafter : e.ending? w = some .crash := by
        cases Executor.moves_of_step hcall with
        | crash => rw [Executor.ending?_eq, Executor.call?_setStage, if_pos rfl]; rfl
      obtain ⟨hsamples, _⟩ := h w worker' hv
      constructor
      · intro x
        rw [hsamples, returnedTo_snoc]
        exact (or_iff_left (by simp)).symm
      · exact iff_of_true (.inr hafter) (takenDown_snoc.mpr (.inr rfl))
    · exact (h _ _ hv).snoc_call hcall hcrash (by rintro rfl; cases hinner) (by simp) (by simpa using hcrash) rfl Iff.rfl
  | @leave w worker ending e hw hending hcall =>
    obtain rfl := Option.some.inj hown
    obtain rfl := hset hw rfl hv
    obtain ⟨call, hown, _⟩ := Executor.ending?_eq_some.mp hending
    have hstage := hseated.stage_of_call hw hown
    have hgone : e.ending? w = none := by rw [Executor.ending?_eq, (Executor.step_leave hcall).2, Option.bind_none]
    obtain ⟨hsamples, hdown⟩ := h w worker hw
    cases ending with
    | sample x =>
      have hup : ¬IsDown s w worker := by simp [IsDown, hstage, hending]
      constructor
      · intro y
        rw [returnedTo_snoc, ← hsamples]
        simp [RunTransition.returned?, hending, eq_comm]
      · rw [takenDown_snoc, ← hdown]
        exact iff_of_false (by simp [IsDown, leaveRequest, setWorker, hgone]) (by simpa using hup)
    | cut =>
      refine (h w worker hw).snoc rfl (iff_of_false ?_ ?_) (fun _ => by simp [RunTransition.returned?, hending]) (by simp)
      · simp [IsDown, leaveRequest, setWorker, hgone]
      · simp [IsDown, hstage, hending]
    | crash =>
      exact (h w worker hw).snoc rfl (iff_of_true (.inl rfl) (.inr hending))
        (fun _ => by simp [RunTransition.returned?, hending]) (by simp)
  | cancel | purge | pass => cases hown

/-- **In every state of a run** each worker has what was returned to it. -/
theorem history {e : Executor} {target : Target} {useCache cancelled : Bool} {total concurrency : Nat}
    (hcalls : e.calls = []) (past : (begin e target useCache total concurrency cancelled).History steps s) :
    ∀ w worker, s.workers[w]? = some worker → Keeps steps s w worker := by
  have hseated : (begin e target useCache total concurrency cancelled).Seated := .begin hcalls
  refine past.invariantWith (P := fun steps s => ∀ w worker, s.workers[w]? = some worker → Keeps steps s w worker) ?_
    fun _ _ _ _ before h hstep => step h (hseated.history before) hstep
  intro w worker hw
  obtain ⟨v, _, rfl⟩ := List.mem_map.mp (List.mem_of_getElem? hw)
  have hnone : e.ending? w = none := by simp [Executor.ending?_eq, Executor.call?, hcalls]
  exact ⟨by simp [ReturnedTo], iff_of_false (by simp [IsDown, RunState.begin, hnone]) (by simp [TakenDown])⟩

end Keeps

/-- A sample is returned to a worker of the run. -/
theorem worker_of_returnedTo {x : Sample} (past : first.History steps s) (h : ReturnedTo steps w x) :
    ∃ worker, s.workers[w]? = some worker := by
  obtain ⟨t, ht, hlabel, _⟩ := h
  obtain ⟨_, _, hbefore, hnow, _⟩ := past.split ht
  have hlt : w < t.before.workers.length := by
    have hstep : t.before.step t.label = some t.after := hnow
    rw [hlabel] at hstep
    obtain ⟨worker, hw, _⟩ := Option.bind_eq_some_iff.mp hstep
    exact (List.getElem?_eq_some_iff.mp hw).1
  refine ⟨_, List.getElem?_eq_getElem ?_⟩
  rw [length_of_history past, ← length_of_history hbefore]
  exact hlt

/-- **The samples of a run** whose workers are all done: those returned to the workers that are not down. -/
theorem mem_samples_iff {e : Executor} {target : Target} {useCache cancelled : Bool} {total concurrency : Nat}
    (hcalls : e.calls = []) (past : (begin e target useCache total concurrency cancelled).History steps s)
    (hdone : s.isDone = true) (x : Sample) :
    x ∈ s.samples ↔ ∃ w, ReturnedTo steps w x ∧ ¬TakenDown steps w := by
  have hseated := (Seated.begin hcalls).history past
  -- a worker that is done is down exactly if it has not finished
  have hkeeps : ∀ w worker, s.workers[w]? = some worker →
      (x ∈ worker.result ↔ ReturnedTo steps w x ∧ ¬TakenDown steps w) := by
    intro w worker hw
    obtain ⟨hsamples, hdown⟩ := Keeps.history hcalls past w worker hw
    have hd := List.all_eq_true.mp hdone worker (List.mem_of_getElem? hw)
    have hnone := hseated.call?_eq_none hw fun n hstage => by simp [Worker.isDone, hstage] at hd
    rw [← hsamples, ← hdown, IsDown, Executor.ending?_eq, hnone, Worker.result]
    cases hstage : worker.stage <;> simp [Worker.isDone, hstage] at hd ⊢
  rw [s.samples_perm.mem_iff, List.mem_flatMap]
  constructor
  · rintro ⟨worker, hworker, hx⟩
    obtain ⟨w, hw⟩ := List.mem_iff_getElem?.mp hworker
    exact ⟨w, (hkeeps w worker hw).mp hx⟩
  · rintro ⟨w, hreturned, hup⟩
    obtain ⟨worker, hw⟩ := worker_of_returnedTo past hreturned
    exact ⟨worker, List.mem_of_getElem? hw, (hkeeps w worker hw).mpr ⟨hreturned, hup⟩⟩

end RunState

namespace Dispatch

variable {d : Dispatch} {plan : RunPlan} {shared : Option ResponseCache} {cancelled : Bool} {now : Instant}
  {result : RunResult} {steps : List DispatchTransition}

/-- **What a crash costs.** In whatever order the workers get on, whenever the run is cancelled and
whatever crashes, the samples of the result are those that the measured run has returned to workers
which the transport never takes down. A worker that is taken down loses all of its samples, and no
other worker loses any. -/
theorem samples_kept (past : (begin plan shared cancelled now).History steps d) (hdone : d.stage = .done result)
    (x : Sample) :
    x ∈ result.samples ↔
      ∃ w, RunState.ReturnedTo (steps.filterMap DispatchTransition.measured?) w x ∧
        ¬RunState.TakenDown (steps.filterMap DispatchTransition.measured?) w := by
  obtain ⟨early, started, run, hrun, hall, rfl⟩ := run_of_done past hdone
  exact RunState.mem_samples_iff rfl hrun hall x

/-- The first worker makes a request before and one after the second one is taken down. -/
def playKept : List DispatchLabel :=
  let enter w : List DispatchLabel := [.run (.look w), .run (.take w), .run (.look w), .run (.start w)]
  let serve : List DispatchLabel := [.run (.call 0 (.reply default)), .run (.leave 0)]
  let crash : List DispatchLabel := [.run (.call 1 .crash), .run (.leave 1)]
  let finish : List DispatchLabel := [.run (.finish 0), .proceed]
  enter 0 ++ serve ++ enter 1 ++ crash ++ enter 0 ++ serve ++ finish

/-- Something crashes, only the second worker does, and a sample is returned to the first. -/
def showsKept (steps : List DispatchTransition) (_ : RunResult) : Bool :=
  let run := steps.filterMap DispatchTransition.measured?
  run.any (·.crashes) && run.all (fun t => !t.crashes || RunState.worker? t.label == some 1) &&
    run.any fun t => t.returned?.isSome && RunState.worker? t.label == some 0

theorem samples_kept_of_two :
    ∃ plan steps d result x, ({ url := "http://a/", requests := 3, concurrency := 2 } : RunSettings).validate = .ok plan ∧
      (begin plan none false ⟨0⟩).History steps d ∧ d.stage = .done result ∧
      (∃ t ∈ steps.filterMap DispatchTransition.measured?, t.crashes = true) ∧ x ∈ result.samples := by
  have hplay : ((({ url := "http://a/", requests := 3, concurrency := 2 } : RunSettings).validate.toOption.bind
      fun plan => (playFrom step (begin plan none false ⟨0⟩) playKept).bind
        fun r => r.2.result?.map (showsKept r.1)) = some true) := by
    decide +kernel
  obtain ⟨plan, steps, d, result, hplan, past, hdone, hshown⟩ := exists_of_play hplay
  simp only [showsKept, Bool.and_eq_true, List.any_eq_true, List.all_eq_true, Bool.or_eq_true, Bool.not_eq_true',
    beq_iff_eq] at hshown
  obtain ⟨⟨hcrash, hsecond⟩, t, ht, hreturned, hfirst⟩ := hshown
  obtain ⟨x, hx⟩ := Option.isSome_iff_exists.mp hreturned
  refine ⟨plan, steps, d, result, x, hplan, past, hdone, hcrash, (samples_kept past hdone x).mpr ⟨0, ⟨t, ht, ?_, hx⟩, ?_⟩⟩
  · exact RunTransition.label_of_returned hx hfirst
  · rintro ⟨u, hu, hlabel⟩
    have hother := hsecond u hu
    simp [hlabel, RunTransition.crashes, RunState.worker?] at hother

/-- A worker makes one request, and is taken down in the next. -/
def playLost : List DispatchLabel :=
  let enter : List DispatchLabel := [.run (.look 0), .run (.take 0), .run (.look 0), .run (.start 0)]
  let serve : List DispatchLabel := [.run (.call 0 (.reply default)), .run (.leave 0)]
  let crash : List DispatchLabel := [.run (.call 0 .crash), .run (.leave 0), .proceed]
  enter ++ serve ++ enter ++ crash

/-- Something crashes, there is but one worker, and a sample is returned to it. -/
def showsLost (steps : List DispatchTransition) (_ : RunResult) : Bool :=
  let run := steps.filterMap DispatchTransition.measured?
  run.any (·.crashes) && run.all (fun t => (RunState.worker? t.label).all (· == 0)) && run.any (·.returned?.isSome)

/-- **A sample that was returned may be lost**: that of a request before the one in which the worker
is taken down. -/
theorem samples_lost_of_crash :
    ∃ plan steps d result x, ({ url := "http://a/", requests := 3, concurrency := 1 } : RunSettings).validate = .ok plan ∧
      (begin plan none false ⟨0⟩).History steps d ∧ d.stage = .done result ∧
      (∃ t ∈ steps.filterMap DispatchTransition.measured?, t.returned? = some x) ∧ x ∉ result.samples := by
  have hplay : ((({ url := "http://a/", requests := 3, concurrency := 1 } : RunSettings).validate.toOption.bind
      fun plan => (playFrom step (begin plan none false ⟨0⟩) playLost).bind
        fun r => r.2.result?.map (showsLost r.1)) = some true) := by
    decide +kernel
  obtain ⟨plan, steps, d, result, hplan, past, hdone, hshown⟩ := exists_of_play hplay
  simp only [showsLost, Bool.and_eq_true, List.any_eq_true, List.all_eq_true] at hshown
  obtain ⟨⟨⟨u, hu, hcrash⟩, hone⟩, t, ht, hreturned⟩ := hshown
  obtain ⟨x, hx⟩ := Option.isSome_iff_exists.mp hreturned
  refine ⟨plan, steps, d, result, x, hplan, past, hdone, ⟨t, ht, hx⟩, ?_⟩
  intro hkept
  obtain ⟨early, started, run, hrun, hall, rfl⟩ := run_of_done past hdone
  obtain ⟨w, ⟨v, hv, hleave, _⟩, hup⟩ := (RunState.mem_samples_iff rfl hrun hall x).mp hkept
  obtain ⟨w', hdown⟩ := RunTransition.label_of_crashes hcrash
  have hw : w = 0 := by simpa [hleave, RunState.worker?] using hone v hv
  have hw' : w' = 0 := by simpa [hdown, RunState.worker?] using hone u hu
  subst hw hw'
  exact hup ⟨u, hu, hdown⟩

end Dispatch

end HttpBench
