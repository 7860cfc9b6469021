import Mathlib.Algebra.Order.BigOperators.Group.Finset
import HttpBench.Proofs.Executor.Roles
import HttpBench.Proofs.Run.Stages

/-!
# A run comes to its end

No run is ever stuck. As long as some worker is not done, some worker can get on: one that waits
for the lock of a slot has somebody ahead of it that need not wait. What is still to be done
(`RunState.toGo`) then becomes less, so from every state a run can be brought to its end, whatever
the transport answers, and without cancelling it.

Nothing is said of the time that this takes.
-/

namespace HttpBench

/-- How far a call is from its end. -/
def CallStage.toGo : CallStage → Nat
  | .following _ => 6
  | .waiting _ => 5
  | .looking => 4
  | .fetching => 3
  | .closing _ => 2
  | .unlisted _ => 1

/-- **What a worker has still to do**, its call included. A request is the most work at its start. -/
def Worker.toGo (worker : Worker) (call? : Option Call) : Nat :=
  let look := if worker.looked then 0 else 1
  match worker.stage with
  | .idle => 16 * worker.remaining + 1 + look
  | .entered _ => 16 * worker.remaining + 15 + look
  | .calling _ => 16 * worker.remaining + 1 + look + 2 * (call?.elim 0 (·.stage.toGo))
  | .finished | .crashed => 0

namespace RunState

variable {first s s' : RunState} {steps : List RunTransition} {label : RunLabel} {w : Nat} {worker : Worker}
  {call : Call}

/-- What a worker of the run has still to do. -/
def toGoOf (s : RunState) (w : Nat) : Nat :=
  match s.workers[w]? with
  | some worker => worker.toGo (s.executor.call? w)
  | none => 0

/-- **What is still to be done.** -/
def toGo (s : RunState) : Nat := ∑ w ∈ Finset.range s.workers.length, s.toGoOf w

/-- Everything is in order in a run: with the calls of its workers, and with what they fetch. -/
structure Ordered (s : RunState) : Prop where
  seated : s.Seated
  orderly : s.executor.Orderly

/-- **Every step keeps the order.** -/
theorem Ordered.step (h : s.Ordered) (hstep : s.step label = some s') : s'.Ordered := by
  refine ⟨h.seated.step hstep, ?_⟩
  cases happens_of_step hstep with
  | quitCalling _ _ _ _ hcall | start _ _ _ hcall | call _ _ _ hcall | unlist hcall | leave _ _ hcall =>
    exact h.orderly.step hcall
  | purge => exact h.orderly.purge
  | pass => exact h.orderly.pass _
  | _ => exact h.orderly

/-- A run that begins without a fetch under way is in order. -/
theorem Ordered.begin {e : Executor} {target : Target} {useCache cancelled : Bool} {total concurrency : Nat}
    (hcalls : e.calls = [])
    (hcache : ∀ cache, e.cache = some cache → cache.fills.slots = [] ∧ cache.fills.current = []) :
    (RunState.begin e target useCache total concurrency cancelled).Ordered :=
  ⟨.begin hcalls, .begin hcalls hcache⟩

/-- The steps that a run makes by itself, while nobody cancels it and nothing crashes. -/
def IsOwn (x : Exchange) : RunLabel → Prop
  | .look _ | .take _ | .stop _ | .finish _ | .quit _ | .start _ | .unlist _ | .leave _ => True
  | .call _ label => label = .ask ∨ label = .resume ∨ label = .lookUp ∨ label = .reply x
  | .rest _ | .cancel | .purge | .pass _ => False

/-! ## One worker -/

/-- A step of a worker is one of those that a run makes by itself, and gets the worker on. -/
def GetsOn (s : RunState) (x : Exchange) (w : Nat) : Prop :=
  ∃ label s', s.step label = some s' ∧ worker? label = some w ∧ IsOwn x label ∧ s'.toGoOf w < s.toGoOf w

theorem toGoOf_eq (hw : s.workers[w]? = some worker) : s.toGoOf w = worker.toGo (s.executor.call? w) := by
  simp [toGoOf, hw]

/-- A worker that is changed so that it has less to do gets on. -/
theorem toGoOf_lt {worker' : Worker} (hw : s.workers[w]? = some worker) (hset : s'.workers = s.workers.set w worker')
    (hless : worker'.toGo (s'.executor.call? w) < worker.toGo (s.executor.call? w)) : s'.toGoOf w < s.toGoOf w := by
  have hnew : s'.workers[w]? = some worker' := by
    rw [hset]
    exact List.getElem?_set_self (List.getElem?_eq_some_iff.mp hw).1
  rw [toGoOf_eq hw, toGoOf_eq hnew]
  exact hless

/-- A worker that has no turn looks, or sees the cancellation. -/
theorem getsOn_of_look {x : Exchange} (hw : s.workers[w]? = some worker) (hlooked : worker.looked = false)
    (hrun : s.cancelled = false)
    (hopen : worker.stage = .idle ∧ 0 < worker.remaining ∨ worker.isInFlight = true) : s.GetsOn x w := by
  refine ⟨.look w, s.setWorker w { worker with looked := true }, ?_, rfl, trivial, ?_⟩
  · simp [step, hw, hlooked, hrun, hopen]
  · refine toGoOf_lt hw rfl ?_
    rcases hopen with ⟨hstage, _⟩ | hflight
    · simp [Worker.toGo, hstage, hlooked]
    · cases hstage : worker.stage <;> simp [Worker.isInFlight, hstage] at hflight <;>
        simp [Worker.toGo, hstage, hlooked, setWorker]

/-- Between two requests a worker gets on. -/
theorem getsOn_idle {x : Exchange} (hw : s.workers[w]? = some worker) (hstage : worker.stage = .idle) :
    s.GetsOn x w := by
  rcases Nat.eq_zero_or_pos worker.remaining with hnone | hleft
  · refine ⟨.finish w, s.setWorker w { worker with stage := .finished }, ?_, rfl, trivial, ?_⟩
    · simp [step, hw, hstage, hnone]
    · exact toGoOf_lt hw rfl (by simp [Worker.toGo, hstage])
  cases hlooked : worker.looked with
  | true =>
    refine ⟨.take w, ({ s with nextSequence := s.nextSequence + 1, gauge := s.gauge.enter }.setWorker w
      { worker with remaining := worker.remaining - 1, stage := .entered s.nextSequence, looked := false }), ?_, rfl,
      trivial, ?_⟩
    · simp [step, hw, hstage, hleft, hlooked]
    · refine toGoOf_lt hw rfl ?_
      simp only [Worker.toGo, hstage, hlooked]
      simp
      omega
  | false =>
    cases hrun : s.cancelled with
    | false => exact getsOn_of_look hw hlooked hrun (.inl ⟨hstage, hleft⟩)
    | true =>
      refine ⟨.stop w, s.setWorker w { worker with stage := .finished }, ?_, rfl, trivial, ?_⟩
      · simp [step, hw, hstage, hleft, hlooked, hrun]
      · exact toGoOf_lt hw rfl (by simp [Worker.toGo, hstage])

/-- A worker that has counted its request in gets on. -/
theorem getsOn_entered {x : Exchange} {n : Nat} (h : s.Seated) (hw : s.workers[w]? = some worker)
    (hstage : worker.stage = .entered n) : s.GetsOn x w := by
  have hflight : worker.isInFlight = true := by simp [Worker.isInFlight, hstage]
  cases hlooked : worker.looked with
  | true =>
    have hnone := h.call?_eq_none hw (by simp [hstage])
    have hcall : s.executor.step w (.start s.target s.useCache n) =
        some (s.executor.start w s.target s.useCache n) := by simp [Executor.step, hnone]
    refine ⟨.start w, ({ s with executor := s.executor.start w s.target s.useCache n }.setWorker w
      { worker with stage := .calling n }), ?_, rfl, trivial, ?_⟩
    · simp [step, hw, hstage, hlooked, hcall]
    · obtain ⟨_, call, hnew, _, _⟩ := Executor.step_start hcall
      have hmost : call.stage.toGo ≤ 6 := by cases call.stage <;> simp [CallStage.toGo]
      refine toGoOf_lt hw rfl ?_
      simp only [Worker.toGo, hstage, hlooked, setWorker, hnew]
      simp
      omega
  | false =>
    cases hrun : s.cancelled with
    | false => exact getsOn_of_look hw hlooked hrun (.inr hflight)
    | true =>
      refine ⟨.quit w, s.leaveRequest w worker .cut, ?_, rfl, trivial, ?_⟩
      · simp [step, hw, hstage, hlooked, hrun]
      · exact toGoOf_lt hw rfl (by simp [Worker.toGo, hstage])

/-- A worker whose call gets on gets on. -/
theorem toGoOf_call {e : Executor} {stage : CallStage} {n : Nat} (hw : s.workers[w]? = some worker)
    (hstage : worker.stage = .calling n) (hcall : s.executor.call? w = some call)
    (hnew : e.call? w = some { call with stage }) (hless : stage.toGo < call.stage.toGo) :
    ({ s with executor := e } : RunState).toGoOf w < s.toGoOf w := by
  have hw' : ({ s with executor := e } : RunState).workers[w]? = some worker := hw
  rw [toGoOf_eq hw, toGoOf_eq hw']
  simp only [Worker.toGo, hstage, hcall, hnew]
  simp
  omega

/-- A worker whose call goes gets on. -/
theorem toGoOf_leave {e : Executor} {n : Nat} (ending : CallEnd) (hw : s.workers[w]? = some worker)
    (hstage : worker.stage = .calling n) (hcall : s.executor.call? w = some call) :
    (({ s with executor := e } : RunState).leaveRequest w worker ending).toGoOf w < s.toGoOf w := by
  have hmin : 0 < call.stage.toGo := by cases call.stage <;> simp [CallStage.toGo]
  refine toGoOf_lt hw rfl ?_
  cases ending <;> simp only [Worker.toGo, hstage, hcall] <;> simp
  omega

/-- A step that a call makes in a turn of its worker. -/
theorem getsOn_of_call {x : Exchange} {inner : CallLabel} {e : Executor} {stage : CallStage} {n : Nat}
    (hw : s.workers[w]? = some worker) (hstage : worker.stage = .calling n) (hcall : s.executor.call? w = some call)
    (hlooked : worker.looked = true) (hstep : s.executor.step w inner = some e) (hin : inner.isInTurn = true)
    (hown : IsOwn x (.call w inner)) (hnew : e.call? w = some { call with stage })
    (hless : stage.toGo < call.stage.toGo) : s.GetsOn x w := by
  refine ⟨.call w inner, { s with executor := e }, ?_, rfl, hown, toGoOf_call hw hstage hcall hnew hless⟩
  simp [step, hw, hlooked, hin, stepCall, hstep]

/-- Without a turn a worker inside a call looks, or sees the cancellation and cuts the call off. -/
theorem getsOn_of_cut {x : Exchange} {e : Executor} {stage : CallStage} {n : Nat}
    (hw : s.workers[w]? = some worker) (hstage : worker.stage = .calling n) (hcall : s.executor.call? w = some call)
    (hlooked : worker.looked = false) (hstep : s.executor.step w .cut = some e)
    (hnew : e.call? w = some { call with stage }) (hless : stage.toGo < call.stage.toGo) : s.GetsOn x w := by
  have hflight : worker.isInFlight = true := by simp [Worker.isInFlight, hstage]
  cases hrun : s.cancelled with
  | false => exact getsOn_of_look hw hlooked hrun (.inr hflight)
  | true =>
    refine ⟨.quit w, { s with executor := e }, ?_, rfl, trivial, toGoOf_call hw hstage hcall hnew hless⟩
    simp [step, hw, hstage, hlooked, hrun, stepCall, hstep]

/-- A worker leaves its request once its call may go. -/
theorem getsOn_of_leave {x : Exchange} {e : Executor} {ending : CallEnd} {n : Nat}
    (hw : s.workers[w]? = some worker) (hstage : worker.stage = .calling n) (hcall : s.executor.call? w = some call)
    (hstep : s.executor.step w .leave = some e) (hending : call.stage.ending? = some ending) : s.GetsOn x w := by
  refine ⟨.leave w, ({ s with executor := e } : RunState).leaveRequest w worker ending, ?_, rfl, trivial,
    toGoOf_leave ending hw hstage hcall⟩
  have he : s.executor.ending? w = some ending := Executor.ending?_eq_some.mpr ⟨call, hcall, hending⟩
  simp [step, hw, he, stepCall, hstep]

/-- **A worker inside a call gets on**, unless it waits and has not been handed the lock. -/
theorem getsOn_calling (x : Exchange) {n : Nat} (h : s.Ordered) (hw : s.workers[w]? = some worker)
    (hstage : worker.stage = .calling n)
    (hturn : ∀ m, s.executor.stage? w = some (.waiting m) → s.executor.hasTurn w m = true) : s.GetsOn x w := by
  obtain ⟨call, hcall, rfl⟩ := h.seated.call_of_worker hw hstage
  cases hcs : call.stage with
  | following m =>
    have hlooked := h.seated.looked_of_call hw hcall (by rw [hcs]; rfl) (by rw [hcs]; rfl)
    have hstep : s.executor.step w .ask = some (s.executor.ask w call m) := by simp [Executor.step, hcall, hcs]
    obtain ⟨cache, stage, heq, hafter⟩ := Executor.ask_eq s.executor w call m
    have hless : stage.toGo < 6 := by rcases hafter with rfl | rfl <;> simp [CallStage.toGo]
    exact getsOn_of_call hw hstage hcall hlooked hstep rfl (.inl rfl)
      (by rw [heq, Executor.call?_setStage, if_pos rfl]) (by rw [hcs]; exact hless)
  | waiting m =>
    cases hlooked : worker.looked with
    | true =>
      have hmine := hturn m (by simp [Executor.stage?, hcall, hcs])
      have hstep : s.executor.step w .resume =
          some ((s.executor.changeFills (·.release m)).setStage w call .looking) := by
        simp [Executor.step, hcall, hcs, hmine]
      exact getsOn_of_call hw hstage hcall hlooked hstep rfl (.inr (.inl rfl))
        (by rw [Executor.call?_setStage, if_pos rfl]) (by simp [hcs, CallStage.toGo])
    | false =>
      have hstep : s.executor.step w .cut =
          some ((s.executor.changeFills (·.abandon m w)).setStage w call (.closing .cut)) := by
        simp [Executor.step, hcall, hcs]
      exact getsOn_of_cut hw hstage hcall hlooked hstep
        (by rw [Executor.call?_setStage, if_pos rfl]) (by simp [hcs, CallStage.toGo])
  | looking =>
    have hlooked := h.seated.looked_of_call hw hcall (by rw [hcs]; rfl) (by rw [hcs]; rfl)
    have hstep : s.executor.step w .lookUp = some (s.executor.lookUp w call) := by simp [Executor.step, hcall, hcs]
    have hlook : ∃ cache stage, s.executor.lookUp w call = Executor.setStage { s.executor with cache } w call stage ∧
        stage.toGo < 4 := by
      unfold Executor.lookUp
      split
      · exact ⟨_, _, rfl, by split <;> simp [CallStage.toGo]⟩
      · exact ⟨s.executor.cache, _, rfl, by simp [CallStage.toGo]⟩
    obtain ⟨cache, stage, heq, hless⟩ := hlook
    exact getsOn_of_call hw hstage hcall hlooked hstep rfl (.inr (.inr (.inl rfl)))
      (by rw [heq, Executor.call?_setStage, if_pos rfl]) (by rw [hcs]; exact hless)
  | fetching =>
    cases hlooked : worker.looked with
    | true =>
      have hstep : s.executor.step w (.reply x) = some ((s.executor.keep call x).setStage w call
          (.closing (.sample (.ofExchange s.executor.settings.policy call.sequence x)))) := by
        simp [Executor.step, hcall, hcs]
      exact getsOn_of_call hw hstage hcall hlooked hstep rfl (.inr (.inr (.inr rfl)))
        (by rw [Executor.call?_setStage, if_pos rfl]) (by simp [hcs, CallStage.toGo])
    | false =>
      have hstep : s.executor.step w .cut = some (s.executor.setStage w call (.closing .cut)) := by
        simp [Executor.step, hcall, hcs]
      exact getsOn_of_cut hw hstage hcall hlooked hstep
        (by rw [Executor.call?_setStage, if_pos rfl]) (by simp [hcs, CallStage.toGo])
  | closing ending =>
    cases hleads : call.leads with
    | none =>
      have hstep : s.executor.step w .leave = some (s.executor.dropCall w) := by
        simp [Executor.step, hcall, hcs, hleads]
      exact getsOn_of_leave hw hstage hcall hstep (by rw [hcs]; rfl)
    | some m =>
      refine ⟨.unlist w,
        { s with executor := (s.executor.changeFills (·.unlist m)).setStage w call (.unlisted ending) }, ?_, rfl, trivial,
        toGoOf_call hw hstage hcall (by rw [Executor.call?_setStage, if_pos rfl]) (by simp [hcs, CallStage.toGo])⟩
      simp [step, stepCall, Executor.step, hcall, hcs, hleads]
  | unlisted ending =>
    obtain ⟨m, hleads⟩ := Option.ne_none_iff_exists'.mp ((h.orderly.formed hcall).unlisted ending hcs)
    have hstep : s.executor.step w .leave = some ((s.executor.changeFills (·.release m)).dropCall w) := by
      simp [Executor.step, hcall, hcs, hleads]
    exact getsOn_of_leave hw hstage hcall hstep (by rw [hcs]; rfl)

/-! ## All workers -/

/-- **Somebody can get on** until all workers are done. -/
theorem exists_getsOn (x : Exchange) (h : s.Ordered) (hdone : s.isDone = false) : ∃ w, s.GetsOn x w := by
  obtain ⟨w, worker, hw, hopen⟩ := exists_open hdone
  cases hstage : worker.stage with
  | idle => exact ⟨w, getsOn_idle hw hstage⟩
  | entered n => exact ⟨w, getsOn_entered h.seated hw hstage⟩
  | finished | crashed => simp [Worker.isDone, hstage] at hopen
  | calling n =>
    by_cases hturn : ∀ m, s.executor.stage? w = some (.waiting m) → s.executor.hasTurn w m = true
    · exact ⟨w, getsOn_calling x h hw hstage hturn⟩
    -- the worker waits, so whoever is ahead of it gets on
    · push Not at hturn
      obtain ⟨m, hwait, _⟩ := hturn
      obtain ⟨call, hcall, hcs⟩ := Option.map_eq_some_iff.mp hwait
      obtain ⟨v, call', hcall', hahead⟩ := h.orderly.ahead hcall hcs
      obtain ⟨worker', hv, hstage'⟩ := h.seated.worker_of_call hcall'
      refine ⟨v, getsOn_calling x h hv hstage' ?_⟩
      intro m' hwait'
      simp only [Executor.stage?, hcall', Option.map_some, Option.some.injEq] at hwait'
      rcases hahead with ⟨hsame, hmine⟩ | ⟨_, hfollower⟩
      · rw [hsame] at hwait'
        exact CallStage.waiting.inj hwait' ▸ hmine
      · rw [hwait'] at hfollower
        cases hfollower

/-- A step that gets one worker on leaves less to do. -/
theorem toGo_lt (hstep : s.step label = some s') (hw : worker? label = some w) (hless : s'.toGoOf w < s.toGoOf w) :
    s'.toGo < s.toGo := by
  have hlt : w < s.workers.length := by
    by_contra hge
    have hnone : s.workers[w]? = none := List.getElem?_eq_none (Nat.le_of_not_lt hge)
    simp [toGoOf, hnone] at hless
  rw [toGo, toGo, step_length hstep]
  refine Finset.sum_lt_sum (fun v _ => ?_) ⟨w, Finset.mem_range.mpr hlt, hless⟩
  by_cases hv : v = w
  · exact hv ▸ Nat.le_of_lt hless
  · obtain ⟨hworkers, hcalls⟩ := step_others hstep (v := v) (by rw [hw]; exact fun h => hv (Option.some.inj h).symm)
    rw [toGoOf, toGoOf, hworkers, hcalls]

/-- **A run can be brought to its end** from every state, whatever the transport answers, by steps
that it makes by itself. -/
theorem exists_end (x : Exchange) (h : s.Ordered) :
    ∃ steps s', s.History steps s' ∧ s'.isDone = true ∧ ∀ t ∈ steps, IsOwn x t.label := by
  induction hn : s.toGo using Nat.strong_induction_on generalizing s with
  | _ n ih =>
    cases hdone : s.isDone with
    | true => exact ⟨[], s, .start, hdone, by simp⟩
    | false =>
      obtain ⟨w, label, s', hstep, hw, hown, hless⟩ := exists_getsOn x h hdone
      obtain ⟨steps, last, hsteps, hlast, hall⟩ := ih _ (hn ▸ toGo_lt hstep hw hless) (h.step hstep) rfl
      refine ⟨_, last, (HttpBench.History.one hstep).append hsteps, hlast, ?_⟩
      intro t ht
      rcases List.mem_append.mp ht with ht | ht
      · obtain rfl := List.mem_singleton.mp ht
        exact hown
      · exact hall t ht

end RunState

/-! ## Dispatched runs -/

/-- The steps that a dispatched run makes by itself. -/
def DispatchLabel.IsOwn (x : Exchange) : DispatchLabel → Prop
  | .run label => RunState.IsOwn x label
  | .proceed => True
  | .cancel | .expire => False

namespace Dispatch

variable {d : Dispatch} {plan : RunPlan} {shared : Option ResponseCache} {cancelled : Bool} {now : Instant}
  {started : Instant} {steps : List DispatchTransition} {run run' : RunState} {inner : List RunTransition}

theorem setRun_self (h : d.run? = some run) : d.setRun run = d := by
  obtain ⟨_, _, _, stage⟩ := d
  cases stage <;> simp [run?, setRun] at h ⊢ <;> exact h.symm

theorem run?_setRun (h : d.run? = some run) (run' : RunState) : (d.setRun run').run? = some run' := by
  obtain ⟨_, _, _, stage⟩ := d
  cases stage <;> simp [run?, setRun] at h ⊢

theorem setRun_setRun (d : Dispatch) (run run' : RunState) : (d.setRun run).setRun run' = d.setRun run' := by
  obtain ⟨_, _, _, stage⟩ := d
  cases stage <;> rfl

/-- What the run under way does by itself happens to the dispatched run. -/
theorem lift {x : Exchange} (h : run.History inner run') (hrun : d.run? = some run)
    (hown : ∀ t ∈ inner, RunState.IsOwn x t.label) :
    ∃ steps, d.History steps (d.setRun run') ∧ ∀ t ∈ steps, t.label.IsOwn x := by
  induction h with
  | start => exact ⟨[], (setRun_self hrun).symm ▸ .start, by simp⟩
  | @step steps s s' label past hstep ih =>
    obtain ⟨before, hbefore, hall⟩ := ih fun t ht => hown t (List.mem_append_left _ ht)
    have hlast : RunState.IsOwn x label := hown ⟨s, label, s'⟩ (by simp)
    have hlabel : label.isCancel = false := by
      cases label <;> simp [RunState.IsOwn, RunLabel.isCancel] at hlast ⊢
    have hstep : s.step label = some s' := hstep
    have hnext : (d.setRun s).step (.run label) = some (d.setRun s') := by
      simp [step, run?_setRun hrun, hlabel, hstep, setRun_setRun]
    refine ⟨_, hbefore.step hnext, ?_⟩
    intro t ht
    rcases List.mem_append.mp ht with ht | ht
    · exact hall t ht
    · obtain rfl := List.mem_singleton.mp ht
      exact hlast

/-- A run under way can be brought to its end. -/
theorem exists_runEnd (x : Exchange) (hrun : d.run? = some run) (h : run.Ordered) :
    ∃ steps run', d.History steps (d.setRun run') ∧ run'.isDone = true ∧ ∀ t ∈ steps, t.label.IsOwn x := by
  obtain ⟨inner, run', hinner, hdone, hown⟩ := RunState.exists_end x h
  obtain ⟨steps, hsteps, hall⟩ := lift hinner hrun hown
  exact ⟨steps, run', hsteps, hdone, hall⟩

/-- A dispatched run can go on by itself to a state. -/
def CanReach (x : Exchange) (d : Dispatch) (goal : Dispatch → Prop) : Prop :=
  ∃ steps d', d.History steps d' ∧ goal d' ∧ ∀ t ∈ steps, t.label.IsOwn x

/-- When all workers are done the run proceeds. -/
theorem CanReach.proceed {x : Exchange} {goal : Dispatch → Prop} {d' d'' : Dispatch}
    (h : d.History steps d') (hall : ∀ t ∈ steps, t.label.IsOwn x) (hstep : d'.step .proceed = some d'')
    (hrest : d''.CanReach x goal) : d.CanReach x goal := by
  obtain ⟨rest, last, hlast, hgoal, hown⟩ := hrest
  refine ⟨_, last, (h.step hstep).append hlast, hgoal, ?_⟩
  intro t ht
  rcases List.mem_append.mp ht with ht | ht
  · rcases List.mem_append.mp ht with ht | ht
    · exact hall t ht
    · obtain rfl := List.mem_singleton.mp ht
      trivial
  · exact hown t ht

/-- The measured run begins in order, unless the shared cache is in use. -/
theorem ordered_measuredRun {early : Bool} {started : Instant}
    (hshared : ∀ cache, shared = some cache → cache.fills.slots = [] ∧ cache.fills.current = []) :
    (plan.measuredRun shared early started).Ordered := by
  refine .begin rfl ?_
  intro cache hcache
  simp only [Option.ite_none_right_eq_some, Option.some.injEq] at hcache
  obtain ⟨_, rfl⟩ := hcache
  cases shared with
  | none => exact ⟨rfl, rfl⟩
  | some cache => exact hshared cache rfl

/-- A dispatched run whose result is there. -/
def IsOver (d : Dispatch) : Prop := ∃ result, d.stage = .done result

theorem canReach_of_measuring {x : Exchange} (hstage : d.stage = .measuring started run) (h : run.Ordered) :
    d.CanReach x IsOver := by
  have hrun : d.run? = some run := by simp [run?, hstage]
  obtain ⟨later, run', hlater, hdone, hall⟩ := exists_runEnd x hrun h
  have hend : (d.setRun run').stage = .measuring started run' := by simp [setRun, hstage]
  obtain ⟨d', hnext, hresult⟩ : ∃ d', (d.setRun run').step .proceed = some d' ∧
      d'.stage = .done ((d.setRun run').plan.resultOf started run') := by
    simp only [step, hend, hdone]
    exact ⟨_, rfl, rfl⟩
  exact .proceed hlater hall hnext ⟨[], d', .start, ⟨_, hresult⟩, by simp⟩

/-- **A dispatched run can be brought to its end** from every state, whatever the transport answers,
unless somebody else is at work on its cache. -/
theorem canReach_isOver (x : Exchange) (past : (begin plan shared cancelled now).History steps d)
    (hshared : ∀ cache, shared = some cache → cache.fills.slots = [] ∧ cache.fills.current = []) :
    d.CanReach x IsOver := by
  have hcourse := course past
  cases hstage : d.stage with
  | done result => exact ⟨[], d, .start, ⟨result, hstage⟩, by simp⟩
  | measuring started run =>
    rw [hstage] at hcourse
    obtain _ | ⟨_, hrun⟩ := hcourse
    exact canReach_of_measuring hstage (hrun.invariant (ordered_measuredRun hshared) fun _ _ _ => .step)
  | warming run =>
    rw [hstage] at hcourse
    obtain ⟨hwarmup, _⟩ := hcourse
    have hordered : run.Ordered :=
      hwarmup.invariant (.begin rfl fun cache hcache => by cases hcache) fun _ _ _ => .step
    have hrun : d.run? = some run := by simp [run?, hstage]
    obtain ⟨later, run', hlater, hdone, hall⟩ := exists_runEnd x hrun hordered
    obtain ⟨hplan, hshared' | rfl⟩ := plan_eq past
    · obtain ⟨result, hresult⟩ := hshared'
      rw [hstage] at hresult
      cases hresult
    have hend : (d.setRun run').stage = .warming run' := by simp [setRun, hstage]
    have hsame : (d.setRun run').shared = d.shared := by simp [setRun, hstage]
    have hnext : (d.setRun run').step .proceed =
        some (measure (d.setRun run').plan (d.setRun run').shared (d.setRun run').cancelled run'.now) := by
      simp [step, hend, hdone]
    exact .proceed hlater hall hnext (canReach_of_measuring rfl (ordered_measuredRun (hsame ▸ hshared)))

end Dispatch

end HttpBench
