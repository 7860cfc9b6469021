import HttpBench.Proofs.Executor.Lookups
import HttpBench.Proofs.Run.Fetches
import HttpBench.Proofs.Run.Tally

/-!
# What becomes of a request

A number that a run hands out is for a request, and a request that the transport gets is one it was
handed out for. In every state of a run, whether it uses the cache, is cancelled or loses workers to
crashes, the books balance (`RunState.Balanced`):

* what was handed out has been fetched or served from the cache, was given up before either, or is
  still on its way;
* what was fetched has come to a sample from the network, was abandoned or lost in a crash, or is still
  with the transport.

So a run fetches no more often than it hands out numbers. A step moves one worker from one account to
another (`RunState.WorkerTurn`), and what is summed over the workers moves with it (`sum_step`).
-/

namespace HttpBench

namespace RunTransition

/-- **A fetch is abandoned** in a step: a worker sees the cancellation while the transport has its call. -/
def abandons (t : RunTransition) : Bool :=
  match t.label with
  | .quit w => t.before.executor.isFetching w
  | _ => false

/-- **A request is given up** in a step, before it was fetched or looked up. -/
def forgoes (t : RunTransition) : Bool :=
  match t.label with
  | .quit w => !t.before.executor.isFetching w
  | _ => false

end RunTransition

namespace RunState

variable {first s s' : RunState} {steps : List RunTransition} {label : RunLabel} {w : Nat} {worker : Worker}

/-! ## One worker -/

/-- The worker has counted its request in, and has yet to begin its call. -/
def enteredOf (s : RunState) (w : Nat) : Nat := (s.workers[w]?.any Worker.isEntered).toNat

theorem enteredOf_of_worker (hw : s.workers[w]? = some worker) : s.enteredOf w = worker.isEntered.toNat := by
  rw [enteredOf, hw, Option.any_some]

theorem enteredOf_set {worker' : Worker} (hw : s.workers[w]? = some worker)
    (hset : s'.workers = s.workers.set w worker') : s'.enteredOf w = worker'.isEntered.toNat := by
  refine enteredOf_of_worker ?_
  rw [hset]
  exact List.getElem?_set_self (List.getElem?_eq_some_iff.mp hw).1

/-- **What a worker does in a step**: something of its own, or something with its call. -/
inductive WorkerTurn (s : RunState) (label : RunLabel) (s' : RunState) (w : Nat) : Prop
  | own (hsame : s'.executor = s.executor) (habandons : RunTransition.abandons ⟨s, label, s'⟩ = false)
      (hcrashes : RunTransition.crashes ⟨s, label, s'⟩ = false)
      (hentered : s.enteredOf w + s'.nextSequence =
        s'.enteredOf w + (RunTransition.forgoes ⟨s, label, s'⟩).toNat + s.nextSequence)
  | call {inner : CallLabel} (hcall : s.executor.step w inner = some s'.executor)
      (habandons : RunTransition.abandons ⟨s, label, s'⟩ = (inner.isCut && s.executor.isFetching w))
      (hforgoes : RunTransition.forgoes ⟨s, label, s'⟩ = (inner.isCut && !s.executor.isFetching w))
      (hcrashes : RunTransition.crashes ⟨s, label, s'⟩ = inner.isCrash) (hnext : s'.nextSequence = s.nextSequence)
      (hentered : s.enteredOf w = s'.enteredOf w + inner.isStart.toNat)

/-- **A step of a worker** is one of these. -/
theorem workerTurn_of_step (h : s.Seated) (hstep : s.step label = some s') (hw : worker? label = some w) :
    WorkerTurn s label s' w := by
  cases happens_of_step hstep with
  | look hworker | rest hworker =>
    obtain rfl := Option.some.inj hw
    refine .own rfl rfl rfl ?_
    rw [enteredOf_of_worker hworker, enteredOf_set hworker rfl]
    rfl
  | take hworker hidle =>
    obtain rfl := Option.some.inj hw
    refine .own rfl rfl rfl ?_
    rw [enteredOf_of_worker hworker, enteredOf_set hworker rfl]
    simp [Worker.isEntered, hidle, RunTransition.forgoes, setWorker, Nat.add_comm]
  | stop hworker hidle | finish hworker hidle =>
    obtain rfl := Option.some.inj hw
    refine .own rfl rfl rfl ?_
    rw [enteredOf_of_worker hworker, enteredOf_set hworker rfl]
    simp [Worker.isEntered, hidle, RunTransition.forgoes, setWorker]
  | @quitEntered v _ _ hworker hstage =>
    obtain rfl := Option.some.inj hw
    have hnone := h.call?_eq_none hworker (by simp [hstage])
    have hidle : s.executor.isFetching v = false := by rw [Executor.isFetching, Executor.stage?_of_none hnone]; rfl
    refine .own rfl hidle rfl ?_
    rw [enteredOf_of_worker hworker, enteredOf_set hworker rfl]
    simp [Worker.isEntered, hstage, RunTransition.forgoes, hidle, leaveRequest, setWorker]
  | quitCalling hworker hstage _ _ hcall =>
    obtain rfl := Option.some.inj hw
    exact .call hcall rfl rfl rfl rfl rfl
  | start hworker hstage _ hcall =>
    obtain rfl := Option.some.inj hw
    refine .call hcall rfl rfl rfl rfl ?_
    rw [enteredOf_of_worker hworker, enteredOf_set hworker rfl]
    simp [Worker.isEntered, hstage, CallLabel.isStart]
  | @call _ _ inner _ hworker _ hinner hcall =>
    obtain rfl := Option.some.inj hw
    cases inner with
    | start | cut | unlist | leave => cases hinner
    | ask | resume | lookUp | reply | crash => exact .call hcall rfl rfl rfl rfl rfl
  | unlist hcall =>
    obtain rfl := Option.some.inj hw
    exact .call hcall rfl rfl rfl rfl rfl
  | @leave _ _ ending _ hworker hending hcall =>
    obtain rfl := Option.some.inj hw
    obtain ⟨call, hown, _⟩ := Executor.ending?_eq_some.mp hending
    have hstage := h.stage_of_call hworker hown
    refine .call hcall rfl rfl rfl rfl ?_
    rw [enteredOf_of_worker hworker, enteredOf_set hworker rfl]
    cases ending <;> simp [Worker.isEntered, hstage, CallLabel.isStart]
  | cancel | purge | pass => cases hw

/-! ## All workers -/

/-- **The requests that are on their way**: neither fetched nor served from the cache so far. -/
def coming (s : RunState) : Nat :=
  ∑ w ∈ Finset.range s.workers.length, (s.enteredOf w + (s.executor.isSeeking w).toNat)

/-- **The requests that the transport has.** -/
def underway (s : RunState) : Nat := ∑ w ∈ Finset.range s.workers.length, (s.executor.isFetching w).toNat

/-- What is known of the call of a worker that a step is not one of stays as it is. -/
theorem stage?_others {v : Nat} (hstep : s.step label = some s') (hv : worker? label ≠ some v) :
    s'.executor.stage? v = s.executor.stage? v := by
  rw [Executor.stage?, Executor.stage?, (step_others hstep hv).2]

/-- **A step of nobody** moves nothing. -/
theorem still_of_nobody (hstep : s.step label = some s') (hw : worker? label = none) :
    RunTransition.fetches ⟨s, label, s'⟩ = false ∧ RunTransition.arrived? ⟨s, label, s'⟩ = none ∧
      RunTransition.abandons ⟨s, label, s'⟩ = false ∧ RunTransition.forgoes ⟨s, label, s'⟩ = false ∧
      RunTransition.crashes ⟨s, label, s'⟩ = false ∧ s'.nextSequence = s.nextSequence := by
  cases happens_of_step hstep with
  | cancel | purge | pass => exact ⟨rfl, rfl, rfl, rfl, rfl, rfl⟩
  | _ => cases hw

open Executor (figureOf)

/-- **What the transport has** after a step. -/
theorem underway_step (h : s.Seated) (hstep : s.step label = some s') :
    s.underway + (RunTransition.fetches ⟨s, label, s'⟩).toNat =
      s'.underway + (figureOf Sample.networkCount (RunTransition.arrived? ⟨s, label, s'⟩) +
        (RunTransition.abandons ⟨s, label, s'⟩).toNat + (RunTransition.crashes ⟨s, label, s'⟩).toNat) := by
  apply sum_step h hstep
  · intro v hv
    rw [Executor.isFetching, Executor.isFetching, stage?_others hstep hv]
  · intro w hw
    simp only [RunTransition.fetches, RunTransition.arrived?, hw, Option.any_some, Option.bind_some]
    cases workerTurn_of_step h hstep hw with
    | own hsame habandons hcrashes =>
      rw [hsame, habandons, hcrashes, Executor.fetchesIn_self, Executor.arrived?_self]
      rfl
    | call hcall habandons _ hcrashes =>
      have hlocal := Executor.step_fetching hcall
      rw [habandons, hcrashes]
      omega
  · intro hw
    obtain ⟨hfetches, harrived, habandons, _, hcrashes, _⟩ := still_of_nobody hstep hw
    rw [hfetches, harrived, habandons, hcrashes]
    rfl

/-- **What is on its way** after a step. -/
theorem coming_step (h : s.Seated) (hstep : s.step label = some s') :
    s.coming + s'.nextSequence =
      s'.coming + ((RunTransition.fetches ⟨s, label, s'⟩).toNat +
        figureOf Sample.servedCount (RunTransition.arrived? ⟨s, label, s'⟩) +
        (RunTransition.forgoes ⟨s, label, s'⟩).toNat + s.nextSequence) := by
  apply sum_step h hstep
  · intro v hv
    rw [Executor.isSeeking, Executor.isSeeking, stage?_others hstep hv, enteredOf, enteredOf,
      (step_others hstep hv).1]
  · intro w hw
    simp only [RunTransition.fetches, RunTransition.arrived?, hw, Option.any_some, Option.bind_some]
    cases workerTurn_of_step h hstep hw with
    | own hsame _ _ hentered =>
      rw [hsame, Executor.fetchesIn_self, Executor.arrived?_self]
      simp only [figureOf, Option.elim_none, Bool.toNat_false]
      omega
    | call hcall _ hforgoes _ hnext hentered =>
      have hlocal := Executor.step_seeking hcall
      rw [hforgoes, hnext]
      omega
  · intro hw
    obtain ⟨hfetches, harrived, _, hforgoes, _, hnext⟩ := still_of_nobody hstep hw
    rw [hfetches, harrived, hforgoes, hnext]
    simp [figureOf]

/-! ## Whole runs -/

/-- **The books of a run** after some steps. -/
structure Balanced (steps : List RunTransition) (s : RunState) : Prop where
  handed : s.nextSequence =
    s.coming + steps.countP RunTransition.fetches + s.tally Sample.servedCount + steps.countP RunTransition.forgoes
  fetched : steps.countP RunTransition.fetches =
    s.underway + s.tally Sample.networkCount + steps.countP RunTransition.abandons +
      steps.countP RunTransition.crashes

namespace Balanced

/-- **Every step** keeps the books. -/
theorem step (h : Balanced steps s) (hseated : s.Seated) (hstep : s.step label = some s') :
    Balanced (steps ++ [⟨s, label, s'⟩]) s' := by
  have hcoming := coming_step hseated hstep
  have hunderway := underway_step hseated hstep
  obtain ⟨handed, fetched⟩ := h
  have hcount : ∀ p : RunTransition → Bool,
      List.countP p (steps ++ [⟨s, label, s'⟩]) = steps.countP p + (p ⟨s, label, s'⟩).toNat := by
    intro p
    rw [List.countP_append, List.countP_singleton]
    cases p ⟨s, label, s'⟩ <;> rfl
  constructor
  · rw [hcount, hcount, tally_step hseated hstep]
    omega
  · rw [hcount, hcount, hcount, tally_step hseated hstep]
    omega

/-- **In every state of a run** the books balance. -/
theorem history {e : Executor} {target : Target} {useCache cancelled : Bool} {total concurrency : Nat}
    (hcalls : e.calls = []) (past : (begin e target useCache total concurrency cancelled).History steps s) :
    Balanced steps s := by
  have hseated : (begin e target useCache total concurrency cancelled).Seated := .begin hcalls
  refine past.invariantWith (P := Balanced) ?_ fun _ _ _ _ before h hstep => h.step (hseated.history before) hstep
  have hstage : ∀ w, (begin e target useCache total concurrency cancelled).executor.stage? w = none := by
    intro w
    exact Executor.stage?_of_none (by simp [RunState.begin, Executor.call?, hcalls])
  have hentered : ∀ w, (begin e target useCache total concurrency cancelled).enteredOf w = 0 := by
    intro w
    unfold enteredOf
    cases hw : (begin e target useCache total concurrency cancelled).workers[w]? with
    | none => rfl
    | some worker =>
      obtain ⟨v, _, rfl⟩ := List.mem_map.mp (List.mem_of_getElem? hw)
      rfl
  have hcoming : (begin e target useCache total concurrency cancelled).coming = 0 :=
    Finset.sum_eq_zero fun w _ => by rw [hentered, Executor.isSeeking, hstage]; rfl
  have hunderway : (begin e target useCache total concurrency cancelled).underway = 0 :=
    Finset.sum_eq_zero fun w _ => by rw [Executor.isFetching, hstage]; rfl
  exact ⟨by rw [hcoming, tally_begin hcalls]; rfl, by rw [hunderway, tally_begin hcalls]; rfl⟩

/-- **A run fetches no more often** than it hands out numbers. -/
theorem fetches_le (h : Balanced steps s) : steps.countP RunTransition.fetches ≤ s.nextSequence := by
  have handed := h.handed
  omega

end Balanced

/-- When all workers are done nothing is on its way, and the transport has nothing. -/
theorem settled_of_isDone (h : s.Seated) (hdone : s.isDone = true) : s.coming = 0 ∧ s.underway = 0 := by
  have hout : ∀ w ∈ Finset.range s.workers.length, s.enteredOf w = 0 ∧ s.executor.stage? w = none := by
    intro w hw
    obtain ⟨worker, hworker⟩ : ∃ worker, s.workers[w]? = some worker :=
      ⟨_, List.getElem?_eq_getElem (Finset.mem_range.mp hw)⟩
    have hd := List.all_eq_true.mp hdone worker (List.mem_of_getElem? hworker)
    constructor
    · rw [enteredOf_of_worker hworker]
      cases hstage : worker.stage <;> simp [Worker.isDone, Worker.isEntered, hstage] at hd ⊢
    · apply Executor.stage?_of_none
      apply h.call?_eq_none hworker
      intro n hstage
      simp [Worker.isDone, hstage] at hd
  constructor
  · apply Finset.sum_eq_zero
    intro w hw
    obtain ⟨hentered, hstage⟩ := hout w hw
    rw [hentered, Executor.isSeeking, hstage]
    rfl
  · apply Finset.sum_eq_zero
    intro w hw
    obtain ⟨_, hstage⟩ := hout w hw
    rw [Executor.isFetching, hstage]
    rfl

/-- A worker gives a request up only when the run is cancelled. -/
theorem cancelled_of_forgoes (hstep : s.step label = some s') (h : RunTransition.forgoes ⟨s, label, s'⟩ = true) :
    s.cancelled = true := by
  cases happens_of_step hstep with
  | quitEntered _ _ _ hcancelled | quitCalling _ _ _ hcancelled => exact hcancelled
  | _ => cases h

/-- **A run that is not cancelled** gives no request up. -/
theorem forgoes_eq_zero (past : first.History steps s) (hrun : s.cancelled = false) :
    steps.countP RunTransition.forgoes = 0 := by
  refine List.countP_eq_zero.mpr ?_
  intro t ht hforgoes
  obtain ⟨_, _, _, hnow, _⟩ := past.split ht
  have hend := cancelled_of_history past ht (step_cancelled hnow (cancelled_of_forgoes hnow hforgoes))
  rw [hrun] at hend
  cases hend

end RunState

end HttpBench
