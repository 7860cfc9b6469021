import Mathlib.Algebra.Order.BigOperators.Group.Finset
import HttpBench.Proofs.Run.Samples

/-!
# Counting samples

Any figure of the samples of a run may be summed up over its workers, where the samples that calls
have come to but not yet returned count too (`RunState.tally`). A step adds the figure of the sample
that a call comes to in it, and nothing else (`tally_step`): what a call has come to its worker gets,
while no worker is taken down. In the end the sum is that over the samples of the run.
-/

namespace HttpBench

/-- The figure of the sample that a call ends with. -/
def CallEnd.figure (f : Sample → Nat) : CallEnd → Nat
  | .sample x => f x
  | .cut | .crash => 0

open Executor (figureOf)

namespace RunState

variable {f : Sample → Nat} {first s s' : RunState} {label : RunLabel} {w : Nat} {worker : Worker}

/-- The figures of a worker and its call. -/
def tallyOf (f : Sample → Nat) (s : RunState) (w : Nat) : Nat :=
  s.workers[w]?.elim 0 (fun worker => (worker.samples.map f).sum) +
    (s.executor.ending? w).elim 0 (·.figure f)

/-- **A figure, summed up** over all samples that calls have come to. -/
def tally (f : Sample → Nat) (s : RunState) : Nat := ∑ w ∈ Finset.range s.workers.length, s.tallyOf f w

/-- What a step of a call that does not go brings to its worker. -/
theorem figure_step {e e' : Executor} {inner : CallLabel} (hcall : e.step w inner = some e') (hleave : inner ≠ .leave) :
    (e'.ending? w).elim 0 (·.figure f) = (e.ending? w).elim 0 (·.figure f) + figureOf f (e.arrived? w e') := by
  cases hbefore : e.ending? w with
  | some ending =>
    have hafter := Executor.step_ended hcall hleave hbefore
    have hnone : e.arrived? w e' = none := Executor.arrived?_eq_none fun x _ => by simp [hbefore]
    simp [hafter, hnone, figureOf]
  | none =>
    cases hafter : e'.ending? w with
    | none => simp [Executor.arrived?, hbefore, hafter, figureOf]
    | some ending => cases ending <;> simp [Executor.arrived?, hbefore, hafter, figureOf, CallEnd.figure]

/-- A worker that is changed keeps its figures with its samples. -/
theorem tallyOf_set {worker' : Worker} (hw : s.workers[w]? = some worker) (hset : s'.workers = s.workers.set w worker')
    (hsamples : worker'.samples = worker.samples)
    (hfigure : (s'.executor.ending? w).elim 0 (·.figure f) =
      (s.executor.ending? w).elim 0 (·.figure f) + figureOf f (s.executor.arrived? w s'.executor)) :
    s'.tallyOf f w = s.tallyOf f w + figureOf f (s.executor.arrived? w s'.executor) := by
  have hnew : s'.workers[w]? = some worker' := by
    rw [hset]
    exact List.getElem?_set_self (List.getElem?_eq_some_iff.mp hw).1
  rw [tallyOf, tallyOf, hnew, hw, hfigure]
  simp only [Option.elim_some, hsamples]
  omega

/-- **What a step brings** to the worker that it is one of. -/
theorem tallyOf_step (hstep : s.step label = some s') (hw : worker? label = some w) :
    s'.tallyOf f w = s.tallyOf f w + figureOf f (s.executor.arrived? w s'.executor) := by
  cases happens_of_step hstep with
  | look hworker | take hworker | stop hworker | finish hworker | quitEntered hworker | rest hworker =>
    obtain rfl := Option.some.inj hw
    exact tallyOf_set hworker rfl rfl (by
      show _ = _ + figureOf f (s.executor.arrived? _ s.executor)
      rw [Executor.arrived?_self]
      rfl)
  | start hworker _ _ hcall =>
    obtain rfl := Option.some.inj hw
    exact tallyOf_set hworker rfl rfl (figure_step hcall (by simp))
  | quitCalling _ _ _ _ hcall =>
    obtain rfl := Option.some.inj hw
    rw [tallyOf, tallyOf, figure_step hcall (by simp), Nat.add_assoc]
  | call _ _ hinner hcall =>
    obtain rfl := Option.some.inj hw
    rw [tallyOf, tallyOf, figure_step hcall (by rintro rfl; cases hinner), Nat.add_assoc]
  | unlist hcall =>
    obtain rfl := Option.some.inj hw
    rw [tallyOf, tallyOf, figure_step hcall (by simp), Nat.add_assoc]
  | @leave v worker ending e hworker hending hcall =>
    obtain rfl := Option.some.inj hw
    -- the sample of the call is now one of the worker's
    have hgone : e.ending? v = none := by rw [Executor.ending?_eq, (Executor.step_leave hcall).2, Option.bind_none]
    have hnone : s.executor.arrived? v e = none := Executor.arrived?_eq_none fun x hx => by simp [hgone] at hx
    have hset : ∀ worker', (s.workers.set v worker')[v]? = some worker' := fun _ =>
      List.getElem?_set_self (List.getElem?_eq_some_iff.mp hworker).1
    show _ = _ + figureOf f (s.executor.arrived? v e)
    rw [hnone]
    simp only [tallyOf, leaveRequest, setWorker, hset, hworker, hending, hgone, Option.elim_some, Option.elim_none]
    cases ending <;> simp [CallEnd.figure, figureOf]
  | cancel | purge | pass => cases hw

/-- A step is of no worker but those that there are. -/
theorem lt_of_worker? (h : s.Seated) (hstep : s.step label = some s') (hw : worker? label = some w) :
    w < s.workers.length := by
  have ofSome : ∀ {v} {worker : Worker}, s.workers[v]? = some worker → v < s.workers.length := fun hworker =>
    (List.getElem?_eq_some_iff.mp hworker).1
  cases happens_of_step hstep with
  | look hworker | take hworker | stop hworker | finish hworker | quitEntered hworker | rest hworker | start hworker
  | quitCalling hworker | call hworker | leave hworker =>
    obtain rfl := Option.some.inj hw
    exact ofSome hworker
  | unlist hcall =>
    obtain rfl := Option.some.inj hw
    obtain ⟨call, _, hold, _⟩ := Executor.step_between hcall (by simp) (by simp)
    obtain ⟨worker, hworker, _⟩ := h.worker_of_call hold
    exact ofSome hworker
  | cancel | purge | pass => cases hw

/-- **What changes for one worker changes in the sum**: a step leaves everybody but its own worker alone. -/
theorem sum_step (h : s.Seated) (hstep : s.step label = some s') {f f' : Nat → Nat} {gain loss : Nat}
    (hothers : ∀ v, worker? label ≠ some v → f' v = f v)
    (hown : ∀ w, worker? label = some w → f w + gain = f' w + loss) (hnobody : worker? label = none → gain = loss) :
    (∑ v ∈ Finset.range s.workers.length, f v) + gain = (∑ v ∈ Finset.range s'.workers.length, f' v) + loss := by
  rw [step_length hstep]
  cases hw : worker? label with
  | none =>
    rw [hnobody hw, Finset.sum_congr rfl fun v _ => hothers v (by simp [hw])]
  | some w =>
    have hlt := Finset.mem_range.mpr (lt_of_worker? h hstep hw)
    have hrest : ∑ v ∈ (Finset.range s.workers.length).erase w, f' v =
        ∑ v ∈ (Finset.range s.workers.length).erase w, f v := by
      refine Finset.sum_congr rfl fun v hv => hothers v ?_
      rw [hw]
      exact fun hwv => Finset.ne_of_mem_erase hv (Option.some.inj hwv).symm
    have hlocal := hown w hw
    rw [← Finset.add_sum_erase _ _ hlt, ← Finset.add_sum_erase _ _ hlt, hrest]
    omega

/-- **A step adds the figure of the sample that a call comes to**, and nothing else. -/
theorem tally_step (h : s.Seated) (hstep : s.step label = some s') :
    s'.tally f = s.tally f + figureOf f (RunTransition.arrived? ⟨s, label, s'⟩) := by
  have hsum : s.tally f + figureOf f (RunTransition.arrived? ⟨s, label, s'⟩) = s'.tally f + 0 := by
    apply sum_step h hstep
    · intro v hv
      obtain ⟨hworkers, hcalls⟩ := step_others hstep hv
      rw [tallyOf, tallyOf, hworkers, Executor.ending?_eq, Executor.ending?_eq, hcalls]
    · intro w hw
      rw [tallyOf_step hstep hw, RunTransition.arrived?, hw]
      rfl
    · intro hw
      rw [RunTransition.arrived?, hw]
      rfl
  exact hsum.symm

/-- A run that begins has come to nothing. -/
theorem tallyOf_begin {e : Executor} {target : Target} {useCache cancelled : Bool} {total concurrency : Nat}
    (he : e.calls = []) (w : Nat) : (RunState.begin e target useCache total concurrency cancelled).tallyOf f w = 0 := by
  have hnone : e.ending? w = none := by simp [Executor.ending?_eq, Executor.call?, he]
  have hending : (RunState.begin e target useCache total concurrency cancelled).executor.ending? w = none := hnone
  rw [tallyOf, hending]
  cases hw : (RunState.begin e target useCache total concurrency cancelled).workers[w]? with
  | none => rfl
  | some worker =>
    obtain ⟨v, _, rfl⟩ := List.mem_map.mp (List.mem_of_getElem? hw)
    rfl

theorem tally_begin {e : Executor} {target : Target} {useCache cancelled : Bool} {total concurrency : Nat}
    (he : e.calls = []) : (RunState.begin e target useCache total concurrency cancelled).tally f = 0 :=
  Finset.sum_eq_zero fun w _ => tallyOf_begin he w

/-- A sum over a list is one over its positions. -/
private theorem sum_positions (g : Worker → Nat) (workers : List Worker) :
    ∑ w ∈ Finset.range workers.length, workers[w]?.elim 0 g = (workers.map g).sum := by
  induction workers with
  | nil => rfl
  | cons worker workers ih =>
    rw [List.length_cons, Finset.sum_range_succ', List.map_cons, List.sum_cons, Nat.add_comm]
    exact congrArg (g worker + ·) ih

/-- **In the end** the sum is that over the samples of the workers. -/
theorem tally_of_isDone (h : s.Seated) (hdone : s.isDone = true) :
    s.tally f = ((s.workers.flatMap Worker.samples).map f).sum := by
  have hlist := sum_positions (fun worker => (worker.samples.map f).sum) s.workers
  rw [List.map_flatMap, List.flatMap_def, List.sum_flatten, List.map_map]
  refine Eq.trans ?_ hlist
  refine Finset.sum_congr rfl ?_
  intro w hw
  have hworker := List.getElem?_eq_getElem (Finset.mem_range.mp hw)
  have hd := List.all_eq_true.mp hdone _ (List.getElem_mem (Finset.mem_range.mp hw))
  have hnone := h.call?_eq_none hworker fun n hstage => by simp [Worker.isDone, hstage] at hd
  rw [tallyOf, Executor.ending?_eq, hnone]
  rfl

end RunState

end HttpBench
