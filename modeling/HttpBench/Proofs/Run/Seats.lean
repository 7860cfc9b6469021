import HttpBench.Proofs.Run.Steps

/-!
# Calls and their workers

In every state of a run the calls under way are those of the workers that are inside one, each
under the number that its worker has taken (`RunState.Seated`). It follows that a call which is
known to end with a sample ends with the sample of that number, that a call is cut off only after
the run has been cancelled, and that a worker keeps its turn until its call has to wait or is over.
-/

namespace HttpBench

/-- **A worker and the call under its number** belong together. -/
def Seat (cancelled : Bool) : Option Worker → Option Call → Prop
  | some worker, some call =>
    worker.stage = .calling call.sequence ∧
      (∀ x, call.stage.ending? = some (.sample x) → x.sequence = call.sequence ∧ worker.looked = true) ∧
      (call.stage.ending? = some .cut → cancelled = true) ∧
      (call.stage.isPending = false → call.stage.ending? = none → worker.looked = true)
  | some worker, none => ∀ n, worker.stage ≠ .calling n
  | none, some _ => False
  | none, none => True

namespace Seat
variable {cancelled cancelled' : Bool} {w : Nat} {worker worker' : Worker} {worker? : Option Worker}
  {call : Call} {call? : Option Call}

/-- A cancellation takes no seat away. -/
theorem mono (hc : cancelled = true → cancelled' = true) (h : Seat cancelled worker? call?) :
    Seat cancelled' worker? call? := by
  cases worker? with
  | none => cases call? <;> exact h
  | some worker =>
    cases call? with
    | none => exact h
    | some call => exact ⟨h.1, h.2.1, fun hcut => hc (h.2.2.1 hcut), h.2.2.2⟩

/-- A worker without a call is not inside one. -/
theorem of_none (hcall : call? = none) (hstage : ∀ n, worker.stage ≠ .calling n) :
    Seat cancelled (some worker) call? := by
  rw [hcall]
  exact hstage

/-- A call that has just begun ends in no way yet. -/
theorem of_started (hcall : call? = some call) (hending : call.stage.ending? = none)
    (hstage : worker.stage = .calling call.sequence) (hlooked : worker.looked = true) :
    Seat cancelled (some worker) call? := by
  rw [hcall]
  exact ⟨hstage, fun x hx => by simp [hending] at hx, fun hcut => by simp [hending] at hcut, fun _ _ => hlooked⟩

/-- The seat of a worker that has been changed. -/
theorem of_set {workers : List Worker} (hw : workers[w]? = some worker) (h : Seat cancelled (some worker') call?) :
    Seat cancelled (workers.set w worker')[w]? call? := by
  rw [List.getElem?_set_self (List.getElem?_eq_some_iff.mp hw).1]
  exact h

/-- A worker that looks keeps its seat. -/
theorem look (h : Seat cancelled (some worker) call?) : Seat cancelled (some { worker with looked := true }) call? := by
  cases call? with
  | none => exact h
  | some call => exact ⟨h.1, fun x hx => ⟨(h.2.1 x hx).1, rfl⟩, h.2.2.1, fun _ _ => rfl⟩

/-- A worker whose call may have to wait keeps its seat without a turn. -/
theorem rest (h : Seat cancelled (some worker) call?) (hcall : call? = some call)
    (hpending : call.stage.isPending = true) :
    Seat cancelled (some { worker with looked := false }) call? := by
  subst hcall
  have hnone : call.stage.ending? = none := by
    cases hs : call.stage <;> simp [hs, CallStage.isPending, CallStage.ending?] at hpending ⊢
  exact ⟨h.1, fun x hx => by simp [hnone] at hx, h.2.2.1, fun hp => by simp [hpending] at hp⟩

end Seat

namespace RunState

variable {s s' : RunState} {w n : Nat} {worker : Worker} {call : Call}

/-- **The calls under way are those of the workers.** -/
def Seated (s : RunState) : Prop := ∀ w, Seat s.cancelled s.workers[w]? (s.executor.call? w)

namespace Seated

/-- A worker that is not inside a call has none. -/
theorem call?_eq_none (h : s.Seated) (hw : s.workers[w]? = some worker) (hstage : ∀ n, worker.stage ≠ .calling n) :
    s.executor.call? w = none := by
  have hseat := h w
  cases hcall : s.executor.call? w with
  | none => rfl
  | some call =>
    rw [hw, hcall] at hseat
    exact absurd hseat.1 (hstage _)

/-- A call under way has a worker, which is inside it. -/
theorem worker_of_call (h : s.Seated) (hcall : s.executor.call? w = some call) :
    ∃ worker, s.workers[w]? = some worker ∧ worker.stage = .calling call.sequence := by
  have hseat := h w
  rw [hcall] at hseat
  cases hw : s.workers[w]? with
  | none => rw [hw] at hseat; exact hseat.elim
  | some worker => rw [hw] at hseat; exact ⟨worker, rfl, hseat.1⟩

/-- The worker of a call is inside it. -/
theorem stage_of_call (h : s.Seated) (hw : s.workers[w]? = some worker) (hcall : s.executor.call? w = some call) :
    worker.stage = .calling call.sequence := by
  obtain ⟨worker', hw', hstage⟩ := h.worker_of_call hcall
  obtain rfl := Option.some.inj (hw.symm.trans hw')
  exact hstage

/-- A worker inside a call has one, of its number. -/
theorem call_of_worker (h : s.Seated) (hw : s.workers[w]? = some worker) (hstage : worker.stage = .calling n) :
    ∃ call, s.executor.call? w = some call ∧ call.sequence = n := by
  have hseat := h w
  rw [hw] at hseat
  cases hcall : s.executor.call? w with
  | none => rw [hcall] at hseat; exact absurd hstage (hseat n)
  | some call =>
    rw [hcall] at hseat
    exact ⟨call, rfl, by simpa [hstage] using hseat.1.symm⟩

/-- **A call that ends with a sample** ends with that of its worker's number, in a turn of it. -/
theorem of_sample {x : Sample} (h : s.Seated) (hx : s.executor.ending? w = some (.sample x)) :
    ∃ worker, s.workers[w]? = some worker ∧ worker.stage = .calling x.sequence ∧ worker.looked = true := by
  obtain ⟨call, hcall, hending⟩ := Executor.ending?_eq_some.mp hx
  obtain ⟨worker, hw, hstage⟩ := h.worker_of_call hcall
  have hseat := h w
  rw [hw, hcall] at hseat
  obtain ⟨hn, hlooked⟩ := hseat.2.1 x hending
  exact ⟨worker, hw, by rw [hn]; exact hstage, hlooked⟩

/-- **A call is cut off** only when the run is cancelled. -/
theorem of_cut (h : s.Seated) (hcut : s.executor.ending? w = some .cut) : s.cancelled = true := by
  obtain ⟨call, hcall, hending⟩ := Executor.ending?_eq_some.mp hcut
  obtain ⟨worker, hw, _⟩ := h.worker_of_call hcall
  have hseat := h w
  rw [hw, hcall] at hseat
  exact hseat.2.2.1 hending

/-- **A worker keeps its turn** until its call has to wait or is over. -/
theorem looked_of_call (h : s.Seated) (hw : s.workers[w]? = some worker) (hcall : s.executor.call? w = some call)
    (hpending : call.stage.isPending = false) (hending : call.stage.ending? = none) : worker.looked = true := by
  have hseat := h w
  rw [hw, hcall] at hseat
  exact hseat.2.2.2 hpending hending

/-- A run that begins has no calls. -/
theorem begin {e : Executor} {target : Target} {useCache : Bool} {total concurrency : Nat} {cancelled : Bool}
    (he : e.calls = []) : (RunState.begin e target useCache total concurrency cancelled).Seated := by
  intro w
  have hnone : (RunState.begin e target useCache total concurrency cancelled).executor.call? w = none := by
    show e.call? w = none
    rw [Executor.call?, he]
    rfl
  rw [hnone]
  cases hw : (RunState.begin e target useCache total concurrency cancelled).workers[w]? with
  | none => trivial
  | some worker =>
    obtain ⟨v, _, rfl⟩ := List.mem_map.mp (List.mem_of_getElem? hw)
    intro n hstage
    cases hstage

/-- **A step of a call in between** keeps its seat. -/
theorem seat_between {e : Executor} {label : CallLabel} (h : s.Seated) (hw : s.workers[w]? = some worker)
    (hcall : s.executor.step w label = some e) (hstart : ∀ t u n, label ≠ .start t u n) (hleave : label ≠ .leave)
    (hturn : label.isInTurn = true → worker.looked = true) (hcut : label = .cut → s.cancelled = true) :
    Seat s.cancelled s.workers[w]? (e.call? w) := by
  obtain ⟨call, stage, hold, hnew⟩ := Executor.step_between hcall hstart hleave
  have hseat := h w
  rw [hw, hold] at hseat
  obtain ⟨hstage, hsample, hcutOff, _⟩ := hseat
  have hending : ∀ ending, stage.ending? = some ending → e.ending? w = some ending := fun ending he => by
    rw [Executor.ending?_eq, hnew]
    exact he
  rw [hw, hnew]
  refine ⟨hstage, ?_, ?_, ?_⟩
  · intro x hx
    rcases Executor.step_ending hcall (hending _ hx) with hx | ⟨call', y, hin, hy, hcall', hn⟩ | ⟨_, hx⟩ | ⟨_, hx⟩
    · rw [Executor.ending?_eq, hold] at hx
      exact hsample x hx
    · cases hy
      obtain rfl := Option.some.inj (hold.symm.trans hcall')
      exact ⟨hn, hturn hin⟩
    · cases hx
    · cases hx
  · intro hc
    rcases Executor.step_ending hcall (hending _ hc) with hc | ⟨_, _, _, hc, _⟩ | ⟨hlabel, _⟩ | ⟨_, hc⟩
    · rw [Executor.ending?_eq, hold] at hc
      exact hcutOff hc
    · cases hc
    · exact hcut hlabel
    · cases hc
  · intro _ hnone
    cases hin : label.isInTurn with
    | true => exact hturn hin
    | false =>
      obtain ⟨ending, he⟩ := Executor.step_off_turn hcall hin hstart hleave
      rw [Executor.ending?_eq, hnew, Option.bind_some] at he
      simp [hnone] at he

/-- **Every step keeps the calls with their workers.** -/
theorem step {label : RunLabel} (h : s.Seated) (hstep : s.step label = some s') : s'.Seated := by
  intro v
  -- whoever the step is not one of keeps its seat
  by_cases hv : worker? label = some v
  swap
  · obtain ⟨hworkers, hcalls⟩ := step_others hstep hv
    rw [hworkers, hcalls]
    exact (h v).mono (step_cancelled hstep)
  have hseat := h v
  cases happens_of_step hstep with
  | look hw =>
    obtain rfl := Option.some.inj hv
    rw [hw] at hseat
    exact .of_set hw hseat.look
  | rest hw _ hpending =>
    obtain rfl := Option.some.inj hv
    rw [hw] at hseat
    obtain ⟨call, hcall, hstage⟩ := Executor.isPending_eq_true.mp hpending
    exact .of_set hw (hseat.rest hcall hstage)
  | take hw hidle | stop hw hidle | finish hw hidle =>
    obtain rfl := Option.some.inj hv
    exact .of_set hw (.of_none (h.call?_eq_none hw (by simp [hidle])) (by simp))
  | quitEntered hw hstage =>
    obtain rfl := Option.some.inj hv
    exact .of_set hw (.of_none (h.call?_eq_none hw (by simp [hstage])) (by simp))
  | start hw _ hlooked hcall =>
    obtain rfl := Option.some.inj hv
    obtain ⟨_, call, hnew, hn, hnone⟩ := Executor.step_start hcall
    exact .of_set hw (.of_started hnew hnone (by rw [hn]) hlooked)
  | @leave _ worker ending _ hw _ hcall =>
    obtain rfl := Option.some.inj hv
    exact .of_set hw (.of_none (Executor.step_leave hcall).2 (by cases ending <;> simp))
  | quitCalling hw _ _ hcancelled hcall =>
    obtain rfl := Option.some.inj hv
    exact h.seat_between hw hcall (by simp) (by simp) (by simp [CallLabel.isInTurn]) fun _ => hcancelled
  | call hw hlooked hinner hcall =>
    obtain rfl := Option.some.inj hv
    refine h.seat_between hw hcall (fun t u n hl => ?_) (fun hl => ?_) (fun _ => hlooked) fun hl => ?_ <;>
      rw [hl] at hinner <;> cases hinner
  | unlist hcall =>
    obtain rfl := Option.some.inj hv
    obtain ⟨call, _, hold, _⟩ := Executor.step_between hcall (by simp) (by simp)
    obtain ⟨worker, hw, _⟩ := h.worker_of_call hold
    exact h.seat_between hw hcall (by simp) (by simp) (by simp [CallLabel.isInTurn]) (by simp)
  | cancel | purge | pass => cases hv

/-- **In every state of a run** the calls are those of the workers. -/
theorem history {first : RunState} {steps : List RunTransition} (h : first.Seated)
    (past : first.History steps s) : s.Seated :=
  past.invariant h fun _ _ _ => step

end Seated

end RunState

end HttpBench
