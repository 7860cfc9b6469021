import Mathlib.Data.Option.Basic
import HttpBench.Proofs.Executor.Calls
import HttpBench.Proofs.History
import HttpBench.Run.Machine

/-!
# What can happen in a run

`RunState.Happens` lists everything that one step of a run can be, with what it needs and where it
leads; it is read off a step once (`happens_of_step`), and the invariants of runs are proved by
cases on it. A history of a run is a history of its machine, so it is any interleaving of the
workers, with time passing and the run being cancelled anywhere in between.

Things are read off the steps of a history: the numbers that are handed out, the calls that the
transport gets, and the samples that calls come to and return.
-/

namespace HttpBench

namespace RunState

variable {s s' : RunState} {label : RunLabel}

/-- **What happens in one step**: what each step needs, and where it leads. -/
inductive Happens (s : RunState) : RunLabel → RunState → Prop
  | look {w : Nat} {worker : Worker} (hw : s.workers[w]? = some worker)
      (hopen : worker.stage = .idle ∧ 0 < worker.remaining ∨ worker.isInFlight = true)
      (hlooked : worker.looked = false) (hrun : s.cancelled = false) :
      Happens s (.look w) (s.setWorker w { worker with looked := true })
  | take {w : Nat} {worker : Worker} (hw : s.workers[w]? = some worker) (hidle : worker.stage = .idle)
      (hleft : 0 < worker.remaining) (hlooked : worker.looked = true) :
      Happens s (.take w)
        ({ s with nextSequence := s.nextSequence + 1, gauge := s.gauge.enter }.setWorker w
          { worker with remaining := worker.remaining - 1, stage := .entered s.nextSequence, looked := false })
  | stop {w : Nat} {worker : Worker} (hw : s.workers[w]? = some worker) (hidle : worker.stage = .idle)
      (hlooked : worker.looked = false) (hcancelled : s.cancelled = true) :
      Happens s (.stop w) (s.setWorker w { worker with stage := .finished })
  | finish {w : Nat} {worker : Worker} (hw : s.workers[w]? = some worker) (hidle : worker.stage = .idle)
      (hnone : worker.remaining = 0) :
      Happens s (.finish w) (s.setWorker w { worker with stage := .finished })
  | quitEntered {w n : Nat} {worker : Worker} (hw : s.workers[w]? = some worker)
      (hstage : worker.stage = .entered n) (hlooked : worker.looked = false) (hcancelled : s.cancelled = true) :
      Happens s (.quit w) (s.leaveRequest w worker .cut)
  | quitCalling {w n : Nat} {worker : Worker} {e : Executor} (hw : s.workers[w]? = some worker)
      (hstage : worker.stage = .calling n) (hlooked : worker.looked = false) (hcancelled : s.cancelled = true)
      (hcall : s.executor.step w .cut = some e) :
      Happens s (.quit w) { s with executor := e }
  | start {w n : Nat} {worker : Worker} {e : Executor} (hw : s.workers[w]? = some worker)
      (hstage : worker.stage = .entered n) (hlooked : worker.looked = true)
      (hcall : s.executor.step w (.start s.target s.useCache n) = some e) :
      Happens s (.start w) ({ s with executor := e }.setWorker w { worker with stage := .calling n })
  | call {w : Nat} {worker : Worker} {inner : CallLabel} {e : Executor} (hw : s.workers[w]? = some worker)
      (hlooked : worker.looked = true) (hinner : inner.isInTurn = true)
      (hcall : s.executor.step w inner = some e) :
      Happens s (.call w inner) { s with executor := e }
  | unlist {w : Nat} {e : Executor} (hcall : s.executor.step w .unlist = some e) :
      Happens s (.unlist w) { s with executor := e }
  | leave {w : Nat} {worker : Worker} {ending : CallEnd} {e : Executor} (hw : s.workers[w]? = some worker)
      (hending : s.executor.ending? w = some ending) (hcall : s.executor.step w .leave = some e) :
      Happens s (.leave w) ({ s with executor := e }.leaveRequest w worker ending)
  | rest {w : Nat} {worker : Worker} (hw : s.workers[w]? = some worker) (hlooked : worker.looked = true)
      (hpending : s.executor.isPending w = true) :
      Happens s (.rest w) (s.setWorker w { worker with looked := false })
  | cancel : Happens s .cancel { s with cancelled := true }
  | purge : Happens s .purge { s with executor := s.executor.purge }
  | pass {d : Duration} : Happens s (.pass d) { s with executor := s.executor.pass d }

private theorem guarded {A : Type} {p : Prop} [Decidable p] {x : Option A} {a : A}
    (h : (do guard p; x) = some a) : p ∧ x = some a := by
  obtain ⟨_, hp, hx⟩ := Option.bind_eq_some_iff.mp h
  exact ⟨(Option.guard_eq_some' _).mp hp, hx⟩

/-- A step of a call is one of the executor's. -/
theorem stepCall_eq {w : Nat} {inner : CallLabel} (h : s.stepCall w inner = some s') :
    ∃ e, s.executor.step w inner = some e ∧ s' = { s with executor := e } := by
  obtain ⟨e, he, rfl⟩ := Option.map_eq_some_iff.mp h
  exact ⟨e, he, rfl⟩

/-- **A step is one of these.** -/
theorem happens_of_step (h : s.step label = some s') : s.Happens label s' := by
  cases label with
  | look w =>
    obtain ⟨worker, hw, h⟩ := Option.bind_eq_some_iff.mp h
    obtain ⟨⟨hopen, hlooked, hrun⟩, h⟩ := guarded h
    obtain rfl := Option.some.inj h
    exact .look hw hopen (Bool.eq_false_iff.mpr hlooked) (Bool.eq_false_iff.mpr hrun)
  | take w =>
    obtain ⟨worker, hw, h⟩ := Option.bind_eq_some_iff.mp h
    obtain ⟨⟨hidle, hleft, hlooked⟩, h⟩ := guarded h
    obtain rfl := Option.some.inj h
    exact .take hw hidle hleft hlooked
  | stop w =>
    obtain ⟨worker, hw, h⟩ := Option.bind_eq_some_iff.mp h
    obtain ⟨⟨hidle, _, hlooked, hcancelled⟩, h⟩ := guarded h
    obtain rfl := Option.some.inj h
    exact .stop hw hidle (Bool.eq_false_iff.mpr hlooked) hcancelled
  | finish w =>
    obtain ⟨worker, hw, h⟩ := Option.bind_eq_some_iff.mp h
    obtain ⟨⟨hidle, hnone⟩, h⟩ := guarded h
    obtain rfl := Option.some.inj h
    exact .finish hw hidle hnone
  | quit w =>
    obtain ⟨worker, hw, h⟩ := Option.bind_eq_some_iff.mp h
    obtain ⟨⟨hlooked, hcancelled⟩, h⟩ := guarded h
    have hlooked := Bool.eq_false_iff.mpr hlooked
    cases hstage : worker.stage with
    | entered n =>
      rw [hstage] at h
      obtain rfl := Option.some.inj h
      exact .quitEntered hw hstage hlooked hcancelled
    | calling n =>
      rw [hstage] at h
      obtain ⟨e, hcall, rfl⟩ := stepCall_eq h
      exact .quitCalling hw hstage hlooked hcancelled hcall
    | _ => rw [hstage] at h; cases h
  | start w =>
    obtain ⟨worker, hw, h⟩ := Option.bind_eq_some_iff.mp h
    cases hstage : worker.stage with
    | entered n =>
      rw [hstage] at h
      obtain ⟨hlooked, h⟩ := guarded h
      obtain ⟨e, hcall, h⟩ := Option.bind_eq_some_iff.mp h
      obtain rfl := Option.some.inj h
      exact .start hw hstage hlooked hcall
    | _ => rw [hstage] at h; cases h
  | call w inner =>
    obtain ⟨worker, hw, h⟩ := Option.bind_eq_some_iff.mp h
    obtain ⟨⟨hlooked, hinner⟩, h⟩ := guarded h
    obtain ⟨e, hcall, rfl⟩ := stepCall_eq h
    exact .call hw hlooked hinner hcall
  | unlist w =>
    obtain ⟨e, hcall, rfl⟩ := stepCall_eq h
    exact .unlist hcall
  | leave w =>
    obtain ⟨worker, hw, h⟩ := Option.bind_eq_some_iff.mp h
    obtain ⟨ending, hending, h⟩ := Option.bind_eq_some_iff.mp h
    obtain ⟨left, hleft, h⟩ := Option.bind_eq_some_iff.mp h
    obtain ⟨e, hcall, rfl⟩ := stepCall_eq hleft
    obtain rfl := Option.some.inj h
    exact .leave hw hending hcall
  | rest w =>
    obtain ⟨worker, hw, h⟩ := Option.bind_eq_some_iff.mp h
    obtain ⟨⟨hlooked, hpending⟩, h⟩ := guarded h
    obtain rfl := Option.some.inj h
    exact .rest hw hlooked hpending
  | cancel =>
    obtain rfl := Option.some.inj h
    exact .cancel
  | purge =>
    obtain rfl := Option.some.inj h
    exact .purge
  | pass d =>
    obtain rfl := Option.some.inj h
    exact .pass

/-! ## What a step leaves alone -/

/-- What holds of all workers holds of them after a change, if it holds of the changed one. -/
theorem forall_setWorker {P : Worker → Prop} {w : Nat} {worker : Worker} (h : ∀ v ∈ s.workers, P v) (hw : P worker) :
    ∀ v ∈ s.workers.set w worker, P v := by
  intro v hv
  rcases List.mem_or_eq_of_mem_set hv with hv | rfl
  · exact h v hv
  · exact hw

/-- A run that is not done has a worker that is not. -/
theorem exists_open (h : s.isDone = false) :
    ∃ (w : Nat) (worker : Worker), s.workers[w]? = some worker ∧ worker.isDone = false := by
  obtain ⟨worker, hmem, hopen⟩ := List.all_eq_false.mp h
  obtain ⟨w, hw⟩ := List.getElem?_of_mem hmem
  exact ⟨w, worker, hw, Bool.eq_false_iff.mpr hopen⟩

/-- The worker that a step is one of. -/
def worker? : RunLabel → Option Nat
  | .look w | .take w | .stop w | .finish w | .quit w | .start w | .call w _ | .unlist w | .leave w | .rest w => some w
  | .cancel | .purge | .pass _ => none

/-- **A step of a worker leaves all others alone**, and their calls. -/
theorem step_others {v : Nat} (h : s.step label = some s') (hv : worker? label ≠ some v) :
    s'.workers[v]? = s.workers[v]? ∧ s'.executor.call? v = s.executor.call? v := by
  have hne : ∀ {w}, worker? label = some w → v ≠ w := fun hw hvw => hv (by rw [hw, hvw])
  cases happens_of_step h with
  | look hw | take hw | stop hw | finish hw | quitEntered hw | rest hw =>
    exact ⟨List.getElem?_set_ne (Ne.symm (hne rfl)), rfl⟩
  | start hw _ _ hcall | leave hw _ hcall =>
    exact ⟨List.getElem?_set_ne (Ne.symm (hne rfl)), Executor.step_other hcall (hne rfl)⟩
  | quitCalling _ _ _ _ hcall | call _ _ _ hcall | unlist hcall =>
    exact ⟨rfl, Executor.step_other hcall (hne rfl)⟩
  | cancel | purge | pass => exact ⟨rfl, rfl⟩

/-- No worker comes or goes. -/
theorem step_length (h : s.step label = some s') : s'.workers.length = s.workers.length := by
  cases happens_of_step h with
  | look | take | stop | finish | quitEntered | start | leave | rest => exact List.length_set
  | _ => rfl

/-- What is asked for, and how, stays as it is. -/
theorem step_target (h : s.step label = some s') :
    s'.target = s.target ∧ s'.useCache = s.useCache ∧ s'.executor.settings = s.executor.settings := by
  cases happens_of_step h with
  | quitCalling _ _ _ _ hcall | start _ _ _ hcall | call _ _ _ hcall | unlist hcall | leave _ _ hcall =>
    exact ⟨rfl, rfl, Executor.step_settings hcall⟩
  | _ => exact ⟨rfl, rfl, rfl⟩

/-- Time never goes back. -/
theorem step_now (h : s.step label = some s') : s.now.nanos ≤ s'.now.nanos := by
  cases happens_of_step h with
  | quitCalling _ _ _ _ hcall | start _ _ _ hcall | call _ _ _ hcall | unlist hcall | leave _ _ hcall =>
    exact Nat.le_of_eq (congrArg Instant.nanos (Executor.step_now hcall).symm)
  | pass => exact Nat.le_add_right _ _
  | _ => exact Nat.le_refl _

/-- Once cancelled, a run stays so. -/
theorem step_cancelled (h : s.step label = some s') (hc : s.cancelled = true) : s'.cancelled = true := by
  cases happens_of_step h with
  | cancel => rfl
  | _ => exact hc

/-! ## Histories -/

/-- One step of a run, as a relation. -/
def Next (s : RunState) (label : RunLabel) (s' : RunState) : Prop := s.step label = some s'

/-- **A history of a run** from a state on. -/
abbrev History (first : RunState) : List (Transition RunState RunLabel) → RunState → Prop :=
  HttpBench.History Next first

variable {first : RunState} {steps : List (Transition RunState RunLabel)}

/-- The workers of a run are as many as at its beginning. -/
theorem length_of_history (past : first.History steps s) : s.workers.length = first.workers.length :=
  past.invariant (P := fun s => s.workers.length = first.workers.length) rfl fun _ _ _ h hstep =>
    (step_length hstep).trans h

/-- **A run that has been cancelled** is so in the end. -/
theorem cancelled_of_history (past : first.History steps s) {t : Transition RunState RunLabel} (ht : t ∈ steps)
    (hc : t.after.cancelled = true) : s.cancelled = true := by
  obtain ⟨_, _, _, _, hrest, _⟩ := past.split ht
  exact hrest.invariant (P := fun s => s.cancelled = true) hc fun _ _ _ h hstep => step_cancelled hstep h

/-- The time at any step of a run is not after that at its end. -/
theorem now_le_of_history (past : first.History steps s) {t : Transition RunState RunLabel} (ht : t ∈ steps) :
    t.before.now.nanos ≤ s.now.nanos := by
  obtain ⟨_, _, _, hnow, hrest, _⟩ := past.split ht
  exact hrest.invariant (P := fun s => t.before.now.nanos ≤ s.now.nanos) (step_now hnow) fun _ _ _ h hstep =>
    Nat.le_trans h (step_now hstep)

end RunState

/-- **A step of a run**, with the states around it. -/
abbrev RunTransition := Transition RunState RunLabel

namespace RunTransition

/-- The number that is handed out in a step. -/
def taken? (t : RunTransition) : Option Nat :=
  match t.label with
  | .take _ => some t.before.nextSequence
  | _ => none

/-- **The transport gets a call** in a step. -/
def fetches (t : RunTransition) : Bool :=
  (RunState.worker? t.label).any fun w => t.before.executor.fetchesIn w t.after.executor

/-- The sample that a call comes to in a step, before it returns it. -/
def arrived? (t : RunTransition) : Option Sample :=
  (RunState.worker? t.label).bind fun w => t.before.executor.arrived? w t.after.executor

/-- **The sample that a call returns** in a step. -/
def returned? (t : RunTransition) : Option Sample :=
  match t.label with
  | .leave w =>
    match t.before.executor.ending? w with
    | some (.sample x) => some x
    | _ => none
  | _ => none

/-- The transport takes a worker down in a step. -/
def crashes (t : RunTransition) : Bool :=
  match t.label with
  | .call _ .crash => true
  | _ => false

end RunTransition

end HttpBench
