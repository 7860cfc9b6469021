import Mathlib.Data.Prod.Lex
import HttpBench.Proofs.Run.Plans
import HttpBench.Proofs.Run.Tally
import HttpBench.Proofs.Run.VirtualTime

/-!
# Runs with a deadline

In virtual time a run without a cache has no more freedom than the order in which its workers get on at one
moment, so it is known what a deadline leaves of it (`Dispatch.samples_of_deadline`): how many samples there are,
whether the run is cancelled, and how long it takes. The deadline must not coincide with an answer, for then it
would depend on that order whether the answer is still taken.

No run in virtual time is ever stuck. As long as some worker is not done, some worker can get on, or all of them
wait and time can pass, or the run is at its end and is cancelled (`Tempo.Kept.advances`). So from every state it
can be brought to its end.
-/

namespace HttpBench

namespace Tempo

variable {t : Tempo} {elapsed : Nat} {s s' : RunState} {label : RunLabel} {w : Nat} {worker worker' : Worker}
  {call : Call}

/-! ## The end of a run -/

/-- **When all workers are done**, each of them has used up its share or got all the answers there are before the
end, and the run has taken up all of its time or as long as its greatest share. -/
theorem Kept.of_done (h : t.Kept elapsed s) (hdone : s.isDone = true) :
    s.samples.length = ((List.range t.concurrency).map fun w => min (t.share w) t.quota).sum ∧
      (s.cancelled = true ↔ t.limit < t.delay * t.rounds) ∧ elapsed = min t.limit (t.delay * t.rounds) := by
  have hover : ∀ w, ∀ hlt : w < s.workers.length, s.workers[w].isDone = true := fun w hlt =>
    List.all_eq_true.mp hdone _ (List.getElem_mem hlt)
  have hsamples : s.workers.map (fun worker => worker.result.length) =
      (List.range t.concurrency).map fun w => min (t.share w) t.quota := by
    refine List.ext_getElem (by simp [h.staff]) fun w hlt _ => ?_
    have hlt : w < s.workers.length := by simpa using hlt
    obtain ⟨hstage, hgot, _⟩ := h.of_isDone (List.getElem?_eq_getElem hlt) (hover w hlt)
    simp [Worker.result, hstage, hgot]
  -- the first worker has most to do
  have hwhole : s.cancelled = false → t.delay * t.rounds ≤ elapsed := by
    intro hrunning
    have hfirst : 0 < s.workers.length := h.staff.symm ▸ t.staffed
    obtain ⟨_, _, hlow, hgot | hc⟩ := h.of_isDone (List.getElem?_eq_getElem hfirst) (hover 0 hfirst)
    · rwa [hgot, t.share_zero] at hlow
    · rw [hrunning] at hc
      cases hc
  have hlimited := h.limited
  have hbounded := h.bounded
  refine ⟨by rw [s.samples_perm.length_eq, List.length_flatMap, hsamples], ?_⟩
  cases hc : s.cancelled with
  | true =>
    have helapsed := h.cancelled hc
    have hless : t.limit < t.delay * t.rounds := Nat.lt_of_le_of_ne (helapsed ▸ hbounded) (t.limit_ne _)
    exact ⟨by simp [hless], by omega⟩
  | false =>
    have hall := hwhole hc
    have hmore : ¬t.limit < t.delay * t.rounds := by omega
    exact ⟨by simp [hmore], by omega⟩

/-! ## Getting on -/

/-- The answer to the call of a worker is due. -/
def isDue (t : Tempo) (e : Executor) (w : Nat) : Bool :=
  (e.call? w).any fun call => e.now = call.started.after ⟨t.delay⟩

/-- **What a worker has still to do at one moment.** While its answer is not due it has only to end its turn. -/
def workerLeft (fetching due : Bool) (worker : Worker) : Nat :=
  let unlooked := if worker.looked then 0 else 1
  match worker.stage with
  | .idle => 8 * worker.remaining + 1 + unlooked
  | .entered _ => 8 * worker.remaining + 7 + unlooked
  | .calling _ => 8 * worker.remaining + if fetching then if due then 5 + unlooked else 6 - unlooked else 4
  | .finished | .crashed => 0

def leftOf (t : Tempo) (s : RunState) (w : Nat) : Nat :=
  s.workers[w]?.elim 0 (workerLeft (s.executor.isFetching w) (t.isDue s.executor w))

/-- What is still to be done at one moment. -/
def left (t : Tempo) (s : RunState) : Nat := ∑ w ∈ Finset.range s.workers.length, t.leftOf s w

/-- A step of the worker leaves it less to do. -/
def GetsOn (t : Tempo) (s : RunState) (w : Nat) : Prop :=
  ∃ label s', t.Next s label s' ∧ RunState.worker? label = some w ∧ t.leftOf s' w < t.leftOf s w

theorem GetsOn.of_step (hworker : s.workers[w]? = some worker) (hw : RunState.worker? label = some w)
    (htime : s.keepsTime ⟨t.delay⟩ (some t.ending) label = true) (hstep : s.step label = some s')
    (hworker' : s'.workers[w]? = some worker')
    (hless : workerLeft (s'.executor.isFetching w) (t.isDue s'.executor w) worker' <
      workerLeft (s.executor.isFetching w) (t.isDue s.executor w) worker) : t.GetsOn s w := by
  refine ⟨label, s', RunState.stepInTime_eq_some.mpr ⟨htime, hstep⟩, hw, ?_⟩
  rw [leftOf, leftOf, hworker, hworker']
  exact hless

/-- A worker gets on if it has only to look before it does. -/
theorem GetsOn.of_look (hworker : s.workers[w]? = some worker) (hlooked : worker.looked = false)
    (hrunning : s.cancelled = false)
    (hopen : worker.stage = .idle ∧ 0 < worker.remaining ∨ worker.isInFlight = true)
    (hless : workerLeft (s.executor.isFetching w) (t.isDue s.executor w) { worker with looked := true } <
      workerLeft (s.executor.isFetching w) (t.isDue s.executor w) worker) : t.GetsOn s w := by
  have hstep : s.step (.look w) = some (s.setWorker w { worker with looked := true }) := by
    simp [RunState.step, hworker, hlooked, hrunning, hopen]
  exact .of_step hworker rfl rfl hstep (RunState.getElem?_set hworker _) hless

/-- Between two requests a worker gets on. -/
theorem Kept.getsOn_idle (h : t.Kept elapsed s) (hworker : s.workers[w]? = some worker) (hidle : worker.stage = .idle) :
    t.GetsOn s w := by
  have hpaced := h.paced w worker hworker
  simp only [Worker.Paced, hidle] at hpaced
  have hrunning := h.running hpaced.2
  rcases Nat.eq_zero_or_pos worker.remaining with hnone | hleft
  · have hstep : s.step (.finish w) = some (s.setWorker w { worker with stage := .finished }) := by
      simp [RunState.step, hworker, hidle, hnone]
    exact .of_step hworker rfl rfl hstep (RunState.getElem?_set hworker _) (by simp [workerLeft, hidle])
  cases hlooked : worker.looked with
  | true =>
    have hstep : s.step (.take w) =
        some ({ s with nextSequence := s.nextSequence + 1, gauge := s.gauge.enter }.setWorker w
          { worker with remaining := worker.remaining - 1, stage := .entered s.nextSequence, looked := false }) := by
      simp [RunState.step, hworker, hidle, hleft, hlooked]
    refine .of_step hworker rfl rfl hstep (RunState.getElem?_set hworker _) ?_
    simp only [workerLeft, hidle, hlooked]
    simp
    omega
  | false =>
    exact .of_look hworker hlooked hrunning (.inl ⟨hidle, hleft⟩) (by simp [workerLeft, hidle, hlooked])

/-- A worker that has counted its request in gets on. -/
theorem Kept.getsOn_entered {n : Nat} (h : t.Kept elapsed s) (hworker : s.workers[w]? = some worker)
    (hentered : worker.stage = .entered n) : t.GetsOn s w := by
  have hpaced := h.paced w worker hworker
  simp only [Worker.Paced, hentered] at hpaced
  have hrunning := h.running hpaced.2
  cases hlooked : worker.looked with
  | true =>
    have hcall : s.executor.step w (.start s.target s.useCache n) =
        some (s.executor.start w s.target s.useCache n) := by
      simp [Executor.step, h.seated.call?_eq_none hworker (by simp [hentered])]
    have hstep : s.step (.start w) = some ({ s with executor := s.executor.start w s.target s.useCache n }.setWorker w
        { worker with stage := .calling n }) := by
      simp [RunState.step, hworker, hentered, hlooked, hcall]
    -- no answer is due at once
    have hnow : s.executor.now ≠ s.executor.now.after ⟨t.delay⟩ := fun heq =>
      absurd (congrArg Instant.nanos heq) (Nat.ne_of_lt (Nat.lt_add_of_pos_right t.positive))
    have hdue : t.isDue (s.executor.start w s.target s.useCache n) w = false := by
      rw [isDue, h.uncached, Executor.start_uncached, Executor.call?_setCall, if_pos rfl]
      exact decide_eq_false hnow
    refine .of_step hworker rfl rfl hstep (RunState.getElem?_set hworker _) ?_
    simp only [workerLeft, hentered, hlooked, RunState.setWorker, hdue]
    cases (s.executor.start w s.target s.useCache n).isFetching w <;> simp
  | false =>
    exact .of_look hworker hlooked hrunning (.inr (by simp [Worker.isInFlight, hentered]))
      (by simp [workerLeft, hentered, hlooked])

/-- A worker whose call changes, but that stays as it is. -/
theorem GetsOn.of_call {n : Nat} {stage : CallStage} {e : Executor} (hworker : s.workers[w]? = some worker)
    (hcalling : worker.stage = .calling n) (hcall : s.executor.call? w = some call) (hfetching : call.stage = .fetching)
    (hw : RunState.worker? label = some w) (htime : s.keepsTime ⟨t.delay⟩ (some t.ending) label = true)
    (hstep : s.step label = some { s with executor := e }) (hcall' : e.call? w = some { call with stage })
    (hover : stage ≠ .fetching) : t.GetsOn s w := by
  have hworker' : ({ s with executor := e } : RunState).workers[w]? = some worker := hworker
  refine .of_step hworker hw htime hstep hworker' ?_
  have hbefore : s.executor.isFetching w = true := Executor.isFetching_eq_true.mpr ⟨call, hcall, hfetching⟩
  have hafter : e.isFetching w = false := by simp [Executor.isFetching, Executor.stage?, hcall', hover]
  simp only [workerLeft, hcalling, hbefore, hafter]
  cases t.isDue s.executor w <;> cases worker.looked <;> simp

/-- A worker whose answer is due looks, and then takes it. -/
theorem Kept.getsOn_due (h : t.Kept elapsed s) (hworker : s.workers[w]? = some worker)
    (hcall : s.executor.call? w = some call) (hfetching : call.stage = .fetching)
    (hdue : t.isDue s.executor w = true) : t.GetsOn s w := by
  obtain ⟨hcalling, _, _, hpaced⟩ := h.of_call hworker hcall
  rw [hfetching] at hpaced
  have hnow : s.executor.now = call.started.after ⟨t.delay⟩ := by simpa [isDue, hcall] using hdue
  cases hlooked : worker.looked with
  | true =>
    let closed : CallStage := .closing (.sample (.ofExchange s.executor.settings.policy call.sequence default))
    have hreply : s.executor.step w (.reply default) =
        some ((s.executor.keep call default).setStage w call closed) := by
      simp [Executor.step, hcall, hfetching, closed]
    have hstep : s.step (.call w (.reply default)) =
        some { s with executor := (s.executor.keep call default).setStage w call closed } := by
      simp [RunState.step, hworker, hlooked, CallLabel.isInTurn, RunState.stepCall, hreply]
    refine .of_call hworker hcalling hcall hfetching rfl ?_ hstep (by rw [Executor.call?_setStage, if_pos rfl])
      (by simp [closed])
    simp [RunState.keepsTime, RunState.now, hcall, hnow]
  | false =>
    have hanswer : elapsed = t.delay * (worker.samples.length + 1) := by
      have hmoment := h.now.symm.trans (congrArg Instant.nanos hnow)
      rw [Instant.after, hpaced.1, Nat.add_assoc, Nat.add_left_cancel_iff] at hmoment
      exact hmoment
    have hbusy : s.executor.isFetching w = true := Executor.isFetching_eq_true.mpr ⟨call, hcall, hfetching⟩
    exact .of_look hworker hlooked (h.running hanswer)
      (.inr (by simp [Worker.isInFlight, hcalling])) (by simp [workerLeft, hcalling, hlooked, hdue, hbusy])

/-- A worker whose answer is not due ends its turn, or sees that the run is cancelled. Otherwise it waits longer. -/
theorem Kept.getsOn_early (h : t.Kept elapsed s) (hworker : s.workers[w]? = some worker)
    (hcall : s.executor.call? w = some call) (hfetching : call.stage = .fetching)
    (hdue : t.isDue s.executor w = false) : t.GetsOn s w ∨ s.waitsUntil ⟨t.delay⟩ (s.now.after ⟨1⟩) w = true := by
  obtain ⟨hcalling, _, _, hpaced⟩ := h.of_call hworker hcall
  rw [hfetching] at hpaced
  have hbusy : s.executor.isFetching w = true := Executor.isFetching_eq_true.mpr ⟨call, hcall, hfetching⟩
  cases hlooked : worker.looked with
  | true =>
    have hpending : s.executor.isPending w = true :=
      Executor.isPending_eq_true.mpr ⟨call, hcall, by rw [hfetching]; rfl⟩
    have hstep : s.step (.rest w) = some (s.setWorker w { worker with looked := false }) := by
      simp [RunState.step, hworker, hlooked, hpending]
    refine .inl (.of_step hworker rfl rfl hstep (RunState.getElem?_set hworker _) ?_)
    simp [workerLeft, hcalling, hlooked, hdue, hbusy, RunState.setWorker]
  | false =>
    cases hcancelled : s.cancelled with
    | true =>
      have hcut : s.executor.step w .cut = some (s.executor.setStage w call (.closing .cut)) := by
        simp [Executor.step, hcall, hfetching]
      have hstep : s.step (.quit w) = some { s with executor := s.executor.setStage w call (.closing .cut) } := by
        simp [RunState.step, hworker, hcalling, hlooked, hcancelled, RunState.stepCall, hcut]
      exact .inl (.of_call hworker hcalling hcall hfetching rfl rfl hstep
        (by rw [Executor.call?_setStage, if_pos rfl]) (by simp))
    | false =>
      have hnow : s.executor.now ≠ call.started.after ⟨t.delay⟩ := by simpa [isDue, hcall] using hdue
      have hlatest : s.now.nanos ≤ call.started.nanos + t.delay := by
        rw [h.now, hpaced.1, Nat.add_assoc]
        exact Nat.add_le_add_left hpaced.2.2 _
      have hlater : s.now.nanos + 1 ≤ call.started.nanos + t.delay :=
        Nat.lt_of_le_of_ne hlatest fun heq => hnow (congrArg Instant.mk heq)
      exact .inr (RunState.waitsUntil_of_fetching hworker hlooked hcancelled hcall hfetching hlater)

/-- A worker with an answer, or whose call has been cut off, leaves its request. -/
theorem Kept.getsOn_closing {ending : CallEnd} (h : t.Kept elapsed s)
    (hworker : s.workers[w]? = some worker) (hcall : s.executor.call? w = some call)
    (hclosing : call.stage = .closing ending) : t.GetsOn s w := by
  obtain ⟨hcalling, _, hleads, _⟩ := h.of_call hworker hcall
  have hleave : s.executor.step w .leave = some (s.executor.dropCall w) := by
    simp [Executor.step, hcall, hclosing, hleads]
  have hending : s.executor.ending? w = some ending :=
    Executor.ending?_eq_some.mpr ⟨call, hcall, by rw [hclosing]; rfl⟩
  have hstep : s.step (.leave w) =
      some (({ s with executor := s.executor.dropCall w } : RunState).leaveRequest w worker ending) := by
    simp [RunState.step, hworker, hending, RunState.stepCall, hleave]
  have hover : s.executor.isFetching w = false := Executor.isFetching_of_ending hending
  refine .of_step hworker rfl rfl hstep (RunState.getElem?_set hworker _) ?_
  cases ending <;> simp [workerLeft, hcalling, hover]

/-- **A worker gets on** until it is done, unless it waits. -/
theorem Kept.getsOn (h : t.Kept elapsed s) (hworker : s.workers[w]? = some worker) :
    t.GetsOn s w ∨ s.waitsUntil ⟨t.delay⟩ (s.now.after ⟨1⟩) w = true := by
  cases hstage : worker.stage with
  | idle => exact .inl (h.getsOn_idle hworker hstage)
  | entered n => exact .inl (h.getsOn_entered hworker hstage)
  | finished | crashed => exact .inr (by simp [RunState.waitsUntil, hworker, Worker.isDone, hstage])
  | calling n =>
    obtain ⟨call, hcall, _⟩ := h.seated.call_of_worker hworker hstage
    obtain ⟨_, _, _, hpaced⟩ := h.of_call hworker hcall
    cases hwhere : call.stage with
    | fetching =>
      cases hdue : t.isDue s.executor w with
      | true => exact .inl (h.getsOn_due hworker hcall hwhere hdue)
      | false => exact h.getsOn_early hworker hcall hwhere hdue
    | closing ending => exact .inl (h.getsOn_closing hworker hcall hwhere)
    | following | waiting | looking | unlisted =>
      rw [hwhere] at hpaced
      exact hpaced.elim

/-- What one worker gets on by, the whole run gets on by. -/
theorem Kept.left_lt (h : t.Kept elapsed s) (hstep : s.step label = some s') (hw : RunState.worker? label = some w)
    (hless : t.leftOf s' w < t.leftOf s w) : t.left s' < t.left s := by
  have hsum : t.left s + 0 = t.left s' + (t.leftOf s w - t.leftOf s' w) := by
    refine RunState.sum_step h.seated hstep (fun v hv => ?_) (fun v hv => ?_) (fun hnone => ?_)
    · obtain ⟨hworkers, hcalls⟩ := RunState.step_others hstep hv
      have hnow : s'.executor.now = s.executor.now := (RunState.step_own hstep hw).1
      have hbusy : s'.executor.isFetching v = s.executor.isFetching v := by
        rw [Executor.isFetching, Executor.isFetching, Executor.stage?, Executor.stage?, hcalls]
      have hdue : t.isDue s'.executor v = t.isDue s.executor v := by rw [isDue, isDue, hcalls, hnow]
      rw [leftOf, leftOf, hworkers, hbusy, hdue]
    · obtain rfl := Option.some.inj (hw.symm.trans hv)
      omega
    · rw [hw] at hnone
      cases hnone
  omega

/-- What is ahead of a run: the time up to its end, the cancellation there, and what is to be done at one moment. -/
def ahead (t : Tempo) (elapsed : Nat) (s : RunState) : Nat ×ₗ Nat :=
  toLex (2 * (t.limit - elapsed) + (!s.cancelled).toNat, t.left s)

/-- **A run is never stuck**: until all workers are done, something can happen that leaves less ahead. -/
theorem Kept.advances (h : t.Kept elapsed s) (hopen : s.isDone = false) :
    ∃ label s' elapsed', t.Next s label s' ∧ t.Kept elapsed' s' ∧ t.ahead elapsed' s' < t.ahead elapsed s := by
  by_cases hwaits : ∀ w, w < s.workers.length → s.waitsUntil ⟨t.delay⟩ (s.now.after ⟨1⟩) w = true
  · obtain ⟨w, worker, hworker, hbusy⟩ := RunState.exists_open hopen
    obtain ⟨hrunning, _⟩ :=
      h.of_waitsUntil (hwaits w (List.getElem?_eq_some_iff.mp hworker).1) hworker hbusy
    rcases h.limited.eq_or_lt with hend | hbefore
    · have hnow : s.now = t.ending := congrArg Instant.mk (hend ▸ h.now)
      have hnext : t.Next s .cancel { s with cancelled := true } :=
        RunState.stepInTime_eq_some.mpr ⟨by simp [RunState.keepsTime, hrunning, hnow], rfl⟩
      refine ⟨_, _, elapsed, hnext, h.cancel hend, Prod.Lex.toLex_lt_toLex.mpr (.inl ?_)⟩
      simp [hrunning]
    · have hlimit : (s.now.after ⟨1⟩).nanos ≤ t.ending.nanos := by
        rw [Instant.after, h.now, ending, Nat.add_assoc]
        exact Nat.add_le_add_left hbefore _
      have hnext : t.Next s (.pass ⟨1⟩) { s with executor := s.executor.pass ⟨1⟩ } := by
        refine RunState.stepInTime_eq_some.mpr ⟨?_, rfl⟩
        simpa [RunState.keepsTime, hopen, hlimit] using hwaits
      refine ⟨_, _, elapsed + 1, hnext, h.pass hopen hwaits hbefore, Prod.Lex.toLex_lt_toLex.mpr (.inl ?_)⟩
      show 2 * (t.limit - (elapsed + 1)) + (!s.cancelled).toNat < 2 * (t.limit - elapsed) + (!s.cancelled).toNat
      omega
  · push Not at hwaits
    obtain ⟨w, hlt, hbusy⟩ := hwaits
    obtain ⟨label, s', hnext, hw, hless⟩ := (h.getsOn (List.getElem?_eq_getElem hlt)).resolve_right hbusy
    obtain ⟨htime, hstep⟩ := RunState.stepInTime_eq_some.mp hnext
    refine ⟨label, s', elapsed, hnext, h.own htime hstep hw, Prod.Lex.toLex_lt_toLex.mpr (.inr ⟨?_, ?_⟩)⟩
    · rw [(RunState.step_own hstep hw).2]
    · exact h.left_lt hstep hw hless

/-- **A run can be brought to its end** in virtual time from every state. -/
theorem Kept.exists_end (h : t.Kept elapsed s) :
    ∃ steps s', HttpBench.History t.Next s steps s' ∧ s'.isDone = true := by
  induction hahead : t.ahead elapsed s using WellFoundedLT.induction generalizing elapsed s with
  | _ ahead ih =>
    cases hopen : s.isDone with
    | true => exact ⟨[], s, .start, hopen⟩
    | false =>
      obtain ⟨label, s', elapsed', hnext, hkept, hless⟩ := h.advances hopen
      obtain ⟨steps, last, hsteps, hlast⟩ := ih _ (hahead ▸ hless) hkept rfl
      exact ⟨_, last, (HttpBench.History.one hnext).append hsteps, hlast⟩

end Tempo

/-! ## Dispatched runs -/

namespace Dispatch

variable {d d' : Dispatch} {label : DispatchLabel} {plan : RunPlan} {shared : Option ResponseCache} {now : Instant}
  {steps : List DispatchTransition} {settings : RunSettings}

/-- The moment at which the deadline is over. -/
def ending? (d : Dispatch) : Option Instant :=
  match d.stage with
  | .measuring started _ => d.plan.deadline.map started.after
  | _ => none

/-- **A step keeps virtual time**, and nobody cancels the run from outside. -/
def keepsTime (delay : Duration) (d : Dispatch) : DispatchLabel → Bool
  | .run label => d.run?.all (·.keepsTime delay d.ending? label)
  | .expire => d.run?.all (·.keepsTime delay d.ending? .cancel)
  | .proceed => true
  | .cancel => false

/-- One step in virtual time. -/
def stepInTime (delay : Duration) (d : Dispatch) (label : DispatchLabel) : Option Dispatch :=
  if d.keepsTime delay label then d.step label else none

/-- **A history in virtual time**, in which nobody cancels the run from outside. -/
abbrev TimedHistory (delay : Duration) (first : Dispatch) : List DispatchTransition → Dispatch → Prop :=
  HttpBench.History (fun d label d' => d.stepInTime delay label = some d') first

theorem stepInTime_eq_some {delay : Duration} :
    d.stepInTime delay label = some d' ↔ d.keepsTime delay label = true ∧ d.step label = some d' := by
  rw [stepInTime, Option.ite_none_right_eq_some]

/-- **The tempo of a plan** without a cache and a warmup that begins now. -/
structure HasTempo (t : Tempo) (plan : RunPlan) (now : Instant) : Prop where
  requests : plan.requests = t.requests
  concurrency : plan.concurrency = t.concurrency
  started : now = ⟨t.started⟩
  deadline : plan.deadline = some ⟨t.limit⟩
  uncached : plan.cacheEnabled = false
  cold : plan.warmup = 0

/-- **A dispatched run in virtual time** measures a run that keeps the tempo. -/
inductive InTempo (t : Tempo) (plan : RunPlan) (now : Instant) (d : Dispatch) : Prop
  | measuring {elapsed : Nat} {run : RunState} (hplan : d.plan = plan) (hstage : d.stage = .measuring now run)
      (kept : t.Kept elapsed run) : InTempo t plan now d
  | done {elapsed : Nat} {run : RunState} (hplan : d.plan = plan) (hstage : d.stage = .done (plan.resultOf now run))
      (kept : t.Kept elapsed run) (hdone : run.isDone = true) : InTempo t plan now d

variable {t : Tempo} {elapsed : Nat} {run run' : RunState}

theorem InTempo.begin (h : HasTempo t plan now) : InTempo t plan now (Dispatch.begin plan shared false now) := by
  have hbegin : Dispatch.begin plan shared false now = measure plan shared false now := by
    rw [Dispatch.begin, if_neg (by simp [h.cold])]
  have hrun : plan.measuredRun shared false now =
      .begin { settings := plan.executorSettings, cache := none, now } plan.target false t.requests t.concurrency
        false := by
    simp [RunPlan.measuredRun, h.uncached, h.requests, h.concurrency]
  have kept : t.Kept 0 (plan.measuredRun shared false now) := by
    rw [hrun]
    exact .begin rfl (congrArg Instant.nanos h.started)
  rw [hbegin]
  exact .measuring rfl rfl kept

/-- The deadline is over at the end of the run. -/
theorem HasTempo.ending?_eq (h : HasTempo t plan now) (hplan : d.plan = plan)
    (hstage : d.stage = .measuring now run) : d.ending? = some t.ending := by
  simp [ending?, hstage, hplan, h.deadline, h.started, Tempo.ending, Instant.after]

/-- **Every step** in virtual time keeps the tempo. -/
theorem InTempo.step (h : HasTempo t plan now) (hd : InTempo t plan now d)
    (hnext : d.stepInTime ⟨t.delay⟩ label = some d') : InTempo t plan now d' := by
  obtain ⟨htime, hstep⟩ := stepInTime_eq_some.mp hnext
  have hplan' := (step_plan hstep).1
  cases hd with
  | done hplan hstage kept hdone =>
    exact .done (hplan'.trans hplan) (step_done hstep hstage) kept hdone
  | @measuring elapsed run hplan hstage kept =>
    have hending := h.ending?_eq hplan hstage
    have hrun : d.run? = some run := by simp [run?, hstage]
    cases happens_of_step hstep with
    | warm hstage' | warmedUp hstage' | cancelWarmup hstage' | cancelDone hstage' =>
      rw [hstage] at hstage'
      cases hstage'
    | cancelMeasured => cases htime
    | @measured started run₀ run' inner hstage' hinner =>
      obtain ⟨rfl, rfl⟩ := DispatchStage.measuring.inj (hstage.symm.trans hstage')
      simp only [keepsTime, hrun, hending, Option.all_some] at htime
      obtain ⟨_, hkept⟩ := kept.step (RunState.stepInTime_eq_some.mpr ⟨htime, hinner⟩)
      exact .measuring hplan rfl hkept
    | expire hstage' =>
      obtain ⟨rfl, rfl⟩ := DispatchStage.measuring.inj (hstage.symm.trans hstage')
      simp only [keepsTime, hrun, hending, Option.all_some] at htime
      obtain ⟨_, hkept⟩ := kept.step (RunState.stepInTime_eq_some.mpr ⟨htime, rfl⟩)
      exact .measuring hplan rfl hkept
    | finish hstage' hdone =>
      obtain ⟨rfl, rfl⟩ := DispatchStage.measuring.inj (hstage.symm.trans hstage')
      exact .done hplan (by rw [hplan]) kept hdone

/-- What happens in the measured run happens to the dispatched run; the cancellation is that of the deadline. -/
theorem lift_inTime (h : HasTempo t plan now) (hplan : d.plan = plan) (hstage : d.stage = .measuring now run)
    {inner : List RunTransition} (past : HttpBench.History t.Next run inner run') :
    ∃ steps, d.TimedHistory ⟨t.delay⟩ steps { d with stage := .measuring now run' } := by
  induction past with
  | start => exact ⟨[], by rw [← hstage]; exact .start⟩
  | @step _ s s' label _ hnext ih =>
    obtain ⟨steps, hsteps⟩ := ih
    obtain ⟨htime, hstep⟩ := RunState.stepInTime_eq_some.mp hnext
    have hending := h.ending?_eq (d := { d with stage := .measuring now s }) hplan rfl
    cases hlabel : label.isCancel with
    | true =>
      obtain rfl : label = .cancel := by cases label <;> first | rfl | cases hlabel
      obtain rfl := Option.some.inj hstep
      have hrunning : s.cancelled = false := by simpa [RunState.keepsTime] using (Bool.and_eq_true_iff.mp htime).1
      have hnext : ({ d with stage := .measuring now s } : Dispatch).stepInTime ⟨t.delay⟩ .expire =
          some { d with stage := .measuring now { s with cancelled := true } } := by
        refine stepInTime_eq_some.mpr ⟨by simpa only [keepsTime, run?, hending, Option.all_some] using htime, ?_⟩
        simp [Dispatch.step, hplan, h.deadline, hrunning]
      exact ⟨_, hsteps.step hnext⟩
    | false =>
      have hnext : ({ d with stage := .measuring now s } : Dispatch).stepInTime ⟨t.delay⟩ (.run label) =
          some { d with stage := .measuring now s' } := by
        refine stepInTime_eq_some.mpr ⟨by simpa only [keepsTime, run?, hending, Option.all_some] using htime, ?_⟩
        simp [Dispatch.step, run?, setRun, hlabel, hstep]
      exact ⟨_, hsteps.step hnext⟩

/-- **A dispatched run can be brought to its end** in virtual time from every state. -/
theorem InTempo.exists_end (h : HasTempo t plan now) (hd : InTempo t plan now d) :
    ∃ steps d' result, d.TimedHistory ⟨t.delay⟩ steps d' ∧ d'.stage = .done result := by
  cases hd with
  | done _ hstage => exact ⟨[], d, _, .start, hstage⟩
  | measuring hplan hstage kept =>
    obtain ⟨inner, run', hinner, hdone⟩ := kept.exists_end
    obtain ⟨steps, hsteps⟩ := lift_inTime h hplan hstage hinner
    obtain ⟨d', hlast, hresult⟩ : ∃ d', ({ d with stage := .measuring now run' } : Dispatch).step .proceed = some d' ∧
        d'.stage = .done (d.plan.resultOf now run') := by
      simp only [Dispatch.step, hdone]
      exact ⟨_, rfl, rfl⟩
    exact ⟨_, d', _, hsteps.step (stepInTime_eq_some.mpr ⟨rfl, hlast⟩), hresult⟩

/-- **What a deadline leaves of a run** in virtual time. Let the transport answer every call after the same delay,
and let the deadline not be a multiple of it; both are whole milliseconds. Without a cache, a warmup and a
cancellation from outside, the result of the run has for each worker the samples of its share or as many as delays
fit into the deadline, whichever is less. The run is cancelled exactly if the deadline is over before the greatest
share, and takes until then or until that share is used up. From every state it can be brought to its end. -/
theorem samples_of_deadline {limit delay : Nat} (hplan : settings.validate = .ok plan)
    (hcache : plan.cacheEnabled = false) (hwarmup : plan.warmup = 0) (hdeadline : plan.deadline = some (.millis limit))
    (hdelay : 0 < delay) (huneven : ¬delay ∣ limit)
    (past : (begin plan shared false now).TimedHistory (.millis delay) steps d) :
    (∀ result, d.stage = .done result →
      result.samples.length = ((List.range plan.concurrency).map fun w =>
        min (RunState.share plan.requests plan.concurrency w) (limit / delay)).sum ∧
      (result.cancelled = true ↔ limit < delay * (plan.requests ⌈/⌉ plan.concurrency)) ∧
      result.elapsed = .millis (min limit (delay * (plan.requests ⌈/⌉ plan.concurrency)))) ∧
    ∃ later d' result, d.TimedHistory (.millis delay) later d' ∧ d'.stage = .done result := by
  let t : Tempo :=
    { requests := plan.requests
      concurrency := plan.concurrency
      started := now.nanos
      delay := delay * 1000000
      limit := limit * 1000000
      staffed := (RunSettings.sound_of_validate hplan).2.concurrency
      positive := Nat.mul_pos hdelay (by decide)
      uneven := by rwa [Nat.mul_dvd_mul_iff_right (by decide)] }
  have htempo : HasTempo t plan now := ⟨rfl, rfl, rfl, hdeadline, hcache, hwarmup⟩
  have hd : InTempo t plan now d :=
    past.invariant (P := InTempo t plan now) (.begin htempo) fun _ _ _ hd hnext => hd.step htempo hnext
  refine ⟨fun result hresult => ?_, hd.exists_end htempo⟩
  cases hd with
  | measuring _ hstage =>
    rw [hstage] at hresult
    cases hresult
  | @done elapsed run _ hstage kept hdone =>
    obtain rfl := DispatchStage.done.inj (hstage.symm.trans hresult)
    obtain ⟨hsamples, hcancelled, helapsed⟩ := kept.of_done hdone
    have hquota : t.quota = limit / delay := Nat.mul_div_mul_right _ _ (by decide)
    have hrounds : t.delay * t.rounds = delay * (plan.requests ⌈/⌉ plan.concurrency) * 1000000 :=
      Nat.mul_right_comm _ _ _
    rw [hquota] at hsamples
    rw [hrounds] at hcancelled helapsed
    refine ⟨hsamples, hcancelled.trans (Nat.mul_lt_mul_right (by decide)), ?_⟩
    have htook : run.now.nanos - now.nanos = elapsed := by
      rw [kept.now]
      exact Nat.add_sub_cancel_left _ _
    show Duration.mk (run.now.nanos - now.nanos) = _
    rw [htook, helapsed, Duration.millis, ← Nat.mul_min_mul_right]

/-- Two workers have three requests, whose answers take ten milliseconds each. After fifteen the run is over. -/
def playDeadline : List DispatchLabel :=
  let request w : List DispatchLabel :=
    [.run (.look w), .run (.take w), .run (.look w), .run (.start w), .run (.rest w)]
  let answer w : List DispatchLabel := [.run (.look w), .run (.call w (.reply default)), .run (.leave w)]
  request 0 ++ request 1 ++ [.run (.pass (.millis 10))] ++ answer 0 ++ answer 1 ++ [.run (.finish 1)] ++ request 0 ++
    [.run (.pass (.millis 5)), .expire, .run (.quit 0), .run (.leave 0), .proceed]

theorem samples_of_deadline_of_three :
    ∃ plan steps d result,
      ({ url := "http://a/", requests := 3, concurrency := 2, deadline := some (.millis 15) } : RunSettings).validate =
        .ok plan ∧
      (begin plan none false ⟨0⟩).TimedHistory (.millis 10) steps d ∧ d.stage = .done result ∧
      result.samples.length = 2 ∧ result.cancelled = true ∧ result.elapsed = .millis 15 := by
  have hplay : ((({ url := "http://a/", requests := 3, concurrency := 2, deadline := some (.millis 15) } :
      RunSettings).validate.toOption.bind fun plan =>
        (playFrom (stepInTime (.millis 10)) (begin plan none false ⟨0⟩) playDeadline).bind fun r =>
          r.2.result?.map fun _ => true) = some true) := by
    decide +kernel
  obtain ⟨plan, steps, d, result, hplan, past, hdone, _⟩ := exists_of_play (P := fun _ _ => true) hplay
  have hoptions := (RunSettings.sound_of_validate hplan).1
  have hrequests : plan.requests = 3 := congrArg RunOptions.requests hoptions
  have hconcurrency : plan.concurrency = 2 := congrArg RunOptions.concurrency hoptions
  have hdeadline : plan.deadline = some (.millis 15) := congrArg RunOptions.deadline hoptions
  obtain ⟨hresult, _⟩ := samples_of_deadline hplan (congrArg RunOptions.cacheEnabled hoptions)
    (congrArg RunOptions.warmup hoptions) hdeadline (by decide) (by decide) past
  obtain ⟨hsamples, hcancelled, helapsed⟩ := hresult result hdone
  rw [hrequests, hconcurrency] at hsamples hcancelled helapsed
  exact ⟨plan, steps, d, result, hplan, past, hdone, hsamples, hcancelled.mpr (by decide), helapsed⟩

end Dispatch

end HttpBench
