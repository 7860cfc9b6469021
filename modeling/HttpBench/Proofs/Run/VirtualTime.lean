import Mathlib.Algebra.Order.Floor.Div
import HttpBench.Proofs.Run.Fetches

/-!
# Runs in virtual time

In virtual time nothing takes time but waiting for the transport, which answers every call after the same delay:
time passes only while nobody can do anything else, and neither an answer nor the end of the run is missed
(`RunState.keepsTime`). The order in which workers get on at one moment stays open, so there are still many
histories.

For a run without a cache this settles where every worker stands at every moment (`Tempo.Kept`). The workers go
in step, one request after another, and each has as many samples as delays have passed, until its share is used
up or the run is cancelled. The end of the run does not coincide with any answer, so a worker that sees the
cancellation is waiting for one.
-/

namespace HttpBench

namespace RunState

variable {delay : Duration} {ending : Option Instant} {s s' : RunState} {label : RunLabel} {w : Nat}

/-- **A worker has nothing to do before a moment**: it is done, or it has ended its turn while the transport has
its call, and there is neither a cancellation to see nor an answer until then. The transport gets a call when it
begins, as it does without a cache. -/
def waitsUntil (delay : Duration) (moment : Instant) (s : RunState) (w : Nat) : Bool :=
  s.workers[w]?.all fun worker => worker.isDone || !worker.looked && !s.cancelled &&
    (s.executor.call? w).any fun call => call.stage = .fetching && moment.nanos ≤ (call.started.after delay).nanos

/-- A worker that has ended its turn waits for its answer. -/
theorem waitsUntil_of_fetching {moment : Instant} {worker : Worker} {call : Call}
    (hworker : s.workers[w]? = some worker) (hlooked : worker.looked = false) (hcancelled : s.cancelled = false)
    (hcall : s.executor.call? w = some call) (hfetching : call.stage = .fetching)
    (hdue : moment.nanos ≤ (call.started.after delay).nanos) : s.waitsUntil delay moment w = true := by
  simp [waitsUntil, hworker, hlooked, hcancelled, hcall, hfetching, hdue]

/-- **A step keeps virtual time**: the transport answers when the delay is over, the run is cancelled once it is at
its end, and time passes only while everybody waits. -/
def keepsTime (delay : Duration) (ending : Option Instant) (s : RunState) : RunLabel → Bool
  | .call w (.reply _) => (s.executor.call? w).any fun call => s.now = call.started.after delay
  | .call _ .crash => false
  | .cancel => !s.cancelled && ending = some s.now
  | .pass d =>
    !s.isDone && (List.range s.workers.length).all (s.waitsUntil delay (s.now.after d)) &&
      ending.all fun moment => (s.now.after d).nanos ≤ moment.nanos
  | _ => true

/-- **One step in virtual time.** -/
def stepInTime (delay : Duration) (ending : Option Instant) (s : RunState) (label : RunLabel) : Option RunState :=
  if s.keepsTime delay ending label then s.step label else none

theorem stepInTime_eq_some :
    s.stepInTime delay ending label = some s' ↔ s.keepsTime delay ending label = true ∧ s.step label = some s' := by
  rw [stepInTime, Option.ite_none_right_eq_some]

/-- A step of a worker takes no time and cancels nothing. -/
theorem step_own (hstep : s.step label = some s') (hw : worker? label = some w) :
    s'.now = s.now ∧ s'.cancelled = s.cancelled := by
  cases happens_of_step hstep with
  | quitCalling _ _ _ _ hcall | start _ _ _ hcall | call _ _ _ hcall | unlist hcall | leave _ _ hcall =>
    exact ⟨Executor.step_now hcall, rfl⟩
  | cancel | purge | pass => cases hw
  | _ => exact ⟨rfl, rfl⟩

/-- A worker that has been changed is what it was changed to. -/
theorem getElem?_set {worker : Worker} (hworker : s.workers[w]? = some worker) (changed : Worker) :
    (s.workers.set w changed)[w]? = some changed :=
  List.getElem?_set_self (List.getElem?_eq_some_iff.mp hworker).1

theorem eq_of_set {worker changed worker' : Worker} (hworker : s.workers[w]? = some worker)
    (hworker' : (s.workers.set w changed)[w]? = some worker') : worker' = changed :=
  Option.some.inj (hworker'.symm.trans (getElem?_set hworker changed))

end RunState

/-- **What a run in virtual time goes by**: its requests and its workers, when it begins and how long it may take,
and how long the transport takes to answer, in nanoseconds. The end of the run is no moment of an answer. -/
structure Tempo where
  requests : Nat
  concurrency : Nat
  started : Nat
  delay : Nat
  limit : Nat
  staffed : 0 < concurrency
  positive : 0 < delay
  uneven : ¬delay ∣ limit

namespace Tempo

variable {t : Tempo} {got elapsed : Nat}

/-- The share of a worker. -/
def share (t : Tempo) (w : Nat) : Nat := RunState.share t.requests t.concurrency w

/-- The answers that a worker can get before the end. -/
def quota (t : Tempo) : Nat := t.limit / t.delay

/-- The greatest share. -/
def rounds (t : Tempo) : Nat := t.requests ⌈/⌉ t.concurrency

/-- The end of the run. -/
def ending (t : Tempo) : Instant := ⟨t.started + t.limit⟩

theorem limit_ne (t : Tempo) (got : Nat) : t.limit ≠ t.delay * got := fun h => t.uneven (Dvd.intro got h.symm)

theorem le_quota (h : t.delay * got ≤ t.limit) : got ≤ t.quota :=
  (Nat.le_div_iff_mul_le t.positive).mpr (by rwa [Nat.mul_comm])

theorem delay_mul_quota_le (t : Tempo) : t.delay * t.quota ≤ t.limit := Nat.mul_div_le _ _

/-- At the end of the run a worker that waits for an answer has got all that it can. -/
theorem eq_quota (hlow : t.delay * got ≤ t.limit) (hhigh : t.limit ≤ t.delay * (got + 1)) : got = t.quota := by
  have hless : t.limit < t.delay * (got + 1) := Nat.lt_of_le_of_ne hhigh (t.limit_ne _)
  exact Nat.le_antisymm (le_quota hlow) (Nat.le_of_lt_succ (Nat.div_lt_of_lt_mul hless))

theorem requests_le (t : Tempo) : t.requests ≤ t.concurrency * t.rounds :=
  (ceilDiv_le_iff_le_mul t.staffed).mp (Nat.le_refl t.rounds)

/-- No worker has more than the greatest share. -/
theorem share_le_rounds (t : Tempo) (w : Nat) : t.share w ≤ t.rounds := by
  have hparts := Nat.div_add_mod t.requests t.concurrency
  have hall := t.requests_le
  have hwhole : t.requests / t.concurrency ≤ t.rounds :=
    Nat.le_of_mul_le_mul_left (Nat.le_trans (Nat.mul_div_le _ _) hall) t.staffed
  unfold share RunState.share
  split
  next hone =>
    have hless : t.concurrency * (t.requests / t.concurrency) < t.concurrency * t.rounds := by omega
    exact Nat.lt_of_mul_lt_mul_left hless
  next => exact hwhole

/-- The first worker has the greatest share. -/
theorem share_zero (t : Tempo) : t.share 0 = t.rounds := by
  refine Nat.le_antisymm (t.share_le_rounds 0) ((ceilDiv_le_iff_le_mul t.staffed).mpr ?_)
  have hparts := Nat.div_add_mod t.requests t.concurrency
  have hrest := Nat.mod_lt t.requests t.staffed
  unfold share RunState.share
  split
  · rw [Nat.mul_succ]
    omega
  · rw [Nat.add_zero]
    omega

end Tempo

/-- **How far a call has got** in virtual time, whose worker has so many samples. -/
def Call.Paced (t : Tempo) (got elapsed : Nat) (cancelled : Bool) (call : Call) : Prop :=
  call.leads = none ∧
    match call.stage with
    | .fetching =>
      call.started.nanos = t.started + t.delay * got ∧ t.delay * got ≤ elapsed ∧ elapsed ≤ t.delay * (got + 1)
    | .closing (.sample _) => elapsed = t.delay * (got + 1)
    | .closing .cut => got = t.quota ∧ cancelled = true
    | _ => False

/-- **How far a worker has got** in virtual time, with its share of the requests. -/
def Worker.Paced (t : Tempo) (share elapsed : Nat) (cancelled : Bool) (worker : Worker) (call? : Option Call) : Prop :=
  let got := worker.samples.length
  match worker.stage with
  | .idle => got + worker.remaining = share ∧ elapsed = t.delay * got
  | .entered _ => got + 1 + worker.remaining = share ∧ elapsed = t.delay * got
  | .calling _ => got + 1 + worker.remaining = share ∧ ∃ call, call? = some call ∧ call.Paced t got elapsed cancelled
  | .finished => got = min share t.quota ∧ t.delay * got ≤ elapsed ∧ (got = share ∨ cancelled = true)
  | .crashed => False

/-- A cancellation takes nobody out of pace. -/
theorem Call.Paced.cancel {t : Tempo} {got elapsed : Nat} {cancelled : Bool} {call : Call}
    (h : call.Paced t got elapsed cancelled) : call.Paced t got elapsed true := by
  obtain ⟨hleads, hpaced⟩ := h
  refine ⟨hleads, ?_⟩
  split at hpaced
  case h_3 => exact ⟨hpaced.1, rfl⟩
  all_goals exact hpaced

theorem Worker.Paced.cancel {t : Tempo} {share elapsed : Nat} {cancelled : Bool} {worker : Worker} {call? : Option Call}
    (h : worker.Paced t share elapsed cancelled call?) : worker.Paced t share elapsed true call? := by
  unfold Worker.Paced at h ⊢
  cases hstage : worker.stage <;> simp only [hstage] at h ⊢
  case calling =>
    obtain ⟨hshare, call, hcall, hpaced⟩ := h
    exact ⟨hshare, call, hcall, hpaced.cancel⟩
  case finished => exact ⟨h.1, h.2.1, .inr trivial⟩
  all_goals exact h

namespace Tempo

variable {t : Tempo} {elapsed : Nat} {s s' : RunState} {label : RunLabel} {w : Nat} {worker : Worker}
  {call : Call}

/-- **A run keeps its tempo**: every worker is where it has to be, and the time that has passed is at most that up
to the end and at most that for the greatest share. -/
structure Kept (t : Tempo) (elapsed : Nat) (s : RunState) : Prop where
  seated : s.Seated
  uncached : s.useCache = false
  staff : s.workers.length = t.concurrency
  now : s.now.nanos = t.started + elapsed
  paced : ∀ w (worker : Worker), s.workers[w]? = some worker →
    worker.Paced t (t.share w) elapsed s.cancelled (s.executor.call? w)
  limited : elapsed ≤ t.limit
  bounded : elapsed ≤ t.delay * t.rounds
  cancelled : s.cancelled = true → elapsed = t.limit

/-- One step in virtual time. -/
def Next (t : Tempo) (s : RunState) (label : RunLabel) (s' : RunState) : Prop :=
  s.stepInTime ⟨t.delay⟩ (some t.ending) label = some s'

/-! ## The steps of a worker -/

/-- As long as a worker is between two calls, or has an answer, the run is not at its end. -/
theorem Kept.running (h : t.Kept elapsed s) {got : Nat} (helapsed : elapsed = t.delay * got) : s.cancelled = false :=
  Bool.eq_false_iff.mpr fun hc => t.limit_ne got ((h.cancelled hc).symm.trans helapsed)

/-- A call under way is that of a worker inside it. -/
theorem Kept.of_call (h : t.Kept elapsed s) (hworker : s.workers[w]? = some worker)
    (hcall : s.executor.call? w = some call) :
    worker.stage = .calling call.sequence ∧ worker.samples.length + 1 + worker.remaining = t.share w ∧
      call.Paced t worker.samples.length elapsed s.cancelled := by
  have hstage := h.seated.stage_of_call hworker hcall
  have hpaced := h.paced _ _ hworker
  simp only [Worker.Paced, hstage, hcall, Option.some.injEq, exists_eq_left'] at hpaced
  exact ⟨hstage, hpaced⟩

/-- **A step of a call** keeps it in pace, unless it begins or leaves. -/
theorem Kept.paced_call {e : Executor} {inner : CallLabel} (h : t.Kept elapsed s)
    (hworker : s.workers[w]? = some worker) (hstep : s.executor.step w inner = some e)
    (hstart : ∀ target useCache n, inner ≠ .start target useCache n) (hleave : inner ≠ .leave)
    (hreply : ∀ x call, inner = .reply x → s.executor.call? w = some call → s.now = call.started.after ⟨t.delay⟩)
    (hcut : inner = .cut → s.cancelled = true) (hcrash : inner ≠ .crash) :
    worker.Paced t (t.share w) elapsed s.cancelled (e.call? w) := by
  cases Executor.moves_of_step hstep with
  | start => exact absurd rfl (hstart _ _ _)
  | crash => exact absurd rfl hcrash
  | leave | leaveLead => exact absurd rfl hleave
  | ask hcall hwhere | resume hcall hwhere | lookUp hcall hwhere | cutWaiting hcall hwhere =>
    obtain ⟨_, _, _, hpaced⟩ := h.of_call hworker hcall
    rw [hwhere] at hpaced
    exact hpaced.elim
  | unlist hcall _ hleads =>
    obtain ⟨_, _, hnone, _⟩ := h.of_call hworker hcall
    rw [hleads] at hnone
    cases hnone
  | @reply call x hcall hfetching =>
    obtain ⟨hstage, hshare, hleads, hpaced⟩ := h.of_call hworker hcall
    rw [hfetching] at hpaced
    have hnow := congrArg Instant.nanos (hreply x call rfl hcall)
    have hanswered : elapsed = t.delay * (worker.samples.length + 1) := by
      rw [h.now, Instant.after, hpaced.1, Nat.add_assoc, Nat.add_left_cancel_iff] at hnow
      exact hnow
    simp only [Worker.Paced, hstage, Executor.call?_setStage, if_true]
    exact ⟨hshare, _, rfl, hleads, hanswered⟩
  | cutFetching hcall hfetching =>
    obtain ⟨hstage, hshare, hleads, hpaced⟩ := h.of_call hworker hcall
    rw [hfetching] at hpaced
    obtain ⟨_, hlow, hhigh⟩ := hpaced
    have hcancelled := hcut rfl
    rw [h.cancelled hcancelled] at hlow hhigh
    simp only [Worker.Paced, hstage, Executor.call?_setStage, if_true]
    exact ⟨hshare, _, rfl, hleads, eq_quota hlow hhigh, hcancelled⟩

/-- A worker that begins a call begins it after its other ones. -/
theorem Kept.paced_start {e : Executor} {n : Nat} (h : t.Kept elapsed s) (hworker : s.workers[w]? = some worker)
    (hentered : worker.stage = .entered n) (hstep : s.executor.step w (.start s.target s.useCache n) = some e) :
    Worker.Paced t (t.share w) elapsed s.cancelled { worker with stage := .calling n } (e.call? w) := by
  have hpaced := h.paced _ _ hworker
  simp only [Worker.Paced, hentered] at hpaced
  obtain ⟨hshare, helapsed⟩ := hpaced
  cases Executor.moves_of_step hstep with
  | start =>
    have hlater : elapsed ≤ t.delay * (worker.samples.length + 1) :=
      helapsed.trans_le (Nat.mul_le_mul_left _ (Nat.le_succ _))
    simp only [Worker.Paced, h.uncached, Executor.start_uncached, Executor.call?_setCall, if_true]
    exact ⟨hshare, _, rfl, rfl, helapsed ▸ h.now, Nat.le_of_eq helapsed.symm, hlater⟩

/-- A worker whose call goes has one sample more, or is finished. -/
theorem Kept.paced_leave {e : Executor} {ending : CallEnd} {worker' : Worker} (h : t.Kept elapsed s)
    (hworker : s.workers[w]? = some worker) (hending : s.executor.ending? w = some ending)
    (hstep : s.executor.step w .leave = some e)
    (hworker' : (s.leaveRequest w worker ending).workers[w]? = some worker') :
    worker'.Paced t (t.share w) elapsed s.cancelled (e.call? w) := by
  cases Executor.moves_of_step hstep with
  | @leave call ending hcall hclosing =>
    obtain ⟨_, hshare, _, hpaced⟩ := h.of_call hworker hcall
    rw [Executor.ending?_eq, hcall, Option.bind_some, hclosing] at hending
    obtain rfl := Option.some.inj hending
    rw [hclosing] at hpaced
    obtain rfl := RunState.eq_of_set hworker hworker'
    cases ending with
    | sample x =>
      simp only [Worker.Paced, List.length_append, List.length_singleton]
      exact ⟨hshare, hpaced⟩
    | cut =>
      obtain ⟨hquota, hcancelled⟩ := hpaced
      have helapsed := h.cancelled hcancelled
      have hlow := t.delay_mul_quota_le
      simp only [Worker.Paced, hquota]
      exact ⟨by omega, by omega, .inr hcancelled⟩
    | crash => exact hpaced.elim
  | leaveLead hcall _ hleads =>
    obtain ⟨_, _, hnone, _⟩ := h.of_call hworker hcall
    rw [hleads] at hnone
    cases hnone

/-- **A step of a worker** keeps it in pace. -/
theorem Kept.paced_own (h : t.Kept elapsed s) (htime : s.keepsTime ⟨t.delay⟩ (some t.ending) label = true)
    (hstep : s.step label = some s') (hw : RunState.worker? label = some w) {worker' : Worker}
    (hworker' : s'.workers[w]? = some worker') :
    worker'.Paced t (t.share w) elapsed s'.cancelled (s'.executor.call? w) := by
  cases RunState.happens_of_step hstep with
  | look hworker | rest hworker =>
    obtain rfl := Option.some.inj hw
    obtain rfl := RunState.eq_of_set hworker hworker'
    have hpaced := h.paced _ _ hworker
    exact hpaced
  | take hworker hidle hleft =>
    obtain rfl := Option.some.inj hw
    obtain rfl := RunState.eq_of_set hworker hworker'
    have hpaced := h.paced _ _ hworker
    simp only [Worker.Paced, hidle] at hpaced ⊢
    exact ⟨by omega, hpaced.2⟩
  | finish hworker hidle hnone =>
    obtain rfl := Option.some.inj hw
    obtain rfl := RunState.eq_of_set hworker hworker'
    have hpaced := h.paced _ _ hworker
    simp only [Worker.Paced, hidle] at hpaced ⊢
    obtain ⟨hshare, helapsed⟩ := hpaced
    have hquota := le_quota (t := t) (helapsed ▸ h.limited)
    exact ⟨by omega, Nat.le_of_eq helapsed.symm, .inl (by omega)⟩
  | stop hworker hbetween _ hcancelled | quitEntered hworker hbetween _ hcancelled =>
    have hpaced := h.paced _ _ hworker
    simp only [Worker.Paced, hbetween] at hpaced
    rw [h.running hpaced.2] at hcancelled
    cases hcancelled
  | start hworker hentered _ hcall =>
    obtain rfl := Option.some.inj hw
    obtain rfl := RunState.eq_of_set hworker hworker'
    exact h.paced_start hworker hentered hcall
  | quitCalling _ _ _ hcancelled hcall =>
    obtain rfl := Option.some.inj hw
    exact h.paced_call hworker' hcall (by simp) (by simp) (by simp) (fun _ => hcancelled) (by simp)
  | call _ _ hinner hcall =>
    obtain rfl := Option.some.inj hw
    refine h.paced_call hworker' hcall ?_ ?_ ?_ ?_ ?_
    · rintro _ _ _ rfl
      cases hinner
    · rintro rfl
      cases hinner
    · rintro x call rfl hfetching
      simpa [RunState.keepsTime, hfetching] using htime
    · rintro rfl
      cases hinner
    · rintro rfl
      cases htime
  | unlist hcall =>
    obtain rfl := Option.some.inj hw
    exact h.paced_call hworker' hcall (by simp) (by simp) (by simp) (by simp) (by simp)
  | leave hworker hending hcall =>
    obtain rfl := Option.some.inj hw
    exact h.paced_leave hworker hending hcall hworker'
  | cancel | purge | pass => cases hw

/-! ## The steps of a run -/

/-- A step of a worker leaves all others as they are. -/
theorem Kept.own (h : t.Kept elapsed s) (htime : s.keepsTime ⟨t.delay⟩ (some t.ending) label = true)
    (hstep : s.step label = some s') (hw : RunState.worker? label = some w) : t.Kept elapsed s' := by
  obtain ⟨hnow, hcancelled⟩ := RunState.step_own hstep hw
  refine
    { seated := h.seated.step hstep
      uncached := (RunState.step_target hstep).2.1.trans h.uncached
      staff := (RunState.step_length hstep).trans h.staff
      now := hnow ▸ h.now
      paced := fun v worker hworker => ?_
      limited := h.limited
      bounded := h.bounded
      cancelled := fun hc => h.cancelled (hcancelled ▸ hc) }
  by_cases hv : RunState.worker? label = some v
  · exact h.paced_own htime hstep hv hworker
  · obtain ⟨hworkers, hcalls⟩ := RunState.step_others hstep hv
    rw [hcancelled, hcalls]
    exact h.paced v worker (hworkers ▸ hworker)

/-- The run is cancelled at its end. -/
theorem Kept.cancel (h : t.Kept elapsed s) (helapsed : elapsed = t.limit) :
    t.Kept elapsed { s with cancelled := true } where
  seated := h.seated.step (show s.step .cancel = some _ from rfl)
  uncached := h.uncached
  staff := h.staff
  now := h.now
  paced w worker hworker := (h.paced w worker hworker).cancel
  limited := h.limited
  bounded := h.bounded
  cancelled _ := helapsed

/-- What is dropped from a cache changes nothing. -/
theorem Kept.purge (h : t.Kept elapsed s) : t.Kept elapsed { s with executor := s.executor.purge } where
  seated := h.seated.step (show s.step .purge = some _ from rfl)
  uncached := h.uncached
  staff := h.staff
  now := h.now
  paced := h.paced
  limited := h.limited
  bounded := h.bounded
  cancelled := h.cancelled

/-- A worker that has nothing to do for a while waits for an answer, which is not due before. -/
theorem Kept.of_waitsUntil {d : Duration} (h : t.Kept elapsed s)
    (hwaits : s.waitsUntil ⟨t.delay⟩ (s.now.after d) w = true) (hworker : s.workers[w]? = some worker)
    (hopen : worker.isDone = false) :
    s.cancelled = false ∧ ∃ call, s.executor.call? w = some call ∧ call.stage = .fetching ∧
      elapsed + d.nanos ≤ t.delay * (worker.samples.length + 1) := by
  simp only [RunState.waitsUntil, hworker, Option.all_some, hopen, Bool.false_or, Bool.and_eq_true,
    Bool.not_eq_true'] at hwaits
  obtain ⟨⟨_, hrunning⟩, hcall⟩ := hwaits
  obtain ⟨call, hcall, hfetching⟩ := (Option.any_eq_true _ _).mp hcall
  simp only [Bool.and_eq_true, decide_eq_true_eq] at hfetching
  obtain ⟨hfetching, hdue⟩ := hfetching
  refine ⟨hrunning, call, hcall, hfetching, ?_⟩
  obtain ⟨_, _, _, hpaced⟩ := h.of_call hworker hcall
  rw [hfetching] at hpaced
  rw [Instant.after, Instant.after, h.now, hpaced.1, Nat.add_assoc, Nat.add_assoc, Nat.add_le_add_iff_left] at hdue
  exact hdue

/-- A worker that is done has finished, with all the samples that it can have. -/
theorem Kept.of_isDone (h : t.Kept elapsed s) (hworker : s.workers[w]? = some worker) (hdone : worker.isDone = true) :
    worker.stage = .finished ∧ worker.samples.length = min (t.share w) t.quota ∧
      t.delay * worker.samples.length ≤ elapsed ∧ (worker.samples.length = t.share w ∨ s.cancelled = true) := by
  have hpaced := h.paced w worker hworker
  cases hstage : worker.stage <;> simp only [Worker.isDone, hstage] at hdone <;>
    simp only [Worker.Paced, hstage] at hpaced
  case finished => exact ⟨rfl, hpaced⟩
  all_goals cases hdone

/-- **Time passes** while everybody waits, but not beyond the end of the run. -/
theorem Kept.pass {d : Duration} (h : t.Kept elapsed s) (hopen : s.isDone = false)
    (hwaits : ∀ w, w < s.workers.length → s.waitsUntil ⟨t.delay⟩ (s.now.after d) w = true)
    (hlimit : elapsed + d.nanos ≤ t.limit) :
    t.Kept (elapsed + d.nanos) { s with executor := s.executor.pass d } := by
  have hwaiting : ∀ {v : Nat} {worker : Worker}, s.workers[v]? = some worker →
      s.waitsUntil ⟨t.delay⟩ (s.now.after d) v = true := fun hworker =>
    hwaits _ (List.getElem?_eq_some_iff.mp hworker).1
  obtain ⟨w, worker, hworker, hbusy⟩ := RunState.exists_open hopen
  obtain ⟨hrunning, call, hcall, _, hdue⟩ := h.of_waitsUntil (hwaiting hworker) hworker hbusy
  obtain ⟨_, hshare, _⟩ := h.of_call hworker hcall
  refine
    { seated := h.seated.step (show s.step (.pass d) = some _ from rfl)
      uncached := h.uncached
      staff := h.staff
      now := ?_
      paced := ?_
      limited := hlimit
      bounded := ?_
      cancelled := fun hc => ?_ }
  · show s.now.nanos + d.nanos = _
    rw [h.now, Nat.add_assoc]
  · intro w worker hworker
    cases hdone : worker.isDone with
    | true =>
      obtain ⟨hstage, hgot, hlow, hend⟩ := h.of_isDone hworker hdone
      simp only [Worker.Paced, hstage]
      exact ⟨hgot, hlow.trans (Nat.le_add_right _ _), hend⟩
    | false =>
      obtain ⟨_, call, hcall, hfetching, hdue⟩ := h.of_waitsUntil (hwaiting hworker) hworker hdone
      obtain ⟨hstage, hshare, hleads, hpaced⟩ := h.of_call hworker hcall
      rw [hfetching] at hpaced
      simp only [Worker.Paced, hstage]
      refine ⟨hshare, call, hcall, hleads, ?_⟩
      rw [hfetching]
      exact ⟨hpaced.1, hpaced.2.1.trans (Nat.le_add_right _ _), hdue⟩
  · have hround : worker.samples.length + 1 ≤ t.rounds :=
      Nat.le_trans (by omega) (t.share_le_rounds w)
    exact hdue.trans (Nat.mul_le_mul_left _ hround)
  · rw [hrunning] at hc
    cases hc

/-- **Every step** in virtual time keeps the tempo. -/
theorem Kept.step (h : t.Kept elapsed s) (hnext : t.Next s label s') : ∃ elapsed', t.Kept elapsed' s' := by
  obtain ⟨htime, hstep⟩ := RunState.stepInTime_eq_some.mp hnext
  cases hw : RunState.worker? label with
  | some w => exact ⟨elapsed, h.own htime hstep hw⟩
  | none =>
    cases RunState.happens_of_step hstep with
    | cancel =>
      have hnow := of_decide_eq_true (Bool.and_eq_true_iff.mp htime).2
      have hend := (congrArg Instant.nanos (Option.some.inj hnow)).trans h.now
      exact ⟨elapsed, h.cancel (Nat.add_left_cancel hend).symm⟩
    | purge => exact ⟨elapsed, h.purge⟩
    | @pass d =>
      simp only [RunState.keepsTime, Bool.and_eq_true, Bool.not_eq_true', List.all_eq_true, List.mem_range,
        Option.all_some, decide_eq_true_eq] at htime
      obtain ⟨⟨hopen, hwaits⟩, hlimit⟩ := htime
      refine ⟨_, h.pass hopen hwaits ?_⟩
      rw [Instant.after, h.now, ending, Nat.add_assoc, Nat.add_le_add_iff_left] at hlimit
      exact hlimit
    | _ => cases hw

/-- A run that begins keeps its tempo. -/
theorem Kept.begin {e : Executor} {target : Target} (hcalls : e.calls = []) (hnow : e.now.nanos = t.started) :
    t.Kept 0 (RunState.begin e target false t.requests t.concurrency false) where
  seated := .begin hcalls
  uncached := rfl
  staff := by simp [RunState.begin]
  now := hnow
  paced w worker hworker := by
    obtain ⟨hlt, rfl⟩ := List.getElem?_eq_some_iff.mp hworker
    simp [RunState.begin, Worker.Paced, share]
  limited := Nat.zero_le _
  bounded := Nat.zero_le _
  cancelled hc := by cases hc

end Tempo

end HttpBench
