import HttpBench.Proofs.Executor.Lookups

/-!
# What a call may take

A caller makes one call at a time, so what its samples say that they took fits one behind the other into
the time that has passed, as long as the transport says of no answer that it took longer than the call of
the transport: a sample from the cache says how long its call lasted, and one from the transport how long the
transport had it, which is part of its call (`Executor.Fits.step`).
-/

namespace HttpBench

/-- **What fits into the time before a call**, by where the call stands: while it is under way nothing of
it counts, and from when it is over nothing comes before its end. The transport has had it from the time
that is noted. -/
def Call.Fits (call : Call) (now : Instant) (spent : Nat) (noted : Option Instant) : Prop :=
  match call.stage with
  | .following _ | .waiting _ | .looking => spent ≤ call.started.nanos ∧ call.started.nanos ≤ now.nanos
  | .fetching => spent ≤ call.started.nanos ∧
      ∃ since, noted = some since ∧ call.started.nanos ≤ since.nanos ∧ since.nanos ≤ now.nanos
  | .closing _ | .unlisted _ => spent ≤ now.nanos

/-- What fits before a call has been spent by now. -/
theorem Call.Fits.spent_le {call : Call} {now : Instant} {spent : Nat} {noted : Option Instant}
    (h : call.Fits now spent noted) : spent ≤ now.nanos := by
  unfold Call.Fits at h
  split at h
  · exact Nat.le_trans h.1 h.2
  · exact Nat.le_trans h.1 h.2
  · exact Nat.le_trans h.1 h.2
  · obtain ⟨hspent, since, _, hstarted, hsince⟩ := h
    exact Nat.le_trans hspent (Nat.le_trans hstarted hsince)
  · exact h
  · exact h

namespace Executor

variable {e e' : Executor} {c : Caller} {label : CallLabel} {spent : Nat} {noted : Option Instant}

/-- **What a caller has spent fits** into the time that has passed, before the call that is under way. -/
def Fits (e : Executor) (c : Caller) (spent : Nat) (noted : Option Instant) : Prop :=
  (e.call? c).elim (spent ≤ e.now.nanos) fun call => call.Fits e.now spent noted

theorem fits_of_call {call : Call} (hcall : e.call? c = some call) :
    e.Fits c spent noted ↔ call.Fits e.now spent noted := by
  rw [Fits, hcall, Option.elim_some]

theorem fits_of_none (hcall : e.call? c = none) : e.Fits c spent noted ↔ spent ≤ e.now.nanos := by
  rw [Fits, hcall, Option.elim_none]

theorem fits_setStage (call : Call) (stage : CallStage) :
    (e.setStage c call stage).Fits c spent noted ↔ ({ call with stage } : Call).Fits e.now spent noted :=
  fits_of_call (by rw [call?_setStage, if_pos rfl])

theorem Fits.spent_le (h : e.Fits c spent noted) : spent ≤ e.now.nanos := by
  cases hcall : e.call? c with
  | none => exact (fits_of_none hcall).mp h
  | some call => exact ((fits_of_call hcall).mp h).spent_le

/-- Time passes, and nothing happens to the call. -/
theorem Fits.later (h : e.Fits c spent noted) (hcall : e'.call? c = e.call? c) (hnow : e.now.nanos ≤ e'.now.nanos) :
    e'.Fits c spent noted := by
  unfold Fits at h ⊢
  rw [hcall]
  cases hc : e.call? c with
  | none =>
    rw [hc, Option.elim_none] at h
    exact Nat.le_trans h hnow
  | some call =>
    rw [hc, Option.elim_some] at h
    rw [Option.elim_some]
    unfold Call.Fits at h ⊢
    cases hstage : call.stage <;> simp only [hstage] at h ⊢
    case following | waiting | looking => exact ⟨h.1, Nat.le_trans h.2 hnow⟩
    case fetching =>
      obtain ⟨hspent, since, hnoted, hstarted, hsince⟩ := h
      exact ⟨hspent, since, hnoted, hstarted, Nat.le_trans hsince hnow⟩
    case closing | unlisted => exact Nat.le_trans h hnow

/-- A call that begins is started now, and has not ended. -/
theorem start_started (e : Executor) (c : Caller) (target : Target) (useCache : Bool) (sequence : Nat) :
    ∃ call, (e.start c target useCache sequence).call? c = some call ∧ call.started = e.now ∧
      (call.stage = .fetching ∨ call.stage = .looking ∨ ∃ slot, call.stage = .following slot) := by
  unfold start
  split
  · exact ⟨_, by rw [call?_setCall, if_pos rfl], rfl, .inl rfl⟩
  · dsimp only
    split
    · exact ⟨_, by rw [call?_setCall, if_pos rfl], rfl, .inr (.inl rfl)⟩
    · exact ⟨_, by rw [call?_setCall, if_pos rfl], rfl, .inr (.inr ⟨_, rfl⟩)⟩

/-- A look-up serves what the call has waited for, or leads to a fetch. -/
theorem lookUp_waited (e : Executor) (c : Caller) (call : Call) :
    ∃ stage, (e.lookUp c call).call? c = some { call with stage } ∧
      (stage = .fetching ∨ ∃ x, stage = .closing (.sample x) ∧ x.total = e.now.since call.started) := by
  unfold lookUp
  split
  · refine ⟨_, by rw [call?_setStage, if_pos rfl], ?_⟩
    split
    · exact .inr ⟨_, rfl, rfl⟩
    · exact .inl rfl
  · exact ⟨_, by rw [call?_setStage, if_pos rfl], .inl rfl⟩

/-- **The time that is noted**: that of the last step in which the transport got the call. -/
def noteFetch (e : Executor) (c : Caller) (e' : Executor) (noted : Option Instant) : Option Instant :=
  if e.fetchesIn c e' then some e.now else noted

/-- A call whose stage is not the end of a sample has come to none. -/
theorem arrived?_of_stage {stage : Option CallStage} (hafter : e'.stage? c = stage)
    (hnone : ∀ x, stage.bind CallStage.ending? ≠ some (.sample x)) : e.arrived? c e' = none :=
  arrived?_eq_none fun x hx => absurd (hafter ▸ hx) (hnone x)

theorem arrived?_setStage {call : Call} {stage : CallStage} (hnone : ∀ x, stage.ending? ≠ some (.sample x)) :
    e.arrived? c (e'.setStage c call stage) = none :=
  arrived?_of_stage (stage?_setStage e' c call stage) hnone

/-- A call that the transport has just got is noted. -/
theorem noteFetch_of_fetched (hbefore : e.stage? c ≠ some .fetching) (hafter : e'.stage? c = some .fetching) :
    e.noteFetch c e' noted = some e.now := by
  have hfetches : e.fetchesIn c e' = true := by simp [fetchesIn, isFetching, hbefore, hafter]
  rw [noteFetch, if_pos hfetches]

/-- **Every step of a call** keeps what its caller has spent within the time that has passed: the sample that
the call comes to took no longer than the call. -/
theorem Fits.step (h : e.Fits c spent noted) (hstep : e.step c label = some e')
    (htimely : ∀ x since, label = .reply x → noted = some since → x.total.nanos ≤ e.now.nanos - since.nanos) :
    e'.Fits c (spent + figureOf (·.total.nanos) (e.arrived? c e')) (e.noteFetch c e' noted) := by
  have hnow := step_now hstep
  cases moves_of_step hstep with
  | @start target useCache sequence hcall =>
    rw [fits_of_none hcall] at h
    obtain ⟨call, hcall', hstarted, hstage⟩ := e.start_started c target useCache sequence
    have hafter := stage?_of_call? hcall'
    rw [fits_of_call hcall', hnow, Call.Fits]
    rcases hstage with hstage | hstage | ⟨slot, hstage⟩ <;> rw [hstage] at hafter ⊢ <;>
      rw [arrived?_of_stage hafter (by simp [CallStage.ending?]), hstarted]
    · have hbefore : e.stage? c ≠ some .fetching := by simp [stage?_of_none hcall]
      exact ⟨h, e.now, noteFetch_of_fetched hbefore hafter, Nat.le_refl _, Nat.le_refl _⟩
    · exact ⟨h, Nat.le_refl _⟩
    · exact ⟨h, Nat.le_refl _⟩
  | @ask call slot hcall hstage =>
    obtain ⟨cache, stage, heq, hopen⟩ := ask_eq e c call slot
    rw [fits_of_call hcall, Call.Fits, hstage] at h
    rw [heq]
    rcases hopen with rfl | rfl <;> rw [fits_setStage, arrived?_setStage (by simp [CallStage.ending?])] <;> exact h
  | @resume call slot hcall hstage =>
    rw [fits_of_call hcall, Call.Fits, hstage] at h
    rw [fits_setStage, arrived?_setStage (by simp [CallStage.ending?])]
    exact h
  | @lookUp call hcall hstage =>
    obtain ⟨stage, hcall', hfound⟩ := e.lookUp_waited c call
    have hbefore : e.stage? c = some .looking := by rw [stage?_of_call? hcall, hstage]
    have hafter := stage?_of_call? hcall'
    rw [fits_of_call hcall, Call.Fits, hstage] at h
    obtain ⟨hspent, hstarted⟩ := h
    rw [fits_of_call hcall', hnow, Call.Fits]
    rcases hfound with rfl | ⟨x, rfl, htotal⟩
    · rw [arrived?_of_stage hafter (by simp [CallStage.ending?])]
      exact ⟨hspent, e.now, noteFetch_of_fetched (by simp [hbefore]) hafter, hstarted, Nat.le_refl _⟩
    · have harrived : e.arrived? c (e.lookUp c call) = some x := by
        simp only [arrived?, ending?, hbefore, hafter, Option.bind_some, CallStage.ending?]
      have hwaited : x.total.nanos = e.now.nanos - call.started.nanos := by rw [htotal, Instant.since]
      rw [harrived]
      show spent + x.total.nanos ≤ e.now.nanos
      omega
  | @reply call answer hcall hstage =>
    obtain ⟨cache, heq⟩ := e.keep_eq call answer
    have hbefore : e.stage? c = some .fetching := by rw [stage?_of_call? hcall, hstage]
    rw [fits_of_call hcall, Call.Fits, hstage] at h
    obtain ⟨hspent, since, hnoted, hstarted, hsince⟩ := h
    have htook := htimely answer since rfl hnoted
    rw [fits_setStage, heq]
    simp only [arrived?, ending?, hbefore, stage?_setStage, Option.bind_some, CallStage.ending?]
    show spent + answer.total.nanos ≤ e.now.nanos
    omega
  | cutWaiting | cutFetching | crash =>
    rw [fits_setStage, arrived?_setStage (by simp [CallStage.ending?])]
    exact h.spent_le
  | unlist hcall hstage =>
    have hover : e.ending? c ≠ none := by simp [ending?, stage?_of_call? hcall, hstage, CallStage.ending?]
    rw [fits_setStage, arrived?_eq_none fun x _ => hover]
    exact h.spent_le
  | leave | leaveLead =>
    rw [fits_of_none (by rw [call?_dropCall, if_pos rfl]), arrived?_of_stage (stage?_dropCall _ _) (by simp)]
    exact h.spent_le

end Executor

end HttpBench
