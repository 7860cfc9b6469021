import HttpBench.Proofs.Executor.Sessions

/-!
# Followers of a call that is over

A call that is over, however it ends, can always drop its guard. So in an endless run in which
whoever can go on does so some time (`ExecutorRun.Fair`), every follower of a call that is over
resumes, unless it is cut off (`ExecutorRun.exists_end`).
-/

namespace HttpBench

/-- **An endless run** of an executor. -/
abbrev ExecutorRun := Endless Executor.happen

namespace Executor

variable {e e' : Executor} {c d : Caller} {call : Call} {label : CallLabel} {l : ExecutorLabel}

/-- **A call can go on**, whatever others do: it is over and leads, or has been handed the lock that it
waits for. -/
def CanGoOn (e : Executor) (c : Caller) : Prop :=
  ∃ call, e.call? c = some call ∧
    (call.leads ≠ none ∧ call.stage.ending? ≠ none ∨ ∃ n, call.stage = .waiting n ∧ e.hasTurn c n = true)

/-- **What a call can do next** follows from where it stands. -/
theorem label_of_step (hstep : e.step c label = some e') (hcall : e.call? c = some call) :
    match call.stage with
    | .following _ => label = .ask
    | .waiting _ => label = .resume ∨ label = .cut
    | .looking => label = .lookUp
    | .fetching => (∃ x, label = .reply x) ∨ label = .cut ∨ label = .crash
    | .closing _ => call.leads = none ∧ label = .leave ∨ call.leads ≠ none ∧ label = .unlist
    | .unlisted _ => label = .leave := by
  cases moves_of_step hstep with
  | start hnone =>
    rw [hnone] at hcall
    cases hcall
  | ask hcall' hstage | lookUp hcall' hstage | leaveLead hcall' hstage =>
    obtain rfl := Option.some.inj (hcall.symm.trans hcall')
    rw [hstage]
  | resume hcall' hstage | cutWaiting hcall' hstage | reply hcall' hstage | cutFetching hcall' hstage
  | crash hcall' hstage =>
    obtain rfl := Option.some.inj (hcall.symm.trans hcall')
    rw [hstage]
    simp
  | leave hcall' hstage hleads | unlist hcall' hstage hleads =>
    obtain rfl := Option.some.inj (hcall.symm.trans hcall')
    rw [hstage]
    simp [hleads]

theorem happen_other (hnext : e.happen l = some e') (hother : ∀ label, l ≠ .call c label) : e'.call? c = e.call? c := by
  cases l with
  | call d label =>
    refine step_other hnext ?_
    rintro rfl
    exact hother label rfl
  | purge | pass =>
    obtain rfl := Option.some.inj hnext
    rfl

/-- A caller that goes on from a slot in the session has resumed or been cut off. -/
theorem callFill?_goOn (h : e.callFill? d label = some (.resume c) ∨ e.callFill? d label = some (.abandon c)) :
    d = c ∧ (label = .resume ∨ label = .cut) := by
  cases label with
  | start target useCache sequence =>
    rcases h with h | h
    all_goals
      obtain ⟨_, _, h⟩ := Option.map_eq_some_iff.mp h
      cases h
  | resume =>
    rcases h with h | h <;> cases h
    exact ⟨rfl, .inl rfl⟩
  | cut =>
    simp only [callFill?] at h
    split at h
    · rcases h with h | h <;> cases h
      exact ⟨rfl, .inr rfl⟩
    · rcases h with h | h <;> cases h
  | leave =>
    simp only [callFill?] at h
    split at h <;> rcases h with h | h <;> cases h
  | ask | lookUp | reply | crash | unlist => rcases h with h | h <;> cases h

end Executor

namespace ExecutorRun

variable {run : ExecutorRun} {c d : Caller} {call : Call} {i j n : Nat}

/-- **Whoever can go on** does so some time. -/
def Fair (run : ExecutorRun) : Prop :=
  ∀ i c, (run.state i).CanGoOn c → ∃ j, i ≤ j ∧ ∃ label, run.label j = some (.call c label)

/-- A call gets on from where it stands, or stands there still. -/
theorem steps_or_stays (run : ExecutorRun) (c : Caller) (hij : i ≤ j) :
    (∃ k label, i ≤ k ∧ run.label k = some (.call c label) ∧ (run.state k).call? c = (run.state i).call? c) ∨
      (run.state j).call? c = (run.state i).call? c := by
  induction j, hij using Nat.le_induction with
  | base => exact .inr rfl
  | succ j hij ih =>
    rcases ih with hsteps | hstays
    · exact .inl hsteps
    · rcases run.step_or_same j with ⟨l, hlabel, hnext⟩ | hsame
      · by_cases hown : ∃ label, l = .call c label
        · obtain ⟨label, rfl⟩ := hown
          exact .inl ⟨j, label, hij, hlabel, hstays⟩
        · exact .inr ((Executor.happen_other hnext fun label heq => hown ⟨label, heq⟩).trans hstays)
      · rw [hsame]
        exact .inr hstays

/-- **Whoever can go on** does so from where it stands. -/
theorem Fair.exists_step (h : run.Fair) (hgo : (run.state i).CanGoOn c) :
    ∃ j label, i ≤ j ∧ run.label j = some (.call c label) ∧ (run.state j).call? c = (run.state i).call? c := by
  obtain ⟨j, hij, label, hlabel⟩ := h i c hgo
  rcases run.steps_or_stays c hij with hsteps | hstays
  · exact hsteps
  · exact ⟨j, label, hij, hlabel, hstays⟩

/-- A run in which again and again nobody has a call is fair. -/
theorem fair_of_calls_nil (h : ∀ i, ∃ j, i ≤ j ∧ (run.state j).calls = []) : run.Fair := by
  rintro i c ⟨call, hcall, _⟩
  obtain ⟨j, hij, hnone⟩ := h i
  rcases run.steps_or_stays c hij with ⟨k, label, hik, hlabel, _⟩ | hstays
  · exact ⟨k, hik, label, hlabel⟩
  · rw [hcall, Executor.call?, hnone] at hstays
    cases hstays

/-! ## The session of a run -/

theorem orderly (h : (run.state 0).Orderly) (i : Nat) : (run.state i).Orderly :=
  run.invariant h (fun _ _ _ h hnext => h.happen hnext) i

/-- **What a run is** in the session of its executor. -/
def session (run : ExecutorRun) (h : (run.state 0).Orderly) : FillRun CacheKey where
  state i := (run.state i).session
  label i := (run.label i).bind (run.state i).fill?
  next i := by
    rcases hlabel : run.label i with _ | l
    · have hsame : run.state (i + 1) = run.state i := by
        have hnext := run.next i
        rw [hlabel] at hnext
        exact hnext
      exact congrArg Executor.session hsame
    · exact Executor.moment_of_happen (run.orderly h i) (Endless.next_of_label hlabel)

/-- **A run that is fair** to its calls is fair in its session. -/
theorem Fair.session (hfair : run.Fair) (h : (run.state 0).Orderly) : (run.session h).Fair := by
  rintro i c ⟨n, hgo⟩
  have hstage : (run.state i).session.stage c ≠ .idle := by
    rcases hgo with hleaves | ⟨hwaits, _⟩
    · exact fun hidle => by cases hidle.symm.trans hleaves
    · exact fun hidle => by cases hidle.symm.trans hwaits
  obtain ⟨call, hcall, hcallStage⟩ := Executor.call_of_stage hstage
  -- a step of the call from where it stands is one of the session
  have htaken : (run.state i).CanGoOn c → (∀ label k, (run.state k).call? c = some call →
      (∃ e', (run.state k).step c label = some e') → ∃ l, (run.state k).callFill? c label = some l ∧ l.caller = c) →
      ∃ j, i ≤ j ∧ ∃ l, (run.session h).label j = some l ∧ l.caller = c := by
    intro hcan hfill
    obtain ⟨j, label, hij, hlabel, hsame⟩ := hfair.exists_step hcan
    obtain ⟨l, hl, hcaller⟩ := hfill label j (hsame.trans hcall) ⟨_, Endless.next_of_label hlabel⟩
    refine ⟨j, hij, l, ?_, hcaller⟩
    show (run.label j).bind (run.state j).fill? = some l
    rw [hlabel]
    exact hl
  rcases hgo with hleaves | ⟨hwaits, hturn⟩
  · obtain ⟨ending, hunlisted, hleads⟩ := Call.stage_of_fillStage_leaves (hcallStage.trans hleaves)
    refine htaken ⟨call, hcall, .inl ⟨by simp [hleads], by simp [hunlisted, CallStage.ending?]⟩⟩ ?_
    rintro label k hk ⟨e', hstep⟩
    have hlabel := Executor.label_of_step hstep hk
    rw [hunlisted] at hlabel
    subst hlabel
    refine ⟨.release c, ?_, rfl⟩
    simp [Executor.callFill?, Executor.stage_session hk, Call.fillStage, hunlisted, hleads]
  · have hwaiting := Call.stage_of_fillStage_waits (hcallStage.trans hwaits)
    refine htaken ⟨call, hcall, .inr ⟨n, hwaiting, (Executor.hasTurn_session ..).symm.trans hturn⟩⟩ ?_
    rintro label k hk ⟨e', hstep⟩
    have hlabel := Executor.label_of_step hstep hk
    rw [hwaiting] at hlabel
    rcases hlabel with rfl | rfl
    · exact ⟨.resume c, rfl, rfl⟩
    · refine ⟨.abandon c, ?_, rfl⟩
      simp [Executor.callFill?, Executor.stage_session hk, Call.fillStage, hwaiting]

theorem ends_of_session {h : (run.state 0).Orderly} (hends : (run.session h).Ends c j) :
    run.label j = some (.call c .resume) ∨ run.label j = some (.call c .cut) := by
  have hlabel : ∀ l, (run.session h).label j = some l → ∃ l', run.label j = some l' ∧ (run.state j).fill? l' = some l :=
    fun l hl => Option.bind_eq_some_iff.mp hl
  have hgoOn : ∃ d label, run.label j = some (.call d label) ∧
      ((run.state j).callFill? d label = some (.resume c) ∨ (run.state j).callFill? d label = some (.abandon c)) := by
    rcases hends with hl | hl
    all_goals
      obtain ⟨l', hl', hfill⟩ := hlabel _ hl
      cases l' with
      | call d label => first | exact ⟨d, label, hl', .inl hfill⟩ | exact ⟨d, label, hl', .inr hfill⟩
      | purge | pass => cases hfill
  obtain ⟨d, label, hl, hfill⟩ := hgoOn
  obtain ⟨rfl, rfl | rfl⟩ := Executor.callFill?_goOn hfill
  · exact .inl hl
  · exact .inr hl

/-- **A leader that is over** drops its guard some time. -/
theorem Fair.exists_guardGone (hfair : run.Fair) (h : (run.state 0).Orderly) (hfits : (run.state 0).session.Fits)
    {key : CacheKey} (hguard : (run.state i).session.stage d = .leads key n)
    (hover : ∀ other, (run.state i).call? d = some other → other.leads = some n → other.stage.ending? ≠ none) :
    ∃ j, i ≤ j ∧ (run.state j).session.GuardGone n := by
  obtain ⟨other, hother, hstage⟩ := Executor.call_of_stage (e := run.state i) (c := d) (by simp [hguard])
  rw [hguard] at hstage
  obtain ⟨hleads, hlisted⟩ := Call.leads_of_fillStage_leads hstage
  have hending := hover other hother hleads
  obtain ⟨j, label, hij, hlabel, hsame⟩ :=
    hfair.exists_step (i := i) (c := d) ⟨other, hother, .inl ⟨by simp [hleads], hending⟩⟩
  have hother' := hsame.trans hother
  have hunlist : label = .unlist := by
    have hnext := Executor.label_of_step (Endless.next_of_label hlabel) hother'
    cases hs : other.stage with
    | closing => simpa [hs, hleads] using hnext
    | unlisted ending => exact absurd hs (hlisted ending)
    | following | waiting | looking | fetching => simp [hs, CallStage.ending?] at hending
  subst hunlist
  -- in the session its guard is on the way out from then on
  have hstep : (run.state j).session.step (.unlist d) = some (run.state (j + 1)).session :=
    Executor.moment_of_happen (run.orderly h j) (Endless.next_of_label hlabel)
  have hleaves := FillSession.leaves_of_unlist hstep ((Executor.stage_session hother').trans hstage)
  have hfits' : ((run.session h).state (j + 1)).Fits := FillRun.fits hfits (j + 1)
  exact ⟨j + 1, Nat.le_succ_of_le hij, FillSession.guardGone_of_leaves hfits' hleaves⟩

/-- **A follower whose leader is over goes on** some time: it resumes, or is cut off. -/
theorem exists_end (hfair : run.Fair) (h : (run.state 0).Orderly) (hfits : (run.state 0).session.Fits)
    (hcall : (run.state i).call? c = some call) (hstage : call.stage = .waiting n)
    (hover : ∀ d other, (run.state i).call? d = some other → other.leads = some n → other.stage.ending? ≠ none) :
    ∃ j, i ≤ j ∧ (run.label j = some (.call c .resume) ∨ run.label j = some (.call c .cut)) := by
  have hwaits : ((run.session h).state i).stage c = .waits n := by
    refine (Executor.stage_session hcall).trans ?_
    rw [Call.fillStage, hstage]
  suffices hends : ∃ j, i ≤ j ∧ (run.session h).Ends c j by
    obtain ⟨j, hij, hends⟩ := hends
    exact ⟨j, hij, ends_of_session hends⟩
  -- the guard is gone already, or that of a call that is over and drops it some time
  obtain ⟨j, hij, hgone⟩ : ∃ j, i ≤ j ∧ (run.state j).session.GuardGone n := by
    by_cases hgone : (run.state i).session.GuardGone n
    · exact ⟨i, Nat.le_refl i, hgone⟩
    · simp only [FillSession.GuardGone, not_forall, not_not] at hgone
      obtain ⟨d, key, hguard⟩ := hgone
      exact hfair.exists_guardGone h hfits hguard (hover d)
  rcases FillRun.ends_or_waits hwaits hij with hends | hwaits'
  · exact hends
  · obtain ⟨k, hjk, hends⟩ := FillRun.exists_end (hfair.session h) hfits ⟨hwaits', hgone⟩
    exact ⟨k, Nat.le_trans hij hjk, hends⟩

end ExecutorRun

/-! ## In every state -/

namespace Executor

variable {e e' : Executor} {steps : List ExecutorTransition}

/-- **An executor in order**, after the steps taken so far. -/
structure Settled (steps : List ExecutorTransition) (e : Executor) : Prop where
  /-- its session is in order -/
  session : e.session.Settled (fillSteps steps)
  /-- nothing is left of the fetches when nobody has a call -/
  cleared : e.calls = [] → ∀ cache, e.cache = some cache → cache.fills.slots = [] ∧ cache.fills.current = []
  /-- whoever can go on may do so at once -/
  able : ∀ c, e.CanGoOn c → ∃ label, (e.step c label).isSome = true
  /-- whoever waits for calls that are over, however they have ended, goes on some time -/
  resumes : ∀ run : ExecutorRun, run.state 0 = e → run.Fair → ∀ c call n i, (run.state i).call? c = some call →
    call.stage = .waiting n →
    (∀ d other, (run.state i).call? d = some other → other.leads = some n → other.stage.ending? ≠ none) →
    ∃ j, i ≤ j ∧ (run.label j = some (.call c .resume) ∨ run.label j = some (.call c .cut))

theorem exists_step_of_canGoOn {c : Caller} (hgo : e.CanGoOn c) : ∃ label, (e.step c label).isSome = true := by
  obtain ⟨call, hcall, ⟨hleads, hending⟩ | ⟨n, hstage, hturn⟩⟩ := hgo
  · obtain ⟨n, hleads⟩ := Option.ne_none_iff_exists'.mp hleads
    cases hstage : call.stage with
    | closing => exact ⟨.unlist, by simp [step, hcall, hstage, hleads]⟩
    | unlisted => exact ⟨.leave, by simp [step, hcall, hstage, hleads]⟩
    | following | waiting | looking | fetching => simp [hstage, CallStage.ending?] at hending
  · exact ⟨.resume, by simp [step, hcall, hstage, hturn]⟩

theorem settled_of_history (hcalls : e.calls = [])
    (hcache : ∀ cache, e.cache = some cache → cache.fills.slots = [] ∧ cache.fills.current = [])
    (past : e.History steps e') : e'.Settled steps := by
  have horderly := Orderly.begin hcalls hcache
  have hsession := session_history horderly past
  rw [session_begin hcalls hcache] at hsession
  have hsettled := FillSession.settled_of_history hsession
  constructor
  case session => exact hsettled
  case cleared =>
    intro hnone cache hc
    rw [← fills_session hc]
    exact hsettled.cleared fun c => stage_session_of_none (by simp [call?, hnone])
  case able => exact fun _ => exists_step_of_canGoOn
  case resumes =>
    rintro run rfl hfair c call n i hcall hstage hover
    exact run.exists_end hfair (orderly_of_history horderly past) (FillSession.history_fits hsession) hcall hstage hover

/-- **No follower is left behind.** However callers claim keys, wait, give up and drop their guards, at
most one guard of a key is alive, the table of keys lists just those that are, and whoever is kept
waiting waits for a guard or for one that asked earlier; whoever waits for a guard that is gone goes on.
So do the followers of a call that is over, in whatever way, and nothing is left of the fetches once
nobody has a call. -/
theorem followers_resume :
    (∀ (K : Type) [DecidableEq K] (next : Nat) (steps : List (FillTransition K)) (s : FillSession K),
      (FillSession.begin next).History steps s → s.Settled steps) ∧
    ∀ (e e' : Executor) (steps : List ExecutorTransition), e.calls = [] →
      (∀ cache, e.cache = some cache → cache.fills.slots = [] ∧ cache.fills.current = []) →
      e.History steps e' → e'.Settled steps :=
  ⟨fun _ _ _ _ _ past => FillSession.settled_of_history past,
    fun _ _ _ hcalls hcache past => settled_of_history hcalls hcache past⟩

def playBegin : Executor := { settings := {}, cache := some {}, now := ⟨0⟩ }

theorem fills_playBegin : ∀ cache, playBegin.cache = some cache → cache.fills.slots = [] ∧ cache.fills.current = [] := by
  intro cache hcache
  obtain rfl := Option.some.inj hcache
  exact ⟨rfl, rfl⟩

/-- A guard is dropped while two wait for it, and the key is claimed anew before its lock is handed on. -/
def playFollowers : List (FillLabel Nat) :=
  [.claim 0 7, .claim 1 7, .claim 2 7, .settle 1, .settle 2, .unlist 0, .claim 3 7, .release 0]

/-- A leader takes its caller down while two follow; everybody else is cut off in the end. -/
def playCrash : List ExecutorLabel :=
  [.call 0 (.start default true 0), .call 0 .lookUp, .call 1 (.start default true 1), .call 1 .ask,
    .call 2 (.start default true 2), .call 2 .ask, .call 0 .crash, .call 0 .unlist, .call 3 (.start default true 3),
    .call 0 .leave, .call 1 .resume, .call 1 .lookUp, .call 1 .cut, .call 1 .leave, .call 2 .resume, .call 2 .lookUp,
    .call 2 .cut, .call 2 .leave, .call 3 .lookUp, .call 3 .cut, .call 3 .unlist, .call 3 .leave]

theorem followers_resume_of_three :
    (∃ (steps : List (FillTransition Nat)) (s : FillSession Nat), (FillSession.begin 0).History steps s ∧
      s.stage 2 = .waits 0 ∧ s.stage 3 = .leads 7 1 ∧ s.stage 1 = .waits 0 ∧
      FillSession.asked steps 1 < FillSession.asked steps 2) ∧
    ∃ run : ExecutorRun, run.state 0 = playBegin ∧ run.Fair ∧
      (run.state 7).stage? 0 = some (.closing .crash) ∧ (run.state 7).stage? 2 = some (.waiting 0) ∧
      ∃ j, 7 ≤ j ∧ (run.label j = some (.call 2 .resume) ∨ run.label j = some (.call 2 .cut)) := by
  constructor
  · have hplay : (playFrom FillSession.step (FillSession.begin 0) playFollowers).any (fun r =>
        decide (r.2.stage 2 = .waits 0 ∧ r.2.stage 3 = .leads 7 1 ∧ (r.2.fills.slot? 0).map (·.lock) = some (.handed 1))) =
        true := by
      decide +kernel
    obtain ⟨steps, s, past, hP⟩ := History.exists_of_any hplay
    obtain ⟨hwaits, hleads, hlock⟩ := of_decide_eq_true hP
    obtain ⟨x, hx, hlock⟩ := Option.map_eq_some_iff.mp hlock
    have hturn : s.fills.hasTurn 0 2 = false := by simp [Fills.hasTurn, hx, hlock]
    obtain ⟨y, d, hy, _, ⟨hheld, _⟩ | ⟨hhanded, hd, hasked⟩⟩ :=
      (followers_resume.1 Nat 0 steps s past).blocked 2 0 hwaits hturn
    · obtain rfl := Option.some.inj (hx.symm.trans hy)
      cases hlock.symm.trans hheld
    · obtain rfl := Option.some.inj (hx.symm.trans hy)
      obtain rfl := LockState.handed.inj (hlock.symm.trans hhanded)
      exact ⟨steps, s, past, hwaits, hleads, hd, hasked⟩
  · have hplay : (playFrom happen playBegin playCrash).isSome = true := by
      decide +kernel
    obtain ⟨run, hrun⟩ : ∃ run : ExecutorRun, ∀ i,
        (playFrom happen playBegin (playCrash.take i)).map (·.2) = some (run.state i) := Endless.exists_of_playFrom hplay
    have hfirst : playBegin = run.state 0 := Option.some.inj (hrun 0)
    have hlast : ∀ i, playCrash.length ≤ i → (run.state i).calls = [] := by
      intro i hi
      have hend : ((playFrom happen playBegin playCrash).map (·.2)).all
          (·.calls.isEmpty) = true := by
        decide +kernel
      have hi' := hrun i
      rw [List.take_of_length_le hi] at hi'
      rw [hi'] at hend
      exact List.isEmpty_iff.mp hend
    have hfair : run.Fair :=
      ExecutorRun.fair_of_calls_nil fun i => ⟨i + playCrash.length, Nat.le_add_right .., hlast _ (Nat.le_add_left ..)⟩
    have hseven : ((playFrom happen playBegin (playCrash.take 7)).map (·.2)).all
        (fun e => decide (e.stage? 0 = some (.closing .crash) ∧ e.stage? 2 = some (.waiting 0) ∧
          ∀ x ∈ e.calls, x.2.leads = some 0 → x.2.stage.ending? ≠ none)) = true := by
      decide +kernel
    rw [hrun 7] at hseven
    obtain ⟨hcrash, hwaits, hover⟩ := of_decide_eq_true hseven
    obtain ⟨call, hcall, hstage⟩ := Option.map_eq_some_iff.mp hwaits
    have hempty : ∀ cache, playBegin.cache = some cache → cache.fills.slots = [] ∧ cache.fills.current = [] := by
      intro cache hcache
      obtain rfl := Option.some.inj hcache
      exact ⟨rfl, rfl⟩
    have hsettled := followers_resume.2 playBegin playBegin [] rfl hempty .start
    refine ⟨run, hfirst.symm, hfair, hcrash, hwaits, hsettled.resumes run hfirst.symm hfair 2 call 0 7 hcall hstage ?_⟩
    intro d other hother
    obtain ⟨x, hx, rfl⟩ := Option.map_eq_some_iff.mp hother
    exact hover x (List.mem_of_find?_eq_some hx)

end Executor

end HttpBench
