import HttpBench.Proofs.Cache.Followers
import HttpBench.Proofs.Executor.Histories
import HttpBench.Proofs.Executor.Roles

/-!
# The calls of an executor as a session

What an executor does for its callers is, as far as the fetches under way are concerned, a session
(`Executor.session`): a call that begins with the cache claims its key, a follower settles and
resumes, a call that is cut off while it waits gives up, and a call that is over drops its guard if it
leads. Every step of a call is one step of the session or none (`Executor.moment_of_step`), so every
history of an executor is one of its session (`Executor.session_history`), and what holds of every
session holds of every executor.
-/

namespace HttpBench

/-- A stage in which a call is at nothing but what it leads. -/
def CallStage.isOwn : CallStage → Bool
  | .looking | .fetching | .closing _ => true
  | .following _ | .waiting _ | .unlisted _ => false

namespace Call

/-- What a call is at while its slot is on the table, if it leads. -/
def listedStage (call : Call) : FillStage CacheKey :=
  match call.leads, call.key with
  | some n, some key => .leads key n
  | _, _ => .idle

/-- **What a call is at** in the session of its executor. -/
def fillStage (call : Call) : FillStage CacheKey :=
  match call.stage, call.leads with
  | .following n, _ => .follows n
  | .waiting n, _ => .waits n
  | .unlisted _, some n => .leaves n
  | _, _ => call.listedStage

variable {call : Call} {stage : CallStage} {n : Nat}

theorem fillStage_eq (call : Call) (hown : call.stage.isOwn = true) : call.fillStage = call.listedStage := by
  unfold fillStage
  cases hs : call.stage <;> simp [hs, CallStage.isOwn] at hown ⊢

theorem listedStage_of_leads_none (call : Call) (h : call.leads = none) : call.listedStage = .idle := by
  simp [listedStage, h]

theorem stage_of_fillStage_waits (h : call.fillStage = .waits n) : call.stage = .waiting n := by
  unfold fillStage listedStage at h
  split at h
  next => cases h
  next hs => rw [hs, FillStage.waits.inj h]
  next => cases h
  next => split at h <;> cases h

theorem stage_of_fillStage_leaves (h : call.fillStage = .leaves n) :
    ∃ ending, call.stage = .unlisted ending ∧ call.leads = some n := by
  unfold fillStage listedStage at h
  split at h
  next => cases h
  next => cases h
  next ending m hs hleads => exact ⟨ending, hs, FillStage.leaves.inj h ▸ hleads⟩
  next => split at h <;> cases h

theorem leads_of_fillStage_leads {key : CacheKey} (h : call.fillStage = .leads key n) :
    call.leads = some n ∧ ∀ ending, call.stage ≠ .unlisted ending := by
  unfold fillStage listedStage at h
  split at h
  next => cases h
  next => cases h
  next => cases h
  next hunlisted =>
    split at h
    next m _ hleads _ =>
      refine ⟨(FillStage.leads.inj h).2 ▸ hleads, ?_⟩
      intro ending hs
      exact hunlisted ending m hs hleads
    next => cases h

end Call

namespace Executor

variable {e e' : Executor} {c d : Caller} {call : Call} {stage : CallStage} {label : CallLabel}
  {steps : List ExecutorTransition} {n : Nat}

/-! ## The session -/

/-- **The session of an executor**: the fetches under way, and what each caller is at. -/
def session (e : Executor) : FillSession CacheKey where
  fills := e.fills?.getD {}
  stage c := (e.call? c).elim .idle Call.fillStage

theorem stage_session (h : e.call? c = some call) : e.session.stage c = call.fillStage := by
  simp [session, h]

theorem stage_session_of_none (h : e.call? c = none) : e.session.stage c = .idle := by
  simp [session, h]

theorem fills_session {cache : ResponseCache} (h : e.cache = some cache) : e.session.fills = cache.fills := by
  simp [session, fills?, h]

theorem hasTurn_session (e : Executor) (c : Caller) (n : Nat) : e.session.fills.hasTurn n c = e.hasTurn c n := by
  unfold hasTurn
  split
  next cache hcache => rw [fills_session hcache]
  next hcache => simp [session, fills?, hcache, Fills.hasTurn, Fills.slot?]

theorem call_of_stage (h : e.session.stage c ≠ .idle) :
    ∃ call, e.call? c = some call ∧ call.fillStage = e.session.stage c := by
  cases hcall : e.call? c with
  | none => exact absurd (stage_session_of_none hcall) h
  | some call => exact ⟨call, rfl, (stage_session hcall).symm⟩

/-- **A call that gets on** is a caller that goes on. -/
theorem session_setCall (e : Executor) (cache : Option ResponseCache) (c : Caller) (call : Call) :
    (Executor.setCall { e with cache } c call).session =
      e.session.move c ((cache.map (·.fills)).getD {}) call.fillStage := by
  unfold session FillSession.move
  congr 1
  funext v
  by_cases hv : v = c <;> simp [hv]

theorem session_dropCall (e : Executor) (cache : Option ResponseCache) (c : Caller) :
    (Executor.dropCall { e with cache } c).session = e.session.move c ((cache.map (·.fills)).getD {}) .idle := by
  unfold session FillSession.move
  congr 1
  funext v
  by_cases hv : v = c <;> simp [hv]

/-- A call that gets on in the same place, with what is stored changed at most. -/
theorem session_setCall_same {cache : Option ResponseCache} (hfills : cache.map (·.fills) = e.fills?)
    (hstage : call.fillStage = e.session.stage c) :
    (Executor.setCall { e with cache } c call).session = e.session := by
  rw [session_setCall, hfills, hstage]
  exact e.session.move_self c

/-- A call that goes from one stage of its own to another is where it was. -/
theorem session_setStage {cache : Option ResponseCache} (hcall : e.call? c = some call)
    (hfills : cache.map (·.fills) = e.fills?) (hown : call.stage.isOwn = true) (hown' : stage.isOwn = true) :
    (Executor.setStage { e with cache } c call stage).session = e.session := by
  refine session_setCall_same hfills ?_
  rw [stage_session hcall, Call.fillStage_eq call hown, Call.fillStage_eq { call with stage } hown']
  rfl

theorem session_changeFills_setStage {cache : ResponseCache} (hcache : e.cache = some cache)
    (f : Fills CacheKey → Fills CacheKey) (c : Caller) (call : Call) (stage : CallStage) :
    ((e.changeFills f).setStage c call stage).session =
      e.session.move c (f e.session.fills) ({ call with stage } : Call).fillStage := by
  rw [fills_session hcache]
  refine (session_setCall e _ c { call with stage }).trans ?_
  rw [hcache]
  rfl

/-! ## Steps of calls as steps of the session -/

/-- **What a step of a call is** in the session. -/
def callFill? (e : Executor) (c : Caller) : CallLabel → Option (FillLabel CacheKey)
  | .start target useCache _ => (if useCache then e.cache else none).map fun _ => .claim c target.cacheKey
  | .ask => some (.settle c)
  | .resume => some (.resume c)
  | .cut =>
    match e.session.stage c with
    | .waits _ => some (.abandon c)
    | _ => none
  | .unlist => some (.unlist c)
  | .leave =>
    match e.session.stage c with
    | .leaves _ => some (.release c)
    | _ => none
  | .lookUp | .reply _ | .crash => none

theorem moment_of_start (hcall : e.call? c = none) (target : Target) (useCache : Bool) (sequence : Nat) :
    Moment FillSession.step e.session (e.callFill? c (.start target useCache sequence))
      (e.start c target useCache sequence).session := by
  have hidle := stage_session_of_none hcall
  unfold start
  cases hused : (if useCache then e.cache else none) with
  | none =>
    rw [callFill?, hused]
    exact session_setCall_same rfl hidle.symm
  | some cache =>
    have hcache : e.cache = some cache := by
      split at hused
      · exact hused
      · cases hused
    rw [callFill?, hused]
    show e.session.step (.claim c target.cacheKey) = some _
    simp only [FillSession.step, hidle, fills_session hcache]
    generalize cache.fills.claim target.cacheKey c = claimed
    obtain ⟨fills, claim⟩ := claimed
    refine congrArg some (Eq.symm ?_)
    cases claim with
    | leads n => exact session_setCall e (some { cache with fills }) c _
    | follows n => exact session_setCall e (some { cache with fills }) c _

theorem Orderly.cached (h : e.Orderly) (hcall : e.call? c = some call) (hkey : call.key ≠ none) :
    ∃ cache, e.cache = some cache :=
  Option.ne_none_iff_exists'.mp fun hnone => hkey (h.keyless hnone hcall)

theorem moment_of_ask (h : e.Orderly) (hcall : e.call? c = some call) (hstage : call.stage = .following n) :
    Moment FillSession.step e.session (e.callFill? c .ask) (e.ask c call n).session := by
  have hformed := h.formed hcall
  have hleads := hformed.leads_eq_none (by simp [hstage, CallStage.isFollower])
  obtain ⟨cache, hcache⟩ := h.cached hcall (hformed.keyed (by simp [hstage, CallStage.isCached]))
  have hfollows : e.session.stage c = .follows n := by
    rw [stage_session hcall, Call.fillStage, hstage]
  show e.session.step _ = some _
  simp only [FillSession.step, hfollows, fills_session hcache, ask, hcache]
  generalize cache.fills.settle n c = settled
  obtain ⟨fills, through⟩ := settled
  cases through with
  | true =>
    have hidle : ({ call with stage := .looking } : Call).fillStage = .idle :=
      Call.listedStage_of_leads_none { call with stage := .looking } hleads
    exact congrArg some (hidle ▸ (session_setCall e (some { cache with fills }) c { call with stage := .looking }).symm)
  | false => exact congrArg some (session_setCall e (some { cache with fills }) c { call with stage := .waiting n }).symm

theorem session_lookUp (hcall : e.call? c = some call) (hstage : call.stage = .looking) :
    (e.lookUp c call).session = e.session := by
  have hown : call.stage.isOwn = true := by rw [hstage]; rfl
  unfold lookUp
  split
  next cache key hcache hkey =>
    generalize cache.store.get key e.now = got
    obtain ⟨store, found⟩ := got
    have hfills : (some { cache with store }).map (·.fills) = e.fills? := by rw [fills?, hcache]; rfl
    cases found with
    | none => exact session_setStage hcall hfills hown rfl
    | some r => exact session_setStage hcall hfills hown rfl
  next => exact session_setStage hcall rfl hown rfl

/-- A call that has waited and is a follower no more is at nothing. -/
theorem session_goOn {cache : ResponseCache} (h : e.Orderly) (hcall : e.call? c = some call)
    (hstage : call.stage = .waiting n) (hcache : e.cache = some cache) (f : Fills CacheKey → Fills CacheKey)
    (hown : stage.isOwn = true) :
    ((e.changeFills f).setStage c call stage).session = e.session.move c (f e.session.fills) .idle := by
  have hleads := (h.formed hcall).leads_eq_none (by simp [hstage, CallStage.isFollower])
  rw [session_changeFills_setStage hcache, Call.fillStage_eq { call with stage } hown,
    Call.listedStage_of_leads_none { call with stage } hleads]

/-- **Every step of a call** is one step of the session, or leaves it as it is. -/
theorem moment_of_step (h : e.Orderly) (hstep : e.step c label = some e') :
    Moment FillSession.step e.session (e.callFill? c label) e'.session := by
  cases moves_of_step hstep with
  | start hcall => exact moment_of_start hcall _ _ _
  | ask hcall hstage => exact moment_of_ask h hcall hstage
  | @resume call n hcall hstage hturn =>
    obtain ⟨cache, hcache⟩ := h.cached hcall ((h.formed hcall).keyed (by simp [hstage, CallStage.isCached]))
    have hwaits : e.session.stage c = .waits n := by rw [stage_session hcall, Call.fillStage, hstage]
    show e.session.step (.resume c) = some _
    rw [session_goOn h hcall hstage hcache _ rfl]
    simp only [FillSession.step, hwaits, hasTurn_session, hturn, if_true]
  | lookUp hcall hstage => exact session_lookUp hcall hstage
  | @reply call x hcall hstage =>
    obtain ⟨cache, heq, hfills⟩ := fills_keep e call x
    rw [heq]
    exact session_setStage hcall hfills (by rw [hstage]; rfl) rfl
  | @cutWaiting call n hcall hstage =>
    obtain ⟨cache, hcache⟩ := h.cached hcall ((h.formed hcall).keyed (by simp [hstage, CallStage.isCached]))
    have hwaits : e.session.stage c = .waits n := by rw [stage_session hcall, Call.fillStage, hstage]
    simp only [callFill?, hwaits]
    show e.session.step (.abandon c) = some _
    rw [session_goOn h hcall hstage hcache _ rfl]
    simp only [FillSession.step, hwaits]
  | @cutFetching call hcall hstage =>
    have hlisted : e.session.stage c = call.listedStage := by
      rw [stage_session hcall, Call.fillStage_eq call (by rw [hstage]; rfl)]
    -- a call that fetches is cut off without a word to the session, even if it leads
    have hstay : e.callFill? c .cut = none := by
      simp only [callFill?, hlisted, Call.listedStage]
      cases call.leads <;> cases call.key <;> rfl
    rw [hstay]
    exact session_setStage hcall rfl (by rw [hstage]; rfl) rfl
  | crash hcall hstage => exact session_setStage hcall rfl (by rw [hstage]; rfl) rfl
  | @unlist call ending n hcall hstage hleads =>
    obtain ⟨hkey, _⟩ := (h.formed hcall).led (by simp [hleads])
    obtain ⟨cache, hcache⟩ := h.cached hcall hkey
    obtain ⟨key, hkey⟩ := Option.ne_none_iff_exists'.mp hkey
    have hguard : e.session.stage c = .leads key n := by
      rw [stage_session hcall, Call.fillStage_eq call (by rw [hstage]; rfl), Call.listedStage,
        hleads, hkey]
    have hleaves : ({ call with stage := .unlisted ending } : Call).fillStage = .leaves n := by
      rw [Call.fillStage, hleads]
    show e.session.step (.unlist c) = some _
    rw [session_changeFills_setStage hcache, hleaves]
    simp only [FillSession.step, hguard]
  | @leave call ending hcall hstage hleads =>
    have hidle : e.session.stage c = .idle := by
      rw [stage_session hcall, Call.fillStage_eq call (by rw [hstage]; rfl),
        Call.listedStage_of_leads_none call hleads]
    have hstay : e.callFill? c .leave = none := by simp only [callFill?, hidle]
    rw [hstay]
    have hsame : (e.dropCall c).session = e.session.move c e.session.fills .idle := session_dropCall e e.cache c
    rw [← hidle, FillSession.move_self] at hsame
    exact hsame
  | @leaveLead call ending n hcall hstage hleads =>
    obtain ⟨cache, hcache⟩ := h.cached hcall ((h.formed hcall).led (by simp [hleads])).1
    have hleaves : e.session.stage c = .leaves n := by rw [stage_session hcall, Call.fillStage, hstage, hleads]
    simp only [callFill?, hleaves]
    show e.session.step (.release c) = some _
    simp only [FillSession.step, hleaves, fills_session hcache]
    refine congrArg some (Eq.symm ?_)
    refine (session_dropCall e _ c).trans ?_
    rw [hcache]
    rfl

/-! ## Histories -/

/-- **What something that happens is** in the session. -/
def fill? (e : Executor) : ExecutorLabel → Option (FillLabel CacheKey)
  | .call c label => e.callFill? c label
  | .purge | .pass _ => none

theorem moment_of_happen {l : ExecutorLabel} (h : e.Orderly) (hnext : e.happen l = some e') :
    Moment FillSession.step e.session (e.fill? l) e'.session := by
  cases l with
  | call c label => exact moment_of_step h hnext
  | purge =>
    obtain rfl := Option.some.inj hnext
    show e.purge.session = e.session
    unfold session fills? purge
    rw [Option.map_map]
    rfl
  | pass d =>
    obtain rfl := Option.some.inj hnext
    rfl

theorem Orderly.happen {l : ExecutorLabel} (h : e.Orderly) (hnext : e.happen l = some e') : e'.Orderly := by
  cases l with
  | call c label => exact h.step hnext
  | purge =>
    obtain rfl := Option.some.inj hnext
    exact h.purge
  | pass d =>
    obtain rfl := Option.some.inj hnext
    exact h.pass d

theorem orderly_of_history (h : e.Orderly) (past : e.History steps e') : e'.Orderly :=
  past.invariant h fun _ _ _ h hnext => h.happen hnext

/-- The step of the session in a step of the executor. -/
def fillStep? (t : ExecutorTransition) : Option (FillTransition CacheKey) :=
  (t.before.fill? t.label).map fun l => ⟨t.before.session, l, t.after.session⟩

/-- **The steps of the session** among those of the executor. -/
def fillSteps (steps : List ExecutorTransition) : List (FillTransition CacheKey) := steps.filterMap fillStep?

theorem fillSteps_snoc (steps : List ExecutorTransition) (t : ExecutorTransition) :
    fillSteps (steps ++ [t]) = fillSteps steps ++ (fillStep? t).toList := by
  rw [fillSteps, List.filterMap_append]
  cases ht : fillStep? t <;> simp [fillSteps, ht]

/-- **A history of an executor is one of its session.** -/
theorem session_history (h : e.Orderly) (past : e.History steps e') : e.session.History (fillSteps steps) e'.session := by
  induction past with
  | start => exact .start
  | @step steps e₁ e₂ l before hnext ih =>
    have hmoment := moment_of_happen (orderly_of_history h before) hnext
    rw [fillSteps_snoc]
    cases hl : e₁.fill? l with
    | none =>
      rw [hl] at hmoment
      have hsame : e₂.session = e₁.session := hmoment
      simpa [fillStep?, hl, hsame] using ih
    | some fill =>
      rw [hl] at hmoment
      simpa [fillStep?, hl] using History.step ih hmoment

/-- The session of an executor with nothing under way begins. -/
theorem session_begin (hcalls : e.calls = [])
    (hcache : ∀ cache, e.cache = some cache → cache.fills.slots = [] ∧ cache.fills.current = []) :
    e.session = .begin e.session.fills.next := by
  have hstage : e.session.stage = fun _ => .idle := funext fun c => stage_session_of_none (by simp [call?, hcalls])
  have hfills : e.session.fills = { next := e.session.fills.next } := by
    cases hc : e.cache with
    | none => simp [session, fills?, hc]
    | some cache =>
      obtain ⟨hslots, hcurrent⟩ := hcache cache hc
      rw [fills_session hc]
      exact congrArg₂ (fun slots current => ({ slots, current, next := cache.fills.next } : Fills CacheKey)) hslots
        hcurrent
  rw [FillSession.begin, ← hfills, ← hstage]

end Executor

end HttpBench
