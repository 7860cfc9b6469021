import HttpBench.Executor
import HttpBench.Proofs.Keyed

/-!
# One step of one call

What a step of an executor does to the calls under way. `Executor.Moves` lists the steps with
what each needs and where it leads, and is read off a step once (`moves_of_step`). The rest
follows from it: a step of a caller leaves the calls of all others alone, keeps everything about
its own call but the stage, and never changes how a call ends once that is known.
-/

namespace HttpBench.Executor

variable {e e' : Executor} {c : Caller} {call : Call} {label : CallLabel}

/-! ## Calls by caller -/

theorem call?_otherCalls (e : Executor) (c c' : Caller) :
    ((e.otherCalls c).find? (·.1 == c')).map (·.2) = if c' = c then none else e.call? c' := by
  rw [otherCalls, Keyed.find?_others Prod.fst, call?]
  split <;> rfl

@[simp] theorem call?_setCall (e : Executor) (c c' : Caller) (call : Call) :
    (e.setCall c call).call? c' = if c' = c then some call else e.call? c' := by
  by_cases hc : c' = c
  · subst hc
    simp [setCall, call?]
  · have hne : (c == c') = false := by simpa using Ne.symm hc
    simpa [setCall, call?, hne, hc] using call?_otherCalls e c c'

@[simp] theorem call?_setStage (e : Executor) (c c' : Caller) (call : Call) (stage : CallStage) :
    (e.setStage c call stage).call? c' = if c' = c then some { call with stage } else e.call? c' :=
  call?_setCall e c c' _

@[simp] theorem call?_dropCall (e : Executor) (c c' : Caller) :
    (e.dropCall c).call? c' = if c' = c then none else e.call? c' :=
  call?_otherCalls e c c'

@[simp] theorem call?_withCache (e : Executor) (cache : Option ResponseCache) (c : Caller) :
    Executor.call? { e with cache } c = e.call? c := rfl

theorem ending?_eq (e : Executor) (c : Caller) :
    e.ending? c = (e.call? c).bind (·.stage.ending?) := by
  cases h : e.call? c <;> simp [ending?, stage?, h]

theorem ending?_eq_some {ending : CallEnd} :
    e.ending? c = some ending ↔ ∃ call, e.call? c = some call ∧ call.stage.ending? = some ending := by
  rw [ending?_eq, Option.bind_eq_some_iff]

theorem isPending_eq_true : e.isPending c = true ↔ ∃ call, e.call? c = some call ∧ call.stage.isPending = true := by
  cases h : e.call? c <;> simp [isPending, stage?, h]

theorem isFetching_eq_true : e.isFetching c = true ↔ ∃ call, e.call? c = some call ∧ call.stage = .fetching := by
  cases h : e.call? c <;> simp [isFetching, stage?, h]

/-! ## What a step can be -/

/-- **The steps of a call**: what each needs, and where it leads. -/
inductive Moves (e : Executor) (c : Caller) : CallLabel → Executor → Prop
  | start {target : Target} {useCache : Bool} {sequence : Nat} (hcall : e.call? c = none) :
      Moves e c (.start target useCache sequence) (e.start c target useCache sequence)
  | ask {call : Call} {slot : Nat} (hcall : e.call? c = some call) (hstage : call.stage = .following slot) :
      Moves e c .ask (e.ask c call slot)
  | resume {call : Call} {slot : Nat} (hcall : e.call? c = some call) (hstage : call.stage = .waiting slot)
      (hturn : e.hasTurn c slot = true) :
      Moves e c .resume ((e.changeFills (·.release slot)).setStage c call .looking)
  | lookUp {call : Call} (hcall : e.call? c = some call) (hstage : call.stage = .looking) :
      Moves e c .lookUp (e.lookUp c call)
  | reply {call : Call} {x : Exchange} (hcall : e.call? c = some call) (hstage : call.stage = .fetching) :
      Moves e c (.reply x)
        ((e.keep call x).setStage c call (.closing (.sample (.ofExchange e.settings.policy call.sequence x))))
  | cutWaiting {call : Call} {slot : Nat} (hcall : e.call? c = some call) (hstage : call.stage = .waiting slot) :
      Moves e c .cut ((e.changeFills (·.abandon slot c)).setStage c call (.closing .cut))
  | cutFetching {call : Call} (hcall : e.call? c = some call) (hstage : call.stage = .fetching) :
      Moves e c .cut (e.setStage c call (.closing .cut))
  | crash {call : Call} (hcall : e.call? c = some call) (hstage : call.stage = .fetching) :
      Moves e c .crash (e.setStage c call (.closing .crash))
  | unlist {call : Call} {ending : CallEnd} {slot : Nat} (hcall : e.call? c = some call)
      (hstage : call.stage = .closing ending) (hleads : call.leads = some slot) :
      Moves e c .unlist ((e.changeFills (·.unlist slot)).setStage c call (.unlisted ending))
  | leave {call : Call} {ending : CallEnd} (hcall : e.call? c = some call)
      (hstage : call.stage = .closing ending) (hleads : call.leads = none) :
      Moves e c .leave (e.dropCall c)
  | leaveLead {call : Call} {ending : CallEnd} {slot : Nat} (hcall : e.call? c = some call)
      (hstage : call.stage = .unlisted ending) (hleads : call.leads = some slot) :
      Moves e c .leave ((e.changeFills (·.release slot)).dropCall c)

/-- **A step is one of these.** -/
theorem moves_of_step (h : e.step c label = some e') : e.Moves c label e' := by
  unfold step at h
  cases hcall : e.call? c with
  | none =>
    rw [hcall] at h
    cases label with
    | start target useCache sequence =>
      obtain rfl := Option.some.inj h
      exact .start hcall
    | _ => cases h
  | some call =>
    simp only [hcall] at h
    split at h
    next slot hstage => cases h; exact .ask hcall hstage
    next slot hstage =>
      split at h
      next hturn => cases h; exact .resume hcall hstage hturn
      next => cases h
    next hstage => cases h; exact .lookUp hcall hstage
    next x hstage => cases h; exact .reply hcall hstage
    next slot hstage => cases h; exact .cutWaiting hcall hstage
    next hstage => cases h; exact .cutFetching hcall hstage
    next hstage => cases h; exact .crash hcall hstage
    next ending hstage =>
      obtain ⟨slot, hleads, rfl⟩ := Option.map_eq_some_iff.mp h
      exact .unlist hcall hstage hleads
    next ending hstage =>
      split at h
      next hleads => cases h; exact .leave hcall hstage (Option.isNone_iff_eq_none.mp hleads)
      next => cases h
    next ending hstage =>
      obtain ⟨slot, hleads, rfl⟩ := Option.map_eq_some_iff.mp h
      exact .leaveLead hcall hstage hleads
    next => cases h

/-! ## What an operation does to the calls -/

/-- A call that begins is yet to end. -/
theorem start_eq (e : Executor) (c : Caller) (target : Target) (useCache : Bool) (sequence : Nat) :
    ∃ cache call, e.start c target useCache sequence = { e with cache }.setCall c call ∧
      call.sequence = sequence ∧ call.stage.ending? = none := by
  unfold start
  split
  · exact ⟨e.cache, _, rfl, rfl, rfl⟩
  · dsimp only
    split <;> exact ⟨_, _, rfl, rfl, rfl⟩

/-- A call that begins with a cache has a key, which it looks up, or it follows. -/
theorem start_cached {cache : ResponseCache} (h : e.cache = some cache) (c : Caller) (target : Target)
    (sequence : Nat) :
    ∃ fills call, e.start c target true sequence =
        Executor.setCall { e with cache := some { cache with fills } } c call ∧ call.key = some target.cacheKey ∧
      (call.stage = .looking ∨ ∃ slot, call.stage = .following slot) := by
  simp only [start, if_true, h]
  split
  · exact ⟨_, _, rfl, rfl, .inl rfl⟩
  · exact ⟨_, _, rfl, rfl, .inr ⟨_, rfl⟩⟩

/-- Whoever asks for a lock goes on at once or waits. -/
theorem ask_eq (e : Executor) (c : Caller) (call : Call) (slot : Nat) :
    ∃ cache stage, e.ask c call slot = { e with cache }.setStage c call stage ∧
      (stage = .looking ∨ stage = .waiting slot) := by
  unfold ask
  split
  next cache _ =>
    generalize cache.fills.settle slot c = settled
    obtain ⟨fills, through⟩ := settled
    cases through with
    | true => exact ⟨_, _, rfl, .inl rfl⟩
    | false => exact ⟨_, _, rfl, .inr rfl⟩
  · exact ⟨e.cache, _, rfl, .inl rfl⟩

/-- A look-up ends a call with a sample of its own number, or leads to a fetch. -/
theorem lookUp_eq (e : Executor) (c : Caller) (call : Call) :
    ∃ cache stage, e.lookUp c call = { e with cache }.setStage c call stage ∧
      ∀ ending, stage.ending? = some ending → ∃ x, ending = .sample x ∧ x.sequence = call.sequence := by
  unfold lookUp
  split
  · refine ⟨_, _, rfl, ?_⟩
    intro ending hending
    split at hending
    · obtain rfl := Option.some.inj hending
      exact ⟨_, rfl, rfl⟩
    · cases hending
  · exact ⟨e.cache, _, rfl, fun ending hending => by cases hending⟩

/-- Storing a response changes the cache alone. -/
theorem keep_eq (e : Executor) (call : Call) (x : Exchange) : ∃ cache, e.keep call x = { e with cache } := by
  unfold keep
  split
  · split
    · exact ⟨e.cache, rfl⟩
    · exact ⟨_, rfl⟩
  · exact ⟨e.cache, rfl⟩

/-! ## What a step does to the calls -/

/-- **A step changes the cache and the call of its own caller**: it notes the call anew, or drops it. -/
theorem step_shape (h : e.step c label = some e') :
    ∃ cache, (∃ call, e' = { e with cache }.setCall c call) ∨ e' = { e with cache }.dropCall c := by
  cases moves_of_step h with
  | start =>
    obtain ⟨cache, call, heq, _⟩ := start_eq e c _ _ _
    exact ⟨cache, .inl ⟨call, heq⟩⟩
  | ask =>
    obtain ⟨cache, stage, heq, _⟩ := ask_eq e c _ _
    exact ⟨cache, .inl ⟨_, heq⟩⟩
  | lookUp =>
    obtain ⟨cache, stage, heq, _⟩ := lookUp_eq e c _
    exact ⟨cache, .inl ⟨_, heq⟩⟩
  | @reply call x =>
    obtain ⟨cache, heq⟩ := keep_eq e call x
    exact ⟨cache, .inl ⟨_, by rw [heq]; rfl⟩⟩
  | resume | cutWaiting | unlist => exact ⟨_, .inl ⟨_, rfl⟩⟩
  | cutFetching | crash => exact ⟨e.cache, .inl ⟨_, rfl⟩⟩
  | leave => exact ⟨e.cache, .inr rfl⟩
  | leaveLead => exact ⟨_, .inr rfl⟩

/-- **The calls of all others stay as they are.** -/
theorem step_other {c' : Caller} (h : e.step c label = some e') (hc : c' ≠ c) : e'.call? c' = e.call? c' := by
  obtain ⟨cache, ⟨call, rfl⟩ | rfl⟩ := step_shape h
  · rw [call?_setCall, if_neg hc, call?_withCache]
  · rw [call?_dropCall, if_neg hc, call?_withCache]

/-- The settings stay as they are. -/
theorem step_settings (h : e.step c label = some e') : e'.settings = e.settings := by
  obtain ⟨cache, ⟨call, rfl⟩ | rfl⟩ := step_shape h <;> rfl

/-- No time passes within a step. -/
theorem step_now (h : e.step c label = some e') : e'.now = e.now := by
  obtain ⟨cache, ⟨call, rfl⟩ | rfl⟩ := step_shape h <;> rfl

/-- **A caller has one call at a time**, and a call that begins has the number it is given. -/
theorem step_start {target : Target} {useCache : Bool} {sequence : Nat}
    (h : e.step c (.start target useCache sequence) = some e') :
    e.call? c = none ∧ ∃ call, e'.call? c = some call ∧ call.sequence = sequence ∧ call.stage.ending? = none := by
  cases moves_of_step h with
  | start hcall =>
    obtain ⟨cache, call, heq, hsequence, hending⟩ := start_eq e c target useCache sequence
    exact ⟨hcall, call, by rw [heq, call?_setCall, if_pos rfl], hsequence, hending⟩

/-- A call goes only when it is known how it ends. -/
theorem step_leave (h : e.step c .leave = some e') :
    (∃ ending, e.ending? c = some ending) ∧ e'.call? c = none := by
  cases moves_of_step h with
  | leave hcall hstage | leaveLead hcall hstage =>
    refine ⟨⟨_, by rw [ending?_eq, hcall, Option.bind_some, hstage]; rfl⟩, ?_⟩
    rw [call?_dropCall, if_pos rfl]

/-- **In between a call changes nothing but its stage.** -/
theorem step_between (h : e.step c label = some e') (hstart : ∀ t u n, label ≠ .start t u n)
    (hleave : label ≠ .leave) :
    ∃ call stage, e.call? c = some call ∧ e'.call? c = some { call with stage } := by
  cases moves_of_step h with
  | start => exact absurd rfl (hstart _ _ _)
  | leave | leaveLead => exact absurd rfl hleave
  | @ask call slot hcall =>
    obtain ⟨cache, stage, heq, _⟩ := ask_eq e c call slot
    exact ⟨call, stage, hcall, by rw [heq, call?_setStage, if_pos rfl]⟩
  | @lookUp call hcall =>
    obtain ⟨cache, stage, heq, _⟩ := lookUp_eq e c call
    exact ⟨call, stage, hcall, by rw [heq, call?_setStage, if_pos rfl]⟩
  | resume hcall | reply hcall | cutWaiting hcall | cutFetching hcall | crash hcall | unlist hcall =>
    exact ⟨_, _, hcall, by rw [call?_setStage, if_pos rfl]⟩

/-- **How a call comes to its end**: with a sample of its own number, in a turn of its caller; cut
off; or by a crash. From then on its end stays as it is. -/
theorem step_ending {ending : CallEnd} (h : e.step c label = some e') (hending : e'.ending? c = some ending) :
    e.ending? c = some ending ∨
      (∃ call x, label.isInTurn = true ∧ ending = .sample x ∧ e.call? c = some call ∧ x.sequence = call.sequence) ∨
      (label = .cut ∧ ending = .cut) ∨ (label = .crash ∧ ending = .crash) := by
  rw [ending?_eq] at hending
  cases moves_of_step h with
  | start =>
    obtain ⟨cache, call, heq, _, hnone⟩ := start_eq e c _ _ _
    rw [heq, call?_setCall, if_pos rfl, Option.bind_some, hnone] at hending
    cases hending
  | ask =>
    obtain ⟨cache, stage, heq, hstage⟩ := ask_eq e c _ _
    rw [heq, call?_setStage, if_pos rfl, Option.bind_some] at hending
    rcases hstage with rfl | rfl <;> cases hending
  | @lookUp call hcall =>
    obtain ⟨cache, stage, heq, hsample⟩ := lookUp_eq e c call
    rw [heq, call?_setStage, if_pos rfl, Option.bind_some] at hending
    obtain ⟨x, rfl, hx⟩ := hsample ending hending
    exact .inr (.inl ⟨call, x, rfl, rfl, hcall, hx⟩)
  | @reply call x hcall =>
    rw [call?_setStage, if_pos rfl, Option.bind_some] at hending
    obtain rfl := Option.some.inj hending
    exact .inr (.inl ⟨call, _, rfl, rfl, hcall, rfl⟩)
  | resume =>
    rw [call?_setStage, if_pos rfl, Option.bind_some] at hending
    cases hending
  | cutWaiting | cutFetching =>
    rw [call?_setStage, if_pos rfl, Option.bind_some] at hending
    exact .inr (.inr (.inl ⟨rfl, (Option.some.inj hending).symm⟩))
  | crash =>
    rw [call?_setStage, if_pos rfl, Option.bind_some] at hending
    exact .inr (.inr (.inr ⟨rfl, (Option.some.inj hending).symm⟩))
  | unlist hcall hstage =>
    rw [call?_setStage, if_pos rfl, Option.bind_some] at hending
    exact .inl (by rw [ending?_eq, hcall, Option.bind_some, hstage]; exact hending)
  | leave | leaveLead =>
    rw [call?_dropCall, if_pos rfl] at hending
    cases hending

/-- What happens to a call off its turn ends it. -/
theorem step_off_turn (h : e.step c label = some e') (hturn : label.isInTurn = false)
    (hstart : ∀ t u n, label ≠ .start t u n) (hleave : label ≠ .leave) : ∃ ending, e'.ending? c = some ending := by
  simp only [ending?_eq]
  cases moves_of_step h with
  | start => exact absurd rfl (hstart _ _ _)
  | leave | leaveLead => exact absurd rfl hleave
  | ask | resume | lookUp | reply | crash => cases hturn
  | cutWaiting | cutFetching | unlist => exact ⟨_, by rw [call?_setStage, if_pos rfl]; rfl⟩

/-- Only a crash makes a call end with one. -/
theorem step_crash {c' : Caller} (h : e.step c label = some e') (hlabel : label ≠ .crash)
    (hending : e'.ending? c' = some .crash) : e.ending? c' = some .crash := by
  by_cases hc : c' = c
  · subst hc
    rcases step_ending h hending with hold | ⟨_, _, _, hx, _⟩ | ⟨_, hx⟩ | ⟨hx, _⟩
    · exact hold
    · cases hx
    · cases hx
    · exact absurd hx hlabel
  · rw [ending?_eq, step_other h hc, ← ending?_eq] at hending
    exact hending

/-- A call stays ended until it goes. -/
theorem step_ended {ending : CallEnd} (h : e.step c label = some e') (hleave : label ≠ .leave)
    (hending : e.ending? c = some ending) : e'.ending? c = some ending := by
  obtain ⟨call, hcall, hstage⟩ := ending?_eq_some.mp hending
  have other : ∀ {call' : Call}, e.call? c = some call' → call'.stage.ending? = none → e'.ending? c = some ending := by
    intro call' hcall' hnone
    obtain rfl := Option.some.inj (hcall.symm.trans hcall')
    rw [hnone] at hstage
    cases hstage
  cases moves_of_step h with
  | start hnone =>
    rw [hnone] at hcall
    cases hcall
  | ask hcall' hs | resume hcall' hs | lookUp hcall' hs | reply hcall' hs | cutWaiting hcall' hs | cutFetching hcall' hs
  | crash hcall' hs => exact other hcall' (by rw [hs]; rfl)
  | unlist hcall' hs =>
    obtain rfl := Option.some.inj (hcall.symm.trans hcall')
    rw [ending?_eq, call?_setStage, if_pos rfl]
    rw [hs] at hstage
    exact hstage
  | leave | leaveLead => exact absurd rfl hleave

/-- **Calls keep their keys**, and new ones get theirs. -/
theorem step_keys {cache : ResponseCache} {key : CacheKey} (h : e.step c label = some e')
    (hcache : e.cache = some cache)
    (hstart : ∀ target useCache n, label = .start target useCache n → target.cacheKey = key ∧ useCache = true)
    (hkeys : ∀ c call, e.call? c = some call → call.key = some key) :
    ∀ c call, e'.call? c = some call → call.key = some key := by
  intro v call hcall
  by_cases hv : v = c
  · subst hv
    by_cases hleave : label = .leave
    · subst hleave
      rw [(step_leave h).2] at hcall
      cases hcall
    by_cases hnew : ∃ target useCache n, label = .start target useCache n
    · obtain ⟨target, useCache, n, rfl⟩ := hnew
      obtain ⟨rfl, rfl⟩ := hstart _ _ _ rfl
      obtain ⟨fills, call', heq, hkey, _⟩ := start_cached hcache v target n
      cases moves_of_step h with
      | start =>
        rw [heq, call?_setCall, if_pos rfl] at hcall
        exact Option.some.inj hcall ▸ hkey
    · obtain ⟨call', stage, hold, hsame⟩ := step_between h (fun t u n hl => hnew ⟨t, u, n, hl⟩) hleave
      rw [hsame] at hcall
      exact Option.some.inj hcall ▸ hkeys v call' hold
  · rw [step_other h hv] at hcall
    exact hkeys v call hcall

/-! ## One call at a time -/

/-- **Every caller has one call** under way at most. -/
def Single (e : Executor) : Prop := (e.calls.map (·.1)).Nodup

namespace Single

theorem begin (hcalls : e.calls = []) : e.Single := by
  rw [Single, hcalls]
  exact List.nodup_nil

theorem others (h : e.Single) (c : Caller) : ((e.otherCalls c).map (·.1)).Nodup := h.sublist (List.filter_sublist.map _)

/-- **Every step** leaves every caller one call. -/
theorem step (h : e.Single) (hstep : e.step c label = some e') : e'.Single := by
  obtain ⟨cache, ⟨call, rfl⟩ | rfl⟩ := step_shape hstep
  · refine List.nodup_cons.mpr ⟨?_, h.others c⟩
    intro hmem
    obtain ⟨entry, hentry, rfl⟩ := List.mem_map.mp hmem
    simpa using (List.mem_filter.mp hentry).2
  · exact h.others c

/-- A call that is among those under way is the one of its caller. -/
theorem call?_of_mem (h : e.Single) {entry : Caller × Call} (hmem : entry ∈ e.calls) :
    e.call? entry.1 = some entry.2 := by
  have hfind : e.calls.find? (fun x => x.1 = entry.1) = some entry := (Keyed.find?_eq_some_iff h).mpr ⟨hmem, rfl⟩
  rw [call?]
  exact congrArg _ hfind

end Single

/-! ## What a step brings -/

/-- **The transport gets the call** of a caller between two states. -/
def fetchesIn (e : Executor) (c : Caller) (e' : Executor) : Bool := !e.isFetching c && e'.isFetching c

/-- **The sample that a call has come to** between two states. -/
def arrived? (e : Executor) (c : Caller) (e' : Executor) : Option Sample :=
  match e.ending? c, e'.ending? c with
  | none, some (.sample x) => some x
  | _, _ => none

/-- A figure of the sample, if there is one. -/
def figureOf (f : Sample → Nat) (x : Option Sample) : Nat := x.elim 0 f

/-- While no call ends with a sample, no sample arrives. -/
theorem arrived?_eq_none (h : ∀ x, e'.ending? c = some (.sample x) → e.ending? c ≠ none) : e.arrived? c e' = none := by
  unfold arrived?
  split
  next hbefore hafter => exact absurd hbefore (h _ hafter)
  next => rfl

/-- A call that is not with the transport has not just been given to it. -/
theorem fetchesIn_eq_false (h : e'.isFetching c = false) : e.fetchesIn c e' = false := by
  simp [fetchesIn, h]

@[simp] theorem fetchesIn_self (e : Executor) (c : Caller) : e.fetchesIn c e = false := by
  cases h : e.isFetching c <;> simp [fetchesIn, h]

@[simp] theorem arrived?_self (e : Executor) (c : Caller) : e.arrived? c e = none :=
  arrived?_eq_none fun x hx => by simp [hx]

/-- A call that is over is not with the transport. -/
theorem isFetching_of_ending {ending : CallEnd} (h : e.ending? c = some ending) : e.isFetching c = false := by
  obtain ⟨call, hcall, hstage⟩ := ending?_eq_some.mp h
  cases hs : call.stage <;> simp [hs, CallStage.ending?] at hstage <;> simp [isFetching, stage?, hcall, hs]

/-- **Off its turn** no call gets to the transport. -/
theorem step_fetchesIn (h : e.step c label = some e') (hturn : label.isInTurn = false)
    (hstart : ∀ t u n, label ≠ .start t u n) : e.fetchesIn c e' = false := by
  refine fetchesIn_eq_false ?_
  by_cases hleave : label = .leave
  · subst hleave
    have hnone := (step_leave h).2
    simp [isFetching, stage?, hnone]
  · obtain ⟨ending, he⟩ := step_off_turn h hturn hstart hleave
    exact isFetching_of_ending he

end HttpBench.Executor
