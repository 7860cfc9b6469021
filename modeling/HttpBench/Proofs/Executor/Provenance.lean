import HttpBench.Proofs.Executor.Histories

/-!
# Where cached samples are from

Every entry of a cache that was empty at first was stored in some step, in which the transport answered
a call with a success (`ExecutorTransition.Stores`), and every sample from the cache is that of an
entry which was live when its call looked it up (`Executor.Served`). Both hold in every state of an
executor, whatever is overwritten, expires or makes room (`Executor.Sourced`). So a sample from the
cache is a copy of a sample from the network, and a recent one.
-/

namespace HttpBench

/-- A call ends with a sample from the cache. -/
def CallEnd.isFromCache : CallEnd → Bool
  | .sample x => x.fromCache
  | .cut | .crash => false

namespace ExecutorTransition

/-- **The call of a caller comes to its sample** in a step. -/
structure Arrives (t : ExecutorTransition) (c : Caller) (call : Call) (x : Sample) : Prop where
  call : t.before.call? c = some call
  undecided : t.before.ending? c = none
  sample : t.after.ending? c = some (.sample x)

/-- **A response is stored** in a step, that in which a call comes to its sample from the network. -/
structure Stores (t : ExecutorTransition) (c : Caller) (call : Call) (k : Kept Response) (y : Sample) : Prop where
  arrives : t.Arrives c call y
  network : y.fromCache = false
  success : t.before.settings.policy.isFailure k.value.status = false
  outcome : y.outcome = .success k.value.status
  bytes : y.bytes = k.value.body.length
  protocol : y.protocol = some k.value.protocol
  storedAt : k.storedAt = t.before.now
  ttl : k.ttl = t.before.settings.cacheTtl
  there : ∃ cache, t.after.cache = some cache ∧
    ∃ entry ∈ cache.store.entries, entry.1 = call.target.cacheKey ∧ entry.2.kept = k

end ExecutorTransition

namespace Executor

variable {e e' : Executor} {c : Caller} {call : Call} {label : CallLabel} {steps : List ExecutorTransition}
  {key : CacheKey} {k : Kept Response} {x : Sample}

/-- **An entry was obtained** from the network in one of some steps. -/
def Obtained (steps : List ExecutorTransition) (key : CacheKey) (k : Kept Response) : Prop :=
  ∃ t ∈ steps, ∃ c call y, t.Stores c call k y ∧ call.target.cacheKey = key

/-- **A call was served** in one of some steps, with an entry that was live, and has yet to go. -/
def Served (steps : List ExecutorTransition) (c : Caller) (x : Sample) : Prop :=
  ∃ before t after call k, steps = before ++ t :: after ∧ (∀ u ∈ after, u.label ≠ .call c .leave) ∧
    t.label = .call c .lookUp ∧ t.Arrives c call x ∧ Obtained before call.target.cacheKey k ∧
    k.isLive t.before.now = true ∧ x.phases = .none ∧ x.outcome = .success k.value.status ∧
    x.bytes = k.value.body.length ∧ x.protocol = some k.value.protocol

theorem Obtained.snoc {t : ExecutorTransition} (h : Obtained steps key k) : Obtained (steps ++ [t]) key k := by
  obtain ⟨u, hu, h⟩ := h
  exact ⟨u, List.mem_append_left _ hu, h⟩

theorem Served.snoc {t : ExecutorTransition} (h : Served steps c x) (ht : t.label ≠ .call c .leave) :
    Served (steps ++ [t]) c x := by
  obtain ⟨before, u, after, call, k, rfl, hafter, h⟩ := h
  refine ⟨before, u, after ++ [t], call, k, by simp, ?_, h⟩
  intro v hv
  rcases List.mem_append.mp hv with hv | hv
  · exact hafter v hv
  · obtain rfl := List.mem_singleton.mp hv
    exact ht

/-! ## What a step brings -/

theorem key_of_start {target : Target} {useCache : Bool} {n : Nat}
    (h : (e.start c target useCache n).call? c = some call) (hkey : call.key = some key) :
    call.target.cacheKey = key := by
  unfold start at h
  dsimp only at h
  split at h
  · rw [call?_setCall, if_pos rfl] at h
    obtain rfl := Option.some.inj h
    cases hkey
  · split at h
    · rw [call?_setCall, if_pos rfl] at h
      obtain rfl := Option.some.inj h
      exact Option.some.inj hkey
    · rw [call?_setCall, if_pos rfl] at h
      obtain rfl := Option.some.inj h
      exact Option.some.inj hkey

theorem found_of_lookUp (h : (e.lookUp c call).ending? c = some (.sample x)) :
    ∃ cache key r, e.cache = some cache ∧ call.key = some key ∧ (cache.store.get key e.now).2 = some r ∧
      x = .ofCached e.settings.policy call.sequence r (e.now.since call.started) := by
  unfold lookUp at h
  split at h
  next cache key hcache hkey =>
    simp only [ending?_eq, call?_setStage, if_true, Option.bind_some] at h
    split at h
    next r hfound =>
      obtain rfl := CallEnd.sample.inj (Option.some.inj h)
      exact ⟨cache, key, r, hcache, hkey, hfound, rfl⟩
    next => cases h
  next =>
    simp only [ending?_eq, call?_setStage, if_true, Option.bind_some] at h
    cases h

/-- **A sample from the cache** comes by a look-up, and stays until its call goes. -/
theorem lookUp_of_fromCache (hstep : e.step c label = some e') (hending : e'.ending? c = some (.sample x))
    (hcached : x.fromCache = true) :
    (label ≠ .leave ∧ e.ending? c = some (.sample x)) ∨
      ∃ call, label = .lookUp ∧ e.call? c = some call ∧ call.stage = .looking ∧
        ∃ cache key r, e.cache = some cache ∧ call.key = some key ∧ (cache.store.get key e.now).2 = some r ∧
          x = .ofCached e.settings.policy call.sequence r (e.now.since call.started) := by
  cases moves_of_step hstep with
  | start =>
    obtain ⟨cache, call, heq, _, hnone⟩ := start_eq e c _ _ _
    rw [heq, ending?_eq, call?_setCall, if_pos rfl, Option.bind_some, hnone] at hending
    cases hending
  | ask =>
    obtain ⟨cache, stage, heq, hstage⟩ := ask_eq e c _ _
    rw [heq, ending?_eq, call?_setStage, if_pos rfl, Option.bind_some] at hending
    rcases hstage with rfl | rfl <;> cases hending
  | lookUp hcall hstage => exact .inr ⟨_, rfl, hcall, hstage, found_of_lookUp hending⟩
  | reply =>
    rw [ending?_eq, call?_setStage, if_pos rfl, Option.bind_some] at hending
    obtain rfl := CallEnd.sample.inj (Option.some.inj hending)
    cases hcached
  | resume | cutWaiting | cutFetching | crash =>
    rw [ending?_eq, call?_setStage, if_pos rfl, Option.bind_some] at hending
    cases hending
  | unlist hcall hstage =>
    rw [ending?_eq, call?_setStage, if_pos rfl, Option.bind_some] at hending
    refine .inl ⟨CallLabel.noConfusion, ?_⟩
    rw [ending?_eq, hcall, Option.bind_some, hstage]
    exact hending
  | leave | leaveLead =>
    rw [ending?_eq, call?_dropCall, if_pos rfl] at hending
    cases hending

/-- **A failure is not stored**: it leaves the cache as it is. -/
theorem cache_of_failure {a : Exchange} (hstep : e.step c (.reply a) = some e')
    (hfailure : ∀ r, a.result = .ok r → e.settings.policy.isFailure r.status = true) : e'.cache = e.cache := by
  cases moves_of_step hstep with
  | reply hcall =>
    rw [cache_setStage]
    unfold keep
    split
    next r _ _ hresult => rw [if_pos (hfailure r hresult)]
    next => rfl

/-! ## Whatever happens -/

/-- **Everything in the cache and everything from it** is known to come from the network. -/
structure Sourced (steps : List ExecutorTransition) (e : Executor) : Prop where
  settings : ∀ t ∈ steps, t.before.settings = e.settings
  keys : ∀ c call key, e.call? c = some call → call.key = some key → call.target.cacheKey = key
  entries : ∀ cache, e.cache = some cache → ∀ entry ∈ cache.store.entries, Obtained steps entry.1 entry.2.kept
  served : ∀ c x, e.ending? c = some (.sample x) → x.fromCache = true → Served steps c x

namespace Sourced

theorem begin (hcalls : e.calls = []) (hempty : ∀ cache, e.cache = some cache → cache.store.entries = []) :
    Sourced [] e := by
  have hnone : ∀ c, e.call? c = none := by
    intro c
    rw [call?, hcalls]
    rfl
  refine ⟨?_, ?_, ?_, ?_⟩
  · intro t ht
    cases ht
  · intro c call key hcall
    rw [hnone] at hcall
    cases hcall
  · intro cache hcache entry hentry
    rw [hempty cache hcache] at hentry
    cases hentry
  · intro c x hending
    rw [ending?_eq, hnone] at hending
    cases hending

/-- A step that leaves the calls as they are, and puts nothing into the cache. -/
theorem snoc {label : ExecutorLabel} (h : Sourced steps e) (hsettings : e'.settings = e.settings)
    (hcalls : ∀ c, e'.call? c = e.call? c) (hlabel : ∀ c, label ≠ .call c .leave)
    (hentries : ∀ cache, e'.cache = some cache → ∀ entry ∈ cache.store.entries, Obtained steps entry.1 entry.2.kept) :
    Sourced (steps ++ [⟨e, label, e'⟩]) e' := by
  refine ⟨?_, ?_, ?_, ?_⟩
  · intro t ht
    rcases List.mem_append.mp ht with ht | ht
    · exact (h.settings t ht).trans hsettings.symm
    · obtain rfl := List.mem_singleton.mp ht
      exact hsettings.symm
  · intro c call key hcall
    rw [hcalls] at hcall
    exact h.keys c call key hcall
  · exact fun cache hcache entry hentry => (hentries cache hcache entry hentry).snoc
  · intro c x hending hcached
    rw [ending?_eq, hcalls, ← ending?_eq] at hending
    exact (h.served c x hending hcached).snoc (hlabel c)

theorem purge (h : Sourced steps e) : Sourced (steps ++ [⟨e, .purge, e.purge⟩]) e.purge := by
  refine h.snoc rfl (fun _ => rfl) (fun _ hl => by cases hl) ?_
  intro cache hcache entry hentry
  obtain ⟨cache', hcache', rfl⟩ := Option.map_eq_some_iff.mp hcache
  exact h.entries cache' hcache' entry (Store.mem_of_purge hentry)

theorem pass (h : Sourced steps e) (d : Duration) : Sourced (steps ++ [⟨e, .pass d, e.pass d⟩]) (e.pass d) :=
  h.snoc rfl (fun _ => rfl) (fun _ hl => by cases hl) h.entries

theorem step_keys (h : Sourced steps e) (hstep : e.step c label = some e') :
    ∀ c' call key, e'.call? c' = some call → call.key = some key → call.target.cacheKey = key := by
  intro c' call key hcall hkey
  by_cases hc : c' = c
  · subst hc
    by_cases hleave : label = .leave
    · subst hleave
      rw [(step_leave hstep).2] at hcall
      cases hcall
    by_cases hstart : ∃ target useCache n, label = .start target useCache n
    · obtain ⟨target, useCache, n, rfl⟩ := hstart
      cases moves_of_step hstep with
      | start => exact key_of_start hcall hkey
    · obtain ⟨old, stage, hold, hnew⟩ := step_between hstep (fun t u n hl => hstart ⟨t, u, n, hl⟩) hleave
      rw [hnew] at hcall
      obtain rfl := Option.some.inj hcall
      exact h.keys c' old key hold hkey
  · rw [step_other hstep hc] at hcall
    exact h.keys c' call key hcall hkey

/-- A response that is put into the cache was stored in that step. -/
theorem obtained_of_reply {a : Exchange} {r : Response} {cache : ResponseCache} (h : Sourced steps e)
    (hstep : e.step c (.reply a) = some e') (hcache : e'.cache = some cache) (hcall : e.call? c = some call)
    (hkey : call.key = some key) (hresult : a.result = .ok r)
    (hsuccess : e.settings.policy.isFailure r.status = false)
    (hentry : ∃ entry ∈ cache.store.entries, entry.1 = key ∧ entry.2.kept = ⟨r, e.now, e.settings.cacheTtl⟩) :
    Obtained (steps ++ [⟨e, .call c (.reply a), e'⟩]) key ⟨r, e.now, e.settings.cacheTtl⟩ := by
  have htarget := h.keys c call key hcall hkey
  refine ⟨_, List.mem_append_right _ (List.mem_singleton_self _), c, call,
    .ofExchange e.settings.policy call.sequence a, ?_, htarget⟩
  cases moves_of_step hstep with
  | reply hcall' hstage =>
    obtain rfl := Option.some.inj (hcall.symm.trans hcall')
    refine ⟨⟨hcall, ?_, ?_⟩, rfl, hsuccess, ?_, ?_, ?_, rfl, rfl, cache, hcache, htarget ▸ hentry⟩
    · rw [ending?_eq, hcall, Option.bind_some, hstage]
      rfl
    · rw [ending?_eq, call?_setStage, if_pos rfl]
      rfl
    · simp [Sample.ofExchange, hresult, Outcome.ofStatus, hsuccess]
    · simp [Sample.ofExchange, hresult]
    · simp [Sample.ofExchange, hresult]

/-- **What is in the cache** after a step of a call. -/
theorem step_entries (h : Sourced steps e) (hstep : e.step c label = some e') :
    ∀ cache, e'.cache = some cache → ∀ entry ∈ cache.store.entries,
      Obtained (steps ++ [⟨e, .call c label, e'⟩]) entry.1 entry.2.kept := by
  intro cache' hcache' entry hentry
  obtain ⟨cache, hcache, hchange⟩ := storeChange_of_step hstep hcache'
  generalize hstore : cache'.store = store at hchange
  rw [hstore] at hentry
  cases hchange with
  | same => exact (h.entries cache hcache entry hentry).snoc
  | looked =>
    obtain ⟨old, hold, hkey, hkept⟩ := Store.kept_of_get hentry
    rw [← hkey, ← hkept]
    exact (h.entries cache hcache old hold).snoc
  | stored hcall hkey hresult hsuccess =>
    rcases Store.kept_of_put hentry with hold | ⟨hnew, hkept⟩
    · exact (h.entries cache hcache entry hold).snoc
    · rw [hnew, hkept]
      exact h.obtained_of_reply hstep hcache' hcall hkey hresult hsuccess ⟨entry, hstore ▸ hentry, hnew, hkept⟩

/-- **What comes from the cache** in a step of a call. -/
theorem step_served (h : Sourced steps e) (hstep : e.step c label = some e') :
    ∀ c' x, e'.ending? c' = some (.sample x) → x.fromCache = true →
      Served (steps ++ [⟨e, .call c label, e'⟩]) c' x := by
  intro c' x hending hcached
  by_cases hc : c' = c
  · subst hc
    rcases lookUp_of_fromCache hstep hending hcached with
      ⟨hleave, hold⟩ | ⟨call, rfl, hcall, hstage, cache, key, r, hcache, hkey, hfound, rfl⟩
    · refine (h.served c' x hold hcached).snoc ?_
      intro hl
      exact hleave (ExecutorLabel.call.inj hl).2
    -- what the look-up has found was live, and had been stored by an earlier step
    · obtain ⟨entry, hentry, hsame, hvalue, hlive⟩ := Store.live_of_get hfound
      have hobtained := h.entries cache hcache entry hentry
      have hsuccess : e.settings.policy.isFailure r.status = false := by
        obtain ⟨t, ht, _, _, _, hstores, _⟩ := hobtained
        rw [← h.settings t ht, ← hvalue]
        exact hstores.success
      rw [hsame, ← h.keys c' call key hcall hkey] at hobtained
      refine ⟨steps, _, [], call, entry.2.kept, rfl, List.forall_mem_nil _, rfl, ⟨hcall, ?_, hending⟩, hobtained, hlive,
        rfl, ?_, ?_, ?_⟩
      · rw [ending?_eq, hcall, Option.bind_some, hstage]
        rfl
      · simp [Sample.ofCached, Outcome.ofStatus, hsuccess, hvalue]
      · simp [Sample.ofCached, hvalue]
      · simp [Sample.ofCached, hvalue]
  · rw [ending?_eq, step_other hstep hc, ← ending?_eq] at hending
    refine (h.served c' x hending hcached).snoc ?_
    intro hl
    exact hc (ExecutorLabel.call.inj hl).1.symm

theorem next {label : ExecutorLabel} (h : Sourced steps e) (hnext : e.Next label e') :
    Sourced (steps ++ [⟨e, label, e'⟩]) e' := by
  cases label with
  | purge =>
    obtain rfl := Option.some.inj hnext
    exact h.purge
  | pass d =>
    obtain rfl := Option.some.inj hnext
    exact h.pass d
  | call c label =>
    refine ⟨?_, h.step_keys hnext, h.step_entries hnext, h.step_served hnext⟩
    intro t ht
    rcases List.mem_append.mp ht with ht | ht
    · exact (h.settings t ht).trans (step_settings hnext).symm
    · obtain rfl := List.mem_singleton.mp ht
      exact (step_settings hnext).symm

/-- **In every state** everything is sourced. -/
theorem history (hcalls : e.calls = []) (hempty : ∀ cache, e.cache = some cache → cache.store.entries = [])
    (past : e.History steps e') : Sourced steps e' :=
  past.invariantWith (P := Sourced) (begin hcalls hempty) fun _ _ _ _ _ h hnext => h.next hnext

end Sourced

/-- **A sample from the cache is a copy of a recent one from the network.** Let an executor begin
without calls and with an empty cache. Whoever gets a sample from the cache gets a success without
phases; his call has looked it up at a time when the response had been in the cache for less than its
time to live, since a call for an equal key came to a success from the network with the same status,
length and protocol. Neither a response that the policy calls a failure nor a failure of the transport
is ever stored. -/
theorem cached_from_network (hcalls : e.calls = [])
    (hempty : ∀ cache, e.cache = some cache → cache.store.entries = []) (past : e.History steps e') :
    (∀ before t after c x, steps = before ++ t :: after → t.label = .call c .leave →
      t.before.ending? c = some (.sample x) → x.fromCache = true →
      x.phases = .none ∧ (∃ status, x.outcome = .success status) ∧
      ∃ earlier stored between looked later c' call call' k y,
        before = earlier ++ stored :: (between ++ looked :: later) ∧
        (looked.label = .call c .lookUp ∧ looked.Arrives c call x ∧ ∀ u ∈ later, u.label ≠ .call c .leave) ∧
        (stored.Stores c' call' k y ∧ call'.target.cacheKey = call.target.cacheKey) ∧
        y.outcome = x.outcome ∧ y.bytes = x.bytes ∧ y.protocol = x.protocol ∧
        (looked.before.now.since stored.before.now).nanos < e.settings.cacheTtl.nanos) ∧
    (∀ t ∈ steps, ∀ c a, t.label = .call c (.reply a) →
      (∀ r, a.result = .ok r → e.settings.policy.isFailure r.status = true) → t.after.cache = t.before.cache) ∧
    ∀ cache, e'.cache = some cache → ∀ entry ∈ cache.store.entries,
      e.settings.policy.isFailure entry.2.value.status = false ∧
      ∃ t ∈ steps, ∃ c call y, t.Stores c call entry.2.kept y ∧ call.target.cacheKey = entry.1 := by
  have hsettings : ∀ t ∈ steps, t.before.settings = e.settings := by
    intro t ht
    obtain ⟨_, _, hbefore, _⟩ := past.split ht
    exact settings_of_history hbefore
  refine ⟨?_, ?_, ?_⟩
  · rintro before t after c x rfl _ hending hcached
    obtain ⟨hbefore, _⟩ := past.cut
    obtain ⟨first, looked, later, call, k, rfl, hlater, hlabel, harrives, hobtained, hlive, hphases, houtcome, hbytes,
      hprotocol⟩ := (Sourced.history hcalls hempty hbefore).served c x hending hcached
    obtain ⟨stored, hstored, c', call', y, hstores, hkey⟩ := hobtained
    obtain ⟨earlier, between, rfl⟩ := List.append_of_mem hstored
    refine ⟨hphases, ⟨_, houtcome⟩, earlier, stored, between, looked, later, c', call, call', k, y, by simp,
      ⟨hlabel, harrives, hlater⟩, ⟨hstores, hkey⟩, hstores.outcome.trans houtcome.symm,
      hstores.bytes.trans hbytes.symm, hstores.protocol.trans hprotocol.symm, ?_⟩
    rw [← hsettings stored (by simp), ← hstores.ttl, ← hstores.storedAt]
    exact Kept.isLive_iff.mp hlive
  · intro t ht c a hlabel hfailure
    obtain ⟨_, _, _, hnow, _, _⟩ := past.split ht
    rw [Next, hlabel] at hnow
    exact cache_of_failure hnow (hsettings t ht ▸ hfailure)
  · intro cache hcache entry hentry
    obtain ⟨t, ht, c, call, y, hstores, hkey⟩ := (Sourced.history hcalls hempty past).entries cache hcache entry hentry
    exact ⟨hsettings t ht ▸ hstores.success, t, ht, c, call, y, hstores, hkey⟩

/-- One call fetches a response, and a second finds it in the cache. -/
def playCached : List ExecutorLabel :=
  let answer : Exchange :=
    { phases := {}, total := ⟨5⟩
      result := .ok { status := 200, headers := [], body := [104, 105], protocol := "HTTP/1.1" } }
  [.call 0 (.start default true 0), .call 0 .lookUp, .call 0 (.reply answer), .call 0 .unlist, .call 0 .leave, .pass ⟨9⟩,
    .call 1 (.start default true 1), .call 1 .lookUp, .call 1 .unlist]

theorem cached_from_network_of_two :
    ∃ (before : List ExecutorTransition) (e₁ e₂ : Executor) (x : Sample),
      ({ settings := {}, cache := some {}, now := ⟨0⟩ } : Executor).History
        (before ++ [⟨e₁, .call 1 .leave, e₂⟩]) e₂ ∧
      e₁.ending? 1 = some (.sample x) ∧ x.fromCache = true ∧
      ∃ stored ∈ before, ∃ c' call' k y, stored.Stores c' call' k y ∧ y.bytes = x.bytes := by
  have hplay : (playFrom happen { settings := {}, cache := some {}, now := ⟨0⟩ } playCached).any (fun r =>
      (r.2.step 1 .leave).isSome && (r.2.ending? 1).any CallEnd.isFromCache) = true := by
    decide +kernel
  obtain ⟨before, e₁, past, hP⟩ := History.exists_of_any hplay
  simp only [Bool.and_eq_true, Option.any_eq_true] at hP
  obtain ⟨hleave, ending, hending, hcached⟩ := hP
  obtain ⟨e₂, hstep⟩ := Option.isSome_iff_exists.mp hleave
  cases ending with
  | sample x =>
    have hwhole : Executor.History _ (before ++ [⟨e₁, .call 1 .leave, e₂⟩]) e₂ := past.step hstep
    obtain ⟨hserved, _⟩ := cached_from_network rfl (fun cache hcache => by cases hcache; rfl) hwhole
    obtain ⟨_, _, earlier, stored, between, looked, later, c', call, call', k, y, hbefore, _, ⟨hstores, _⟩, _, hbytes, _⟩ :=
      hserved before _ [] 1 x rfl rfl hending hcached
    refine ⟨before, e₁, e₂, x, hwhole, hending, hcached, stored, ?_, c', call', k, y, hstores, hbytes⟩
    rw [hbefore]
    simp
  | cut | crash => cases hcached

end Executor

end HttpBench
