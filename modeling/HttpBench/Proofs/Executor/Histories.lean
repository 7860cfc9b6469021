import HttpBench.Proofs.Cache.Entries
import HttpBench.Proofs.Executor.Calls
import HttpBench.Proofs.History

/-!
# Histories of an executor

Whatever many callers do with one executor, in any order and at any time, is a sequence of steps of
their calls, with purges and the passing of time in between. `Executor.StoreChange` says what such a
step does to the store of the cache: it is looked up, a response is put in, or it is purged.
-/

namespace HttpBench

/-- **What can happen to an executor.** -/
inductive ExecutorLabel where
  | call (c : Caller) (label : CallLabel)
  | purge
  | pass (d : Duration)

namespace Executor

/-- **One thing that happens.** -/
def happen (e : Executor) : ExecutorLabel → Option Executor
  | .call c label => e.step c label
  | .purge => some e.purge
  | .pass d => some (e.pass d)

def Next (e : Executor) (label : ExecutorLabel) (e' : Executor) : Prop := e.happen label = some e'

/-- **A history of an executor** from a state on. -/
abbrev History (first : Executor) : List (Transition Executor ExecutorLabel) → Executor → Prop :=
  HttpBench.History Next first

end Executor

/-- **A step of an executor**, with the states around it. -/
abbrev ExecutorTransition := Transition Executor ExecutorLabel

namespace Executor

variable {e e' : Executor} {c : Caller} {label : CallLabel} {cache' : ResponseCache}
  {steps : List ExecutorTransition}

theorem settings_of_history (past : e.History steps e') : e'.settings = e.settings := by
  refine past.invariant (P := fun e' => e'.settings = e.settings) rfl ?_
  intro e₁ label e₂ h hnext
  cases label with
  | call c label => exact (step_settings hnext).trans h
  | purge | pass =>
    obtain rfl := Option.some.inj hnext
    exact h

/-- **What a step of a call does to a store.** -/
inductive StoreChange (e : Executor) (c : Caller) :
    CallLabel → Store CacheKey Response → Store CacheKey Response → Prop
  | same {label : CallLabel} {store : Store CacheKey Response} : StoreChange e c label store store
  | looked {store : Store CacheKey Response} {call : Call} {key : CacheKey} (hcall : e.call? c = some call)
      (hkey : call.key = some key) : StoreChange e c .lookUp store (store.get key e.now).1
  | stored {store : Store CacheKey Response} {call : Call} {key : CacheKey} {x : Exchange} {r : Response}
      (hcall : e.call? c = some call) (hkey : call.key = some key) (hresult : x.result = .ok r)
      (hsuccess : e.settings.policy.isFailure r.status = false) :
      StoreChange e c (.reply x) store (store.put key r e.settings.cacheTtl e.now)

@[simp] theorem cache_setStage (e : Executor) (c : Caller) (call : Call) (stage : CallStage) :
    (e.setStage c call stage).cache = e.cache := rfl

@[simp] theorem cache_dropCall (e : Executor) (c : Caller) : (e.dropCall c).cache = e.cache := rfl

theorem storeChange_changeFills {f : Fills CacheKey → Fills CacheKey} (h : (e.changeFills f).cache = some cache') :
    ∃ cache, e.cache = some cache ∧ StoreChange e c label cache.store cache'.store := by
  obtain ⟨cache, hcache, rfl⟩ := Option.map_eq_some_iff.mp h
  exact ⟨cache, hcache, .same⟩

/-- **A store after a step** of a call. -/
theorem storeChange_of_step (hstep : e.step c label = some e') (hcache : e'.cache = some cache') :
    ∃ cache, e.cache = some cache ∧ StoreChange e c label cache.store cache'.store := by
  cases moves_of_step hstep with
  | @start target useCache sequence =>
    unfold start at hcache
    cases useCache with
    | false => exact ⟨cache', hcache, .same⟩
    | true =>
      cases hcached : e.cache with
      | none =>
        simp only [hcached, if_true] at hcache
        exact ⟨cache', hcached.symm.trans hcache, .same⟩
      | some cache =>
        simp only [hcached, if_true] at hcache
        split at hcache
        · obtain rfl := Option.some.inj hcache
          exact ⟨cache, rfl, .same⟩
        · obtain rfl := Option.some.inj hcache
          exact ⟨cache, rfl, .same⟩
  | ask =>
    unfold ask at hcache
    split at hcache
    next cache hcached =>
      obtain rfl := Option.some.inj hcache
      exact ⟨cache, hcached, .same⟩
    next => exact ⟨cache', hcache, .same⟩
  | lookUp hcall =>
    unfold lookUp at hcache
    split at hcache
    next cache key hcached hkey =>
      obtain rfl := Option.some.inj hcache
      exact ⟨cache, hcached, .looked hcall hkey⟩
    next => exact ⟨cache', hcache, .same⟩
  | reply hcall =>
    rw [cache_setStage] at hcache
    unfold keep at hcache
    split at hcache
    next cache key r hcached hkey hresult =>
      split_ifs at hcache with hfailure
      · exact ⟨cache', hcache, .same⟩
      · obtain rfl := Option.some.inj hcache
        exact ⟨cache, hcached, .stored hcall hkey hresult (Bool.eq_false_iff.mpr hfailure)⟩
    next => exact ⟨cache', hcache, .same⟩
  | resume | cutWaiting | unlist =>
    rw [cache_setStage] at hcache
    exact storeChange_changeFills hcache
  | leaveLead =>
    rw [cache_dropCall] at hcache
    exact storeChange_changeFills hcache
  | cutFetching | crash | leave => exact ⟨cache', hcache, .same⟩

/-- **An executor with a cache** keeps one. -/
theorem exists_cache_of_step {cache : ResponseCache} (hstep : e.step c label = some e') (hcache : e.cache = some cache) :
    ∃ cache', e'.cache = some cache' := by
  have hfills : ∀ f, ∃ cache', (e.changeFills f).cache = some cache' := fun f =>
    ⟨_, by rw [changeFills, hcache, Option.map_some]⟩
  cases moves_of_step hstep with
  | start =>
    unfold start
    split
    · exact ⟨cache, hcache⟩
    · dsimp only
      split <;> exact ⟨_, rfl⟩
  | ask =>
    simp only [ask, hcache]
    exact ⟨_, rfl⟩
  | lookUp =>
    unfold lookUp
    split
    · exact ⟨_, rfl⟩
    · exact ⟨cache, hcache⟩
  | reply =>
    rw [cache_setStage]
    unfold keep
    split
    · split_ifs
      · exact ⟨cache, hcache⟩
      · exact ⟨_, rfl⟩
    · exact ⟨cache, hcache⟩
  | resume | cutWaiting | unlist =>
    rw [cache_setStage]
    exact hfills _
  | leaveLead =>
    rw [cache_dropCall]
    exact hfills _
  | cutFetching | crash | leave => exact ⟨cache, hcache⟩

end Executor

end HttpBench
