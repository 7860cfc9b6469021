import HttpBench.Proofs.Executor.Histories
import HttpBench.Proofs.Executor.OneFill

/-!
# Lookups and what becomes of them

A call that uses the cache looks its key up once. A hit ends it with a sample from the cache; a miss
gives it to the transport, which answers it, unless it is cut off or the transport takes its caller
down. `CallStage.Passes` lists the ways from one stage to the next. Two accounts are settled by each
of them:

* what is on its way through the cache is served, is given to the transport, or is cut off before it
  has looked anything up (`step_seeking`);
* what the transport has is answered, cut off or lost in a crash (`step_fetching`).

The counters of the store know only hits and misses. A hit is the arrival of a sample from the cache,
and a miss is a call that the transport gets (`step_counts`).
-/

namespace HttpBench

namespace CallLabel

def isStart : CallLabel → Bool
  | .start .. => true
  | _ => false

def isCut : CallLabel → Bool
  | .cut => true
  | _ => false

def isCrash : CallLabel → Bool
  | .crash => true
  | _ => false

end CallLabel

/-- **How a call passes from one stage to the next**, or begins, or goes. -/
inductive CallStage.Passes : CallLabel → Option CallStage → Option CallStage → Prop
  | fetch {target : Target} {useCache : Bool} {n : Nat} : Passes (.start target useCache n) none (some .fetching)
  | seek {target : Target} {useCache : Bool} {n : Nat} {stage : CallStage} (hcached : stage.isCached = true) :
      Passes (.start target useCache n) none (some stage)
  | ask {slot : Nat} {stage : CallStage} (hcached : stage.isCached = true) :
      Passes .ask (some (.following slot)) (some stage)
  | resume {slot : Nat} : Passes .resume (some (.waiting slot)) (some .looking)
  | miss : Passes .lookUp (some .looking) (some .fetching)
  | hit {x : Sample} (hcached : x.fromCache = true) : Passes .lookUp (some .looking) (some (.closing (.sample x)))
  | reply {answer : Exchange} {x : Sample} (hfetched : x.fromCache = false) :
      Passes (.reply answer) (some .fetching) (some (.closing (.sample x)))
  | cutWaiting {slot : Nat} : Passes .cut (some (.waiting slot)) (some (.closing .cut))
  | cutFetching : Passes .cut (some .fetching) (some (.closing .cut))
  | crash : Passes .crash (some .fetching) (some (.closing .crash))
  | unlist {ending : CallEnd} : Passes .unlist (some (.closing ending)) (some (.unlisted ending))
  | leave {stage : CallStage} {ending : CallEnd} (hending : stage.ending? = some ending) :
      Passes .leave (some stage) none

namespace Store

variable {K V : Type} [DecidableEq K]

/-- **A look-up counts as a hit or as a miss**, by what it finds. -/
theorem get_counts (s : Store K V) (key : K) (now : Instant) :
    (s.get key now).1.hits = s.hits + (s.get key now).2.isSome.toNat ∧
      (s.get key now).1.misses = s.misses + (s.get key now).2.isNone.toNat := by
  unfold get
  split
  next => exact ⟨rfl, rfl⟩
  next => split <;> exact ⟨rfl, rfl⟩

theorem makeRoom_counts (s : Store K V) (now : Instant) :
    (s.makeRoom now).hits = s.hits ∧ (s.makeRoom now).misses = s.misses := by
  simp only [makeRoom]
  split
  · exact ⟨rfl, rfl⟩
  · split <;> exact ⟨rfl, rfl⟩

/-- To store a value looks nothing up. -/
theorem put_counts (s : Store K V) (key : K) (value : V) (ttl : Duration) (now : Instant) :
    (s.put key value ttl now).hits = s.hits ∧ (s.put key value ttl now).misses = s.misses := by
  rw [put_eq]
  unfold room
  split
  · exact s.makeRoom_counts now
  · exact ⟨rfl, rfl⟩

end Store

namespace Executor

variable {e e' : Executor} {c : Caller} {call : Call} {label : CallLabel} {cache : ResponseCache}

/-- **The call of a caller has its look-up to come.** -/
def isSeeking (e : Executor) (c : Caller) : Bool := (e.stage? c).any CallStage.isCached

theorem stage?_of_call? (h : e.call? c = some call) : e.stage? c = some call.stage := by rw [stage?, h, Option.map_some]

theorem stage?_of_none (h : e.call? c = none) : e.stage? c = none := by rw [stage?, h, Option.map_none]

theorem stage?_setCall (e : Executor) (c : Caller) (call : Call) : (e.setCall c call).stage? c = some call.stage := by
  rw [stage?, call?_setCall, if_pos rfl, Option.map_some]

theorem stage?_setStage (e : Executor) (c : Caller) (call : Call) (stage : CallStage) :
    (e.setStage c call stage).stage? c = some stage :=
  stage?_setCall e c _

theorem stage?_dropCall (e : Executor) (c : Caller) : (e.dropCall c).stage? c = none := by
  rw [stage?, call?_dropCall, if_pos rfl, Option.map_none]

/-- **A call that begins** is fetched, or has its look-up to come. -/
theorem stage?_start (e : Executor) (c : Caller) (target : Target) (useCache : Bool) (sequence : Nat) :
    ∃ stage, (e.start c target useCache sequence).stage? c = some stage ∧
      (stage = .fetching ∨ stage.isCached = true) := by
  unfold start
  split
  · exact ⟨_, stage?_setCall _ _ _, .inl rfl⟩
  · dsimp only
    split <;> exact ⟨_, stage?_setCall _ _ _, .inr rfl⟩

/-- **A look-up** ends the call with a sample from the cache, or gives it to the transport. -/
theorem stage?_lookUp (e : Executor) (c : Caller) (call : Call) :
    ∃ stage, (e.lookUp c call).stage? c = some stage ∧
      (stage = .fetching ∨ ∃ x : Sample, x.fromCache = true ∧ stage = .closing (.sample x)) := by
  unfold lookUp
  split
  · refine ⟨_, stage?_setStage _ _ _ _, ?_⟩
    split
    · exact .inr ⟨_, rfl, rfl⟩
    · exact .inl rfl
  · exact ⟨_, stage?_setStage _ _ _ _, .inl rfl⟩

/-- **A step takes the call of its caller on** in one of these ways. -/
theorem passes_of_step (h : e.step c label = some e') : CallStage.Passes label (e.stage? c) (e'.stage? c) := by
  cases moves_of_step h with
  | start hnone =>
    obtain ⟨stage, hafter, hstage⟩ := stage?_start e c _ _ _
    rw [stage?_of_none hnone, hafter]
    rcases hstage with rfl | hcached
    · exact .fetch
    · exact .seek hcached
  | @ask call slot hcall hstage =>
    obtain ⟨cache, stage, heq, hafter⟩ := ask_eq e c call slot
    rw [stage?_of_call? hcall, hstage, heq, stage?_setStage]
    exact .ask (by rcases hafter with rfl | rfl <;> rfl)
  | @lookUp call hcall hstage =>
    obtain ⟨stage, hafter, hfound⟩ := stage?_lookUp e c call
    rw [stage?_of_call? hcall, hstage, hafter]
    rcases hfound with rfl | ⟨x, hcached, rfl⟩
    · exact .miss
    · exact .hit hcached
  | reply hcall hstage =>
    rw [stage?_of_call? hcall, hstage, stage?_setStage]
    exact .reply rfl
  | resume hcall hstage =>
    rw [stage?_of_call? hcall, hstage, stage?_setStage]
    exact .resume
  | cutWaiting hcall hstage =>
    rw [stage?_of_call? hcall, hstage, stage?_setStage]
    exact .cutWaiting
  | cutFetching hcall hstage =>
    rw [stage?_of_call? hcall, hstage, stage?_setStage]
    exact .cutFetching
  | crash hcall hstage =>
    rw [stage?_of_call? hcall, hstage, stage?_setStage]
    exact .crash
  | unlist hcall hstage =>
    rw [stage?_of_call? hcall, hstage, stage?_setStage]
    exact .unlist
  | leave hcall hstage | leaveLead hcall hstage =>
    rw [stage?_of_call? hcall, hstage, stage?_dropCall]
    exact .leave rfl

/-! ## The two accounts -/

/-- **What the transport has** it answers, or it is cut off or lost in a crash. -/
theorem step_fetching (h : e.step c label = some e') :
    (e.isFetching c).toNat + (e.fetchesIn c e').toNat =
      (e'.isFetching c).toNat + figureOf Sample.networkCount (e.arrived? c e') +
        (label.isCut && e.isFetching c).toNat + label.isCrash.toNat := by
  have hpasses := passes_of_step h
  simp only [isFetching, fetchesIn, arrived?, ending?]
  generalize e.stage? c = before at hpasses
  generalize e'.stage? c = after at hpasses
  cases hpasses with
  | seek hcached | ask hcached =>
    rename_i stage
    cases stage <;> cases hcached <;> rfl
  | hit hx | reply hx => simp [CallStage.ending?, CallLabel.isCut, CallLabel.isCrash, figureOf, Sample.networkCount, hx]
  | @leave stage ending hending => cases stage <;> cases hending <;> rfl
  | unlist => rename_i ending; cases ending <;> rfl
  | fetch | resume | miss | cutWaiting | cutFetching | crash => rfl

/-- **What is on its way through the cache** is served from it, is given to the transport, or is cut
off before its look-up. -/
theorem step_seeking (h : e.step c label = some e') :
    (e.isSeeking c).toNat + label.isStart.toNat =
      (e'.isSeeking c).toNat + (e.fetchesIn c e').toNat + figureOf Sample.servedCount (e.arrived? c e') +
        (label.isCut && !e.isFetching c).toNat := by
  have hpasses := passes_of_step h
  simp only [isSeeking, isFetching, fetchesIn, arrived?, ending?]
  generalize e.stage? c = before at hpasses
  generalize e'.stage? c = after at hpasses
  cases hpasses with
  | seek hcached | ask hcached =>
    rename_i stage
    cases stage <;> cases hcached <;> rfl
  | hit hx | reply hx =>
    simp [CallStage.ending?, CallStage.isCached, CallLabel.isCut, CallLabel.isStart, figureOf, Sample.servedCount, hx]
  | @leave stage ending hending => cases stage <;> cases hending <;> rfl
  | unlist => rename_i ending; cases ending <;> rfl
  | fetch | resume | miss | cutWaiting | cutFetching | crash => rfl

/-! ## The counters of the store -/

/-- The counters of one store stand as those of another. -/
def SameCounts (cache cache' : ResponseCache) : Prop :=
  cache'.store.hits = cache.store.hits ∧ cache'.store.misses = cache.store.misses

/-- **A step that looks nothing up** leaves the counters alone, as long as there is a cache. -/
theorem step_sameCounts (h : e.step c label = some e') (hlookUp : label ≠ .lookUp) (hcache : e.cache = some cache)
    (hstart : ∀ t u n, label = .start t u n → u = true) :
    ∃ cache', e'.cache = some cache' ∧ SameCounts cache cache' := by
  have hfills : ∀ f, (e.changeFills f).cache = some { cache with fills := f cache.fills } := by
    intro f
    rw [changeFills, hcache, Option.map_some]
  cases moves_of_step h with
  | @start target useCache n =>
    obtain rfl := hstart _ _ _ rfl
    obtain ⟨fills, call, heq, _⟩ := start_cached hcache c target n
    rw [heq]
    exact ⟨_, rfl, rfl, rfl⟩
  | ask =>
    simp only [ask, hcache]
    exact ⟨_, rfl, rfl, rfl⟩
  | lookUp => exact absurd rfl hlookUp
  | @reply call x =>
    rw [cache_setStage]
    unfold keep
    split
    next cache₁ key r hcache₁ _ _ =>
      obtain rfl := Option.some.inj (hcache.symm.trans hcache₁)
      split_ifs
      · exact ⟨cache, hcache, rfl, rfl⟩
      · exact ⟨_, rfl, cache.store.put_counts ..⟩
    next => exact ⟨cache, hcache, rfl, rfl⟩
  | resume | cutWaiting | unlist =>
    rw [cache_setStage, hfills]
    exact ⟨_, rfl, rfl, rfl⟩
  | leaveLead =>
    rw [cache_dropCall, hfills]
    exact ⟨_, rfl, rfl, rfl⟩
  | cutFetching | crash | leave => exact ⟨cache, hcache, rfl, rfl⟩

/-- **A step that looks nothing up** neither fetches nor serves anything. -/
theorem step_idle (h : e.step c label = some e') (hlookUp : label ≠ .lookUp)
    (hstart : label.isStart = true → e'.isSeeking c = true) :
    e.fetchesIn c e' = false ∧ figureOf Sample.servedCount (e.arrived? c e') = 0 := by
  have hpasses := passes_of_step h
  simp only [isSeeking, isFetching, fetchesIn, arrived?, ending?] at hstart ⊢
  generalize e.stage? c = before at hpasses hstart
  generalize e'.stage? c = after at hpasses hstart
  cases hpasses with
  | fetch => cases hstart rfl
  | seek hcached | ask hcached =>
    rename_i stage
    cases stage <;> cases hcached <;> exact ⟨rfl, rfl⟩
  | miss | hit => exact absurd rfl hlookUp
  | reply hx => simp [CallStage.ending?, figureOf, Sample.servedCount, hx]
  | @leave stage ending hending => cases stage <;> cases hending <;> exact ⟨rfl, rfl⟩
  | unlist => rename_i ending; cases ending <;> exact ⟨rfl, rfl⟩
  | resume | cutWaiting | cutFetching | crash => exact ⟨rfl, rfl⟩

/-- **The counters agree with the calls**: a hit is a sample from the cache that arrives, a miss a call
that the transport gets. -/
theorem step_counts (h : e.step c label = some e') (hcache : e.cache = some cache)
    (hkeys : ∀ call, e.call? c = some call → call.key ≠ none) (hstart : ∀ t u n, label = .start t u n → u = true) :
    ∃ cache', e'.cache = some cache' ∧
      cache'.store.hits = cache.store.hits + figureOf Sample.servedCount (e.arrived? c e') ∧
      cache'.store.misses = cache.store.misses + (e.fetchesIn c e').toNat := by
  by_cases hlookUp : label = .lookUp
  · subst hlookUp
    cases moves_of_step h with
    | @lookUp call hcall hstage =>
      obtain ⟨key, hkey⟩ := Option.ne_none_iff_exists'.mp (hkeys call hcall)
      obtain ⟨hhits, hmisses⟩ := cache.store.get_counts key e.now
      have hbefore : e.stage? c = some .looking := by rw [stage?_of_call? hcall, hstage]
      simp only [lookUp, hcache, hkey]
      refine ⟨_, rfl, ?_, ?_⟩
      · rw [hhits]
        cases (cache.store.get key e.now).2 <;>
          simp [arrived?, ending?, hbefore, stage?_setStage, CallStage.ending?, figureOf, Sample.servedCount,
            Sample.ofCached]
      · rw [hmisses]
        cases (cache.store.get key e.now).2 <;> simp [fetchesIn, isFetching, hbefore, stage?_setStage]
  · obtain ⟨cache', hcache', hhits, hmisses⟩ := step_sameCounts h hlookUp hcache hstart
    have hseeking : label.isStart = true → e'.isSeeking c = true := by
      intro hlabel
      cases moves_of_step h with
      | @start target useCache n =>
        obtain rfl := hstart _ _ _ rfl
        obtain ⟨fills, call, heq, _, hstage⟩ := start_cached hcache c target n
        rw [heq, isSeeking, stage?_setCall]
        rcases hstage with hstage | ⟨slot, hstage⟩ <;> rw [hstage] <;> rfl
      | _ => cases hlabel
    obtain ⟨hfetch, hserved⟩ := step_idle h hlookUp hseeking
    rw [hfetch, hserved]
    exact ⟨cache', hcache', hhits, hmisses⟩

end Executor

end HttpBench
