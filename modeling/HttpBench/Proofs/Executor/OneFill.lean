import HttpBench.Proofs.Cache.Entries
import HttpBench.Proofs.Executor.Roles

/-!
# One fetch for everybody

All calls of an executor ask for one key, which is not in its cache at first; every answer may be
stored and lives long enough, and nobody is cut off or taken down. Then one call fetches, whatever
the order in which the calls get on (`OneFill.step`):

1. nobody has called yet;
2. the first caller leads, looks the key up and fetches. Its slot is on the table, so all others
   follow, and as it has the lock they wait;
3. its answer is stored before it takes its slot off the table, and long before it gives the lock
   up. So whoever looks the key up from then on finds it, as a follower or as a new leader.
-/

namespace HttpBench

/-! ## A store of one entry -/

namespace Store

variable {K V : Type} {s : Store K V} {key : K} {entry : Stored V} {now : Instant}

variable [DecidableEq K]

theorem get_of_single (h : s.entries = [(key, entry)]) (hlive : entry.isExpired now = false) :
    s.get key now =
      ({ s with entries := [(key, { entry with lastUse := s.nextUse })], nextUse := s.nextUse + 1, hits := s.hits + 1 },
        some entry.value) := by
  simp [get, find?, h, hlive]

theorem put_of_nil (h : s.entries = []) (key : K) (value : V) (ttl : Duration) (now : Instant) :
    s.put key value ttl now =
      { s with
        entries := [(key, { value, storedAt := now, ttl, lastUse := s.nextUse })]
        nextUse := s.nextUse + 1
        insertions := s.insertions + 1 } := by
  have hroom : s.room key now = s := by
    rw [room]
    split
    · exact makeRoom_of_nil h
    · rfl
  rw [put_eq, hroom, h]
  rfl

end Store

/-- What was stored after `first` lives, as long as its time to live has not gone by since then. -/
theorem Stored.isExpired_eq_false {V : Type} {entry : Stored V} {first now : Instant}
    (hfirst : first.nanos ≤ entry.storedAt.nanos) (hnow : (now.since first).nanos < entry.ttl.nanos) :
    entry.isExpired now = false := by
  have hage : (now.since entry.storedAt).nanos < entry.ttl.nanos := by
    simp only [Instant.since] at hnow ⊢
    omega
  exact decide_eq_false (Nat.not_le_of_lt hage)

namespace Sample

/-- One for a sample from the network. -/
def networkCount (x : Sample) : Nat := if x.fromCache then 0 else 1

/-- One for a sample from the cache. -/
def servedCount (x : Sample) : Nat := if x.fromCache then 1 else 0

end Sample

namespace Executor

variable {e e' : Executor} {c : Caller} {label : CallLabel}

/-- **The entry is there**: it was stored after `first`, nobody fetches any more, and everybody but
the leader has been served from the cache. -/
structure Filled (key : CacheKey) (first : Instant) (hits misses served : Nat) (e : Executor) (cache : ResponseCache)
    (entry : Stored Response) : Prop where
  there : e.cache = some cache
  only : cache.store.entries = [(key, entry)]
  after : first.nanos ≤ entry.storedAt.nanos
  ttl : entry.ttl = e.settings.cacheTtl
  idle : ∀ c call, e.call? c = some call → call.stage ≠ .fetching
  hits : cache.store.hits = hits + served
  misses : cache.store.misses = misses + 1

/-- **How far the fetch of a key has got**, with the number of fetches so far, of the samples that came
from the network, and of those that came from the cache. -/
inductive OneFill (key : CacheKey) (first : Instant) (hits misses : Nat) (e : Executor) : Nat → Nat → Nat → Prop
  | untouched {cache : ResponseCache} (hcache : e.cache = some cache) (hnobody : ∀ c, e.call? c = none)
      (hempty : cache.store.entries = []) (hhits : cache.store.hits = hits) (hmisses : cache.store.misses = misses) :
      OneFill key first hits misses e 0 0 0
  | led {cache : ResponseCache} (leader : Caller) (call : Call) {slot fetches : Nat} (hcache : e.cache = some cache)
      (hleader : e.call? leader = some call) (hleads : call.leads = some slot)
      (hstage : call.stage = .looking ∧ fetches = 0 ∨ call.stage = .fetching ∧ fetches = 1)
      (hothers : ∀ c other, c ≠ leader → e.call? c = some other →
        other.stage = .following slot ∨ other.stage = .waiting slot)
      (hempty : cache.store.entries = []) (hhits : cache.store.hits = hits)
      (hmisses : cache.store.misses = misses + fetches) :
      OneFill key first hits misses e fetches 0 0
  | filled {cache : ResponseCache} {entry : Stored Response} {served : Nat}
      (h : Filled key first hits misses served e cache entry) :
      OneFill key first hits misses e 1 1 served

variable {key : CacheKey} {first : Instant} {hits misses fetches network served : Nat} {call : Call}
  {cache : ResponseCache} {entry : Stored Response}

/-! ## Once the entry is there -/

namespace Filled

theorem setCall (h : Filled key first hits misses served e cache entry) (fills : Fills CacheKey) (c : Caller)
    (hcall : call.stage ≠ .fetching) :
    Filled key first hits misses served (Executor.setCall { e with cache := some { cache with fills } } c call)
      { cache with fills } entry := by
  refine ⟨rfl, h.only, h.after, h.ttl, fun v other hother => ?_, h.hits, h.misses⟩
  rw [call?_setCall] at hother
  split at hother
  · exact Option.some.inj hother ▸ hcall
  · exact h.idle v other hother

/-- A call may get on in any way that does not fetch. -/
theorem changeFills_setStage (h : Filled key first hits misses served e cache entry) {stage : CallStage}
    (f : Fills CacheKey → Fills CacheKey) (c : Caller) (call : Call) (hstage : stage ≠ .fetching) :
    Filled key first hits misses served ((e.changeFills f).setStage c call stage)
      { cache with fills := f cache.fills } entry := by
  have hchange : e.changeFills f = { e with cache := some { cache with fills := f cache.fills } } := by
    simp [changeFills, h.there]
  rw [hchange]
  exact h.setCall _ c hstage

theorem dropCall (h : Filled key first hits misses served e cache entry) (c : Caller) :
    Filled key first hits misses served (e.dropCall c) cache entry := by
  refine ⟨h.there, h.only, h.after, h.ttl, fun v other hother => ?_, h.hits, h.misses⟩
  rw [call?_dropCall] at hother
  split at hother
  · cases hother
  · exact h.idle v other hother

theorem changeFills (h : Filled key first hits misses served e cache entry) (f : Fills CacheKey → Fills CacheKey) :
    Filled key first hits misses served (e.changeFills f) { cache with fills := f cache.fills } entry :=
  ⟨by simp [Executor.changeFills, h.there], h.only, h.after, h.ttl, h.idle, h.hits, h.misses⟩

/-- The entry lives as long as its time to live has not gone by since `first`. -/
theorem live (h : Filled key first hits misses served e cache entry)
    (hlive : (e.now.since first).nanos < e.settings.cacheTtl.nanos) : entry.isExpired e.now = false :=
  Stored.isExpired_eq_false h.after (h.ttl ▸ hlive)

end Filled

namespace OneFill

/-- **A call that begins** leads if it is the first, and follows as long as that one fetches. -/
theorem start (h : OneFill key first hits misses e fetches network served) (horderly : e.Orderly)
    (hcall : e.call? c = none) {target : Target} (htarget : target.cacheKey = key) (sequence : Nat)
    (hkeys : ∀ c call, e.call? c = some call → call.key = some key) :
    OneFill key first hits misses (e.start c target true sequence) fetches network served := by
  have hrole := role_of_none hcall
  subst htarget
  cases h with
  | @untouched cache hcache hnobody hempty hhits hmisses =>
    have hfits : cache.fills.Fits e.role := horderly.fits (by rw [fills?, hcache]; rfl)
    have hslot : cache.fills.slotOf? target.cacheKey = none :=
      hfits.slotOf?_eq_none fun v n hv => by rw [role_of_none (hnobody v)] at hv; cases hv
    simp only [Executor.start, if_true, hcache, Fills.claim_of_none hslot]
    refine .led c _ rfl (by rw [call?_setCall, if_pos rfl]) rfl (.inl ⟨rfl, rfl⟩) (fun v other hv hother => ?_)
      hempty hhits hmisses
    rw [call?_setCall, if_neg hv, call?_withCache, hnobody] at hother
    cases hother
  | @led cache leader call slot _ hcache hleader hleads hstage hothers hempty hhits hmisses =>
    have hfits : cache.fills.Fits e.role := horderly.fits (by rw [fills?, hcache]; rfl)
    have hlead : e.role leader = .leads target.cacheKey slot := by
      have hplain : call.stage.isPlain = true := by rcases hstage with ⟨hs, _⟩ | ⟨hs, _⟩ <;> rw [hs] <;> rfl
      rw [role_of_call? hleader, Call.role_eq call hplain, Call.listedRole, hleads, hkeys leader call hleader]
    have hne : leader ≠ c := fun hlc => by rw [hlc, hcall] at hleader; cases hleader
    simp only [Executor.start, if_true, hcache, Fills.claim_of_some (hfits.slotOf?_of_leads hlead)]
    refine .led leader _ rfl (by rw [call?_setCall, if_neg hne]; exact hleader) hleads hstage
      (fun v other hv hother => ?_) hempty hhits hmisses
    rw [call?_setCall] at hother
    split at hother
    · exact .inl (Option.some.inj hother ▸ rfl)
    · exact hothers v other hv hother
  | filled h =>
    -- whoever begins now may lead or follow, and finds the entry either way
    obtain ⟨fills, call, heq, _, hstage⟩ := start_cached h.there c target sequence
    rw [heq]
    exact .filled (h.setCall fills c (by rcases hstage with hs | ⟨slot, hs⟩ <;> simp [hs]))

/-- **A follower that asks for its lock** waits as long as the leader fetches. -/
theorem ask (h : OneFill key first hits misses e fetches network served) (horderly : e.Orderly)
    (hcall : e.call? c = some call) {slot : Nat} (hstage : call.stage = .following slot) :
    OneFill key first hits misses (e.ask c call slot) fetches network served := by
  cases h with
  | untouched _ hnobody =>
    rw [hnobody] at hcall
    cases hcall
  | @led cache leader lead slot' _ hcache hleader hleads hlead hothers hempty hhits hmisses =>
    have hne : c ≠ leader := by
      rintro rfl
      obtain rfl := Option.some.inj (hleader.symm.trans hcall)
      simp [hstage] at hlead
    obtain rfl : slot' = slot := by simpa [hstage, eq_comm] using hothers c call hne hcall
    have hfits : cache.fills.Fits e.role := horderly.fits (by rw [fills?, hcache]; rfl)
    obtain ⟨s, hs, _⟩ := hfits.holds.mp (horderly.holds_of_leads hleader hleads)
    have hrole : e.role c = .none := by
      have hformed := horderly.formed hcall
      rw [role_of_call? hcall, Call.role_eq call (by rw [hstage]; rfl), Call.listedRole_of_leads_none call
        (hformed.leads_eq_none (by rw [hstage]; rfl))]
    obtain ⟨hsettle, _⟩ := hfits.settle hs hrole
    simp only [Executor.ask, hcache, hsettle]
    refine .led leader _ rfl (by rw [call?_setStage, if_neg (Ne.symm hne)]; exact hleader) hleads hlead
      (fun v other hv hother => ?_) hempty hhits hmisses
    rw [call?_setStage] at hother
    split at hother
    · exact .inr (Option.some.inj hother ▸ rfl)
    · exact hothers v other hv hother
  | filled h =>
    unfold Executor.ask
    simp only [h.there]
    generalize Fills.settle _ slot c = settled
    obtain ⟨fills, through⟩ := settled
    exact .filled (h.setCall fills c (by cases through <;> simp))

/-- **A look-up** misses only for the leader, and finds the entry once it is there. -/
theorem lookUp (h : OneFill key first hits misses e fetches network served) (hcall : e.call? c = some call)
    (hstage : call.stage = .looking) (hkey : call.key = some key)
    (hlive : (e.now.since first).nanos < e.settings.cacheTtl.nanos) :
    OneFill key first hits misses (e.lookUp c call)
      (fetches + if e.fetchesIn c (e.lookUp c call) then 1 else 0)
      (network + figureOf Sample.networkCount (e.arrived? c (e.lookUp c call)))
      (served + figureOf Sample.servedCount (e.arrived? c (e.lookUp c call))) := by
  have hbefore : e.ending? c = none := by simp [ending?_eq, hcall, hstage, CallStage.ending?]
  have hidle : e.isFetching c = false := by simp [isFetching, stage?, hcall, hstage]
  cases h with
  | untouched _ hnobody =>
    rw [hnobody] at hcall
    cases hcall
  | @led cache leader lead slot _ hcache hleader hleads hlead hothers hempty hhits hmisses =>
    obtain rfl : c = leader := by
      by_contra hne
      simpa [hstage] using hothers c call hne hcall
    obtain rfl := Option.some.inj (hleader.symm.trans hcall)
    obtain ⟨_, rfl⟩ : lead.stage = .looking ∧ fetches = 0 := by simpa [hstage] using hlead
    have hmissing : cache.store.find? key = none := by rw [Store.find?, hempty]; rfl
    have heq : e.lookUp c lead = Executor.setStage
        { e with cache := some { cache with store := { cache.store with misses := cache.store.misses + 1 } } } c lead
          .fetching := by
      simp [Executor.lookUp, hcache, hkey, Store.get_of_none hmissing]
    have hafter : (e.lookUp c lead).ending? c = none := by
      rw [heq, ending?_eq, call?_setStage, if_pos rfl]
      rfl
    have hfetch : e.fetchesIn c (e.lookUp c lead) = true := by
      have hnow : (e.lookUp c lead).isFetching c = true :=
        isFetching_eq_true.mpr ⟨_, by rw [heq, call?_setStage, if_pos rfl], rfl⟩
      simp [fetchesIn, hidle, hnow]
    have hnone : e.arrived? c (e.lookUp c lead) = none := arrived?_eq_none fun x hx => by simp [hafter] at hx
    rw [hfetch, hnone, heq]
    refine .led c { lead with stage := .fetching } rfl (by rw [call?_setStage, if_pos rfl]) hleads (.inr ⟨rfl, rfl⟩) ?_
      hempty hhits (by simp [hmisses])
    intro v other hv hother
    rw [call?_setStage, if_neg hv] at hother
    exact hothers v other hv hother
  | @filled cache entry _ h =>
    have hget := Store.get_of_single h.only (h.live hlive)
    obtain ⟨x, hx, heq⟩ : ∃ x : Sample, x.fromCache = true ∧ e.lookUp c call = Executor.setStage
        { e with cache := some { cache with store := { cache.store with
            entries := [(key, { entry with lastUse := cache.store.nextUse })]
            nextUse := cache.store.nextUse + 1
            hits := cache.store.hits + 1 } } } c call (.closing (.sample x)) := by
      refine ⟨.ofCached e.settings.policy call.sequence entry.value (e.now.since call.started), rfl, ?_⟩
      simp [Executor.lookUp, h.there, hkey, hget]
    have hafter : (e.lookUp c call).ending? c = some (.sample x) := by
      rw [heq, ending?_eq, call?_setStage, if_pos rfl]
      rfl
    have hfetch : e.fetchesIn c (e.lookUp c call) = false :=
      fetchesIn_eq_false (by rw [heq]; simp [isFetching, stage?])
    have harrived : e.arrived? c (e.lookUp c call) = some x := by simp [arrived?, hbefore, hafter]
    rw [hfetch, harrived, heq]
    simp only [figureOf, Sample.networkCount, Sample.servedCount, Option.elim_some, hx, if_true]
    refine .filled ⟨rfl, rfl, h.after, h.ttl, fun v other hother => ?_, by simp [h.hits, Nat.add_assoc], h.misses⟩
    rw [call?_setStage] at hother
    split at hother
    · exact Option.some.inj hother ▸ by simp
    · exact h.idle v other hother

/-- **The answer** comes to the leader, and is stored at once. -/
theorem reply (h : OneFill key first hits misses e fetches network served) (hcall : e.call? c = some call)
    (hstage : call.stage = .fetching) (hkey : call.key = some key) (hfirst : first.nanos ≤ e.now.nanos)
    {x : Exchange} {r : Response} (hr : x.result = .ok r) (hsuccess : e.settings.policy.isFailure r.status = false)
    (hnew : e' = (e.keep call x).setStage c call (.closing (.sample (.ofExchange e.settings.policy call.sequence x)))) :
    OneFill key first hits misses e' (fetches + if e.fetchesIn c e' then 1 else 0)
      (network + figureOf Sample.networkCount (e.arrived? c e'))
      (served + figureOf Sample.servedCount (e.arrived? c e')) := by
  have hbefore : e.ending? c = none := by simp [ending?_eq, hcall, hstage, CallStage.ending?]
  have hafter : e'.ending? c = some (.sample (.ofExchange e.settings.policy call.sequence x)) := by
    rw [hnew, ending?_eq, call?_setStage, if_pos rfl]
    rfl
  have hfetch : e.fetchesIn c e' = false := fetchesIn_eq_false (by rw [hnew]; simp [isFetching, stage?])
  have harrived : e.arrived? c e' = some (.ofExchange e.settings.policy call.sequence x) := by
    simp [arrived?, hbefore, hafter]
  rw [hfetch, harrived]
  cases h with
  | untouched _ hnobody =>
    rw [hnobody] at hcall
    cases hcall
  | filled h => exact absurd hstage (h.idle c call hcall)
  | @led cache leader lead slot _ hcache hleader hleads hlead hothers hempty hhits hmisses =>
    obtain rfl : c = leader := by
      by_contra hne
      simpa [hstage] using hothers c call hne hcall
    obtain rfl := Option.some.inj (hleader.symm.trans hcall)
    obtain ⟨_, rfl⟩ : lead.stage = .fetching ∧ fetches = 1 := by simpa [hstage] using hlead
    rw [hnew]
    simp only [keep, hcache, hkey, hr, hsuccess, Store.put_of_nil hempty]
    refine .filled ⟨rfl, rfl, hfirst, rfl, fun v other hother => ?_, hhits, hmisses⟩
    rw [call?_setStage] at hother
    split at hother
    · exact Option.some.inj hother ▸ by simp
    next hv =>
      have hstage' := hothers v other hv hother
      rintro hf
      simp [hf] at hstage'

/-- Every call that is not with the transport, and comes to no sample, brings nothing. -/
theorem of_quiet (h : OneFill key first hits misses e' fetches network served) (hfetch : e'.isFetching c = false)
    (harrived : ∀ x, e'.ending? c = some (.sample x) → e.ending? c ≠ none) :
    OneFill key first hits misses e' (fetches + if e.fetchesIn c e' then 1 else 0)
      (network + figureOf Sample.networkCount (e.arrived? c e'))
      (served + figureOf Sample.servedCount (e.arrived? c e')) := by
  rw [fetchesIn_eq_false hfetch, arrived?_eq_none harrived]
  exact h

/-- There is a cache. -/
theorem exists_cache (h : OneFill key first hits misses e fetches network served) : ∃ cache, e.cache = some cache := by
  cases h with
  | untouched hcache | led _ _ hcache => exact ⟨_, hcache⟩
  | filled h => exact ⟨_, h.there⟩

/-- **No call has got further than the leader** before the entry is there. -/
theorem filled_of_call (h : OneFill key first hits misses e fetches network served) (hcall : e.call? c = some call)
    (hahead : call.stage.ending? ≠ none ∨ ∃ slot, call.stage = .waiting slot ∧ ∀ v other, e.call? v = some other →
      other.leads ≠ some slot) :
    fetches = 1 ∧ network = 1 ∧ ∃ cache entry, Filled key first hits misses served e cache entry := by
  cases h with
  | untouched _ hnobody =>
    rw [hnobody] at hcall
    cases hcall
  | led leader lead hcache hleader hleads hlead hothers =>
    exfalso
    by_cases hc : c = leader
    · subst hc
      obtain rfl := Option.some.inj (hleader.symm.trans hcall)
      rcases hlead with ⟨hs, _⟩ | ⟨hs, _⟩ <;> simp [hs, CallStage.ending?] at hahead
    · rcases hothers c call hc hcall with hs | hs
      · simp [hs, CallStage.ending?] at hahead
      · rcases hahead with he | ⟨slot, hs', hfree⟩
        · simp [hs, CallStage.ending?] at he
        · rw [hs] at hs'
          exact hfree leader lead hleader (CallStage.waiting.inj hs' ▸ hleads)
  | filled h => exact ⟨rfl, rfl, _, _, h⟩

/-- **A step keeps to the one fetch**, while every answer may be stored and nobody is cut off or
taken down. -/
theorem step (h : OneFill key first hits misses e fetches network served) (horderly : e.Orderly)
    (hkeys : ∀ c call, e.call? c = some call → call.key = some key) (hstep : e.step c label = some e')
    (hstart : ∀ target useCache n, label = .start target useCache n → target.cacheKey = key ∧ useCache = true)
    (hreply : ∀ x, label = .reply x → ∃ r, x.result = .ok r ∧ e.settings.policy.isFailure r.status = false)
    (hcut : label ≠ .cut) (hcrash : label ≠ .crash) (hfirst : first.nanos ≤ e.now.nanos)
    (hlive : (e.now.since first).nanos < e.settings.cacheTtl.nanos) :
    OneFill key first hits misses e' (fetches + if e.fetchesIn c e' then 1 else 0)
      (network + figureOf Sample.networkCount (e.arrived? c e'))
      (served + figureOf Sample.servedCount (e.arrived? c e')) := by
  cases moves_of_step hstep with
  | @start target useCache n hcall =>
    obtain ⟨htarget, rfl⟩ := hstart _ _ _ rfl
    obtain ⟨cache, hcache⟩ := h.exists_cache
    obtain ⟨fills, call, heq, _, hstage⟩ := start_cached hcache c target n
    have hnew : (e.start c target true n).call? c = some call := by rw [heq, call?_setCall, if_pos rfl]
    refine (h.start horderly hcall htarget n hkeys).of_quiet ?_ ?_
    · rcases hstage with hs | ⟨slot, hs⟩ <;> simp [isFetching, stage?, hnew, hs]
    · intro x hx
      rcases hstage with hs | ⟨slot, hs⟩ <;> simp [ending?_eq, hnew, hs, CallStage.ending?] at hx
  | @ask call slot hcall hstage =>
    obtain ⟨cache, stage, heq, hafter⟩ := ask_eq e c call slot
    have hnew : (e.ask c call slot).call? c = some { call with stage } := by rw [heq, call?_setStage, if_pos rfl]
    refine (h.ask horderly hcall hstage).of_quiet ?_ ?_
    · rcases hafter with rfl | rfl <;> simp [isFetching, stage?, hnew]
    · intro x hx
      rcases hafter with rfl | rfl <;> simp [ending?_eq, hnew, CallStage.ending?] at hx
  | lookUp hcall hstage => exact h.lookUp hcall hstage (hkeys _ _ hcall) hlive
  | reply hcall hstage =>
    obtain ⟨r, hr, hsuccess⟩ := hreply _ rfl
    exact h.reply hcall hstage (hkeys _ _ hcall) hfirst hr hsuccess rfl
  | cutWaiting | cutFetching => exact absurd rfl hcut
  | crash => exact absurd rfl hcrash
  | @resume call slot hcall hstage hturn =>
    -- whoever has been handed the lock waits for no leader any more
    have hfree : ∀ v other, e.call? v = some other → other.leads ≠ some slot := by
      intro v other hother hleads
      obtain ⟨cache, hcache⟩ := h.exists_cache
      have hfits : cache.fills.Fits e.role := horderly.fits (by rw [fills?, hcache]; rfl)
      simp only [hasTurn, hcache] at hturn
      obtain ⟨s, hs, hhanded⟩ := Fills.hasTurn_eq_true.mp hturn
      obtain ⟨s', hs', hheld⟩ := hfits.holds.mp (horderly.holds_of_leads hother hleads)
      obtain rfl := Option.some.inj (hs.symm.trans hs')
      rw [hhanded] at hheld
      cases hheld
    obtain ⟨rfl, rfl, cache, entry, hfilled⟩ := h.filled_of_call hcall (.inr ⟨slot, hstage, hfree⟩)
    refine (OneFill.filled (hfilled.changeFills_setStage _ c call (by simp))).of_quiet ?_ ?_
    · simp [isFetching, stage?]
    · intro x hx
      simp [ending?_eq, CallStage.ending?] at hx
  | @unlist call ending slot hcall hstage hleads =>
    obtain ⟨rfl, rfl, cache, entry, hfilled⟩ := h.filled_of_call hcall (.inl (by simp [hstage, CallStage.ending?]))
    refine (OneFill.filled (hfilled.changeFills_setStage _ c call (by simp))).of_quiet ?_ ?_
    · simp [isFetching, stage?]
    · intro x _
      simp [ending?_eq, hcall, hstage, CallStage.ending?]
  | @leave call ending hcall hstage hleads =>
    obtain ⟨rfl, rfl, cache, entry, hfilled⟩ := h.filled_of_call hcall (.inl (by simp [hstage, CallStage.ending?]))
    refine (OneFill.filled (hfilled.dropCall c)).of_quiet ?_ ?_
    · simp [isFetching, stage?]
    · intro x hx
      simp [ending?_eq] at hx
  | @leaveLead call ending slot hcall hstage hleads =>
    obtain ⟨rfl, rfl, cache, entry, hfilled⟩ := h.filled_of_call hcall (.inl (by simp [hstage, CallStage.ending?]))
    refine (OneFill.filled ((hfilled.changeFills _).dropCall c)).of_quiet ?_ ?_
    · simp [isFetching, stage?]
    · intro x hx
      simp [ending?_eq] at hx

/-- Dropping what has expired leaves everything as it is. -/
theorem purge (h : OneFill key first hits misses e fetches network served)
    (hlive : (e.now.since first).nanos < e.settings.cacheTtl.nanos) :
    OneFill key first hits misses e.purge fetches network served := by
  have same : ∀ {cache : ResponseCache}, e.cache = some cache → (cache.store.purge e.now).1 = cache.store →
      e.purge = e := by
    intro cache hcache hsame
    obtain ⟨settings, _, calls, now⟩ := e
    obtain rfl : _ = some cache := hcache
    obtain ⟨store, fills⟩ := cache
    simp only [Executor.purge, Option.map_some, hsame]
  cases h with
  | untouched hcache hnobody hempty hhits hmisses =>
    rw [same hcache (Store.purge_of_live (by simp [hempty]))]
    exact .untouched hcache hnobody hempty hhits hmisses
  | led leader lead hcache hleader hleads hlead hothers hempty hhits hmisses =>
    rw [same hcache (Store.purge_of_live (by simp [hempty]))]
    exact .led leader lead hcache hleader hleads hlead hothers hempty hhits hmisses
  | filled h =>
    rw [same h.there (Store.purge_of_live (by simp [h.only, h.live hlive]))]
    exact .filled h

/-- Nor does it matter that time passes. -/
theorem pass (h : OneFill key first hits misses e fetches network served) (d : Duration) :
    OneFill key first hits misses (e.pass d) fetches network served := by
  cases h with
  | untouched hcache hnobody hempty hhits hmisses => exact .untouched hcache hnobody hempty hhits hmisses
  | led leader lead hcache hleader hleads hlead hothers hempty hhits hmisses =>
    exact .led leader lead hcache hleader hleads hlead hothers hempty hhits hmisses
  | filled h => exact .filled ⟨h.there, h.only, h.after, h.ttl, h.idle, h.hits, h.misses⟩

end OneFill

end Executor

end HttpBench
