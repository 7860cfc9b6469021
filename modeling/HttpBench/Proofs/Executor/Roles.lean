import HttpBench.Proofs.Cache.Fills
import HttpBench.Proofs.Executor.Calls

/-!
# Calls and the fetches under way

What a call is to the fetches under way is read off its stage (`Call.role`). In every state of an
executor that begins with no fetch under way these roles fit the slots (`Executor.Orderly`), whatever
its callers do. So a call that waits is not forgotten: the lock that it waits for is with a leader
that has yet to leave, or has been handed to somebody whose turn it is (`Orderly.ahead`).
-/

namespace HttpBench

namespace CallStage

/-- A stage on the way through the cache. -/
def isCached : CallStage → Bool
  | .following _ | .waiting _ | .looking => true
  | _ => false

/-- A stage on the way to somebody else's slot. -/
def isFollower : CallStage → Bool
  | .following _ | .waiting _ => true
  | _ => false

/-- A stage in which a call that leads has its slot on the table. -/
def isPlain : CallStage → Bool
  | .waiting _ | .unlisted _ => false
  | _ => true

end CallStage

namespace Call

/-- What a call is while its slot is on the table, if it leads. -/
def listedRole (call : Call) : FillRole CacheKey :=
  match call.leads, call.key with
  | some n, some key => .leads key n
  | _, _ => .none

/-- **What a call is** to the fetches under way. -/
def role (call : Call) : FillRole CacheKey :=
  match call.stage, call.leads with
  | .waiting n, _ => .waits n
  | .unlisted _, some n => .leaves n
  | .unlisted _, none => .none
  | _, _ => call.listedRole

/-- **A call as it can be**: only a call with a key is on its way through the cache, and only one
that does not follow leads. -/
structure Formed (call : Call) : Prop where
  keyed : call.stage.isCached = true → call.key ≠ none
  led : call.leads ≠ none → call.key ≠ none ∧ call.stage.isFollower = false
  unlisted : ∀ ending, call.stage = .unlisted ending → call.leads ≠ none

variable {call : Call} {stage : CallStage}

/-- The role of a call whose stage is one of those in which nothing else is to be known. -/
theorem role_eq (call : Call) (h : call.stage.isPlain = true) : call.role = call.listedRole := by
  unfold role
  cases hs : call.stage <;> simp [hs, CallStage.isPlain] at h ⊢

theorem listedRole_of_leads_none (call : Call) (h : call.leads = none) : call.listedRole = .none := by
  simp [listedRole, h]

/-- **A call whose stage changes** stays what it is, as long as it neither waits nor leaves. -/
theorem role_setStage (h : call.stage.isPlain = true) (h' : stage.isPlain = true) :
    ({ call with stage } : Call).role = call.role := by
  rw [role_eq call h, role_eq { call with stage } h']
  rfl

/-- Only a call that waits for a slot has that role. -/
theorem stage_of_waits {n : Nat} (h : call.role = .waits n) : call.stage = .waiting n := by
  unfold role listedRole at h
  split at h
  next hs => rw [hs, FillRole.waits.inj h]
  next => cases h
  next => cases h
  next => split at h <;> cases h

/-- Only the leader of a slot has its lock. -/
theorem leads_of_holds {n : Nat} (h : call.role.Holds n) : call.leads = some n := by
  unfold role listedRole at h
  split at h
  next => exact h.elim
  next hl => exact hl.trans (congrArg some h)
  next => exact h.elim
  next =>
    split at h
    next hl _ => exact hl.trans (congrArg some h)
    next => exact h.elim

/-- A leader whose slot is on the table leads it, for its key. -/
theorem leads_of_role {n : Nat} {key : CacheKey} (h : call.role = .leads key n) :
    call.leads = some n ∧ call.key = some key := by
  unfold role listedRole at h
  split at h
  next => cases h
  next => cases h
  next => cases h
  next =>
    split at h
    next hleads hkey =>
      obtain ⟨rfl, rfl⟩ := FillRole.leads.inj h
      exact ⟨hleads, hkey⟩
    next => cases h

namespace Formed

/-- A follower leads nobody. -/
theorem leads_eq_none (h : call.Formed) (hstage : call.stage.isFollower = true) : call.leads = none := by
  by_contra hleads
  rw [(h.led hleads).2] at hstage
  cases hstage

/-- **A call that goes on** and no longer follows is formed as before. -/
theorem setStage (h : call.Formed) (hcached : stage.isCached = true → call.key ≠ none)
    (hfollower : stage.isFollower = true → call.leads = none)
    (hunlisted : ∀ ending, stage = .unlisted ending → call.leads ≠ none) :
    ({ call with stage } : Call).Formed := by
  refine ⟨hcached, fun hleads => ⟨(h.led hleads).1, ?_⟩, hunlisted⟩
  by_contra hf
  exact hleads (hfollower (Bool.not_eq_false _ ▸ hf))

end Formed

end Call

namespace Executor

variable {e e' : Executor} {c : Caller} {call : Call} {label : CallLabel} {cache : ResponseCache}

/-- What a caller is to the fetches under way. -/
def role (e : Executor) (c : Caller) : FillRole CacheKey :=
  match e.call? c with
  | some call => call.role
  | none => .none

/-- The fetches under way. -/
def fills? (e : Executor) : Option (Fills CacheKey) := e.cache.map (·.fills)

theorem role_of_call? (h : e.call? c = some call) : e.role c = call.role := by
  simp [role, h]

theorem role_of_none (h : e.call? c = none) : e.role c = .none := by
  simp [role, h]

theorem role_setCall (e : Executor) (c : Caller) (call : Call) :
    (e.setCall c call).role = Function.update e.role c call.role := by
  funext v
  by_cases hv : v = c <;> simp [role, hv]

theorem role_dropCall (e : Executor) (c : Caller) : (e.dropCall c).role = Function.update e.role c .none := by
  funext v
  by_cases hv : v = c <;> simp [role, hv]

/-- Storing a response fetches nothing. -/
theorem fills_keep (e : Executor) (call : Call) (x : Exchange) :
    ∃ cache', e.keep call x = { e with cache := cache' } ∧ cache'.map (·.fills) = e.fills? := by
  unfold keep
  split
  next cache key r hcache hkey hr =>
    split
    · exact ⟨e.cache, rfl, rfl⟩
    · exact ⟨_, rfl, by rw [fills?, hcache]; rfl⟩
  · exact ⟨e.cache, rfl, rfl⟩

/-- **Calls and fetches are in order.** -/
structure Orderly (e : Executor) : Prop where
  formed : ∀ {c call}, e.call? c = some call → call.Formed
  /-- without a cache no call has a key -/
  keyless : e.cache = none → ∀ {c call}, e.call? c = some call → call.key = none
  fits : ∀ {fills}, e.fills? = some fills → fills.Fits e.role

namespace Orderly

/-- Where there are no calls and no fetches everything is in order. -/
theorem begin (hcalls : e.calls = [])
    (hcache : ∀ cache, e.cache = some cache → cache.fills.slots = [] ∧ cache.fills.current = []) : e.Orderly := by
  have hnone : ∀ c, e.call? c = none := fun c => by simp [call?, hcalls]
  have hrole : e.role = fun _ => .none := funext fun c => role_of_none (hnone c)
  constructor
  case formed =>
    intro c call hcall
    rw [hnone] at hcall
    cases hcall
  case keyless =>
    intro _ c call hcall
    rw [hnone] at hcall
    cases hcall
  case fits =>
    intro fills h
    obtain ⟨cache, hcache', rfl⟩ := Option.map_eq_some_iff.mp h
    obtain ⟨hslots, hcurrent⟩ := hcache cache hcache'
    exact hrole ▸ .empty hslots hcurrent

/-- **A call that gets on**, with what becomes of the fetches. -/
theorem setCall {cache' : Option ResponseCache} (h : e.Orderly) (hformed : call.Formed)
    (hcache : cache' = none → e.cache = none ∧ call.key = none)
    (hfits : ∀ fills, cache'.map (·.fills) = some fills → fills.Fits (Function.update e.role c call.role)) :
    (Executor.setCall { e with cache := cache' } c call).Orderly := by
  constructor
  case formed =>
    intro v x hx
    rw [call?_setCall] at hx
    split at hx
    · exact Option.some.inj hx ▸ hformed
    · exact h.formed hx
  case keyless =>
    intro hnone v x hx
    obtain ⟨hnone, hkey⟩ := hcache hnone
    rw [call?_setCall] at hx
    split at hx
    · exact Option.some.inj hx ▸ hkey
    · exact h.keyless hnone hx
  case fits =>
    intro fills hf
    rw [role_setCall]
    exact hfits fills hf

/-- A call that goes. -/
theorem dropCall (h : e.Orderly) (cache' : Option ResponseCache) (hcache : cache' = none → e.cache = none)
    (hfits : ∀ fills, cache'.map (·.fills) = some fills → fills.Fits (Function.update e.role c .none)) :
    (Executor.dropCall { e with cache := cache' } c).Orderly := by
  constructor
  case formed =>
    intro v x hx
    rw [call?_dropCall] at hx
    split at hx
    · cases hx
    · exact h.formed hx
  case keyless =>
    intro hnone v x hx
    rw [call?_dropCall] at hx
    split at hx
    · cases hx
    · exact h.keyless (hcache hnone) hx
  case fits =>
    intro fills hf
    rw [role_dropCall]
    exact hfits fills hf

/-- A cache in which only what is stored has changed. -/
theorem setCall_of_fills (h : e.Orderly) (cache' : Option ResponseCache) (hformed : call.Formed)
    (hkey : e.cache = none → call.key = none) (hfills : cache'.map (·.fills) = e.fills?) (hrole : call.role = e.role c) :
    (Executor.setCall { e with cache := cache' } c call).Orderly := by
  refine h.setCall hformed ?_ ?_
  · intro hnone
    have he : e.cache = none := by
      rw [hnone] at hfills
      exact Option.map_eq_none_iff.mp hfills.symm
    exact ⟨he, hkey he⟩
  · intro fills hf
    rw [hrole, Function.update_eq_self]
    exact h.fits (hfills ▸ hf)

/-- A call that changes what is fetched has a cache. -/
theorem changeFills_setStage {stage : CallStage} {f : Fills CacheKey → Fills CacheKey} (h : e.Orderly)
    (hcall : e.call? c = some call) (hformed : ({ call with stage } : Call).Formed)
    (hfits : ∀ fills, e.fills? = some fills →
      (f fills).Fits (Function.update e.role c ({ call with stage } : Call).role)) :
    ((e.changeFills f).setStage c call stage).Orderly := by
  refine h.setCall hformed ?_ ?_
  · intro hnone
    have he := Option.map_eq_none_iff.mp hnone
    have hkey := h.keyless he hcall
    exact ⟨he, hkey⟩
  · intro fills hf
    rw [Option.map_map] at hf
    obtain ⟨cache, hcache, rfl⟩ := Option.map_eq_some_iff.mp hf
    exact hfits _ (by rw [fills?, hcache]; rfl)

/-- A call that is new. -/
theorem start (h : e.Orderly) (hcall : e.call? c = none) (target : Target) (useCache : Bool) (sequence : Nat) :
    (e.start c target useCache sequence).Orderly := by
  have hrole := role_of_none hcall
  unfold Executor.start
  split
  next =>
    refine h.setCall_of_fills e.cache ⟨by simp [CallStage.isCached], by simp, by simp⟩ (fun _ => rfl) rfl ?_
    rw [hrole]
    rfl
  next cache hcache =>
    have hcache : e.cache = some cache := by
      split at hcache
      · exact hcache
      · cases hcache
    have hfits : cache.fills.Fits e.role := h.fits (by rw [fills?, hcache]; rfl)
    simp only
    cases hslot : cache.fills.slotOf? target.cacheKey with
    | some n =>
      rw [Fills.claim_of_some hslot]
      refine h.setCall_of_fills (some cache) ⟨by simp, by simp, by simp⟩
        (fun hnone => by simp [hcache] at hnone) (by rw [fills?, hcache]) ?_
      rw [hrole]
      rfl
    | none =>
      have hnew := hfits.claim hslot hrole
      rw [Fills.claim_of_none hslot] at hnew ⊢
      refine h.setCall ⟨by simp, by simp [CallStage.isFollower], by simp⟩ (fun hnone => by cases hnone) ?_
      intro fills hf
      obtain rfl := Option.some.inj hf
      exact hnew

/-- A follower that asks for its lock. -/
theorem ask (h : e.Orderly) {n : Nat} (hcall : e.call? c = some call) (hstage : call.stage = .following n) :
    (e.ask c call n).Orderly := by
  have hformed := h.formed hcall
  have hleads := hformed.leads_eq_none (by simp [hstage, CallStage.isFollower])
  have hrole : e.role c = .none := by
    rw [role_of_call? hcall, Call.role_eq call (by simp [hstage, CallStage.isPlain]),
        Call.listedRole_of_leads_none call hleads]
  have hkey := hformed.keyed (by simp [hstage, CallStage.isCached])
  unfold Executor.ask
  split
  next cache hcache =>
    have hfits : cache.fills.Fits e.role := h.fits (by rw [fills?, hcache]; rfl)
    cases hslot : cache.fills.slot? n with
    | none =>
      rw [Fills.settle_of_none hslot]
      refine h.setCall_of_fills (some cache) (hformed.setStage (fun _ => hkey) (fun _ => hleads) (by simp))
        (fun hnone => by simp [hcache] at hnone) (by rw [fills?, hcache]) ?_
      rw [hrole, Call.role_eq _ rfl]
      exact Call.listedRole_of_leads_none _ hleads
    | some s =>
      obtain ⟨hsettle, hnew⟩ := hfits.settle hslot hrole
      rw [hsettle]
      refine h.setCall (hformed.setStage (fun _ => hkey) (fun _ => hleads) (by simp)) (fun hnone => by cases hnone)
        fun fills hf => ?_
      obtain rfl := Option.some.inj hf
      exact hnew
  next hcache => exact absurd (h.keyless hcache hcall) hkey

/-- A call that goes from one plain stage to another, with what is stored changed at most. -/
theorem setStage {stage : CallStage} (h : e.Orderly) (cache' : Option ResponseCache) (hcall : e.call? c = some call)
    (hplain : call.stage.isPlain = true) (hplain' : stage.isPlain = true) (hcached : stage.isCached = false)
    (hfills : cache'.map (·.fills) = e.fills?) :
    (Executor.setStage { e with cache := cache' } c call stage).Orderly := by
  have hkeyless : e.cache = none → call.key = none := fun hnone => h.keyless hnone hcall
  refine h.setCall_of_fills cache' ((h.formed hcall).setStage (by simp [hcached]) ?_ ?_) hkeyless hfills ?_
  · cases stage <;> simp [CallStage.isFollower, CallStage.isCached] at hcached ⊢
  · rintro ending rfl
    cases hplain'
  · rw [role_of_call? hcall]
    exact Call.role_setStage hplain hplain'

/-- A call that looks its key up. -/
theorem lookUp (h : e.Orderly) (hcall : e.call? c = some call) (hstage : call.stage = .looking) :
    (e.lookUp c call).Orderly := by
  have hplain : call.stage.isPlain = true := by rw [hstage]; rfl
  unfold Executor.lookUp
  split
  next cache key hcache hkey =>
    generalize cache.store.get key e.now = got
    obtain ⟨store, found⟩ := got
    have hfills : (some { cache with store }).map (·.fills) = e.fills? := by rw [fills?, hcache]; rfl
    cases found with
    | none => exact h.setStage _ hcall hplain rfl rfl hfills
    | some r => exact h.setStage _ hcall hplain rfl rfl hfills
  next => exact h.setStage e.cache hcall hplain rfl rfl rfl

/-- A call that has waited and is a follower no more. -/
theorem goOn {stage : CallStage} {f : Fills CacheKey → Fills CacheKey} (h : e.Orderly) {n : Nat}
    (hcall : e.call? c = some call) (hstage : call.stage = .waiting n) (hplain : stage.isPlain = true)
    (hfits : ∀ fills, e.fills? = some fills → (f fills).Fits (Function.update e.role c .none)) :
    ((e.changeFills f).setStage c call stage).Orderly := by
  have hformed := h.formed hcall
  have hleads := hformed.leads_eq_none (by simp [hstage, CallStage.isFollower])
  have hkey := hformed.keyed (by simp [hstage, CallStage.isCached])
  refine h.changeFills_setStage hcall (hformed.setStage (fun _ => hkey) (fun _ => hleads) ?_) ?_
  · rintro ending rfl
    cases hplain
  · intro fills hf
    rw [Call.role_eq { call with stage } hplain, Call.listedRole_of_leads_none { call with stage } hleads]
    exact hfits fills hf

/-- **Every step keeps calls and fetches in order.** -/
theorem step (h : e.Orderly) (hstep : e.step c label = some e') : e'.Orderly := by
  cases moves_of_step hstep with
  | start hcall => exact h.start hcall _ _ _
  | ask hcall hstage => exact h.ask hcall hstage
  | resume hcall hstage hturn =>
    refine h.goOn hcall hstage rfl ?_
    intro fills hf
    obtain ⟨cache, hcache, rfl⟩ := Option.map_eq_some_iff.mp hf
    simp only [hasTurn, hcache] at hturn
    exact (h.fits hf).handOn hturn
  | lookUp hcall hstage => exact h.lookUp hcall hstage
  | @reply call x hcall hstage =>
    obtain ⟨cache', heq, hfills⟩ := fills_keep e call x
    rw [heq]
    exact h.setStage cache' hcall (by rw [hstage]; rfl) rfl rfl hfills
  | cutWaiting hcall hstage =>
    refine h.goOn hcall hstage rfl fun fills hf => (h.fits hf).abandon ?_
    rw [role_of_call? hcall, Call.role, hstage]
  | cutFetching hcall hstage | crash hcall hstage =>
    exact h.setStage e.cache hcall (by rw [hstage]; rfl) rfl rfl rfl
  | @unlist call ending slot hcall hstage hleads =>
    have hformed := h.formed hcall
    obtain ⟨key, hkey⟩ := Option.ne_none_iff_exists'.mp (hformed.led (by simp [hleads])).1
    refine h.changeFills_setStage hcall
      (hformed.setStage (by simp [CallStage.isCached]) (by simp [CallStage.isFollower]) (by simp [hleads])) ?_
    intro fills hf
    have hrole : e.role c = .leads key slot := by
      rw [role_of_call? hcall, Call.role_eq call (by simp [hstage, CallStage.isPlain]), Call.listedRole, hleads, hkey]
    have hnew := (h.fits hf).unlist hrole
    simpa [Call.role, hleads] using hnew
  | @leave call _ hcall hstage hleads =>
    refine h.dropCall e.cache id ?_
    intro fills hf
    have hrole : e.role c = .none := by
      rw [role_of_call? hcall, Call.role_eq call (by simp [hstage, CallStage.isPlain]),
        Call.listedRole_of_leads_none call hleads]
    rw [← hrole, Function.update_eq_self]
    exact h.fits hf
  | leaveLead hcall hstage hleads =>
    refine h.dropCall _ (fun hnone => Option.map_eq_none_iff.mp hnone) ?_
    intro fills hf
    rw [Option.map_map] at hf
    obtain ⟨cache, hcache, rfl⟩ := Option.map_eq_some_iff.mp hf
    refine (h.fits (by rw [fills?, hcache]; rfl)).release ?_
    rw [role_of_call? hcall, Call.role, hstage, hleads]

/-- What neither calls nor fetches are part of. -/
theorem of_eq (h : e.Orderly) (hcalls : e'.calls = e.calls) (hcache : e'.cache = none → e.cache = none)
    (hfills : e'.fills? = e.fills?) : e'.Orderly := by
  have hcall : ∀ c, e'.call? c = e.call? c := fun c => by rw [call?, call?, hcalls]
  have hrole : e'.role = e.role := funext fun c => by rw [role, role, hcall]
  constructor
  case formed =>
    intro c call hc
    exact h.formed (hcall c ▸ hc)
  case keyless =>
    intro hnone c call hc
    exact h.keyless (hcache hnone) (hcall c ▸ hc)
  case fits =>
    intro fills hf
    rw [hrole]
    exact h.fits (hfills ▸ hf)

theorem purge (h : e.Orderly) : e.purge.Orderly := by
  refine h.of_eq rfl Option.map_eq_none_iff.mp ?_
  rw [fills?, Executor.purge, Option.map_map]
  rfl

theorem pass (h : e.Orderly) (d : Duration) : (e.pass d).Orderly := h.of_eq rfl id rfl

/-- **Whoever leads has the lock** of its slot. -/
theorem holds_of_leads (h : e.Orderly) {n : Nat} (hcall : e.call? c = some call) (hleads : call.leads = some n) :
    (e.role c).Holds n := by
  obtain ⟨hkey, hfollower⟩ := (h.formed hcall).led (by simp [hleads])
  obtain ⟨key, hkey⟩ := Option.ne_none_iff_exists'.mp hkey
  rw [role_of_call? hcall, Call.role]
  split
  next hs => simp [hs, CallStage.isFollower] at hfollower
  next hl => exact Option.some.inj (hl.symm.trans hleads)
  next hl => rw [hl] at hleads; cases hleads
  next => rw [Call.listedRole, hleads, hkey]; rfl

/-- **A call that waits has somebody ahead** that need not wait: whoever has been handed the lock,
or the leader, which does not follow anybody. -/
theorem ahead (h : e.Orderly) {n : Nat} (hcall : e.call? c = some call) (hstage : call.stage = .waiting n) :
    ∃ v call', e.call? v = some call' ∧
      (call'.stage = .waiting n ∧ e.hasTurn v n = true ∨ call'.leads = some n ∧ call'.stage.isFollower = false) := by
  have hkey := (h.formed hcall).keyed (by simp [hstage, CallStage.isCached])
  obtain ⟨cache, hcache⟩ : ∃ cache, e.cache = some cache :=
    Option.ne_none_iff_exists'.mp fun hnone => hkey (h.keyless hnone hcall)
  have hfits : cache.fills.Fits e.role := h.fits (by rw [fills?, hcache]; rfl)
  have hrole : e.role c = .waits n := by rw [role_of_call? hcall, Call.role, hstage]
  obtain ⟨s, hs, _⟩ := hfits.waits.mp hrole
  have callOf : ∀ v, e.role v ≠ .none → ∃ call', e.call? v = some call' := fun v hv =>
    Option.ne_none_iff_exists'.mp fun hnone => hv (role_of_none hnone)
  cases hl : s.lock with
  | free => exact absurd hl (hfits.busy hs)
  | held v =>
    have hholds : (e.role v).Holds n := hfits.holds.mpr ⟨s, hs, hl⟩
    obtain ⟨call', hcall'⟩ := callOf v fun hnone => by rw [hnone] at hholds; exact hholds
    rw [role_of_call? hcall'] at hholds
    have hleads := Call.leads_of_holds hholds
    exact ⟨v, call', hcall', .inr ⟨hleads, ((h.formed hcall').led (by simp [hleads])).2⟩⟩
  | handed v =>
    have hwaits : e.role v = .waits n := hfits.waits.mpr ⟨s, hs, by simp [FillSlot.waiters, hl]⟩
    obtain ⟨call', hcall'⟩ := callOf v (by simp [hwaits])
    rw [role_of_call? hcall'] at hwaits
    refine ⟨v, call', hcall', .inl ⟨Call.stage_of_waits hwaits, ?_⟩⟩
    simp only [hasTurn, hcache]
    exact Fills.hasTurn_eq_true.mpr ⟨s, hs, hl⟩

end Orderly

end Executor

end HttpBench
