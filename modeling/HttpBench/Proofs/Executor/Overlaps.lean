import HttpBench.Proofs.Executor.Provenance
import HttpBench.Proofs.Executor.Resuming

/-!
# Fetches of one key at the same time

A leader fetches with a guard, and whoever asks for its key meanwhile waits until the guard is gone. The
guard covers no more than that: once it is gone, all that followed look their key up, and those that miss
fetch on their own, at the same time as each other and as a new leader (`Executor.fetching_together`).

So at any time one fetch of a key has a guard at most, and every other one is that of a follower that is left
alone (`Executor.LeftAlone`). It has waited for the leader of the slot that it found when it began, which was
over when it looked its key up. If the leader had come to a success, then what the key had has been lost
since: it has expired, or something was evicted (`Executor.left_alone`).
-/

namespace HttpBench

/-- **A call ends with a success.** -/
def CallEnd.isSuccess : CallEnd → Bool
  | .sample x => x.outcome.isSuccess
  | .cut | .crash => false

namespace ExecutorTransition

/-- **The call of a leader comes to its end** in a step. -/
structure Concludes (t : ExecutorTransition) (d : Caller) (n : Nat) (key : CacheKey) (ending : CallEnd) : Prop where
  leader : ∃ call, t.before.call? d = some call ∧ call.leads = some n ∧ call.key = some key
  undecided : t.before.ending? d = none
  ending : t.after.ending? d = some ending

/-- **What a key has may be lost** in a step: it has expired, or something is evicted. -/
def Loses (t : ExecutorTransition) (key : CacheKey) : Prop :=
  ∃ cache, t.before.cache = some cache ∧
    ((∃ x ∈ cache.store.entries, x.1 = key ∧ x.2.kept.isLive t.before.now = false) ∨
      ∃ cache', t.after.cache = some cache' ∧ cache.store.evictions < cache'.store.evictions)

end ExecutorTransition

namespace Executor

variable {e e' : Executor} {c d : Caller} {call : Call} {label : CallLabel} {l : ExecutorLabel} {n : Nat}
  {key : CacheKey} {steps since : List ExecutorTransition}

/-! ## What a leader leaves behind -/

/-- **There is a response for a key**, live or not. -/
def Has (e : Executor) (key : CacheKey) : Prop :=
  ∃ cache, e.cache = some cache ∧ ∃ x ∈ cache.store.entries, x.1 = key

/-- **What a key has stays**, or is lost. -/
theorem Has.next (h : e.Has key) (hnext : e.Next l e') :
    e'.Has key ∨ ExecutorTransition.Loses ⟨e, l, e'⟩ key := by
  obtain ⟨cache, hcache, x, hx, rfl⟩ := h
  have hkept : ∀ cache', e'.cache = some cache' → cache.store.Keeps cache'.store x.1 e.now →
      e'.Has x.1 ∨ ExecutorTransition.Loses ⟨e, l, e'⟩ x.1 := by
    rintro cache' hcache' (hstays | hexpired | hevicted)
    · exact .inl ⟨cache', hcache', hstays⟩
    · exact .inr ⟨cache, hcache, .inl hexpired⟩
    · exact .inr ⟨cache, hcache, .inr ⟨cache', hcache', hevicted⟩⟩
  cases l with
  | pass =>
    obtain rfl := Option.some.inj hnext
    exact .inl ⟨cache, hcache, x, hx, rfl⟩
  | purge =>
    obtain rfl := Option.some.inj hnext
    have hcache' : e.purge.cache = some { cache with store := (cache.store.purge e.now).1 } := by
      rw [purge, hcache, Option.map_some]
    exact hkept _ hcache' (Store.keeps_purge hx e.now)
  | call c label =>
    obtain ⟨cache', hcache'⟩ := exists_cache_of_step hnext hcache
    obtain ⟨cache₁, hcache₁, hchange⟩ := storeChange_of_step hnext hcache'
    obtain rfl := Option.some.inj (hcache.symm.trans hcache₁)
    refine hkept cache' hcache' ?_
    generalize cache'.store = store at hchange
    cases hchange with
    | same => exact .inl ⟨x, hx, rfl⟩
    | looked => exact Store.keeps_get hx ..
    | stored => exact Store.keeps_put hx ..

/-- **A key has a response still**, or has lost it in one of some steps. -/
def Held (since : List ExecutorTransition) (key : CacheKey) (e : Executor) : Prop :=
  (∃ t ∈ since, t.Loses key) ∨ e.Has key

theorem Held.next (h : Held since key e) (hnext : e.Next l e') : Held (since ++ [⟨e, l, e'⟩]) key e' := by
  rcases h with ⟨t, ht, hloses⟩ | hhas
  · exact .inl ⟨t, List.mem_append_left _ ht, hloses⟩
  · rcases hhas.next hnext with hhas | hloses
    · exact .inr hhas
    · exact .inl ⟨_, List.mem_append_right _ (List.mem_singleton_self _), hloses⟩

/-- **A call that comes to a success** leaves a response for its key. -/
theorem has_of_success {ending : CallEnd} {cache : ResponseCache} (hstep : e.step c label = some e')
    (hcall : e.call? c = some call) (hkey : call.key = some key) (hcache : e.cache = some cache)
    (hopen : e.ending? c = none) (hending : e'.ending? c = some ending) (hsuccess : ending.isSuccess = true) :
    e'.Has key := by
  cases moves_of_step hstep with
  | start hnone =>
    rw [hnone] at hcall
    cases hcall
  | ask =>
    obtain ⟨_, stage, heq, hstage⟩ := ask_eq e c _ _
    rw [heq, ending?_eq, call?_setStage, if_pos rfl, Option.bind_some] at hending
    rcases hstage with rfl | rfl <;> cases hending
  | lookUp hcall' =>
    obtain rfl := Option.some.inj (hcall.symm.trans hcall')
    simp only [lookUp, hcache, hkey] at hending ⊢
    rw [ending?_eq, call?_setStage, if_pos rfl, Option.bind_some] at hending
    split at hending
    next r hfound => exact ⟨_, rfl, Store.mem_of_found hfound⟩
    next => cases hending
  | @reply _ x hcall' =>
    obtain rfl := Option.some.inj (hcall.symm.trans hcall')
    rw [ending?_eq, call?_setStage, if_pos rfl, Option.bind_some] at hending
    obtain rfl := Option.some.inj hending
    cases hresult : x.result with
    | error =>
      simp only [CallEnd.isSuccess, Sample.ofExchange, hresult, Outcome.isSuccess] at hsuccess
      cases hsuccess
    | ok r =>
      cases hfailure : e.settings.policy.isFailure r.status with
      | true =>
        simp only [CallEnd.isSuccess, Sample.ofExchange, hresult, Outcome.ofStatus, hfailure, if_true,
          Outcome.isSuccess] at hsuccess
        cases hsuccess
      | false =>
        refine ⟨{ cache with store := cache.store.put key r e.settings.cacheTtl e.now }, ?_, Store.mem_put ..⟩
        rw [cache_setStage]
        simp only [keep, hcache, hkey, hresult, hfailure, if_false, Bool.false_eq_true]
  | resume =>
    rw [ending?_eq, call?_setStage, if_pos rfl, Option.bind_some] at hending
    cases hending
  | cutWaiting | cutFetching | crash =>
    rw [ending?_eq, call?_setStage, if_pos rfl, Option.bind_some] at hending
    obtain rfl := Option.some.inj hending
    cases hsuccess
  | unlist hcall' hstage =>
    rw [ending?_eq, hcall', Option.bind_some, hstage] at hopen
    cases hopen
  | leave | leaveLead =>
    rw [ending?_eq, call?_dropCall, if_pos rfl] at hending
    cases hending

/-! ## The fetch of a slot -/

/-- **The fetch of a slot has come to its end** in one of some steps. If that was a success, what it left behind
is there, or has been lost since. -/
def Concluded (steps : List ExecutorTransition) (n : Nat) (key : CacheKey) (e : Executor) : Prop :=
  ∃ before t since d ending, steps = before ++ t :: since ∧ t.Concludes d n key ending ∧
    (ending.isSuccess = true → Held since key e)

/-- **A slot has its fetch**, under way or concluded. -/
def Led (steps : List ExecutorTransition) (n : Nat) (key : CacheKey) (e : Executor) : Prop :=
  (∃ d call, e.call? d = some call ∧ call.leads = some n ∧ call.key = some key ∧ e.ending? d = none) ∨
    Concluded steps n key e

theorem Concluded.next (h : Concluded steps n key e) (hnext : e.Next l e') :
    Concluded (steps ++ [⟨e, l, e'⟩]) n key e' := by
  obtain ⟨before, t, since, d, ending, rfl, hconcludes, hheld⟩ := h
  refine ⟨before, t, since ++ [⟨e, l, e'⟩], d, ending, by simp, hconcludes, ?_⟩
  exact fun hsuccess => (hheld hsuccess).next hnext

/-- A call that goes on is the same call. -/
theorem call_of_next (hcall : e.call? c = some call) (hnext : e.Next l e') (hstays : l ≠ .call c .leave) :
    ∃ stage, e'.call? c = some { call with stage } := by
  by_cases hown : ∃ label, l = .call c label
  · obtain ⟨label, rfl⟩ := hown
    have hstep : e.step c label = some e' := hnext
    have hstart : ∀ t u n, label ≠ .start t u n := by
      rintro t u n rfl
      rw [(step_start hstep).1] at hcall
      cases hcall
    obtain ⟨call', stage, hcall', hafter⟩ := step_between hstep hstart fun hl => hstays (congrArg _ hl)
    obtain rfl := Option.some.inj (hcall.symm.trans hcall')
    exact ⟨stage, hafter⟩
  · exact ⟨call.stage, (happen_other hnext fun label heq => hown ⟨label, heq⟩).trans hcall⟩

/-- A call that is new has not come to its end. -/
theorem undecided_of_new (hnone : e.call? c = none) (hnext : e.Next l e') : e'.ending? c = none := by
  by_cases hown : ∃ label, l = .call c label
  · obtain ⟨label, rfl⟩ := hown
    have hstep : e.step c label = some e' := hnext
    cases label with
    | start =>
      obtain ⟨-, call, hcall, -, hopen⟩ := step_start hstep
      rw [ending?_eq, hcall, Option.bind_some, hopen]
    | leave => rw [ending?_eq, (step_leave hstep).2, Option.bind_none]
    | _ =>
      obtain ⟨call, _, hcall, _⟩ := step_between hstep (fun _ _ _ => CallLabel.noConfusion) CallLabel.noConfusion
      rw [hnone] at hcall
      cases hcall
  · rw [ending?_eq, happen_other hnext fun label heq => hown ⟨label, heq⟩, hnone, Option.bind_none]

/-- **Every step** leaves a slot its fetch. -/
theorem Led.next (h : Led steps n key e) (horderly : e.Orderly) (hnext : e.Next l e') :
    Led (steps ++ [⟨e, l, e'⟩]) n key e' := by
  rcases h with ⟨d, call, hcall, hleads, hkey, hopen⟩ | hconcluded
  · have hstays : l ≠ .call d .leave := by
      rintro rfl
      obtain ⟨ending, hending⟩ := (step_leave hnext).1
      rw [hopen] at hending
      cases hending
    obtain ⟨stage, hafter⟩ := call_of_next hcall hnext hstays
    cases hending : e'.ending? d with
    | none => exact .inl ⟨d, _, hafter, hleads, hkey, hending⟩
    | some ending =>
      refine .inr ⟨steps, _, [], d, ending, rfl, ⟨⟨call, hcall, hleads, hkey⟩, hopen, hending⟩, fun hsuccess => ?_⟩
      obtain ⟨label, rfl⟩ : ∃ label, l = .call d label := by
        by_contra hother
        have hsame := happen_other hnext fun label heq => hother ⟨label, heq⟩
        rw [ending?_eq, hsame, ← ending?_eq, hopen] at hending
        cases hending
      obtain ⟨cache, hcache⟩ := horderly.cached hcall (by simp [hkey])
      exact .inr (has_of_success hnext hcall hkey hcache hopen hending hsuccess)
  · exact .inr (hconcluded.next hnext)

/-- **A slot whose lock no leader has** has had its fetch. -/
theorem Led.concluded (h : Led steps n key e) (horderly : e.Orderly) (hfree : ∀ d, ¬(e.role d).Holds n) :
    Concluded steps n key e := by
  rcases h with ⟨d, call, hcall, hleads, _⟩ | hconcluded
  · exact absurd (horderly.holds_of_leads hcall hleads) (hfree d)
  · exact hconcluded

/-! ## The way of a follower -/

/-- **The call of a caller has begun as a follower** of a slot, and has yet to go. -/
def Began (steps : List ExecutorTransition) (c : Caller) (n : Nat) : Prop :=
  ∃ before t since target sequence, steps = before ++ t :: since ∧ t.label = .call c (.start target true sequence) ∧
    t.after.stage? c = some (.following n) ∧ ∀ u ∈ since, u.label ≠ .call c .leave

/-- **A caller is left alone with its fetch.** It has begun as a follower of a slot. When it looked its key up,
the leader of the slot was over, and either that was no success, or the key may have lost what it had since.
It found nothing, and has been fetching ever since. -/
def LeftAlone (steps : List ExecutorTransition) (c : Caller) (key : CacheKey) : Prop :=
  ∃ n d ending before concluded between looked since,
    steps = before ++ concluded :: (between ++ looked :: since) ∧
    Began (before ++ concluded :: between) c n ∧ concluded.Concludes d n key ending ∧
    (ending.isSuccess = true → ∃ t ∈ between ++ [looked], t.Loses key) ∧
    looked.label = .call c .lookUp ∧ looked.after.isFetching c = true ∧ ∀ t ∈ since, ∀ label, t.label ≠ .call c label

theorem Began.next (h : Began steps c n) (hstays : l ≠ .call c .leave) : Began (steps ++ [⟨e, l, e'⟩]) c n := by
  obtain ⟨before, t, since, target, sequence, rfl, hlabel, hstage, hsince⟩ := h
  refine ⟨before, t, since ++ [⟨e, l, e'⟩], target, sequence, by simp, hlabel, hstage, ?_⟩
  intro u hu
  rcases List.mem_append.mp hu with hu | hu
  · exact hsince u hu
  · obtain rfl := List.mem_singleton.mp hu
    exact hstays

theorem LeftAlone.next (h : LeftAlone steps c key) (hother : ∀ label, l ≠ .call c label) :
    LeftAlone (steps ++ [⟨e, l, e'⟩]) c key := by
  obtain ⟨n, d, ending, before, concluded, between, looked, since, rfl, hbegan, hconcludes, hloses, hlabel, hfetching,
    hsince⟩ := h
  refine ⟨n, d, ending, before, concluded, between, looked, since ++ [⟨e, l, e'⟩], by simp, hbegan, hconcludes, hloses,
    hlabel, hfetching, ?_⟩
  intro t ht
  rcases List.mem_append.mp ht with ht | ht
  · exact hsince t ht
  · obtain rfl := List.mem_singleton.mp ht
    exact hother

/-- **What is known of a follower**, by where its call stands. -/
def Follows (steps : List ExecutorTransition) (e : Executor) (c : Caller) (call : Call) (key : CacheKey) : Prop :=
  match call.stage with
  | .following n | .waiting n => Began steps c n ∧ Led steps n key e
  | .looking => ∃ n, Began steps c n ∧ Concluded steps n key e
  | .fetching => LeftAlone steps c key
  | .closing _ | .unlisted _ => True

/-- A follower stays where it is while others go on. -/
theorem Follows.next (h : Follows steps e c call key) (horderly : e.Orderly) (hnext : e.Next l e')
    (hother : ∀ label, l ≠ .call c label) : Follows (steps ++ [⟨e, l, e'⟩]) e' c call key := by
  unfold Follows at h ⊢
  cases hstage : call.stage <;> simp only [hstage] at h ⊢
  case following | waiting => exact ⟨h.1.next (hother .leave), h.2.next horderly hnext⟩
  case looking =>
    obtain ⟨n, hbegan, hconcluded⟩ := h
    exact ⟨n, hbegan.next (hother .leave), hconcluded.next hnext⟩
  case fetching => exact h.next hother

/-- **Every slot has its fetch, and every follower is on its way.** -/
structure Tracked (steps : List ExecutorTransition) (e : Executor) : Prop where
  leaders : ∀ c call n key, e.call? c = some call → call.leads = some n → call.key = some key → Led steps n key e
  followers : ∀ c call key, e.call? c = some call → call.leads = none → call.key = some key →
    Follows steps e c call key

/-- A call that begins with a key and does not lead follows the leader of the key. -/
theorem follows_of_start {target : Target} {useCache : Bool} {sequence : Nat}
    (hcall : (e.start c target useCache sequence).call? c = some call) (hleads : call.leads = none)
    (hkey : call.key = some key) :
    useCache = true ∧ ∃ cache n, e.cache = some cache ∧ cache.fills.slotOf? key = some n ∧ call.stage = .following n := by
  unfold start at hcall
  dsimp only at hcall
  split at hcall
  · rw [call?_setCall, if_pos rfl] at hcall
    obtain rfl := Option.some.inj hcall
    cases hkey
  next cache hused =>
    obtain ⟨huse, hcache⟩ : useCache = true ∧ e.cache = some cache := by
      cases useCache with
      | true => exact ⟨rfl, hused⟩
      | false => cases hused
    refine ⟨huse, cache, ?_⟩
    cases hslot : cache.fills.slotOf? target.cacheKey with
    | none =>
      rw [Fills.claim_of_none hslot, call?_setCall, if_pos rfl] at hcall
      obtain rfl := Option.some.inj hcall
      cases hleads
    | some n =>
      rw [Fills.claim_of_some hslot, call?_setCall, if_pos rfl] at hcall
      obtain rfl := Option.some.inj hcall
      obtain rfl := Option.some.inj hkey
      exact ⟨n, hcache, hslot, rfl⟩

/-- Whoever leads a key has a call for it. -/
theorem call_of_role_leads (h : e.role d = .leads key n) :
    ∃ call, e.call? d = some call ∧ call.leads = some n ∧ call.key = some key := by
  unfold role at h
  split at h
  next call hcall => exact ⟨call, hcall, Call.leads_of_role h⟩
  next => cases h

namespace Tracked

theorem begin (hcalls : e.calls = []) : Tracked [] e := by
  have hnone : ∀ c, e.call? c = none := fun c => by rw [call?, hcalls]; rfl
  constructor
  · intro c call n key hcall
    rw [hnone] at hcall
    cases hcall
  · intro c call key hcall
    rw [hnone] at hcall
    cases hcall

/-- **A follower after a step of its own.** -/
theorem step_follower (h : Tracked steps e) (horderly : e.Orderly) (hstep : e.step c label = some e')
    (hcall : e'.call? c = some call) (hleads : call.leads = none) (hkey : call.key = some key) :
    Follows (steps ++ [⟨e, .call c label, e'⟩]) e' c call key := by
  have hfits : ∀ cache, e.cache = some cache → cache.fills.Fits e.role := fun cache hcache =>
    horderly.fits (by rw [fills?, hcache]; rfl)
  have hnext : e.Next (.call c label) e' := hstep
  cases moves_of_step hstep with
  | @start target useCache sequence hnone =>
    obtain ⟨rfl, cache, n, hcache, hslot, hstage⟩ := follows_of_start hcall hleads hkey
    obtain ⟨d, hrole⟩ := (hfits cache hcache).lists.mp (Fills.mem_of_slotOf? hslot)
    obtain ⟨leader, hleader, hn, hk⟩ := call_of_role_leads hrole
    have hled := (h.leaders d leader n key hleader hn hk).next horderly hnext
    have hfollowing : (e.start c target true sequence).stage? c = some (.following n) := by
      rw [stage?, hcall, Option.map_some, hstage]
    simp only [Follows, hstage]
    exact ⟨⟨steps, _, [], target, sequence, rfl, rfl, hfollowing, fun _ hu => by cases hu⟩, hled⟩
  | @ask old n hold hstage =>
    have hkeyed := (horderly.formed hold).keyed (by rw [hstage]; rfl)
    obtain ⟨cache, hcache⟩ := horderly.cached hold hkeyed
    simp only [ask, hcache] at hcall
    cases hslot : cache.fills.slot? n with
    | none =>
      rw [Fills.settle_of_none hslot, call?_setStage, if_pos rfl] at hcall
      obtain rfl := Option.some.inj hcall
      have hway := h.followers c old key hold hleads hkey
      simp only [Follows, hstage] at hway
      have hfree : ∀ d, ¬(e.role d).Holds n := by
        intro d hd
        obtain ⟨s, hs, _⟩ := (hfits cache hcache).holds.mp hd
        rw [hslot] at hs
        cases hs
      exact ⟨n, hway.1.next (by simp), (hway.2.concluded horderly hfree).next hnext⟩
    | some s =>
      rw [Fills.settle_of_slot? hslot ((hfits cache hcache).busy hslot), call?_setStage, if_pos rfl] at hcall
      obtain rfl := Option.some.inj hcall
      have hway := h.followers c old key hold hleads hkey
      simp only [Follows, hstage] at hway
      exact ⟨hway.1.next (by simp), hway.2.next horderly hnext⟩
  | @resume old n hold hstage hturn =>
    rw [call?_setStage, if_pos rfl] at hcall
    obtain rfl := Option.some.inj hcall
    have hway := h.followers c old key hold hleads hkey
    simp only [Follows, hstage] at hway
    -- the lock has been handed on, so its leader no longer has it
    have hfree : ∀ d, ¬(e.role d).Holds n := by
      intro d hd
      unfold hasTurn at hturn
      split at hturn
      next cache hcache =>
        obtain ⟨s, hs, hhanded⟩ := Fills.hasTurn_eq_true.mp hturn
        obtain ⟨s', hs', hheld⟩ := (hfits cache hcache).holds.mp hd
        obtain rfl := Option.some.inj (hs.symm.trans hs')
        cases hhanded.symm.trans hheld
      next => cases hturn
    exact ⟨n, hway.1.next (by simp), (hway.2.concluded horderly hfree).next hnext⟩
  | @lookUp old hold hstage =>
    have hkeyed := (horderly.formed hold).keyed (by rw [hstage]; rfl)
    obtain ⟨cache, hcache⟩ := horderly.cached hold hkeyed
    obtain ⟨key', hkey'⟩ := Option.ne_none_iff_exists'.mp hkeyed
    have hfetches := hcall
    cases hfound : (cache.store.get key' e.now).2 with
    | some r =>
      simp only [lookUp, hcache, hkey', hfound, call?_setStage, if_true] at hcall
      obtain rfl := Option.some.inj hcall
      trivial
    | none =>
      simp only [lookUp, hcache, hkey', hfound, call?_setStage, if_true] at hcall
      obtain rfl := Option.some.inj hcall
      obtain rfl := Option.some.inj hkey
      have hway := h.followers c old key' hold hleads hkey'
      simp only [Follows, hstage] at hway
      obtain ⟨n, hbegan, before, t, since, d, ending, rfl, hconcludes, hheld⟩ := hway
      refine ⟨n, d, ending, before, t, since, ⟨e, .call c .lookUp, e.lookUp c old⟩, [], by simp, hbegan, hconcludes,
        fun hsuccess => ?_, rfl, isFetching_eq_true.mpr ⟨_, hfetches, rfl⟩, fun _ ht => by cases ht⟩
      rcases hheld hsuccess with ⟨u, hu, hloses⟩ | ⟨cache', hcache', x, hx, rfl⟩
      · exact ⟨u, List.mem_append_left _ hu, hloses⟩
      · obtain rfl := Option.some.inj (hcache.symm.trans hcache')
        exact ⟨_, List.mem_append_right _ (List.mem_singleton_self _), cache, hcache,
          .inl (Store.expired_of_missed hx hfound)⟩
  | reply | cutWaiting | cutFetching | crash | unlist =>
    rw [call?_setStage, if_pos rfl] at hcall
    obtain rfl := Option.some.inj hcall
    trivial
  | leave | leaveLead =>
    rw [call?_dropCall, if_pos rfl] at hcall
    cases hcall

/-- **Every step** keeps track of leaders and followers. -/
theorem next (h : Tracked steps e) (horderly : e.Orderly) (hnext : e.Next l e') :
    Tracked (steps ++ [⟨e, l, e'⟩]) e' := by
  constructor
  · intro c call n key hcall hleads hkey
    cases hold : e.call? c with
    | some old =>
      have hstays : l ≠ .call c .leave := by
        rintro rfl
        rw [(step_leave hnext).2] at hcall
        cases hcall
      obtain ⟨stage, hsame⟩ := call_of_next hold hnext hstays
      obtain rfl := Option.some.inj (hsame.symm.trans hcall)
      exact (h.leaders c old n key hold hleads hkey).next horderly hnext
    | none => exact .inl ⟨c, call, hcall, hleads, hkey, undecided_of_new hold hnext⟩
  · intro c call key hcall hleads hkey
    by_cases hown : ∃ label, l = .call c label
    · obtain ⟨label, rfl⟩ := hown
      exact h.step_follower horderly hnext hcall hleads hkey
    · have hother : ∀ label, l ≠ .call c label := fun label heq => hown ⟨label, heq⟩
      rw [happen_other hnext hother] at hcall
      exact (h.followers c call key hcall hleads hkey).next horderly hnext hother

theorem history (hcalls : e.calls = [])
    (hfills : ∀ cache, e.cache = some cache → cache.fills.slots = [] ∧ cache.fills.current = [])
    (past : e.History steps e') : Tracked steps e' := by
  refine past.invariantWith (P := Tracked) (begin hcalls) fun steps s l s' before h hnext => ?_
  exact h.next (orderly_of_history (Orderly.begin hcalls hfills) before) hnext

end Tracked

/-- A key has one leader at a time. -/
theorem leader_unique {other : Call} {m : Nat} (horderly : e.Orderly) (hcall : e.call? c = some call)
    (hother : e.call? d = some other) (hstage : call.stage = .fetching) (hstage' : other.stage = .fetching)
    (hkey : call.key = some key) (hkey' : other.key = some key) (hleads : call.leads = some n)
    (hleads' : other.leads = some m) : c = d := by
  obtain ⟨cache, hcache⟩ := horderly.cached hcall (by simp [hkey])
  have hfits : cache.fills.Fits e.role := horderly.fits (by rw [fills?, hcache]; rfl)
  have hrole : e.role c = .leads key n := by simp [role, hcall, Call.role, Call.listedRole, hstage, hleads, hkey]
  have hrole' : e.role d = .leads key m := by simp [role, hother, Call.role, Call.listedRole, hstage', hleads', hkey']
  obtain rfl : n = m := Option.some.inj ((hfits.slotOf?_of_leads hrole).symm.trans (hfits.slotOf?_of_leads hrole'))
  exact hfits.one_holder (horderly.holds_of_leads hcall hleads) (horderly.holds_of_leads hother hleads')

/-- **Whoever fetches a key without its guard has been left alone.** Let an executor begin without calls. Then,
whatever its callers do, whatever the transport answers and however all of it is ordered, one fetch of a key
has its guard at most, and whoever else fetches the key has waited for the leader that it found when it began;
that leader had come to no success, or the key may have lost what it had. -/
theorem left_alone (hcalls : e.calls = [])
    (hfills : ∀ cache, e.cache = some cache → cache.fills.slots = [] ∧ cache.fills.current = [])
    (past : e.History steps e') :
    (∀ c d call other key n m, e'.call? c = some call → e'.call? d = some other → call.stage = .fetching →
      other.stage = .fetching → call.key = some key → other.key = some key → call.leads = some n →
      other.leads = some m → c = d) ∧
    ∀ c call key, e'.call? c = some call → call.stage = .fetching → call.key = some key → call.leads = none →
      LeftAlone steps c key := by
  constructor
  · intro c d call other key n m hcall hother hstage hstage' hkey hkey' hleads hleads'
    have horderly := orderly_of_history (Orderly.begin hcalls hfills) past
    exact leader_unique horderly hcall hother hstage hstage' hkey hkey' hleads hleads'
  · intro c call key hcall hstage hkey hleads
    have hfollows := (Tracked.history hcalls hfills past).followers c call key hcall hleads hkey
    simpa only [Follows, hstage] using hfollows

/-- A leader comes to a failure while two follow it; both fetch then, and so does a new leader. -/
def playFailing : List ExecutorLabel :=
  let answer : Exchange :=
    { phases := {}, total := ⟨100⟩, result := .ok { status := 503, headers := [], body := [], protocol := "HTTP/1.1" } }
  [.call 0 (.start default true 0), .call 0 .lookUp, .call 1 (.start default true 1), .call 1 .ask,
    .call 2 (.start default true 2), .call 2 .ask, .pass ⟨100⟩, .call 0 (.reply answer), .call 0 .unlist,
    .call 0 .leave, .call 1 .resume, .call 1 .lookUp, .call 3 (.start default true 3), .call 3 .lookUp,
    .call 2 .resume, .call 2 .lookUp]

/-- The call of a caller fetches for the key of the target, with its guard or without. -/
def fetchesFor (e : Executor) (c : Caller) (guarded : Bool) : Bool :=
  (e.call? c).any fun call => decide (call.stage = .fetching) && decide (call.key = some (default : Target).cacheKey) &&
    call.leads.isSome == guarded

theorem exists_failing : ∃ steps e', playBegin.History steps e' ∧
    e'.fetchesFor 1 false = true ∧ e'.fetchesFor 2 false = true ∧ e'.fetchesFor 3 true = true := by
  have hplay : (playFrom happen playBegin playFailing).any (fun r =>
      r.2.fetchesFor 1 false && r.2.fetchesFor 2 false && r.2.fetchesFor 3 true) = true := by
    decide +kernel
  obtain ⟨steps, e', past, hfetch⟩ := History.exists_of_any hplay
  simp only [Bool.and_eq_true] at hfetch
  exact ⟨steps, e', past, hfetch.1.1, hfetch.1.2, hfetch.2⟩

theorem call_of_fetchesFor {guarded : Bool} (h : e.fetchesFor c guarded = true) :
    ∃ call, e.call? c = some call ∧ call.stage = .fetching ∧ call.key = some (default : Target).cacheKey ∧
      call.leads.isSome = guarded := by
  obtain ⟨call, hcall, hfetch⟩ := Option.any_eq_true _ _ |>.mp h
  simp only [Bool.and_eq_true, decide_eq_true_eq, beq_iff_eq] at hfetch
  exact ⟨call, hcall, hfetch.1.1, hfetch.1.2, hfetch.2⟩

theorem left_alone_of_failing : ∃ steps e', playBegin.History steps e' ∧
    LeftAlone steps 1 (default : Target).cacheKey ∧ LeftAlone steps 2 (default : Target).cacheKey := by
  obtain ⟨steps, e', past, hone, htwo, _⟩ := exists_failing
  obtain ⟨_, halone⟩ := left_alone rfl fills_playBegin past
  obtain ⟨call, hcall, hstage, hkey, hleads⟩ := call_of_fetchesFor hone
  obtain ⟨other, hother, hstage', hkey', hleads'⟩ := call_of_fetchesFor htwo
  exact ⟨steps, e', past, halone 1 call _ hcall hstage hkey (by simpa using hleads),
    halone 2 other _ hother hstage' hkey' (by simpa using hleads')⟩

/-- **One key may be fetched by several callers at once.** -/
theorem fetching_together :
    ¬∀ (steps : List ExecutorTransition) (e' : Executor), playBegin.History steps e' →
      ∀ c d call other key, e'.call? c = some call → e'.call? d = some other → call.stage = .fetching →
        other.stage = .fetching → call.key = some key → other.key = some key → c = d := by
  intro hone
  obtain ⟨steps, e', past, hfirst, hsecond, _⟩ := exists_failing
  obtain ⟨call, hcall, hstage, hkey, _⟩ := call_of_fetchesFor hfirst
  obtain ⟨other, hother, hstage', hkey', _⟩ := call_of_fetchesFor hsecond
  have hsame := hone steps e' past 1 2 call other _ hcall hother hstage hstage' hkey hkey'
  cases hsame

end Executor

end HttpBench
