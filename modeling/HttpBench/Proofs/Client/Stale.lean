import HttpBench.Proofs.Client.Alike
import HttpBench.Proofs.Client.Phases

/-!
# Stale connections

A connection in the pool may be of no use any more. That shows when it is looked for and is closed, when
it is tried, or when a request is sent on it and it is lost. A request that finds none but such connections
comes to the same result as with an empty pool, as long as its time is not over (`Client.stale_as_empty`):
each of them costs a try and at most one a sending, and then it makes one connection of its own, on which
the network decides as it would have at first.

What the request goes through before is followed by the pool (`Client.count_checkOut`), which gets smaller
with every try; what it goes through then by the answers of the network (`RequestCall.Gets`).
-/

namespace HttpBench

namespace RequestStage

/-- It has a connection from the pool, which is to be tried. -/
def isReadying : RequestStage → Bool
  | .readying _ => true
  | .resolving | .dialling _ | .securing | .awaiting .. | .reading .. | .ended _ => false

/-- It is on the way to a connection of its own. -/
def isConnecting : RequestStage → Bool
  | .resolving | .dialling _ | .securing => true
  | .readying _ | .awaiting .. | .reading .. | .ended _ => false

/-- It was sent, on a connection that is from the pool or not. -/
def awaits (pooled : Bool) : RequestStage → Bool
  | .awaiting _ p => p == pooled
  | .readying _ | .resolving | .dialling _ | .securing | .reading .. | .ended _ => false

/-- What came of it, once it is over. -/
def result? : RequestStage → Option (Except Failure Response)
  | .ended x => some x.result
  | .readying _ | .resolving | .dialling _ | .securing | .awaiting .. | .reading .. => none

variable {stage stage' : RequestStage}

theorem Alike.result?_eq (h : stage.Alike stage') : stage.result? = stage'.result? := by
  cases h with
  | ended hresult => exact congrArg some hresult
  | resolving | dialling | securing | awaiting | reading => rfl

theorem Alike.not_awaits (h : stage.Alike stage) : stage.awaits true = false := by cases h <;> rfl

end RequestStage

/-- The request of a caller is under way, and stands so. -/
def Client.stands (s : Client) (c : Nat) (p : RequestStage → Bool) : Bool := (s.call? c).any fun call => p call.stage

theorem Client.stands_eq {s : Client} {c : Nat} {call : RequestCall} (hcall : s.call? c = some call)
    (p : RequestStage → Bool) : s.stands c p = p call.stage := by
  rw [stands, hcall, Option.any_some]

theorem Client.stands_setCall (s : Client) (c : Nat) (call : RequestCall) (p : RequestStage → Bool) :
    (s.setCall c call).stands c p = p call.stage :=
  stands_eq (by rw [call?_setCall, if_pos rfl]) p

namespace ClientTransition

/-- A connection from the pool is tried. -/
def tries (c : Nat) (t : ClientTransition) : Bool :=
  t.label.caller? = some c && t.before.stands c (·.isReadying)

/-- **A connection is attempted**: from then on the request is on the way to one of its own. -/
def attempts (c : Nat) (t : ClientTransition) : Bool :=
  t.label.caller? = some c && !t.before.stands c (·.isConnecting) && t.after.stands c (·.isConnecting)

/-- The request is sent, on a connection that is from the pool or not. -/
def sendsOn (c : Nat) (pooled : Bool) (t : ClientTransition) : Bool :=
  t.label.caller? = some c && t.after.stands c (·.awaits pooled)

/-- **What the network answers**, but for what becomes of connections from the pool. -/
def answer? (c : Nat) (t : ClientTransition) : Option ClientLabel :=
  if !t.before.stands c (·.awaits true) && t.label.answers? = some c then some t.label else none

/-- A connection with a key comes into the pool. -/
def returns (key : PoolKey) (t : ClientTransition) : Bool := t.kept?.any (·.1 = key)

variable {c : Nat} {t : ClientTransition}

theorem not_own (h : t.label.caller? ≠ some c) : t.tries c = false ∧ t.attempts c = false ∧
    (∀ pooled, t.sendsOn c pooled = false) ∧ t.answer? c = none := by
  have hnone : t.label.answers? ≠ some c := fun hanswers => h (ClientLabel.caller?_of_answers? hanswers)
  simp [tries, attempts, sendsOn, answer?, h, hnone]

theorem eq_of_answer? {label : ClientLabel} (h : t.answer? c = some label) :
    t.label = label ∧ label.answers? = some c := by
  unfold answer? at h
  split_ifs at h with hanswer
  rw [Bool.and_eq_true, decide_eq_true_eq] at hanswer
  obtain rfl := Option.some.inj h
  exact ⟨rfl, hanswer.2⟩

end ClientTransition

@[simp] theorem RequestCall.awaits_connecting (call : RequestCall) (now : Instant) (pooled : Bool) :
    (call.connecting now).stage.awaits pooled = false := by
  unfold connecting
  dsimp only
  split_ifs <;> rfl

@[simp] theorem RequestCall.isConnecting_connecting (call : RequestCall) (now : Instant) :
    (call.connecting now).stage.isConnecting = true := by
  unfold connecting
  dsimp only
  split_ifs <;> rfl

theorem RequestCall.result?_connecting (call : RequestCall) (now : Instant) :
    (call.connecting now).stage.result? = none := by
  unfold connecting
  dsimp only
  split_ifs <;> rfl

theorem RequestCall.not_isReadying_connecting (call : RequestCall) (now : Instant) :
    (call.connecting now).stage.isReadying = false := by
  unfold connecting
  dsimp only
  split_ifs <;> rfl

theorem RequestCall.not_isReadying_submitted (call : RequestCall) (now : Instant) (link : Nat) (pooled : Bool) :
    (call.submitted now link pooled).stage.isReadying = false := by
  unfold submitted
  dsimp only
  split_ifs <;> rfl

/-! ## The pool gets smaller -/

/-- **A connection that is taken** is gone, and those before it. -/
theorem Pool.countP_takeFrom (isClosed : Nat → Bool) (key : PoolKey) (idle : List (PoolKey × Nat)) :
    (takeFrom isClosed key idle).2.countP (·.1 == key) + (takeFrom isClosed key idle).1.isSome.toNat ≤
      idle.countP (·.1 == key) := by
  induction idle with
  | nil => exact Nat.le_refl _
  | cons entry rest ih =>
    unfold takeFrom
    split_ifs with hkey hclosed
    · rw [List.countP_cons_of_pos (by simpa using hkey)]
      omega
    · rw [List.countP_cons_of_pos (by simpa using hkey)]
      exact Nat.le_refl _
    · rw [List.countP_cons_of_neg (by simpa using hkey)]
      have hrest : ∀ entries, List.countP (·.1 == key) (entry :: entries) = List.countP (·.1 == key) entries :=
        fun _ => List.countP_cons_of_neg (by simpa using hkey)
      simpa only [hrest] using ih

namespace Client

variable {s s' : Client} {c : Nat} {call : RequestCall} {label : ClientLabel}

/-- **What a request finds in the pool** is no longer there. -/
theorem count_checkOut (s : Client) (c : Nat) (call : RequestCall) :
    (s.checkOut c call).pool.count call.target.url.poolKey + ((s.checkOut c call).stands c (·.isReadying)).toNat ≤
      s.pool.count call.target.url.poolKey := by
  have htaken := Pool.countP_takeFrom s.isClosed call.target.url.poolKey s.pool.idle
  unfold checkOut Pool.take
  cases hfound : (Pool.takeFrom s.isClosed call.target.url.poolKey s.pool.idle).1 with
  | some link =>
    rw [hfound] at htaken
    simp only [hfound]
    rw [stands_setCall]
    exact htaken
  | none =>
    rw [hfound] at htaken
    simp only [hfound]
    rw [connect_eq_setCall, stands_setCall, RequestCall.not_isReadying_connecting]
    exact htaken

/-- A step puts one connection into the pool at most, and then it is seen to. -/
theorem count_of_step (hstep : s.step label = some s') (key : PoolKey) :
    s'.pool.count key ≤ s.pool.count key + (ClientTransition.returns key ⟨s, label, s'⟩).toNat := by
  rcases pool_of_step hstep with hsub | ⟨c, call, link, head, body, _, _, _, _, hidle⟩
  · exact Nat.le_add_right_of_le (hsub.countP_le)
  · have hkept : ClientTransition.kept? ⟨s, label, s'⟩ = some (call.target.url.poolKey, link) := by
      simp [ClientTransition.kept?, Pool.size, hidle]
    rw [ClientTransition.returns, hkept, Option.any_some, Pool.count, hidle, List.countP_cons]
    by_cases hkey : call.target.url.poolKey = key <;> simp [hkey, Pool.count]

/-- **A request that is to try a connection** has just taken it. -/
theorem count_of_readying (hstep : s.step label = some s') (hcaller : label.caller? = some c)
    (hcall : s'.call? c = some call) (hready : call.stage.isReadying = true) :
    s'.pool.count call.target.url.poolKey + 1 ≤ s.pool.count call.target.url.poolKey := by
  have hstands : s'.stands c (·.isReadying) = true := by rw [stands_eq hcall, hready]
  have htaken : ∀ (s : Client) (call₀ : RequestCall), s' = s.checkOut c call₀ →
      s'.pool.count call.target.url.poolKey + 1 ≤ s.pool.count call.target.url.poolKey := by
    rintro s call₀ rfl
    obtain ⟨call', hseeks, hafter⟩ := s.call?_checkOut c call₀
    rw [hafter, if_pos rfl] at hcall
    obtain rfl := Option.some.inj hcall
    have hcount := s.count_checkOut c call₀
    rw [hstands] at hcount
    rw [hseeks.asks.1]
    exact hcount
  obtain ⟨_, hturns⟩ := (turns_of_step hstep c).resolve_right fun h => h.1 hcaller
  rw [hcall] at hturns
  generalize hafter : some call = after at hturns
  generalize s.call? c = before at hturns
  cases hturns with
  | begin =>
    cases happens_of_step hstep with
    | begin => exact htaken _ _ rfl
    | fail _ hfails => cases hfails
  | reject =>
    cases happens_of_step hstep with
    | reject => exact htaken (s.closeLink _) _ rfl
    | fail _ hfails => cases hfails
  | reuse | connect | shake =>
    obtain rfl := Option.some.inj hafter
    rw [RequestCall.not_isReadying_submitted] at hready
    cases hready
  | retry =>
    obtain rfl := Option.some.inj hafter
    rw [RequestCall.not_isReadying_connecting] at hready
    cases hready
  | resolve | secure | answer | complete | fail =>
    obtain rfl := Option.some.inj hafter
    cases hready
  | leave => cases hafter

end Client

/-! ## A request with a connection of its own -/

/-- **A step leaves a request its time and its caller.** -/
def ClientTransition.Stays (c : Nat) (t : ClientTransition) : Prop := t.label ≠ .leave c ∧ t.label ≠ .expire c

namespace RequestCall

variable {call call' : RequestCall} {now : Instant} {c : Nat} {label : ClientLabel}

/-- A request with a connection of its own waits for answers only. -/
theorem answers_of_turns (hown : call.stage.Alike call.stage) (hstays : label ≠ .leave c ∧ label ≠ .expire c)
    {after : Option RequestCall} (hturns : Turns now c label (some call) after) : label.answers? = some c := by
  cases hturns with
  | reuse hstage | reject hstage =>
    rw [hstage] at hown
    cases hown
  | resolve | connect | secure | shake | answer | retry | complete => rfl
  | fail hfails =>
    cases hfails with
    | expire => exact absurd rfl hstays.2
    | lookUp | nowhere | dial | handshake | lost | broken | body => rfl
  | leave => exact absurd rfl hstays.1

/-- **It makes no further connection, and is sent once**, when the one that it makes is there. -/
theorem own_of_turns (hown : call.stage.Alike call.stage) (hlabel : label.answers? = some c)
    (hturns : Turns now c label (some call) (some call')) :
    (call'.stage.awaits false).toNat + call'.stage.isConnecting.toNat ≤ call.stage.isConnecting.toNat := by
  have hone : ∀ stage : RequestStage, (stage.awaits false).toNat + stage.isConnecting.toNat ≤ 1 := by
    intro stage
    cases stage with
    | awaiting link pooled => cases pooled <;> exact Nat.le_of_ble_eq_true rfl
    | readying | resolving | dialling | securing | reading | ended => exact Nat.le_of_ble_eq_true rfl
  generalize hafter : some call' = after at hturns
  cases hturns with
  | reuse | reject | leave => cases hlabel
  | resolve hstage | connect hstage | secure hstage | shake hstage =>
    rw [hstage]
    exact hone _
  | answer | complete | fail =>
    obtain rfl := Option.some.inj hafter
    exact Nat.zero_le _
  | retry hstage =>
    rw [hstage] at hown
    cases hown

theorem Gets.target_eq {labels : List ClientLabel} {target : Target} (h : Gets target c labels call) :
    call.target = target := by
  induction h with
  | start htarget => rwa [(Seeks.none).asks.1]
  | next _ hlabel hturns ih =>
    rcases hturns.asks rfl with rfl | ⟨_, hbefore, htarget, _⟩
    · cases hlabel
    · obtain rfl := Option.some.inj hbefore
      rw [htarget, ih]

end RequestCall

/-! ## A request that finds stale connections -/

namespace RequestCall

/-- **How a request fares** that finds stale connections only, with the answers that it got, the
connections that it attempted, and how often it was sent, on one from the pool and on a new one. It tries
the former and may be sent on one; from then on it has one of its own. -/
inductive Fares (target : Target) (c : Nat) (call : RequestCall) : List ClientLabel → Nat → Nat → Nat → Prop
  | tries {link : Nat} (htarget : call.target = target) (hstage : call.stage = .readying link) :
      Fares target c call [] 0 0 0
  | sends {link : Nat} (htarget : call.target = target) (hstage : call.stage = .awaiting link true) :
      Fares target c call [] 0 1 0
  | own {answers : List ClientLabel} {pooled anew : Nat} (hgets : Gets target c answers call) (hpooled : pooled ≤ 1)
      (hanew : anew + call.stage.isConnecting.toNat ≤ 1) : Fares target c call answers 1 pooled anew

variable {call call' : RequestCall} {now : Instant} {c : Nat} {label : ClientLabel} {target : Target}
  {answers : List ClientLabel} {attempted pooled anew : Nat}

theorem Fares.target_eq (h : call.Fares target c answers attempted pooled anew) : call.target = target := by
  cases h with
  | tries htarget | sends htarget => exact htarget
  | own hgets => exact hgets.target_eq

/-- **It attempts one connection at most, and is sent twice at most**, once on one from the pool. -/
theorem Fares.counts (h : call.Fares target c answers attempted pooled anew) :
    attempted ≤ 1 ∧ anew ≤ 1 ∧ pooled ≤ 1 := by
  cases h with
  | tries | sends => decide
  | own _ hpooled hanew => exact ⟨Nat.le_refl 1, Nat.le_of_add_right_le hanew, hpooled⟩

/-- Until it is on the way to a connection of its own, it comes to no result and gets no answer. -/
theorem Fares.gets_or_none (h : call.Fares target c answers attempted pooled anew) :
    call.Gets target c answers ∨ call.stage.result? = none ∧ answers = [] := by
  cases h with
  | tries _ hstage | sends _ hstage => exact .inr ⟨by rw [hstage]; rfl, rfl⟩
  | own hgets => exact .inl hgets

theorem Fares.attempted_of_ended {x : Exchange} (h : call.Fares target c answers attempted pooled anew)
    (hended : call.stage = .ended x) : attempted = 1 := by
  cases h with
  | tries _ hstage | sends _ hstage =>
    rw [hended] at hstage
    cases hstage
  | own => rfl

theorem fares_connecting (htarget : call.target = target) (hpooled : pooled ≤ 1) :
    (call.connecting now).Fares target c [] 1 pooled 0 :=
  .own (.start htarget) hpooled (by rw [isConnecting_connecting]; exact Nat.le_refl 1)

/-- **A step of a request** that finds a stale connection, or has one of its own. -/
theorem Fares.turn (h : call.Fares target c answers attempted pooled anew) (hsendable : target.isSendable = true)
    (hstays : label ≠ .leave c ∧ label ≠ .expire c) (hstale : call.stage.awaits true = true → label = .lost c)
    (hturns : Turns now c label (some call) (some call')) :
    call'.Fares target c
      (answers ++ (if !call.stage.awaits true && label.answers? = some c then some label else none).toList)
      (attempted + (!call.stage.isConnecting && call'.stage.isConnecting).toNat)
      (pooled + (call'.stage.awaits true).toNat) (anew + (call'.stage.awaits false).toNat) := by
  cases h with
  | @tries link htarget hstage =>
    rw [hstage]
    generalize hafter : some call' = after at hturns
    cases hturns with
    | @reuse _ link =>
      obtain rfl := Option.some.inj hafter
      rw [submitted, if_pos (htarget ▸ hsendable)]
      exact .sends htarget rfl
    | reject _ hseeks =>
      obtain rfl := Option.some.inj hafter
      cases hseeks with
      | found => exact .tries htarget rfl
      | none =>
        rw [awaits_connecting, awaits_connecting, isConnecting_connecting]
        exact fares_connecting htarget (Nat.zero_le 1)
    | resolve hs | connect hs | secure hs | shake hs | answer hs | retry hs | complete hs =>
      rw [hs] at hstage
      cases hstage
    | fail hfails =>
      cases hfails with
      | expire => exact absurd rfl hstays.2
      | lookUp hs | nowhere hs | dial hs | handshake hs | lost hs | broken hs | body hs =>
        rw [hs] at hstage
        cases hstage
    | leave => cases hafter
  | @sends link htarget hstage =>
    obtain rfl := hstale (by rw [hstage]; rfl)
    rw [hstage]
    generalize hafter : some call' = after at hturns
    cases hturns with
    | retry =>
      obtain rfl := Option.some.inj hafter
      rw [awaits_connecting, awaits_connecting, isConnecting_connecting]
      exact fares_connecting htarget (Nat.le_refl 1)
    | fail hfails =>
      cases hfails with
      | lost hs =>
        rw [hs] at hstage
        cases hstage
  | own hgets hpooled hanew =>
    have hown := hgets.own
    have hlabel := answers_of_turns hown hstays hturns
    have hnext : Gets target c (answers ++ [label]) call' := hgets.next hlabel hturns
    have hcount := own_of_turns hown hlabel hturns
    have hattempted : (!call.stage.isConnecting && call'.stage.isConnecting) = false := by
      cases hbefore : call.stage.isConnecting with
      | true => rfl
      | false =>
        rw [hbefore] at hcount
        cases hafter : call'.stage.isConnecting with
        | true => rw [hafter] at hcount; exact absurd hcount (by simp)
        | false => rfl
    rw [hlabel, hown.not_awaits, hattempted, hnext.own.not_awaits]
    have hanswer : (if !false && some c = some c then some label else none).toList = [label] := by simp
    refine hanswer ▸ .own hnext hpooled ?_
    omega

end RequestCall

open ClientTransition

variable {c : Nat} {target : Target} {timeout : Duration} {steps : List ClientTransition}

theorem RequestCall.Turns.exists_after {now : Instant} {label : ClientLabel} {before after : Option RequestCall}
    (h : Turns now c label before after) (hstays : label ≠ .leave c) : ∃ call, after = some call := by
  cases h with
  | leave => exact absurd rfl hstays
  | begin | reuse | reject | resolve | connect | secure | shake | answer | retry | complete | fail => exact ⟨_, rfl⟩

theorem countP_snoc (p : ClientTransition → Bool) (steps : List ClientTransition) (t : ClientTransition) :
    (steps ++ [t]).countP p = steps.countP p + (p t).toNat := by
  rw [List.countP_append, List.countP_singleton]
  cases p t <;> rfl

theorem answers_snoc (c : Nat) (steps : List ClientTransition) (t : ClientTransition) :
    (steps ++ [t]).filterMap (answer? c) = steps.filterMap (answer? c) ++ (t.answer? c).toList := by
  rw [List.filterMap_append]
  cases hanswer : t.answer? c with
  | none => rw [List.filterMap_cons_none hanswer]; rfl
  | some label => rw [List.filterMap_cons_some hanswer]; rfl

namespace Client

variable {first s s' : Client} {call : RequestCall} {label : ClientLabel}

/-- **A request is carried out**: it is made, and is left its caller and its time. -/
structure Carries (first : Client) (c : Nat) (target : Target) (timeout : Duration) (steps : List ClientTransition)
    (s : Client) : Prop where
  past : first.History steps s
  begins : (steps.map (·.label)).head? = some (.begin c target timeout)
  stays : ∀ t ∈ steps, t.Stays c

/-- **What a request finds in the pool is stale**: when it is sent on such a connection, that is lost. -/
def Stale (c : Nat) (steps : List ClientTransition) : Prop :=
  ∀ t ∈ steps, t.before.stands c (·.awaits true) = true → t.label.caller? = some c → t.label = .lost c

/-- **Where a request is** that finds stale connections only, and how many of them it can have tried. -/
structure FaresAt (first : Client) (target : Target) (c : Nat) (steps : List ClientTransition) (s : Client)
    (call : RequestCall) : Prop where
  present : s.call? c = some call
  fares : call.Fares target c (steps.filterMap (answer? c)) (steps.countP (attempts c))
    (steps.countP (sendsOn c true)) (steps.countP (sendsOn c false))
  tried : steps.countP (tries c) + s.pool.count target.url.poolKey + call.stage.isReadying.toNat ≤
    first.pool.count target.url.poolKey + steps.countP (returns target.url.poolKey)

/-- A request that is made looks for a connection. -/
theorem seeks_of_begin (hstep : first.step (.begin c target timeout) = some s) :
    first.call? c = none ∧ ∃ call, s.call? c = some call ∧
      RequestCall.Seeks { target, timeout, watch := .start first.now, stage := .resolving } first.now call := by
  have hnone : first.call? c = none := by
    cases happens_of_step hstep with
    | begin hcall => exact hcall
    | fail _ hfails => cases hfails
  obtain ⟨_, hturns⟩ := (turns_of_step hstep c).resolve_right fun h => h.1 rfl
  rw [hnone] at hturns
  generalize s.call? c = after at hturns
  cases hturns with
  | begin hseeks => exact ⟨hnone, _, rfl, hseeks⟩

/-- **A request that is made** has taken a connection, or attempts one. -/
theorem faresAt_begin (hstep : first.step (.begin c target timeout) = some s) :
    ∃ call, first.FaresAt target c [⟨first, .begin c target timeout, s⟩] s call := by
  obtain ⟨hnone, call, hcall, hseeks⟩ := seeks_of_begin hstep
  have htarget : call.target = target := hseeks.asks.1
  have hfares : call.Fares target c [] call.stage.isConnecting.toNat (call.stage.awaits true).toNat
      (call.stage.awaits false).toNat := by
    cases hseeks with
    | found => exact .tries rfl rfl
    | none =>
      rw [RequestCall.awaits_connecting, RequestCall.awaits_connecting, RequestCall.isConnecting_connecting]
      exact RequestCall.fares_connecting rfl (Nat.zero_le 1)
  have hbefore : ∀ p, first.stands c p = false := fun p => by rw [stands, hnone]; rfl
  rw [← List.nil_append [_]]
  refine ⟨call, hcall, ?_, ?_⟩
  · rw [answers_snoc, countP_snoc, countP_snoc, countP_snoc]
    simpa [answer?, ClientLabel.answers?, ClientTransition.attempts, ClientTransition.sendsOn, stands_eq hcall, hbefore,
      ClientLabel.caller?] using hfares
  · have htried : ClientTransition.tries c ⟨first, .begin c target timeout, s⟩ = false := by
      rw [ClientTransition.tries, hbefore, Bool.and_false]
    have hcount := count_of_step hstep target.url.poolKey
    rw [countP_snoc, countP_snoc, htried]
    cases hready : call.stage.isReadying with
    | true =>
      have htaken := count_of_readying hstep rfl hcall hready
      rw [htarget] at htaken
      simp only [List.countP_nil, Bool.toNat_true, Bool.toNat_false]
      omega
    | false =>
      simp only [List.countP_nil, Bool.toNat_false]
      omega

/-- **Every step** of a client leaves it where it is, or takes it on. -/
theorem FaresAt.step (h : first.FaresAt target c steps s call) (hsendable : target.isSendable = true)
    (hstep : s.step label = some s') (hstays : ClientTransition.Stays c ⟨s, label, s'⟩)
    (hstale : s.stands c (·.awaits true) = true → label.caller? = some c → label = .lost c) :
    ∃ call', first.FaresAt target c (steps ++ [⟨s, label, s'⟩]) s' call' := by
  obtain ⟨hcall, hfares, htried⟩ := h
  have hcount := count_of_step hstep target.url.poolKey
  rcases turns_of_step hstep c with ⟨hcaller, hturns⟩ | ⟨hother, hsame⟩
  · rw [hcall] at hturns
    obtain ⟨call', hcall'⟩ := hturns.exists_after hstays.1
    rw [hcall'] at hturns
    have hnext := hfares.turn hsendable hstays (fun hawaits => hstale (by rw [stands_eq hcall, hawaits]) hcaller) hturns
    refine ⟨call', hcall', ?_, ?_⟩
    · rw [answers_snoc, countP_snoc, countP_snoc, countP_snoc]
      simpa only [ClientTransition.attempts, ClientTransition.sendsOn, answer?, stands_eq hcall, stands_eq hcall',
        decide_eq_true hcaller, Bool.true_and] using hnext
    · have htries : ClientTransition.tries c ⟨s, label, s'⟩ = call.stage.isReadying := by
        rw [ClientTransition.tries, stands_eq hcall, decide_eq_true hcaller, Bool.true_and]
      rw [countP_snoc, countP_snoc, htries]
      cases hready : call'.stage.isReadying with
      | true =>
        have htaken := count_of_readying hstep hcaller hcall' hready
        rw [hnext.target_eq] at htaken
        simp only [Bool.toNat_true]
        omega
      | false =>
        simp only [Bool.toNat_false]
        omega
  · obtain ⟨htries, hattempts, hsends, hanswer⟩ := not_own (t := ⟨s, label, s'⟩) hother
    refine ⟨call, hsame.trans hcall, ?_, ?_⟩
    · rw [answers_snoc, countP_snoc, countP_snoc, countP_snoc, hanswer, hattempts, hsends, hsends]
      simpa using hfares
    · rw [countP_snoc, countP_snoc, htries]
      simp only [Bool.toNat_false]
      omega

/-- What holds once a request is made, and is kept by every step, holds as long as it is carried out. -/
theorem invariant_of_begins {P : List ClientTransition → Client → Prop} {A : ClientTransition → Prop}
    (past : first.History steps s) (hbegins : (steps.map (·.label)).head? = some (.begin c target timeout))
    (hall : ∀ t ∈ steps, A t)
    (init : ∀ s, first.step (.begin c target timeout) = some s → P [⟨first, .begin c target timeout, s⟩] s)
    (kept : ∀ steps s label s', P steps s → s.step label = some s' → A ⟨s, label, s'⟩ →
      P (steps ++ [⟨s, label, s'⟩]) s') :
    P steps s := by
  induction past with
  | start => cases hbegins
  | @step steps s s' label past now ih =>
    have hlast := hall _ (List.mem_append_right _ (List.mem_singleton_self _))
    cases past with
    | start =>
      obtain rfl := Option.some.inj hbegins
      exact init s' now
    | @step steps s₀ _ label₀ past now₀ =>
      refine kept _ _ _ _ (ih ?_ fun t ht => hall t (List.mem_append_left _ ht)) now hlast
      rw [List.map_append, List.head?_append_of_ne_nil _ (by simp)] at hbegins
      exact hbegins

theorem Carries.new (h : first.Carries c target timeout steps s) : first.call? c = none := by
  refine invariant_of_begins (P := fun _ _ => first.call? c = none) h.past h.begins h.stays ?_ fun _ _ _ _ h _ _ => h
  exact fun _ hstep => (seeks_of_begin hstep).1

theorem Carries.faresAt (h : first.Carries c target timeout steps s) (hsendable : target.isSendable = true)
    (hstale : Stale c steps) : ∃ call, first.FaresAt target c steps s call := by
  refine invariant_of_begins (P := fun steps s => ∃ call, first.FaresAt target c steps s call)
    h.past h.begins (fun t ht => And.intro (h.stays t ht) (hstale t ht)) (fun _ => faresAt_begin) ?_
  rintro steps s label s' ⟨_, hfares⟩ hstep ⟨hstays, hstale⟩
  exact hfares.step hsendable hstep hstays hstale

/-! ## An empty pool -/

/-- **A request that has a connection of its own** is where the answers take it. -/
theorem gets_of_step {labels : List ClientLabel} (hcall : s.call? c = some call)
    (hgets : call.Gets target c labels) (hstep : s.step label = some s')
    (hstays : ClientTransition.Stays c ⟨s, label, s'⟩) : ∃ call', s'.call? c = some call' ∧
      call'.Gets target c (labels ++ (answer? c ⟨s, label, s'⟩).toList) := by
  rcases turns_of_step hstep c with ⟨hcaller, hturns⟩ | ⟨hother, hsame⟩
  · rw [hcall] at hturns
    obtain ⟨call', hcall'⟩ := hturns.exists_after hstays.1
    rw [hcall'] at hturns
    have hlabel := RequestCall.answers_of_turns hgets.own hstays hturns
    have hanswer : answer? c ⟨s, label, s'⟩ = some label := by
      simp [answer?, stands_eq hcall, hgets.own.not_awaits, hlabel]
    rw [hanswer]
    exact ⟨call', hcall', hgets.next hlabel hturns⟩
  · obtain ⟨_, _, _, hanswer⟩ := not_own (t := ⟨s, label, s'⟩) hother
    rw [hanswer, Option.toList_none, List.append_nil]
    exact ⟨call, hsame.trans hcall, hgets⟩

/-- **With no connection in the pool** a request makes its own at once. -/
theorem gets_of_begin (hstep : first.step (.begin c target timeout) = some s)
    (hempty : first.pool.count target.url.poolKey = 0) :
    ∃ call, s.call? c = some call ∧ call.Gets target c [] := by
  obtain ⟨_, call, hcall, hseeks⟩ := seeks_of_begin hstep
  cases hseeks with
  | found =>
    have htaken : s.pool.count target.url.poolKey + 1 ≤ first.pool.count target.url.poolKey :=
      count_of_readying hstep rfl hcall rfl
    omega
  | none => exact ⟨_, hcall, .start rfl⟩

theorem answers_begin (first s : Client) (c : Nat) (target : Target) (timeout : Duration) :
    List.filterMap (answer? c) [⟨first, .begin c target timeout, s⟩] = [] := by
  simp [answer?, ClientLabel.answers?]

theorem Carries.gets (h : first.Carries c target timeout steps s) (hempty : first.pool.count target.url.poolKey = 0) :
    ∃ call, s.call? c = some call ∧ call.Gets target c (steps.filterMap (answer? c)) := by
  refine invariant_of_begins
    (P := fun steps s => ∃ call, s.call? c = some call ∧ call.Gets target c (steps.filterMap (answer? c)))
    h.past h.begins h.stays ?_ ?_
  · intro s hstep
    rw [answers_begin]
    exact gets_of_begin hstep hempty
  · rintro steps s label s' ⟨call, hcall, hgets⟩ hstep hstays
    rw [answers_snoc]
    exact gets_of_step hcall hgets hstep hstays

/-! ## Every stale pool is gone through -/

/-- **What a request finds out** about its connections from the pool: whether each is usable is settled
beforehand, and one that it is sent on is lost. -/
structure Proves (usable : Nat → Bool) (c : Nat) (t : ClientTransition) : Prop where
  ready : ∀ call link, t.before.call? c = some call → call.stage = .readying link → t.label = .ready c (usable link)
  lost : t.before.stands c (·.awaits true) = true → t.label = .lost c

/-- **A step goes through the pool**: it tells the request nothing but of a connection from there. -/
structure GoesThrough (usable : Nat → Bool) (c : Nat) (t : ClientTransition) : Prop where
  stays : Stays c t
  proves : Proves usable c t
  silent : answer? c t = none

theorem goesThrough_ready {usable : Nat → Bool} {link : Nat} (hcall : s.call? c = some call)
    (hstage : call.stage = .readying link) : GoesThrough usable c ⟨s, .ready c (usable link), s'⟩ := by
  refine ⟨⟨nofun, nofun⟩, ⟨?_, ?_⟩, by simp [answer?, ClientLabel.answers?]⟩
  · intro call' link' hcall' hstage'
    obtain rfl := Option.some.inj (hcall.symm.trans hcall')
    rw [hstage] at hstage'
    cases hstage'
    rfl
  · intro hawaits
    rw [stands_eq hcall, hstage] at hawaits
    cases hawaits

theorem goesThrough_lost {usable : Nat → Bool} {link : Nat} (hcall : s.call? c = some call)
    (hstage : call.stage = .awaiting link true) : GoesThrough usable c ⟨s, .lost c, s'⟩ := by
  have hawaits : s.stands c (·.awaits true) = true := by rw [stands_eq hcall, hstage]; rfl
  refine ⟨⟨nofun, nofun⟩, ⟨?_, fun _ => rfl⟩, by simp [answer?, hawaits]⟩
  intro call' link' hcall' hstage'
  obtain rfl := Option.some.inj (hcall.symm.trans hcall')
  rw [hstage] at hstage'
  cases hstage'

/-- A connection that is not usable is closed, and the request looks for the next. -/
theorem step_unusable {link : Nat} (hcall : s.call? c = some call) (hstage : call.stage = .readying link) :
    ∃ s' call', s.step (.ready c false) = some s' ∧ s'.call? c = some call' ∧ call.Seeks s.now call' := by
  obtain ⟨call', hseeks, hafter⟩ := (s.closeLink link).call?_checkOut c call
  refine ⟨(s.closeLink link).checkOut c call, call', ?_, by rw [hafter, if_pos rfl], hseeks⟩
  simp [step, hcall, hstage]

/-- A request is sent on a connection that is usable. -/
theorem step_usable {link : Nat} (hcall : s.call? c = some call) (hstage : call.stage = .readying link)
    (hsendable : call.target.isSendable = true) :
    ∃ s' call', s.step (.ready c true) = some s' ∧ s'.call? c = some call' ∧ call'.target = call.target ∧
      call'.stage = .awaiting link true := by
  have hsent : (s.submit c call link true).call? c = some (call.submitted s.now link true) := by
    rw [call?_submit_eq, if_pos rfl]
  rw [RequestCall.submitted, if_pos hsendable] at hsent
  refine ⟨s.submit c call link true, _, ?_, hsent, rfl, rfl⟩
  simp [step, hcall, hstage]

/-- When the connection is lost, the request makes its own. -/
theorem step_lost {link : Nat} (hcall : s.call? c = some call) (hstage : call.stage = .awaiting link true) :
    ∃ s', s.step (.lost c) = some s' ∧ s'.call? c = some (call.connecting s.now) := by
  refine ⟨(s.closeLink link).connect c call, ?_, ?_⟩
  · simp [step, hcall, hstage]
  · rw [call?_connect, if_pos rfl]
    rfl

/-- **A request that has taken a connection** goes through the pool, until it makes one of its own. -/
theorem drains (usable : Nat → Bool) {link : Nat} (hcall : s.call? c = some call) (htarget : call.target = target)
    (hsendable : target.isSendable = true) (hstage : call.stage = .readying link) :
    ∃ steps s' call', s.History steps s' ∧ s'.call? c = some call' ∧ call'.Gets target c [] ∧
      ∀ t ∈ steps, GoesThrough usable c t := by
  -- the pool gets smaller with every connection that is taken
  induction hcount : s.pool.count target.url.poolKey using Nat.strongRecOn generalizing s call link with
  | ind count ih =>
    have hready : ∀ s', GoesThrough usable c ⟨s, .ready c (usable link), s'⟩ := fun _ => goesThrough_ready hcall hstage
    cases husable : usable link with
    | true =>
      rw [husable] at hready
      obtain ⟨s₁, call₁, hstep₁, hcall₁, htarget₁, hstage₁⟩ := step_usable hcall hstage (htarget ▸ hsendable)
      obtain ⟨s₂, hstep₂, hcall₂⟩ := step_lost hcall₁ hstage₁
      refine ⟨_, s₂, _, (History.one hstep₁).append (History.one hstep₂), hcall₂, .start (htarget₁.trans htarget), ?_⟩
      intro t ht
      rcases List.mem_pair.mp ht with rfl | rfl
      · exact hready s₁
      · exact goesThrough_lost hcall₁ hstage₁
    | false =>
      rw [husable] at hready
      obtain ⟨s₁, call₁, hstep₁, hcall₁, hseeks⟩ := step_unusable hcall hstage
      cases hseeks with
      | none =>
        refine ⟨_, s₁, _, History.one hstep₁, hcall₁, .start htarget, fun t ht => ?_⟩
        obtain rfl := List.mem_singleton.mp ht
        exact hready s₁
      | @found link₁ =>
        have htaken := count_of_readying hstep₁ rfl hcall₁ rfl
        simp only [htarget, hcount] at htaken
        obtain ⟨steps, s', call', hrest, hcall', hgets, hsteps⟩ := ih _ htaken hcall₁ htarget rfl rfl
        refine ⟨_, s', call', (History.one hstep₁).append hrest, hcall', hgets, fun t ht => ?_⟩
        rcases List.mem_append.mp ht with ht | ht
        · obtain rfl := List.mem_singleton.mp ht
          exact hready s₁
        · exact hsteps t ht

theorem Carries.append {later : List ClientTransition} (h : first.Carries c target timeout steps s)
    (hlater : s.History later s') (hstays : ∀ t ∈ later, Stays c t) :
    first.Carries c target timeout (steps ++ later) s' := by
  refine ⟨h.past.append hlater, ?_, ?_⟩
  · rw [List.map_append, List.head?_append, h.begins]
    rfl
  · intro t ht
    exact (List.mem_append.mp ht).elim (h.stays t) (hstays t)

/-- **A request can get answers** once it has gone through the pool of a client, whichever of the
connections there prove usable. -/
def CanGet (first : Client) (c : Nat) (target : Target) (timeout : Duration) (usable : Nat → Bool)
    (answers : List ClientLabel) : Prop :=
  ∃ steps s call, first.Carries c target timeout steps s ∧ (∀ t ∈ steps, Proves usable c t) ∧
    steps.filterMap (answer? c) = answers ∧ s.call? c = some call ∧ call.Gets target c answers

theorem canGet_nil (hnew : first.call? c = none) (hsendable : target.isSendable = true) (usable : Nat → Bool) :
    first.CanGet c target timeout usable [] := by
  have hstep : first.step (.begin c target timeout) =
      some (first.checkOut c { target, timeout, watch := .start first.now, stage := .resolving }) := by
    simp only [step, hnew]
  generalize first.checkOut c _ = s at hstep
  obtain ⟨_, call, hcall, hseeks⟩ := seeks_of_begin hstep
  have hmade : first.Carries c target timeout [⟨first, .begin c target timeout, s⟩] s :=
    ⟨History.one hstep, rfl, by simp [Stays]⟩
  have hproves : ∀ t ∈ [(⟨first, .begin c target timeout, s⟩ : ClientTransition)], Proves usable c t := by
    intro t ht
    obtain rfl := List.mem_singleton.mp ht
    exact ⟨by simp [hnew], by simp [stands, hnew]⟩
  have hsilent := answers_begin first s c target timeout
  cases hseeks with
  | none => exact ⟨_, s, _, hmade, hproves, hsilent, hcall, .start rfl⟩
  | found =>
    obtain ⟨steps, s', call', hrest, hcall', hgets, hsteps⟩ := drains usable hcall rfl hsendable rfl
    refine ⟨_, s', call', hmade.append hrest fun t ht => (hsteps t ht).stays, ?_, ?_, hcall', hgets⟩
    · intro t ht
      exact (List.mem_append.mp ht).elim (hproves t) fun ht => (hsteps t ht).proves
    · rw [List.filterMap_append, hsilent, List.nil_append, List.filterMap_eq_nil_iff]
      exact fun t ht => (hsteps t ht).silent

/-- **What one request is answered**, another can be that made its own connection and got the same before. -/
theorem CanGet.snoc {usable : Nat → Bool} {answers : List ClientLabel} {other other' : Client} {call' : RequestCall}
    (h : first.CanGet c target timeout usable answers) (hcall' : other.call? c = some call')
    (hgets' : call'.Gets target c answers) (hstep : other.step label = some other') (hlabel : label.answers? = some c) :
    first.CanGet c target timeout usable (answers ++ [label]) := by
  obtain ⟨steps, s, call, hcarries, hproves, rfl, hcall, hgets⟩ := h
  obtain ⟨s', _, _, hstep', _⟩ := step_of_alike hcall' hcall (hgets'.alike hgets) hlabel hstep
  have hown := hgets.own
  have hstays : Stays c ⟨s, label, s'⟩ := by
    constructor <;> rintro rfl <;> cases hlabel
  have hanswer : answer? c ⟨s, label, s'⟩ = some label := by
    simp [answer?, stands_eq hcall, hown.not_awaits, hlabel]
  have hproved : Proves usable c ⟨s, label, s'⟩ := by
    refine ⟨?_, ?_⟩
    · intro call₀ link hcall₀ hstage
      obtain rfl := Option.some.inj (hcall.symm.trans hcall₀)
      rw [hstage] at hown
      cases hown
    · intro hawaits
      rw [stands_eq hcall, hown.not_awaits] at hawaits
      cases hawaits
  obtain ⟨after, hafter, hgets⟩ := gets_of_step hcall hgets hstep' hstays
  rw [hanswer] at hgets
  refine ⟨_, s', after, hcarries.append (History.one hstep') ?_, ?_, ?_, hafter, hgets⟩
  · intro t ht
    obtain rfl := List.mem_singleton.mp ht
    exact hstays
  · intro t ht
    rcases List.mem_append.mp ht with ht | ht
    · exact hproves t ht
    · obtain rfl := List.mem_singleton.mp ht
      exact hproved
  · rw [answers_snoc, hanswer]
    rfl

/-- **What happens with an empty pool** can happen with every other one that is stale. -/
theorem canGet_of_empty {other other' : Client} {others : List ClientTransition}
    (h : other.Carries c target timeout others other') (hempty : other.pool.count target.url.poolKey = 0)
    (hnew : first.call? c = none) (hsendable : target.isSendable = true) (usable : Nat → Bool) :
    first.CanGet c target timeout usable (others.filterMap (answer? c)) := by
  have hboth : (∃ call', other'.call? c = some call' ∧ call'.Gets target c (others.filterMap (answer? c))) ∧
      first.CanGet c target timeout usable (others.filterMap (answer? c)) := by
    refine invariant_of_begins (P := fun others other' =>
      (∃ call', other'.call? c = some call' ∧ call'.Gets target c (others.filterMap (answer? c))) ∧
        first.CanGet c target timeout usable (others.filterMap (answer? c))) h.past h.begins h.stays ?_ ?_
    · intro other' hstep
      rw [answers_begin]
      exact ⟨gets_of_begin hstep hempty, canGet_nil hnew hsendable usable⟩
    · rintro others other' label next ⟨⟨call', hcall', hgets'⟩, hcan⟩ hstep hstays
      refine ⟨answers_snoc c .. ▸ gets_of_step hcall' hgets' hstep hstays, ?_⟩
      rw [answers_snoc]
      cases hanswer : answer? c ⟨other', label, next⟩ with
      | none =>
        rw [Option.toList_none, List.append_nil]
        exact hcan
      | some answer =>
        obtain ⟨rfl, hlabel⟩ := eq_of_answer? hanswer
        exact hcan.snoc hcall' hgets' hstep hlabel
  exact hboth.2

/-! ## The same result -/

theorem result_exchange? (hcall : s.call? c = some call) : (s.exchange? c).map (·.result) = call.stage.result? := by
  rw [exchange?, hcall, Option.bind_some]
  cases call.stage <;> rfl

/-- **The answers decide the result**: a request that finds stale connections only comes to the one that it
comes to with none. -/
theorem FaresAt.result_eq {other other' : Client} {others : List ClientTransition}
    (h : first.FaresAt target c steps s call) (h' : other.Carries c target timeout others other')
    (hempty : other.pool.count target.url.poolKey = 0)
    (hanswers : steps.filterMap (answer? c) = others.filterMap (answer? c)) :
    (s.exchange? c).map (·.result) = (other'.exchange? c).map (·.result) := by
  obtain ⟨call', hcall', hgets'⟩ := h'.gets hempty
  have hfares := h.fares
  rw [result_exchange? h.present, result_exchange? hcall']
  rw [hanswers] at hfares
  rcases hfares.gets_or_none with hgets | ⟨hnone, hsilent⟩
  · exact (hgets.alike hgets').stage.result?_eq
  · -- without an answer the other one is still on the way to its connection
    rw [hsilent] at hgets'
    have hstart : (call.connecting s.now).Gets target c [] := .start hfares.target_eq
    rw [hnone, (hgets'.alike hstart).stage.result?_eq, RequestCall.result?_connecting]

/-- **A response came over a new connection.** -/
theorem FaresAt.new_of_ok {x : Exchange} {r : Response} (h : first.FaresAt target c steps s call)
    (past : first.History steps s) (hnew : first.call? c = none) (hended : call.stage = .ended x)
    (hr : x.result = .ok r) :
    x.phases.reused = some false ∧ x.phases.connect.isSome = true := by
  obtain ⟨hcall, hfares, _⟩ := h
  obtain ⟨_, hphases, hsent⟩ := (observed_of_history past hnew hcall).standing_at hended
  obtain ⟨pooled, hsent⟩ := hsent r hr
  have hreused : x.phases.reused = some false := by
    rcases hfares.gets_or_none with hgets | ⟨hnone, _⟩
    · have hanew := hgets.sentAnew
      rw [RequestCall.SentAnew, hended] at hanew
      exact hanew r hr
    · rw [hended] at hnone
      cases hnone
  have hpooled : some pooled = some false := by
    rw [← hsent.reused, ← hreused, hphases]
    rfl
  exact ⟨hreused, hphases ▸ hsent.connected (Option.some.inj hpooled)⟩

/-- **Stale connections change no result.** A request that finds only such in the pool comes to the same
result as one with an empty pool that gets the same answers. It attempts one connection, is sent on it at
most once, and at most once before; over a response it says that the connection is a new one. What it tries
before are the connections of the pool, with those that come in meanwhile. And whatever the pool is and
whichever of its connections prove usable, what happens with an empty pool can happen with it. -/
theorem stale_as_empty {other other' : Client} {others : List ClientTransition} (hsendable : target.isSendable = true)
    (h : first.Carries c target timeout steps s) (hstale : Stale c steps)
    (h' : other.Carries c target timeout others other') (hempty : other.pool.count target.url.poolKey = 0)
    (hanswers : steps.filterMap (answer? c) = others.filterMap (answer? c)) :
    (s.exchange? c).map (·.result) = (other'.exchange? c).map (·.result) ∧
    (steps.countP (attempts c) ≤ 1 ∧ steps.countP (sendsOn c false) ≤ 1 ∧ steps.countP (sendsOn c true) ≤ 1) ∧
    (∀ x, s.exchange? c = some x → steps.countP (attempts c) = 1 ∧
      ∀ r, x.result = .ok r → x.phases.reused = some false ∧ x.phases.connect.isSome = true) ∧
    steps.countP (tries c) ≤ first.pool.count target.url.poolKey + steps.countP (returns target.url.poolKey) ∧
    ∀ (any : Client) (usable : Nat → Bool), any.call? c = none → ∃ steps s,
      any.Carries c target timeout steps s ∧ (∀ t ∈ steps, Proves usable c t) ∧
      steps.filterMap (answer? c) = others.filterMap (answer? c) ∧
      (s.exchange? c).map (·.result) = (other'.exchange? c).map (·.result) := by
  obtain ⟨call, hfares⟩ := h.faresAt hsendable hstale
  refine ⟨hfares.result_eq h' hempty hanswers, hfares.fares.counts, ?_, ?_, ?_⟩
  · intro x hx
    obtain ⟨call', hcall', hended⟩ := exchange?_eq_some hx
    obtain rfl := Option.some.inj (hfares.present.symm.trans hcall')
    exact ⟨hfares.fares.attempted_of_ended hended, fun r hr => hfares.new_of_ok h.past h.new hended hr⟩
  · have htried := hfares.tried
    omega
  · intro any usable hnew
    obtain ⟨steps, s, _, hcarries, hproves, hsame, _⟩ := canGet_of_empty h' hempty hnew hsendable usable
    obtain ⟨_, hfares⟩ := hcarries.faresAt hsendable fun t ht hawaits _ => (hproves t ht).lost hawaits
    exact ⟨steps, s, hcarries, hproves, hsame, hfares.result_eq h' hempty hsame⟩

/-! ## Two stale connections -/

theorem Carries.of_playFrom {labels : List ClientLabel} {r : List ClientTransition × Client}
    (hplay : playFrom Client.step first (.begin c target timeout :: labels) = some r)
    (hstays : ∀ label ∈ labels, label ≠ .leave c ∧ label ≠ .expire c) : first.Carries c target timeout r.1 r.2 := by
  have hlabels := map_label_of_playFrom hplay
  refine ⟨.of_playFrom hplay, by rw [hlabels]; rfl, fun t ht => ?_⟩
  have hlabel : t.label ∈ ClientLabel.begin c target timeout :: labels := hlabels ▸ List.mem_map_of_mem ht
  rcases List.mem_cons.mp hlabel with hbegin | hlabel
  · rw [Stays, hbegin]
    exact ⟨nofun, nofun⟩
  · exact hstays _ hlabel

/-- A client that keeps two connections for a target. -/
def keeping (target : Target) : Client where
  pool := { room := 2, idle := [(target.url.poolKey, 0), (target.url.poolKey, 1)] }
  links := [{ key := target.url.poolKey }, { key := target.url.poolKey }]

/-- A request tries what is in the pool, and is answered on a connection of its own. -/
def playTrying (tried : List ClientLabel) : List ClientLabel :=
  let head : ResponseHead := { old := false, status := 200, fields := {}, frame := .counted 0, goesOn := true }
  .begin 0 (localTarget true) (.seconds 5) :: (tried ++ [.connected 0 (.ok ()), .answered 0 head, .received 0 (.ok [])])

/-- One of the two is not usable, and the other is lost. -/
theorem stale_as_empty_of_two :
    ∃ steps s x, (keeping (localTarget true)).Carries 0 (localTarget true) (.seconds 5) steps s ∧
      steps.countP (tries 0) = 2 ∧ steps.countP (sendsOn 0 true) = 1 ∧ s.exchange? 0 = some x ∧
      steps.countP (attempts 0) = 1 ∧ x.phases.reused = some false := by
  let tried : List ClientLabel := [.ready 0 false, .ready 0 true, .lost 0]
  obtain ⟨⟨steps, s⟩, hplay⟩ : ∃ r, playFrom step (keeping (localTarget true)) (playTrying tried) = some r := ⟨_, rfl⟩
  obtain ⟨⟨others, other⟩, hplay'⟩ : ∃ r, playFrom step (ofRoom 2) (playTrying []) = some r := ⟨_, rfl⟩
  have hread : ∀ {A : Type} (f : List ClientTransition × Client → A) (a : A),
      (playFrom step (keeping (localTarget true)) (playTrying tried)).map f = some a → f (steps, s) = a := by
    intro A f a hf
    rw [hplay] at hf
    exact Option.some.inj hf
  have hanswers : steps.filterMap (answer? 0) = others.filterMap (answer? 0) := by
    refine hread (fun r => r.1.filterMap (answer? 0)) _ ?_
    rw [← Option.map_some (f := fun r : List ClientTransition × Client => r.1.filterMap (answer? 0))
      (a := (others, other)), ← hplay']
    rfl
  have hstale : Stale 0 steps := by
    have hlabels := hread (fun r => r.1.map fun t => (t.before.stands 0 (·.awaits true), t.label))
      ([false, false, false, true, false, false, false].zip (playTrying tried)) rfl
    intro t ht hawaits _
    have hmem := hlabels ▸ List.mem_map_of_mem
      (f := fun t : ClientTransition => (t.before.stands 0 (·.awaits true), t.label)) ht
    simpa [playTrying, tried, hawaits] using hmem
  obtain ⟨_, _, hended, _⟩ := stale_as_empty rfl (.of_playFrom hplay (by simp [tried])) hstale
    (.of_playFrom hplay' (by simp)) rfl hanswers
  have hok := hread (fun r => (r.2.exchange? 0).any fun x => x.result.isOk) true rfl
  rw [Option.any_eq_true] at hok
  obtain ⟨x, hx, hok⟩ := hok
  obtain ⟨hattempts, hnew⟩ := hended x hx
  obtain ⟨r, hr⟩ : ∃ r, x.result = .ok r := by
    cases hr : x.result with
    | ok r => exact ⟨r, rfl⟩
    | error => rw [hr] at hok; cases hok
  exact ⟨steps, s, x, .of_playFrom hplay (by simp [tried]), hread (fun r => r.1.countP (tries 0)) 2 rfl,
    hread (fun r => r.1.countP (sendsOn 0 true)) 1 rfl, hx, hattempts, (hnew r hr).1⟩

end Client

end HttpBench
