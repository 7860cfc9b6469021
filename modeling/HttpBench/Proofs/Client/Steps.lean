import HttpBench.Client.Basic
import HttpBench.Proofs.History
import HttpBench.Proofs.Keyed

/-!
# One step of a client

What a step of a client does to its requests, its pool and its connections. `Client.Happens` lists
the steps with what each needs and where it leads, and `RequestCall.Fails` those that end a request
without a response; both are read off a step once (`Client.happens_of_step`).
-/

namespace HttpBench

@[simp] theorem Stopwatch.reused_note (w : Stopwatch) (event : Milestone) (now : Instant) :
    (w.note event now).reused = w.reused := by
  cases event <;> rfl

/-- **How a request fails**: what it stands at, what comes, and the failure. -/
inductive RequestCall.Fails (now : Instant) (c : Nat) (call : RequestCall) : ClientLabel → Failure → Prop
  | lookUp {e : String} (hstage : call.stage = .resolving) :
      Fails now c call (.resolved c (.error e)) (.dns (call.target.url.host.plainText ++ ": " ++ e))
  | nowhere (hstage : call.stage = .resolving) :
      Fails now c call (.resolved c (.ok [])) (.dns (call.target.url.host.plainText ++ ": no addresses returned"))
  | dial {address : Host} {e : String} (hstage : call.stage = .dialling address) :
      Fails now c call (.connected c (.error e)) (.connect (call.endpoint address ++ ": " ++ e))
  | handshake {e : String} (hstage : call.stage = .securing) : Fails now c call (.secured c (.error e)) (.tls e)
  | lost {link : Nat} (hstage : call.stage = .awaiting link false) :
      Fails now c call (.lost c) (.protocol "connection closed before message completed")
  | broken {link : Nat} {pooled : Bool} {e : HeadError} (hstage : call.stage = .awaiting link pooled) :
      Fails now c call (.broken c e) (.protocol e.message)
  | body {link : Nat} {head : ResponseHead} {e : BodyError} (hstage : call.stage = .reading link head) :
      Fails now c call (.received c (.error e)) (.body e.message)
  | expire (hopen : ∀ x, call.stage ≠ .ended x)
      (htime : call.timeout.nanos ≤ (now.since call.watch.started).nanos) :
      Fails now c call (.expire c) (.timeout call.timeout.wholeMillis)

namespace Pool

variable {isClosed : Nat → Bool} {key : PoolKey} {link : Nat} {idle : List (PoolKey × Nat)}

theorem takeFrom_sublist (isClosed : Nat → Bool) (key : PoolKey) (idle : List (PoolKey × Nat)) :
    (takeFrom isClosed key idle).2.Sublist idle := by
  induction idle with
  | nil => exact .slnil
  | cons entry rest ih =>
    unfold takeFrom
    split_ifs
    · exact ih.cons _
    · exact List.sublist_cons_self ..
    · exact ih.cons_cons _

/-- What is taken from a pool was in it with that key. -/
theorem mem_of_takeFrom (h : (takeFrom isClosed key idle).1 = some link) : (key, link) ∈ idle := by
  induction idle with
  | nil => cases h
  | cons entry rest ih =>
    unfold takeFrom at h
    split_ifs at h with hkey hclosed
    · exact List.mem_cons_of_mem _ (ih h)
    · obtain rfl := Option.some.inj h
      exact hkey ▸ List.mem_cons_self
    · exact List.mem_cons_of_mem _ (ih h)

end Pool

namespace Client

variable {s s' : Client} {c c' : Nat} {call : RequestCall} {label : ClientLabel}

/-! ## Requests by caller -/

@[simp] theorem call?_setCall (s : Client) (c c' : Nat) (call : RequestCall) :
    (s.setCall c call).call? c' = if c' = c then some call else s.call? c' := by
  by_cases hc : c' = c
  · subst hc
    simp [setCall, call?]
  · have hne : (c == c') = false := by simpa using Ne.symm hc
    have hothers := congrArg (Option.map Prod.snd) (Keyed.find?_others Prod.fst s.calls c c')
    rw [if_neg hc] at hothers
    simpa [setCall, call?, hne, hc] using hothers

@[simp] theorem call?_dropCall (s : Client) (c c' : Nat) :
    (s.dropCall c).call? c' = if c' = c then none else s.call? c' := by
  unfold dropCall call?
  rw [Keyed.find?_others Prod.fst]
  split <;> rfl

@[simp] theorem call?_closeHeld (s : Client) (stage : RequestStage) (c : Nat) :
    (s.closeHeld stage).call? c = s.call? c := by
  unfold closeHeld
  split <;> rfl

@[simp] theorem pool_closeHeld (s : Client) (stage : RequestStage) : (s.closeHeld stage).pool = s.pool := by
  unfold closeHeld
  split <;> rfl

@[simp] theorem pool_setCall (s : Client) (c : Nat) (call : RequestCall) : (s.setCall c call).pool = s.pool := rfl

/-! ## What an operation does -/

/-- A request that starts a new connection looks its host up, or dials at once. -/
theorem connect_eq (s : Client) (c : Nat) (call : RequestCall) :
    ∃ watch stage, s.connect c call = s.setCall c { call with watch, stage } ∧
      watch.reused = call.watch.reused ∧ (stage = .resolving ∨ ∃ address, stage = .dialling address) := by
  unfold connect
  dsimp only
  split_ifs
  · exact ⟨_, _, rfl, rfl, .inr ⟨_, rfl⟩⟩
  · exact ⟨_, _, rfl, rfl, .inl rfl⟩

/-- A request that looks for a connection takes one that is in the pool, or starts a new one. -/
theorem checkOut_eq (s : Client) (c : Nat) (call : RequestCall) :
    ∃ idle, idle.Sublist s.pool.idle ∧
      ((∃ link, (call.target.url.poolKey, link) ∈ s.pool.idle ∧ s.checkOut c call =
          { s with pool := { s.pool with idle } }.setCall c { call with stage := .readying link }) ∨
        s.checkOut c call = { s with pool := { s.pool with idle } }.connect c call) := by
  unfold checkOut Pool.take
  refine ⟨_, Pool.takeFrom_sublist s.isClosed call.target.url.poolKey s.pool.idle, ?_⟩
  cases hfound : (Pool.takeFrom s.isClosed call.target.url.poolKey s.pool.idle).1 with
  | some link =>
    refine .inl ⟨link, Pool.mem_of_takeFrom hfound, ?_⟩
    simp only [hfound]
  | none =>
    refine .inr ?_
    simp only [hfound]

/-- A request that fails changes no pool. -/
theorem finish_eq (s : Client) (c : Nat) (call : RequestCall) (result : Except Failure Response) :
    ∃ links x, s.finish c call result = { s with links }.setCall c { call with stage := .ended x } ∧
      x.phases = call.watch.phases ∧ x.result = result := by
  unfold finish closeHeld
  split
  · exact ⟨_, _, rfl, rfl, rfl⟩
  · exact ⟨_, _, rfl, rfl, rfl⟩

/-- A request that is sent waits for its response, unless it cannot be sent at all. -/
theorem submit_eq (s : Client) (c : Nat) (call : RequestCall) (link : Nat) (pooled : Bool) :
    ∃ links watch stage, s.submit c call link pooled = { s with links }.setCall c { call with watch, stage } ∧
      watch.reused = some pooled ∧ links.length = s.links.length ∧
      (stage = .awaiting link pooled ∨
        ∃ x, stage = .ended x ∧ x.phases = watch.phases ∧ x.result = .error (.request "uri too long")) := by
  unfold submit
  dsimp only
  split_ifs
  · exact ⟨s.links, _, _, rfl, rfl, rfl, .inl rfl⟩
  · refine ⟨_, _, _, rfl, rfl, List.length_modify _ _ _, .inr ⟨_, rfl, rfl, rfl⟩⟩

/-- **A request that is complete** leaves its connection to the pool only if it is to be kept alive. -/
theorem complete_eq (s : Client) (c : Nat) (call : RequestCall) (link : Nat) (head : ResponseHead)
    (body : List UInt8) :
    ∃ links pool watch x, s.complete c call link head body =
        { s with links, pool }.setCall c { call with watch, stage := .ended x } ∧
      watch.reused = call.watch.reused ∧ x.phases = watch.phases ∧
      (pool = s.pool ∨
        call.target.keepAlive = true ∧ pool.idle = (call.target.url.poolKey, link) :: s.pool.idle) := by
  unfold complete keep Pool.give
  dsimp only
  split_ifs with hkeep hroom
  · rw [Bool.and_eq_true] at hkeep
    exact ⟨_, _, _, _, rfl, rfl, rfl, .inr ⟨hkeep.1, rfl⟩⟩
  · exact ⟨_, _, _, _, rfl, rfl, rfl, .inl rfl⟩
  · exact ⟨_, _, _, _, rfl, rfl, rfl, .inl rfl⟩

/-! ## What a step can be -/

/-- **What happens in one step** of a client: what each step needs, and where it leads. -/
inductive Happens (s : Client) : ClientLabel → Client → Prop
  | begin {c : Nat} {target : Target} {timeout : Duration} (hcall : s.call? c = none) :
      Happens s (.begin c target timeout)
        (s.checkOut c { target, timeout, watch := .start s.now, stage := .resolving })
  | reuse {c link : Nat} {call : RequestCall} (hcall : s.call? c = some call) (hstage : call.stage = .readying link) :
      Happens s (.ready c true) (s.submit c call link true)
  | reject {c link : Nat} {call : RequestCall} (hcall : s.call? c = some call) (hstage : call.stage = .readying link) :
      Happens s (.ready c false) ((s.closeLink link).checkOut c call)
  | resolve {c : Nat} {call : RequestCall} {address : Host} {others : List Host} (hcall : s.call? c = some call)
      (hstage : call.stage = .resolving) :
      Happens s (.resolved c (.ok (address :: others)))
        (s.dial c { call with watch := call.watch.note .dnsEnd s.now } address)
  | connect {c : Nat} {call : RequestCall} {address : Host} (hcall : s.call? c = some call)
      (hstage : call.stage = .dialling address) (hscheme : call.target.url.scheme = .http) :
      Happens s (.connected c (.ok ())) (s.opened c { call with watch := call.watch.note .connectEnd s.now })
  | secure {c : Nat} {call : RequestCall} {address : Host} (hcall : s.call? c = some call)
      (hstage : call.stage = .dialling address) (hscheme : call.target.url.scheme = .https) :
      Happens s (.connected c (.ok ()))
        (s.setCall c { call with
          watch := (call.watch.note .connectEnd s.now).note .tlsStart s.now
          stage := .securing })
  | shake {c : Nat} {call : RequestCall} (hcall : s.call? c = some call) (hstage : call.stage = .securing) :
      Happens s (.secured c (.ok ())) (s.opened c { call with watch := call.watch.note .tlsEnd s.now })
  | answer {c link : Nat} {pooled : Bool} {call : RequestCall} {head : ResponseHead} (hcall : s.call? c = some call)
      (hstage : call.stage = .awaiting link pooled) :
      Happens s (.answered c head)
        (s.setCall c { call with watch := call.watch.note .firstByte s.now, stage := .reading link head })
  | retry {c link : Nat} {call : RequestCall} (hcall : s.call? c = some call)
      (hstage : call.stage = .awaiting link true) :
      Happens s (.lost c) ((s.closeLink link).connect c call)
  | complete {c link : Nat} {call : RequestCall} {head : ResponseHead} {body : List UInt8}
      (hcall : s.call? c = some call) (hstage : call.stage = .reading link head) :
      Happens s (.received c (.ok body)) (s.complete c call link head body)
  | fail {c : Nat} {call : RequestCall} {label : ClientLabel} {f : Failure} (hcall : s.call? c = some call)
      (hfails : call.Fails s.now c label f) : Happens s label (s.finish c call (.error f))
  | leave {c : Nat} {call : RequestCall} (hcall : s.call? c = some call) :
      Happens s (.leave c) ((s.closeHeld call.stage).dropCall c)
  | close {link : Nat} (hlink : link < s.links.length) : Happens s (.close link) (s.closeLink link)
  | pass {d : Duration} : Happens s (.pass d) { s with now := s.now.after d }

theorem happens_of_step (h : s.step label = some s') : s.Happens label s' := by
  cases label with
  | begin c target timeout =>
    cases hcall : s.call? c with
    | some call =>
      simp only [step, hcall] at h
      cases h
    | none =>
      simp only [step, hcall] at h
      cases h
      exact .begin hcall
  | ready c usable =>
    obtain ⟨call, hcall, h⟩ := Option.bind_eq_some_iff.mp h
    split at h
    next link hstage =>
      cases usable with
      | true => cases h; exact .reuse hcall hstage
      | false => cases h; exact .reject hcall hstage
    next => cases h
  | resolved c answer =>
    obtain ⟨call, hcall, h⟩ := Option.bind_eq_some_iff.mp h
    split at h
    next hstage =>
      match answer, h with
      | .error e, h => cases h; exact .fail hcall (.lookUp hstage)
      | .ok [], h => cases h; exact .fail hcall (.nowhere hstage)
      | .ok (address :: others), h => cases h; exact .resolve hcall hstage
    next => cases h
  | connected c answer =>
    obtain ⟨call, hcall, h⟩ := Option.bind_eq_some_iff.mp h
    split at h
    next address hstage =>
      match answer, h with
      | .error e, h => cases h; exact .fail hcall (.dial hstage)
      | .ok (), h =>
        cases hscheme : call.target.url.scheme with
        | http => simp only [hscheme] at h; cases h; exact .connect hcall hstage hscheme
        | https => simp only [hscheme] at h; cases h; exact .secure hcall hstage hscheme
    next => cases h
  | secured c answer =>
    obtain ⟨call, hcall, h⟩ := Option.bind_eq_some_iff.mp h
    split at h
    next hstage =>
      match answer, h with
      | .error e, h => cases h; exact .fail hcall (.handshake hstage)
      | .ok (), h => cases h; exact .shake hcall hstage
    next => cases h
  | answered c head =>
    obtain ⟨call, hcall, h⟩ := Option.bind_eq_some_iff.mp h
    split at h
    next hstage => cases h; exact .answer hcall hstage
    next => cases h
  | lost c =>
    obtain ⟨call, hcall, h⟩ := Option.bind_eq_some_iff.mp h
    split at h
    next hstage => cases h; exact .retry hcall hstage
    next hstage => cases h; exact .fail hcall (.lost hstage)
    next => cases h
  | broken c e =>
    obtain ⟨call, hcall, h⟩ := Option.bind_eq_some_iff.mp h
    split at h
    next hstage => cases h; exact .fail hcall (.broken hstage)
    next => cases h
  | received c body =>
    obtain ⟨call, hcall, h⟩ := Option.bind_eq_some_iff.mp h
    split at h
    next link head hstage =>
      match body, h with
      | .error e, h => cases h; exact .fail hcall (.body hstage)
      | .ok body, h => cases h; exact .complete hcall hstage
    next => cases h
  | expire c =>
    obtain ⟨call, hcall, h⟩ := Option.bind_eq_some_iff.mp h
    split at h
    next => cases h
    next hopen =>
      split at h
      next htime => cases h; exact .fail hcall (.expire hopen htime)
      next => cases h
  | leave c =>
    obtain ⟨call, hcall, rfl⟩ := Option.map_eq_some_iff.mp h
    exact .leave hcall
  | close link =>
    simp only [step, Option.ite_none_right_eq_some, Option.some.injEq] at h
    obtain ⟨hlink, rfl⟩ := h
    exact .close hlink
  | pass d =>
    obtain rfl := Option.some.inj h
    exact .pass

def Next (s : Client) (label : ClientLabel) (s' : Client) : Prop := s.step label = some s'

/-- **A history of a client** from a state on. -/
abbrev History (first : Client) : List (Transition Client ClientLabel) → Client → Prop :=
  HttpBench.History Next first

end Client

/-- **A step of a client**, with the states around it. -/
abbrev ClientTransition := Transition Client ClientLabel

end HttpBench
