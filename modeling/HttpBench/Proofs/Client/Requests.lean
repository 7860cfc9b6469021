import HttpBench.Proofs.Client.Reuse

/-!
# One request of a client

What a step of a client does to the request of one caller. A step of another caller, a connection that
closes and the passing of time leave it alone; every step of its own takes it from where it stands to
where it goes on (`RequestCall.Turns`). Nothing of the rest of the client counts, except for what the
pool has to offer, of which a request finds some connection or none (`RequestCall.Seeks`).
-/

namespace HttpBench

namespace RequestCall

/-- A request that starts a new connection. -/
def connecting (call : RequestCall) (now : Instant) : RequestCall :=
  let host := call.target.url.host
  if host.isAddress then { call with watch := call.watch.note .connectStart now, stage := .dialling host }
  else { call with watch := call.watch.note .dnsStart now, stage := .resolving }

/-- A request that is over. -/
def endedWith (call : RequestCall) (now : Instant) (result : Except Failure Response) : RequestCall :=
  { call with stage := .ended (call.exchange now result) }

/-- A request that is sent on a connection, if it can be sent at all. -/
def submitted (call : RequestCall) (now : Instant) (link : Nat) (pooled : Bool) : RequestCall :=
  let sent : RequestCall := { call with
    watch := (call.watch.noteReused pooled).note .requestSent now
    stage := .awaiting link pooled }
  if call.target.isSendable then sent else sent.endedWith now (.error (.request "uri too long"))

/-- **Look for a connection**: take one from the pool, or start a new one. -/
inductive Seeks (call : RequestCall) (now : Instant) : RequestCall → Prop
  | found {link : Nat} : Seeks call now { call with stage := .readying link }
  | none : Seeks call now (call.connecting now)

/-- **What a step does to the request** of the caller that it is a step of. -/
inductive Turns (now : Instant) (c : Nat) : ClientLabel → Option RequestCall → Option RequestCall → Prop
  | begin {target : Target} {timeout : Duration} {call : RequestCall}
      (hseeks : Seeks { target, timeout, watch := .start now, stage := .resolving } now call) :
      Turns now c (.begin c target timeout) none (some call)
  | reuse {call : RequestCall} {link : Nat} (hstage : call.stage = .readying link) :
      Turns now c (.ready c true) (some call) (some (call.submitted now link true))
  | reject {call call' : RequestCall} {link : Nat} (hstage : call.stage = .readying link)
      (hseeks : call.Seeks now call') : Turns now c (.ready c false) (some call) (some call')
  | resolve {call : RequestCall} {address : Host} {others : List Host} (hstage : call.stage = .resolving) :
      Turns now c (.resolved c (.ok (address :: others))) (some call)
        (some { call with
          watch := (call.watch.note .dnsEnd now).note .connectStart now
          stage := .dialling address })
  | connect {call : RequestCall} {address : Host} {link : Nat} (hstage : call.stage = .dialling address)
      (hscheme : call.target.url.scheme = .http) :
      Turns now c (.connected c (.ok ())) (some call)
        (some ({ call with watch := call.watch.note .connectEnd now }.submitted now link false))
  | secure {call : RequestCall} {address : Host} (hstage : call.stage = .dialling address)
      (hscheme : call.target.url.scheme = .https) :
      Turns now c (.connected c (.ok ())) (some call)
        (some { call with
          watch := (call.watch.note .connectEnd now).note .tlsStart now
          stage := .securing })
  | shake {call : RequestCall} {link : Nat} (hstage : call.stage = .securing) :
      Turns now c (.secured c (.ok ())) (some call)
        (some ({ call with watch := call.watch.note .tlsEnd now }.submitted now link false))
  | answer {call : RequestCall} {link : Nat} {pooled : Bool} {head : ResponseHead}
      (hstage : call.stage = .awaiting link pooled) :
      Turns now c (.answered c head) (some call)
        (some { call with watch := call.watch.note .firstByte now, stage := .reading link head })
  | retry {call : RequestCall} {link : Nat} (hstage : call.stage = .awaiting link true) :
      Turns now c (.lost c) (some call) (some (call.connecting now))
  | complete {call : RequestCall} {link : Nat} {head : ResponseHead} {body : List UInt8}
      (hstage : call.stage = .reading link head) :
      Turns now c (.received c (.ok body)) (some call)
        (some ({ call with watch := call.watch.note .complete now }.endedWith now (.ok (response head body))))
  | fail {call : RequestCall} {label : ClientLabel} {f : Failure} (hfails : call.Fails now c label f) :
      Turns now c label (some call) (some (call.endedWith now (.error f)))
  | leave {call : RequestCall} : Turns now c (.leave c) (some call) none

section
variable {call call' : RequestCall} {now : Instant} {c : Nat} {label : ClientLabel} {before after : Option RequestCall}

theorem Seeks.asks (h : call.Seeks now call') : call'.target = call.target ∧ call'.timeout = call.timeout := by
  cases h with
  | found => exact ⟨rfl, rfl⟩
  | none =>
    unfold connecting
    dsimp only
    split_ifs <;> exact ⟨rfl, rfl⟩

/-- **What a request asks for** is settled when it is made. -/
theorem Turns.asks (h : Turns now c label before after) (hafter : after = some call') :
    label = .begin c call'.target call'.timeout ∨
      ∃ call, before = some call ∧ call'.target = call.target ∧ call'.timeout = call.timeout := by
  have hsubmitted : ∀ (call : RequestCall) link pooled, (call.submitted now link pooled).target = call.target ∧
      (call.submitted now link pooled).timeout = call.timeout := by
    intro call link pooled
    unfold submitted
    dsimp only
    split_ifs <;> exact ⟨rfl, rfl⟩
  cases h with
  | begin hseeks =>
    obtain rfl := Option.some.inj hafter
    exact .inl (by rw [hseeks.asks.1, hseeks.asks.2])
  | reject _ hseeks =>
    obtain rfl := Option.some.inj hafter
    exact .inr ⟨_, rfl, hseeks.asks⟩
  | reuse | connect | shake =>
    obtain rfl := Option.some.inj hafter
    exact .inr ⟨_, rfl, hsubmitted ..⟩
  | @retry call =>
    obtain rfl := Option.some.inj hafter
    exact .inr ⟨call, rfl, Seeks.none.asks⟩
  | @resolve call | @secure call | @answer call | @complete call | @fail call =>
    obtain rfl := Option.some.inj hafter
    exact .inr ⟨call, rfl, rfl, rfl⟩
  | leave => cases hafter

end

end RequestCall

namespace Client

variable {s s' : Client} {c : Nat} {call : RequestCall} {label : ClientLabel}

theorem connect_eq_setCall (s : Client) (c : Nat) (call : RequestCall) :
    s.connect c call = s.setCall c (call.connecting s.now) := by
  unfold connect RequestCall.connecting
  dsimp only
  split_ifs <;> rfl

@[simp] theorem call?_connect (s : Client) (c c' : Nat) (call : RequestCall) :
    (s.connect c call).call? c' = if c' = c then some (call.connecting s.now) else s.call? c' := by
  rw [connect_eq_setCall, call?_setCall]

@[simp] theorem call?_closeLink (s : Client) (link c : Nat) : (s.closeLink link).call? c = s.call? c := rfl

@[simp] theorem call?_finish (s : Client) (c c' : Nat) (call : RequestCall) (result : Except Failure Response) :
    (s.finish c call result).call? c' = if c' = c then some (call.endedWith s.now result) else s.call? c' := by
  rw [finish, call?_setCall, call?_closeHeld]
  rfl

theorem call?_submit_eq (s : Client) (c c' : Nat) (call : RequestCall) (link : Nat) (pooled : Bool) :
    (s.submit c call link pooled).call? c' =
      if c' = c then some (call.submitted s.now link pooled) else s.call? c' := by
  unfold submit RequestCall.submitted
  dsimp only
  split_ifs <;> simp [*]

@[simp] theorem call?_complete (s : Client) (c c' : Nat) (call : RequestCall) (link : Nat) (head : ResponseHead)
    (body : List UInt8) :
    (s.complete c call link head body).call? c' = if c' = c then some
      ({ call with watch := call.watch.note .complete s.now }.endedWith s.now (.ok (RequestCall.response head body)))
      else s.call? c' := by
  unfold complete keep
  dsimp only
  rw [call?_setCall]
  split_ifs
  · rfl
  · cases s.pool.give call.target.url.poolKey link <;> rfl
  · rfl

/-- A request that looks for a connection finds one, or starts its own. -/
theorem call?_checkOut (s : Client) (c : Nat) (call : RequestCall) :
    ∃ call', call.Seeks s.now call' ∧
      ∀ c', (s.checkOut c call).call? c' = if c' = c then some call' else s.call? c' := by
  obtain ⟨idle, _, ⟨link, _, heq⟩ | heq⟩ := s.checkOut_eq c call
  · exact ⟨_, .found, fun c' => by rw [heq, call?_setCall]; rfl⟩
  · exact ⟨_, .none, fun c' => by rw [heq, call?_connect]; rfl⟩

/-- **A step takes the request of its own caller on**, and leaves those of all others alone. -/
theorem turns_of_step (hstep : s.step label = some s') (c : Nat) :
    label.caller? = some c ∧ RequestCall.Turns s.now c label (s.call? c) (s'.call? c) ∨
      label.caller? ≠ some c ∧ s'.call? c = s.call? c := by
  by_cases hc : label.caller? = some c
  · refine .inl ⟨hc, ?_⟩
    cases happens_of_step hstep with
    | begin hcall =>
      obtain rfl := Option.some.inj hc
      obtain ⟨call', hseeks, hafter⟩ := s.call?_checkOut _ _
      rw [hcall, hafter, if_pos rfl]
      exact .begin hseeks
    | @reject _ link call hcall hstage =>
      obtain rfl := Option.some.inj hc
      obtain ⟨call', hseeks, hafter⟩ := (s.closeLink link).call?_checkOut _ call
      rw [hcall, hafter, if_pos rfl]
      exact .reject hstage hseeks
    | reuse hcall hstage =>
      obtain rfl := Option.some.inj hc
      rw [hcall, call?_submit_eq, if_pos rfl]
      exact .reuse hstage
    | resolve hcall hstage =>
      obtain rfl := Option.some.inj hc
      rw [hcall, dial, call?_setCall, if_pos rfl]
      exact .resolve hstage
    | connect hcall hstage hscheme =>
      obtain rfl := Option.some.inj hc
      rw [hcall, opened, call?_submit_eq, if_pos rfl]
      exact .connect hstage hscheme
    | secure hcall hstage hscheme =>
      obtain rfl := Option.some.inj hc
      rw [hcall, call?_setCall, if_pos rfl]
      exact .secure hstage hscheme
    | shake hcall hstage =>
      obtain rfl := Option.some.inj hc
      rw [hcall, opened, call?_submit_eq, if_pos rfl]
      exact .shake hstage
    | answer hcall hstage =>
      obtain rfl := Option.some.inj hc
      rw [hcall, call?_setCall, if_pos rfl]
      exact .answer hstage
    | retry hcall hstage =>
      obtain rfl := Option.some.inj hc
      rw [hcall, call?_connect, if_pos rfl]
      exact .retry hstage
    | complete hcall hstage =>
      obtain rfl := Option.some.inj hc
      rw [hcall, call?_complete, if_pos rfl]
      exact .complete hstage
    | @fail c' _ _ _ hcall hfails =>
      obtain rfl : c' = c := by cases hfails <;> exact Option.some.inj hc
      rw [hcall, call?_finish, if_pos rfl]
      exact .fail hfails
    | leave hcall =>
      obtain rfl := Option.some.inj hc
      rw [hcall, call?_dropCall, if_pos rfl]
      exact .leave
    | close | pass => cases hc
  · refine .inr ⟨hc, ?_⟩
    have hne : ∀ {c'}, label.caller? = some c' → c ≠ c' := fun hcaller hcc =>
      hc (hcaller.trans (congrArg some hcc.symm))
    cases happens_of_step hstep with
    | begin =>
      obtain ⟨_, _, hafter⟩ := s.call?_checkOut _ _
      rw [hafter, if_neg (hne rfl)]
    | @reject _ link call =>
      obtain ⟨_, _, hafter⟩ := (s.closeLink link).call?_checkOut _ call
      rw [hafter, if_neg (hne rfl), call?_closeLink]
    | reuse => rw [call?_submit_eq, if_neg (hne rfl)]
    | resolve => rw [dial, call?_setCall, if_neg (hne rfl)]
    | connect | shake =>
      rw [opened, call?_submit_eq, if_neg (hne rfl)]
      rfl
    | secure | answer => rw [call?_setCall, if_neg (hne rfl)]
    | retry => rw [call?_connect, if_neg (hne rfl), call?_closeLink]
    | complete => rw [call?_complete, if_neg (hne rfl)]
    | @fail c' _ _ _ _ hfails =>
      have hcaller : label.caller? = some c' := by cases hfails <;> rfl
      rw [call?_finish, if_neg (hne hcaller)]
    | leave => rw [call?_dropCall, if_neg (hne rfl), call?_closeHeld]
    | close | pass => rfl

/-- **Time passes only by itself**, and never goes back. -/
theorem now_of_step (hstep : s.step label = some s') :
    s'.now = s.now ∨ label.caller? = none ∧ s.now.nanos ≤ s'.now.nanos := by
  have hconnect : ∀ (s : Client) c call, (s.connect c call).now = s.now := by
    intro s c call
    rw [connect_eq_setCall]
    rfl
  have hcheckOut : ∀ (s : Client) c call, (s.checkOut c call).now = s.now := by
    intro s c call
    obtain ⟨idle, _, ⟨link, _, heq⟩ | heq⟩ := s.checkOut_eq c call
    · rw [heq]
      rfl
    · rw [heq, hconnect]
  have hfinish : ∀ (s : Client) c call result, (s.finish c call result).now = s.now := by
    intro s c call result
    obtain ⟨links, x, heq, _⟩ := s.finish_eq c call result
    rw [heq]
    rfl
  have hsubmit : ∀ (s : Client) c call link pooled, (s.submit c call link pooled).now = s.now := by
    intro s c call link pooled
    obtain ⟨links, watch, stage, heq, _⟩ := s.submit_eq c call link pooled
    rw [heq]
    rfl
  cases happens_of_step hstep with
  | begin => exact .inl (hcheckOut ..)
  | reject => exact .inl (hcheckOut ..)
  | reuse => exact .inl (hsubmit ..)
  | connect | shake => exact .inl (hsubmit ..)
  | retry => exact .inl (hconnect ..)
  | fail => exact .inl (hfinish ..)
  | @complete c link call head body =>
    obtain ⟨links, pool, watch, x, heq, _⟩ := s.complete_eq c call link head body
    exact .inl (by rw [heq]; rfl)
  | @leave c call =>
    refine .inl ?_
    unfold dropCall closeHeld
    split <;> rfl
  | resolve | secure | answer | close => exact .inl rfl
  | pass => exact .inr ⟨rfl, Nat.le_add_right _ _⟩

end Client

end HttpBench
