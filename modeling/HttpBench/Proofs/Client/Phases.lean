import HttpBench.Proofs.Client.Requests
import HttpBench.Proofs.Timing.Stopwatch

/-!
# What the phases of an exchange say

A request may fail or run out of time wherever it stands, also on its second connection after the first
was lost, and its exchange reports the phases that were over by then. They always fit together
(`Exchange.Consistent`): they take no longer than the request, they are those that its host and its
scheme ask for, and a failure leaves those that come before it and none behind.

While a request is under way it is known which of its phases is open, and that no later one has ended
(`RequestCall.Observed`). A connection from the pool has had no phase, so when it is lost the phases of a
new one start from nothing.
-/

namespace HttpBench

/-- **What a failure leaves**: how far the phases got before it. -/
def Failure.Leaves (timeout : Duration) (x : Exchange) : Failure → Prop
  | .dns _ => x.phases.dns = none ∧ x.phases.connect = none ∧ x.phases.tls = none ∧ x.phases.ttfb = none
  | .connect _ => x.phases.connect = none ∧ x.phases.tls = none ∧ x.phases.ttfb = none
  | .tls _ => x.phases.connect.isSome = true ∧ x.phases.tls = none ∧ x.phases.ttfb = none
  | .protocol _ | .request _ => x.phases.ttfb = none
  | .body _ => x.phases.ttfb.isSome = true
  | .timeout _ => timeout.nanos ≤ x.total.nanos

/-- **An exchange is consistent**: its phases fit its total, its result and what was asked for. They have
a sum whenever the total is one that a duration can hold. -/
structure Exchange.Consistent (target : Target) (timeout : Duration) (x : Exchange) : Prop where
  within : x.phases.spent ≤ x.total.nanos
  summed : x.total.nanos ≤ Duration.longest.nanos → x.phases.sum? = some ⟨x.phases.spent⟩
  whole : x.phases.transfer.isSome = true ↔ ∃ r, x.result = .ok r
  answered : ∀ r, x.result = .ok r → x.phases.ttfb.isSome = true
  failed : ∀ f, x.result = .error f → f.Leaves timeout x
  resolved : x.phases.dns.isSome = true → target.url.host.isAddress = false
  secured : x.phases.tls.isSome = true → target.url.scheme = .https

namespace Stopwatch

variable {w : Stopwatch} {pooled : Bool} {now : Instant} {event : Milestone}

theorem isSome_of_span {start stop : Option Instant} (h : (span start stop).isSome = true) : start.isSome = true := by
  cases start with
  | none => cases h
  | some => rfl

/-- **No connection was set up**, as far as was seen. -/
def NoSetup (w : Stopwatch) : Prop := ∀ p : Phase, p.rank < Phase.ttfb.rank → w.stopOf p = none

/-- **A request is sent** on a connection from the pool, or on one that it has connected itself. -/
structure SentOn (w : Stopwatch) (pooled : Bool) : Prop where
  reused : w.reused = some pooled
  untouched : pooled = true → w.NoSetup
  connected : pooled = false → w.phases.connect.isSome = true

theorem sentOn_note (now : Instant) (huntouched : pooled = true → w.NoSetup)
    (hconnected : pooled = false → w.phases.connect.isSome = true) :
    ((w.noteReused pooled).note .requestSent now).SentOn pooled := by
  refine ⟨rfl, fun hpooled p hp => ?_, hconnected⟩
  rw [← huntouched hpooled p hp]
  cases p <;> rfl

/-- What a request was sent on, it was sent on for good. -/
theorem SentOn.note (h : w.SentOn pooled) (hevent : event = .firstByte ∨ event = .complete) :
    (w.note event now).SentOn pooled := by
  obtain ⟨hreused, huntouched, hconnected⟩ := h
  refine ⟨(w.reused_note event now).trans hreused, fun hpooled p hp => ?_, fun hpooled => ?_⟩
  · rw [← huntouched hpooled p hp]
    rcases hevent with rfl | rfl <;> cases p <;> first | rfl | exact absurd hp (by decide)
  · rw [← hconnected hpooled]
    rcases hevent with rfl | rfl <;> rfl

/-- The first byte is where one phase ends and the next begins. -/
theorem Open.answer (h : w.Open .ttfb now) :
    (w.note .firstByte now).Open .transfer now ∧ (w.note .firstByte now).phases.ttfb.isSome = true := by
  obtain ⟨m, hm, _⟩ := h.since
  obtain ⟨hwithin, hahead⟩ := h.end
  refine ⟨⟨⟨now, rfl, hwithin, Nat.le_refl _⟩, hahead⟩, ?_⟩
  show (span w.requestSent (some now)).isSome = true
  rw [show w.requestSent = some m from hm]
  rfl

/-- A connection that is there took its time. -/
theorem Open.connected (h : w.Open .connect now) : (w.note .connectEnd now).phases.connect.isSome = true := by
  obtain ⟨m, hm, _⟩ := h.since
  show (span w.connectStart (some now)).isSome = true
  rw [show w.connectStart = some m from hm]
  rfl

/-- **A connection that came to nothing** leaves nothing behind it. -/
theorem Open.again (h : w.Open .ttfb now) (hsent : w.SentOn true) : w.Until 0 now := by
  refine ⟨h.until.within, fun p _ => ?_⟩
  rcases Nat.lt_or_ge p.rank Phase.ttfb.rank with hp | hp
  · exact hsent.untouched rfl p hp
  · exact h.ahead p hp

end Stopwatch

namespace RequestCall

variable {call call' : RequestCall} {before after : Option RequestCall} {now now' : Instant} {c k : Nat}
  {label : ClientLabel} {f : Failure}

/-- **Where the phases of a request stand**, by where it stands itself. -/
def Standing (call : RequestCall) (now : Instant) : Prop :=
  match call.stage with
  | .readying _ => call.watch.Until 0 now
  | .resolving => call.watch.Open .dns now
  | .dialling _ => call.watch.Open .connect now
  | .securing => call.watch.Open .tls now ∧ call.watch.phases.connect.isSome = true
  | .awaiting _ pooled => call.watch.Open .ttfb now ∧ call.watch.SentOn pooled
  | .reading .. =>
    call.watch.Open .transfer now ∧ call.watch.phases.ttfb.isSome = true ∧ ∃ pooled, call.watch.SentOn pooled
  | .ended x => x.Consistent call.target call.timeout ∧ x.phases = call.watch.phases ∧
      ∀ r, x.result = .ok r → ∃ pooled, call.watch.SentOn pooled

/-- **A request sets up what it was asked for**: a host that is an address is not looked up, and only
what is to be secured is. -/
structure SetsUp (call : RequestCall) : Prop where
  resolved : call.watch.dnsStart.isSome = true → call.target.url.host.isAddress = false
  secured : call.watch.tlsStart.isSome = true → call.target.url.scheme = .https

/-- **What was observed of a request** so far is in order. -/
structure Observed (call : RequestCall) (now : Instant) : Prop extends call.SetsUp where
  standing : call.Standing now

namespace SetsUp

/-- **A request that fails** leaves a consistent exchange. -/
theorem endedWith_error (h : call.SetsUp) (huntil : call.watch.Until Phase.transfer.rank now)
    (hleaves : f.Leaves call.timeout (call.exchange now (.error f))) :
    (call.endedWith now (.error f)).Observed now := by
  have hspent : call.watch.phases.spent ≤ (call.watch.total now).nanos := huntil.spent_le (Nat.le_refl _)
  have hconsistent : (call.exchange now (.error f)).Consistent call.target call.timeout :=
    { within := hspent
      summed := fun htotal => PhaseTimes.sum?_eq (Nat.le_trans hspent htotal)
      whole := by
        have hnone : call.watch.phases.transfer = none := huntil.get_eq_none (Nat.le_refl _)
        simp [exchange, hnone]
      answered := fun r hr => by cases hr
      failed := fun f' hf => by
        obtain rfl := Except.error.inj hf
        exact hleaves
      resolved := fun hdns => h.resolved (Stopwatch.isSome_of_span hdns)
      secured := fun htls => h.secured (Stopwatch.isSome_of_span htls) }
  exact ⟨⟨h.resolved, h.secured⟩, hconsistent, rfl, fun r hr => by cases hr⟩

/-- **A request that starts a connection** begins its phases, or begins them anew. -/
theorem connecting (h : call.SetsUp) (huntil : call.watch.Until 0 now) : (call.connecting now).Observed now := by
  unfold RequestCall.connecting
  dsimp only
  split_ifs with haddress
  · exact ⟨⟨h.resolved, h.secured⟩, (huntil.mono (Nat.zero_le _)).begin (p := .connect) (by decide)⟩
  · exact ⟨⟨fun _ => by simpa using haddress, h.secured⟩, huntil.begin (p := .dns) (by decide)⟩

/-- **A request that looks for a connection** has seen nothing yet. -/
theorem seeks (h : call.SetsUp) (huntil : call.watch.Until 0 now) (hseeks : call.Seeks now call') :
    call'.Observed now := by
  cases hseeks with
  | found => exact ⟨⟨h.resolved, h.secured⟩, huntil⟩
  | none => exact h.connecting huntil

/-- **A request that is sent**, or cannot be. -/
theorem submitted {link : Nat} {pooled : Bool} (h : call.SetsUp)
    (huntil : call.watch.Until Phase.ttfb.rank now) (huntouched : pooled = true → call.watch.NoSetup)
    (hconnected : pooled = false → call.watch.phases.connect.isSome = true) :
    (call.submitted now link pooled).Observed now := by
  have hopen : ((call.watch.noteReused pooled).note .requestSent now).Open .ttfb now :=
    huntil.noteReused.begin (p := .ttfb) (by decide)
  have hsent : Observed { call with
      watch := (call.watch.noteReused pooled).note .requestSent now
      stage := .awaiting link pooled } now :=
    ⟨⟨h.resolved, h.secured⟩, hopen, Stopwatch.sentOn_note now huntouched hconnected⟩
  unfold RequestCall.submitted
  dsimp only
  split_ifs
  · exact hsent
  · exact hsent.toSetsUp.endedWith_error (hopen.until.mono (by decide)) (hopen.until.get_eq_none (Nat.le_refl _))

/-- **A response that is complete** makes a whole exchange. -/
theorem completed {response : Response} (h : call.SetsUp) (hopen : call.watch.Open .transfer now)
    (hbegun : call.watch.phases.ttfb.isSome = true) (hsent : ∃ pooled, call.watch.SentOn pooled) :
    ({ call with watch := call.watch.note .complete now }.endedWith now (.ok response)).Observed now := by
  have hwhole : (call.watch.note .complete now).phases.transfer.isSome = true := by
    obtain ⟨m, hm, _⟩ := hopen.since
    show (Stopwatch.span call.watch.firstByte (some now)).isSome = true
    rw [show call.watch.firstByte = some m from hm]
    rfl
  have hspent : (call.watch.note .complete now).phases.spent ≤ ((call.watch.note .complete now).total now).nanos :=
    Nat.le_sub_of_add_le (Nat.add_comm _ _ ▸ hopen.end.within)
  have hconsistent : ({ call with watch := call.watch.note .complete now }.exchange now (.ok response)).Consistent
      call.target call.timeout :=
    { within := hspent
      summed := fun htotal => PhaseTimes.sum?_eq (Nat.le_trans hspent htotal)
      whole := iff_of_true hwhole ⟨response, rfl⟩
      answered := fun _ _ => hbegun
      failed := fun f hf => by cases hf
      resolved := fun hdns => h.resolved (Stopwatch.isSome_of_span hdns)
      secured := fun htls => h.secured (Stopwatch.isSome_of_span htls) }
  exact ⟨⟨h.resolved, h.secured⟩, hconsistent, rfl, fun _ _ => hsent.imp fun _ hsent => hsent.note (.inr rfl)⟩

end SetsUp

namespace Observed

/-- What is known of a request that stands somewhere. -/
theorem standing_at {stage : RequestStage} (h : call.Observed now) (hstage : call.stage = stage) :
    ({ call with stage } : RequestCall).Standing now := by
  subst hstage
  exact h.standing

/-- Time passes. -/
theorem later (h : call.Observed now) (hnow : now.nanos ≤ now'.nanos) : call.Observed now' := by
  obtain ⟨hsetup, hstanding⟩ := h
  refine ⟨hsetup, ?_⟩
  unfold Standing at hstanding ⊢
  cases hstage : call.stage <;> simp only [hstage] at hstanding ⊢
  case readying => exact hstanding.later hnow
  case resolving | dialling => exact hstanding.later hnow
  case securing | awaiting | reading => exact hstanding.imp_left (·.later hnow)
  case ended => exact hstanding

/-- A request under way has not seen the end of its last phase. -/
theorem unfinished (h : call.Observed now) (hopen : ∀ x, call.stage ≠ .ended x) :
    call.watch.Until Phase.transfer.rank now := by
  have hstanding := h.standing
  unfold Standing at hstanding
  cases hstage : call.stage <;> simp only [hstage] at hstanding
  case readying => exact hstanding.mono (by decide)
  case resolving | dialling => exact hstanding.until.mono (by decide)
  case securing | awaiting => exact hstanding.1.until.mono (by decide)
  case reading => exact hstanding.1.until
  case ended x => exact absurd hstage (hopen x)

/-- What a failure leaves is what was there. -/
theorem fail (h : call.Observed now) (hfails : call.Fails now c label f) :
    (call.endedWith now (.error f)).Observed now := by
  cases hfails with
  | lookUp hstage | nowhere hstage =>
    have hopen : call.watch.Open .dns now := h.standing_at hstage
    have huntil : call.watch.Until 0 now := hopen.until
    have hnone : ∀ p, call.watch.phases.get p = none := fun p => huntil.get_eq_none (Nat.zero_le _)
    exact h.toSetsUp.endedWith_error (huntil.mono (by decide)) ⟨hnone .dns, hnone .connect, hnone .tls, hnone .ttfb⟩
  | dial hstage =>
    have hopen : call.watch.Open .connect now := h.standing_at hstage
    have huntil : call.watch.Until 1 now := hopen.until
    have hnone : ∀ p : Phase, 1 ≤ p.rank → call.watch.phases.get p = none := fun p => huntil.get_eq_none
    exact h.toSetsUp.endedWith_error (huntil.mono (by decide))
      ⟨hnone .connect (by decide), hnone .tls (by decide), hnone .ttfb (by decide)⟩
  | handshake hstage =>
    obtain ⟨hopen, hconnected⟩ := h.standing_at hstage
    have huntil : call.watch.Until 2 now := hopen.until
    have hnone : ∀ p : Phase, 2 ≤ p.rank → call.watch.phases.get p = none := fun p => huntil.get_eq_none
    exact h.toSetsUp.endedWith_error (huntil.mono (by decide))
      ⟨hconnected, hnone .tls (by decide), hnone .ttfb (by decide)⟩
  | lost hstage | broken hstage =>
    obtain ⟨hopen, _⟩ := h.standing_at hstage
    exact h.toSetsUp.endedWith_error (hopen.until.mono (by decide)) (hopen.until.get_eq_none (Nat.le_refl _))
  | body hstage =>
    obtain ⟨hopen, hbegun, _⟩ := h.standing_at hstage
    exact h.toSetsUp.endedWith_error hopen.until hbegun
  | expire hopen htime =>
    have huntil := h.unfinished hopen
    have hcompleted : call.watch.completed = none := huntil.ahead .transfer (Nat.le_refl _)
    refine h.toSetsUp.endedWith_error huntil ?_
    show call.timeout.nanos ≤ (call.watch.total now).nanos
    rw [Stopwatch.total, hcompleted]
    exact htime

/-- **Every step of a request** keeps what is observed of it in order. -/
theorem turn (hturns : Turns now c label before after) (h : ∀ call, before = some call → call.Observed now) :
    ∀ call, after = some call → call.Observed now := by
  rintro call' hafter
  cases hturns with
  | begin hseeks =>
    obtain rfl := Option.some.inj hafter
    refine SetsUp.seeks ⟨?_, ?_⟩ (Stopwatch.until_start now) hseeks
    · rintro ⟨⟩
    · rintro ⟨⟩
  | @reuse call link hstage =>
    obtain rfl := Option.some.inj hafter
    have hcall := h call rfl
    have huntil : call.watch.Until 0 now := hcall.standing_at hstage
    exact hcall.toSetsUp.submitted (huntil.mono (Nat.zero_le _)) (fun _ p _ => huntil.ahead p (Nat.zero_le _)) nofun
  | @reject call _ link hstage hseeks =>
    obtain rfl := Option.some.inj hafter
    have hcall := h call rfl
    have huntil : call.watch.Until 0 now := hcall.standing_at hstage
    exact hcall.toSetsUp.seeks huntil hseeks
  | @resolve call address others hstage =>
    obtain rfl := Option.some.inj hafter
    have hcall := h call rfl
    have hopen : call.watch.Open .dns now := hcall.standing_at hstage
    exact ⟨⟨hcall.resolved, hcall.secured⟩, hopen.end.begin (p := .connect) (by decide)⟩
  | @connect call address link hstage hscheme =>
    obtain rfl := Option.some.inj hafter
    have hcall := h call rfl
    have hopen : call.watch.Open .connect now := hcall.standing_at hstage
    exact SetsUp.submitted ⟨hcall.resolved, hcall.secured⟩ (hopen.end.mono (by decide)) nofun
      fun _ => hopen.connected
  | @secure call address hstage hscheme =>
    obtain rfl := Option.some.inj hafter
    have hcall := h call rfl
    have hopen : call.watch.Open .connect now := hcall.standing_at hstage
    exact ⟨⟨hcall.resolved, fun _ => hscheme⟩, hopen.end.begin (p := .tls) (by decide), hopen.connected⟩
  | @shake call link hstage =>
    obtain rfl := Option.some.inj hafter
    have hcall := h call rfl
    obtain ⟨hopen, hconnected⟩ := hcall.standing_at hstage
    exact SetsUp.submitted ⟨hcall.resolved, hcall.secured⟩ hopen.end nofun fun _ => hconnected
  | @answer call link pooled head hstage =>
    obtain rfl := Option.some.inj hafter
    have hcall := h call rfl
    obtain ⟨hopen, hsent⟩ := hcall.standing_at hstage
    obtain ⟨htransfer, hbegun⟩ := hopen.answer
    exact ⟨⟨hcall.resolved, hcall.secured⟩, htransfer, hbegun, pooled, hsent.note (.inl rfl)⟩
  | @retry call link hstage =>
    obtain rfl := Option.some.inj hafter
    have hcall := h call rfl
    obtain ⟨hopen, hsent⟩ := hcall.standing_at hstage
    exact hcall.toSetsUp.connecting (hopen.again hsent)
  | @complete call link head body hstage =>
    obtain rfl := Option.some.inj hafter
    have hcall := h call rfl
    obtain ⟨hopen, hbegun, hsent⟩ := hcall.standing_at hstage
    exact hcall.toSetsUp.completed hopen hbegun hsent
  | @fail call _ f hfails =>
    obtain rfl := Option.some.inj hafter
    exact (h call rfl).fail hfails
  | leave => cases hafter

end Observed

end RequestCall

namespace Client

variable {first s s' : Client} {c : Nat} {call : RequestCall} {label : ClientLabel} {steps : List ClientTransition}

theorem observed_of_step (hstep : s.step label = some s') (h : ∀ call, s.call? c = some call → call.Observed s.now) :
    ∀ call, s'.call? c = some call → call.Observed s'.now := by
  rcases turns_of_step hstep c with ⟨hc, hturns⟩ | ⟨_, hsame⟩
  · rcases now_of_step hstep with hnow | ⟨hnone, _⟩
    · rw [hnow]
      exact RequestCall.Observed.turn hturns h
    · rw [hnone] at hc
      cases hc
  · intro call hcall
    rw [hsame] at hcall
    rcases now_of_step hstep with hnow | ⟨_, hle⟩
    · exact (h call hcall).later (Nat.le_of_eq (congrArg Instant.nanos hnow.symm))
    · exact (h call hcall).later hle

/-- **Of every request that is made** what is observed is in order, whatever else the client does. -/
theorem observed_of_history (past : first.History steps s) (hnew : first.call? c = none)
    (hcall : s.call? c = some call) : call.Observed s.now := by
  refine past.invariant (P := fun s => ∀ call, s.call? c = some call → call.Observed s.now) ?_
    (fun _ _ _ h hstep => observed_of_step hstep h) call hcall
  intro call hcall
  rw [hnew] at hcall
  cases hcall

/-- **What a request asks for** is what it was made for. -/
theorem begin_mem_of_history (past : first.History steps s) (hnew : first.call? c = none)
    (hcall : s.call? c = some call) : .begin c call.target call.timeout ∈ steps.map (·.label) := by
  refine past.invariantWith
    (P := fun steps s => ∀ call, s.call? c = some call → .begin c call.target call.timeout ∈ steps.map (·.label))
    ?_ ?_ call hcall
  · intro call hcall
    rw [hnew] at hcall
    cases hcall
  · intro steps s label s' _ h hstep call' hcall'
    rw [List.map_append]
    rcases turns_of_step hstep c with ⟨_, hturns⟩ | ⟨_, hsame⟩
    · rcases hturns.asks hcall' with rfl | ⟨call, hcall, htarget, htimeout⟩
      · exact List.mem_append_right _ (List.mem_singleton_self _)
      · rw [htarget, htimeout]
        exact List.mem_append_left _ (h call hcall)
    · rw [hsame] at hcall'
      exact List.mem_append_left _ (h call' hcall')

/-- **Every exchange is consistent** with what was asked for: however the request went, with whatever
connections in the pool, and wherever its time was over. -/
theorem exchange_consistent (past : first.History steps s) (hnew : first.call? c = none)
    (hcall : s.call? c = some call) {x : Exchange} (hended : call.stage = .ended x) :
    .begin c call.target call.timeout ∈ steps.map (·.label) ∧ x.Consistent call.target call.timeout := by
  obtain ⟨hconsistent, _⟩ := (observed_of_history past hnew hcall).standing_at hended
  exact ⟨begin_mem_of_history past hnew hcall, hconsistent⟩

/-! ## A connection that is lost -/

/-- A target whose host has to be looked up. -/
def namedTarget (scheme : Scheme) : Target where
  url :=
    { scheme, username := "", password := "", host := .domain "bench.test", port := some 8080, path := "/"
      query := none, fragment := none }
  method := .get
  keepAlive := true

/-- A request is made and answered, and leaves its connection behind. The next one takes it, loses it, and
is to be sent once more, but no new connection can be made. -/
def playRefused : List ClientLabel :=
  let head : ResponseHead := { old := false, status := 200, fields := {}, frame := .counted 0, goesOn := true }
  let target := namedTarget .http
  [.begin 0 target (.seconds 5), .resolved 0 (.ok [.ipv4 0x0a000001]), .connected 0 (.ok ()), .answered 0 head,
    .received 0 (.ok []), .begin 1 target (.seconds 5), .ready 1 true, .pass (.millis 1), .lost 1, .pass (.millis 4),
    .resolved 1 (.ok [.ipv4 0x0a000001]), .connected 1 (.error "connection refused")]

theorem exchange_consistent_of_refused :
    ∃ steps s call x, (ofRoom 1).History steps s ∧ s.call? 1 = some call ∧ call.stage = .ended x ∧
      x.phases.dns = some (.millis 4) ∧ x.total = .millis 5 ∧ x.Consistent call.target call.timeout := by
  have hplay : (playFrom step (ofRoom 1) playRefused).any (fun r =>
      (r.2.exchange? 1).any fun x => x.phases.dns = some (.millis 4) && x.total = .millis 5) = true := by
    decide +kernel
  obtain ⟨steps, s, past, hP⟩ := History.exists_of_any hplay
  simp only [Bool.and_eq_true, Option.any_eq_true, decide_eq_true_eq] at hP
  obtain ⟨x, hx, hdns, htotal⟩ := hP
  obtain ⟨call, hcall, hended⟩ := exchange?_eq_some hx
  obtain ⟨_, hconsistent⟩ := exchange_consistent past rfl hcall hended
  exact ⟨steps, s, call, x, past, hcall, hended, hdns, htotal, hconsistent⟩

end Client

end HttpBench
