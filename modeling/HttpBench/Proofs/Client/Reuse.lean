import HttpBench.Proofs.Client.Steps

/-!
# Connections that are used again

Where the connection of a request comes from. A request is sent on a connection that it has opened
itself, or on one from the pool; what is in the pool was left there by an earlier request to the same
scheme, host and port that was to be kept alive (`Client.Traced`). So without such a request no
connection is used again.

The pool does not ask whether the request that takes a connection is to be kept alive. After a request
that is, one that is not gets the connection all the same (`Client.reused_without_keepAlive`).
-/

namespace HttpBench

/-- The caller whose request a label is about. -/
def ClientLabel.caller? : ClientLabel → Option Nat
  | .begin c _ _ | .ready c _ | .resolved c _ | .connected c _ | .secured c _ | .answered c _ | .lost c
  | .broken c _ | .received c _ | .expire c | .leave c => some c
  | .close _ | .pass _ => none

namespace ClientTransition

/-- The target of the request that a step makes. -/
def begun? (t : ClientTransition) : Option Target :=
  match t.label with
  | .begin _ target _ => some target
  | _ => none

/-- The connection that a step puts into the pool. -/
def kept? (t : ClientTransition) : Option (PoolKey × Nat) :=
  if t.before.pool.size < t.after.pool.size then t.after.pool.idle.head? else none

/-- **A request is sent** in a step: from then on it waits for its response. -/
def Sends (t : ClientTransition) (call : RequestCall) (link : Nat) (pooled : Bool) : Prop :=
  ∃ c, t.label.caller? = some c ∧ t.after.call? c = some call ∧ call.stage = .awaiting link pooled

end ClientTransition

variable {steps : List ClientTransition}

namespace RequestCall

variable {call : RequestCall}

/-- **What is known of a request** wherever it stands: that it was made, and that a connection it has
used again was left behind by another. -/
structure Known (steps : List ClientTransition) (call : RequestCall) : Prop where
  begun : call.target ∈ steps.filterMap ClientTransition.begun?
  reused : call.watch.reused = some true →
    ∃ link, (call.target.url.poolKey, link) ∈ steps.filterMap ClientTransition.kept?

/-- **What a request has noted** about its connection, by where it stands. -/
def Noted (steps : List ClientTransition) (call : RequestCall) : Prop :=
  match call.stage with
  | .readying link => (call.target.url.poolKey, link) ∈ steps.filterMap ClientTransition.kept?
  | .awaiting _ pooled => call.watch.reused = some pooled
  | .reading .. => call.watch.reused.isSome
  | .ended x => x.phases.reused = call.watch.reused ∧ ∀ r, x.result = .ok r → call.watch.reused.isSome
  | .resolving | .dialling _ | .securing => True

end RequestCall

namespace Client

variable {s s' : Client} {c : Nat} {call : RequestCall} {label : ClientLabel}

/-! ## The pool -/

/-- **A step puts nothing into the pool**, unless it completes a request that is to be kept alive. -/
theorem pool_of_step (hstep : s.step label = some s') :
    s'.pool.idle.Sublist s.pool.idle ∨ ∃ c call link head body, label = .received c (.ok body) ∧
      s.call? c = some call ∧ call.stage = .reading link head ∧ call.target.keepAlive = true ∧
      s'.pool.idle = (call.target.url.poolKey, link) :: s.pool.idle := by
  have hcheckOut : ∀ (s : Client) c call, (s.checkOut c call).pool.idle.Sublist s.pool.idle := by
    intro s c call
    obtain ⟨idle, hsub, ⟨link, _, heq⟩ | heq⟩ := s.checkOut_eq c call
    · rw [heq]
      exact hsub
    · obtain ⟨watch, stage, heq', _⟩ := connect_eq { s with pool := { s.pool with idle } } c call
      rw [heq, heq']
      exact hsub
  have hsubmit : ∀ (s : Client) c call link pooled, (s.submit c call link pooled).pool = s.pool := by
    intro s c call link pooled
    obtain ⟨links, watch, stage, heq, _⟩ := s.submit_eq c call link pooled
    rw [heq]
    rfl
  cases happens_of_step hstep with
  | begin | reject => exact .inl (hcheckOut ..)
  | reuse | connect | shake =>
    refine .inl ?_
    simp only [opened, hsubmit]
    exact List.Sublist.refl _
  | @retry c link call =>
    obtain ⟨watch, stage, heq, _⟩ := (s.closeLink link).connect_eq c call
    rw [heq]
    exact .inl (List.Sublist.refl _)
  | @fail c call _ f =>
    obtain ⟨links, x, heq, _⟩ := s.finish_eq c call (.error f)
    rw [heq]
    exact .inl (List.Sublist.refl _)
  | @complete c link call head body hcall hstage =>
    obtain ⟨links, pool, watch, x, heq, _, _, hpool⟩ := s.complete_eq c call link head body
    rw [heq]
    rcases hpool with rfl | ⟨hkeep, hidle⟩
    · exact .inl (List.Sublist.refl _)
    · exact .inr ⟨c, call, link, head, body, rfl, hcall, hstage, hkeep, hidle⟩
  | leave =>
    refine .inl ?_
    simp [dropCall]
  | resolve | secure | answer | close | pass => exact .inl (List.Sublist.refl _)

/-- **A connection is left behind** by a request that is to be kept alive, and that is complete. -/
theorem keepAlive_of_kept (hstep : s.step label = some s') {e : PoolKey × Nat}
    (h : ClientTransition.kept? ⟨s, label, s'⟩ = some e) :
    ∃ c call head, s.call? c = some call ∧ call.stage = .reading e.2 head ∧ call.target.keepAlive = true ∧
      call.target.url.poolKey = e.1 := by
  unfold ClientTransition.kept? Pool.size at h
  split_ifs at h with hsize
  rcases pool_of_step hstep with hsub | ⟨c, call, link, head, _, _, hcall, hstage, hkeep, hidle⟩
  · exact absurd hsize (Nat.not_lt.mpr hsub.length_le)
  · replace h : s'.pool.idle.head? = some e := h
    rw [hidle, List.head?_cons] at h
    obtain rfl := Option.some.inj h
    exact ⟨c, call, head, hcall, hstage, hkeep, rfl⟩

/-! ## The requests -/

/-- **A client whose history is known**: where its connections and those of its requests are from. -/
structure Traced (steps : List ClientTransition) (s : Client) : Prop where
  pool : ∀ e ∈ s.pool.idle, e ∈ steps.filterMap ClientTransition.kept?
  calls : ∀ c call, s.call? c = some call → call.Known steps ∧ call.Noted steps

namespace Traced

theorem setCall (h : s.Traced steps) (hknown : call.Known steps) (hnoted : call.Noted steps) :
    (s.setCall c call).Traced steps := by
  refine ⟨h.pool, ?_⟩
  intro c' call' hcall
  rw [call?_setCall] at hcall
  split_ifs at hcall
  · obtain rfl := Option.some.inj hcall
    exact ⟨hknown, hnoted⟩
  · exact h.calls c' call' hcall

theorem dropCall (h : s.Traced steps) : (s.dropCall c).Traced steps := by
  refine ⟨h.pool, ?_⟩
  intro c' call' hcall
  rw [call?_dropCall] at hcall
  split_ifs at hcall
  exact h.calls c' call' hcall

theorem connect (h : s.Traced steps) (hknown : call.Known steps) : (s.connect c call).Traced steps := by
  obtain ⟨watch, stage, heq, hreused, hstage⟩ := s.connect_eq c call
  rw [heq]
  refine h.setCall ⟨hknown.begun, hreused ▸ hknown.reused⟩ ?_
  rcases hstage with rfl | ⟨address, rfl⟩ <;> trivial

theorem checkOut (h : s.Traced steps) (hknown : call.Known steps) : (s.checkOut c call).Traced steps := by
  obtain ⟨idle, hsub, hcase⟩ := s.checkOut_eq c call
  have htaken : Traced steps { s with pool := { s.pool with idle } } :=
    ⟨fun e he => h.pool e (hsub.subset he), h.calls⟩
  rcases hcase with ⟨link, hlink, heq⟩ | heq
  · rw [heq]
    exact htaken.setCall ⟨hknown.begun, hknown.reused⟩ (h.pool _ hlink)
  · rw [heq]
    exact htaken.connect hknown

theorem submit {link : Nat} {pooled : Bool} (h : s.Traced steps) (hknown : call.Known steps)
    (hpooled : pooled = true → (call.target.url.poolKey, link) ∈ steps.filterMap ClientTransition.kept?) :
    (s.submit c call link pooled).Traced steps := by
  obtain ⟨links, watch, stage, heq, hreused, _, hstage⟩ := s.submit_eq c call link pooled
  rw [heq]
  refine Traced.setCall ⟨h.pool, h.calls⟩ ⟨hknown.begun, ?_⟩ ?_
  · intro htrue
    rw [hreused, Option.some.injEq] at htrue
    exact ⟨link, hpooled htrue⟩
  · rcases hstage with rfl | ⟨x, rfl, hphases, hresult⟩
    · exact hreused
    · exact ⟨congrArg PhaseTimes.reused hphases, fun _ _ => hreused ▸ rfl⟩

theorem fail {f : Failure} (h : s.Traced steps) (hknown : call.Known steps) :
    (s.finish c call (.error f)).Traced steps := by
  obtain ⟨links, x, heq, hphases, hresult⟩ := s.finish_eq c call (.error f)
  rw [heq]
  refine Traced.setCall ⟨h.pool, h.calls⟩ ⟨hknown.begun, hknown.reused⟩ ⟨congrArg PhaseTimes.reused hphases, ?_⟩
  intro r hr
  rw [hresult] at hr
  cases hr

theorem snoc {t : ClientTransition} (h : s.Traced steps) : s.Traced (steps ++ [t]) := by
  refine ⟨?_, ?_⟩
  · intro e he
    rw [List.filterMap_append]
    exact List.mem_append_left _ (h.pool e he)
  · intro c call hcall
    obtain ⟨⟨hbegun, hreused⟩, hnoted⟩ := h.calls c call hcall
    refine ⟨⟨?_, ?_⟩, ?_⟩
    · rw [List.filterMap_append]
      exact List.mem_append_left _ hbegun
    · intro htrue
      obtain ⟨link, hlink⟩ := hreused htrue
      rw [List.filterMap_append]
      exact ⟨link, List.mem_append_left _ hlink⟩
    · unfold RequestCall.Noted at hnoted ⊢
      cases hstage : call.stage with
      | readying =>
        rw [hstage] at hnoted
        rw [List.filterMap_append]
        exact List.mem_append_left _ hnoted
      | _ =>
        rw [hstage] at hnoted
        exact hnoted

theorem step (h : s.Traced steps) (hstep : s.step label = some s') :
    s'.Traced (steps ++ [⟨s, label, s'⟩]) := by
  have hlast : ∀ {A : Type} (f : ClientTransition → Option A) (a : A), f ⟨s, label, s'⟩ = some a →
      a ∈ List.filterMap f (steps ++ [⟨s, label, s'⟩]) := by
    intro A f a ha
    exact List.mem_filterMap.mpr ⟨_, List.mem_append_right _ (List.mem_singleton_self _), ha⟩
  -- from here on only the longer history counts, of which every step adds its own part
  have h' : s.Traced (steps ++ [⟨s, label, s'⟩]) := h.snoc
  generalize steps ++ [⟨s, label, s'⟩] = later at h' hlast
  cases happens_of_step hstep with
  | @begin c target timeout hcall =>
    exact h'.checkOut ⟨hlast _ target rfl, fun htrue => by simp [Stopwatch.start] at htrue⟩
  | reuse hcall hstage =>
    obtain ⟨hknown, hnoted⟩ := h'.calls _ _ hcall
    rw [RequestCall.Noted, hstage] at hnoted
    exact h'.submit hknown fun _ => hnoted
  | reject hcall hstage =>
    obtain ⟨hknown, _⟩ := h'.calls _ _ hcall
    exact Traced.checkOut ⟨h'.pool, h'.calls⟩ hknown
  | resolve hcall hstage | secure hcall hstage =>
    obtain ⟨hknown, _⟩ := h'.calls _ _ hcall
    exact h'.setCall ⟨hknown.begun, by simpa using hknown.reused⟩ trivial
  | connect hcall hstage | shake hcall hstage =>
    obtain ⟨hknown, _⟩ := h'.calls _ _ hcall
    exact Traced.submit ⟨h'.pool, h'.calls⟩ ⟨hknown.begun, by simpa using hknown.reused⟩ fun htrue => by cases htrue
  | answer hcall hstage =>
    obtain ⟨hknown, hnoted⟩ := h'.calls _ _ hcall
    rw [RequestCall.Noted, hstage] at hnoted
    exact h'.setCall ⟨hknown.begun, by simpa using hknown.reused⟩ (by simp [RequestCall.Noted, hnoted])
  | retry hcall hstage =>
    obtain ⟨hknown, _⟩ := h'.calls _ _ hcall
    exact Traced.connect ⟨h'.pool, h'.calls⟩ hknown
  | @complete c link call head body hcall hstage =>
    obtain ⟨hknown, hnoted⟩ := h'.calls _ _ hcall
    rw [RequestCall.Noted, hstage] at hnoted
    obtain ⟨links, pool, watch, x, heq, hreused, hphases, hpool⟩ := s.complete_eq c call link head body
    have hkept : ∀ e ∈ pool.idle, e ∈ later.filterMap ClientTransition.kept? := by
      rcases hpool with rfl | ⟨_, hidle⟩
      · exact h'.pool
      · intro e he
        rw [hidle] at he
        rcases List.mem_cons.mp he with rfl | he
        · refine hlast _ _ ?_
          simp [ClientTransition.kept?, Pool.size, heq, hidle]
        · exact h'.pool e he
    rw [heq]
    refine Traced.setCall ⟨hkept, h'.calls⟩ ⟨hknown.begun, hreused ▸ hknown.reused⟩ ?_
    exact ⟨congrArg PhaseTimes.reused hphases, fun _ _ => hreused ▸ hnoted⟩
  | fail hcall =>
    obtain ⟨hknown, _⟩ := h'.calls _ _ hcall
    exact h'.fail hknown
  | leave hcall =>
    refine Traced.dropCall ⟨?_, ?_⟩
    · simpa using h'.pool
    · simpa using h'.calls
  | close | pass => exact ⟨h'.pool, h'.calls⟩

/-- **In every state of a client** it is known where its connections are from. -/
theorem history {room : Nat} (past : (ofRoom room).History steps s) : s.Traced steps := by
  refine past.invariantWith (P := fun steps s => Traced steps s) ⟨?_, ?_⟩ fun _ _ _ _ _ h hstep => h.step hstep
  · intro e he
    cases he
  · intro c call hcall
    cases hcall

end Traced

/-! ## What a request is sent on -/

theorem stage_connect {call' : RequestCall} (h : (s.connect c call).call? c = some call') :
    call'.stage = .resolving ∨ ∃ address, call'.stage = .dialling address := by
  obtain ⟨watch, stage, heq, _, hstage⟩ := s.connect_eq c call
  rw [heq, call?_setCall, if_pos rfl] at h
  obtain rfl := Option.some.inj h
  exact hstage

theorem stage_checkOut {call' : RequestCall} (h : (s.checkOut c call).call? c = some call') :
    (∃ link, call'.stage = .readying link) ∨ call'.stage = .resolving ∨ ∃ address, call'.stage = .dialling address := by
  obtain ⟨idle, _, ⟨link, _, heq⟩ | heq⟩ := s.checkOut_eq c call
  · rw [heq, call?_setCall, if_pos rfl] at h
    obtain rfl := Option.some.inj h
    exact .inl ⟨link, rfl⟩
  · rw [heq] at h
    exact .inr (stage_connect h)

/-- What is submitted goes out on the connection that it was submitted on. -/
theorem call?_submit {call' : RequestCall} {link link' : Nat} {pooled pooled' : Bool}
    (h : (s.submit c call link pooled).call? c = some call') (hstage : call'.stage = .awaiting link' pooled') :
    link' = link ∧ pooled' = pooled ∧ call'.target = call.target ∧ call'.watch.reused = some pooled := by
  obtain ⟨links, watch, stage, heq, hreused, _, hcase⟩ := s.submit_eq c call link pooled
  rw [heq, call?_setCall, if_pos rfl] at h
  obtain rfl := Option.some.inj h
  rcases hcase with rfl | ⟨x, rfl, _⟩
  · cases hstage
    exact ⟨rfl, rfl, rfl, hreused⟩
  · cases hstage

/-- **A request is sent** on a connection that it has just opened, or on one that was left behind. -/
theorem Traced.sends (h : s.Traced steps) (hstep : s.step label = some s') {link : Nat} {pooled : Bool}
    (hsends : ClientTransition.Sends ⟨s, label, s'⟩ call link pooled) :
    call.watch.reused = some pooled ∧
      (pooled = false → link = s.links.length ∧ s'.links.length = link + 1) ∧
      (pooled = true → (call.target.url.poolKey, link) ∈ steps.filterMap ClientTransition.kept?) := by
  obtain ⟨c, hc, hcall', hstage'⟩ := hsends
  have hopened : ∀ call₀, (s.opened c call₀).call? c = some call → call.watch.reused = some pooled ∧
      pooled = false ∧ link = s.links.length ∧ (s.opened c call₀).links.length = link + 1 := by
    intro call₀ hopened
    obtain ⟨rfl, rfl, _, hreused⟩ := call?_submit hopened hstage'
    obtain ⟨links, watch, stage, heq, _, hlength, _⟩ := submit_eq
      { s with links := s.links ++ [{ key := call₀.target.url.poolKey }] } c call₀ s.links.length false
    refine ⟨hreused, rfl, rfl, ?_⟩
    rw [opened, heq]
    show links.length = _
    rw [hlength, List.length_append, List.length_singleton]
  cases happens_of_step hstep with
  | begin | reject =>
    cases hc
    rcases stage_checkOut hcall' with ⟨link, hstage⟩ | hstage | ⟨address, hstage⟩ <;>
      rw [hstage] at hstage' <;> cases hstage'
  | retry =>
    cases hc
    rcases stage_connect hcall' with hstage | ⟨address, hstage⟩ <;> rw [hstage] at hstage' <;> cases hstage'
  | reuse hcall hstage =>
    cases hc
    obtain ⟨rfl, rfl, htarget, hreused⟩ := call?_submit hcall' hstage'
    obtain ⟨_, hnoted⟩ := h.calls _ _ hcall
    rw [RequestCall.Noted, hstage] at hnoted
    refine ⟨hreused, ?_, fun _ => htarget ▸ hnoted⟩
    intro hfalse
    cases hfalse
  | connect | shake =>
    cases hc
    obtain ⟨hreused, rfl, hlink, hlength⟩ := hopened _ hcall'
    exact ⟨hreused, fun _ => ⟨hlink, hlength⟩, fun htrue => by cases htrue⟩
  | resolve | secure | answer =>
    cases hc
    simp only [dial, call?_setCall, if_true] at hcall'
    obtain rfl := Option.some.inj hcall'
    cases hstage'
  | @complete c' link' call₀ head body =>
    cases hc
    obtain ⟨links, pool, watch, x, heq, _⟩ := s.complete_eq c call₀ link' head body
    simp only [heq, call?_setCall, if_true] at hcall'
    obtain rfl := Option.some.inj hcall'
    cases hstage'
  | @fail c' call₀ _ f _ hfails =>
    obtain rfl : c' = c := by cases hfails <;> exact Option.some.inj hc
    obtain ⟨links, x, heq, _⟩ := s.finish_eq c' call₀ (.error f)
    simp only [heq, call?_setCall, if_true] at hcall'
    obtain rfl := Option.some.inj hcall'
    cases hstage'
  | leave =>
    cases hc
    simp at hcall'
  | close | pass => cases hc

/-- **Where connections are from.** A request is sent on a connection that it has just opened, and says
so, or on one from the pool, and says so too. What is in the pool was left behind by an earlier
request to the same scheme, host and port, which was complete and to be kept alive. So where no
request is to be kept alive none uses a connection again, and every response comes over a new one. -/
theorem reused_is_kept {room : Nat} (past : (ofRoom room).History steps s) :
    (∀ before t after, steps = before ++ t :: after → ∀ call link pooled, t.Sends call link pooled →
      call.watch.reused = some pooled ∧
      (pooled = false → link = t.before.links.length ∧ t.after.links.length = link + 1) ∧
      (pooled = true → (call.target.url.poolKey, link) ∈ before.filterMap ClientTransition.kept?)) ∧
    (∀ t ∈ steps, ∀ key link, t.kept? = some (key, link) →
      ∃ c call head, t.before.call? c = some call ∧ call.stage = .reading link head ∧
        call.target.keepAlive = true ∧ call.target.url.poolKey = key) ∧
    ∀ key, (∀ target ∈ steps.filterMap ClientTransition.begun?,
        target.url.poolKey = key → target.keepAlive = false) →
      (∀ link, (key, link) ∉ s.pool.idle) ∧
      ∀ c call x, s.call? c = some call → call.target.url.poolKey = key → call.stage = .ended x →
        x.phases.reused ≠ some true ∧ ∀ r, x.result = .ok r → x.phases.reused = some false := by
  have htraced := Traced.history past
  have hkept : ∀ t ∈ steps, ∀ key link, t.kept? = some (key, link) →
      ∃ c call head, t.before.call? c = some call ∧ call.stage = .reading link head ∧
        call.target.keepAlive = true ∧ call.target.url.poolKey = key := by
    intro t ht key link hkept
    obtain ⟨_, _, _, hnow, _, _⟩ := past.split ht
    exact keepAlive_of_kept hnow hkept
  refine ⟨?_, hkept, ?_⟩
  · rintro before t after rfl call link pooled hsends
    obtain ⟨hbefore, hnow, _⟩ := past.cut
    exact (Traced.history hbefore).sends hnow hsends
  · intro key hnone
    -- nobody who is to be kept alive has asked for the key, so nobody has left a connection with it
    have hempty : ∀ link, (key, link) ∉ steps.filterMap ClientTransition.kept? := by
      intro link hlink
      obtain ⟨t, ht, hlink⟩ := List.mem_filterMap.mp hlink
      obtain ⟨c, call, _, hcall, _, hkeep, hkey⟩ := hkept t ht key link hlink
      obtain ⟨earlier, rest, hbefore, _, _, rfl⟩ := past.split ht
      obtain ⟨hknown, _⟩ := (Traced.history hbefore).calls c call hcall
      have hbegun : call.target ∈ (earlier ++ t :: rest).filterMap ClientTransition.begun? := by
        rw [List.filterMap_append]
        exact List.mem_append_left _ hknown.begun
      rw [hnone _ hbegun hkey] at hkeep
      cases hkeep
    refine ⟨fun link hlink => hempty link (htraced.pool _ hlink), ?_⟩
    rintro c call x hcall rfl hstage
    obtain ⟨hknown, hnoted⟩ := htraced.calls c call hcall
    rw [RequestCall.Noted, hstage] at hnoted
    obtain ⟨hreused, hok⟩ := hnoted
    have hnot : call.watch.reused ≠ some true := by
      intro htrue
      obtain ⟨link, hlink⟩ := hknown.reused htrue
      exact hempty link hlink
    rw [hreused]
    refine ⟨hnot, ?_⟩
    intro r hr
    have hsome := hok r hr
    cases hcase : call.watch.reused with
    | none => simp [hcase] at hsome
    | some reused =>
      cases reused with
      | false => rfl
      | true => exact absurd hcase hnot

/-! ## Requests that are not to be kept alive -/

def localTarget (keepAlive : Bool) : Target where
  url :=
    { scheme := .http, username := "", password := "", host := .ipv4 0x0a000001, port := some 8080, path := "/"
      query := none, fragment := none }
  method := .get
  keepAlive

/-- A request is made and answered, over a connection from the pool or a new one. -/
def playRequest (c : Nat) (keepAlive pooled : Bool) : List ClientLabel :=
  let head : ResponseHead := { old := false, status := 200, fields := {}, frame := .counted 0, goesOn := true }
  [.begin c (localTarget keepAlive) (.seconds 5), if pooled then .ready c true else .connected c (.ok ()),
    .answered c head, .received c (.ok [])]

/-- What came of the request of a caller, once it is over. -/
def exchange? (s : Client) (c : Nat) : Option Exchange :=
  (s.call? c).bind fun call =>
    match call.stage with
    | .ended x => some x
    | _ => none

theorem exchange?_eq_some {x : Exchange} (h : s.exchange? c = some x) :
    ∃ call, s.call? c = some call ∧ call.stage = .ended x := by
  obtain ⟨call, hcall, h⟩ := Option.bind_eq_some_iff.mp h
  split at h
  next x' hstage =>
    obtain rfl := Option.some.inj h
    exact ⟨call, hcall, hstage⟩
  next => cases h

theorem reused_is_kept_of_two :
    ∃ steps s call x, (ofRoom 1).History steps s ∧ s.call? 1 = some call ∧ call.target = localTarget false ∧
      call.stage = .ended x ∧ x.phases.reused ≠ some true := by
  have hplay : (playFrom step (ofRoom 1) (playRequest 0 false false ++ playRequest 1 false false)).any (fun r =>
      (r.1.filterMap ClientTransition.begun?).all (!·.keepAlive) &&
        (r.2.call? 1).any (·.target = localTarget false) && (r.2.exchange? 1).isSome) = true := by
    decide +kernel
  obtain ⟨steps, s, past, hP⟩ := History.exists_of_any hplay
  simp only [Bool.and_eq_true, List.all_eq_true, Bool.not_eq_true', Option.any_eq_true, decide_eq_true_eq] at hP
  obtain ⟨⟨hnone, call, hcall, htarget⟩, hended⟩ := hP
  obtain ⟨x, hx⟩ := Option.isSome_iff_exists.mp hended
  obtain ⟨call', hcall', hstage⟩ := exchange?_eq_some hx
  obtain rfl := Option.some.inj (hcall.symm.trans hcall')
  obtain ⟨_, _, hnever⟩ := reused_is_kept past
  obtain ⟨_, hcalls⟩ := hnever _ fun target htarget _ => hnone target htarget
  obtain ⟨hnot, _⟩ := hcalls 1 call x hcall rfl hstage
  exact ⟨steps, s, call, x, past, hcall, htarget, hstage, hnot⟩

/-- **A request that is not to be kept alive** gets the connection that an earlier one has left behind. -/
theorem reused_without_keepAlive :
    ¬∀ (room : Nat) (steps : List ClientTransition) (s : Client), (ofRoom room).History steps s →
      ∀ c call x, s.call? c = some call → call.target.keepAlive = false → call.stage = .ended x →
        x.phases.reused ≠ some true := by
  intro hnever
  have hplay : (playFrom step (ofRoom 1) (playRequest 0 true false ++ playRequest 1 false true)).any (fun r =>
      (r.2.call? 1).any (!·.target.keepAlive) &&
        (r.2.exchange? 1).any (·.phases.reused = some true)) = true := by
    decide +kernel
  obtain ⟨steps, s, past, hP⟩ := History.exists_of_any hplay
  simp only [Bool.and_eq_true, Bool.not_eq_true', Option.any_eq_true, decide_eq_true_eq] at hP
  obtain ⟨⟨call, hcall, hkeep⟩, x, hx, hreused⟩ := hP
  obtain ⟨call', hcall', hstage⟩ := exchange?_eq_some hx
  obtain rfl := Option.some.inj (hcall.symm.trans hcall')
  exact hnever 1 steps s past 1 call x hcall hkeep hstage hreused

end Client

end HttpBench
