import HttpBench.Proofs.Client.Placement

/-!
# Where idle connections are from

A connection is opened by a request for the scheme, host and port that it goes to from then on: once
it has connected, and where the scheme asks for it once the connection is secured. It gets into the
pool when a response that it carries is complete, if the request was to be kept alive, and what is in
the pool has been there since.
-/

namespace HttpBench

namespace ClientTransition

/-- **A request opens a connection** in a step: it has connected to where the key says, and secured
the connection if the scheme is `https`. -/
structure Opens (t : ClientTransition) (key : PoolKey) (link : Nat) : Prop where
  request : ∃ c call, t.before.call? c = some call ∧ call.target.url.poolKey = key ∧
    match key.scheme with
    | .http => t.label = .connected c (.ok ()) ∧ ∃ address, call.stage = .dialling address
    | .https => t.label = .secured c (.ok ()) ∧ call.stage = .securing
  before : t.before.links.length = link
  after : t.after.links.length = link + 1

/-- **A request has its whole response** after a step, and is to be kept alive. -/
def Completes (t : ClientTransition) (key : PoolKey) (link : Nat) : Prop :=
  ∃ c call head body, t.label = .received c (.ok body) ∧ t.before.call? c = some call ∧
    call.stage = .reading link head ∧ call.target.keepAlive = true ∧ call.target.url.poolKey = key

end ClientTransition

namespace Client

variable {room : Nat} {s s' : Client} {c : Nat} {call : RequestCall} {label : ClientLabel}
  {steps : List ClientTransition}

/-! ## Who secures its connection -/

/-- **Only requests for `https`** secure their connection. -/
def Secured (s : Client) : Prop :=
  ∀ c call, s.call? c = some call → call.stage = .securing → call.target.url.scheme = .https

namespace Secured

theorem setCall (h : s.Secured) (hcall : call.stage = .securing → call.target.url.scheme = .https) :
    (s.setCall c call).Secured := by
  intro c' call' hcall'
  rw [call?_setCall] at hcall'
  split_ifs at hcall'
  · obtain rfl := Option.some.inj hcall'
    exact hcall
  · exact h c' call' hcall'

theorem connect (h : s.Secured) : (s.connect c call).Secured := by
  obtain ⟨watch, stage, heq, _, hstage⟩ := s.connect_eq c call
  rw [heq]
  refine h.setCall fun hsecuring => ?_
  rcases hstage with rfl | ⟨address, rfl⟩ <;> cases hsecuring

theorem checkOut (h : s.Secured) : (s.checkOut c call).Secured := by
  obtain ⟨idle, _, ⟨link, _, heq⟩ | heq⟩ := s.checkOut_eq c call
  · rw [heq]
    exact setCall h fun hsecuring => by cases hsecuring
  · rw [heq]
    exact connect h

theorem submit {link : Nat} {pooled : Bool} (h : s.Secured) : (s.submit c call link pooled).Secured := by
  obtain ⟨links, watch, stage, heq, _, _, hstage⟩ := s.submit_eq c call link pooled
  rw [heq]
  refine setCall h fun hsecuring => ?_
  rcases hstage with rfl | ⟨x, rfl, _⟩ <;> cases hsecuring

theorem step (h : s.Secured) (hstep : s.step label = some s') : s'.Secured := by
  cases happens_of_step hstep with
  | begin | reject => exact checkOut h
  | reuse | connect | shake => exact submit h
  | resolve | answer => exact h.setCall fun hsecuring => by cases hsecuring
  | secure _ _ hscheme => exact h.setCall fun _ => hscheme
  | retry => exact connect h
  | @complete c link call head body =>
    obtain ⟨links, pool, watch, x, heq, _⟩ := s.complete_eq c call link head body
    rw [heq]
    exact setCall h fun hsecuring => by cases hsecuring
  | @fail c call _ f =>
    obtain ⟨links, x, heq, _⟩ := s.finish_eq c call (.error f)
    rw [heq]
    exact setCall h fun hsecuring => by cases hsecuring
  | @leave c call =>
    intro c' call' hcall'
    rw [call?_dropCall, call?_closeHeld] at hcall'
    split_ifs at hcall'
    exact h c' call' hcall'
  | close | pass => exact h

theorem history (past : (ofRoom room).History steps s) : s.Secured := by
  refine past.invariant (P := Secured) ?_ fun _ _ _ h hstep => h.step hstep
  intro c call hcall
  cases hcall

end Secured

/-! ## Who opens connections -/

/-- Where the connections go, by number. -/
def keys (s : Client) : List PoolKey := s.links.map (·.key)

@[simp] theorem keys_setCall (s : Client) (c : Nat) (call : RequestCall) : (s.setCall c call).keys = s.keys := rfl

@[simp] theorem keys_dropCall (s : Client) (c : Nat) : (s.dropCall c).keys = s.keys := rfl

@[simp] theorem keys_closeLink (s : Client) (link : Nat) : (s.closeLink link).keys = s.keys := by
  refine List.ext_getElem? fun i => ?_
  simp only [keys, closeLink, List.getElem?_map, List.getElem?_modify]
  cases s.links[i]? with
  | none => rfl
  | some l => by_cases hi : link = i <;> simp [hi]

@[simp] theorem keys_closeHeld (s : Client) (stage : RequestStage) : (s.closeHeld stage).keys = s.keys := by
  unfold closeHeld
  split
  · exact keys_closeLink ..
  · rfl

@[simp] theorem keys_finish (s : Client) (c : Nat) (call : RequestCall) (result : Except Failure Response) :
    (s.finish c call result).keys = s.keys :=
  keys_closeHeld ..

@[simp] theorem keys_connect (s : Client) (c : Nat) (call : RequestCall) : (s.connect c call).keys = s.keys := by
  obtain ⟨watch, stage, heq, _⟩ := s.connect_eq c call
  rw [heq]
  rfl

@[simp] theorem keys_checkOut (s : Client) (c : Nat) (call : RequestCall) : (s.checkOut c call).keys = s.keys := by
  obtain ⟨idle, _, ⟨link, _, heq⟩ | heq⟩ := s.checkOut_eq c call
  · rw [heq]
    rfl
  · rw [heq]
    exact keys_connect ..

@[simp] theorem keys_submit (s : Client) (c : Nat) (call : RequestCall) (link : Nat) (pooled : Bool) :
    (s.submit c call link pooled).keys = s.keys := by
  unfold submit
  dsimp only
  split_ifs
  · rfl
  · exact keys_finish ..

@[simp] theorem keys_opened (s : Client) (c : Nat) (call : RequestCall) :
    (s.opened c call).keys = s.keys ++ [call.target.url.poolKey] := by
  rw [opened, keys_submit]
  exact List.map_append

@[simp] theorem keys_complete (s : Client) (c : Nat) (call : RequestCall) (link : Nat) (head : ResponseHead)
    (body : List UInt8) : (s.complete c call link head body).keys = s.keys := by
  unfold complete keep
  dsimp only
  rw [keys_setCall]
  split_ifs
  · cases s.pool.give call.target.url.poolKey link with
    | none => exact keys_closeLink ..
    | some pool => rfl
  · exact keys_closeLink ..

/-- **A step opens no connection**, or one, for the request that it is about. -/
theorem keys_of_step (hsecured : s.Secured) (hstep : s.step label = some s') :
    s'.keys = s.keys ∨
      ∃ key, s'.keys = s.keys ++ [key] ∧ ClientTransition.Opens ⟨s, label, s'⟩ key s.keys.length := by
  have hopened : ∀ c call, (s.opened c call).links.length = s.keys.length + 1 := by
    intro c call
    have hlength := congrArg List.length (keys_opened s c call)
    rwa [keys, List.length_map, List.length_append, List.length_singleton] at hlength
  cases happens_of_step hstep with
  | @connect c call address hcall hstage hscheme =>
    refine .inr ⟨call.target.url.poolKey, keys_opened .., ⟨⟨c, call, hcall, rfl, ?_⟩, ?_, hopened ..⟩⟩
    · simp only [Url.poolKey, hscheme]
      exact ⟨trivial, address, hstage⟩
    · exact (List.length_map _).symm
  | @shake c call hcall hstage =>
    refine .inr ⟨call.target.url.poolKey, keys_opened .., ⟨⟨c, call, hcall, rfl, ?_⟩, ?_, hopened ..⟩⟩
    · simp only [Url.poolKey, hsecured c call hcall hstage]
      exact ⟨trivial, hstage⟩
    · exact (List.length_map _).symm
  | begin | reuse | reject | resolve | secure | answer | retry | complete | fail | leave | close =>
    exact .inl (by simp [dial])
  | pass => exact .inl rfl

/-- **Every connection was opened** by a request for the key that it goes by. -/
theorem opens_of_history (past : (ofRoom room).History steps s) :
    ∀ i key, s.keys[i]? = some key → ∃ t ∈ steps, ClientTransition.Opens t key i := by
  refine past.invariantWith
    (P := fun steps s => ∀ i key, s.keys[i]? = some key → ∃ t ∈ steps, ClientTransition.Opens t key i) ?_ ?_
  · intro i key hkey
    cases hkey
  · intro steps s label s' past h hstep i key hkey
    have hold : s.keys[i]? = some key → ∃ t ∈ steps ++ [⟨s, label, s'⟩], ClientTransition.Opens t key i := by
      intro hkey
      obtain ⟨t, ht, hopens⟩ := h i key hkey
      exact ⟨t, List.mem_append_left _ ht, hopens⟩
    rcases keys_of_step (Secured.history past) hstep with hsame | ⟨key', hkeys, hopens⟩
    · exact hold (hsame ▸ hkey)
    · rw [hkeys] at hkey
      have hi : i < (s.keys ++ [key']).length := (List.getElem?_eq_some_iff.mp hkey).1
      rw [List.length_append, List.length_singleton] at hi
      rcases Nat.lt_succ_iff_lt_or_eq.mp hi with hi | rfl
      · rw [List.getElem?_append_left hi] at hkey
        exact hold hkey
      · rw [List.getElem?_concat_length] at hkey
        obtain rfl := Option.some.inj hkey
        exact ⟨_, List.mem_append_right _ (List.mem_singleton_self _), hopens⟩

/-! ## Who leaves them behind -/

/-- **A connection was left behind** by a request that is to be kept alive and had its whole response,
and has been idle since. -/
def LeftBehind (steps : List ClientTransition) (e : PoolKey × Nat) : Prop :=
  ∃ before t after, steps = before ++ t :: after ∧ ClientTransition.Completes t e.1 e.2 ∧
    ∀ u ∈ t :: after, e ∈ u.after.pool.idle

theorem LeftBehind.snoc {e : PoolKey × Nat} {t : ClientTransition} (h : LeftBehind steps e)
    (he : e ∈ t.after.pool.idle) : LeftBehind (steps ++ [t]) e := by
  obtain ⟨before, t₀, after, rfl, hcompletes, hidle⟩ := h
  refine ⟨before, t₀, after ++ [t], by simp, hcompletes, ?_⟩
  intro u hu
  rw [← List.cons_append] at hu
  rcases List.mem_append.mp hu with hu | hu
  · exact hidle u hu
  · obtain rfl := List.mem_singleton.mp hu
    exact he

theorem leftBehind_of_history (past : (ofRoom room).History steps s) : ∀ e ∈ s.pool.idle, LeftBehind steps e := by
  refine past.invariantWith (P := fun steps s => ∀ e ∈ s.pool.idle, LeftBehind steps e) ?_ ?_
  · intro e he
    cases he
  · intro steps s label s' _ h hstep e he
    rcases pool_of_step hstep with hsub | ⟨c, call, link, head, body, hlabel, hcall, hstage, hkeep, hidle⟩
    · exact (h e (hsub.subset he)).snoc he
    · rw [hidle] at he
      rcases List.mem_cons.mp he with rfl | hold
      · refine ⟨steps, _, [], rfl, ⟨c, call, head, body, hlabel, hcall, hstage, hkeep, rfl⟩, ?_⟩
        intro u hu
        obtain rfl := List.mem_singleton.mp hu
        exact hidle ▸ List.mem_cons_self
      · exact (h e hold).snoc (hidle ▸ he)

/-! ## Where the connections are -/

theorem held_of_link {link : Nat} (hcall : s.call? c = some call) (hlink : call.stage.link? = some link) :
    s.held c = some (call.target.url.poolKey, link) := by
  rw [held_of_call hcall, RequestCall.held?, hlink]
  rfl

/-- Connections that go by one number go by one key. -/
theorem eq_of_number {e e' : PoolKey × Nat} (he : s.links[e.2]?.map (·.key) = some e.1)
    (he' : s.links[e'.2]?.map (·.key) = some e'.1) (hnumber : e.2 = e'.2) : e = e' := by
  rw [hnumber] at he
  exact Prod.ext (Option.some.inj (he.symm.trans he')) hnumber

namespace Placed

variable {link : Nat}

theorem idle_or_held (h : s.Placed room) (hopen : s.isClosed link = false) :
    (∃ key, (key, link) ∈ s.pool.idle) ∨ ∃ c call, s.call? c = some call ∧ call.stage.link? = some link := by
  unfold isClosed at hopen
  cases hlink : s.links[link]? with
  | none =>
    rw [hlink] at hopen
    cases hopen
  | some l =>
    rw [hlink] at hopen
    refine (h.live link l hlink hopen).imp (fun hidle => ⟨_, hidle⟩) fun ⟨c, hheld⟩ => ?_
    obtain ⟨call, hcall, hheld⟩ := Option.bind_eq_some_iff.mp hheld
    obtain ⟨link', hlink', heq⟩ := Option.map_eq_some_iff.mp hheld
    exact ⟨c, call, hcall, hlink'.trans (congrArg (some ·.2) heq)⟩

theorem not_idle (h : s.Placed room) (hcall : s.call? c = some call) (hlink : call.stage.link? = some link) :
    ∀ key, (key, link) ∉ s.pool.idle := by
  intro key hidle
  have hheld := held_of_link hcall hlink
  have heq := eq_of_number (h.held_key c _ hheld) (h.idle_key _ hidle) rfl
  exact h.apart c _ hheld (heq ▸ hidle)

theorem eq_of_link {c' : Nat} {call' : RequestCall} (h : s.Placed room) (hcall : s.call? c = some call)
    (hlink : call.stage.link? = some link) (hcall' : s.call? c' = some call') (hlink' : call'.stage.link? = some link) :
    c' = c := by
  have hheld := held_of_link hcall hlink
  have hheld' := held_of_link hcall' hlink'
  have heq := eq_of_number (h.held_key c' _ hheld') (h.held_key c _ hheld) rfl
  exact h.once c' c _ hheld' (heq ▸ hheld)

theorem nodup_numbers (h : s.Placed room) : (s.pool.idle.map (·.2)).Nodup :=
  h.distinct.map_on fun e he e' he' hnumber => eq_of_number (h.idle_key e he) (h.idle_key e' he') hnumber

end Placed

/-- **Every connection has one place.** In every state of a client a connection that is open is idle or
had by one request, and none is both, or idle twice, or had by two. No more are idle for one scheme,
host and port than there is room for; each of them was opened for these, and was left behind by the
last request that had it, which was to be kept alive and got its whole response. -/
theorem connections_placed (past : (ofRoom room).History steps s) :
    (∀ link, s.isClosed link = false →
      (∃ key, (key, link) ∈ s.pool.idle) ∨ ∃ c call, s.call? c = some call ∧ call.stage.link? = some link) ∧
    (∀ c call link, s.call? c = some call → call.stage.link? = some link →
      (∀ key, (key, link) ∉ s.pool.idle) ∧
      ∀ c' call', s.call? c' = some call' → call'.stage.link? = some link → c' = c) ∧
    (s.pool.idle.map (·.2)).Nodup ∧
    (∀ key, s.pool.count key ≤ room) ∧
    ∀ key link, (key, link) ∈ s.pool.idle →
      (∃ t ∈ steps, ClientTransition.Opens t key link) ∧
      ∃ before t after, steps = before ++ t :: after ∧ ClientTransition.Completes t key link ∧
        ∀ u ∈ t :: after, (key, link) ∈ u.after.pool.idle ∧
          ∀ c call, u.after.call? c = some call → call.stage.link? ≠ some link := by
  have hplaced : s.Placed room := .history past
  refine ⟨fun link hopen => hplaced.idle_or_held hopen, ?_, hplaced.nodup_numbers, ?_, ?_⟩
  · intro c call link hcall hlink
    exact ⟨hplaced.not_idle hcall hlink, fun c' call' hcall' hlink' => hplaced.eq_of_link hcall hlink hcall' hlink'⟩
  · intro key
    exact hplaced.capacity ▸ hplaced.within key
  · intro key link hidle
    refine ⟨opens_of_history past link key ?_, ?_⟩
    · rw [keys, List.getElem?_map]
      exact hplaced.idle_key _ hidle
    · obtain ⟨before, t, after, hsteps, hcompletes, hsince⟩ := leftBehind_of_history past _ hidle
      refine ⟨before, t, after, hsteps, hcompletes, fun u hu => ⟨hsince u hu, ?_⟩⟩
      intro c call hcall hlink
      -- the state after this step is one of the client as well, so what is idle there nobody has
      obtain ⟨earlier, _, hearlier, hnow, _⟩ := past.split (hsteps ▸ List.mem_append_right before hu)
      have hafter : u.after.Placed room := .history (hearlier.step hnow)
      exact hafter.not_idle hcall hlink key (hsince u hu)

/-- Two requests at once: the first is over and has left its connection behind, the second still has its
own. -/
theorem connections_placed_of_two :
    ∃ steps s, (ofRoom 1).History steps s ∧ s.pool.idle = [((localTarget true).url.poolKey, 0)] ∧
      (s.call? 1).bind (·.stage.link?) = some 1 ∧ (∀ key, (key, 1) ∉ s.pool.idle) ∧
      ∃ t ∈ steps, ClientTransition.Completes t (localTarget true).url.poolKey 0 := by
  have hplay : (playFrom step (ofRoom 1)
      (.begin 1 (localTarget true) (.seconds 5) :: playRequest 0 true false ++ [.connected 1 (.ok ())])).any (fun r =>
        r.2.pool.idle = [((localTarget true).url.poolKey, 0)] && (r.2.call? 1).bind (·.stage.link?) = some 1) = true := by
    decide +kernel
  obtain ⟨steps, s, past, hP⟩ := History.exists_of_any hplay
  simp only [Bool.and_eq_true, decide_eq_true_eq] at hP
  obtain ⟨hidle, hlink⟩ := hP
  obtain ⟨call, hcall, hstage⟩ := Option.bind_eq_some_iff.mp hlink
  obtain ⟨_, hheld, _, _, hleft⟩ := connections_placed past
  obtain ⟨_, before, t, after, rfl, hcompletes, _⟩ := hleft (localTarget true).url.poolKey 0 (by rw [hidle]; simp)
  exact ⟨_, s, past, hidle, hlink, (hheld 1 call 1 hcall hstage).1, t, by simp, hcompletes⟩

end Client

end HttpBench
