import HttpBench.Proofs.Client.Phases

/-!
# Requests that connect anew

A request on a connection from the pool has seen none set up, and says that it uses one again. When it
loses that connection it is sent once more, on a new one. Until the new one is there it still says that it
uses one again, and what was seen of the new one counts by then: a request that ends in between, because
the connection cannot be made or because its time is over, reports phases of a connection that it claims
to have found (`Client.reused_with_phases`). That is the only way (`Client.setup_of_reused`): every other
exchange over a connection from the pool has no such phases.
-/

namespace HttpBench

/-- **A failure on the way to a connection**, or of the time. -/
def Failure.IsConnecting : Failure → Prop
  | .dns _ | .connect _ | .tls _ | .timeout _ => True
  | .protocol _ | .body _ | .request _ => False

/-- **An exchange saw no connection being set up.** -/
def Exchange.NoSetup (x : Exchange) : Prop :=
  x.phases.dns = none ∧ x.phases.connect = none ∧ x.phases.tls = none

theorem Stopwatch.NoSetup.get_eq_none {w : Stopwatch} (h : w.NoSetup) :
    w.phases.dns = none ∧ w.phases.connect = none ∧ w.phases.tls = none := by
  have hnone : ∀ p : Phase, p.rank < Phase.ttfb.rank → w.phases.get p = none := by
    intro p hp
    rw [get_phases, h p hp]
    cases w.startOf p <;> rfl
  exact ⟨hnone .dns (by decide), hnone .connect (by decide), hnone .tls (by decide)⟩

/-- **A request has lost its connection** from the pool, and has had none since. -/
def Bereft (c : Nat) (steps : List ClientTransition) : Prop :=
  ∃ before t after call link, steps = before ++ t :: after ∧ t.label = .lost c ∧ t.before.call? c = some call ∧
    call.stage = .awaiting link true ∧ ∀ u ∈ t :: after, ∃ call, u.after.call? c = some call ∧ call.stage.link? = none

variable {c : Nat} {steps : List ClientTransition}

theorem Bereft.snoc {t : ClientTransition} {call : RequestCall} (h : Bereft c steps)
    (hcall : t.after.call? c = some call) (hlink : call.stage.link? = none) : Bereft c (steps ++ [t]) := by
  obtain ⟨before, t₀, after, call₀, link, rfl, hlabel, hbefore, hstage, hsince⟩ := h
  refine ⟨before, t₀, after ++ [t], call₀, link, by simp, hlabel, hbefore, hstage, ?_⟩
  intro u hu
  rw [← List.cons_append] at hu
  rcases List.mem_append.mp hu with hu | hu
  · exact hsince u hu
  · obtain rfl := List.mem_singleton.mp hu
    exact ⟨call, hcall, hlink⟩

/-- **What a request says of its connection**, by where it stands, when it has none or is over. -/
def RequestCall.Claims (steps : List ClientTransition) (c : Nat) (call : RequestCall) : Prop :=
  match call.stage with
  | .readying _ => call.watch.reused = none
  | .resolving | .dialling _ | .securing => call.watch.reused = some true → Bereft c steps
  | .awaiting .. | .reading .. => True
  | .ended x => x.phases.reused = some true →
      x.NoSetup ∨ Bereft c steps ∧ ∃ f, x.result = .error f ∧ f.IsConnecting

namespace RequestCall

variable {call call' : RequestCall} {now : Instant} {label : ClientLabel} {before : Option RequestCall}
  {t : ClientTransition} {f : Failure}

/-- A request that is left alone claims the same. -/
theorem Claims.snoc (h : call.Claims steps c) (hcall : t.after.call? c = some call) : call.Claims (steps ++ [t]) c := by
  unfold Claims at h ⊢
  cases hstage : call.stage <;> simp only [hstage] at h ⊢
  case readying => exact h
  case resolving | dialling | securing => exact fun hreused => (h hreused).snoc hcall (by rw [hstage]; rfl)
  case ended x =>
    exact fun hreused => (h hreused).imp_right fun ⟨hbereft, hfails⟩ =>
      ⟨hbereft.snoc hcall (by rw [hstage]; rfl), hfails⟩

/-- **A request that has not been sent** says nothing of its connection while it looks for one. -/
theorem Seeks.claims (h : call.Seeks now call') (hreused : call.watch.reused = .none) : call'.Claims steps c := by
  cases h with
  | found => exact hreused
  | none =>
    have hnot : call.watch.reused ≠ some true := by rw [hreused]; nofun
    unfold connecting
    dsimp only
    split_ifs
    · exact fun htrue => absurd htrue hnot
    · exact fun htrue => absurd htrue hnot

/-- **A request that is sent** on its own connection says so, and one on a connection from the pool has
seen none set up. -/
theorem claims_submitted {link : Nat} {pooled : Bool} (h : pooled = true → call.watch.NoSetup) :
    (call.submitted now link pooled).Claims steps c := by
  unfold submitted
  dsimp only
  split_ifs
  · trivial
  · intro hreused
    exact .inl (h (Option.some.inj hreused)).get_eq_none

/-- **A request under way that claims to use a connection again** has seen none set up, or is bereft. -/
theorem Claims.reused (h : call.Claims steps c) (hobserved : call.Observed now) (hopen : ∀ x, call.stage ≠ .ended x)
    (hreused : call.watch.reused = some true) : call.watch.NoSetup ∨ Bereft c steps ∧ call.stage.link? = none := by
  have hstanding := hobserved.standing
  unfold Claims at h
  unfold Standing at hstanding
  have hsent : ∀ {pooled}, call.watch.SentOn pooled → call.watch.NoSetup := fun hsent =>
    hsent.untouched (Option.some.inj (hsent.reused.symm.trans hreused))
  cases hstage : call.stage <;> simp only [hstage] at h hstanding
  case readying =>
    rw [hreused] at h
    cases h
  case resolving | dialling | securing => exact .inr ⟨h hreused, rfl⟩
  case awaiting => exact .inl (hsent hstanding.2)
  case reading =>
    obtain ⟨_, _, _, hpooled⟩ := hstanding
    exact .inl (hsent hpooled)
  case ended x => exact absurd hstage (hopen x)

/-- **A request that fails** with a connection of its own fails on the way to it. -/
theorem Claims.fail (h : call.Claims steps c) (hobserved : call.Observed now) (hfails : call.Fails now c label f)
    (hcall : t.after.call? c = some (call.endedWith now (.error f))) :
    (call.endedWith now (.error f)).Claims (steps ++ [t]) c := by
  have hopen : ∀ x, call.stage ≠ .ended x := by
    intro x
    cases hfails with
    | lookUp hstage | nowhere hstage | dial hstage | handshake hstage | lost hstage | broken hstage | body hstage =>
      rw [hstage]
      nofun
    | expire hopen => exact hopen x
  intro hreused
  rcases h.reused hobserved hopen hreused with huntouched | ⟨hbereft, hlink⟩
  · exact .inl huntouched.get_eq_none
  · refine .inr ⟨hbereft.snoc hcall rfl, f, rfl, ?_⟩
    cases hfails with
    | lookUp | nowhere | dial | handshake | expire => trivial
    | lost hstage | broken hstage | body hstage =>
      rw [hstage] at hlink
      cases hlink

/-- **Every step of a request** keeps what it claims. -/
theorem Claims.turn (hturns : Turns now c label before (some call')) (hcall' : t.after.call? c = some call')
    (hbefore : t.before.call? c = before) (hlabel : t.label = label)
    (h : ∀ call, before = some call → call.Observed now ∧ call.Claims steps c) : call'.Claims (steps ++ [t]) c := by
  generalize hafter : some call' = after at hturns
  cases hturns with
  | begin hseeks =>
    obtain rfl := Option.some.inj hafter
    exact hseeks.claims rfl
  | @reuse call link hstage =>
    obtain rfl := Option.some.inj hafter
    obtain ⟨hobserved, _⟩ := h call rfl
    have huntil : call.watch.Until 0 now := hobserved.standing_at hstage
    exact claims_submitted fun _ p _ => huntil.ahead p (Nat.zero_le _)
  | @reject call _ link hstage hseeks =>
    obtain rfl := Option.some.inj hafter
    obtain ⟨_, hclaims⟩ := h call rfl
    rw [Claims, hstage] at hclaims
    exact hseeks.claims hclaims
  | @resolve call _ _ hstage | @secure call _ hstage =>
    obtain rfl := Option.some.inj hafter
    obtain ⟨_, hclaims⟩ := h call rfl
    rw [Claims, hstage] at hclaims
    intro hreused
    exact (hclaims (by simpa using hreused)).snoc hcall' rfl
  | connect | shake =>
    obtain rfl := Option.some.inj hafter
    exact claims_submitted fun hpooled => absurd hpooled Bool.false_ne_true
  | answer =>
    obtain rfl := Option.some.inj hafter
    trivial
  | @retry call link hstage =>
    obtain rfl := Option.some.inj hafter
    have hlink : (call.connecting now).stage.link? = none := by
      unfold connecting
      dsimp only
      split_ifs <;> rfl
    have hbereft : Bereft c (steps ++ [t]) := by
      refine ⟨steps, t, [], call, link, rfl, hlabel, hbefore, hstage, fun u hu => ?_⟩
      obtain rfl := List.mem_singleton.mp hu
      exact ⟨_, hcall', hlink⟩
    unfold connecting
    dsimp only
    split_ifs <;> exact fun _ => hbereft
  | @complete call link head body hstage =>
    obtain rfl := Option.some.inj hafter
    obtain ⟨hobserved, _⟩ := h call rfl
    obtain ⟨_, _, _, hsent⟩ := hobserved.standing_at hstage
    have hsent : (call.watch.note .complete now).SentOn _ := hsent.note (.inr rfl)
    intro hreused
    exact .inl (hsent.untouched (Option.some.inj (hsent.reused.symm.trans hreused))).get_eq_none
  | @fail call _ f hfails =>
    obtain rfl := Option.some.inj hafter
    obtain ⟨hobserved, hclaims⟩ := h call rfl
    exact hclaims.fail hobserved hfails hcall'
  | leave => cases hafter

end RequestCall

namespace Client

variable {first s : Client} {call : RequestCall}

theorem claims_of_history (past : first.History steps s) (hnew : first.call? c = none)
    (hcall : s.call? c = some call) : call.Claims steps c := by
  refine past.invariantWith (P := fun steps s => ∀ call, s.call? c = some call → call.Claims steps c) ?_ ?_ call hcall
  · intro call hcall
    rw [hnew] at hcall
    cases hcall
  · intro steps s label s' past h hstep call' hcall'
    rcases turns_of_step hstep c with ⟨_, hturns⟩ | ⟨_, hsame⟩
    · rw [hcall'] at hturns
      exact RequestCall.Claims.turn hturns hcall' rfl rfl fun call hcall =>
        ⟨observed_of_history past hnew hcall, h call hcall⟩
    · exact (h call' (hsame ▸ hcall')).snoc hcall'

/-- **A request that ends over a connection from the pool** has seen none set up, unless it lost that one
and ended on the way to another: then it failed there, or its time was over. -/
theorem setup_of_reused (past : first.History steps s) (hnew : first.call? c = none) (hcall : s.call? c = some call)
    {x : Exchange} (hended : call.stage = .ended x) (hreused : x.phases.reused = some true) :
    x.NoSetup ∨ Bereft c steps ∧ ∃ f, x.result = .error f ∧ f.IsConnecting := by
  have hclaims := claims_of_history past hnew hcall
  rw [RequestCall.Claims, hended] at hclaims
  exact hclaims hreused

/-- A request that loses its connection, and is refused a new one, says that it uses one again. -/
theorem exists_refused :
    ∃ steps s call x, (ofRoom 1).History steps s ∧ s.call? 1 = some call ∧ call.stage = .ended x ∧
      x.phases.reused = some true ∧ ¬x.NoSetup := by
  have hplay : (playFrom step (ofRoom 1) playRefused).any (fun r =>
      (r.2.exchange? 1).any fun x => x.phases.reused = some true && x.phases.dns.isSome) = true := by
    decide +kernel
  obtain ⟨steps, s, past, hP⟩ := History.exists_of_any hplay
  simp only [Bool.and_eq_true, Option.any_eq_true, decide_eq_true_eq] at hP
  obtain ⟨x, hx, hreused, hdns⟩ := hP
  obtain ⟨call, hcall, hended⟩ := exchange?_eq_some hx
  refine ⟨steps, s, call, x, past, hcall, hended, hreused, ?_⟩
  rintro ⟨hnone, _⟩
  rw [hnone] at hdns
  cases hdns

theorem setup_of_reused_of_refused :
    ∃ steps s call x, (ofRoom 1).History steps s ∧ s.call? 1 = some call ∧ call.stage = .ended x ∧
      x.phases.reused = some true ∧ ¬x.NoSetup ∧ Bereft 1 steps := by
  obtain ⟨steps, s, call, x, past, hcall, hended, hreused, hseen⟩ := exists_refused
  obtain ⟨hbereft, _⟩ := (setup_of_reused past rfl hcall hended hreused).resolve_left hseen
  exact ⟨steps, s, call, x, past, hcall, hended, hreused, hseen, hbereft⟩

/-- **A connection that is said to be used again** may have phases: those of the one that was to be
made in its place. -/
theorem reused_with_phases :
    ¬∀ (room : Nat) (steps : List ClientTransition) (s : Client), (ofRoom room).History steps s →
      ∀ c call x, s.call? c = some call → call.stage = .ended x → x.phases.reused = some true → x.NoSetup := by
  intro hnever
  obtain ⟨steps, s, call, x, past, hcall, hended, hreused, hseen⟩ := exists_refused
  exact hseen (hnever 1 steps s past 1 call x hcall hended hreused)

end Client

end HttpBench
