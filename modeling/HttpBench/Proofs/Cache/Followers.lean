import HttpBench.Proofs.Cache.FillSessions

/-!
# Followers go on

A follower that waits is never forgotten. As long as the guard of its slot is alive it waits for the
fetch; once the guard is gone, the lock goes from one waiter to the next, and each of them can go on
by itself. So in an endless run in which whoever can go on does so some time (`FillRun.Fair`), every
follower of a slot whose guard is gone resumes, unless it gives up (`FillRun.exists_end`).

What decreases is the number of those that have the lock before the follower (`FillSlot.ahead`). The
queue may grow meanwhile, but only behind it.
-/

namespace HttpBench

namespace FillSlot

variable {K : Type} {x : FillSlot K} {c : Caller}

def isHeld (x : FillSlot K) : Bool :=
  match x.lock with
  | .held _ => true
  | _ => false

/-- **How many have the lock before a caller** that waits for it. -/
def ahead (x : FillSlot K) (c : Caller) : Nat := x.waiters.idxOf c + x.isHeld.toNat

/-- When the lock is handed on, whoever still waits comes nearer to it. -/
theorem ahead_release_lt (honce : x.waiters.Nodup) (hbusy : x.lock ≠ .free) (hc : c ∈ x.release.waiters) :
    x.release.ahead c < x.ahead c := by
  have hreleased : x.release.ahead c = x.queue.idxOf c := by
    have hheld : x.release.isHeld = false := by
      cases hlock : x.release.lock with
      | held d => exact absurd hlock (x.release_lock_ne_held d)
      | free | handed => rw [isHeld, hlock]
    rw [ahead, hheld, x.release_waiters]
    rfl
  rw [release_waiters] at hc
  rw [hreleased]
  unfold ahead isHeld waiters at *
  cases hlock : x.lock with
  | free => exact absurd hlock hbusy
  | held d => exact Nat.lt_succ_self _
  | handed d =>
    simp only [hlock, List.nodup_cons] at honce ⊢
    have hne : d ≠ c := by
      rintro rfl
      exact honce.1 hc
    rw [List.idxOf_cons_ne _ hne]
    exact Nat.lt_succ_self _

end FillSlot

theorem idxOf_filter_le {c d : Caller} (h : c ≠ d) (l : List Caller) : (l.filter (· != d)).idxOf c ≤ l.idxOf c := by
  induction l with
  | nil => exact Nat.le_refl _
  | cons a l ih =>
    by_cases ha : a = d
    · subst ha
      rw [List.filter_cons_of_neg (by simp), List.idxOf_cons_ne _ (Ne.symm h)]
      exact Nat.le_succ_of_le ih
    · rw [List.filter_cons_of_pos (by simpa using ha)]
      by_cases hac : a = c
      · subst hac
        rw [List.idxOf_cons_self]
        exact Nat.zero_le _
      · rw [List.idxOf_cons_ne _ hac, List.idxOf_cons_ne _ hac]
        exact Nat.succ_le_succ ih

namespace FillSession

variable {K : Type} [DecidableEq K] {s s' : FillSession K} {label : FillLabel K} {c d : Caller} {n : Nat}
  {key : K} {x x' : FillSlot K}

/-- **A caller can go on**, whatever others do: it has been handed the lock that it waits for, or its
guard is on the way out. -/
def CanGoOn (s : FillSession K) (c : Caller) : Prop :=
  ∃ n, s.stage c = .leaves n ∨ s.stage c = .waits n ∧ s.fills.hasTurn n c = true

/-- **No guard of a slot is alive.** -/
def GuardGone (s : FillSession K) (n : Nat) : Prop := ∀ c key, s.stage c ≠ .leads key n

/-! ## What a step does to a follower -/

/-- **Whoever waits** waits on, until it resumes or gives up. -/
theorem waits_of_step (hstep : s.step label = some s') (hc : s.stage c = .waits n) :
    label = .resume c ∨ label = .abandon c ∨ s'.stage c = .waits n := by
  by_cases hcaller : c = label.caller
  · subst hcaller
    cases happens_of_step hstep with
    | resume => exact .inl rfl
    | giveUp | turnAway => exact .inr (.inl rfl)
    | lead hstage | follow hstage | pass hstage | join hstage | stay hstage | unlist hstage | release hstage =>
      rw [FillLabel.caller, hstage] at hc
      cases hc
  · exact .inr (.inr ((step_other hstep hcaller).trans hc))

theorem leaves_of_unlist (hstep : s.step (.unlist c) = some s') (hc : s.stage c = .leads key n) :
    s'.stage c = .leaves n := by
  cases happens_of_step hstep with
  | unlist hstage =>
    rw [hc] at hstage
    obtain ⟨_, rfl⟩ := FillStage.leads.inj hstage
    exact stage_move_self ..

/-- Guards come for new slots only. -/
theorem guardGone_of_step (h : s.Fits) (hstep : s.step label = some s') (hx : s.fills.slot? n = some x)
    (hgone : s.GuardGone n) : s'.GuardGone n := by
  intro d key hd
  by_cases hcaller : d = label.caller
  · subst hcaller
    cases happens_of_step hstep with
    | lead =>
      rw [FillLabel.caller, stage_move_self] at hd
      obtain ⟨_, rfl⟩ := FillStage.leads.inj hd
      exact Nat.lt_irrefl _ (h.fresh hx)
    | stay => exact hgone _ _ hd
    | follow | pass | join | resume | turnAway | giveUp | unlist | release =>
      rw [FillLabel.caller, stage_move_self] at hd
      cases hd
  · rw [step_other hstep hcaller] at hd
    exact hgone d key hd

/-- **Whoever has the lock** and can go on hands it on by whatever it does. -/
theorem handed_of_step (h : s.Fits) (hstep : s.step label = some s') (hx : s.fills.slot? n = some x)
    (hlock : x.lock = .held label.caller ∧ s.stage label.caller = .leaves n ∨ x.lock = .handed label.caller) :
    s'.fills.slot? n = if x.release.lock = .free then none else some x.release := by
  have hreleased : s'.fills = s.fills.update x.release →
      s'.fills.slot? n = if x.release.lock = .free then none else some x.release := by
    intro hfills
    rw [hfills, Fills.slot?_update, x.release_number, Fills.number_of_slot? hx, if_pos rfl]
  rcases hlock with ⟨hheld, hleaves⟩ | hhanded
  -- a guard on its way out can only give its lock up
  · cases happens_of_step hstep with
    | release hstage =>
      rw [FillLabel.caller, hstage] at hleaves
      obtain rfl := FillStage.leaves.inj hleaves
      exact hreleased (Fills.release_of_slot? hx)
    | lead hstage | follow hstage | pass hstage | join hstage | stay hstage | resume hstage | turnAway hstage
    | giveUp hstage | unlist hstage =>
      rw [FillLabel.caller, hstage] at hleaves
      cases hleaves
  -- and one that has been handed the lock hands it on, whether it resumes or gives up
  · have hwaits : s.stage label.caller = .waits n :=
      stage_of_role (h.waits.mpr ⟨x, hx, by simp [FillSlot.waiters, hhanded]⟩)
    cases happens_of_step hstep with
    | resume hstage =>
      rw [FillLabel.caller, hstage] at hwaits
      obtain rfl := FillStage.waits.inj hwaits
      exact hreleased (Fills.release_of_slot? hx)
    | giveUp hstage =>
      rw [FillLabel.caller, hstage] at hwaits
      obtain rfl := FillStage.waits.inj hwaits
      exact hreleased (Fills.abandon_of_handed hx hhanded)
    | lead hstage | follow hstage | pass hstage | join hstage | stay hstage | turnAway hstage | unlist hstage
    | release hstage =>
      rw [FillLabel.caller, hstage] at hwaits
      cases hwaits

omit [DecidableEq K] in
/-- **A slot that changes** brings nobody who waits further back: its lock stays where it is, or it
comes nearer. -/
theorem ahead_of_slotChange (h : SlotChange label x x') (honce : x.waiters.Nodup) (hbusy : x.lock ≠ .free)
    (hc : c ∈ x.waiters) (hc' : c ∈ x'.waiters) :
    x'.lock = x.lock ∧ x'.ahead c ≤ x.ahead c ∨ x'.ahead c < x.ahead c := by
  cases h with
  | handed => exact .inr (FillSlot.ahead_release_lt honce hbusy hc')
  | @joined d =>
    refine .inl ⟨rfl, Nat.le_of_eq ?_⟩
    unfold FillSlot.ahead
    rw [x.waiters_push d, List.idxOf_append_of_mem hc]
    rfl
  | @left d _ hlock =>
    refine .inl ⟨rfl, ?_⟩
    have hwaiters := FillSlot.waiters_filter hlock
    have hne : c ≠ d := by
      rw [hwaiters] at hc'
      simpa using (List.mem_filter.mp hc').2
    unfold FillSlot.ahead
    rw [hwaiters]
    exact Nat.add_le_add_right (idxOf_filter_le hne _) _

theorem ahead_of_step (h : s.Fits) (hstep : s.step label = some s') (hx : s.fills.slot? n = some x)
    (hx' : s'.fills.slot? n = some x') (hc : c ∈ x.waiters) (hc' : c ∈ x'.waiters) :
    x'.lock = x.lock ∧ x'.ahead c ≤ x.ahead c ∨ x'.ahead c < x.ahead c := by
  rcases slot_of_step h hstep hx with hsame | ⟨y, hchange, hslot⟩
  · obtain rfl := Option.some.inj (hsame.symm.trans hx')
    exact .inl ⟨rfl, Nat.le_refl _⟩
  · rw [hslot] at hx'
    split_ifs at hx'
    obtain rfl := Option.some.inj hx'
    exact ahead_of_slotChange hchange (h.once hx) (h.busy hx) hc hc'

omit [DecidableEq K] in
theorem leaves_of_held (h : s.Fits) (hx : s.fills.slot? n = some x) (hgone : s.GuardGone n) (hlock : x.lock = .held d) :
    s.stage d = .leaves n := by
  have hholds : (s.role d).Holds n := h.holds.mpr ⟨x, hx, hlock⟩
  unfold role at hholds
  cases hstage : s.stage d with
  | leaves m =>
    rw [hstage] at hholds
    exact congrArg _ hholds
  | leads key m =>
    rw [hstage] at hholds
    obtain rfl : m = n := hholds
    exact absurd hstage (hgone d key)
  | idle | follows | waits =>
    rw [hstage] at hholds
    exact hholds.elim

omit [DecidableEq K] in
theorem guardGone_of_leaves (h : s.Fits) (hd : s.stage d = .leaves n) : s.GuardGone n := by
  intro v key hv
  obtain rfl := h.one_holder (holds_of_leaves hd) (holds_of_leads hv)
  rw [hd] at hv
  cases hv

omit [DecidableEq K] in
/-- **Where no guard is alive**, whoever has the lock can go on. -/
theorem exists_canGoOn (h : s.Fits) (hx : s.fills.slot? n = some x) (hgone : s.GuardGone n) :
    ∃ d, s.CanGoOn d ∧ (x.lock = .held d ∨ x.lock = .handed d) := by
  cases hlock : x.lock with
  | free => exact absurd hlock (h.busy hx)
  | held d => exact ⟨d, ⟨n, .inl (leaves_of_held h hx hgone hlock)⟩, .inl rfl⟩
  | handed d =>
    have hwaits : s.stage d = .waits n :=
      stage_of_role (h.waits.mpr ⟨x, hx, by simp [FillSlot.waiters, hlock]⟩)
    exact ⟨d, ⟨n, .inr ⟨hwaits, Fills.hasTurn_eq_true.mpr ⟨x, hx, hlock⟩⟩⟩, .inr rfl⟩

end FillSession

/-! ## Endless runs -/

/-- **An endless run** of a session. -/
abbrev FillRun (K : Type) [DecidableEq K] :=
  Endless (FillSession.step : FillSession K → FillLabel K → Option (FillSession K))

namespace FillRun

variable {K : Type} [DecidableEq K] {run : FillRun K} {c : Caller} {n i j : Nat}

/-- **Whoever can go on** does so some time. -/
def Fair (run : FillRun K) : Prop :=
  ∀ i c, (run.state i).CanGoOn c → ∃ j, i ≤ j ∧ ∃ l, run.label j = some l ∧ l.caller = c

/-- A caller goes on from a slot at a moment: it resumes, or gives up. -/
def Ends (run : FillRun K) (c : Caller) (j : Nat) : Prop :=
  run.label j = some (.resume c) ∨ run.label j = some (.abandon c)

theorem fits (h : (run.state 0).Fits) (i : Nat) : (run.state i).Fits :=
  run.invariant h (fun _ _ _ h hstep => h.step hstep) i

theorem ends_or_waits_succ (hc : (run.state i).stage c = .waits n) :
    run.Ends c i ∨ (run.state (i + 1)).stage c = .waits n := by
  rcases run.step_or_same i with ⟨l, hlabel, hstep⟩ | hsame
  · rcases FillSession.waits_of_step hstep hc with rfl | rfl | hwaits
    · exact .inl (.inl hlabel)
    · exact .inl (.inr hlabel)
    · exact .inr hwaits
  · rw [hsame]
    exact .inr hc

theorem ends_or_waits (hc : (run.state i).stage c = .waits n) (hij : i ≤ j) :
    (∃ k, i ≤ k ∧ run.Ends c k) ∨ (run.state j).stage c = .waits n := by
  induction j, hij using Nat.le_induction with
  | base => exact .inr hc
  | succ j hij ih =>
    rcases ih with hends | hwaits
    · exact .inl hends
    · exact (ends_or_waits_succ hwaits).imp_left fun hends => ⟨j, hij, hends⟩

/-- A follower waits, and the guard of its slot is gone. -/
structure Waits (run : FillRun K) (c : Caller) (n i : Nat) : Prop where
  waits : (run.state i).stage c = .waits n
  gone : (run.state i).GuardGone n

/-- A moment later it still waits, no further back, unless it goes on. -/
theorem Waits.succ (h : run.Waits c n i) (hfits : (run.state i).Fits) (hnot : ¬run.Ends c i)
    {x : FillSlot K} (hx : (run.state i).fills.slot? n = some x) (hc : c ∈ x.waiters) :
    run.Waits c n (i + 1) ∧ ∃ x', (run.state (i + 1)).fills.slot? n = some x' ∧ c ∈ x'.waiters ∧
      (x'.lock = x.lock ∧ x'.ahead c ≤ x.ahead c ∨ x'.ahead c < x.ahead c) := by
  have hwaits := (ends_or_waits_succ h.waits).resolve_left hnot
  rcases run.step_or_same i with ⟨l, hlabel, hstep⟩ | hsame
  · obtain ⟨x', hx', hc'⟩ := (hfits.step hstep).slot_of_waits hwaits
    exact ⟨⟨hwaits, FillSession.guardGone_of_step hfits hstep hx h.gone⟩, x', hx', hc',
      FillSession.ahead_of_step hfits hstep hx hx' hc hc'⟩
  · exact ⟨⟨hwaits, hsame ▸ h.gone⟩, x, hsame ▸ hx, hc, .inl ⟨rfl, Nat.le_refl _⟩⟩

/-- As long as it does not go on, the lock is where it was, or has come nearer. -/
theorem Waits.later (h : run.Waits c n i) (hfits : (run.state 0).Fits) (hij : i ≤ j)
    (hnot : ∀ k, i ≤ k → k < j → ¬run.Ends c k) {x : FillSlot K} (hx : (run.state i).fills.slot? n = some x)
    (hc : c ∈ x.waiters) :
    run.Waits c n j ∧ ∃ x', (run.state j).fills.slot? n = some x' ∧ c ∈ x'.waiters ∧
      (x'.lock = x.lock ∧ x'.ahead c ≤ x.ahead c ∨ x'.ahead c < x.ahead c) := by
  induction j, hij using Nat.le_induction with
  | base => exact ⟨h, x, hx, hc, .inl ⟨rfl, Nat.le_refl _⟩⟩
  | succ j hij ih =>
    obtain ⟨hwaits, y, hy, hcy, hahead⟩ := ih fun k hik hkj => hnot k hik (Nat.lt_succ_of_lt hkj)
    obtain ⟨hwaits', y', hy', hcy', hahead'⟩ := hwaits.succ (fits hfits j) (hnot j hij (Nat.lt_succ_self j)) hy hcy
    refine ⟨hwaits', y', hy', hcy', ?_⟩
    rcases hahead with ⟨hlock, hle⟩ | hlt
    · rcases hahead' with ⟨hlock', hle'⟩ | hlt'
      · exact .inl ⟨hlock'.trans hlock, hle'.trans hle⟩
      · exact .inr (Nat.lt_of_lt_of_le hlt' hle)
    · refine .inr (Nat.lt_of_le_of_lt ?_ hlt)
      exact hahead'.elim And.right Nat.le_of_lt

/-- **A follower of a slot whose guard is gone goes on** some time: it resumes, or gives up. The
induction is on how many have the lock before it. -/
theorem exists_end (hfair : run.Fair) (hfits : (run.state 0).Fits) (h : run.Waits c n i) : ∃ j, i ≤ j ∧ run.Ends c j := by
  obtain ⟨x, hx, hc⟩ := (fits hfits i).slot_of_waits h.waits
  induction hk : x.ahead c using Nat.strong_induction_on generalizing i x with
  | _ k ih =>
    subst hk
    by_contra hnever
    have hnot : ∀ j, i ≤ j → ¬run.Ends c j := fun j hij hends => hnever ⟨j, hij, hends⟩
    -- as long as it waits, the lock comes no nearer, or the hypothesis would do
    have hnearest : ∀ {j y}, i ≤ j → run.Waits c n j → (run.state j).fills.slot? n = some y → c ∈ y.waiters →
        ¬y.ahead c < x.ahead c := by
      intro j y hij hwaits hy hcy hlt
      obtain ⟨l, hjl, hends⟩ := ih _ hlt hwaits y hy hcy rfl
      exact hnot l (Nat.le_trans hij hjl) hends
    obtain ⟨d, hgo, hholder⟩ := FillSession.exists_canGoOn (fits hfits i) hx h.gone
    obtain ⟨j, hij, l, hlabel, rfl⟩ := hfair i d hgo
    obtain ⟨hwaits, y, hy, hcy, hahead⟩ := h.later hfits hij (fun k hik _ => hnot k hik) hx hc
    obtain ⟨hlock, hle⟩ := hahead.resolve_right (hnearest hij hwaits hy hcy)
    obtain ⟨hwaits', y', hy', hcy', _⟩ := hwaits.succ (fits hfits j) (hnot j hij) hy hcy
    -- the one that had the lock has it still, and now hands it on
    have hhanded := FillSession.handed_of_step (fits hfits j) (Endless.next_of_label hlabel) hy (by
      rw [hlock]
      refine hholder.imp_left fun hheld => ⟨hheld, ?_⟩
      exact FillSession.leaves_of_held (fits hfits j) hy hwaits.gone (hlock.trans hheld))
    rw [hhanded] at hy'
    split_ifs at hy'
    obtain rfl := Option.some.inj hy'
    have hlt := FillSlot.ahead_release_lt ((fits hfits j).once hy) ((fits hfits j).busy hy) hcy'
    refine hnearest (Nat.le_succ_of_le hij) hwaits' ?_ hcy' (Nat.lt_of_lt_of_le hlt hle)
    rw [hhanded, if_neg ‹_›]

end FillRun

/-! ## In every state -/

namespace FillSession

variable {K : Type} [DecidableEq K] {s : FillSession K} {steps : List (FillTransition K)} {c d : Caller} {n m next : Nat}
  {key : K}

/-- **A session in order**, after the steps taken so far. -/
structure Settled (steps : List (FillTransition K)) (s : FillSession K) : Prop where
  /-- at most one guard of a key is alive -/
  alone : ∀ c d key n m, s.stage c = .leads key n → s.stage d = .leads key m → c = d
  /-- a guard has the lock of its slot -/
  holds : ∀ c key n, s.stage c = .leads key n → ∃ x, s.fills.slot? n = some x ∧ x.lock = .held c ∧ x.key = key
  /-- a key is on the table exactly when a guard of it is alive, with the slot of that guard -/
  listed : ∀ key n, (key, n) ∈ s.fills.current ↔ ∃ c, s.stage c = .leads key n
  /-- a claim follows just when a guard is alive; so whoever makes a slot gets its lock -/
  followed : ∀ c key n, (s.fills.claim key c).2 = .follows n ↔ ∃ d, s.stage d = .leads key n
  /-- whoever is kept waiting is in the queue of a slot whose guard is alive or on the way out, or
  whose lock has been handed to one that asked for it earlier -/
  blocked : ∀ c n, s.stage c = .waits n → s.fills.hasTurn n c = false →
    ∃ x d, s.fills.slot? n = some x ∧ c ∈ x.queue ∧
      (x.lock = .held d ∧ ((∃ key, s.stage d = .leads key n) ∨ s.stage d = .leaves n) ∨
        x.lock = .handed d ∧ s.stage d = .waits n ∧ asked steps d < asked steps c)
  /-- nothing is left when nobody is at anything -/
  cleared : (∀ c, s.stage c = .idle) → s.fills.slots = [] ∧ s.fills.current = []
  /-- whoever can go on may do so at once -/
  able : ∀ c, s.CanGoOn c → ∃ l, FillLabel.caller l = c ∧ (s.step l).isSome = true
  /-- whoever waits for a slot whose guard is gone goes on some time -/
  resumes : ∀ run : FillRun K, run.state 0 = s → run.Fair → ∀ c n i, run.Waits c n i → ∃ j, i ≤ j ∧ run.Ends c j

omit [DecidableEq K] in
theorem alone_of_fits (h : s.Fits) (hc : s.stage c = .leads key n) (hd : s.stage d = .leads key m) : c = d := by
  have hlisted : (key, n) ∈ s.fills.current := h.lists.mpr ⟨c, role_of_stage hc⟩
  have hlisted' : (key, m) ∈ s.fills.current := h.lists.mpr ⟨d, role_of_stage hd⟩
  -- a key is listed once, so both have the lock of one slot
  obtain ⟨_, rfl⟩ := Prod.mk.inj (List.inj_on_of_nodup_map h.distinct hlisted hlisted' rfl)
  exact h.one_holder (holds_of_leads hc) (holds_of_leads hd)

theorem follows_iff (h : s.Fits) : (s.fills.claim key c).2 = .follows n ↔ ∃ d, s.stage d = .leads key n := by
  constructor
  · intro hclaim
    cases hkey : s.fills.slotOf? key with
    | none =>
      rw [Fills.claim_of_none hkey] at hclaim
      cases hclaim
    | some m =>
      rw [Fills.claim_of_some hkey] at hclaim
      obtain rfl := Claim.follows.inj hclaim
      obtain ⟨d, hd⟩ := h.lists.mp (Fills.mem_of_slotOf? hkey)
      exact ⟨d, role_eq_leads.mp hd⟩
  · rintro ⟨d, hd⟩
    rw [Fills.claim_of_some (h.slotOf?_of_leads (role_eq_leads.mpr hd))]

theorem blocked_of_inOrder (h : s.Fits) (horder : InOrder steps s) (hc : s.stage c = .waits n)
    (hturn : s.fills.hasTurn n c = false) :
    ∃ x d, s.fills.slot? n = some x ∧ c ∈ x.queue ∧
      (x.lock = .held d ∧ ((∃ key, s.stage d = .leads key n) ∨ s.stage d = .leaves n) ∨
        x.lock = .handed d ∧ s.stage d = .waits n ∧ asked steps d < asked steps c) := by
  obtain ⟨x, hx, hmem⟩ := h.slot_of_waits hc
  cases hlock : x.lock with
  | free => exact absurd hlock (h.busy hx)
  | held d =>
    refine ⟨x, d, hx, by simpa [FillSlot.waiters, hlock] using hmem, .inl ⟨hlock, ?_⟩⟩
    by_cases hgone : s.GuardGone n
    · exact .inr (leaves_of_held h hx hgone hlock)
    · simp only [GuardGone, not_forall, not_not] at hgone
      obtain ⟨v, key, hv⟩ := hgone
      obtain rfl := h.one_holder (h.holds.mpr ⟨x, hx, hlock⟩) (holds_of_leads hv)
      exact .inl ⟨key, hv⟩
  | handed d =>
    have hwaiters : x.waiters = d :: x.queue := by simp [FillSlot.waiters, hlock]
    have hd : s.stage d = .waits n := stage_of_role (h.waits.mpr ⟨x, hx, by simp [hwaiters]⟩)
    have hsorted := horder n x hx
    rw [hwaiters] at hsorted hmem
    rcases List.mem_cons.mp hmem with rfl | hqueue
    · rw [Fills.hasTurn_eq_true.mpr ⟨x, hx, hlock⟩] at hturn
      cases hturn
    · exact ⟨x, d, hx, hqueue, .inr ⟨hlock, hd, List.rel_of_pairwise_cons hsorted hqueue⟩⟩

theorem exists_step_of_canGoOn (hgo : s.CanGoOn c) : ∃ l, FillLabel.caller l = c ∧ (s.step l).isSome = true := by
  obtain ⟨n, hleaves | ⟨hwaits, hturn⟩⟩ := hgo
  · exact ⟨.release c, rfl, by simp only [step, hleaves, Option.isSome_some]⟩
  · exact ⟨.resume c, rfl, by simp only [step, hwaits, hturn, if_true, Option.isSome_some]⟩

theorem settled_of_history (past : (begin next).History steps s) : s.Settled steps := by
  have h := history_fits past
  constructor
  case alone => exact fun _ _ _ _ _ => alone_of_fits h
  case holds => exact fun _ _ _ hc => h.lock_of_leads (role_eq_leads.mpr hc)
  case listed => exact fun _ _ => h.lists.trans (exists_congr fun _ => role_eq_leads)
  case followed => exact fun _ _ _ => follows_iff h
  case blocked => exact fun _ _ => blocked_of_inOrder h (history_inOrder past)
  case cleared =>
    intro hidle
    exact h.nothing_left fun c => role_of_stage (hidle c)
  case able => exact fun _ => exists_step_of_canGoOn
  case resumes =>
    rintro run rfl hfair c n i hwaits
    exact FillRun.exists_end hfair h hwaits

end FillSession

end HttpBench
