import HttpBench.Proofs.Cache.Fills
import HttpBench.Proofs.History
import Mathlib.Data.List.DropRight

/-!
# Sessions with the fetches under way

Any number of callers claim keys, wait for each other and give up, in any order: a `FillSession` is
the table of fetches together with what each caller is at. The guard of a leader is dropped in two
steps, off the table first and then out of its lock, and others may come in between.

In every state the stages of the callers fit the slots (`FillSession.history_fits`). Whoever waits
stands in the queue of a slot in the order in which the waiters have asked
(`FillSession.history_inOrder`), so the lock is only ever handed to one that asked earlier.
-/

namespace HttpBench

/-- **What a caller is at.** -/
inductive FillStage (K : Type) where
  | idle
  /-- it has been told to follow, and has yet to wait -/
  | follows (slot : Nat)
  /-- it waits for the lock of a slot, or has just been handed it -/
  | waits (slot : Nat)
  /-- it has the guard of a key -/
  | leads (key : K) (slot : Nat)
  /-- its guard is on the way out: off the table, but with the lock -/
  | leaves (slot : Nat)
deriving DecidableEq

def FillStage.role {K : Type} : FillStage K → FillRole K
  | .idle | .follows _ => .none
  | .waits n => .waits n
  | .leads key n => .leads key n
  | .leaves n => .leaves n

/-- **What can happen in a session.** -/
inductive FillLabel (K : Type) where
  /-- a caller claims the fetch of a key -/
  | claim (c : Caller) (key : K)
  /-- it settles: a leader has nothing to wait for, a follower asks for the lock of its slot -/
  | settle (c : Caller)
  /-- a caller that has been handed the lock hands it on and goes -/
  | resume (c : Caller)
  /-- a follower goes without waiting, or stops waiting -/
  | abandon (c : Caller)
  /-- the guard of a leader is dropped: its slot comes off the table -/
  | unlist (c : Caller)
  /-- and its lock is given up -/
  | release (c : Caller)
deriving DecidableEq

def FillLabel.caller {K : Type} : FillLabel K → Caller
  | .claim c _ | .settle c | .resume c | .abandon c | .unlist c | .release c => c

/-- **A session**: the fetches under way, and what each caller is at. -/
structure FillSession (K : Type) where
  fills : Fills K
  stage : Caller → FillStage K

namespace FillSession

variable {K : Type}

/-- A session that begins, with the number of its first slot. -/
def begin (next : Nat) : FillSession K := { fills := { next }, stage := fun _ => .idle }

/-- A caller goes on to a stage, with what becomes of the fetches. -/
def move (s : FillSession K) (c : Caller) (fills : Fills K) (stage : FillStage K) : FillSession K :=
  { fills, stage := Function.update s.stage c stage }

section
variable {s : FillSession K} {c d : Caller} {fills : Fills K} {stage : FillStage K}

@[simp] theorem stage_move_self (s : FillSession K) (c : Caller) (fills : Fills K) (stage : FillStage K) :
    (s.move c fills stage).stage c = stage := Function.update_self ..

theorem stage_move_of_ne (h : d ≠ c) : (s.move c fills stage).stage d = s.stage d := Function.update_of_ne h ..

theorem move_self (s : FillSession K) (c : Caller) : s.move c s.fills (s.stage c) = s := by
  rw [move, Function.update_eq_self]

/-- What the callers are to the fetches under way. -/
def role (s : FillSession K) (c : Caller) : FillRole K := (s.stage c).role

theorem role_of_stage (h : s.stage c = stage) : s.role c = stage.role := congrArg FillStage.role h

theorem role_move (s : FillSession K) (c : Caller) (fills : Fills K) (stage : FillStage K) :
    (s.move c fills stage).role = Function.update s.role c stage.role := by
  funext v
  by_cases hv : v = c
  · subst hv
    rw [role, stage_move_self, Function.update_self]
  · rw [role, stage_move_of_ne hv, Function.update_of_ne hv, role]

/-- **The stages of the callers fit the slots.** -/
def Fits (s : FillSession K) : Prop := s.fills.Fits s.role

theorem Fits.begin (next : Nat) : (FillSession.begin next : FillSession K).Fits := Fills.Fits.empty rfl rfl

theorem fits_move : (s.move c fills stage).Fits ↔ fills.Fits (Function.update s.role c stage.role) := by
  rw [← role_move s c fills stage]
  rfl

theorem Fits.move_same (h : s.Fits) (hrole : s.role c = stage.role) : (s.move c s.fills stage).Fits := by
  rw [fits_move, ← hrole, Function.update_eq_self]
  exact h

theorem stage_of_role {n : Nat} (h : s.role c = .waits n) : s.stage c = .waits n := by
  unfold role FillStage.role at h
  split at h <;> cases h
  assumption

theorem role_eq_leads {n : Nat} {key : K} : s.role c = .leads key n ↔ s.stage c = .leads key n := by
  constructor
  · intro h
    unfold role FillStage.role at h
    split at h <;> cases h
    assumption
  · exact fun h => role_of_stage h

theorem holds_of_leads {n : Nat} {key : K} (h : s.stage c = .leads key n) : (s.role c).Holds n := by
  rw [role_of_stage h]
  rfl

theorem holds_of_leaves {n : Nat} (h : s.stage c = .leaves n) : (s.role c).Holds n := by
  rw [role_of_stage h]
  rfl

theorem Fits.slot_of_waits {n : Nat} (h : s.Fits) (hc : s.stage c = .waits n) :
    ∃ x, s.fills.slot? n = some x ∧ c ∈ x.waiters := by
  exact h.waits.mp (role_of_stage hc)

end

variable [DecidableEq K]

/-- **One thing that happens.** There is no next state for what cannot happen now. -/
def step (s : FillSession K) : FillLabel K → Option (FillSession K)
  | .claim c key =>
    match s.stage c with
    | .idle =>
      let (fills, claim) := s.fills.claim key c
      some (s.move c fills (match claim with
        | .leads n => .leads key n
        | .follows n => .follows n))
    | _ => none
  | .settle c =>
    match s.stage c with
    | .follows n =>
      let (fills, through) := s.fills.settle n c
      some (s.move c fills (if through then .idle else .waits n))
    | .leads .. => some s
    | _ => none
  | .resume c =>
    match s.stage c with
    | .waits n => if s.fills.hasTurn n c then some (s.move c (s.fills.release n) .idle) else none
    | _ => none
  | .abandon c =>
    match s.stage c with
    | .follows _ => some (s.move c s.fills .idle)
    | .waits n => some (s.move c (s.fills.abandon n c) .idle)
    | _ => none
  | .unlist c =>
    match s.stage c with
    | .leads _ n => some (s.move c (s.fills.unlist n) (.leaves n))
    | _ => none
  | .release c =>
    match s.stage c with
    | .leaves n => some (s.move c (s.fills.release n) .idle)
    | _ => none

def Next (s : FillSession K) (label : FillLabel K) (s' : FillSession K) : Prop := s.step label = some s'

/-- **A history of a session** from a state on. -/
abbrev History (first : FillSession K) : List (Transition (FillSession K) (FillLabel K)) → FillSession K → Prop :=
  HttpBench.History Next first

end FillSession

/-- **A step of a session**, with the states around it. -/
abbrev FillTransition (K : Type) := Transition (FillSession K) (FillLabel K)

namespace FillSession

variable {K : Type} [DecidableEq K] {s s' : FillSession K} {label : FillLabel K} {c d : Caller} {n m next : Nat}
  {key : K} {x x' : FillSlot K} {steps : List (FillTransition K)}

/-! ## What a step can be -/

/-- **What happens in one step**: what each step needs, and where it leads. -/
inductive Happens (s : FillSession K) : FillLabel K → FillSession K → Prop
  | lead {c : Caller} {key : K} (hstage : s.stage c = .idle) (hkey : s.fills.slotOf? key = none) :
      Happens s (.claim c key) (s.move c (s.fills.claim key c).1 (.leads key s.fills.next))
  | follow {c : Caller} {key : K} {n : Nat} (hstage : s.stage c = .idle) (hkey : s.fills.slotOf? key = some n) :
      Happens s (.claim c key) (s.move c s.fills (.follows n))
  | pass {c : Caller} {n : Nat} (hstage : s.stage c = .follows n) : Happens s (.settle c) (s.move c s.fills .idle)
  | join {c : Caller} {n : Nat} {x : FillSlot K} (hstage : s.stage c = .follows n) (hslot : s.fills.slot? n = some x)
      (hbusy : x.lock ≠ .free) :
      Happens s (.settle c) (s.move c (s.fills.update { x with queue := x.queue ++ [c] }) (.waits n))
  | stay {c : Caller} {key : K} {n : Nat} (hstage : s.stage c = .leads key n) : Happens s (.settle c) s
  | resume {c : Caller} {n : Nat} (hstage : s.stage c = .waits n) (hturn : s.fills.hasTurn n c = true) :
      Happens s (.resume c) (s.move c (s.fills.release n) .idle)
  | turnAway {c : Caller} {n : Nat} (hstage : s.stage c = .follows n) :
      Happens s (.abandon c) (s.move c s.fills .idle)
  | giveUp {c : Caller} {n : Nat} (hstage : s.stage c = .waits n) :
      Happens s (.abandon c) (s.move c (s.fills.abandon n c) .idle)
  | unlist {c : Caller} {key : K} {n : Nat} (hstage : s.stage c = .leads key n) :
      Happens s (.unlist c) (s.move c (s.fills.unlist n) (.leaves n))
  | release {c : Caller} {n : Nat} (hstage : s.stage c = .leaves n) :
      Happens s (.release c) (s.move c (s.fills.release n) .idle)

theorem happens_of_step (h : s.step label = some s') : s.Happens label s' := by
  unfold step at h
  cases label with
  | claim c key =>
    dsimp only at h
    split at h
    next hstage =>
      cases hkey : s.fills.slotOf? key with
      | none =>
        have hlead : s.Happens (.claim c key) (s.move c (s.fills.claim key c).1 (.leads key s.fills.next)) :=
          .lead hstage hkey
        rw [Fills.claim_of_none hkey] at h hlead
        obtain rfl := Option.some.inj h
        exact hlead
      | some n =>
        rw [Fills.claim_of_some hkey] at h
        obtain rfl := Option.some.inj h
        exact .follow hstage hkey
    next => cases h
  | settle c =>
    dsimp only at h
    split at h
    next n hstage =>
      cases hslot : s.fills.slot? n with
      | none =>
        rw [Fills.settle_of_none hslot] at h
        obtain rfl := Option.some.inj h
        exact .pass hstage
      | some x =>
        by_cases hfree : x.lock = .free
        · simp only [Fills.settle, hslot, hfree, if_true, Option.some.injEq] at h
          exact h ▸ .pass hstage
        · rw [Fills.settle_of_slot? hslot hfree] at h
          obtain rfl := Option.some.inj h
          exact .join hstage hslot hfree
    next key n hstage =>
      obtain rfl := Option.some.inj h
      exact .stay hstage
    next => cases h
  | resume c =>
    dsimp only at h
    split at h
    next n hstage =>
      split_ifs at h with hturn
      obtain rfl := Option.some.inj h
      exact .resume hstage hturn
    next => cases h
  | abandon c =>
    dsimp only at h
    split at h
    next n hstage =>
      obtain rfl := Option.some.inj h
      exact .turnAway hstage
    next n hstage =>
      obtain rfl := Option.some.inj h
      exact .giveUp hstage
    next => cases h
  | unlist c =>
    dsimp only at h
    split at h
    next key n hstage =>
      obtain rfl := Option.some.inj h
      exact .unlist hstage
    next => cases h
  | release c =>
    dsimp only at h
    split at h
    next n hstage =>
      obtain rfl := Option.some.inj h
      exact .release hstage
    next => cases h

theorem step_other (h : s.step label = some s') (hd : d ≠ label.caller) : s'.stage d = s.stage d := by
  cases happens_of_step h with
  | stay => rfl
  | _ => exact Function.update_of_ne hd ..

/-! ## Stages and slots -/

theorem Fits.step (h : s.Fits) (hstep : s.step label = some s') : s'.Fits := by
  cases happens_of_step hstep with
  | follow hstage | pass hstage | turnAway hstage => exact h.move_same ((role_of_stage hstage).trans rfl)
  | stay => exact h
  | lead hstage hkey => exact fits_move.mpr (h.claim hkey (role_of_stage hstage))
  | join hstage hslot => exact fits_move.mpr (h.settle hslot (role_of_stage hstage)).2
  | resume hstage hturn => exact fits_move.mpr (h.handOn hturn)
  | giveUp hstage => exact fits_move.mpr (h.abandon (role_of_stage hstage))
  | unlist hstage => exact fits_move.mpr (h.unlist (role_of_stage hstage))
  | release hstage => exact fits_move.mpr (h.release (role_of_stage hstage))

/-- **In every state** the stages fit the slots. -/
theorem history_fits (past : (begin next).History steps s) : s.Fits :=
  past.invariant (Fits.begin next) fun _ _ _ h hstep => h.step hstep

/-! ## What becomes of the slots -/

/-- **What a step does to a slot.** -/
inductive SlotChange (label : FillLabel K) (x : FillSlot K) : FillSlot K → Prop
  | joined {c : Caller} (hlabel : label = .settle c) : SlotChange label x { x with queue := x.queue ++ [c] }
  | handed (hlock : x.lock = .held label.caller ∨ x.lock = .handed label.caller) : SlotChange label x x.release
  | left {c : Caller} (hlabel : label = .abandon c) (hlock : x.lock ≠ .handed c) :
      SlotChange label x { x with queue := x.queue.filter (· != c) }

omit [DecidableEq K] in
theorem number_of_slotChange (h : SlotChange label x x') : x'.number = x.number := by
  cases h with
  | handed => exact x.release_number
  | joined | left => rfl

omit [DecidableEq K] in
/-- Where one slot is put back, that one is another. -/
theorem slot?_of_change (hx : s.fills.slot? m = some x) (hchange : SlotChange label x x')
    (hfills : s'.fills = s.fills.update x') (n : Nat) :
    s'.fills.slot? n = if n = m then (if x'.lock = .free then none else some x') else s.fills.slot? n := by
  rw [hfills, Fills.slot?_update, number_of_slotChange hchange, Fills.number_of_slot? hx]

/-- **A step changes one slot**, if any, or makes a new one for a leader. -/
theorem slots_of_step (h : s.Fits) (hstep : s.step label = some s') :
    (∀ n, s'.fills.slot? n = s.fills.slot? n) ∨
    (∃ c key, ∀ n, s'.fills.slot? n =
      if n = s.fills.next then some { number := s.fills.next, key, lock := .held c } else s.fills.slot? n) ∨
    ∃ m x x', s.fills.slot? m = some x ∧ SlotChange label x x' ∧
      ∀ n, s'.fills.slot? n = if n = m then (if x'.lock = .free then none else some x') else s.fills.slot? n := by
  cases happens_of_step hstep with
  | follow | pass | stay | turnAway => exact .inl fun _ => rfl
  | unlist => exact .inl fun n => Fills.slot?_unlist ..
  | lead _ hkey => exact .inr (.inl ⟨_, _, Fills.slot?_claim hkey _⟩)
  | join _ hx => exact .inr (.inr ⟨_, _, _, hx, .joined rfl, slot?_of_change hx (.joined rfl) rfl⟩)
  | @resume c m hstage hturn =>
    obtain ⟨x, hx, hlock⟩ := Fills.hasTurn_eq_true.mp hturn
    have hchange : SlotChange (.resume c) x x.release := .handed (.inr hlock)
    exact .inr (.inr ⟨m, x, _, hx, hchange, slot?_of_change hx hchange (Fills.release_of_slot? hx)⟩)
  | @release c m hstage =>
    obtain ⟨x, hx, hlock⟩ := h.lock_of_leaves (role_of_stage hstage)
    have hchange : SlotChange (.release c) x x.release := .handed (.inl hlock)
    exact .inr (.inr ⟨m, x, _, hx, hchange, slot?_of_change hx hchange (Fills.release_of_slot? hx)⟩)
  | @giveUp c m hstage =>
    -- one that gives up hands the lock on if it has just been handed it
    obtain ⟨x, hx, _⟩ := h.slot_of_waits hstage
    by_cases hlock : x.lock = .handed c
    · have hchange : SlotChange (.abandon c) x x.release := .handed (.inr hlock)
      exact .inr (.inr ⟨m, x, _, hx, hchange, slot?_of_change hx hchange (Fills.abandon_of_handed hx hlock)⟩)
    · have hchange : SlotChange (.abandon c) x { x with queue := x.queue.filter (· != c) } := .left rfl hlock
      exact .inr (.inr ⟨m, x, _, hx, hchange, slot?_of_change hx hchange (Fills.abandon_of_queued hx hlock)⟩)

/-- **A slot that is there** stays as it is, or is changed; it goes only with its lock free. -/
theorem slot_of_step (h : s.Fits) (hstep : s.step label = some s') (hx : s.fills.slot? n = some x) :
    s'.fills.slot? n = some x ∨
      ∃ x', SlotChange label x x' ∧ s'.fills.slot? n = if x'.lock = .free then none else some x' := by
  rcases slots_of_step h hstep with hsame | ⟨c, key, hnew⟩ | ⟨m, y, y', hy, hchange, hslots⟩
  · exact .inl (hsame n ▸ hx)
  · have hn : n ≠ s.fills.next := Nat.ne_of_lt (h.fresh hx)
    rw [hnew, if_neg hn]
    exact .inl hx
  · by_cases hn : n = m
    · subst hn
      obtain rfl := Option.some.inj (hx.symm.trans hy)
      rw [hslots, if_pos rfl]
      exact .inr ⟨y', hchange, rfl⟩
    · rw [hslots, if_neg hn]
      exact .inl hx

/-- **A slot that was not there** is that of a leader, and nobody waits for it. -/
theorem waiters_of_new (h : s.Fits) (hstep : s.step label = some s') (hx : s.fills.slot? n = none)
    (hx' : s'.fills.slot? n = some x') : x'.waiters = [] := by
  rcases slots_of_step h hstep with hsame | ⟨c, key, hnew⟩ | ⟨m, y, y', hy, hchange, hslots⟩
  · rw [hsame, hx] at hx'
    cases hx'
  · rw [hnew] at hx'
    split_ifs at hx'
    · obtain rfl := Option.some.inj hx'
      rfl
    · rw [hx] at hx'
      cases hx'
  · rw [hslots, if_neg ?_, hx] at hx'
    · cases hx'
    · rintro rfl
      rw [hx] at hy
      cases hy

/-! ## First come, first served -/

/-- **When a caller last asked for a lock**, counted from the beginning. -/
def asked (steps : List (FillTransition K)) (c : Caller) : Nat :=
  (steps.rdropWhile fun t => t.label ≠ .settle c).length

theorem asked_le (steps : List (FillTransition K)) (c : Caller) : asked steps c ≤ steps.length :=
  (List.rdropWhile_prefix _ steps).length_le

theorem asked_settle {t : FillTransition K} (h : t.label = .settle c) : asked (steps ++ [t]) c = steps.length + 1 := by
  rw [asked, List.rdropWhile_concat, if_neg (by simp [h]), List.length_append, List.length_singleton]

theorem asked_other {t : FillTransition K} (h : t.label ≠ .settle c) : asked (steps ++ [t]) c = asked steps c := by
  rw [asked, List.rdropWhile_concat, if_pos (by simp [h]), asked]

theorem ne_settle_of_waits (hstep : s.step label = some s') (hc : s.stage c = .waits n) : label ≠ .settle c := by
  rintro rfl
  cases happens_of_step hstep with
  | pass hstage | join hstage | stay hstage =>
    rw [hc] at hstage
    cases hstage

omit [DecidableEq K] in
theorem queue_sublist (x : FillSlot K) : x.queue.Sublist x.waiters := by
  unfold FillSlot.waiters
  split
  · exact List.sublist_cons_self ..
  · exact List.Sublist.refl _
  · exact List.Sublist.refl _

omit [DecidableEq K] in
/-- **Who waits for a slot after a step** has waited before, or has just asked. -/
theorem waiters_of_slotChange (h : SlotChange label x x') :
    x'.waiters.Sublist x.waiters ∨ ∃ c, label = .settle c ∧ x'.waiters = x.waiters ++ [c] := by
  cases h with
  | @joined c hlabel => exact .inr ⟨c, hlabel, x.waiters_push c⟩
  | handed =>
    rw [FillSlot.release_waiters]
    exact .inl (queue_sublist x)
  | @left c _ hlock =>
    rw [FillSlot.waiters_filter hlock]
    exact .inl List.filter_sublist

/-- **The waiters of every slot stand in the order in which they have asked.** -/
def InOrder (steps : List (FillTransition K)) (s : FillSession K) : Prop :=
  ∀ n x, s.fills.slot? n = some x → x.waiters.Pairwise fun c d => asked steps c < asked steps d

/-- **Every step** keeps the waiters in order. -/
theorem InOrder.step (h : InOrder steps s) (hfits : s.Fits) (hstep : s.step label = some s') :
    InOrder (steps ++ [⟨s, label, s'⟩]) s' := by
  intro n x' hx'
  cases hx : s.fills.slot? n with
  | none =>
    rw [waiters_of_new hfits hstep hx hx']
    exact .nil
  | some x =>
    -- those who have waited before have asked before
    have hasked : ∀ c ∈ x.waiters, asked (steps ++ [⟨s, label, s'⟩]) c = asked steps c := by
      intro c hc
      have hrole : s.role c = .waits n := hfits.waits.mpr ⟨x, hx, hc⟩
      exact asked_other (ne_settle_of_waits hstep (stage_of_role hrole))
    have hold : x.waiters.Pairwise fun c d =>
        asked (steps ++ [⟨s, label, s'⟩]) c < asked (steps ++ [⟨s, label, s'⟩]) d := by
      refine (h n x hx).imp_of_mem ?_
      intro c d hc hd hlt
      rw [hasked c hc, hasked d hd]
      exact hlt
    rcases slot_of_step hfits hstep hx with hsame | ⟨y, hchange, hslot⟩
    · obtain rfl := Option.some.inj (hsame.symm.trans hx')
      exact hold
    · rw [hslot] at hx'
      split_ifs at hx'
      obtain rfl := Option.some.inj hx'
      rcases waiters_of_slotChange hchange with hsub | ⟨c, rfl, hjoined⟩
      · exact hold.sublist hsub
      · rw [hjoined]
        refine List.pairwise_append.mpr ⟨hold, List.pairwise_singleton .., ?_⟩
        intro d hd c' hc'
        obtain rfl := List.mem_singleton.mp hc'
        rw [hasked d hd, asked_settle rfl]
        exact Nat.lt_succ_of_le (asked_le steps d)

theorem history_inOrder (past : (begin next).History steps s) : InOrder steps s := by
  refine past.invariantWith (P := InOrder) ?_ fun _ _ _ _ before h hstep => h.step (history_fits before) hstep
  intro n x hx
  cases hx

end FillSession

end HttpBench
