import HttpBench.Cache.Fill
import HttpBench.Proofs.Keyed

/-!
# Who waits for whom

What each caller is to the fetches under way is its `FillRole`. The roles and the slots fit
(`Fills.Fits`): the lock of every slot is with a leader, or has been handed to a caller that waited
for it, and everybody else who waits for the slot is in its queue, once. The table of keys lists
exactly the slots of those leaders that have not yet taken theirs off, one a key.

Every operation changes one slot and the role of one caller, so all of them but `claim` and
`unlist` are cases of one law (`Fits.update`).
-/

namespace HttpBench

/-- **What a caller is** to the fetches under way. -/
inductive FillRole (K : Type) where
  | none
  /-- it waits for the lock of a slot, or has just been handed it -/
  | waits (slot : Nat)
  /-- it leads, and its slot is on the table -/
  | leads (key : K) (slot : Nat)
  /-- it has taken its slot off the table, and still has the lock -/
  | leaves (slot : Nat)

namespace FillRole
variable {K : Type}

/-- The caller has the lock of a slot as its leader. -/
def Holds (n : Nat) : FillRole K → Prop
  | leads _ slot | leaves slot => slot = n
  | none | waits _ => False

end FillRole

namespace FillSlot
variable {K : Type} {s : FillSlot K}

/-- All who wait for the lock, the one that has been handed it included. -/
def waiters (s : FillSlot K) : List Caller :=
  match s.lock with
  | .handed c => c :: s.queue
  | .free | .held _ => s.queue

theorem waiters_push (s : FillSlot K) (c : Caller) :
    ({ s with queue := s.queue ++ [c] } : FillSlot K).waiters = s.waiters ++ [c] := by
  cases hl : s.lock <;> simp [waiters, hl]

theorem waiters_filter {c : Caller} (h : s.lock ≠ .handed c) :
    ({ s with queue := s.queue.filter (· != c) } : FillSlot K).waiters = s.waiters.filter (· != c) := by
  cases hl : s.lock with
  | handed d =>
    have hd : d ≠ c := by
      rintro rfl
      exact h hl
    simp [waiters, hl, hd]
  | free | held => simp [waiters, hl]

@[simp] theorem release_number (s : FillSlot K) : s.release.number = s.number := by
  unfold release
  split <;> rfl

@[simp] theorem release_key (s : FillSlot K) : s.release.key = s.key := by
  unfold release
  split <;> rfl

/-- Whoever was in the queue waits on. -/
@[simp] theorem release_waiters (s : FillSlot K) : s.release.waiters = s.queue := by
  unfold release
  split <;> simp [waiters, *]

/-- A lock that is given up is handed on to the first who waits. -/
theorem release_lock (s : FillSlot K) :
    s.release.lock = match s.queue with
      | c :: _ => .handed c
      | [] => .free := by
  unfold release
  split <;> simp [*]

theorem release_lock_ne_held (s : FillSlot K) (c : Caller) : s.release.lock ≠ .held c := by
  rw [release_lock]
  split <;> simp

/-- A lock that is given up is free when nobody waits. -/
theorem queue_of_release_free (h : s.release.lock = .free) : s.queue = [] := by
  rw [release_lock] at h
  split at h
  · cases h
  · assumption

end FillSlot

namespace Fills
variable {K : Type} {f : Fills K} {s : FillSlot K} {c : Caller} {n m : Nat} {key : K}

/-! ## Slots by number -/

theorem number_of_slot? (h : f.slot? n = some s) : s.number = n := by
  simpa using List.find?_some h

/-- A slot that is put back is the one of its number. -/
theorem slot?_update (f : Fills K) (s : FillSlot K) (m : Nat) :
    (f.update s).slot? m = if m = s.number then (if s.lock = .free then none else some s) else f.slot? m := by
  have others : (f.slots.filter (·.number != s.number)).find? (·.number == m) =
      if m = s.number then none else f.slot? m := Keyed.find?_others ..
  by_cases hfree : s.lock = .free
  · rw [slot?, update]
    simp only [hfree, if_true, others]
  · rw [slot?, update]
    simp only [hfree, if_false, List.find?_append, others]
    by_cases hm : m = s.number
    · simp [hm]
    · have hne : (s.number == m) = false := by simpa using Ne.symm hm
      simp [hm, hne]

@[simp] theorem current_update (f : Fills K) (s : FillSlot K) : (f.update s).current = f.current := rfl

theorem release_of_slot? (h : f.slot? n = some s) : f.release n = f.update s.release := by
  simp [release, h]

theorem settle_of_none (h : f.slot? n = none) (c : Caller) : f.settle n c = (f, true) := by
  simp [settle, h]

theorem settle_of_slot? (h : f.slot? n = some s) (hbusy : s.lock ≠ .free) (c : Caller) :
    f.settle n c = (f.update { s with queue := s.queue ++ [c] }, false) := by
  simp [settle, h, hbusy]

theorem hasTurn_eq_true : f.hasTurn n c = true ↔ ∃ s, f.slot? n = some s ∧ s.lock = .handed c := by
  unfold hasTurn
  split
  next s hs => simp [hs]
  next hs => simp [hs]

theorem abandon_of_handed (h : f.slot? n = some s) (hturn : s.lock = .handed c) :
    f.abandon n c = f.update s.release := by
  simp [abandon, h, hturn]

theorem abandon_of_queued (h : f.slot? n = some s) (hturn : s.lock ≠ .handed c) :
    f.abandon n c = f.update { s with queue := s.queue.filter (· != c) } := by
  simp [abandon, h, hturn]

@[simp] theorem slot?_unlist [DecidableEq K] (f : Fills K) (n m : Nat) : (f.unlist n).slot? m = f.slot? m := by
  unfold unlist
  split <;> rfl

@[simp] theorem next_unlist [DecidableEq K] (f : Fills K) (n : Nat) : (f.unlist n).next = f.next := by
  unfold unlist
  split <;> rfl

theorem current_unlist [DecidableEq K] (h : f.slot? n = some s) :
    (f.unlist n).current = f.current.filter fun e => ¬(e.1 = s.key ∧ e.2 = n) := by
  simp [unlist, h]

theorem mem_of_slotOf? [DecidableEq K] (h : f.slotOf? key = some n) : (key, n) ∈ f.current := by
  obtain ⟨e, he, rfl⟩ := Option.map_eq_some_iff.mp h
  have hkey : e.1 = key := by simpa using List.find?_some he
  rw [← hkey]
  exact List.mem_of_find?_eq_some he

theorem not_mem_of_slotOf? [DecidableEq K] (h : f.slotOf? key = none) : (key, n) ∉ f.current := by
  intro hmem
  have hnone := List.find?_eq_none.mp (Option.map_eq_none_iff.mp h) _ hmem
  simp at hnone

/-- **A claim of a key that is not listed leads**: there is a new slot, whose lock the claimer has. -/
theorem claim_of_none [DecidableEq K] (h : f.slotOf? key = none) (c : Caller) :
    f.claim key c =
      ({ ({ f with next := f.next + 1 } : Fills K).update { number := f.next, key, lock := .held c } with
          current := f.current ++ [(key, f.next)] },
        .leads f.next) := by
  simp [claim, h, FillSlot.tryHold]

theorem next_claim [DecidableEq K] (h : f.slotOf? key = none) (c : Caller) : (f.claim key c).1.next = f.next + 1 := by
  rw [claim_of_none h]
  rfl

/-- The new slot is the only one that is new. -/
theorem slot?_claim [DecidableEq K] (h : f.slotOf? key = none) (c : Caller) (m : Nat) :
    (f.claim key c).1.slot? m =
      if m = f.next then some { number := f.next, key, lock := .held c } else f.slot? m := by
  rw [claim_of_none h]
  show (({ f with next := f.next + 1 } : Fills K).update { number := f.next, key, lock := .held c }).slot? m = _
  rw [slot?_update]
  split <;> simp [slot?]

/-- A claim of a key that is listed follows. -/
theorem claim_of_some [DecidableEq K] (h : f.slotOf? key = some n) (c : Caller) :
    f.claim key c = (f, .follows n) := by
  simp [claim, h]

/-! ## Roles and slots -/

variable {role : Caller → FillRole K}

/-- **The roles of the callers fit the slots.** -/
structure Fits (f : Fills K) (role : Caller → FillRole K) : Prop where
  /-- slots to come are not there yet -/
  fresh : ∀ {n s}, f.slot? n = some s → n < f.next
  /-- a slot that is there has somebody with its lock -/
  busy : ∀ {n s}, f.slot? n = some s → s.lock ≠ .free
  /-- nobody waits twice -/
  once : ∀ {n s}, f.slot? n = some s → s.waiters.Nodup
  waits : ∀ {c n}, role c = .waits n ↔ ∃ s, f.slot? n = some s ∧ c ∈ s.waiters
  holds : ∀ {c n}, (role c).Holds n ↔ ∃ s, f.slot? n = some s ∧ s.lock = .held c
  /-- a leader has a slot for its key -/
  keyed : ∀ {c key n s}, role c = .leads key n → f.slot? n = some s → s.key = key
  /-- the table lists the leaders -/
  lists : ∀ {key n}, (key, n) ∈ f.current ↔ ∃ c, role c = .leads key n
  /-- a key is listed once -/
  distinct : (f.current.map (·.1)).Nodup

namespace Fits

/-- Where nothing is under way nobody has a role. -/
theorem empty (hslots : f.slots = []) (hcurrent : f.current = []) : f.Fits fun _ => .none := by
  have hnone : ∀ n, f.slot? n = none := fun n => by simp [slot?, hslots]
  constructor <;> simp [hnone, hcurrent, FillRole.Holds]

/-- Where nobody has a role nothing is under way. -/
theorem nothing_left (h : f.Fits role) (hnone : ∀ c, role c = .none) : f.slots = [] ∧ f.current = [] := by
  constructor
  · refine List.eq_nil_iff_forall_not_mem.mpr fun x hx => ?_
    obtain ⟨s, hs⟩ : ∃ s, f.slot? x.number = some s :=
      Option.isSome_iff_exists.mp (List.find?_isSome.mpr ⟨x, hx, beq_self_eq_true _⟩)
    cases hlock : s.lock with
    | free => exact h.busy hs hlock
    | held c =>
      have hholds : (role c).Holds x.number := h.holds.mpr ⟨s, hs, hlock⟩
      rw [hnone] at hholds
      exact hholds
    | handed c =>
      have hwaits : role c = .waits x.number := h.waits.mpr ⟨s, hs, by simp [FillSlot.waiters, hlock]⟩
      rw [hnone] at hwaits
      cases hwaits
  · refine List.eq_nil_iff_forall_not_mem.mpr fun ⟨key, n⟩ hmem => ?_
    obtain ⟨c, hc⟩ := h.lists.mp hmem
    rw [hnone] at hc
    cases hc

/-- What a caller is told by, in its new role as in its old one, tells no change of it. -/
theorem update_iff {P : FillRole K → Prop} {r : FillRole K} (h : P r ↔ P (role c)) (v : Caller) :
    P (Function.update role c r v) ↔ P (role v) := by
  by_cases hv : v = c
  · subst hv
    rw [Function.update_self]
    exact h
  · rw [Function.update_of_ne hv]

/-- **One slot and one caller**: a slot is put back, and a caller that was nothing else but at that
slot is at it in another role, or is nothing. -/
theorem update {s' : FillSlot K} {r : FillRole K} (h : f.Fits role) (hs : f.slot? n = some s)
    (hc : role c = .none ∨ role c = .waits n ∨ role c = .leaves n) (hr : r = .none ∨ r = .waits n)
    (hnumber : s'.number = s.number) (hkey : s'.key = s.key) (honce : s'.waiters.Nodup)
    (hfree : s'.lock = .free → s'.waiters = [])
    (hwaits : ∀ v, v ∈ s'.waiters ↔ if v = c then r = .waits n else v ∈ s.waiters)
    (hholds : ∀ v, s'.lock = .held v ↔ v ≠ c ∧ s.lock = .held v) :
    (f.update s').Fits (Function.update role c r) := by
  have hn : s'.number = n := hnumber.trans (number_of_slot? hs)
  have hslot : ∀ m, (f.update s').slot? m = if m = n then (if s'.lock = .free then none else some s') else f.slot? m :=
    fun m => hn ▸ slot?_update f s' m
  have hnew : ∀ {x}, (f.update s').slot? n = some x ↔ s'.lock ≠ .free ∧ s' = x := fun {x} => by
    rw [hslot, if_pos rfl]
    simp
  have hold : ∀ {m}, m ≠ n → (f.update s').slot? m = f.slot? m := fun hm => by rw [hslot, if_neg hm]
  -- away from the slot, nothing has become of the caller
  have hwaits' : ∀ v m, m ≠ n → (Function.update role c r v = .waits m ↔ role v = .waits m) := by
    intro v m hm
    apply update_iff (P := (· = .waits m))
    rcases hc with hc | hc | hc <;> rcases hr with rfl | rfl <;> simp [hc, Ne.symm hm]
  have hholds' : ∀ v m, m ≠ n → ((Function.update role c r v).Holds m ↔ (role v).Holds m) := by
    intro v m hm
    apply update_iff (P := (·.Holds m))
    rcases hc with hc | hc | hc <;> rcases hr with rfl | rfl <;> simp [hc, FillRole.Holds, Ne.symm hm]
  have hleads : ∀ v key m, Function.update role c r v = .leads key m ↔ role v = .leads key m := by
    intro v key m
    apply update_iff (P := (· = .leads key m))
    rcases hc with hc | hc | hc <;> rcases hr with rfl | rfl <;> simp [hc]
  constructor
  case fresh =>
    intro m x hx
    by_cases hm : m = n
    · exact hm ▸ h.fresh hs
    · exact h.fresh (hold hm ▸ hx)
  case busy =>
    intro m x hx
    by_cases hm : m = n
    · subst hm
      obtain ⟨hbusy, rfl⟩ := hnew.mp hx
      exact hbusy
    · exact h.busy (hold hm ▸ hx)
  case once =>
    intro m x hx
    by_cases hm : m = n
    · subst hm
      obtain ⟨_, rfl⟩ := hnew.mp hx
      exact honce
    · exact h.once (hold hm ▸ hx)
  case waits =>
    intro v m
    by_cases hm : m ≠ n
    · rw [hwaits' v m hm, hold hm]
      exact h.waits
    obtain rfl := not_not.mp hm
    have hv : Function.update role c r v = .waits m ↔ v ∈ s'.waiters := by
      rw [hwaits, Function.update_apply]
      split
      · rfl
      · rw [h.waits]
        simp [hs]
    rw [hv]
    constructor
    · intro hmem
      have hbusy : s'.lock ≠ .free := fun hl => by simp [hfree hl] at hmem
      exact ⟨s', hnew.mpr ⟨hbusy, rfl⟩, hmem⟩
    · rintro ⟨x, hx, hmem⟩
      obtain ⟨_, rfl⟩ := hnew.mp hx
      exact hmem
  case holds =>
    intro v m
    by_cases hm : m ≠ n
    · rw [hholds' v m hm, hold hm]
      exact h.holds
    obtain rfl := not_not.mp hm
    have hv : (Function.update role c r v).Holds m ↔ s'.lock = .held v := by
      rw [hholds, Function.update_apply]
      split
      next hvc => rcases hr with rfl | rfl <;> simp [hvc, FillRole.Holds]
      next hvc =>
        rw [h.holds]
        simp [hs, hvc]
    rw [hv]
    constructor
    · intro hl
      exact ⟨s', hnew.mpr ⟨by simp [hl], rfl⟩, hl⟩
    · rintro ⟨x, hx, hl⟩
      obtain ⟨_, rfl⟩ := hnew.mp hx
      exact hl
  case keyed =>
    intro v key m x hv hx
    have hv := (hleads v key m).mp hv
    by_cases hm : m = n
    · subst hm
      obtain ⟨_, rfl⟩ := hnew.mp hx
      exact hkey.trans (h.keyed hv hs)
    · exact h.keyed hv (hold hm ▸ hx)
  case lists =>
    intro key m
    rw [current_update, h.lists]
    exact exists_congr fun v => (hleads v key m).symm
  case distinct => exact h.distinct

/-! ## Operations -/

/-- Whoever is nothing waits for no slot. -/
theorem not_mem_waiters (h : f.Fits role) (hs : f.slot? n = some s) (hc : role c ≠ .waits n) : c ∉ s.waiters :=
  fun hmem => hc (h.waits.mpr ⟨s, hs, hmem⟩)

/-- Nobody but its leader has the lock of a slot. -/
theorem lock_of_leaves (h : f.Fits role) (hc : role c = .leaves n) : ∃ s, f.slot? n = some s ∧ s.lock = .held c :=
  h.holds.mp (by rw [hc]; rfl)

theorem lock_of_leads (h : f.Fits role) (hc : role c = .leads key n) :
    ∃ s, f.slot? n = some s ∧ s.lock = .held c ∧ s.key = key := by
  obtain ⟨s, hs, hl⟩ := h.holds.mp (show (role c).Holds n by rw [hc]; rfl)
  exact ⟨s, hs, hl, h.keyed hc hs⟩

/-- There is one leader for a slot, as there is one lock. -/
theorem one_holder {d : Caller} (h : f.Fits role) (hc : (role c).Holds n) (hd : (role d).Holds n) : c = d := by
  obtain ⟨s, hs, hl⟩ := h.holds.mp hc
  obtain ⟨s', hs', hl'⟩ := h.holds.mp hd
  obtain rfl := Option.some.inj (hs.symm.trans hs')
  exact LockState.held.inj (hl.symm.trans hl')

/-- The slot to come is not there. -/
theorem slot?_next (h : f.Fits role) : f.slot? f.next = none := by
  cases hs : f.slot? f.next with
  | none => rfl
  | some s => exact absurd (h.fresh hs) (Nat.lt_irrefl _)

/-- **A follower joins the queue.** -/
theorem settle (h : f.Fits role) (hs : f.slot? n = some s) (hc : role c = .none) :
    f.settle n c = (f.update { s with queue := s.queue ++ [c] }, false) ∧
      (f.update { s with queue := s.queue ++ [c] }).Fits (Function.update role c (.waits n)) := by
  have hbusy := h.busy hs
  have hnot : c ∉ s.waiters := h.not_mem_waiters hs (by simp [hc])
  have hwaiters := s.waiters_push c
  refine ⟨settle_of_slot? hs hbusy c, h.update hs (.inl hc) (.inr rfl) rfl rfl ?_ ?_ ?_ ?_⟩
  · rw [hwaiters]
    exact List.nodup_append.mpr ⟨h.once hs, by simp, by rintro a ha b hb rfl; simp_all⟩
  · exact fun hl => absurd hl hbusy
  · intro v
    rw [hwaiters]
    by_cases hv : v = c <;> simp [hv]
  · intro v
    constructor
    · intro hl
      refine ⟨?_, hl⟩
      rintro rfl
      have hheld : (role v).Holds n := h.holds.mpr ⟨s, hs, hl⟩
      rw [hc] at hheld
      exact hheld
    · exact And.right

/-- Giving a lock up: the one that had it is nothing from then on. -/
private theorem giveUp (h : f.Fits role) (hs : f.slot? n = some s) (hc : role c = .waits n ∨ role c = .leaves n)
    (hlock : s.lock = .held c ∨ s.lock = .handed c) : (f.update s.release).Fits (Function.update role c .none) := by
  have hqueue : ∀ v, v ∈ s.queue ↔ v ≠ c ∧ v ∈ s.waiters := by
    intro v
    rcases hlock with hl | hl
    · have hnot : c ∉ s.waiters := h.not_mem_waiters hs fun hw => by
        have hheld : (role c).Holds n := h.holds.mpr ⟨s, hs, hl⟩
        rw [hw] at hheld
        exact hheld
      simp only [FillSlot.waiters, hl] at hnot ⊢
      exact ⟨fun hv => ⟨fun hvc => hnot (hvc ▸ hv), hv⟩, And.right⟩
    · have honce := h.once hs
      simp only [FillSlot.waiters, hl, List.nodup_cons, List.mem_cons] at honce ⊢
      exact ⟨fun hv => ⟨fun hvc => honce.1 (hvc ▸ hv), .inr hv⟩, fun ⟨hvc, hv⟩ => hv.resolve_left hvc⟩
  refine h.update hs (.inr hc) (.inl rfl) s.release_number s.release_key ?_ ?_ ?_ ?_
  · rw [s.release_waiters]
    refine (h.once hs).sublist ?_
    cases hl : s.lock <;> simp [FillSlot.waiters, hl]
  · exact fun hl => by rw [s.release_waiters, s.queue_of_release_free hl]
  · intro v
    rw [s.release_waiters, hqueue]
    by_cases hv : v = c <;> simp [hv]
  · intro v
    simp only [s.release_lock_ne_held v, false_iff, not_and]
    intro hv hl
    rcases hlock with hl' | hl' <;> rw [hl'] at hl
    · exact hv (LockState.held.inj hl).symm
    · cases hl

/-- **A leader gives its lock up.** -/
theorem release (h : f.Fits role) (hc : role c = .leaves n) : (f.release n).Fits (Function.update role c .none) := by
  obtain ⟨s, hs, hl⟩ := h.lock_of_leaves hc
  rw [release_of_slot? hs]
  exact h.giveUp hs (.inr hc) (.inl hl)

/-- **A caller that has been handed the lock hands it on.** -/
theorem handOn (h : f.Fits role) (hturn : f.hasTurn n c = true) :
    (f.release n).Fits (Function.update role c .none) := by
  obtain ⟨s, hs, hl⟩ := hasTurn_eq_true.mp hturn
  have hc : role c = .waits n := h.waits.mpr ⟨s, hs, by simp [FillSlot.waiters, hl]⟩
  rw [release_of_slot? hs]
  exact h.giveUp hs (.inl hc) (.inr hl)

/-- **A caller stops waiting**, whether it has been handed the lock or not. -/
theorem abandon (h : f.Fits role) (hc : role c = .waits n) :
    (f.abandon n c).Fits (Function.update role c .none) := by
  obtain ⟨s, hs, hmem⟩ := h.waits.mp hc
  by_cases hl : s.lock = .handed c
  · rw [abandon_of_handed hs hl]
    exact h.giveUp hs (.inl hc) (.inr hl)
  · rw [abandon_of_queued hs hl]
    have hbusy := h.busy hs
    have hwaiters := FillSlot.waiters_filter hl
    refine h.update hs (.inr (.inl hc)) (.inl rfl) rfl rfl ?_ ?_ ?_ ?_
    · rw [hwaiters]
      exact (h.once hs).filter _
    · exact fun hfree => absurd hfree hbusy
    · intro v
      rw [hwaiters]
      by_cases hv : v = c <;> simp [hv]
    · intro v
      constructor
      · intro hheld
        refine ⟨?_, hheld⟩
        rintro rfl
        have : (role v).Holds n := h.holds.mpr ⟨s, hs, hheld⟩
        rw [hc] at this
        exact this
      · exact And.right

variable [DecidableEq K]

/-- A key is not listed while it has no leader. -/
theorem slotOf?_eq_none (h : f.Fits role) (hnone : ∀ c n, role c ≠ .leads key n) : f.slotOf? key = none := by
  cases hslot : f.slotOf? key with
  | none => rfl
  | some n =>
    obtain ⟨c, hc⟩ := h.lists.mp (mem_of_slotOf? hslot)
    exact absurd hc (hnone c n)

/-- **A key that has a leader is listed** with the slot of the leader. -/
theorem slotOf?_of_leads (h : f.Fits role) (hc : role c = .leads key n) : f.slotOf? key = some n := by
  have hmem : (key, n) ∈ f.current := h.lists.mpr ⟨c, hc⟩
  cases hslot : f.slotOf? key with
  | none => exact absurd hmem (not_mem_of_slotOf? hslot)
  | some m =>
    have heq := List.inj_on_of_nodup_map h.distinct (mem_of_slotOf? hslot) hmem rfl
    exact congrArg _ (Prod.mk.inj heq).2

/-- **Whoever claims a key that is not listed leads**, in a new slot. -/
theorem claim (h : f.Fits role) (hkey : f.slotOf? key = none) (hc : role c = .none) :
    (f.claim key c).1.Fits (Function.update role c (.leads key f.next)) := by
  have hslot := slot?_claim hkey c
  have hfresh := h.slot?_next
  have hcurrent : (f.claim key c).1.current = f.current ++ [(key, f.next)] := by rw [claim_of_none hkey]
  constructor
  case fresh =>
    intro m x hx
    rw [hslot] at hx
    split at hx
    next hm =>
      rw [next_claim hkey c, hm]
      exact Nat.lt_succ_self _
    next =>
      rw [next_claim hkey c]
      exact Nat.lt_succ_of_lt (h.fresh hx)
  case busy =>
    intro m x hx
    rw [hslot] at hx
    split at hx
    next => cases hx; simp
    next => exact h.busy hx
  case once =>
    intro m x hx
    rw [hslot] at hx
    split at hx
    next => cases hx; simp [FillSlot.waiters]
    next => exact h.once hx
  case waits =>
    intro v m
    rw [update_iff (P := (· = .waits m)) (by simp [hc]), h.waits, hslot]
    by_cases hm : m = f.next
    · subst hm
      simp [hfresh, FillSlot.waiters]
    · rw [if_neg hm]
  case holds =>
    intro v m
    rw [hslot]
    by_cases hm : m = f.next
    · subst hm
      have hnobody : ¬ (role v).Holds f.next := fun hv => by
        obtain ⟨s, hs, _⟩ := h.holds.mp hv
        rw [hfresh] at hs
        cases hs
      rw [Function.update_apply]
      split
      next hvc => simp [hvc, FillRole.Holds]
      next hvc => simp [hnobody, Ne.symm hvc]
    · rw [if_neg hm, update_iff (P := (·.Holds m)) (by simp [hc, FillRole.Holds, Ne.symm hm]), h.holds]
  case keyed =>
    intro v k m x hv hx
    rw [hslot] at hx
    rw [Function.update_apply] at hv
    split at hv
    next =>
      obtain ⟨rfl, rfl⟩ : key = k ∧ f.next = m := by simpa using hv
      rw [if_pos rfl] at hx
      cases hx
      rfl
    next =>
      have hm : m ≠ f.next := fun hm => by
        obtain ⟨s, hs, _⟩ := h.lock_of_leads hv
        rw [hm, hfresh] at hs
        cases hs
      rw [if_neg hm] at hx
      exact h.keyed hv hx
  case lists =>
    intro k m
    rw [hcurrent]
    simp only [List.mem_append, List.mem_singleton, Prod.mk.injEq, h.lists]
    constructor
    · rintro (⟨v, hv⟩ | ⟨rfl, rfl⟩)
      · have hvc : v ≠ c := fun hvc => by rw [hvc, hc] at hv; cases hv
        exact ⟨v, by rw [Function.update_of_ne hvc]; exact hv⟩
      · exact ⟨c, Function.update_self ..⟩
    · rintro ⟨v, hv⟩
      rw [Function.update_apply] at hv
      split at hv
      · exact .inr (by simpa [eq_comm] using hv)
      · exact .inl ⟨v, hv⟩
  case distinct =>
    rw [hcurrent, List.map_append, List.map_singleton]
    refine List.nodup_append.mpr ⟨h.distinct, by simp, ?_⟩
    rintro a ha b hb rfl
    obtain ⟨e, he, rfl⟩ := List.mem_map.mp ha
    obtain rfl := List.mem_singleton.mp hb
    exact not_mem_of_slotOf? hkey he

/-- **A leader takes its slot off the table**, and nothing else. -/
theorem unlist (h : f.Fits role) (hc : role c = .leads key n) :
    (f.unlist n).Fits (Function.update role c (.leaves n)) := by
  obtain ⟨s, hs, hl, rfl⟩ := h.lock_of_leads hc
  constructor
  case fresh =>
    intro m x hx
    rw [slot?_unlist] at hx
    rw [next_unlist]
    exact h.fresh hx
  case busy =>
    intro m x hx
    exact h.busy (slot?_unlist f n m ▸ hx)
  case once =>
    intro m x hx
    exact h.once (slot?_unlist f n m ▸ hx)
  case waits =>
    intro v m
    rw [slot?_unlist, ← h.waits, Function.update_apply]
    split
    next hvc => simp [hvc, hc]
    next => rfl
  case holds =>
    intro v m
    rw [slot?_unlist, ← h.holds, Function.update_apply]
    split
    next hvc => simp [hvc, hc, FillRole.Holds]
    next => rfl
  case keyed =>
    intro v k m x hv hx
    rw [slot?_unlist] at hx
    rw [Function.update_apply] at hv
    split at hv
    · cases hv
    · exact h.keyed hv hx
  case lists =>
    intro k m
    rw [current_unlist hs, List.mem_filter, h.lists]
    simp only [decide_eq_true_eq]
    constructor
    · rintro ⟨⟨v, hv⟩, hne⟩
      have hvc : v ≠ c := fun hvc => by
        rw [hvc, hc] at hv
        exact hne (by simpa [eq_comm] using hv)
      exact ⟨v, by rw [Function.update_of_ne hvc]; exact hv⟩
    · rintro ⟨v, hv⟩
      rw [Function.update_apply] at hv
      split at hv
      · cases hv
      next hvc =>
        refine ⟨⟨v, hv⟩, ?_⟩
        rintro ⟨rfl, rfl⟩
        exact hvc (h.one_holder (by rw [hv]; rfl) (by rw [hc]; rfl))
  case distinct =>
    rw [current_unlist hs]
    exact h.distinct.sublist (List.filter_sublist.map _)

end Fits

end Fills

end HttpBench
