import HttpBench.Proofs.Client.Reuse
import Mathlib.Data.List.Perm.Subperm
import Mathlib.Logic.Function.Basic

/-!
# Where the connections are

Every open connection has exactly one place: it is idle in the pool, or one request has it. A request
gets a connection by opening it or by taking it out of the pool, and gives it up by closing it or by
leaving it to the pool; whatever ends a request does one of the two. `Placement` says this of a pool,
the connections there are and who has which, and each of these moves keeps it.

So a connection that is idle was opened for the key it is filed under, and it has been in the pool
ever since its last request, which was to be kept alive, had got its whole response.
-/

namespace HttpBench

namespace Pool

variable {isClosed : Nat → Bool} {key : PoolKey} {idle : List (PoolKey × Nat)}

/-- What is no longer in a pool after somebody has asked for a connection is the one that was found,
and others that are closed. -/
theorem takeFrom_perm (isClosed : Nat → Bool) (key : PoolKey) (idle : List (PoolKey × Nat)) :
    ∃ dropped : List (PoolKey × Nat), (∀ e ∈ dropped, isClosed e.2 = true) ∧
      idle.Perm ((takeFrom isClosed key idle).1.toList.map (key, ·) ++
        (dropped ++ (takeFrom isClosed key idle).2)) := by
  induction idle with
  | nil => exact ⟨[], by simp, .refl _⟩
  | cons entry rest ih =>
    obtain ⟨dropped, hclosed, hperm⟩ := ih
    unfold takeFrom
    split_ifs with hkey hentry
    · refine ⟨entry :: dropped, List.forall_mem_cons.mpr ⟨hentry, hclosed⟩, ?_⟩
      exact (hperm.cons entry).trans List.perm_middle.symm
    · exact ⟨[], by simp, by rw [← hkey]; exact .refl _⟩
    · refine ⟨dropped, hclosed, ?_⟩
      rw [← List.append_assoc] at hperm ⊢
      exact (hperm.cons entry).trans List.perm_middle.symm

end Pool

/-- The connection that a request has, with the key of the requests it is for. -/
def RequestCall.held? (call : RequestCall) : Option (PoolKey × Nat) :=
  call.stage.link?.map (call.target.url.poolKey, ·)

/-- The connection that the request of a caller has. -/
def Client.held (s : Client) (c : Nat) : Option (PoolKey × Nat) := (s.call? c).bind (·.held?)

/-- **Every connection is in its place**: those in the pool and those that requests have are different
ones, all were opened for the key they go by, and what is in neither place is closed. -/
structure Placement (room : Nat) (pool : Pool) (links : List Link) (held : Nat → Option (PoolKey × Nat)) : Prop where
  capacity : pool.room = room
  within : ∀ key, pool.count key ≤ pool.room
  distinct : pool.idle.Nodup
  idle_key : ∀ e ∈ pool.idle, links[e.2]?.map (·.key) = some e.1
  held_key : ∀ c e, held c = some e → links[e.2]?.map (·.key) = some e.1
  once : ∀ c c' e, held c = some e → held c' = some e → c = c'
  apart : ∀ c e, held c = some e → e ∉ pool.idle
  live : ∀ i l, links[i]? = some l → l.closed = false → (l.key, i) ∈ pool.idle ∨ ∃ c, held c = some (l.key, i)

namespace Placement

variable {room : Nat} {pool : Pool} {links : List Link} {held : Nat → Option (PoolKey × Nat)} {c : Nat}
  {e : PoolKey × Nat} {idle dropped : List (PoolKey × Nat)}

/-- Who has a connection after one request has got or given up its own. -/
theorem held_update {x : Option (PoolKey × Nat)} {c' : Nat} (h : Function.update held c x c' = some e) :
    (c' = c ∧ x = some e) ∨ (c' ≠ c ∧ held c' = some e) := by
  rw [Function.update_apply] at h
  split_ifs at h with hc
  · exact .inl ⟨hc, h⟩
  · exact .inr ⟨hc, h⟩

/-- Who has given up its connection has none. -/
theorem held_update_none {c' : Nat} (h : Function.update held c none c' = some e) : c' ≠ c ∧ held c' = some e := by
  rcases held_update h with ⟨_, hnone⟩ | h
  · cases hnone
  · exact h

/-- Who has a connection still has it when a request without one gets one. -/
theorem held_of_free {x : Option (PoolKey × Nat)} {c' : Nat} (hfree : held c = none) (h : held c' = some e) :
    Function.update held c x c' = some e := by
  rw [Function.update_of_ne, h]
  rintro rfl
  rw [hfree] at h
  cases h

theorem count_le_of_subperm (h : Placement room pool links held) (hsub : idle.Subperm pool.idle) (key : PoolKey) :
    idle.countP (·.1 == key) ≤ pool.room :=
  Nat.le_trans (hsub.countP_le _) (h.within key)

/-- A connection may be dropped from the pool if it is closed. -/
theorem drop (h : Placement room pool links held) (hperm : pool.idle.Perm (dropped ++ idle))
    (hclosed : ∀ e ∈ dropped, ∀ l, links[e.2]? = some l → l.closed = true) :
    Placement room { pool with idle } links held := by
  have hsub : idle.Subperm pool.idle := (List.sublist_append_right dropped idle).subperm.trans hperm.symm.subperm
  refine { h with
    within := h.count_le_of_subperm hsub
    distinct := ?_
    idle_key := fun e he => h.idle_key e (hsub.subset he)
    apart := fun c e he hidle => h.apart c e he (hsub.subset hidle)
    live := fun i l hl hopen => ?_ }
  · exact (List.nodup_append'.mp (hperm.nodup_iff.mp h.distinct)).2.1
  · refine (h.live i l hl hopen).imp_left fun hmem => ?_
    rcases List.mem_append.mp (hperm.mem_iff.mp hmem) with hdropped | hidle
    · rw [hclosed _ hdropped l hl] at hopen
      cases hopen
    · exact hidle

/-- A request takes a connection out of the pool. -/
theorem take (h : Placement room pool links held) (hperm : pool.idle.Perm (e :: idle)) (hfree : held c = none) :
    Placement room { pool with idle } links (Function.update held c (some e)) := by
  have hsub : idle.Subperm pool.idle := (List.sublist_cons_self e idle).subperm.trans hperm.symm.subperm
  have he : e ∈ pool.idle := hperm.mem_iff.mpr List.mem_cons_self
  have hnodup : e ∉ idle ∧ idle.Nodup := List.nodup_cons.mp (hperm.nodup_iff.mp h.distinct)
  refine
    { capacity := h.capacity
      within := h.count_le_of_subperm hsub
      distinct := hnodup.2
      idle_key := fun e' he' => h.idle_key e' (hsub.subset he')
      held_key := ?_, once := ?_, apart := ?_, live := ?_ }
  · intro c' e' hheld
    rcases held_update hheld with ⟨_, heq⟩ | ⟨_, hheld⟩
    · exact Option.some.inj heq ▸ h.idle_key e he
    · exact h.held_key c' e' hheld
  · intro c₁ c₂ e' h₁ h₂
    rcases held_update h₁ with ⟨hc₁, heq₁⟩ | ⟨_, h₁'⟩ <;> rcases held_update h₂ with ⟨hc₂, heq₂⟩ | ⟨_, h₂'⟩
    · rw [hc₁, hc₂]
    · exact absurd (Option.some.inj heq₁ ▸ he) (h.apart c₂ e' h₂')
    · exact absurd (Option.some.inj heq₂ ▸ he) (h.apart c₁ e' h₁')
    · exact h.once c₁ c₂ e' h₁' h₂'
  · intro c' e' hheld hidle
    rcases held_update hheld with ⟨_, heq⟩ | ⟨_, hheld⟩
    · exact hnodup.1 (Option.some.inj heq ▸ hidle)
    · exact h.apart c' e' hheld (hsub.subset hidle)
  · intro i l hl hopen
    rcases h.live i l hl hopen with hidle | ⟨c', hc'⟩
    · rcases List.mem_cons.mp (hperm.mem_iff.mp hidle) with heq | hidle
      · exact .inr ⟨c, by rw [Function.update_self, heq]⟩
      · exact .inl hidle
    · exact .inr ⟨c', held_of_free hfree hc'⟩

/-- A request leaves its connection to the pool. -/
theorem give (h : Placement room pool links held) (hheld : held c = some e) (hroom : pool.count e.1 < pool.room) :
    Placement room { pool with idle := e :: pool.idle } links (Function.update held c none) := by
  refine
    { capacity := h.capacity
      within := fun key => ?_
      distinct := List.nodup_cons.mpr ⟨h.apart c e hheld, h.distinct⟩
      idle_key := List.forall_mem_cons.mpr ⟨h.held_key c e hheld, h.idle_key⟩
      held_key := fun c' e' h' => h.held_key c' e' (held_update_none h').2
      once := fun c₁ c₂ e' h₁ h₂ => h.once c₁ c₂ e' (held_update_none h₁).2 (held_update_none h₂).2
      apart := ?_, live := ?_ }
  · show (e :: pool.idle).countP (·.1 == key) ≤ pool.room
    rw [List.countP_cons]
    split
    next hkey =>
      obtain rfl : e.1 = key := eq_of_beq hkey
      exact hroom
    next => exact h.within key
  · intro c' e' h' hidle
    obtain ⟨hne, h'⟩ := held_update_none h'
    rcases List.mem_cons.mp hidle with rfl | hidle
    · exact hne (h.once c' c e' h' hheld)
    · exact h.apart c' e' h' hidle
  · intro i l hl hopen
    rcases h.live i l hl hopen with hidle | ⟨c', hc'⟩
    · exact .inl (List.mem_cons_of_mem e hidle)
    · by_cases hc : c' = c
      · subst hc
        obtain rfl := Option.some.inj (hheld.symm.trans hc')
        exact .inl List.mem_cons_self
      · exact .inr ⟨c', by rw [Function.update_of_ne hc, hc']⟩

/-- A connection closes, wherever it is. -/
theorem close (h : Placement room pool links held) (i : Nat) :
    Placement room pool (links.modify i fun l => { l with closed := true }) held := by
  have hkey : ∀ j : Nat, ((links.modify i fun l => { l with closed := true })[j]?).map (·.key) =
      links[j]?.map (·.key) := by
    intro j
    rw [List.getElem?_modify]
    cases links[j]? with
    | none => rfl
    | some l => by_cases hij : i = j <;> simp [hij]
  refine { h with
    idle_key := fun e he => (hkey _).trans (h.idle_key e he)
    held_key := fun c e he => (hkey _).trans (h.held_key c e he)
    live := fun j l hl hopen => ?_ }
  rw [List.getElem?_modify, Option.map_eq_map, Option.map_eq_some_iff] at hl
  obtain ⟨l₀, hl₀, rfl⟩ := hl
  by_cases hij : i = j
  · simp [hij] at hopen
  · rw [if_neg hij] at hopen ⊢
    exact h.live j l₀ hl₀ hopen

/-- A request gives its connection up, which closes. -/
theorem letGo (h : Placement room pool links held) (hheld : held c = some e) :
    Placement room pool (links.modify e.2 fun l => { l with closed := true }) (Function.update held c none) := by
  have hclose := h.close e.2
  refine { hclose with
    held_key := fun c' e' h' => hclose.held_key c' e' (held_update_none h').2
    once := fun c₁ c₂ e' h₁ h₂ => h.once c₁ c₂ e' (held_update_none h₁).2 (held_update_none h₂).2
    apart := fun c' e' h' => h.apart c' e' (held_update_none h').2
    live := fun i l hl hopen => ?_ }
  refine (hclose.live i l hl hopen).imp_right fun ⟨c', hc'⟩ => ⟨c', ?_⟩
  rw [Function.update_of_ne, hc']
  -- had the caller this connection itself, it would be the closed one
  rintro rfl
  obtain rfl := Option.some.inj (hheld.symm.trans hc')
  rw [List.getElem?_modify_eq, Option.map_eq_map, Option.map_eq_some_iff] at hl
  obtain ⟨l₀, _, rfl⟩ := hl
  cases hopen

/-- A request opens a connection. -/
theorem opened (h : Placement room pool links held) (hfree : held c = none) (key : PoolKey) :
    Placement room pool (links ++ [{ key := key }]) (Function.update held c (some (key, links.length))) := by
  have hlt : ∀ {e : PoolKey × Nat}, links[e.2]?.map (·.key) = some e.1 → e.2 < links.length := by
    intro e he
    obtain ⟨l, hl, _⟩ := Option.map_eq_some_iff.mp he
    exact (List.getElem?_eq_some_iff.mp hl).1
  have hkept : ∀ {e : PoolKey × Nat}, links[e.2]?.map (·.key) = some e.1 →
      ((links ++ [{ key := key }])[e.2]?).map (·.key) = some e.1 := by
    intro e he
    rw [List.getElem?_append_left (hlt he)]
    exact he
  -- nobody has had the new number before
  have hnew : ∀ c', held c' ≠ some (key, links.length) :=
    fun c' h' => absurd (hlt (h.held_key c' _ h')) (Nat.lt_irrefl _)
  refine { h with
    idle_key := fun e he => hkept (h.idle_key e he), held_key := ?_, once := ?_, apart := ?_, live := ?_ }
  · intro c' e' h'
    rcases held_update h' with ⟨_, heq⟩ | ⟨_, h'⟩
    · obtain rfl := Option.some.inj heq
      rw [List.getElem?_concat_length]
      rfl
    · exact hkept (h.held_key c' e' h')
  · intro c₁ c₂ e' h₁ h₂
    rcases held_update h₁ with ⟨hc₁, heq₁⟩ | ⟨_, h₁'⟩ <;> rcases held_update h₂ with ⟨hc₂, heq₂⟩ | ⟨_, h₂'⟩
    · rw [hc₁, hc₂]
    · exact absurd (h₂'.trans heq₁.symm) (hnew c₂)
    · exact absurd (h₁'.trans heq₂.symm) (hnew c₁)
    · exact h.once c₁ c₂ e' h₁' h₂'
  · intro c' e' h' hidle
    rcases held_update h' with ⟨_, heq⟩ | ⟨_, h'⟩
    · obtain rfl := Option.some.inj heq
      exact absurd (hlt (h.idle_key _ hidle)) (Nat.lt_irrefl _)
    · exact h.apart c' e' h' hidle
  · intro i l hl hopen
    have hi : i < (links ++ [({ key := key } : Link)]).length := (List.getElem?_eq_some_iff.mp hl).1
    rw [List.length_append, List.length_singleton] at hi
    rcases Nat.lt_succ_iff_lt_or_eq.mp hi with hi | rfl
    · rw [List.getElem?_append_left hi] at hl
      exact (h.live i l hl hopen).imp_right fun ⟨c', hc'⟩ => ⟨c', held_of_free hfree hc'⟩
    · rw [List.getElem?_concat_length] at hl
      obtain rfl := Option.some.inj hl
      exact .inr ⟨c, Function.update_self ..⟩

end Placement

namespace Client

variable {room : Nat} {s s' : Client} {c : Nat} {call : RequestCall} {label : ClientLabel} {x : Option (PoolKey × Nat)}

/-! ## What the callers have -/

theorem held_of_call (hcall : s.call? c = some call) : s.held c = call.held? := by
  rw [held, hcall]
  rfl

theorem held_setCall (s : Client) (c : Nat) (call : RequestCall) :
    (s.setCall c call).held = Function.update s.held c call.held? := by
  funext c'
  rw [Function.update_apply, held, call?_setCall]
  split_ifs <;> rfl

theorem held_dropCall (s : Client) (c : Nat) : (s.dropCall c).held = Function.update s.held c none := by
  funext c'
  rw [Function.update_apply, held, call?_dropCall]
  split_ifs <;> rfl

/-- A client whose connections are in their places, where one caller has a connection or none. -/
def PlacedBut (room : Nat) (s : Client) (c : Nat) (x : Option (PoolKey × Nat)) : Prop :=
  Placement room s.pool s.links (Function.update s.held c x)

/-- A client whose connections are in their places. -/
def Placed (room : Nat) (s : Client) : Prop := Placement room s.pool s.links s.held

theorem Placed.but (h : s.Placed room) (hcall : s.call? c = some call) : s.PlacedBut room c call.held? := by
  unfold PlacedBut
  rw [← held_of_call hcall, Function.update_eq_self]
  exact h

theorem Placed.free (h : s.Placed room) (hcall : s.call? c = none) : s.PlacedBut room c none := by
  have hheld : s.held c = none := by rw [held, hcall]; rfl
  unfold PlacedBut
  rw [← hheld, Function.update_eq_self]
  exact h

namespace PlacedBut

theorem setCall (h : s.PlacedBut room c call.held?) : (s.setCall c call).Placed room := by
  unfold Placed
  rw [held_setCall]
  exact h

theorem dropCall (h : s.PlacedBut room c none) : (s.dropCall c).Placed room := by
  unfold Placed
  rw [held_dropCall]
  exact h

/-- A request gives up what it has. -/
theorem closeHeld (h : s.PlacedBut room c call.held?) : (s.closeHeld call.stage).PlacedBut room c none := by
  unfold PlacedBut Client.closeHeld at *
  cases hlink : call.stage.link? with
  | none =>
    rw [RequestCall.held?, hlink] at h
    exact h
  | some link =>
    rw [RequestCall.held?, hlink] at h
    have hgone := h.letGo (Function.update_self ..)
    rw [Function.update_idem] at hgone
    exact hgone

theorem closeLink {key : PoolKey} {link : Nat} (h : s.PlacedBut room c (some (key, link))) :
    (s.closeLink link).PlacedBut room c none := by
  have hgone := Placement.letGo h (Function.update_self ..)
  rw [Function.update_idem] at hgone
  exact hgone

theorem finish {result : Except Failure Response} (h : s.PlacedBut room c call.held?) :
    (s.finish c call result).Placed room :=
  setCall h.closeHeld

theorem connect (h : s.PlacedBut room c none) : (s.connect c call).Placed room := by
  unfold Client.connect
  dsimp only
  split_ifs
  · exact setCall h
  · exact setCall h

theorem submit {link : Nat} {pooled : Bool} (h : s.PlacedBut room c (some (call.target.url.poolKey, link))) :
    (s.submit c call link pooled).Placed room := by
  unfold Client.submit
  dsimp only
  split_ifs
  · exact setCall h
  · exact finish h

theorem opened (h : s.PlacedBut room c none) : (s.opened c call).Placed room := by
  refine submit ?_
  have hopened := Placement.opened h (Function.update_self ..) call.target.url.poolKey
  rw [Function.update_idem] at hopened
  exact hopened

theorem checkOut (h : s.PlacedBut room c none) : (s.checkOut c call).Placed room := by
  obtain ⟨dropped, hclosed, hperm⟩ := Pool.takeFrom_perm s.isClosed call.target.url.poolKey s.pool.idle
  have hdropped : ∀ e ∈ dropped, ∀ l, s.links[e.2]? = some l → l.closed = true := by
    intro e he l hl
    have he := hclosed e he
    rw [isClosed, hl] at he
    exact he
  unfold Client.checkOut Pool.take
  generalize Pool.takeFrom s.isClosed call.target.url.poolKey s.pool.idle = taken at hperm
  obtain ⟨found, idle⟩ := taken
  cases found with
  | some link =>
    have htaken : s.pool.idle.Perm ((call.target.url.poolKey, link) :: (dropped ++ idle)) := hperm
    have hbut := Placement.take h htaken (Function.update_self ..)
    rw [Function.update_idem] at hbut
    have hrest := hbut.drop (.refl _) hdropped
    exact setCall hrest
  | none =>
    have hleft : s.pool.idle.Perm (dropped ++ idle) := hperm
    have hrest := Placement.drop h hleft hdropped
    exact connect hrest

theorem complete {link : Nat} {head : ResponseHead} {body : List UInt8}
    (h : s.PlacedBut room c (some (call.target.url.poolKey, link))) : (s.complete c call link head body).Placed room := by
  unfold Client.complete
  refine setCall ?_
  unfold keep Pool.give
  split_ifs with hkeep hroom
  · have hgiven := Placement.give h (Function.update_self ..) hroom
    rw [Function.update_idem] at hgiven
    exact hgiven
  · exact closeLink h
  · exact closeLink h

end PlacedBut

theorem Placed.step (h : s.Placed room) (hstep : s.step label = some s') : s'.Placed room := by
  cases happens_of_step hstep with
  | begin hcall => exact (h.free hcall).checkOut
  | reuse hcall hstage =>
    have hbut := h.but hcall
    rw [RequestCall.held?, hstage] at hbut
    exact hbut.submit
  | reject hcall hstage =>
    have hbut := h.but hcall
    rw [RequestCall.held?, hstage] at hbut
    exact hbut.closeLink.checkOut
  | resolve hcall hstage | secure hcall hstage | answer hcall hstage =>
    have hbut := h.but hcall
    rw [RequestCall.held?, hstage] at hbut
    exact PlacedBut.setCall hbut
  | connect hcall hstage | shake hcall hstage =>
    have hbut := h.but hcall
    rw [RequestCall.held?, hstage] at hbut
    exact PlacedBut.opened hbut
  | retry hcall hstage =>
    have hbut := h.but hcall
    rw [RequestCall.held?, hstage] at hbut
    exact hbut.closeLink.connect
  | complete hcall hstage =>
    have hbut := h.but hcall
    rw [RequestCall.held?, hstage] at hbut
    exact hbut.complete
  | fail hcall => exact (h.but hcall).finish
  | leave hcall => exact (h.but hcall).closeHeld.dropCall
  | close => exact Placement.close h _
  | pass => exact h

theorem Placed.history {steps : List ClientTransition} (past : (ofRoom room).History steps s) :
    s.Placed room := by
  refine past.invariant (P := Placed room) ?_ fun _ _ _ h hstep => h.step hstep
  exact
    { capacity := rfl
      within := fun _ => Nat.zero_le _
      distinct := .nil
      idle_key := fun _ he => nomatch he
      held_key := fun _ _ he => nomatch he
      once := fun _ _ _ he => nomatch he
      apart := fun _ _ he => nomatch he
      live := fun _ _ hl => nomatch hl }

end Client

end HttpBench
