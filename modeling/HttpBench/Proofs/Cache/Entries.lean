import HttpBench.Cache.Store
import HttpBench.Proofs.Keyed

/-!
# The entries of a store

A store keeps its entries in no order that matters: they have distinct keys and were used last at
distinct times. So there is one way of ranking them, from the one used the longest ago to the one
used last (`Ranks`), and what a store finds or drops can be told from it: the entry of a key is the
same wherever it stands, and the oldest entry is the first of the ranking (`Ranks.oldest?_eq`).

Expired entries stay among the others. `Store.liveOf` reads off the live ones, without their uses.
-/

namespace HttpBench

/-- **What somebody who looks from outside can know of a stored value**: all but its last use. -/
structure Kept (V : Type) where
  value : V
  storedAt : Instant
  ttl : Duration
deriving DecidableEq, Repr

/-- The value is younger than its time to live. -/
def Kept.isLive {V : Type} (k : Kept V) (now : Instant) : Bool := (now.since k.storedAt).nanos < k.ttl.nanos

/-- A stored value without its last use. -/
def Stored.kept {V : Type} (s : Stored V) : Kept V := { value := s.value, storedAt := s.storedAt, ttl := s.ttl }

theorem Kept.isLive_iff {V : Type} {k : Kept V} {now : Instant} :
    k.isLive now = true ↔ now.nanos - k.storedAt.nanos < k.ttl.nanos := decide_eq_true_iff

/-- A stored value is live until it has expired. -/
theorem Stored.isLive_kept {V : Type} (s : Stored V) (now : Instant) :
    s.kept.isLive now = !s.isExpired now := by
  have hexpired : s.isExpired now = true ↔ s.ttl.nanos ≤ now.nanos - s.storedAt.nanos := decide_eq_true_iff
  rw [Bool.eq_iff_iff, Kept.isLive_iff, Bool.not_eq_true', ← Bool.not_eq_true, hexpired, Nat.not_le]
  rfl

/-- What is live was live before. -/
theorem Kept.isLive_of_later {V : Type} {k : Kept V} {now later : Instant} (h : now.nanos ≤ later.nanos)
    (hlive : k.isLive later = true) : k.isLive now = true := by
  rw [isLive_iff] at hlive ⊢
  omega

namespace Store

variable {K V : Type}

/-- **The live ones among some entries**, without their uses. -/
def liveOf (entries : List (K × Stored V)) (now : Instant) : List (K × Kept V) :=
  (entries.filter fun e => !e.2.isExpired now).map fun e => (e.1, e.2.kept)

/-- **The live entries of a store.** -/
def live (s : Store K V) (now : Instant) : List (K × Kept V) := liveOf s.entries now

section
variable {l l' : List (K × Stored V)} {now : Instant}

theorem mem_liveOf {x : K × Kept V} :
    x ∈ liveOf l now ↔ ∃ e ∈ l, e.2.isExpired now = false ∧ (e.1, e.2.kept) = x := by
  simp only [liveOf, List.mem_map, List.mem_filter, Bool.not_eq_true', and_assoc]

theorem liveOf_append (l l' : List (K × Stored V)) (now : Instant) :
    liveOf (l ++ l') now = liveOf l now ++ liveOf l' now := by
  rw [liveOf, List.filter_append, List.map_append]
  rfl

theorem liveOf_cons {e : K × Stored V} (h : e.2.isExpired now = false) :
    liveOf (e :: l) now = (e.1, e.2.kept) :: liveOf l now := by
  rw [liveOf, List.filter_cons_of_pos (by rw [h]; rfl), List.map_cons]
  rfl

theorem filter_live_eq_self (h : ∀ e ∈ l, e.2.isExpired now = false) : (l.filter fun e => !e.2.isExpired now) = l := by
  rw [List.filter_eq_self]
  intro e he
  rw [h e he]
  rfl

/-- Where nothing has expired, there are as many live entries as entries. -/
theorem length_liveOf_eq (h : ∀ e ∈ l, e.2.isExpired now = false) : (liveOf l now).length = l.length := by
  rw [liveOf, List.length_map, filter_live_eq_self h]

/-- Where nothing has expired, a purge drops nothing. -/
theorem purge_of_live {s : Store K V} (h : ∀ e ∈ s.entries, e.2.isExpired now = false) : (s.purge now).1 = s := by
  simp only [purge, filter_live_eq_self h, Nat.sub_self, Nat.add_zero]

theorem liveOf_perm (h : l.Perm l') (now : Instant) : (liveOf l now).Perm (liveOf l' now) :=
  (h.filter _).map _

theorem length_liveOf_le (l : List (K × Stored V)) (now : Instant) : (liveOf l now).length ≤ l.length := by
  rw [liveOf, List.length_map]
  exact List.length_filter_le ..

/-- One expired entry is one live entry less. -/
theorem length_liveOf_lt {e : K × Stored V} (he : e ∈ l) (hexpired : e.2.isExpired now = true) :
    (liveOf l now).length < l.length := by
  rw [liveOf, List.length_map]
  exact List.length_filter_lt_length_iff_exists.mpr ⟨e, he, by simp [hexpired]⟩

/-- Dropping what has expired leaves what is live. -/
theorem liveOf_filter_live (l : List (K × Stored V)) (now : Instant) :
    liveOf (l.filter fun e => !e.2.isExpired now) now = liveOf l now := by
  rw [liveOf, List.filter_filter]
  simp only [Bool.and_self]
  rfl

/-- What is live later is what is still live then of what is live now. -/
theorem filter_liveOf {later : Instant} (h : now.nanos ≤ later.nanos) :
    (liveOf l now).filter (fun e => e.2.isLive later) = liveOf l later := by
  rw [liveOf, liveOf, List.filter_map, List.filter_filter]
  apply congrArg
  apply List.filter_congr
  intro e _
  simp only [Function.comp, ← Stored.isLive_kept]
  cases hlive : e.2.kept.isLive later with
  | false => rw [Bool.false_and]
  | true => rw [Kept.isLive_of_later h hlive, Bool.and_self]

theorem keys_liveOf (hkeys : (l.map Prod.fst).Nodup) : ((liveOf l now).map Prod.fst).Nodup := by
  have heq : (liveOf l now).map Prod.fst = (l.filter fun e => !e.2.isExpired now).map Prod.fst := by
    rw [liveOf, List.map_map]
    rfl
  rw [heq]
  exact hkeys.sublist (List.filter_sublist.map _)

end

/-! ## The ranking by last use -/

section
variable {entries l : List (K × Stored V)} {next : Nat}

theorem oldest?_eq_none (h : oldest? entries = none) : entries = [] := by
  cases entries with
  | nil => rfl
  | cons e rest =>
    simp only [oldest?] at h
    cases hrest : oldest? rest with
    | none => simp [hrest] at h
    | some o =>
      simp only [hrest] at h
      split at h <;> cases h

/-- **The oldest entry** is one of them, and none was used before it. -/
theorem oldest?_spec {o : K × Stored V} (h : oldest? entries = some o) :
    o ∈ entries ∧ ∀ e ∈ entries, o.2.lastUse ≤ e.2.lastUse := by
  induction entries generalizing o with
  | nil => cases h
  | cons x rest ih =>
    simp only [oldest?] at h
    cases hrest : oldest? rest with
    | none =>
      obtain rfl : x = o := by simpa [hrest] using h
      obtain rfl := oldest?_eq_none hrest
      exact ⟨List.mem_singleton.mpr rfl, fun e he => Nat.le_of_eq (by rw [List.mem_singleton.mp he])⟩
    | some o' =>
      obtain ⟨hmem, hle⟩ := ih hrest
      simp only [hrest] at h
      split at h
      next hlt =>
        obtain rfl := Option.some.inj h
        refine ⟨List.mem_cons_of_mem _ hmem, ?_⟩
        intro e he
        rcases List.mem_cons.mp he with rfl | he
        · exact Nat.le_of_lt hlt
        · exact hle e he
      next hge =>
        obtain rfl := Option.some.inj h
        refine ⟨List.mem_cons_self, ?_⟩
        intro e he
        rcases List.mem_cons.mp he with rfl | he
        · exact Nat.le_refl _
        · exact Nat.le_trans (Nat.not_lt.mp hge) (hle e he)

/-- **A ranking of entries**: `l` has them from the one used the longest ago to the one used last,
none of them at a use that is still to come. -/
structure Ranks (entries : List (K × Stored V)) (next : Nat) (l : List (K × Stored V)) : Prop where
  perm : l.Perm entries
  order : l.Pairwise fun a b => a.2.lastUse < b.2.lastUse
  used : ∀ e ∈ l, e.2.lastUse < next
  keys : (l.map Prod.fst).Nodup

namespace Ranks

theorem nil (next : Nat) : Ranks ([] : List (K × Stored V)) next [] where
  perm := .refl _
  order := .nil
  used := fun _ he => by cases he
  keys := List.nodup_nil

/-- Entries laid out in another way are ranked the same. -/
theorem relist {entries' : List (K × Stored V)} (h : Ranks entries next l) (hperm : entries'.Perm entries) :
    Ranks entries' next l :=
  { h with perm := h.perm.trans hperm.symm }

theorem filter (h : Ranks entries next l) (p : K × Stored V → Bool) :
    Ranks (entries.filter p) next (l.filter p) where
  perm := h.perm.filter p
  order := h.order.sublist List.filter_sublist
  used := fun e he => h.used e (List.mem_of_mem_filter he)
  keys := h.keys.sublist (List.filter_sublist.map _)

/-- **The oldest entry is the first of the ranking**, wherever it stands among the entries. -/
theorem oldest?_eq {o : K × Stored V} (h : Ranks entries next (o :: l)) : oldest? entries = some o := by
  have ho : o ∈ entries := h.perm.mem_iff.mp List.mem_cons_self
  cases holdest : oldest? entries with
  | none => rw [oldest?_eq_none holdest] at ho; cases ho
  | some x =>
    obtain ⟨hx, hle⟩ := oldest?_spec holdest
    rcases List.mem_cons.mp (h.perm.mem_iff.mpr hx) with rfl | hx
    · rfl
    · have hlt := (List.pairwise_cons.mp h.order).1 x hx
      exact absurd (hle o ho) (Nat.not_le_of_lt hlt)

end Ranks

end

variable [DecidableEq K]

/-! ## Entries by their keys -/

section
variable {A : Type} {l l' : List (K × A)} {key : K} {e : K × A}

/-- What is live without a key is what is live, without the key. -/
theorem liveOf_without (l : List (K × Stored V)) (key : K) (now : Instant) :
    liveOf (without l key) now = (liveOf l now).filter fun e => e.1 ≠ key := by
  rw [liveOf, liveOf, without, List.filter_map, List.filter_filter, List.filter_filter]
  apply congrArg
  apply List.filter_congr
  intro e _
  exact Bool.and_comm ..

/-- A key taken out and put behind the others is there once. -/
theorem keys_filter_append (hkeys : (l.map Prod.fst).Nodup) (a : A) :
    (((l.filter fun x => x.1 ≠ key) ++ [(key, a)]).map Prod.fst).Nodup := by
  rw [List.map_append, List.nodup_append]
  refine ⟨hkeys.sublist (List.filter_sublist.map _), List.nodup_singleton _, ?_⟩
  intro k hk k' hk'
  obtain ⟨x, hx, rfl⟩ := List.mem_map.mp hk
  obtain rfl := List.mem_singleton.mp hk'
  simpa using (List.mem_filter.mp hx).2

end

namespace Ranks

variable {entries l : List (K × Stored V)} {next : Nat}

/-- **An entry that is used now** goes behind all others. -/
theorem use (h : Ranks entries next l) (key : K) {entry : Stored V} (hentry : entry.lastUse = next) :
    Ranks (without entries key ++ [(key, entry)]) (next + 1) (without l key ++ [(key, entry)]) where
  perm := (h.perm.filter _).append_right _
  order := by
    rw [List.pairwise_append]
    refine ⟨h.order.sublist List.filter_sublist, List.pairwise_singleton .., ?_⟩
    intro e he x hx
    obtain rfl := List.mem_singleton.mp hx
    exact hentry ▸ h.used e (List.mem_of_mem_filter he)
  used := by
    intro e he
    rcases List.mem_append.mp he with he | he
    · exact Nat.lt_succ_of_lt (h.used e (List.mem_of_mem_filter he))
    · obtain rfl := List.mem_singleton.mp he
      exact Nat.lt_succ_of_le (Nat.le_of_eq hentry)
  keys := keys_filter_append h.keys entry

/-- What is found for a key is the same in the entries and in their ranking. -/
theorem find?_eq (h : Ranks entries next l) (key : K) :
    entries.find? (fun e => e.1 = key) = l.find? (fun e => e.1 = key) := by
  have hkeys : (entries.map Prod.fst).Nodup := (h.perm.map _).nodup_iff.mp h.keys
  ext e
  rw [Keyed.find?_eq_some_iff hkeys, Keyed.find?_eq_some_iff h.keys, h.perm.mem_iff]

end Ranks

/-! ## Looking a key up -/

variable {s : Store K V} {key : K} {e : Stored V} {now : Instant}

theorem get_of_none (h : s.find? key = none) (now : Instant) :
    s.get key now = ({ s with misses := s.misses + 1 }, none) := by
  rw [get, h]

/-- What has expired is as good as nothing, and goes. -/
theorem get_of_expired (h : s.find? key = some e) (hexpired : e.isExpired now = true) :
    s.get key now =
      ({ s with
          entries := without s.entries key
          misses := s.misses + 1
          expirations := s.expirations + 1 }, none) := by
  rw [get, h]
  exact if_pos hexpired

/-- **What is live is found**, and is the latest from then on. -/
theorem get_of_live (hkeys : (s.entries.map Prod.fst).Nodup) (h : s.find? key = some e)
    (hlive : e.isExpired now = false) :
    ∃ entries, entries.Perm (without s.entries key ++ [(key, { e with lastUse := s.nextUse })]) ∧
      s.get key now = ({ s with entries, nextUse := s.nextUse + 1, hits := s.hits + 1 }, some e.value) := by
  obtain ⟨x, hx, rfl⟩ := Option.map_eq_some_iff.mp h
  obtain ⟨hmem, rfl⟩ := (Keyed.find?_eq_some_iff hkeys).mp hx
  refine ⟨_, Keyed.map_key_perm (fun y => (y.1, { y.2 with lastUse := s.nextUse })) hkeys hmem, ?_⟩
  rw [get, h]
  exact if_neg (by rw [hlive]; decide)

/-! ## Making room -/

/-- **Where something has expired**, making room is a purge. -/
theorem makeRoom_of_expired {e : K × Stored V} (he : e ∈ s.entries)
    (hexpired : e.2.isExpired now = true) : s.makeRoom now = (s.purge now).1 := by
  have hlt : (s.entries.filter fun e => !e.2.isExpired now).length < s.entries.length :=
    List.length_filter_lt_length_iff_exists.mpr ⟨e, he, by simp [hexpired]⟩
  exact if_pos (Nat.sub_pos_of_lt hlt)

/-- **Where nothing has expired**, the oldest entry goes. -/
theorem makeRoom_of_live {o : K × Stored V} (hlive : ∀ e ∈ s.entries, e.2.isExpired now = false)
    (ho : oldest? s.entries = some o) :
    s.makeRoom now = { s with entries := without s.entries o.1, evictions := s.evictions + 1 } := by
  simp only [makeRoom, purge, filter_live_eq_self hlive, Nat.sub_self, Nat.lt_irrefl, if_false, ho]

/-- Where there is nothing, nothing goes. -/
theorem makeRoom_of_nil (h : s.entries = []) : s.makeRoom now = s := by
  simp [makeRoom, purge, h, oldest?]

/-- **Room is made** by a purge where something has expired, and else by dropping the oldest entry, if
there is one. -/
theorem makeRoom_cases (s : Store K V) (now : Instant) :
    (∃ e ∈ s.entries, e.2.isExpired now = true ∧ s.makeRoom now = (s.purge now).1) ∨
      (∀ e ∈ s.entries, e.2.isExpired now = false) ∧
        ((∃ o, oldest? s.entries = some o ∧
            s.makeRoom now = { s with entries := without s.entries o.1, evictions := s.evictions + 1 }) ∨
          s.entries = [] ∧ s.makeRoom now = s) := by
  by_cases hexpired : ∃ e ∈ s.entries, e.2.isExpired now = true
  · obtain ⟨e, he, hexpired⟩ := hexpired
    exact .inl ⟨e, he, hexpired, makeRoom_of_expired he hexpired⟩
  · have hlive : ∀ e ∈ s.entries, e.2.isExpired now = false := by simpa using hexpired
    refine .inr ⟨hlive, ?_⟩
    cases ho : oldest? s.entries with
    | some o => exact .inl ⟨o, rfl, makeRoom_of_live hlive ho⟩
    | none => exact .inr ⟨oldest?_eq_none ho, makeRoom_of_nil (oldest?_eq_none ho)⟩

/-- A new key finds the store full, of whatever. -/
def lacksRoom (s : Store K V) (key : K) : Bool :=
  match s.capacity with
  | some capacity => (s.find? key).isNone && capacity ≤ s.size
  | none => false

theorem lacksRoom_eq_true {key : K} :
    s.lacksRoom key = true ↔ ∃ n, s.capacity = some n ∧ s.find? key = none ∧ n ≤ s.size := by
  cases hcap : s.capacity <;> simp [lacksRoom, hcap]

/-- Otherwise the key is there, or there is room to spare. -/
theorem spare_of_lacksRoom {key : K} (h : s.lacksRoom key = false) :
    (∃ e ∈ s.entries, e.1 = key) ∨ ∀ n, s.capacity = some n → s.size < n := by
  cases hfind : s.entries.find? fun e => e.1 = key with
  | some e => exact .inl ⟨e, List.mem_of_find?_eq_some hfind, by simpa using List.find?_some hfind⟩
  | none =>
    right
    intro n hn
    apply Nat.lt_of_not_le
    intro hle
    have hnone : s.find? key = none := congrArg _ hfind
    rw [lacksRoom_eq_true.mpr ⟨n, hn, hnone, hle⟩] at h
    cases h

/-- **Room for a key.** -/
def room (s : Store K V) (key : K) (now : Instant) : Store K V :=
  if s.lacksRoom key then s.makeRoom now else s

/-- Room is made without a look at the number of the next use. -/
theorem room_of_nextUse (s : Store K V) (n : Nat) (key : K) (now : Instant) :
    { s with nextUse := n }.room key now = { s.room key now with nextUse := n } := by
  have hmake : { s with nextUse := n }.makeRoom now = { s.makeRoom now with nextUse := n } := by
    by_cases hexpired : ∃ e ∈ s.entries, e.2.isExpired now = true
    · obtain ⟨e, he, hexpired⟩ := hexpired
      rw [makeRoom_of_expired he hexpired]
      exact makeRoom_of_expired he hexpired
    · have hlive : ∀ e ∈ s.entries, e.2.isExpired now = false := by simpa using hexpired
      cases ho : oldest? s.entries with
      | some o =>
        rw [makeRoom_of_live hlive ho]
        exact makeRoom_of_live hlive ho
      | none =>
        rw [makeRoom_of_nil (oldest?_eq_none ho)]
        exact makeRoom_of_nil (oldest?_eq_none ho)
  have hlacks : { s with nextUse := n }.lacksRoom key = s.lacksRoom key := rfl
  rw [room, room, hlacks]
  split
  · exact hmake
  · rfl

/-- **A value is put** behind all others once there is room for it. -/
theorem put_eq (s : Store K V) (key : K) (value : V) (ttl : Duration) (now : Instant) :
    s.put key value ttl now =
      { s.room key now with
        entries := without (s.room key now).entries key ++
          [(key, { value, storedAt := now, ttl, lastUse := s.nextUse })]
        nextUse := s.nextUse + 1
        insertions := (s.room key now).insertions + 1 } := by
  have hput : s.put key value ttl now =
      { { s with nextUse := s.nextUse + 1 }.room key now with
        entries := without ({ s with nextUse := s.nextUse + 1 }.room key now).entries key ++
          [(key, { value, storedAt := now, ttl, lastUse := s.nextUse })]
        insertions := ({ s with nextUse := s.nextUse + 1 }.room key now).insertions + 1 } := rfl
  rw [hput, room_of_nextUse]

/-! ## What was put is what is there -/

section contents

variable {x : K × Stored V} {value : V}

/-- A look-up leaves what was there, but for the uses. -/
theorem kept_of_get (h : x ∈ (s.get key now).1.entries) : ∃ y ∈ s.entries, y.1 = x.1 ∧ y.2.kept = x.2.kept := by
  cases hfind : s.find? key with
  | none =>
    rw [get_of_none hfind] at h
    exact ⟨x, h, rfl, rfl⟩
  | some e =>
    by_cases hexpired : e.isExpired now = true
    · rw [get_of_expired hfind hexpired] at h
      exact ⟨x, (List.mem_filter.mp h).1, rfl, rfl⟩
    · simp only [get, hfind, if_neg hexpired] at h
      obtain ⟨y, hy, rfl⟩ := List.mem_map.mp h
      refine ⟨y, hy, ?_⟩
      split_ifs <;> exact ⟨rfl, rfl⟩

/-- A look-up finds what is there, and has not expired. -/
theorem live_of_get (h : (s.get key now).2 = some value) :
    ∃ y ∈ s.entries, y.1 = key ∧ y.2.kept.value = value ∧ y.2.kept.isLive now = true := by
  cases hfind : s.find? key with
  | none =>
    rw [get_of_none hfind] at h
    cases h
  | some e =>
    by_cases hexpired : e.isExpired now = true
    · rw [get_of_expired hfind hexpired] at h
      cases h
    · simp only [get, hfind, if_neg hexpired] at h
      obtain rfl := Option.some.inj h
      obtain ⟨y, hy, rfl⟩ := Option.map_eq_some_iff.mp hfind
      refine ⟨y, List.mem_of_find?_eq_some hy, by simpa using List.find?_some hy, rfl, ?_⟩
      rw [Stored.isLive_kept, Bool.not_eq_true', ← Bool.not_eq_true]
      exact hexpired

omit [DecidableEq K] in
/-- A purge leaves nothing that was not there. -/
theorem mem_of_purge (h : x ∈ (s.purge now).1.entries) : x ∈ s.entries := (List.mem_filter.mp h).1

/-- Room is made by dropping entries. -/
theorem mem_of_room (h : x ∈ (s.room key now).entries) : x ∈ s.entries := by
  unfold room makeRoom at h
  dsimp only at h
  split_ifs at h
  · exact mem_of_purge h
  · split at h
    · exact (List.mem_filter.mp h).1
    · exact h
  · exact h

/-- **What is there after a value was put** is that value, as new as can be, or was there before. -/
theorem kept_of_put {ttl : Duration} (h : x ∈ (s.put key value ttl now).entries) :
    x ∈ s.entries ∨ x.1 = key ∧ x.2.kept = { value, storedAt := now, ttl } := by
  rw [put_eq] at h
  rcases List.mem_append.mp h with hold | hnew
  · exact .inl (mem_of_room (List.mem_filter.mp hold).1)
  · obtain rfl := List.mem_singleton.mp hnew
    exact .inr ⟨rfl, rfl⟩

/-! ## What is there stays, or goes for a reason -/

/-- **A key that was there** is there still, unless its entry had expired or something was evicted. -/
def Keeps (s s' : Store K V) (key : K) (now : Instant) : Prop :=
  (∃ x ∈ s'.entries, x.1 = key) ∨ (∃ x ∈ s.entries, x.1 = key ∧ x.2.kept.isLive now = false) ∨
    s.evictions < s'.evictions

omit [DecidableEq K] in
theorem keeps_purge (hx : x ∈ s.entries) (now : Instant) : s.Keeps (s.purge now).1 x.1 now := by
  cases hlive : x.2.kept.isLive now with
  | true => exact .inl ⟨x, List.mem_filter.mpr ⟨hx, by rw [← Stored.isLive_kept, hlive]⟩, rfl⟩
  | false => exact .inr (.inl ⟨x, hx, rfl, hlive⟩)

theorem keeps_get (hx : x ∈ s.entries) (key : K) (now : Instant) : s.Keeps (s.get key now).1 x.1 now := by
  cases hfind : s.find? key with
  | none =>
    rw [get_of_none hfind]
    exact .inl ⟨x, hx, rfl⟩
  | some e =>
    by_cases hexpired : e.isExpired now = true
    · rw [get_of_expired hfind hexpired]
      obtain ⟨y, hy, rfl⟩ := Option.map_eq_some_iff.mp hfind
      obtain rfl : y.1 = key := by simpa using List.find?_some hy
      by_cases hkey : x.1 = y.1
      · refine .inr (.inl ⟨y, List.mem_of_find?_eq_some hy, hkey.symm, ?_⟩)
        rw [Stored.isLive_kept, hexpired]
        rfl
      · exact .inl ⟨x, List.mem_filter.mpr ⟨hx, by simpa using hkey⟩, rfl⟩
    · simp only [get, hfind, if_neg hexpired]
      refine .inl ⟨_, List.mem_map_of_mem hx, ?_⟩
      split_ifs <;> rfl

theorem keeps_room (hx : x ∈ s.entries) (key : K) (now : Instant) : s.Keeps (s.room key now) x.1 now := by
  unfold room
  split_ifs
  · rcases s.makeRoom_cases now with ⟨_, _, _, hmake⟩ | ⟨_, ⟨o, _, hmake⟩ | ⟨_, hmake⟩⟩
    · rw [hmake]
      exact keeps_purge hx now
    · rw [hmake]
      exact .inr (.inr (Nat.lt_succ_self _))
    · rw [hmake]
      exact .inl ⟨x, hx, rfl⟩
  · exact .inl ⟨x, hx, rfl⟩

theorem keeps_put (hx : x ∈ s.entries) (key : K) (value : V) (ttl : Duration) (now : Instant) :
    s.Keeps (s.put key value ttl now) x.1 now := by
  rw [put_eq]
  by_cases hkey : x.1 = key
  · exact .inl ⟨_, List.mem_append_right _ (List.mem_singleton_self _), hkey.symm⟩
  · refine (keeps_room hx key now).imp_left ?_
    rintro ⟨y, hy, hyx⟩
    exact ⟨y, List.mem_append_left _ (List.mem_filter.mpr ⟨hy, by rw [hyx]; simpa using hkey⟩), hyx⟩

/-- A key that is found is there still. -/
theorem mem_of_found (h : (s.get key now).2 = some value) : ∃ x ∈ (s.get key now).1.entries, x.1 = key := by
  cases hfind : s.find? key with
  | none =>
    rw [get_of_none hfind] at h
    cases h
  | some e =>
    by_cases hexpired : e.isExpired now = true
    · rw [get_of_expired hfind hexpired] at h
      cases h
    · obtain ⟨y, hy, rfl⟩ := Option.map_eq_some_iff.mp hfind
      obtain rfl : y.1 = key := by simpa using List.find?_some hy
      simp only [get, hfind, if_neg hexpired]
      exact ⟨_, List.mem_map_of_mem (List.mem_of_find?_eq_some hy), by simp⟩

theorem mem_put (s : Store K V) (key : K) (value : V) (ttl : Duration) (now : Instant) :
    ∃ x ∈ (s.put key value ttl now).entries, x.1 = key := by
  rw [put_eq]
  exact ⟨_, List.mem_append_right _ (List.mem_singleton_self _), rfl⟩

/-- What is there and is not found has expired. -/
theorem expired_of_missed (hx : x ∈ s.entries) (h : (s.get x.1 now).2 = none) :
    ∃ y ∈ s.entries, y.1 = x.1 ∧ y.2.kept.isLive now = false := by
  cases hfind : s.find? x.1 with
  | none =>
    have hnot := List.find?_eq_none.mp (Option.map_eq_none_iff.mp hfind) x hx
    simp at hnot
  | some e =>
    obtain ⟨y, hy, rfl⟩ := Option.map_eq_some_iff.mp hfind
    refine ⟨y, List.mem_of_find?_eq_some hy, by simpa using List.find?_some hy, ?_⟩
    rw [Stored.isLive_kept, Bool.not_eq_false']
    by_contra hlive
    simp only [get, hfind, if_neg hlive] at h
    cases h

end contents

end Store

end HttpBench
