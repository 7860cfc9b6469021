import HttpBench.Proofs.Cache.Entries
import HttpBench.Proofs.Cache.Requests

/-!
# A store is a recency list of live entries

What a store does can be told without its expired entries, without the numbers of its uses and
without the order its entries happen to be in. The reference (`Recency`) has live entries only, from
the one put or hit the longest ago to the latest: it forgets what expires at once, so all it ever
drops for want of room is the first of its list.

The store and the reference stay together (`Tracks`): what the reference has are the live entries of
the store, in the order of their last use. An expired entry takes up room in the store, but where
there is one the store is not full of live ones: then it is dropped or replaced, the reference has
room to spare, and neither of them evicts (`Tracks.room`).
-/

namespace HttpBench

/-- **The reference**: entries from the one that was put or hit the longest ago to the latest. -/
structure Recency (K V : Type) where
  capacity : Option Nat
  entries : List (K × Kept V) := []
  evictions : Nat := 0

namespace Recency

variable {K V : Type}

/-- The empty reference; where it is bounded, it has room for one entry at least. -/
def empty (capacity : Option Nat) : Recency K V := { capacity := capacity.map fun n => max n 1 }

/-- What is live of it. -/
def live (r : Recency K V) (now : Instant) : List (K × Kept V) := r.entries.filter fun e => e.2.isLive now

/-- **Forget what has expired.** -/
def forget (r : Recency K V) (now : Instant) : Recency K V := { r with entries := r.live now }

/-- It holds as many entries as it may. -/
def isFull (r : Recency K V) : Bool :=
  match r.capacity with
  | some capacity => capacity ≤ r.entries.length
  | none => false

variable [DecidableEq K]

/-- The entry of a key. -/
def find? (r : Recency K V) (key : K) : Option (K × Kept V) := r.entries.find? fun e => e.1 = key

/-- The entries without that of a key. -/
def without (r : Recency K V) (key : K) : List (K × Kept V) := r.entries.filter fun e => e.1 ≠ key

/-- **Room for a key**: the entry put or hit the longest ago goes if the key is not there and the
reference is full. -/
def room (r : Recency K V) (key : K) : Recency K V :=
  if (r.find? key).isNone && r.isFull then { r with entries := r.entries.tail, evictions := r.evictions + 1 } else r

/-- **Put a value**, which makes it the latest. -/
def put (r : Recency K V) (key : K) (kept : Kept V) : Recency K V :=
  { r.room key with entries := (r.room key).without key ++ [(key, kept)] }

/-- **Get a value**, which makes it the latest. -/
def get (r : Recency K V) (key : K) : Recency K V × Option V :=
  match r.find? key with
  | some e => ({ r with entries := r.without key ++ [e] }, some e.2.value)
  | none => (r, none)

/-- **Serve a request**, of what is still live then. -/
def serve (r : Recency K V) (now : Instant) : StoreRequest K V → Recency K V × Option V
  | .put key value ttl => ((r.forget now).put key { value, storedAt := now, ttl }, none)
  | .get key => (r.forget now).get key
  | .remove key => ({ r.forget now with entries := (r.forget now).without key }, none)
  | .purge => (r.forget now, none)
  | .clear => ({ r with entries := [] }, none)

/-- **The reference after some uses.** -/
def after (capacity : Option Nat) (uses : List (StoreUse K V)) : Recency K V :=
  uses.foldl (fun r use => (r.serve use.now use.request).1) (empty capacity)

theorem after_snoc (capacity : Option Nat) (uses : List (StoreUse K V)) (use : StoreUse K V) :
    after capacity (uses ++ [use]) = ((after capacity uses).serve use.now use.request).1 := by
  rw [after, List.foldl_append]
  rfl

theorem isFull_eq_false {K V : Type} {r : Recency K V} :
    r.isFull = false ↔ ∀ n, r.capacity = some n → r.entries.length < n := by
  cases hcap : r.capacity <;> simp [isFull, hcap]

/-- What is live now is what is live now of what was live before. -/
theorem live_forget {K V : Type} (r : Recency K V) {now later : Instant} (h : now.nanos ≤ later.nanos) :
    (r.forget now).live later = r.live later := by
  rw [live, forget, live, List.filter_filter, live]
  apply List.filter_congr
  intro e _
  cases hlive : e.2.isLive later with
  | false => rw [Bool.false_and]
  | true => rw [Kept.isLive_of_later h hlive, Bool.and_self]

/-- A key that is there needs no room, nor does any key where there is some. -/
theorem room_eq_self {K V : Type} [DecidableEq K] {r : Recency K V} {key : K}
    (h : (r.find? key).isSome = true ∨ r.isFull = false) : r.room key = r := by
  apply if_neg
  intro hroom
  obtain ⟨hnone, hfull⟩ := Bool.and_eq_true_iff.mp hroom
  rcases h with h | h
  · rw [Option.isNone_iff_eq_none.mp hnone] at h
    cases h
  · rw [hfull] at h
    cases h

end Recency

/-! ## The store and the reference -/

/-- **The store and the reference at a moment**: what the reference has are the live entries of the
store, in the order `l` of their last use. -/
structure Tracks {K V : Type} (s : Store K V) (r : Recency K V) (now : Instant) (l : List (K × Stored V)) : Prop where
  ranks : Store.Ranks s.entries s.nextUse l
  entries : r.entries = Store.liveOf l now
  capacity : s.capacity = r.capacity
  evictions : s.evictions = r.evictions
  fits : ∀ n, s.capacity = some n → 0 < n ∧ s.size ≤ n

/-- **They stay together** from a moment on, once the reference has forgotten what has expired by then. -/
def Simulates {K V : Type} (s : Store K V) (r : Recency K V) (now : Instant) : Prop :=
  ∃ l, Tracks s (r.forget now) now l

namespace Tracks

variable {K V : Type} {s : Store K V} {r : Recency K V} {now : Instant} {l : List (K × Stored V)}

theorem size_eq (h : Tracks s r now l) : s.size = l.length := h.ranks.perm.length_eq.symm

/-- What is no more than the stored entries is no more than there may be. -/
theorem fits_of_le {m : Nat} (h : Tracks s r now l) (hle : m ≤ s.size) :
    ∀ n, s.capacity = some n → 0 < n ∧ m ≤ n := by
  intro n hn
  exact ⟨(h.fits n hn).1, Nat.le_trans hle (h.fits n hn).2⟩

/-- There are no more live entries than stored ones. -/
theorem length_le (h : Tracks s r now l) : r.entries.length ≤ s.size := by
  rw [h.entries, h.size_eq]
  exact Store.length_liveOf_le l now

/-- One expired entry in the store leaves room in the reference. -/
theorem isFull_of_expired {e : K × Stored V} (h : Tracks s r now l) (he : e ∈ l)
    (hexpired : e.2.isExpired now = true) : r.isFull = false := by
  rw [Recency.isFull_eq_false]
  intro n hn
  have hlt : r.entries.length < l.length := h.entries ▸ Store.length_liveOf_lt he hexpired
  exact Nat.lt_of_lt_of_le hlt (h.size_eq ▸ (h.fits n (h.capacity.trans hn)).2)

/-- A store that is full of live entries is a full reference. -/
theorem isFull_of_live {n : Nat} (h : Tracks s r now l) (hlive : ∀ e ∈ l, e.2.isExpired now = false)
    (hn : s.capacity = some n) (hle : n ≤ s.size) : r.isFull = true := by
  rw [← Bool.not_eq_false, Recency.isFull_eq_false]
  intro hspare
  have hlt := hspare n (h.capacity ▸ hn)
  rw [h.entries, Store.length_liveOf_eq hlive, ← h.size_eq] at hlt
  exact Nat.not_le_of_lt hlt hle

/-- All the reference has is live, so there is nothing for it to forget. -/
theorem simulates (h : Tracks s r now l) : Simulates s r now := by
  have hlive : r.live now = r.entries := by
    rw [Recency.live, h.entries, Store.filter_liveOf (Nat.le_refl _)]
  refine ⟨l, h.ranks, hlive.trans h.entries, h.capacity, h.evictions, h.fits⟩

/-- Entries may be dropped that the reference does not have. -/
theorem purge (h : Tracks s r now l) : Tracks (s.purge now).1 r now (l.filter fun e => !e.2.isExpired now) where
  ranks := h.ranks.filter _
  entries := h.entries.trans (Store.liveOf_filter_live l now).symm
  capacity := h.capacity
  evictions := h.evictions
  fits := h.fits_of_le (List.length_filter_le ..)

variable [DecidableEq K]

/-- Where the oldest entry is live, it is the first of the reference. -/
theorem evict {o : K × Stored V} (h : Tracks s r now (o :: l)) (hlive : o.2.isExpired now = false) :
    Tracks { s with entries := Store.without s.entries o.1, evictions := s.evictions + 1 }
      { r with entries := r.entries.tail, evictions := r.evictions + 1 } now l where
  ranks := by
    have hranks := h.ranks.filter fun e => e.1 ≠ o.1
    rw [Keyed.filter_ne_head h.ranks.keys] at hranks
    exact hranks
  entries := by
    rw [h.entries, Store.liveOf_cons hlive]
    rfl
  capacity := h.capacity
  evictions := congrArg (· + 1) h.evictions
  fits := h.fits_of_le (List.length_filter_le ..)

/-- **What the reference finds** is what the store finds, unless that has expired. -/
theorem find?_eq (h : Tracks s r now l) (key : K) :
    r.find? key = ((s.find? key).filter fun e => !e.isExpired now).map fun e => (key, e.kept) := by
  have hfind : s.find? key = (l.find? fun e => e.1 = key).map (·.2) := congrArg _ (h.ranks.find?_eq key)
  rw [Recency.find?, h.entries, hfind]
  ext x
  rw [Keyed.find?_eq_some_iff (Store.keys_liveOf h.ranks.keys), Store.mem_liveOf]
  simp only [Option.map_eq_some_iff, Option.filter_eq_some_iff, Keyed.find?_eq_some_iff h.ranks.keys]
  constructor
  · rintro ⟨⟨e, he, hlive, rfl⟩, rfl⟩
    exact ⟨e.2, ⟨⟨e, ⟨he, rfl⟩, rfl⟩, by rw [hlive]; rfl⟩, rfl⟩
  · rintro ⟨entry, ⟨⟨e, ⟨he, rfl⟩, rfl⟩, hlive⟩, rfl⟩
    exact ⟨⟨e, he, by simpa using hlive, rfl⟩, rfl⟩

/-- Where the store has room, or the key in whatever state, the reference has room or the key too. -/
theorem room_eq_self {key : K} (h : Tracks s r now l) (hlacks : s.lacksRoom key = false) : r.room key = r := by
  apply Recency.room_eq_self
  rcases Store.spare_of_lacksRoom hlacks with ⟨e, he, rfl⟩ | hspare
  · have hl := h.ranks.perm.mem_iff.mpr he
    cases hexpired : e.2.isExpired now with
    | true => exact .inr (h.isFull_of_expired hl hexpired)
    | false =>
      have hfound : r.find? e.1 = some (e.1, e.2.kept) := by
        rw [Recency.find?, h.entries, Keyed.find?_eq_some_iff (Store.keys_liveOf h.ranks.keys)]
        exact ⟨Store.mem_liveOf.mpr ⟨e, hl, hexpired, rfl⟩, rfl⟩
      rw [hfound]
      exact .inl rfl
  · right
    rw [Recency.isFull_eq_false]
    intro n hn
    exact Nat.lt_of_le_of_lt h.length_le (hspare n (h.capacity.trans hn))

/-- **Room for a key** is made by neither or by both, and if by both by dropping the same entry. -/
theorem room (h : Tracks s r now l) (key : K) :
    ∃ l', Tracks (s.room key now) (r.room key) now l' ∧ (s.room key now).nextUse = s.nextUse ∧
      ∀ n, (s.room key now).capacity = some n →
        (∃ e ∈ (s.room key now).entries, e.1 = key) ∨ (s.room key now).size < n := by
  cases hlacks : s.lacksRoom key with
  | false =>
    have hroom : s.room key now = s := if_neg (by rw [hlacks]; decide)
    rw [hroom, h.room_eq_self hlacks]
    refine ⟨l, h, rfl, ?_⟩
    intro n hn
    exact (Store.spare_of_lacksRoom hlacks).imp_right fun hspare => hspare n hn
  | true =>
    have hroom : s.room key now = s.makeRoom now := if_pos hlacks
    obtain ⟨n, hn, hnone, hle⟩ := Store.lacksRoom_eq_true.mp hlacks
    rw [hroom]
    by_cases hexpired : ∃ e ∈ l, e.2.isExpired now = true
    -- something has expired: the store drops that, and the reference has never been full
    · obtain ⟨e, he, hexpired⟩ := hexpired
      have hmem := h.ranks.perm.mem_iff.mp he
      have hlt : ((s.purge now).1).size < s.size :=
        List.length_filter_lt_length_iff_exists.mpr ⟨e, hmem, by simp [hexpired]⟩
      rw [Store.makeRoom_of_expired hmem hexpired, Recency.room_eq_self (.inr (h.isFull_of_expired he hexpired))]
      refine ⟨_, h.purge, rfl, ?_⟩
      intro n hn
      exact .inr (Nat.lt_of_lt_of_le hlt (h.fits n hn).2)
    -- nothing has expired: both are full, and both drop the first of the ranking
    · have hlive : ∀ e ∈ l, e.2.isExpired now = false := by simpa using hexpired
      have hfull := h.isFull_of_live hlive hn hle
      have hdrop : r.room key = { r with entries := r.entries.tail, evictions := r.evictions + 1 } :=
        if_pos (by rw [h.find?_eq, hnone, hfull]; rfl)
      obtain ⟨o, l, rfl⟩ : ∃ o l', l = o :: l' := by
        apply List.exists_cons_of_length_pos
        rw [← h.size_eq]
        exact Nat.lt_of_lt_of_le (h.fits n hn).1 hle
      have ho : o ∈ s.entries := h.ranks.perm.mem_iff.mp List.mem_cons_self
      rw [Store.makeRoom_of_live (fun e he => hlive e (h.ranks.perm.mem_iff.mpr he)) h.ranks.oldest?_eq, hdrop]
      refine ⟨l, h.evict (hlive o List.mem_cons_self), rfl, ?_⟩
      intro n hn
      exact .inr (Nat.lt_of_lt_of_le (Keyed.length_filter_ne_lt ho) (h.fits n hn).2)

/-- **An entry that is used** is the latest of both. -/
theorem use {s' : Store K V} (h : Tracks s r now l) (key : K) (entry : Stored V) (hentry : entry.lastUse = s.nextUse)
    (hentries : s'.entries.Perm (Store.without s.entries key ++ [(key, entry)])) (hnext : s'.nextUse = s.nextUse + 1)
    (hcapacity : s'.capacity = s.capacity) (hevictions : s'.evictions = s.evictions)
    (hroom : ∀ n, s.capacity = some n → (∃ e ∈ s.entries, e.1 = key) ∨ s.size < n) :
    Simulates s' { r with entries := r.without key ++ [(key, entry.kept)] } now := by
  refine ⟨Store.without l key ++ [(key, entry)], ?_, ?_, hcapacity.trans h.capacity, hevictions.trans h.evictions, ?_⟩
  · rw [hnext]
    exact (h.ranks.use key hentry).relist hentries
  · have hlive : (r.without key).filter (fun e => e.2.isLive now) = Store.liveOf (Store.without l key) now := by
      rw [Store.liveOf_without, ← Store.filter_liveOf (Nat.le_refl _), ← h.entries, List.filter_filter, Recency.without,
        List.filter_filter]
      exact List.filter_congr fun e _ => Bool.and_comm ..
    have hlast : [(key, entry.kept)].filter (fun e => e.2.isLive now) = Store.liveOf [(key, entry)] now := by
      simp only [Store.liveOf, List.filter_cons, List.filter_nil, Stored.isLive_kept]
      split <;> rfl
    rw [Store.liveOf_append, ← hlive, ← hlast]
    exact List.filter_append ..
  · intro n hn
    rw [hcapacity] at hn
    refine ⟨(h.fits n hn).1, ?_⟩
    rw [Store.size, hentries.length_eq, List.length_append, List.length_singleton]
    rcases hroom n hn with ⟨e, he, rfl⟩ | hlt
    · exact Nat.le_trans (Keyed.length_filter_ne_lt he) (h.fits n hn).2
    · exact Nat.le_trans (Nat.succ_le_succ (List.length_filter_le ..)) hlt

/-- **An entry that is taken out** is taken out of both. -/
theorem without (h : Tracks s r now l) (key : K) :
    Tracks { s with entries := Store.without s.entries key } { r with entries := r.without key } now
      (Store.without l key) where
  ranks := h.ranks.filter _
  entries := by rw [Store.liveOf_without, ← h.entries]; rfl
  capacity := h.capacity
  evictions := h.evictions
  fits := h.fits_of_le (List.length_filter_le ..)

/-- **A value is put** into both. -/
theorem put (h : Tracks s r now l) (key : K) (value : V) (ttl : Duration) :
    Simulates (s.put key value ttl now) (r.put key { value, storedAt := now, ttl }) now := by
  obtain ⟨l', hmade, hnext, hroom⟩ := h.room key
  rw [Store.put_eq]
  exact hmade.use key { value, storedAt := now, ttl, lastUse := s.nextUse } hnext.symm (.refl _)
    (congrArg (· + 1) hnext.symm) rfl rfl hroom

/-- **A value is got** from both, and it is the same. -/
theorem get (h : Tracks s r now l) (key : K) :
    Simulates (s.get key now).1 (r.get key).1 now ∧ (s.get key now).2 = (r.get key).2 := by
  have hfind := h.find?_eq key
  cases hstored : s.find? key with
  | none =>
    have hget : r.get key = (r, none) := by rw [Recency.get, hfind, hstored]; rfl
    have hstay : Tracks { s with misses := s.misses + 1 } r now l := { h with }
    rw [Store.get_of_none hstored, hget]
    exact ⟨hstay.simulates, rfl⟩
  | some entry =>
    cases hexpired : entry.isExpired now with
    | true =>
      have hnone : r.find? key = none := by rw [hfind, hstored, Option.filter_some, hexpired]; rfl
      have hget : r.get key = (r, none) := by rw [Recency.get, hnone]
      have hsame : r.without key = r.entries :=
        Keyed.filter_ne_eq_self fun e he => by simpa using List.find?_eq_none.mp hnone e he
      have hgone := h.without key
      rw [hsame] at hgone
      have hleft : Tracks { s with
          entries := Store.without s.entries key
          misses := s.misses + 1
          expirations := s.expirations + 1 } r now (Store.without l key) := { hgone with }
      rw [Store.get_of_expired hstored hexpired, hget]
      exact ⟨hleft.simulates, rfl⟩
    | false =>
      have hsome : r.find? key = some (key, entry.kept) := by rw [hfind, hstored, Option.filter_some, hexpired]; rfl
      have hget : r.get key = ({ r with entries := r.without key ++ [(key, entry.kept)] }, some entry.value) := by
        rw [Recency.get, hsome]
        rfl
      have hkeys := (h.ranks.perm.map Prod.fst).nodup_iff.mp h.ranks.keys
      obtain ⟨entries, hperm, hhit⟩ := Store.get_of_live hkeys hstored hexpired
      have hmem : ∃ e ∈ s.entries, e.1 = key := by
        obtain ⟨e, he, -⟩ := Option.map_eq_some_iff.mp hstored
        exact ⟨e, (Keyed.find?_eq_some_iff hkeys).mp he⟩
      rw [hhit, hget]
      exact ⟨h.use key { entry with lastUse := s.nextUse } rfl hperm rfl rfl rfl fun _ _ => .inl hmem, rfl⟩

end Tracks

namespace Simulates

variable {K V : Type} {s : Store K V} {r : Recency K V} {now : Instant}

/-- They are together at first. -/
theorem empty (capacity : Option Nat) (now : Instant) :
    Simulates (TimedStore.empty capacity : TimedStore K V).store (Recency.empty capacity) now := by
  refine ⟨[], ?_⟩
  cases capacity with
  | none => exact ⟨.nil _, rfl, rfl, rfl, fun n hn => by cases hn⟩
  | some n =>
    refine ⟨.nil _, rfl, rfl, rfl, ?_⟩
    intro n' hn
    obtain rfl := Option.some.inj hn
    exact ⟨Nat.lt_of_lt_of_le Nat.one_pos (Nat.le_max_right ..), Nat.zero_le _⟩

/-- **They stay together as time goes by**: what expires is forgotten. -/
theorem later {now' : Instant} (h : Simulates s r now) (hle : now.nanos ≤ now'.nanos) :
    Simulates s r now' := by
  obtain ⟨l, h⟩ := h
  refine ⟨l, h.ranks, ?_, h.capacity, h.evictions, h.fits⟩
  have hlive : (r.forget now').entries = (r.forget now).live now' := (Recency.live_forget r hle).symm
  rw [hlive, Recency.live, h.entries, Store.filter_liveOf hle]

/-- Another order of the entries changes nothing. -/
theorem relist {entries : List (K × Stored V)} (h : Simulates s r now) (hperm : entries.Perm s.entries) :
    Simulates { s with entries } r now := by
  obtain ⟨l, h⟩ := h
  exact ⟨l, h.ranks.relist hperm, h.entries, h.capacity, h.evictions, h.fits_of_le (Nat.le_of_eq hperm.length_eq)⟩

/-- The live entries of the two are the same. -/
theorem live (h : Simulates s r now) : (s.live now).Perm (r.live now) := by
  obtain ⟨l, h⟩ := h
  have hlive : r.live now = Store.liveOf l now := h.entries
  rw [hlive]
  exact (Store.liveOf_perm h.ranks.perm now).symm

/-- **One request**: both serve it, they stay together, and what is got from them is the same. -/
theorem serve [DecidableEq K] (h : Simulates s r now) (request : StoreRequest K V) :
    Simulates (s.serve now request).1 (r.serve now request).1 now ∧
      ∀ key, request = .get key → (s.serve now request).2 = (r.serve now request).2 := by
  obtain ⟨l, h⟩ := h
  cases request with
  | put key value ttl => exact ⟨h.put key value ttl, fun _ hget => by cases hget⟩
  | get key => exact ⟨(h.get key).1, fun _ _ => (h.get key).2⟩
  | remove key => exact ⟨(h.without key).simulates, fun _ hget => by cases hget⟩
  | purge => exact ⟨h.purge.simulates, fun _ hget => by cases hget⟩
  | clear =>
    have hclear : Tracks s.clear { r with entries := [] } now [] :=
      ⟨.nil _, rfl, h.capacity, h.evictions, h.fits_of_le (Nat.zero_le _)⟩
    exact ⟨hclear.simulates, fun _ hget => by cases hget⟩

end Simulates

namespace TimedStore

variable {K V : Type} [DecidableEq K] {capacity : Option Nat}
  {steps : List (Transition (TimedStore K V) (StoreUse K V))} {last : TimedStore K V}

/-- **One use** keeps the two together. -/
theorem simulates_next {s s' : TimedStore K V} {use : StoreUse K V} {r : Recency K V} (h : Simulates s.store r s.now)
    (hnext : Next s use s') :
    Simulates s'.store (r.serve use.now use.request).1 use.now ∧
      ∀ key, use.request = .get key → use.answer = (r.serve use.now use.request).2 := by
  obtain ⟨hle, -, entries, hperm, hserve⟩ := hnext
  have hserved := ((h.later hle).relist hperm).serve use.request
  rw [hserve] at hserved
  exact hserved

/-- **Every history** keeps the two together. -/
theorem simulates_of_history (h : History Next (empty capacity) steps last) :
    Simulates last.store (Recency.after capacity (steps.map (·.label))) last.now := by
  apply History.invariantWith
    (P := fun steps s => Simulates s.store (Recency.after capacity (steps.map (·.label))) s.now)
    (Simulates.empty capacity _) _ h
  intro steps s use s' _ hs hnext
  rw [List.map_append, List.map_singleton, Recency.after_snoc, hnext.2.1]
  exact (simulates_next hs hnext).1

/-- **A store is its recency list.** Whatever its capacity, whatever it is asked as time goes by, and
however its entries lie in between: what it finds for a key is what the reference finds, and after
each use it has evicted as many entries as the reference, and what is live of it, then or at any
later moment, is what is live of the reference. -/
theorem refines_recency (h : History Next (empty capacity) steps last) :
    ∀ past t rest, steps = past ++ t :: rest →
      let before : Recency K V := Recency.after capacity (past.map (·.label))
      let after := (before.serve t.label.now t.label.request).1
      (∀ key, t.label.request = .get key → t.label.answer = (before.serve t.label.now t.label.request).2) ∧
        (∀ later : Instant, t.label.now.nanos ≤ later.nanos → (t.after.store.live later).Perm (after.live later)) ∧
        t.after.store.evictions = after.evictions := by
  intro past t rest hsteps before after
  subst hsteps
  obtain ⟨hpast, hnext, -⟩ := h.cut
  have hstep := simulates_next (simulates_of_history hpast) hnext
  refine ⟨hstep.2, ?_, ?_⟩
  · intro later hle
    exact (hstep.1.later hle).live
  · obtain ⟨l, htracks⟩ := hstep.1
    exact htracks.evictions

/-- Serve a request if it is time, with the entries turned round first. -/
def turn? (s : TimedStore Nat Nat) (use : StoreUse Nat Nat) : Option (TimedStore Nat Nat) :=
  let (store, answer) := { s.store with entries := s.store.entries.reverse }.serve use.now use.request
  if s.now.nanos ≤ use.now.nanos ∧ answer = use.answer then some { store, now := use.now } else none

theorem next_of_turn {s s' : TimedStore Nat Nat} {use : StoreUse Nat Nat} (h : turn? s use = some s') :
    Next s use s' := by
  obtain ⟨⟨hle, hanswer⟩, hs'⟩ := Option.ite_none_right_eq_some.mp h
  obtain rfl := Option.some.inj hs'
  exact ⟨hle, rfl, _, List.reverse_perm _, Prod.ext rfl hanswer⟩

/-- Two are put, the first is got, and a third one is put, for which the second has to go. -/
def threeForTwo : List (StoreUse Nat Nat) :=
  [⟨.put 1 10 ⟨9⟩, ⟨0⟩, none⟩, ⟨.put 2 20 ⟨9⟩, ⟨1⟩, none⟩, ⟨.get 1, ⟨2⟩, some 10⟩, ⟨.put 3 30 ⟨9⟩, ⟨3⟩, none⟩]

theorem refines_recency_of_two : ∃ steps t, History Next (empty (some 2)) (steps ++ [t]) t.after ∧
    steps.map (·.label) = threeForTwo ∧ t.label.request = .get 2 ∧ t.label.answer = none ∧
    t.after.store.evictions = 1 ∧ (t.after.store.live ⟨4⟩).Perm [(1, ⟨10, ⟨0⟩, ⟨9⟩⟩), (3, ⟨30, ⟨3⟩, ⟨9⟩⟩)] := by
  have hplay : ((playFrom turn? (empty (some 2)) threeForTwo).bind fun r =>
      turn? r.2 ⟨.get 2, ⟨4⟩, none⟩).isSome = true := by decide +kernel
  obtain ⟨last, hplay⟩ := Option.isSome_iff_exists.mp hplay
  obtain ⟨r, hplayed, hturn⟩ := Option.bind_eq_some_iff.mp hplay
  have hlabels : r.1.map (·.label) = threeForTwo := map_label_of_playFrom hplayed
  have past : History Next (empty (some 2)) r.1 r.2 := (History.of_playFrom hplayed).mono fun _ _ _ => next_of_turn
  have h := past.step (next_of_turn hturn)
  obtain ⟨hanswer, hlive, hevictions⟩ := refines_recency h r.1 _ [] rfl
  rw [hlabels] at hanswer hlive hevictions
  refine ⟨r.1, _, h, hlabels, rfl, (hanswer 2 rfl).trans rfl, hevictions.trans rfl, ?_⟩
  exact (hlive ⟨4⟩ (Nat.le_refl _)).trans (.of_eq rfl)

end TimedStore

end HttpBench
