import Mathlib.Algebra.GroupWithZero.Nat
import HttpBench.Proofs.Cache.Entries
import HttpBench.Proofs.Cache.Requests

/-!
# Every entry is accounted for

What was put into a store is still there, or was replaced by a later value of its key, or has left: it
expired, was evicted, was taken out or was cleared. The counters of a store and what it has been asked
account for all of it, each entry once (`Store.entries_accounted`), and a bounded store never holds
more than it may.

A store may be in use by many at once. All of them change its entries one after the other, but for a
look-up that comes across an expired entry. That one only reads (`Store.look`), and drops the entry later,
if by then nobody is in the way and what the key has then has expired (`Store.sweep`). Left alone the two
are one look-up (`Store.get_eq`). In between a purge may take the entry, or a new value may come in its
place, so the two halves are steps of their own here, and a sweep may come at any time. Nothing is asked
of the clocks either: whoever has to wait for the others has looked at his clock before.
-/

namespace HttpBench

namespace StoreRequest

variable {K V : Type}

def isPut : StoreRequest K V → Bool
  | .put .. => true
  | _ => false

def isGet : StoreRequest K V → Bool
  | .get _ => true
  | _ => false

end StoreRequest

namespace Store

variable {K V : Type}

/-- **The entries that go uncounted** when a request is served: the one whose key is put again, the one that
is taken out, and those that are cleared. -/
def uncounted [DecidableEq K] (s : Store K V) : StoreRequest K V → Nat
  | .put key .. | .remove key => (s.find? key).isSome.toNat
  | .clear => s.size
  | .get _ | .purge => 0

/-- **A store as it can be**: keys are distinct, and a bounded one has room for what it holds, and for one
entry at least. -/
structure Sound (s : Store K V) : Prop where
  keys : (s.entries.map Prod.fst).Nodup
  fits : ∀ n, s.capacity = some n → 0 < n ∧ s.size ≤ n

/-- **How the books of a store change** from one state to another, which has been looked up so many times
and found, to which so many values were put, and from which so many entries have gone that no counter
knows of. -/
structure Books (s s' : Store K V) (looks finds puts uncounted : Nat) : Prop where
  sound : s'.Sound
  capacity : s'.capacity = s.capacity
  hits : s'.hits = s.hits + finds
  lookups : s'.hits + s'.misses = s.hits + s.misses + looks
  insertions : s'.insertions = s.insertions + puts
  entries : s'.size + s'.expirations + s'.evictions + uncounted = s.size + s.expirations + s.evictions + puts

variable {s : Store K V} {now : Instant}

/-- Changes of the books add up. -/
theorem Books.trans {s' s'' : Store K V} {looks finds puts uncounted looks' finds' puts' uncounted' : Nat}
    (h : Books s s' looks finds puts uncounted) (h' : Books s' s'' looks' finds' puts' uncounted') :
    Books s s'' (looks + looks') (finds + finds') (puts + puts') (uncounted + uncounted') where
  sound := h'.sound
  capacity := h'.capacity.trans h.capacity
  hits := by rw [h'.hits, h.hits, Nat.add_assoc]
  lookups := by rw [h'.lookups, h.lookups, Nat.add_assoc]
  insertions := by rw [h'.insertions, h.insertions, Nat.add_assoc]
  entries := by have := h.entries; have := h'.entries; omega

/-- Fewer entries of a store are as sound. -/
theorem Sound.of_sublist {s' : Store K V} (h : s.Sound) (hsub : s'.entries.Sublist s.entries)
    (hcapacity : s'.capacity = s.capacity) : s'.Sound where
  keys := h.keys.sublist (hsub.map _)
  fits n hn := ⟨(h.fits n (hcapacity ▸ hn)).1, Nat.le_trans hsub.length_le (h.fits n (hcapacity ▸ hn)).2⟩

/-- **A purge** counts what it drops. -/
theorem books_purge (h : s.Sound) (now : Instant) : Books s (s.purge now).1 0 0 0 0 where
  sound := h.of_sublist List.filter_sublist rfl
  capacity := rfl
  hits := rfl
  lookups := rfl
  insertions := rfl
  entries := by
    have hle : (s.entries.filter fun e => !e.2.isExpired now).length ≤ s.entries.length := List.length_filter_le ..
    simp only [purge, size]
    omega

/-- To clear a store counts nothing. -/
theorem books_clear (s : Store K V) (h : s.Sound) : Books s s.clear 0 0 0 s.size where
  sound := h.of_sublist (List.nil_sublist _) rfl
  capacity := rfl
  hits := rfl
  lookups := rfl
  insertions := rfl
  entries := by simp only [clear, size, List.length_nil]; omega

variable [DecidableEq K]

/-! ## Look-ups in two halves -/

/-- **A look-up that only reads**: it counts what it has found, and leaves what has expired. -/
def look (s : Store K V) (key : K) (now : Instant) : Store K V × Option V :=
  match s.find? key with
  | some e => if e.isExpired now then ({ s with misses := s.misses + 1 }, none) else s.get key now
  | none => s.get key now

/-- **Drop the entry of a key** if it has expired. -/
def sweep (s : Store K V) (key : K) (now : Instant) : Store K V :=
  match s.find? key with
  | some e =>
    if e.isExpired now then { s with entries := without s.entries key, expirations := s.expirations + 1 } else s
  | none => s

variable {key : K} {e : Stored V}

theorem look_of_none (h : s.find? key = none) (now : Instant) :
    s.look key now = ({ s with misses := s.misses + 1 }, none) := by
  rw [look, h]
  exact get_of_none h now

theorem look_of_expired (h : s.find? key = some e) (hexpired : e.isExpired now = true) :
    s.look key now = ({ s with misses := s.misses + 1 }, none) := by
  rw [look, h]
  exact if_pos hexpired

theorem look_of_live (h : s.find? key = some e) (hlive : e.isExpired now = false) :
    s.look key now = s.get key now := by
  rw [look, h]
  exact if_neg (by rw [hlive]; decide)

theorem sweep_of_expired (h : s.find? key = some e) (hexpired : e.isExpired now = true) :
    s.sweep key now = { s with entries := without s.entries key, expirations := s.expirations + 1 } := by
  rw [sweep, h]
  exact if_pos hexpired

/-- There is nothing to drop where nothing of the key has expired. -/
theorem sweep_eq_self (h : ∀ e, s.find? key = some e → e.isExpired now = false) : s.sweep key now = s := by
  unfold sweep
  split
  next e hfind => exact if_neg (by rw [h e hfind]; decide)
  next => rfl

/-- A look-up that hits finds the entry again, as live as it was. -/
theorem find?_get_of_live (h : s.find? key = some e) (hlive : e.isExpired now = false) :
    (s.get key now).1.find? key = some { e with lastUse := s.nextUse } := by
  obtain ⟨x, hx, rfl⟩ := Option.map_eq_some_iff.mp h
  have hkey : x.1 = key := by simpa using List.find?_some hx
  have htouch : ∀ y : K × Stored V,
      (if y.1 = key then (y.1, { y.2 with lastUse := s.nextUse }) else y).1 = y.1 := fun y => by split_ifs <;> rfl
  simp only [get, h, if_neg (Bool.eq_false_iff.mp hlive)]
  rw [find?, List.find?_map]
  simp only [Function.comp_def, htouch, hx, Option.map_some, if_pos hkey]

/-- **A look-up is its two halves**, one right after the other. -/
theorem get_eq (s : Store K V) (key : K) (now : Instant) :
    s.get key now = ((s.look key now).1.sweep key now, (s.look key now).2) := by
  cases hfind : s.find? key with
  | none =>
    have hstill : ({ s with misses := s.misses + 1 } : Store K V).find? key = none := hfind
    rw [get_of_none hfind, look_of_none hfind, sweep_eq_self fun e he => by rw [hstill] at he; cases he]
  | some e =>
    cases hexpired : e.isExpired now with
    | true =>
      have hstill : ({ s with misses := s.misses + 1 } : Store K V).find? key = some e := hfind
      rw [get_of_expired hfind hexpired, look_of_expired hfind hexpired, sweep_of_expired hstill hexpired]
    | false =>
      have hstill := find?_get_of_live hfind hexpired
      rw [look_of_live hfind hexpired, sweep_eq_self fun x hx => by rw [hstill] at hx; cases hx; exact hexpired]

/-! ## The books -/

/-- What is found for a key counts among the entries, and is gone without it. -/
theorem size_without (h : s.Sound) (key : K) :
    (without s.entries key).length + (s.find? key).isSome.toNat = s.size := by
  rw [find?, Option.isSome_map]
  exact Keyed.length_filter_ne h.keys key

/-- **A look-up that only reads** finds something or misses. -/
theorem books_look (h : s.Sound) (key : K) (now : Instant) :
    Books s (s.look key now).1 1 (s.look key now).2.isSome.toNat 0 0 := by
  have hmiss : Books s { s with misses := s.misses + 1 } 1 0 0 0 :=
    ⟨h.of_sublist (List.Sublist.refl _) rfl, rfl, rfl, rfl, rfl, rfl⟩
  cases hfind : s.find? key with
  | none =>
    rw [look_of_none hfind]
    exact hmiss
  | some e =>
    cases hexpired : e.isExpired now with
    | true =>
      rw [look_of_expired hfind hexpired]
      exact hmiss
    | false =>
      obtain ⟨entries, hperm, hget⟩ := get_of_live h.keys hfind hexpired
      have hsize : entries.length = s.size := by
        rw [hperm.length_eq, List.length_append, ← size_without h key, hfind]
        rfl
      rw [look_of_live hfind hexpired, hget]
      refine ⟨⟨(hperm.map _).nodup_iff.mpr (keys_filter_append h.keys _), fun n hn => ?_⟩, rfl, rfl, ?_, rfl, ?_⟩
      · exact ⟨(h.fits n hn).1, Nat.le_trans (Nat.le_of_eq hsize) (h.fits n hn).2⟩
      · exact Nat.add_right_comm ..
      · simp only [size, hsize]

/-- **A sweep** counts what it drops. -/
theorem books_sweep (h : s.Sound) (key : K) (now : Instant) : Books s (s.sweep key now) 0 0 0 0 := by
  by_cases hfound : ∃ e, s.find? key = some e ∧ e.isExpired now = true
  · obtain ⟨e, hfind, hexpired⟩ := hfound
    have hsize := size_without h key
    rw [hfind, Option.isSome_some, Bool.toNat_true] at hsize
    rw [sweep_of_expired hfind hexpired]
    refine ⟨h.of_sublist List.filter_sublist rfl, rfl, rfl, rfl, rfl, ?_⟩
    simp only [size] at hsize ⊢
    omega
  · rw [sweep_eq_self fun e hfind => by simpa using fun hexpired => hfound ⟨e, hfind, hexpired⟩]
    exact ⟨h, rfl, rfl, rfl, rfl, rfl⟩

/-- **A look-up** finds something or misses, and counts what it drops. -/
theorem books_get (h : s.Sound) (key : K) (now : Instant) :
    Books s (s.get key now).1 1 (s.get key now).2.isSome.toNat 0 0 := by
  rw [get_eq]
  exact (books_look h key now).trans (books_sweep (books_look h key now).sound key now)

/-- What is taken out is counted by whoever gets it. -/
theorem books_remove (h : s.Sound) (key : K) :
    Books s (s.remove key).1 0 0 0 (s.remove key).2.isSome.toNat where
  sound := h.of_sublist List.filter_sublist rfl
  capacity := rfl
  hits := rfl
  lookups := rfl
  insertions := rfl
  entries := by
    have hsize := size_without h key
    simp only [remove, size, Option.isSome_map] at hsize ⊢
    omega

/-- **Room for a key** is made by counted drops, and is not made for a key that is there. -/
theorem books_room (h : s.Sound) (key : K) (now : Instant) :
    Books s (s.room key now) 0 0 0 0 ∧ ((s.room key now).find? key).isSome = (s.find? key).isSome ∧
      ∀ n, s.capacity = some n → (s.find? key).isSome = true ∨ (s.room key now).size < n := by
  cases hlacks : s.lacksRoom key with
  | false =>
    have hroom : s.room key now = s := if_neg (by rw [hlacks]; decide)
    rw [hroom]
    refine ⟨⟨h, rfl, rfl, rfl, rfl, rfl⟩, rfl, fun n hn => ?_⟩
    refine (spare_of_lacksRoom hlacks).imp (fun ⟨e, he, hkey⟩ => ?_) fun hspare => hspare n hn
    rw [find?, Option.isSome_map, List.find?_isSome]
    exact ⟨e, he, by simpa using hkey⟩
  | true =>
    have hroom : s.room key now = s.makeRoom now := if_pos hlacks
    obtain ⟨n, hn, hnone, hle⟩ := lacksRoom_eq_true.mp hlacks
    have hgone : (s.room key now).find? key = none := by
      rw [find?, Option.map_eq_none_iff, List.find?_eq_none]
      intro e he
      exact List.find?_eq_none.mp (Option.map_eq_none_iff.mp hnone) e (mem_of_room he)
    suffices hmade : Books s (s.makeRoom now) 0 0 0 0 ∧ (s.makeRoom now).size < s.size by
      rw [hgone, hnone, hroom]
      refine ⟨hmade.1, rfl, fun m hm => .inr (Nat.lt_of_lt_of_le hmade.2 (h.fits m hm).2)⟩
    rcases s.makeRoom_cases now with ⟨e, he, hexpired, hmake⟩ | ⟨_, ⟨o, ho, hmake⟩ | ⟨hnil, _⟩⟩
    · rw [hmake]
      exact ⟨books_purge h now, List.length_filter_lt_length_iff_exists.mpr ⟨e, he, by simp [hexpired]⟩⟩
    · have hsize := size_without h o.1
      have hfound : (s.find? o.1).isSome = true := by
        rw [find?, Option.isSome_map, List.find?_isSome]
        exact ⟨o, (oldest?_spec ho).1, by simp⟩
      rw [hfound, Bool.toNat_true] at hsize
      rw [hmake]
      refine ⟨⟨h.of_sublist List.filter_sublist rfl, rfl, rfl, rfl, rfl, ?_⟩, ?_⟩
      all_goals
        simp only [size] at hsize ⊢
        omega
    · have hempty : s.size = 0 := by rw [size, hnil, List.length_nil]
      exact absurd (Nat.lt_of_lt_of_le (h.fits n hn).1 hle) (by rw [hempty]; exact Nat.lt_irrefl 0)

/-- **A value that is put** comes in place of what the key had, or needs room. -/
theorem books_put (h : s.Sound) (key : K) (value : V) (ttl : Duration) (now : Instant) :
    Books s (s.put key value ttl now) 0 0 1 (s.find? key).isSome.toNat := by
  obtain ⟨hbooks, hfound, hspare⟩ := books_room h key now
  have hsize := size_without hbooks.sound key
  rw [put_eq]
  rw [hfound] at hsize
  refine ⟨⟨keys_filter_append hbooks.sound.keys _, fun n hn => ?_⟩, hbooks.capacity, hbooks.hits, hbooks.lookups,
    congrArg (· + 1) hbooks.insertions, ?_⟩
  · obtain ⟨hpos, hfits⟩ := hbooks.sound.fits n hn
    refine ⟨hpos, ?_⟩
    show ((without (s.room key now).entries key) ++ [_]).length ≤ n
    rw [List.length_append, List.length_singleton]
    rcases hspare n (hbooks.capacity.symm.trans hn) with hthere | hlt
    · rw [hthere, Bool.toNat_true] at hsize
      omega
    · omega
  · have hentries := hbooks.entries
    simp only [size, List.length_append, List.length_singleton] at hsize hentries ⊢
    omega

/-- **What a request does to the books.** -/
theorem books_serve (h : s.Sound) (now : Instant) (request : StoreRequest K V) :
    Books s (s.serve now request).1 request.isGet.toNat (request.isGet && (s.serve now request).2.isSome).toNat
      request.isPut.toNat (s.uncounted request) := by
  cases request with
  | put key value ttl => exact books_put h key value ttl now
  | get key => exact books_get h key now
  | remove key =>
    have hfound : (s.find? key).isSome = (s.remove key).2.isSome := (Option.isSome_map ..).symm
    rw [uncounted, hfound]
    exact books_remove h key
  | purge => exact books_purge h now
  | clear => exact books_clear s h

end Store

/-! ## Histories of a store that many use -/

/-- **What somebody does to a store that others use too**: serve a request as a whole, or one half of a
look-up, with what was handed out. -/
inductive SharedUse (K V : Type) where
  | whole (use : StoreUse K V)
  | look (key : K) (now : Instant) (answer : Option V)
  | sweep (key : K) (now : Instant)

/-- **A step of a store that many use**, with the states around it. -/
abbrev SharedTransition (K V : Type) := Transition (Store K V) (SharedUse K V)

namespace SharedTransition

variable {K V : Type}

def looksUp (t : SharedTransition K V) : Bool :=
  match t.label with
  | .whole use => use.request.isGet
  | .look .. => true
  | .sweep .. => false

/-- A key is looked up and found. -/
def finds (t : SharedTransition K V) : Bool :=
  match t.label with
  | .whole use => use.request.isGet && use.answer.isSome
  | .look _ _ answer => answer.isSome
  | .sweep .. => false

def puts (t : SharedTransition K V) : Bool :=
  match t.label with
  | .whole use => use.request.isPut
  | .look .. | .sweep .. => false

/-- A value is put in place of another one. -/
def overwrites [DecidableEq K] (t : SharedTransition K V) : Bool :=
  match t.label with
  | .whole { request := .put key .., .. } => (t.before.find? key).isSome
  | _ => false

/-- A value is taken out. -/
def takesOut (t : SharedTransition K V) : Bool :=
  match t.label with
  | .whole { request := .remove _, answer, .. } => answer.isSome
  | _ => false

/-- How many entries are cleared. -/
def cleared (t : SharedTransition K V) : Nat :=
  match t.label with
  | .whole { request := .clear, .. } => t.before.size
  | _ => 0

end SharedTransition

namespace Store

variable {K V : Type} {s s' : Store K V} {entries : List (K × Stored V)} {capacity : Option Nat}

/-- **The same entries laid out anew**: in any order, and with any numbers of their last uses, as callers
that draw their numbers at once may note them in any order. -/
def Relaid (entries entries' : List (K × Stored V)) : Prop :=
  (entries.map fun e => (e.1, e.2.kept)).Perm (entries'.map fun e => (e.1, e.2.kept))

/-- **A step of a store that many use.** -/
def SharedNext [DecidableEq K] (s : Store K V) (use : SharedUse K V) (s' : Store K V) : Prop :=
  ∃ entries, Relaid entries s.entries ∧
    match use with
    | .whole use => { s with entries }.serve use.now use.request = (s', use.answer)
    | .look key now answer => { s with entries }.look key now = (s', answer)
    | .sweep key now => { s with entries }.sweep key now = s'

theorem Relaid.length_eq (h : Relaid entries s.entries) : entries.length = s.size := by
  have hlength := List.Perm.length_eq h
  rwa [List.length_map, List.length_map] at hlength

theorem Relaid.keys (h : Relaid entries s.entries) : (entries.map Prod.fst).Perm (s.entries.map Prod.fst) := by
  have hkeys := List.Perm.map Prod.fst h
  rwa [List.map_map, List.map_map] at hkeys

theorem Relaid.sound (h : Relaid entries s.entries) (hsound : s.Sound) : Sound { s with entries } where
  keys := h.keys.nodup_iff.mpr hsound.keys
  fits n hn := ⟨(hsound.fits n hn).1, Nat.le_trans (Nat.le_of_eq h.length_eq) (hsound.fits n hn).2⟩

variable [DecidableEq K]

theorem isSome_find? (s : Store K V) (key : K) : (s.find? key).isSome = true ↔ key ∈ s.entries.map Prod.fst := by
  rw [find?, Option.isSome_map, List.find?_isSome, List.mem_map]
  simp only [decide_eq_true_eq]

theorem Relaid.isSome_find? (h : Relaid entries s.entries) (key : K) :
    (({ s with entries } : Store K V).find? key).isSome = (s.find? key).isSome := by
  rw [Bool.eq_iff_iff, Store.isSome_find?, Store.isSome_find?]
  exact h.keys.mem_iff

/-- The same entries go uncounted, however they are laid out. -/
theorem Relaid.uncounted_eq (h : Relaid entries s.entries) (request : StoreRequest K V) :
    uncounted { s with entries } request = s.uncounted request := by
  cases request with
  | put key | remove key => exact congrArg Bool.toNat (h.isSome_find? key)
  | clear => exact h.length_eq
  | get | purge => rfl

/-- Something is taken out if the key was there. -/
theorem Relaid.answer_of_remove {use : StoreUse K V} {key : K} (h : Relaid entries s.entries)
    (hserve : Store.serve { s with entries } use.now use.request = (s', use.answer))
    (hremove : use.request = .remove key) : use.answer.isSome = (s.find? key).isSome := by
  rw [hremove] at hserve
  have hanswer : (({ s with entries } : Store K V).find? key).map (·.value) = use.answer := congrArg Prod.snd hserve
  rw [← hanswer, Option.isSome_map, h.isSome_find?]

/-- What goes uncounted is overwritten, taken out or cleared. -/
theorem uncounted_eq_add {use : StoreUse K V}
    (hremove : ∀ key, use.request = .remove key → use.answer.isSome = (s.find? key).isSome) :
    let t : SharedTransition K V := ⟨s, .whole use, s'⟩
    t.overwrites.toNat + t.takesOut.toNat + t.cleared = s.uncounted use.request := by
  obtain ⟨request, now, answer⟩ := use
  cases request with
  | put | get | purge => rfl
  | clear => exact Nat.zero_add _
  | remove key =>
    have htaken : answer.isSome = (s.find? key).isSome := hremove key rfl
    show 0 + answer.isSome.toNat + 0 = (s.find? key).isSome.toNat
    rw [htaken, Nat.zero_add, Nat.add_zero]

omit [DecidableEq K] in
/-- The books do not mind how the entries are laid out. -/
theorem Books.of_relaid {looks finds puts uncounted : Nat}
    (h : Books { s with entries } s' looks finds puts uncounted) (hrelaid : Relaid entries s.entries) :
    Books s s' looks finds puts uncounted :=
  { h with entries := h.entries.trans (by rw [← hrelaid.length_eq]; rfl) }

/-- **What a step does to the books.** -/
theorem books_of_next {use : SharedUse K V} (h : s.Sound) (hnext : SharedNext s use s') :
    let t : SharedTransition K V := ⟨s, use, s'⟩
    Books s s' t.looksUp.toNat t.finds.toNat t.puts.toNat (t.overwrites.toNat + t.takesOut.toNat + t.cleared) := by
  obtain ⟨entries, hrelaid, hdone⟩ := hnext
  have hsound := hrelaid.sound h
  refine Books.of_relaid ?_ hrelaid
  cases use with
  | look key now answer =>
    have hbooks := books_look hsound key now
    rw [hdone] at hbooks
    exact hbooks
  | sweep key now =>
    obtain rfl := hdone
    exact books_sweep hsound key now
  | whole use =>
    have hserve : Store.serve { s with entries } use.now use.request = (s', use.answer) := hdone
    have hbooks := books_serve hsound use.now use.request
    rw [hserve, hrelaid.uncounted_eq] at hbooks
    rw [uncounted_eq_add fun key => hrelaid.answer_of_remove hserve]
    exact hbooks

/-- **The accounts of a store** after some steps. -/
structure Accounted (capacity : Option Nat) (steps : List (SharedTransition K V)) (s : Store K V) : Prop where
  sound : s.Sound
  capacity : s.capacity = capacity.map fun n => max n 1
  lookups : s.hits + s.misses = steps.countP (·.looksUp)
  hits : s.hits = steps.countP (·.finds)
  puts : s.insertions = steps.countP (·.puts)
  entries : s.size + s.expirations + s.evictions +
    (steps.countP (·.overwrites) + steps.countP (·.takesOut) + (steps.map (·.cleared)).sum) = steps.countP (·.puts)

theorem Accounted.empty (capacity : Option Nat) :
    Accounted capacity ([] : List (SharedTransition K V)) (TimedStore.empty capacity).store := by
  cases capacity with
  | none => exact ⟨⟨List.nodup_nil, fun n hn => by cases hn⟩, rfl, rfl, rfl, rfl, rfl⟩
  | some n =>
    refine ⟨⟨List.nodup_nil, fun m hm => ?_⟩, rfl, rfl, rfl, rfl, rfl⟩
    obtain rfl := Option.some.inj hm
    exact ⟨Nat.lt_of_lt_of_le Nat.zero_lt_one (Nat.le_max_right n 1), Nat.zero_le _⟩

theorem countP_concat {A : Type} (p : A → Bool) (l : List A) (a : A) :
    (l ++ [a]).countP p = l.countP p + (p a).toNat := by
  rw [List.countP_append, List.countP_singleton]
  cases p a <;> rfl

/-- **Every step** keeps the accounts. -/
theorem Accounted.next {use : SharedUse K V} {steps : List (SharedTransition K V)} (h : Accounted capacity steps s)
    (hnext : SharedNext s use s') : Accounted capacity (steps ++ [⟨s, use, s'⟩]) s' := by
  have hbooks := books_of_next h.sound hnext
  generalize (⟨s, use, s'⟩ : SharedTransition K V) = t at hbooks
  refine ⟨hbooks.sound, hbooks.capacity.trans h.capacity, ?_, ?_, ?_, ?_⟩
  · rw [hbooks.lookups, h.lookups, countP_concat]
  · rw [hbooks.hits, h.hits, countP_concat]
  · rw [hbooks.insertions, h.puts, countP_concat]
  · have hbefore := h.entries
    have hstep := hbooks.entries
    simp only [countP_concat, List.map_append, List.sum_append, List.map_singleton, List.sum_singleton]
    omega

/-- **Every entry is accounted for.** Let a store be new, bounded or not, and let anybody use it, in
whatever order, by whatever clocks, with look-ups that others come between. Then it never holds more than
it may, its hits and misses are the look-ups and its hits those that found something, and what was put into
it is there, was overwritten, has expired, was evicted, was taken out or was cleared. -/
theorem entries_accounted {steps : List (SharedTransition K V)} {last : Store K V}
    (past : History SharedNext (TimedStore.empty capacity).store steps last) :
    (∀ n, capacity = some n → last.size ≤ max n 1) ∧
      last.hits + last.misses = steps.countP (·.looksUp) ∧ last.hits = steps.countP (·.finds) ∧
      last.insertions = steps.countP (·.puts) ∧
      last.insertions = last.size + steps.countP (·.overwrites) + last.expirations + last.evictions +
        steps.countP (·.takesOut) + (steps.map (·.cleared)).sum := by
  have haccounted : Accounted capacity steps last :=
    past.invariantWith (P := Accounted capacity) (.empty capacity) fun _ _ _ _ _ h hnext => h.next hnext
  refine ⟨?_, haccounted.lookups, haccounted.hits, haccounted.puts, ?_⟩
  · rintro n rfl
    exact (haccounted.sound.fits _ haccounted.capacity).2
  · have hentries := haccounted.entries
    rw [haccounted.puts]
    omega

/-- Take a step if it hands out what it should. -/
def turnShared? (s : Store Nat Nat) : SharedUse Nat Nat → Option (Store Nat Nat)
  | .whole use =>
    let (s', answer) := s.serve use.now use.request
    if answer = use.answer then some s' else none
  | .look key now answer =>
    let (s', found) := s.look key now
    if found = answer then some s' else none
  | .sweep key now => some (s.sweep key now)

theorem next_of_turnShared {s s' : Store Nat Nat} {use : SharedUse Nat Nat} (h : turnShared? s use = some s') :
    SharedNext s use s' := by
  refine ⟨s.entries, .refl _, ?_⟩
  cases use with
  | whole use =>
    obtain ⟨hanswer, hs'⟩ := Option.ite_none_right_eq_some.mp h
    exact Prod.ext (Option.some.inj hs') hanswer
  | look key now answer =>
    obtain ⟨hfound, hs'⟩ := Option.ite_none_right_eq_some.mp h
    exact Prod.ext (Option.some.inj hs') hfound
  | sweep key now => exact Option.some.inj h

/-- An entry leaves in every way: the first has expired when it is looked up, and is purged before that look-up
comes back to drop it. -/
def allWaysOut : List (SharedUse Nat Nat) :=
  [.whole ⟨.put 1 10 ⟨5⟩, ⟨0⟩, none⟩, .whole ⟨.put 2 20 ⟨50⟩, ⟨0⟩, none⟩, .look 1 ⟨6⟩ none,
    .whole ⟨.purge, ⟨6⟩, none⟩, .sweep 1 ⟨6⟩, .whole ⟨.put 3 30 ⟨50⟩, ⟨7⟩, none⟩,
    .whole ⟨.get 2, ⟨8⟩, some 20⟩, .whole ⟨.put 4 40 ⟨50⟩, ⟨9⟩, none⟩, .whole ⟨.put 2 21 ⟨50⟩, ⟨10⟩, none⟩,
    .whole ⟨.remove 4, ⟨11⟩, some 40⟩, .whole ⟨.clear, ⟨12⟩, none⟩, .whole ⟨.put 5 50 ⟨50⟩, ⟨13⟩, none⟩]

theorem entries_accounted_of_two : ∃ (steps : List (SharedTransition Nat Nat)) (last : Store Nat Nat),
    History SharedNext (TimedStore.empty (some 2)).store steps last ∧ last.size = 1 ∧ last.expirations = 1 ∧
      last.evictions = 1 ∧ last.hits = 1 ∧ last.misses = 1 ∧ steps.countP (·.overwrites) = 1 ∧
      steps.countP (·.takesOut) = 1 ∧ (steps.map (·.cleared)).sum = 1 ∧
      last.insertions = 1 + 1 + 1 + 1 + 1 + 1 := by
  have hplay : ((playFrom turnShared? (TimedStore.empty (some 2)).store allWaysOut).any fun r =>
      r.2.size = 1 ∧ r.2.expirations = 1 ∧ r.2.evictions = 1 ∧ r.2.hits = 1 ∧ r.2.misses = 1 ∧
        r.1.countP SharedTransition.overwrites = 1 ∧ r.1.countP SharedTransition.takesOut = 1 ∧
        (r.1.map SharedTransition.cleared).sum = 1) = true := by
    decide +kernel
  obtain ⟨steps, last, past, hcounts⟩ := History.exists_of_any hplay
  obtain ⟨hsize, hexpired, hevicted, hhits, hmisses, hover, htaken, hcleared⟩ := of_decide_eq_true hcounts
  have past : History SharedNext (TimedStore.empty (some 2)).store steps last :=
    past.mono fun _ _ _ => next_of_turnShared
  obtain ⟨-, -, -, -, hentries⟩ := entries_accounted past
  rw [hsize, hexpired, hevicted, hover, htaken, hcleared] at hentries
  exact ⟨steps, last, past, hsize, hexpired, hevicted, hhits, hmisses, hover, htaken, hcleared, hentries⟩

end Store

end HttpBench
