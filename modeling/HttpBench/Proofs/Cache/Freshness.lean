import HttpBench.Proofs.Cache.Accounts
import HttpBench.Proofs.Cache.Recency

/-!
# How old a value is that is handed out

What a store hands out for a key is what was put for it last: nobody has put another value since, taken
it out or cleared the store (`TimedStore.handed_out`). A look-up sees to it that the value has not expired. A
removal does not: it hands out what is there, and what has expired is there until the store comes across
it, when its key is looked up, in a purge, or when a new key needs room. So what is taken out was live
whenever the store came across it, and has any age by now (`TimedStore.removed_when_expired`).
-/

namespace HttpBench

variable {K V : Type}

/-- **A request takes away what a key has.** -/
def StoreRequest.displaces (key : K) : StoreRequest K V → Prop
  | .put key' .. | .remove key' => key' = key
  | .clear => True
  | .get _ | .purge => False

namespace Store

variable [DecidableEq K] {s : Store K V} {now : Instant} {key : K} {value : V} {x : K × Stored V}

/-- **A store comes across what a key has** when it serves a request, and drops it if it has expired. -/
def comesAcross (s : Store K V) (key : K) : StoreRequest K V → Prop
  | .get key' => key' = key
  | .put key' .. => s.lacksRoom key' = true
  | .purge => True
  | .remove _ | .clear => False

omit [DecidableEq K] in
theorem live_of_unexpired (h : x.2.isExpired now = false) : x.2.kept.isLive now = true := by
  rw [Stored.isLive_kept, h]
  rfl

omit [DecidableEq K] in
/-- A purge leaves what is live. -/
theorem live_of_purge (h : x ∈ (s.purge now).1.entries) : x.2.kept.isLive now = true :=
  live_of_unexpired (by simpa using (List.mem_filter.mp h).2)

/-- Where there had to be made room, all that is left is live. -/
theorem live_of_room (hlacks : s.lacksRoom key = true) (h : x ∈ (s.room key now).entries) :
    x.2.kept.isLive now = true := by
  rcases s.makeRoom_cases now with ⟨_, _, _, hmake⟩ | ⟨hlive, _⟩
  · rw [room, if_pos hlacks, hmake] at h
    exact live_of_purge h
  · exact live_of_unexpired (hlive x (mem_of_room h))

/-- A look-up of a key leaves what is live of it. -/
theorem live_of_get_self (hkeys : (s.entries.map Prod.fst).Nodup) (h : x ∈ (s.get x.1 now).1.entries) :
    x.2.kept.isLive now = true := by
  cases hfind : s.find? x.1 with
  | none =>
    rw [get_of_none hfind] at h
    have hfound := (isSome_find? s x.1).mpr (List.mem_map_of_mem h)
    rw [hfind] at hfound
    cases hfound
  | some e =>
    cases hexpired : e.isExpired now with
    | true =>
      rw [get_of_expired hfind hexpired] at h
      exact absurd (List.mem_filter.mp h).2 (by simp)
    | false =>
      obtain ⟨entries, hperm, hget⟩ := get_of_live hkeys hfind hexpired
      rw [hget] at h
      rcases List.mem_append.mp (hperm.mem_iff.mp h) with hother | hself
      · exact absurd (List.mem_filter.mp hother).2 (by simp)
      · rw [List.mem_singleton.mp hself]
        exact live_of_unexpired hexpired

/-- **What is there after a request** has just been put, or was there before: nothing took it away, and it is
live if the store came across it. -/
theorem kept_of_serve {request : StoreRequest K V} (hkeys : (s.entries.map Prod.fst).Nodup)
    (h : x ∈ (s.serve now request).1.entries) :
    (request = .put x.1 x.2.kept.value x.2.kept.ttl ∧ now = x.2.kept.storedAt) ∨
      (∃ y ∈ s.entries, y.1 = x.1 ∧ y.2.kept = x.2.kept) ∧ ¬request.displaces x.1 ∧
        (s.comesAcross x.1 request → x.2.kept.isLive now = true) := by
  cases request with
  | get key =>
    refine .inr ⟨kept_of_get h, id, ?_⟩
    rintro rfl
    exact live_of_get_self hkeys h
  | remove key =>
    obtain ⟨hmem, hother⟩ := List.mem_filter.mp h
    exact .inr ⟨⟨x, hmem, rfl, rfl⟩, fun hkey => absurd hkey.symm (by simpa using hother), False.elim⟩
  | purge => exact .inr ⟨⟨x, mem_of_purge h, rfl, rfl⟩, id, fun _ => live_of_purge h⟩
  | clear => cases h
  | put key value ttl =>
    have hput : x ∈ (s.put key value ttl now).entries := h
    rw [put_eq] at hput
    rcases List.mem_append.mp hput with hold | hnew
    · obtain ⟨hroom, hother⟩ := List.mem_filter.mp hold
      refine .inr ⟨⟨x, mem_of_room hroom, rfl, rfl⟩, fun hkey => absurd hkey.symm (by simpa using hother), ?_⟩
      exact fun hlacks => live_of_room hlacks hroom
    · obtain rfl := List.mem_singleton.mp hnew
      exact .inl ⟨rfl, rfl⟩

/-- **What is handed out** was there, and a look-up hands out nothing that has expired. -/
theorem kept_of_answer {request : StoreRequest K V} (h : (s.serve now request).2 = some value) :
    ∃ y ∈ s.entries, y.2.kept.value = value ∧
      (request = .get y.1 ∧ y.2.kept.isLive now = true ∨ request = .remove y.1) := by
  cases request with
  | put | purge | clear => cases h
  | get key =>
    obtain ⟨y, hy, rfl, hvalue, hlive⟩ := live_of_get h
    exact ⟨y, hy, hvalue, .inl ⟨rfl, hlive⟩⟩
  | remove key =>
    have hfound : (s.find? key).map (·.value) = some value := h
    obtain ⟨e, he, rfl⟩ := Option.map_eq_some_iff.mp hfound
    obtain ⟨y, hy, rfl⟩ := Option.map_eq_some_iff.mp he
    obtain rfl : y.1 = key := by simpa using List.find?_some hy
    exact ⟨y, List.mem_of_find?_eq_some hy, rfl, .inr rfl⟩

/-- The same requests lack room, however the entries lie. -/
theorem comesAcross_relaid {entries : List (K × Stored V)} (h : Relaid entries s.entries) (request : StoreRequest K V) :
    comesAcross { s with entries } key request ↔ s.comesAcross key request := by
  cases request with
  | get | remove | purge | clear => exact Iff.rfl
  | put key' =>
    have hfound := h.isSome_find? key'
    rw [← Bool.not_inj_iff, Option.not_isSome, Option.not_isSome] at hfound
    have hlacks : ({ s with entries } : Store K V).lacksRoom key' = s.lacksRoom key' := by
      simp only [lacksRoom, hfound, size, h.length_eq]
      rfl
    exact Iff.of_eq (congrArg (· = true) hlacks)

end Store

namespace TimedStore

variable [DecidableEq K] {capacity : Option Nat} {steps : List (Transition (TimedStore K V) (StoreUse K V))}
  {s s' last : TimedStore K V} {use : StoreUse K V} {key : K} {k : Kept V}

/-- **What was put for a key last**: nothing has taken it away since, and it was live whenever the store came
across it. -/
def LastPut (steps : List (Transition (TimedStore K V) (StoreUse K V))) (key : K) (k : Kept V) : Prop :=
  ∃ past put since, steps = past ++ put :: since ∧
    put.label.request = .put key k.value k.ttl ∧ put.label.now = k.storedAt ∧
    ∀ t ∈ since, ¬t.label.request.displaces key ∧
      (t.before.store.comesAcross key t.label.request → k.isLive t.label.now = true)

theorem LastPut.of_put (hrequest : use.request = .put key k.value k.ttl) (hnow : use.now = k.storedAt) :
    LastPut (steps ++ [⟨s, use, s'⟩]) key k :=
  ⟨steps, _, [], rfl, hrequest, hnow, fun _ ht => by cases ht⟩

theorem LastPut.next (h : LastPut steps key k) (hstays : ¬use.request.displaces key)
    (hlive : s.store.comesAcross key use.request → k.isLive use.now = true) :
    LastPut (steps ++ [⟨s, use, s'⟩]) key k := by
  obtain ⟨past, put, since, rfl, hrequest, hnow, hsince⟩ := h
  refine ⟨past, put, since ++ [⟨s, use, s'⟩], by rw [List.append_assoc, List.cons_append], hrequest, hnow, ?_⟩
  intro t ht
  rcases List.mem_append.mp ht with ht | ht
  · exact hsince t ht
  · rw [List.mem_singleton.mp ht]
    exact ⟨hstays, hlive⟩

/-- Keys stay distinct. -/
theorem sound_of_history (h : History Next (empty capacity) steps last) : last.store.Sound := by
  refine h.invariant (P := fun s : TimedStore K V => s.store.Sound) (Store.Accounted.empty capacity).sound ?_
  intro s use s' hs hnext
  obtain ⟨-, -, entries, hperm, hserve⟩ := hnext
  have hshared : Store.SharedNext s.store (.whole use) s'.store := ⟨entries, hperm.map _, hserve⟩
  exact (Store.books_of_next hs hshared).sound

/-- **Whatever a store holds was put last**, and not in the future. -/
theorem lastPut_of_mem (h : History Next (empty capacity) steps last) :
    ∀ x ∈ last.store.entries, LastPut steps x.1 x.2.kept ∧ x.2.kept.storedAt.nanos ≤ last.now.nanos := by
  refine h.invariantWith (P := fun steps s => ∀ x ∈ s.store.entries,
    LastPut steps x.1 x.2.kept ∧ x.2.kept.storedAt.nanos ≤ s.now.nanos) ?_ ?_
  · intro x hx
    cases capacity <;> cases hx
  · intro steps s use s' past ih hnext x hx
    obtain ⟨hle, hnow, entries, hperm, hserve⟩ := hnext
    have hkeys : (entries.map Prod.fst).Nodup := (hperm.map _).nodup_iff.mpr (sound_of_history past).keys
    have hstore : s'.store = (({ s.store with entries } : Store K V).serve use.now use.request).1 :=
      (congrArg Prod.fst hserve).symm
    rw [hstore] at hx
    rw [hnow]
    rcases Store.kept_of_serve hkeys hx with ⟨hrequest, hstored⟩ | ⟨⟨y, hy, hkey, hkept⟩, hstays, hlive⟩
    · exact ⟨.of_put hrequest hstored, Nat.le_of_eq (congrArg Instant.nanos hstored.symm)⟩
    · obtain ⟨hput, hstored⟩ := ih y (hperm.mem_iff.mp hy)
      rw [hkey, hkept] at hput
      rw [hkept] at hstored
      rw [Store.comesAcross_relaid (hperm.map _)] at hlive
      exact ⟨hput.next hstays hlive, Nat.le_trans hstored hle⟩

/-- **What a store hands out** is the value that was put last for the key. To a look-up it is younger than
its time to live; to a removal it has any age, but was live whenever the store came across it. -/
theorem handed_out (h : History Next (empty capacity) steps last) :
    ∀ past t rest, steps = past ++ t :: rest → ∀ value, t.label.answer = some value →
      ∃ key k, k.value = value ∧ LastPut past key k ∧ k.storedAt.nanos ≤ t.label.now.nanos ∧
        (t.label.request = .get key ∧ t.label.now.nanos - k.storedAt.nanos < k.ttl.nanos ∨
          t.label.request = .remove key) := by
  intro past t rest hsteps value hvalue
  subst hsteps
  obtain ⟨hpast, ⟨hle, -, entries, hperm, hserve⟩, -⟩ := h.cut
  have hanswer : (({ t.before.store with entries } : Store K V).serve t.label.now t.label.request).2 = some value :=
    (congrArg Prod.snd hserve).trans hvalue
  obtain ⟨y, hy, hkept, hasked⟩ := Store.kept_of_answer hanswer
  obtain ⟨hput, hstored⟩ := lastPut_of_mem hpast y (hperm.mem_iff.mp hy)
  exact ⟨y.1, y.2.kept, hkept, hput, Nat.le_trans hstored hle, hasked.imp_left fun ⟨hget, hlive⟩ =>
    ⟨hget, Kept.isLive_iff.mp hlive⟩⟩

/-- A value is put, got while it is live, and taken out when it is not. -/
def outlived : List (StoreUse Nat Nat) :=
  [⟨.put 1 10 ⟨5⟩, ⟨0⟩, none⟩, ⟨.get 1, ⟨4⟩, some 10⟩, ⟨.remove 1, ⟨9⟩, some 10⟩]

theorem exists_outlived : ∃ put got out last, History Next (empty (some 2)) [put, got, out] last ∧
    [put, got, out].map (·.label) = outlived := by
  have hplay : (playFrom turn? (empty (some 2)) outlived).isSome = true := by decide +kernel
  obtain ⟨⟨steps, last⟩, hplayed⟩ := Option.isSome_iff_exists.mp hplay
  have hlabels : steps.map (·.label) = outlived := map_label_of_playFrom hplayed
  have past : History Next (empty (some 2)) steps last := (History.of_playFrom hplayed).mono fun _ _ _ => next_of_turn
  obtain ⟨put, got, out, rfl⟩ : ∃ put got out, steps = [put, got, out] :=
    List.length_eq_three.mp (by rw [← List.length_map (·.label), hlabels]; rfl)
  exact ⟨put, got, out, last, past, hlabels⟩

theorem handed_out_of_outlived : ∃ put got out last, History Next (empty (some 2)) [put, got, out] last ∧
    got.label = ⟨.get 1, ⟨4⟩, some 10⟩ ∧ out.label = ⟨.remove 1, ⟨9⟩, some 10⟩ ∧
    (∃ k, k.value = 10 ∧ LastPut [put] 1 k ∧ 4 - k.storedAt.nanos < k.ttl.nanos) ∧
    ∃ k, k.value = 10 ∧ LastPut [put, got] 1 k := by
  obtain ⟨put, got, out, last, past, hlabels⟩ := exists_outlived
  obtain ⟨-, hgot, hout⟩ : put.label = _ ∧ got.label = _ ∧ out.label = _ := by simpa [outlived] using hlabels
  refine ⟨put, got, out, last, past, hgot, hout, ?_, ?_⟩
  · obtain ⟨key, k, hvalue, hput, -, hasked⟩ := handed_out past [put] got [out] rfl 10 (by rw [hgot])
    rw [hgot] at hasked
    rcases hasked with ⟨hkey, hlive⟩ | hkey
    · obtain rfl := StoreRequest.get.inj hkey
      exact ⟨k, hvalue, hput, hlive⟩
    · cases hkey
  · obtain ⟨key, k, hvalue, hput, -, hasked⟩ := handed_out past [put, got] out [] rfl 10 (by rw [hout])
    rw [hout] at hasked
    rcases hasked with ⟨hkey, -⟩ | hkey
    · cases hkey
    · obtain rfl := StoreRequest.remove.inj hkey
      exact ⟨k, hvalue, hput⟩

/-- **A value that has expired may be handed out**: a removal does not ask for its age. -/
theorem removed_when_expired :
    ¬∀ (steps : List (Transition (TimedStore Nat Nat) (StoreUse Nat Nat))) (last : TimedStore Nat Nat),
      History Next (empty (some 2)) steps last →
        ∀ past t rest, steps = past ++ t :: rest → ∀ value, t.label.answer = some value →
          ∃ put ∈ past, ∃ key ttl, put.label.request = .put key value ttl ∧
            t.label.now.nanos - put.label.now.nanos < ttl.nanos := by
  intro hfresh
  obtain ⟨put, got, out, last, past, hlabels⟩ := exists_outlived
  obtain ⟨hput, hgot, hout⟩ : put.label = _ ∧ got.label = _ ∧ out.label = _ := by simpa [outlived] using hlabels
  obtain ⟨t, ht, key, ttl, hrequest, hyoung⟩ := hfresh _ _ past [put, got] out [] rfl 10 (by rw [hout])
  rcases List.mem_pair.mp ht with rfl | rfl
  · rw [hput] at hrequest hyoung
    obtain ⟨rfl, -, rfl⟩ := StoreRequest.put.inj hrequest
    rw [hout] at hyoung
    exact absurd hyoung (by decide)
  · rw [hgot] at hrequest
    cases hrequest

end TimedStore

end HttpBench
