import Mathlib.Algebra.Ring.Nat
import Mathlib.Tactic.SplitIfs
import HttpBench.Timing.Stopwatch

/-!
# Phases one behind the other

The phases that a stopwatch has seen take no longer than the time since it was started, as long as they
are noted in their order: whoever notes the start of a phase has noted the end of none that comes later
(`Stopwatch.Until`), and the end of a phase is noted while it is open (`Stopwatch.Open`). So phases may
be left out, and those that were begun may be begun anew.
-/

namespace HttpBench

/-- The place of a phase in the order in which a request passes through them. -/
def Phase.rank : Phase → Nat
  | .dns => 0
  | .connect => 1
  | .tls => 2
  | .ttfb => 3
  | .transfer => 4

/-- The event that starts a phase. -/
def Phase.starts : Phase → Milestone
  | .dns => .dnsStart
  | .connect => .connectStart
  | .tls => .tlsStart
  | .ttfb => .requestSent
  | .transfer => .firstByte

/-- The event that ends a phase. -/
def Phase.stops : Phase → Milestone
  | .dns => .dnsEnd
  | .connect => .connectEnd
  | .tls => .tlsEnd
  | .ttfb => .firstByte
  | .transfer => .complete

namespace PhaseTimes

variable {times : PhaseTimes}

/-- **The observed phases together**, in nanoseconds. -/
def spent (times : PhaseTimes) : Nat := (Phase.all.map fun p => (times.get p).elim 0 Duration.nanos).sum

private theorem foldlM_add? (times : PhaseTimes) (phases : List Phase) (d : Duration)
    (h : d.nanos + (phases.map fun p => (times.get p).elim 0 Duration.nanos).sum ≤ Duration.longest.nanos) :
    (phases.filterMap times.get).foldlM Duration.add? d =
      some ⟨d.nanos + (phases.map fun p => (times.get p).elim 0 Duration.nanos).sum⟩ := by
  induction phases generalizing d with
  | nil => rfl
  | cons p phases ih =>
    cases hp : times.get p with
    | none =>
      simp only [List.map_cons, List.sum_cons, hp, Option.elim_none, Nat.zero_add] at h ⊢
      rw [List.filterMap_cons_none hp]
      exact ih d h
    | some e =>
      simp only [List.map_cons, List.sum_cons, hp, Option.elim_some] at h ⊢
      have hadd : d.add? e = some ⟨d.nanos + e.nanos⟩ := if_pos (by omega)
      rw [List.filterMap_cons_some hp, List.foldlM_cons, hadd, ← Nat.add_assoc]
      exact ih ⟨d.nanos + e.nanos⟩ (by show d.nanos + e.nanos + _ ≤ _; omega)

/-- **The sum of the phases** is theirs together, as long as that is no longer than a duration can be. -/
theorem sum?_eq (h : times.spent ≤ Duration.longest.nanos) : times.sum? = some ⟨times.spent⟩ := by
  have hsum := foldlM_add? times Phase.all .zero (by rw [Duration.zero, Nat.zero_add]; exact h)
  rw [Duration.zero, Nat.zero_add] at hsum
  exact hsum

/-- What one more phase adds. -/
theorem spent_eq_add {times' : PhaseTimes} {p : Phase} {d : Duration} (hnew : times'.get p = some d)
    (hold : times.get p = .none) (hothers : ∀ q, q ≠ p → times'.get q = times.get q) :
    times'.spent = times.spent + d.nanos := by
  have hadd : ∀ q, (times'.get q).elim 0 Duration.nanos =
      (times.get q).elim 0 Duration.nanos + if q = p then d.nanos else 0 := by
    intro q
    split_ifs with hq
    · rw [hq, hnew, hold, Option.elim_some, Option.elim_none, Nat.zero_add]
    · rw [hothers q hq, Nat.add_zero]
  unfold spent
  simp only [hadd, Phase.all, List.map_cons, List.map_nil, List.sum_cons, List.sum_nil]
  cases p <;> simp <;> omega

end PhaseTimes

namespace Stopwatch

variable {w : Stopwatch} {p : Phase} {k : Nat} {now now' : Instant}

/-- When a phase was last seen to start. -/
def startOf (w : Stopwatch) : Phase → Option Instant
  | .dns => w.dnsStart
  | .connect => w.connectStart
  | .tls => w.tlsStart
  | .ttfb => w.requestSent
  | .transfer => w.firstByte

/-- When a phase was last seen to end. -/
def stopOf (w : Stopwatch) : Phase → Option Instant
  | .dns => w.dnsEnd
  | .connect => w.connectEnd
  | .tls => w.tlsEnd
  | .ttfb => w.firstByte
  | .transfer => w.completed

theorem get_phases (w : Stopwatch) (p : Phase) : w.phases.get p = span (w.startOf p) (w.stopOf p) := by
  cases p <;> rfl

/-- **No phase from here on has ended**, and those before took place since the start. -/
structure Until (w : Stopwatch) (k : Nat) (now : Instant) : Prop where
  within : w.started.nanos + w.phases.spent ≤ now.nanos
  ahead : ∀ p : Phase, k ≤ p.rank → w.stopOf p = none

/-- **A phase is open**: it has begun when those before were over, and has not ended. -/
structure Open (w : Stopwatch) (p : Phase) (now : Instant) : Prop where
  since : ∃ m, w.startOf p = some m ∧ w.started.nanos + w.phases.spent ≤ m.nanos ∧ m.nanos ≤ now.nanos
  ahead : ∀ q : Phase, p.rank ≤ q.rank → w.stopOf q = none

theorem Until.later (h : w.Until k now) (hnow : now.nanos ≤ now'.nanos) : w.Until k now' :=
  ⟨Nat.le_trans h.within hnow, h.ahead⟩

theorem Until.mono {k' : Nat} (h : w.Until k now) (hk : k ≤ k') : w.Until k' now :=
  ⟨h.within, fun p hp => h.ahead p (Nat.le_trans hk hp)⟩

theorem Until.noteReused {reused : Bool} (h : w.Until k now) : (w.noteReused reused).Until k now := ⟨h.within, h.ahead⟩

theorem Open.later (h : w.Open p now) (hnow : now.nanos ≤ now'.nanos) : w.Open p now' := by
  obtain ⟨⟨m, hm, hwithin, hle⟩, hahead⟩ := h
  exact ⟨⟨m, hm, hwithin, Nat.le_trans hle hnow⟩, hahead⟩

theorem Open.until (h : w.Open p now) : w.Until p.rank now := by
  obtain ⟨⟨m, _, hwithin, hle⟩, hahead⟩ := h
  exact ⟨Nat.le_trans hwithin hle, hahead⟩

/-- **A stopwatch that starts** has seen nothing. -/
theorem until_start (now : Instant) : (start now).Until 0 now :=
  ⟨Nat.le_refl _, fun p _ => by cases p <;> rfl⟩

/-- A phase that has not ended has no time. -/
theorem Until.get_eq_none (h : w.Until k now) (hp : k ≤ p.rank) : w.phases.get p = none := by
  rw [get_phases, h.ahead p hp]
  cases w.startOf p <;> rfl

/-- **A phase may begin**, or begin anew, while nothing from it on has ended. -/
theorem Until.begin (h : w.Until p.rank now) (hp : p ≠ .transfer) : (w.note p.starts now).Open p now := by
  have hstops : ∀ q, (w.note p.starts now).stopOf q = w.stopOf q := by
    intro q
    cases p <;> first | exact absurd rfl hp | cases q <;> rfl
  have hphases : (w.note p.starts now).phases.get = w.phases.get := by
    funext q
    rw [get_phases, get_phases, hstops]
    by_cases hq : q = p
    · subst hq
      rw [h.ahead q (Nat.le_refl _)]
      cases w.startOf q <;> cases (w.note q.starts now).startOf q <;> rfl
    · cases p <;> cases q <;> first | exact absurd rfl hq | exact absurd rfl hp | rfl
  have hspent : (w.note p.starts now).phases.spent = w.phases.spent := by
    unfold PhaseTimes.spent
    rw [hphases]
  have hstarted : (w.note p.starts now).started = w.started := by cases p <;> rfl
  refine ⟨⟨now, by cases p <;> rfl, ?_, Nat.le_refl _⟩, fun q hq => by rw [hstops, h.ahead q hq]⟩
  rw [hstarted, hspent]
  exact h.within

/-- **A phase that is open may end.** -/
theorem Open.end (h : w.Open p now) : (w.note p.stops now).Until (p.rank + 1) now := by
  obtain ⟨⟨m, hm, hwithin, hle⟩, hahead⟩ := h
  have hstarted : (w.note p.stops now).started = w.started := by cases p <;> rfl
  have hstops : ∀ q, q ≠ p → (w.note p.stops now).stopOf q = w.stopOf q := by
    intro q hq
    cases p <;> cases q <;> first | exact absurd rfl hq | rfl
  have hothers : ∀ q, q ≠ p → (w.note p.stops now).phases.get q = w.phases.get q := by
    intro q hq
    by_cases hlater : p.rank ≤ q.rank
    · -- the first byte also starts the transfer, which has not ended
      rw [get_phases, get_phases, hstops q hq, hahead q hlater]
      cases w.startOf q <;> cases (w.note p.stops now).startOf q <;> rfl
    · cases p <;> cases q <;> first | exact absurd (by decide) hlater | rfl
  have hnew : (w.note p.stops now).phases.get p = some (now.since m) := by
    have hspan : (w.note p.stops now).phases.get p = span (w.startOf p) (some now) := by cases p <;> rfl
    rw [hspan, hm]
    rfl
  have hold : w.phases.get p = none := by
    rw [get_phases, hahead p (Nat.le_refl _), hm]
    rfl
  have hspent := PhaseTimes.spent_eq_add hnew hold hothers
  constructor
  · rw [hstarted, hspent]
    show w.started.nanos + (w.phases.spent + (now.nanos - m.nanos)) ≤ now.nanos
    omega
  · intro q hq
    rw [hstops q (by rintro rfl; omega), hahead q (by omega)]

/-- The total is no shorter than the phases that were seen. -/
theorem Until.spent_le (h : w.Until k now) (hk : k ≤ Phase.transfer.rank) : w.phases.spent ≤ (w.total now).nanos := by
  have hopen : w.completed = none := h.ahead .transfer hk
  have hwithin := h.within
  rw [total, hopen]
  show w.phases.spent ≤ now.nanos - w.started.nanos
  omega

end Stopwatch

end HttpBench
