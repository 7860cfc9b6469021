import Mathlib.Algebra.GroupWithZero.Nat
import Mathlib.Data.List.Flatten
import Mathlib.Data.List.Perm.Subperm
import HttpBench.Proofs.Run.Seats

/-!
# Every number is accounted for

The numbers that a run hands out are counted against the shares of its workers and against the
samples. In every state (`Accounts`):

* what has been handed out and what is left of the shares make up the total;
* no number is with two workers, or twice with one, and all of them have been handed out;
* a worker that is done has lost the number of one request at most, and none in a run that is
  neither cancelled nor hit by a crash, where it has used up its share too.

Nothing here depends on the order of the workers, so every step is proved as a change of the first
of them (`Accounts.change`).
-/

namespace HttpBench

namespace WorkerStage

/-- The number of the request that a worker is inside. -/
def numbers : WorkerStage → List Nat
  | .entered n | .calling n => [n]
  | _ => []

end WorkerStage

/-- **The numbers that a worker has**: those of its samples, and that of its request. -/
def Worker.numbers (w : Worker) : List Nat := w.samples.map (·.sequence) ++ w.stage.numbers

namespace Worker

/-- Between two requests a worker has the numbers of its samples. -/
theorem numbers_of_idle (w : Worker) (h : w.stage = .idle) : w.numbers = w.samples.map (·.sequence) := by
  simp [numbers, WorkerStage.numbers, h]

theorem isDone_of_idle {w : Worker} (h : w.stage = .idle) : w.isDone = false := by
  simp [isDone, h]

theorem isDone_of_isInFlight {w : Worker} (h : w.isInFlight = true) : w.isDone = false := by
  cases hs : w.stage <;> simp [isInFlight, isDone, hs] at h ⊢

/-- So it does when it is done. -/
theorem numbers_of_isDone (w : Worker) (h : w.isDone = true) : w.numbers = w.samples.map (·.sequence) := by
  cases hs : w.stage <;> simp [isDone, hs, numbers, WorkerStage.numbers] at h ⊢

/-- A worker that is changed counts as it did before, but for itself. -/
theorem countP_set {workers : List Worker} {w : Nat} {worker : Worker} (p : Worker → Bool) (worker' : Worker)
    (hw : workers[w]? = some worker) :
    (workers.set w worker').countP p + (p worker).toNat = workers.countP p + (p worker').toNat := by
  obtain ⟨hlt, rfl⟩ := List.getElem?_eq_some_iff.mp hw
  have hold := (List.getElem_cons_eraseIdx_perm hlt).countP_eq p
  have hnew := (List.set_perm_cons_eraseIdx hlt worker').countP_eq p
  rw [hnew, ← hold, List.countP_cons, List.countP_cons]
  cases p workers[w] <;> cases p worker' <;> simp

end Worker

/-- **The accounts of a run** that is to make `total` requests and hands out `next` next. -/
structure Accounts (total next : Nat) (cancelled : Bool) (workers : List Worker) : Prop where
  /-- what has been handed out and what is left make up the total -/
  handed : next + (workers.map (·.remaining)).sum = total
  /-- nobody has the number of somebody else -/
  distinct : (workers.flatMap Worker.numbers).Nodup
  /-- whatever anybody has was handed out -/
  below : ∀ n ∈ workers.flatMap Worker.numbers, n < next
  /-- who is done has lost one number at most -/
  few : next ≤ (workers.flatMap Worker.numbers).length + workers.countP Worker.isDone
  /-- nothing is lost but by a cancellation or a crash -/
  full : cancelled = false → (∀ w ∈ workers, w.stage ≠ .crashed) → next ≤ (workers.flatMap Worker.numbers).length
  /-- nobody stops early but by a cancellation -/
  spent : cancelled = false → ∀ w ∈ workers, w.stage = .finished → w.remaining = 0

namespace Accounts
variable {total next next' w n : Nat} {cancelled cancelled' : Bool} {workers rest : List Worker}
  {worker worker' : Worker}

/-- The order of the workers does not matter. -/
theorem perm {workers' : List Worker} (h : Accounts total next cancelled workers) (hp : workers.Perm workers') :
    Accounts total next cancelled workers' := by
  have hnumbers := hp.flatMap_right Worker.numbers
  constructor
  case handed =>
    rw [← (hp.map _).sum_nat]
    exact h.handed
  case distinct => exact hnumbers.nodup_iff.mp h.distinct
  case below => exact fun n hn => h.below n (hnumbers.mem_iff.mpr hn)
  case few =>
    rw [← hnumbers.length_eq, ← hp.countP_eq]
    exact h.few
  case full =>
    intro hc hcrashed
    rw [← hnumbers.length_eq]
    exact h.full hc fun w hw => hcrashed w (hp.mem_iff.mp hw)
  case spent => exact fun hc w hw => h.spent hc w (hp.mem_iff.mpr hw)

/-- **One worker at a time**: a change of a worker may be made at the head of the list. -/
theorem change (h : Accounts total next cancelled workers) (hw : workers[w]? = some worker)
    (hhead : ∀ rest, Accounts total next cancelled (worker :: rest) →
      Accounts total next' cancelled' (worker' :: rest)) :
    Accounts total next' cancelled' (workers.set w worker') := by
  obtain ⟨hlt, rfl⟩ := List.getElem?_eq_some_iff.mp hw
  have hfront := h.perm (List.getElem_cons_eraseIdx_perm hlt).symm
  exact (hhead _ hfront).perm (List.set_perm_cons_eraseIdx hlt worker').symm

/-- A worker that goes on and keeps its numbers keeps the accounts. -/
theorem goOn (hremaining : worker'.remaining = worker.remaining) (hnumbers : worker'.numbers = worker.numbers)
    (hopen : worker.isDone = false) (hopen' : worker'.isDone = false)
    (h : Accounts total next cancelled (worker :: rest)) : Accounts total next cancelled (worker' :: rest) := by
  have hstage : worker.stage ≠ .crashed := fun hs => by simp [Worker.isDone, hs] at hopen
  have hstage' : worker'.stage ≠ .finished := fun hs => by simp [Worker.isDone, hs] at hopen'
  obtain ⟨handed, distinct, below, few, full, spent⟩ := h
  rw [List.flatMap_cons, ← hnumbers, ← List.flatMap_cons] at distinct below few full
  refine ⟨?_, distinct, below, ?_, ?_, ?_⟩
  · rw [List.map_cons, hremaining]
    exact handed
  · rw [List.countP_cons_of_neg (by simp [hopen])] at few
    rw [List.countP_cons_of_neg (by simp [hopen'])]
    exact few
  · intro hc hcrashed
    refine full hc ?_
    intro v hv
    rcases List.mem_cons.mp hv with rfl | hv
    · exact hstage
    · exact hcrashed v (List.mem_cons_of_mem _ hv)
  · intro hc v hv hfinished
    rcases List.mem_cons.mp hv with rfl | hv
    · exact absurd hfinished hstage'
    · exact spent hc v (List.mem_cons_of_mem _ hv) hfinished

/-- A worker that takes a number has it from then on. -/
theorem take (hleft : 0 < worker.remaining) (hidle : worker.stage = .idle)
    (h : Accounts total next cancelled (worker :: rest)) :
    Accounts total (next + 1) cancelled
      ({ worker with remaining := worker.remaining - 1, stage := .entered next, looked := false } :: rest) := by
  have hnumbers := worker.numbers_of_idle hidle
  obtain ⟨handed, distinct, below, few, full, spent⟩ := h
  -- the new number joins the others, of which it is none
  have hperm : ((({ worker with remaining := worker.remaining - 1, stage := .entered next, looked := false } : Worker)
      :: rest).flatMap Worker.numbers).Perm (next :: (worker :: rest).flatMap Worker.numbers) := by
    rw [List.flatMap_cons, List.flatMap_cons, hnumbers]
    show ((_ ++ [next]) ++ _).Perm _
    rw [List.append_assoc]
    exact List.perm_middle
  constructor
  case handed =>
    rw [List.map_cons, List.sum_cons] at handed ⊢
    simp only
    omega
  case distinct =>
    have hfresh : next ∉ (worker :: rest).flatMap Worker.numbers := fun hn => Nat.lt_irrefl _ (below _ hn)
    exact hperm.nodup_iff.mpr (List.nodup_cons.mpr ⟨hfresh, distinct⟩)
  case below =>
    intro m hm
    rcases List.mem_cons.mp (hperm.mem_iff.mp hm) with rfl | hm
    · exact Nat.lt_succ_self _
    · exact Nat.lt_succ_of_lt (below m hm)
  case few =>
    rw [hperm.length_eq, List.length_cons, List.countP_cons_of_neg (by simp [Worker.isDone])]
    rw [List.countP_cons_of_neg (by simp [Worker.isDone, hidle])] at few
    omega
  case full =>
    intro hc hcrashed
    rw [hperm.length_eq, List.length_cons]
    apply Nat.succ_le_succ
    apply full hc
    intro v hv
    rcases List.mem_cons.mp hv with rfl | hv
    · simp [hidle]
    · exact hcrashed v (List.mem_cons_of_mem _ hv)
  case spent =>
    intro hc v hv hfinished
    rcases List.mem_cons.mp hv with rfl | hv
    · cases hfinished
    · exact spent hc v (List.mem_cons_of_mem _ hv) hfinished

/-- A worker that is done keeps the numbers of its samples. It loses the number that it was
inside, if the run is cancelled or it crashes. -/
theorem retire (hsamples : worker'.samples = worker.samples) (hremaining : worker'.remaining = worker.remaining)
    (hopen : worker.isDone = false) (hdone : worker'.isDone = true)
    (hwhole : cancelled = false → worker'.stage = .finished → worker.stage = .idle ∧ worker.remaining = 0)
    (h : Accounts total next cancelled (worker :: rest)) : Accounts total next cancelled (worker' :: rest) := by
  have hkept : worker'.numbers = worker.samples.map (·.sequence) := by
    rw [worker'.numbers_of_isDone hdone, hsamples]
  have hsublist : ((worker' :: rest).flatMap Worker.numbers).Sublist ((worker :: rest).flatMap Worker.numbers) := by
    rw [List.flatMap_cons, List.flatMap_cons, hkept]
    exact (List.sublist_append_left _ _).append_right _
  have hone : worker.stage.numbers.length ≤ 1 := by
    cases worker.stage <;> simp [WorkerStage.numbers]
  obtain ⟨handed, distinct, below, few, full, spent⟩ := h
  refine ⟨?_, distinct.sublist hsublist, fun m hm => below m (hsublist.subset hm), ?_, ?_, ?_⟩
  · rw [List.map_cons, hremaining]
    exact handed
  · rw [List.countP_cons_of_neg (by simp [hopen]), List.flatMap_cons, List.length_append, Worker.numbers,
      List.length_append] at few
    rw [List.countP_cons_of_pos hdone, List.flatMap_cons, List.length_append, hkept]
    omega
  · intro hc hcrashed
    have hfinished : worker'.stage = .finished := by
      simpa [Worker.isDone, hcrashed worker' List.mem_cons_self] using hdone
    obtain ⟨hidle, _⟩ := hwhole hc hfinished
    have heq : worker'.numbers = worker.numbers := by
      rw [hkept, worker.numbers_of_idle hidle]
    rw [List.flatMap_cons, heq, ← List.flatMap_cons]
    refine full hc ?_
    intro v hv
    rcases List.mem_cons.mp hv with rfl | hv
    · simp [hidle]
    · exact hcrashed v (List.mem_cons_of_mem _ hv)
  · intro hc v hv hfinished
    rcases List.mem_cons.mp hv with rfl | hv
    · rw [hremaining]
      exact (hwhole hc hfinished).2
    · exact spent hc v (List.mem_cons_of_mem _ hv) hfinished

/-- A cancellation settles no account anew. -/
theorem cancel (h : Accounts total next cancelled workers) : Accounts total next true workers :=
  ⟨h.handed, h.distinct, h.below, h.few, by simp, by simp⟩

end Accounts

/-! ## Shares -/

/-- The first `w` shares together. -/
theorem sum_share (total concurrency w : Nat) :
    ((List.range w).map (RunState.share total concurrency)).sum =
      w * (total / concurrency) + min w (total % concurrency) := by
  induction w with
  | zero => simp
  | succ w ih =>
    rw [List.range_succ, List.map_append, List.sum_append, ih, List.map_singleton, List.sum_singleton,
      RunState.share, Nat.succ_mul]
    split <;> omega

/-- **The shares make up the total.** -/
theorem sum_shares {total concurrency : Nat} (h : 0 < concurrency) :
    ((List.range concurrency).map (RunState.share total concurrency)).sum = total := by
  rw [sum_share, Nat.min_eq_right (Nat.le_of_lt (Nat.mod_lt total h))]
  exact Nat.div_add_mod total concurrency

namespace RunState

variable {s s' : RunState} {total concurrency : Nat} {label : RunLabel}

/-- **Every number is accounted for.** -/
def Accounted (total : Nat) (s : RunState) : Prop := Accounts total s.nextSequence s.cancelled s.workers

namespace Accounted

/-- The accounts of a run that begins. -/
theorem begin {e : Executor} {target : Target} {useCache cancelled : Bool} (h : 0 < concurrency) :
    Accounted total (.begin e target useCache total concurrency cancelled) := by
  have hnone : ((List.range concurrency).map fun w => ({ remaining := share total concurrency w } : Worker)).flatMap
      Worker.numbers = [] := by
    simp [List.flatMap_map, Worker.numbers, WorkerStage.numbers]
  constructor
  case handed =>
    show 0 + (((List.range concurrency).map _).map _).sum = total
    rw [Nat.zero_add, List.map_map]
    exact sum_shares h
  case distinct => exact hnone ▸ List.nodup_nil
  case below => exact hnone ▸ fun n hn => by cases hn
  case few => exact Nat.zero_le _
  case full => exact fun _ _ => Nat.zero_le _
  case spent =>
    intro _ worker hworker hfinished
    obtain ⟨w, _, rfl⟩ := List.mem_map.mp hworker
    cases hfinished

/-- **Every step keeps the accounts.** -/
theorem step (h : s.Accounted total) (hseated : s.Seated) (hstep : s.step label = some s') : s'.Accounted total := by
  cases happens_of_step hstep with
  | look hw hopen =>
    have hdone := hopen.elim (fun hidle => Worker.isDone_of_idle hidle.1) Worker.isDone_of_isInFlight
    exact h.change hw fun _ => .goOn rfl rfl hdone hdone
  | rest hw _ hpending =>
    obtain ⟨call, hcall, _⟩ := Executor.isPending_eq_true.mp hpending
    have hdone := Worker.isDone_of_isInFlight (by rw [Worker.isInFlight, hseated.stage_of_call hw hcall])
    exact h.change hw fun _ => .goOn rfl rfl hdone hdone
  | take hw hidle hleft => exact h.change hw fun _ => .take hleft hidle
  | stop hw hidle _ hcancelled =>
    refine h.change hw fun _ => .retire rfl rfl (Worker.isDone_of_idle hidle) rfl ?_
    intro hc
    rw [hcancelled] at hc
    cases hc
  | finish hw hidle hnone =>
    exact h.change hw fun _ => .retire rfl rfl (Worker.isDone_of_idle hidle) rfl fun _ _ => ⟨hidle, hnone⟩
  | quitEntered hw hstage _ hcancelled =>
    refine h.change hw fun _ => .retire rfl rfl (by simp [Worker.isDone, hstage]) rfl ?_
    intro hc
    rw [hcancelled] at hc
    cases hc
  | start hw hstage =>
    refine h.change hw fun _ => .goOn rfl ?_ (by simp [Worker.isDone, hstage]) rfl
    simp [Worker.numbers, hstage, WorkerStage.numbers]
  | @leave _ worker ending _ hw hending =>
    obtain ⟨call, hcall, _⟩ := Executor.ending?_eq_some.mp hending
    have hstage := hseated.stage_of_call hw hcall
    have hopen : worker.isDone = false := by simp [Worker.isDone, hstage]
    cases ending with
    | sample x =>
      obtain ⟨worker', hw', hsequence, _⟩ := hseated.of_sample hending
      obtain rfl := Option.some.inj (hw.symm.trans hw')
      refine h.change hw fun _ => .goOn rfl ?_ hopen rfl
      simp [Worker.numbers, hsequence, WorkerStage.numbers]
    | cut =>
      refine h.change hw fun _ => .retire rfl rfl hopen rfl ?_
      intro hc
      rw [hseated.of_cut hending] at hc
      cases hc
    | crash => exact h.change hw fun _ => .retire rfl rfl hopen rfl fun _ hfinished => by cases hfinished
  | cancel => exact h.cancel
  | quitCalling | call | unlist | purge | pass => exact h

/-- **In every state of a run** every number is accounted for. -/
theorem history {first : RunState} {steps : List RunTransition} (h : first.Accounted total) (hseated : first.Seated)
    (past : first.History steps s) : s.Accounted total :=
  past.invariantWith (P := fun _ s => s.Accounted total) h fun _ _ _ _ before h hstep =>
    h.step (hseated.history before) hstep

end Accounted

end RunState

end HttpBench
