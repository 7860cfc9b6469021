import HttpBench.Proofs.Run.Accounting

/-!
# The samples of a run

What a history says of the samples that the run ends with:

* the numbers it hands out are the first ones, in order (`taken_eq`);
* while nobody crashes, the samples of the workers are those that their calls have returned, each
  once (`returned_perm`);
* once the run is cancelled, and not in the middle of a turn, no call begins and none returns a
  sample (`Quiet`).

The numbers of the samples then follow from the accounts (`Accounted`).
-/

namespace HttpBench

namespace RunState

variable {first s s' : RunState} {steps : List RunTransition} {total w : Nat} {label : RunLabel} {worker : Worker}

/-! ## What is handed out -/

/-- A step hands out the next number or none. -/
theorem step_taken (h : s.step label = some s') :
    List.range s'.nextSequence = List.range s.nextSequence ++ (RunTransition.taken? ⟨s, label, s'⟩).toList := by
  cases happens_of_step h with
  | take => exact List.range_succ
  | _ => exact (List.append_nil _).symm

/-- **The numbers handed out are the first ones**, in order. -/
theorem taken_eq (past : first.History steps s) (hfirst : first.nextSequence = 0) :
    steps.filterMap RunTransition.taken? = List.range s.nextSequence := by
  refine past.invariantWith (P := fun steps s => steps.filterMap RunTransition.taken? = List.range s.nextSequence)
    (by rw [hfirst]; rfl) fun steps s label s' _ ih hstep => ?_
  rw [List.filterMap_append, ih, step_taken hstep]
  cases htaken : RunTransition.taken? ⟨s, label, s'⟩ <;> simp [htaken]

/-! ## Crashes -/

/-- **Nobody has crashed**, or is about to. -/
structure Uncrashed (s : RunState) : Prop where
  workers : ∀ worker ∈ s.workers, worker.stage ≠ .crashed
  calls : ∀ w, s.executor.ending? w ≠ some .crash

namespace Uncrashed

/-- **Only a crash** crashes anybody. -/
theorem step (h : s.Uncrashed) (hstep : s.step label = some s')
    (hcrash : RunTransition.crashes ⟨s, label, s'⟩ = false) : s'.Uncrashed := by
  obtain ⟨hworkers, hcalls⟩ := h
  -- a step of a call that is no crash ends no call with one
  have inner : ∀ {v inner e}, s.executor.step v inner = some e → inner ≠ .crash →
      ∀ w, e.ending? w ≠ some .crash :=
    fun hcall hlabel w hending => hcalls w (Executor.step_crash hcall hlabel hending)
  cases happens_of_step hstep with
  | look hw | rest hw =>
    have hstage := hworkers _ (List.mem_of_getElem? hw)
    exact ⟨forall_setWorker hworkers hstage, hcalls⟩
  | take | stop | finish => exact ⟨forall_setWorker hworkers (by simp), hcalls⟩
  | quitEntered => exact ⟨forall_setWorker hworkers (by simp), hcalls⟩
  | quitCalling _ _ _ _ hcall => exact ⟨hworkers, inner hcall (by simp)⟩
  | start _ _ _ hcall => exact ⟨forall_setWorker hworkers (by simp), inner hcall (by simp)⟩
  | unlist hcall => exact ⟨hworkers, inner hcall (by simp)⟩
  | call _ _ _ hcall =>
    refine ⟨hworkers, inner hcall ?_⟩
    intro hlabel
    rw [hlabel] at hcrash
    cases hcrash
  | @leave w _ ending _ _ hending hcall =>
    refine ⟨forall_setWorker hworkers ?_, inner hcall (by simp)⟩
    cases ending with
    | sample => simp
    | cut => simp
    | crash => exact absurd hending (hcalls w)
  | cancel | purge | pass => exact ⟨hworkers, hcalls⟩

/-- A run that begins has nobody who has crashed. -/
theorem begin {e : Executor} {target : Target} {useCache cancelled : Bool} {concurrency : Nat}
    (hcalls : e.calls = []) : (RunState.begin e target useCache total concurrency cancelled).Uncrashed := by
  refine ⟨fun worker hworker => ?_, fun w h => ?_⟩
  · obtain ⟨v, _, rfl⟩ := List.mem_map.mp hworker
    simp
  · obtain ⟨call, hcall, _⟩ := Executor.ending?_eq_some.mp h
    have hnone : e.call? w = none := by rw [Executor.call?, hcalls]; rfl
    exact absurd (hnone.symm.trans hcall) (by simp)

/-- While there are no crashes nobody has crashed. -/
theorem history (h : first.Uncrashed) (past : first.History steps s) (hcrash : ∀ t ∈ steps, t.crashes = false) :
    s.Uncrashed :=
  past.invariantUnder h (fun _ _ _ h hstep hcrash => h.step hstep hcrash) hcrash

end Uncrashed

/-! ## What calls return -/

/-- What a change of one worker does to the samples of all. -/
theorem samples_set {workers : List Worker} {worker' : Worker} {xs : List Sample} (hw : workers[w]? = some worker)
    (hsamples : worker'.samples = worker.samples ++ xs) :
    ((workers.set w worker').flatMap Worker.samples).Perm (workers.flatMap Worker.samples ++ xs) := by
  obtain ⟨hlt, rfl⟩ := List.getElem?_eq_some_iff.mp hw
  have hnew := (List.set_perm_cons_eraseIdx hlt worker').flatMap_right Worker.samples
  have hold := (List.getElem_cons_eraseIdx_perm hlt).flatMap_right Worker.samples
  rw [List.flatMap_cons, hsamples] at hnew
  rw [List.flatMap_cons] at hold
  refine hnew.trans (List.Perm.trans ?_ (hold.append_right xs))
  rw [List.append_assoc, List.append_assoc]
  exact List.perm_append_comm.append_left _

/-- **A step adds the sample that it returns**, and no other. -/
theorem step_returned (hstep : s.step label = some s') :
    (s'.workers.flatMap Worker.samples).Perm
      (s.workers.flatMap Worker.samples ++ (RunTransition.returned? ⟨s, label, s'⟩).toList) := by
  cases happens_of_step hstep with
  | look hw | take hw | stop hw | finish hw | quitEntered hw | start hw | rest hw =>
    exact samples_set hw (List.append_nil _).symm
  | quitCalling | call | unlist | cancel | purge | pass => exact .of_eq (List.append_nil _).symm
  | @leave _ _ ending _ hw hending =>
    refine samples_set hw ?_
    simp only [RunTransition.returned?, hending]
    cases ending with
    | sample => rfl
    | cut | crash => exact (List.append_nil _).symm

/-- **The samples of the workers are those that calls have returned**, each once. -/
theorem returned_perm (past : first.History steps s) (hfirst : first.workers.flatMap Worker.samples = []) :
    (s.workers.flatMap Worker.samples).Perm (steps.filterMap RunTransition.returned?) := by
  refine past.invariantWith
    (P := fun steps s => (s.workers.flatMap Worker.samples).Perm (steps.filterMap RunTransition.returned?))
    (.of_eq hfirst) fun steps s label s' _ ih hstep => ?_
  rw [List.filterMap_append]
  refine (step_returned hstep).trans (ih.append (.of_eq ?_))
  cases hreturned : RunTransition.returned? ⟨s, label, s'⟩ <;> simp [hreturned]

/-! ## After a cancellation -/

/-- **No worker is in the middle of a turn**: each of them looks before it gets on. -/
def Unlooked (s : RunState) : Prop := ∀ worker ∈ s.workers, worker.looked = false

/-- Once cancelled, nobody is in the middle of a turn. -/
def Quiet (s : RunState) : Prop := s.cancelled = true → s.Unlooked

namespace Quiet

/-- It stays so, if the run is cancelled while nobody is in the middle of a turn. -/
theorem step (h : s.Quiet) (hstep : s.step label = some s') (hpoll : label = .cancel → s.Unlooked) : s'.Quiet := by
  intro hc
  cases happens_of_step hstep with
  | look _ _ _ hrun => exact absurd hc (Bool.eq_false_iff.mp hrun)
  | cancel => exact hpoll rfl
  | take | rest | quitEntered => exact forall_setWorker (h hc) rfl
  | stop hw | finish hw | start hw =>
    have hold := h hc _ (List.mem_of_getElem? hw)
    exact forall_setWorker (h hc) hold
  | @leave _ _ ending => exact forall_setWorker (h hc) (by cases ending <;> rfl)
  | quitCalling | call | unlist | purge | pass => exact h hc

/-- A run that begins has nobody in the middle of a turn. -/
theorem begin {e : Executor} {target : Target} {useCache cancelled : Bool} {concurrency : Nat} :
    (RunState.begin e target useCache total concurrency cancelled).Quiet := by
  intro _ worker hworker
  obtain ⟨v, _, rfl⟩ := List.mem_map.mp hworker
  rfl

/-- In every state of a run that is only cancelled between turns. -/
theorem history (h : first.Quiet) (past : first.History steps s)
    (hpoll : ∀ t ∈ steps, t.label = .cancel → t.before.Unlooked) : s.Quiet :=
  past.invariantUnder (A := fun t : RunTransition => t.label = .cancel → t.before.Unlooked) h
    (fun _ _ _ h hstep hpoll => h.step hstep hpoll) hpoll

/-- **A cancelled run calls nobody** and gets no samples. -/
theorem silent (h : s.Quiet) (hseated : s.Seated) (hstep : s.step label = some s') (hc : s.cancelled = true) :
    RunTransition.fetches ⟨s, label, s'⟩ = false ∧ RunTransition.returned? ⟨s, label, s'⟩ = none := by
  have unlooked : ∀ {w : Nat} {worker : Worker}, s.workers[w]? = some worker → worker.looked = true → False := by
    intro _ _ hw hlooked
    rw [h hc _ (List.mem_of_getElem? hw)] at hlooked
    cases hlooked
  cases happens_of_step hstep with
  | start hw _ hlooked => exact (unlooked hw hlooked).elim
  | call hw hlooked => exact (unlooked hw hlooked).elim
  | quitCalling _ _ _ _ hcall | unlist hcall => exact ⟨Executor.step_fetchesIn hcall rfl (by simp), rfl⟩
  | @leave w _ ending _ _ hending hcall =>
    refine ⟨Executor.step_fetchesIn hcall rfl (by simp), ?_⟩
    simp only [RunTransition.returned?, hending]
    cases ending with
    | sample x =>
      obtain ⟨worker, hw, _, hlooked⟩ := hseated.of_sample hending
      exact (unlooked hw hlooked).elim
    | cut | crash => rfl
  | look | take | stop | finish | quitEntered | rest => exact ⟨Executor.fetchesIn_self _ _, rfl⟩
  | cancel | purge | pass => exact ⟨rfl, rfl⟩

/-- **Nothing is called or returned** in any step of a history after a cancellation between turns. -/
theorem silent_of_history (h : first.Quiet) (hseated : first.Seated) (past : first.History steps s)
    (hpoll : ∀ t ∈ steps, t.label = .cancel → t.before.Unlooked) {t : RunTransition} (ht : t ∈ steps)
    (hc : t.before.cancelled = true) : t.fetches = false ∧ t.returned? = none := by
  obtain ⟨before, after, hbefore, hnow, _, rfl⟩ := past.split ht
  have hquiet := h.history hbefore fun u hu => hpoll u (List.mem_append_left _ hu)
  exact hquiet.silent (hseated.history hbefore) hnow hc

end Quiet

/-! ## The samples at the end -/

/-- The numbers of the samples. -/
def sequences (s : RunState) : List Nat := s.samples.map (·.sequence)

/-- The samples are those that the workers hand over. -/
theorem samples_perm (s : RunState) : s.samples.Perm (s.workers.flatMap Worker.result) := List.mergeSort_perm _ _

/-- A worker that has crashed hands nothing over, so the samples are some of those that the workers have. -/
theorem samples_subperm_workers (s : RunState) : s.samples.Subperm (s.workers.flatMap Worker.samples) := by
  refine s.samples_perm.subperm.trans (List.Sublist.flatMap_right _ fun worker _ => ?_).subperm
  rw [Worker.result]
  split
  · exact List.Sublist.refl _
  · exact List.nil_sublist _

/-- When all workers are done and none has crashed, the samples are all that there are. -/
theorem samples_perm_of_uncrashed (h : s.Uncrashed) (hdone : s.isDone = true) :
    s.samples.Perm (s.workers.flatMap Worker.samples) := by
  refine s.samples_perm.trans (.of_eq (List.flatMap_congr fun worker hworker => ?_))
  have hd := List.all_eq_true.mp hdone worker hworker
  have hfinished : worker.stage = .finished := by
    simpa [Worker.isDone, h.workers worker hworker] using hd
  rw [Worker.result, if_pos hfinished]

/-- The numbers of the samples are numbers that workers have. -/
theorem sequences_subperm (s : RunState) : s.sequences.Subperm (s.workers.flatMap Worker.numbers) := by
  refine ((s.samples_perm.map _).trans (.of_eq List.map_flatMap)).subperm.trans
    (List.Sublist.flatMap_right _ fun worker _ => ?_).subperm
  rw [Worker.numbers, Worker.result]
  split
  · exact List.sublist_append_left _ _
  · exact List.nil_sublist _

/-- Where all are done and none has crashed, those are all their numbers. -/
theorem sequences_perm (h : s.Uncrashed) (hdone : s.isDone = true) :
    s.sequences.Perm (s.workers.flatMap Worker.numbers) := by
  refine ((samples_perm_of_uncrashed h hdone).map _).trans (.of_eq ?_)
  rw [List.map_flatMap]
  exact List.flatMap_congr fun worker hworker =>
    (worker.numbers_of_isDone (List.all_eq_true.mp hdone worker hworker)).symm

namespace Accounted

/-- No more is handed out than there is. -/
theorem next_le (h : s.Accounted total) : s.nextSequence ≤ total := by
  have hhanded := h.handed
  omega

/-- **The numbers of the samples ascend**, and so they differ. -/
theorem sequences_pairwise (h : s.Accounted total) : s.sequences.Pairwise (· < ·) := by
  have hnodup : s.sequences.Nodup := by
    obtain ⟨numbers, hperm, hsublist⟩ := s.sequences_subperm
    exact hperm.nodup_iff.mp (h.distinct.sublist hsublist)
  have hsorted : s.sequences.Pairwise (· ≤ ·) := by
    rw [sequences, List.pairwise_map]
    refine (List.pairwise_mergeSort ?_ ?_ _).imp fun hle => by simpa using hle
    · intro a b c hab hbc
      simp only [decide_eq_true_eq] at *
      omega
    · intro a b
      simp only [Bool.or_eq_true, decide_eq_true_eq]
      omega
  exact (hsorted.and hnodup).imp fun ⟨hle, hne⟩ => Nat.lt_of_le_of_ne hle hne

/-- **They have been handed out.** -/
theorem lt_next (h : s.Accounted total) {n : Nat} (hn : n ∈ s.sequences) : n < s.nextSequence :=
  h.below n (s.sequences_subperm.subset hn)

/-- They are numbers of the run. -/
theorem subperm_range (h : s.Accounted total) : s.sequences.Subperm (List.range total) :=
  List.subperm_of_subset (h.sequences_pairwise.imp Nat.ne_of_lt) fun _ hn =>
    List.mem_range.mpr (Nat.lt_of_lt_of_le (h.lt_next hn) h.next_le)

/-- There are no more samples than numbers. -/
theorem length_le (h : s.Accounted total) : s.samples.length ≤ total := by
  simpa [sequences] using h.subperm_range.length_le

/-- **At most one number a worker has no sample** when all are done and none has crashed. -/
theorem few_missing (h : s.Accounted total) (huncrashed : s.Uncrashed) (hdone : s.isDone = true) :
    ((List.range s.nextSequence).filter (· ∉ s.sequences)).length ≤ s.workers.length := by
  have hnumbers := (sequences_perm huncrashed hdone).length_eq
  have hall : ((List.range s.nextSequence).filter (· ∈ s.sequences)).Perm s.sequences := by
    refine (List.perm_ext_iff_of_nodup (List.nodup_range.filter _) (h.sequences_pairwise.imp Nat.ne_of_lt)).mpr
      fun n => ?_
    simp only [List.mem_filter, List.mem_range, decide_eq_true_eq]
    exact ⟨fun hn => hn.2, fun hn => ⟨h.lt_next hn, hn⟩⟩
  have hsplit := List.length_eq_length_filter_add (l := List.range s.nextSequence) (fun n => decide (n ∈ s.sequences))
  have hfew := h.few
  have hcount := s.workers.countP_le_length (p := Worker.isDone)
  rw [List.length_range, hall.length_eq] at hsplit
  simp only [decide_not]
  omega

/-- **Without a cancellation or a crash everything is handed out.** -/
theorem next_eq (h : s.Accounted total) (huncrashed : s.Uncrashed) (hdone : s.isDone = true)
    (hrun : s.cancelled = false) : s.nextSequence = total := by
  -- every share is used up
  have hspent : (s.workers.map (·.remaining)).sum = 0 := by
    apply List.sum_eq_zero_iff_forall_eq_nat.mpr
    intro n hn
    obtain ⟨worker, hworker, rfl⟩ := List.mem_map.mp hn
    refine h.spent hrun worker hworker ?_
    simpa [Worker.isDone, huncrashed.workers worker hworker] using List.all_eq_true.mp hdone worker hworker
  have hhanded := h.handed
  omega

/-- **Without a cancellation or a crash nothing is missing.** -/
theorem sequences_eq (h : s.Accounted total) (huncrashed : s.Uncrashed) (hdone : s.isDone = true)
    (hrun : s.cancelled = false) : s.sequences = List.range total := by
  have hperm := sequences_perm huncrashed hdone
  have hlong : (List.range total).length ≤ s.sequences.length := by
    rw [List.length_range, hperm.length_eq, ← h.next_eq huncrashed hdone hrun]
    exact h.full hrun huncrashed.workers
  exact (h.subperm_range.perm_of_length_le hlong).eq_of_pairwise (fun _ _ _ _ hab hba => absurd hab (Nat.lt_asymm hba))
    h.sequences_pairwise List.pairwise_lt_range

end Accounted

end RunState

end HttpBench
