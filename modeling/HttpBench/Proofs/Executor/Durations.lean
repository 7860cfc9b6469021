import HttpBench.Proofs.Executor.Clocks
import HttpBench.Proofs.Executor.Resuming

/-!
# How long a call says that it took

The total of a sample is to be the time from the start of its call to its end. It is, whenever the answer is
from the cache, however long the caller had to wait for it, and whenever the caller leads or uses no cache, for
then it fetches as soon as it starts. A follower that fetches itself is the exception: its total is that of the
transport, which has not seen the call before its look-up. So all the time that it has waited for the leader is
left out (`Executor.total_of_sample`).

That is said of calls whose only delays are those that they wait for: time passes while others have the lock or
the transport has the call, and not in between (`ExecutorTransition.isPrompt`).
-/

namespace HttpBench

/-- **A call that uses the cache without a slot of its own.** -/
def Call.isGuest (call : Call) : Bool := call.key.isSome && call.leads.isNone

/-- Followers are guests. -/
theorem Call.Formed.isGuest {call : Call} (h : call.Formed) (hstage : call.stage.isFollower = true) :
    call.isGuest = true := by
  have hkeyed : call.key ≠ none := h.keyed (by cases hs : call.stage <;> rw [hs] at hstage <;> first | rfl | cases hstage)
  simp [Call.isGuest, Option.isSome_iff_ne_none, hkeyed, h.leads_eq_none hstage]

namespace ExecutorTransition

/-- The call of a caller begins in a step. -/
def starts (t : ExecutorTransition) (c : Caller) : Bool :=
  match t.label with
  | .call c' (.start ..) => c' == c
  | _ => false

/-- The sample that the call of a caller returns in a step. -/
def returned? (t : ExecutorTransition) (c : Caller) : Option Sample :=
  match t.label, t.before.ending? c with
  | .call c' .leave, some (.sample x) => if c' = c then some x else none
  | _, _ => none

theorem ending_of_returned {t : ExecutorTransition} {c : Caller} {x : Sample} (h : t.returned? c = some x) :
    t.before.ending? c = some (.sample x) := by
  unfold returned? at h
  split at h
  next hending =>
    obtain ⟨rfl, hx⟩ := Option.ite_none_right_eq_some.mp h
    obtain rfl := Option.some.inj hx
    exact hending
  next => cases h

/-- **Nothing takes time** but what calls wait for. -/
def isPrompt (t : ExecutorTransition) : Bool :=
  match t.label with
  | .pass _ => t.before.calls.all fun entry => entry.2.stage.isPending
  | _ => true

end ExecutorTransition

namespace Executor

variable {e e' : Executor} {c : Caller} {call : Call} {label : CallLabel} {l : ExecutorLabel}
  {steps : List ExecutorTransition} {fetched : Option Instant}

/-- When a caller began his last call. -/
def lastStart? (steps : List ExecutorTransition) (c : Caller) : Option Instant :=
  steps.foldl (fun noted t => if t.starts c then some t.before.now else noted) none

/-- When the transport got a call of a caller last. -/
def lastFetch? (steps : List ExecutorTransition) (c : Caller) : Option Instant :=
  steps.foldl (fun noted t => t.before.noteFetch c t.after noted) none

/-- **The answer in a step**, if there is one, says how long the transport has had the call. -/
def isExact (past : List ExecutorTransition) (t : ExecutorTransition) : Bool :=
  match t.label with
  | .call c (.reply answer) =>
    (lastFetch? past c).all fun since => answer.total.nanos + since.nanos = t.before.now.nanos
  | _ => true

theorem lastStart?_concat (steps : List ExecutorTransition) (t : ExecutorTransition) (c : Caller) :
    lastStart? (steps ++ [t]) c = if t.starts c then some t.before.now else lastStart? steps c :=
  List.foldl_concat ..

theorem lastFetch?_concat (steps : List ExecutorTransition) (t : ExecutorTransition) (c : Caller) :
    lastFetch? (steps ++ [t]) c = t.before.noteFetch c t.after (lastFetch? steps c) :=
  List.foldl_concat ..

end Executor

/-- **The time of a fetch** that began now or before: it has been going on since then, and since the start of the
call unless that is a guest. -/
def Call.FetchedSince (call : Call) (fetched : Option Instant) (now : Instant) (total : Nat) : Prop :=
  ∃ since, fetched = some since ∧ call.started.nanos ≤ since.nanos ∧ total + since.nanos = now.nanos ∧
    (call.isGuest = false → since = call.started)

/-- **What is known of the times of a call**, by where it stands. -/
def Call.Timed (call : Call) (now : Instant) (fetched : Option Instant) : Prop :=
  match call.stage with
  | .following _ | .waiting _ => call.started.nanos ≤ now.nanos
  | .looking => call.started.nanos ≤ now.nanos ∧ (call.isGuest = false → call.started = now)
  | .fetching => ∃ total, call.FetchedSince fetched now total
  | .closing ending | .unlisted ending => ∀ x, ending = .sample x →
      if x.fromCache then x.total.nanos + call.started.nanos = now.nanos
      else call.FetchedSince fetched now x.total.nanos

/-- What is known of the times of a call that has come to its sample. -/
theorem Call.Timed.sample {call : Call} {now : Instant} {fetched : Option Instant} {x : Sample}
    (h : call.Timed now fetched) (hending : call.stage.ending? = some (.sample x)) :
    if x.fromCache then x.total.nanos + call.started.nanos = now.nanos
    else call.FetchedSince fetched now x.total.nanos := by
  unfold Call.Timed at h
  cases hstage : call.stage <;> simp only [hstage] at h hending
  case closing | unlisted => exact h x (Option.some.inj hending)
  all_goals cases hending

namespace Executor

variable {e e' : Executor} {c : Caller} {call : Call} {label : CallLabel} {l : ExecutorLabel}
  {steps : List ExecutorTransition} {fetched : Option Instant}

/-- What the transport does not get now is not noted. -/
theorem noteFetch_of_stage {stage : CallStage} (hafter : e'.stage? c = some stage) (hstage : stage ≠ .fetching) :
    e.noteFetch c e' fetched = fetched := by
  have hidle : e.fetchesIn c e' = false := fetchesIn_eq_false (by simp [isFetching, hafter, hstage])
  rw [noteFetch, hidle]
  rfl

/-- A look-up serves what the call has waited for, or leads to a fetch. -/
theorem lookUp_timed (e : Executor) (c : Caller) (call : Call) :
    ∃ stage, (e.lookUp c call).call? c = some { call with stage } ∧
      (stage = .fetching ∨
        ∃ x, stage = .closing (.sample x) ∧ x.fromCache = true ∧ x.total = e.now.since call.started) := by
  obtain ⟨stage, hafter, hwaited⟩ := e.lookUp_waited c call
  refine ⟨stage, hafter, hwaited.imp_right ?_⟩
  rintro ⟨x, rfl, htotal⟩
  obtain ⟨stage', hafter', hcached⟩ := e.stage?_lookUp c call
  obtain rfl := Option.some.inj ((stage?_of_call? hafter).symm.trans hafter')
  rcases hcached with hfetching | ⟨y, hcached, hsame⟩
  · cases hfetching
  · obtain rfl := CallEnd.sample.inj (CallStage.closing.inj hsame)
    exact ⟨x, rfl, hcached, htotal⟩

/-- **Every step of a call** keeps its times. -/
theorem timed_of_step (horderly : e.Orderly) (hstep : e.step c label = some e')
    (htimed : ∀ call, e.call? c = some call → call.Timed e.now fetched)
    (hexact : ∀ answer since, label = .reply answer → fetched = some since →
      answer.total.nanos + since.nanos = e.now.nanos) :
    ∀ call, e'.call? c = some call → call.Timed e'.now (e.noteFetch c e' fetched) := by
  intro call hcall
  rw [step_now hstep]
  have hafter := stage?_of_call? hcall
  cases moves_of_step hstep with
  | @start target useCache sequence hnone =>
    obtain ⟨call', hcall', hstarted, hstage⟩ := e.start_started c target useCache sequence
    obtain rfl := Option.some.inj (hcall'.symm.trans hcall)
    unfold Call.Timed
    rcases hstage with hstage | hstage | ⟨slot, hstage⟩ <;> rw [hstage]
    · have hbefore : e.stage? c ≠ some .fetching := by simp [stage?_of_none hnone]
      have hnoted : e.noteFetch c (e.start c target useCache sequence) fetched = some e.now :=
        noteFetch_of_fetched hbefore (by rw [hafter, hstage])
      exact ⟨0, e.now, hnoted, Nat.le_of_eq (congrArg _ hstarted), Nat.zero_add _, fun _ => hstarted.symm⟩
    · exact ⟨Nat.le_of_eq (congrArg _ hstarted), fun _ => hstarted⟩
    · exact Nat.le_of_eq (congrArg _ hstarted)
  | @ask old slot hold hstage =>
    have hwaited := htimed old hold
    have hguest : old.isGuest = true := (horderly.formed hold).isGuest (by rw [hstage]; rfl)
    obtain ⟨cache, stage, heq, hopen⟩ := ask_eq e c old slot
    rw [heq, call?_setStage, if_pos rfl] at hcall
    obtain rfl := Option.some.inj hcall
    simp only [Call.Timed, hstage] at hwaited
    rcases hopen with rfl | rfl
    · exact ⟨hwaited, fun hown => absurd (hguest.symm.trans hown) (by simp)⟩
    · exact hwaited
  | @resume old slot hold hstage =>
    have hwaited := htimed old hold
    have hguest : old.isGuest = true := (horderly.formed hold).isGuest (by rw [hstage]; rfl)
    rw [call?_setStage, if_pos rfl] at hcall
    obtain rfl := Option.some.inj hcall
    simp only [Call.Timed, hstage] at hwaited
    exact ⟨hwaited, fun hown => absurd (hguest.symm.trans hown) (by simp)⟩
  | @lookUp old hold hstage =>
    have hwaited := htimed old hold
    simp only [Call.Timed, hstage] at hwaited
    obtain ⟨stage, hcall', hfound⟩ := e.lookUp_timed c old
    obtain rfl := Option.some.inj (hcall'.symm.trans hcall)
    have hbefore : e.stage? c = some .looking := by rw [stage?_of_call? hold, hstage]
    rcases hfound with rfl | ⟨x, rfl, hcached, htotal⟩
    · have hnoted : e.noteFetch c (e.lookUp c old) fetched = some e.now :=
        noteFetch_of_fetched (by simp [hbefore]) hafter
      exact ⟨0, e.now, hnoted, hwaited.1, Nat.zero_add _, fun hown => (hwaited.2 hown).symm⟩
    · intro y hy
      obtain rfl := CallEnd.sample.inj hy
      rw [if_pos hcached, htotal]
      exact Nat.sub_add_cancel hwaited.1
  | @reply old answer hold hstage =>
    have hfetched := htimed old hold
    simp only [Call.Timed, hstage] at hfetched
    rw [call?_setStage, if_pos rfl] at hcall
    obtain rfl := Option.some.inj hcall
    rw [noteFetch_of_stage hafter (by simp)]
    obtain ⟨_, since, hnoted, hstarted, _, hown⟩ := hfetched
    intro y hy
    obtain rfl := CallEnd.sample.inj hy
    exact ⟨since, hnoted, hstarted, hexact answer since rfl hnoted, hown⟩
  | cutWaiting | cutFetching | crash =>
    rw [call?_setStage, if_pos rfl] at hcall
    obtain rfl := Option.some.inj hcall
    intro x hx
    cases hx
  | @unlist old ending slot hold hstage =>
    have hover := htimed old hold
    simp only [Call.Timed, hstage] at hover
    rw [call?_setStage, if_pos rfl] at hcall
    obtain rfl := Option.some.inj hcall
    rw [noteFetch_of_stage hafter (by simp)]
    exact hover
  | leave | leaveLead =>
    rw [call?_dropCall, if_pos rfl] at hcall
    cases hcall

/-- **Time passes** for a call that has to wait. -/
theorem timed_pass (h : call.Timed e.now fetched) (hpending : call.stage.isPending = true) (d : Duration) :
    call.Timed (e.pass d).now fetched := by
  unfold Call.Timed at h ⊢
  cases hstage : call.stage <;> simp only [hstage] at h ⊢
  case waiting => exact Nat.le_trans h (Nat.le_add_right ..)
  case fetching =>
    obtain ⟨total, since, hnoted, hstarted, htotal, hown⟩ := h
    refine ⟨total + d.nanos, since, hnoted, hstarted, ?_, hown⟩
    rw [Nat.add_right_comm, htotal]
    rfl
  all_goals
    rw [hstage] at hpending
    cases hpending

/-- Nothing is noted of a call that stays as it is. -/
theorem noteFetch_of_same (hsame : e'.call? c = e.call? c) : e.noteFetch c e' fetched = fetched := by
  have hidle : e.fetchesIn c e' = false := by
    have hfetching : e'.isFetching c = e.isFetching c := by rw [isFetching, isFetching, stage?, stage?, hsame]
    rw [fetchesIn, hfetching, Bool.not_and_self]
  rw [noteFetch, hidle]
  rfl

/-- **When a call was started** stays as it is, and a call that begins is started now. -/
theorem started_of_step (hstep : e.step c label = some e') (hcall : e'.call? c = some call) :
    if ExecutorTransition.starts ⟨e, .call c label, e'⟩ c then call.started = e.now
    else ∃ old, e.call? c = some old ∧ old.started = call.started := by
  have hmid : (∀ t u n, label ≠ .start t u n) → ∃ old, e.call? c = some old ∧ old.started = call.started := by
    intro hstart
    have hleave : label ≠ .leave := by
      rintro rfl
      rw [(step_leave hstep).2] at hcall
      cases hcall
    obtain ⟨old, stage, hold, hafter⟩ := step_between hstep hstart hleave
    obtain rfl := Option.some.inj (hafter.symm.trans hcall)
    exact ⟨old, hold, rfl⟩
  cases label with
  | start target useCache sequence =>
    have hstarts : ExecutorTransition.starts ⟨e, .call c (.start target useCache sequence), e'⟩ c = true :=
      beq_self_eq_true c
    rw [if_pos hstarts]
    cases moves_of_step hstep with
    | start =>
      obtain ⟨call', hcall', hstarted, _⟩ := e.start_started c target useCache sequence
      obtain rfl := Option.some.inj (hcall'.symm.trans hcall)
      exact hstarted
  | _ => exact hmid fun _ _ _ => CallLabel.noConfusion

/-- **What is known of the times of every call.** -/
def Timed (steps : List ExecutorTransition) (e : Executor) : Prop :=
  ∀ c call, e.call? c = some call → lastStart? steps c = some call.started ∧ call.Timed e.now (lastFetch? steps c)

/-- **Whatever happens** keeps the times of all calls. -/
theorem Timed.next (h : Timed steps e) (horderly : e.Orderly) (hnext : e.Next l e')
    (hprompt : ExecutorTransition.isPrompt ⟨e, l, e'⟩ = true) (hexact : isExact steps ⟨e, l, e'⟩ = true) :
    Timed (steps ++ [⟨e, l, e'⟩]) e' := by
  intro c call hcall
  rw [lastStart?_concat, lastFetch?_concat]
  cases l with
  | purge =>
    obtain rfl := Option.some.inj hnext
    have hnoted : e.noteFetch c e.purge (lastFetch? steps c) = lastFetch? steps c := noteFetch_of_same rfl
    rw [hnoted]
    exact h c call hcall
  | pass d =>
    obtain rfl := Option.some.inj hnext
    obtain ⟨hstarted, htimed⟩ := h c call hcall
    obtain ⟨entry, hentry, rfl⟩ := Option.map_eq_some_iff.mp hcall
    have hnoted : e.noteFetch c (e.pass d) (lastFetch? steps c) = lastFetch? steps c := noteFetch_of_same rfl
    rw [hnoted]
    exact ⟨hstarted, timed_pass htimed (List.all_eq_true.mp hprompt entry (List.mem_of_find?_eq_some hentry)) d⟩
  | call c' label =>
    have hstep : e.step c' label = some e' := hnext
    by_cases hc : c = c'
    · subst hc
      refine ⟨?_, timed_of_step horderly hstep (fun old hold => (h c old hold).2) ?_ call hcall⟩
      · have hstarted := started_of_step hstep hcall
        split at hstarted
        next hstarts => rw [if_pos hstarts, hstarted]
        next hstarts =>
          obtain ⟨old, hold, hsame⟩ := hstarted
          rw [if_neg hstarts, (h c old hold).1, hsame]
      · rintro answer since rfl hnoted
        simpa only [isExact, hnoted, Option.all_some, decide_eq_true_eq] using hexact
    · have hsame := step_other hstep hc
      have hstarts : ExecutorTransition.starts ⟨e, .call c' label, e'⟩ c = false := by
        cases label <;> simp [ExecutorTransition.starts, Ne.symm hc]
      rw [hsame] at hcall
      rw [hstarts, noteFetch_of_same hsame, step_now hstep]
      exact h c call hcall

theorem Timed.history (hcalls : e.calls = [])
    (hfills : ∀ cache, e.cache = some cache → cache.fills.slots = [] ∧ cache.fills.current = [])
    (past : e.History steps e') (hprompt : ∀ t ∈ steps, t.isPrompt = true) (hexact : Throughout isExact steps) :
    Timed steps e' := by
  refine past.invariantWith (P := fun steps e' => (∀ t ∈ steps, ExecutorTransition.isPrompt t = true) →
    Throughout isExact steps → Timed steps e') ?_ ?_ hprompt hexact
  · intro _ _ c call hcall
    rw [call?, hcalls] at hcall
    cases hcall
  · intro steps e₁ l e₂ before ih hnext hprompt hexact
    have horderly := orderly_of_history (Orderly.begin hcalls hfills) before
    exact (ih (fun t ht => hprompt t (List.mem_append_left _ ht)) hexact.of_append).next horderly hnext
      (hprompt _ (List.mem_append_right _ (List.mem_singleton_self _))) hexact.last

/-- **The total of a sample is the time of its call**, from its start to its end. Let nothing take time but what
calls wait for, and let the answers of the transport say exactly how long it has had their calls. Then so it is
for every sample from the cache, however long the caller waited, and for every call that leads or uses no
cache. The total of a guest that fetches itself begins when the transport gets its call: what it has waited
before is left out. -/
theorem total_of_sample (hcalls : e.calls = [])
    (hfills : ∀ cache, e.cache = some cache → cache.fills.slots = [] ∧ cache.fills.current = [])
    (past : e.History steps e') (hprompt : ∀ t ∈ steps, t.isPrompt = true) (hexact : Throughout isExact steps) :
    ∀ before t after c x, steps = before ++ t :: after → t.returned? c = some x →
      ∃ call began, t.before.call? c = some call ∧ lastStart? before c = some began ∧
        (x.fromCache = true ∨ call.isGuest = false → x.total.nanos + began.nanos = t.before.now.nanos) ∧
        (x.fromCache = false → ∃ since, lastFetch? before c = some since ∧ began.nanos ≤ since.nanos ∧
          x.total.nanos + since.nanos = t.before.now.nanos) := by
  rintro before t after c x rfl hreturned
  obtain ⟨hbefore, _⟩ := past.cut
  have htimed := Timed.history hcalls hfills hbefore (fun u hu => hprompt u (List.mem_append_left _ hu)) hexact.of_append
  obtain ⟨call, hcall, hstage⟩ := ending?_eq_some.mp (ExecutorTransition.ending_of_returned hreturned)
  obtain ⟨hstarted, htimes⟩ := htimed c call hcall
  have htimes := htimes.sample hstage
  refine ⟨call, call.started, hcall, hstarted, ?_, ?_⟩
  · rintro (hcached | hown)
    · rwa [if_pos hcached] at htimes
    · split at htimes
      · exact htimes
      · obtain ⟨since, _, _, htotal, hsame⟩ := htimes
        rw [← hsame hown, htotal]
  · intro hfetched
    rw [if_neg (by simp [hfetched])] at htimes
    obtain ⟨since, hnoted, hle, htotal, _⟩ := htimes
    exact ⟨since, hnoted, hle, htotal⟩

/-- A leader comes to a failure, and its follower fetches then; each of them fetches for as long. -/
def playWaited : List ExecutorLabel :=
  let answer : Exchange :=
    { phases := {}, total := ⟨100⟩, result := .ok { status := 503, headers := [], body := [], protocol := "HTTP/1.1" } }
  [.call 0 (.start default true 0), .call 0 .lookUp, .call 1 (.start default true 1), .call 1 .ask, .pass ⟨100⟩,
    .call 0 (.reply answer), .call 0 .unlist, .call 0 .leave, .call 1 .resume, .call 1 .lookUp, .pass ⟨100⟩,
    .call 1 (.reply answer), .call 1 .leave]

/-- A play in which nothing takes time but what calls wait for, and all answers are exact, by its last step. -/
theorem exists_last {labels : List ExecutorLabel} {P : List ExecutorTransition → ExecutorTransition → Bool}
    (h : (playFrom happen playBegin labels).any (fun r => r.1.all ExecutorTransition.isPrompt &&
      decide (Throughout isExact r.1) && r.1.getLast?.any (P r.1.dropLast)) = true) :
    ∃ (before : List ExecutorTransition) (t : ExecutorTransition) (e' : Executor), playBegin.History (before ++ [t]) e' ∧
      (∀ u ∈ before ++ [t], ExecutorTransition.isPrompt u = true) ∧ Throughout isExact (before ++ [t]) ∧
      P before t = true := by
  obtain ⟨steps, e', past, hshown⟩ := History.exists_of_any h
  simp only [Bool.and_eq_true, List.all_eq_true, decide_eq_true_eq] at hshown
  obtain ⟨⟨hprompt, hexact⟩, hlast⟩ := hshown
  rcases List.eq_nil_or_concat steps with rfl | ⟨before, t, rfl⟩
  · cases hlast
  · rw [List.concat_eq_append] at past hprompt hexact hlast
    rw [List.dropLast_concat, List.getLast?_concat, Option.any_some] at hlast
    exact ⟨before, t, e', past, hprompt, hexact, hlast⟩

/-- The last step returns a sample from the network, with its total, of a call that began at zero. -/
def returnsTotal (c : Caller) (guest : Bool) (total now : Nat) (before : List ExecutorTransition)
    (t : ExecutorTransition) : Bool :=
  (t.returned? c).any (fun x => decide (x.total.nanos = total) && !x.fromCache) &&
    decide (lastStart? before c = some ⟨0⟩) && decide (t.before.now.nanos = now) &&
      (t.before.call? c).any (·.isGuest == guest)

theorem of_returnsTotal {guest : Bool} {total now : Nat} {before : List ExecutorTransition} {t : ExecutorTransition}
    (h : returnsTotal c guest total now before t = true) :
    (∃ x, t.returned? c = some x ∧ x.total.nanos = total ∧ x.fromCache = false) ∧ lastStart? before c = some ⟨0⟩ ∧
      t.before.now.nanos = now ∧ ∃ call, t.before.call? c = some call ∧ call.isGuest = guest := by
  simpa only [returnsTotal, Bool.and_eq_true, decide_eq_true_eq, Option.any_eq_true, Bool.not_eq_true', beq_iff_eq,
    and_assoc] using h

/-- The follower says that it took as long as the leader, though it has waited for the leader before. -/
theorem exists_waited : ∃ (before : List ExecutorTransition) (t : ExecutorTransition) (e' : Executor),
    playBegin.History (before ++ [t]) e' ∧ (∀ u ∈ before ++ [t], ExecutorTransition.isPrompt u = true) ∧
      Throughout isExact (before ++ [t]) ∧ returnsTotal 1 true 100 200 before t = true := by
  have hplay : (playFrom happen playBegin playWaited).any (fun r => r.1.all ExecutorTransition.isPrompt &&
      decide (Throughout isExact r.1) && r.1.getLast?.any (returnsTotal 1 true 100 200 r.1.dropLast)) = true := by
    decide +kernel
  exact exists_last hplay

theorem total_of_sample_of_two :
    (∃ (before : List ExecutorTransition) (t : ExecutorTransition) (e' : Executor),
      playBegin.History (before ++ [t]) e' ∧ ∃ x, t.returned? 0 = some x ∧ lastStart? before 0 = some ⟨0⟩ ∧
        x.total.nanos + 0 = 100) ∧
    ∃ (before : List ExecutorTransition) (t : ExecutorTransition) (e' : Executor),
      playBegin.History (before ++ [t]) e' ∧ ∃ x since, t.returned? 1 = some x ∧ lastStart? before 1 = some ⟨0⟩ ∧
        lastFetch? before 1 = some since ∧ x.total.nanos + since.nanos = 200 := by
  constructor
  · have hplay : (playFrom happen playBegin (playWaited.take 8)).any (fun r => r.1.all ExecutorTransition.isPrompt &&
        decide (Throughout isExact r.1) && r.1.getLast?.any (returnsTotal 0 false 100 100 r.1.dropLast)) = true := by
      decide +kernel
    obtain ⟨before, t, e', past, hprompt, hexact, hreturns⟩ := exists_last hplay
    obtain ⟨⟨x, hx, _⟩, hbegan, hnow, call, hcall, hown⟩ := of_returnsTotal hreturns
    obtain ⟨call', began, hcall', hbegan', htotal, _⟩ :=
      total_of_sample rfl fills_playBegin past hprompt hexact before t [] 0 x rfl hx
    obtain rfl := Option.some.inj (hcall.symm.trans hcall')
    obtain rfl := Option.some.inj (hbegan.symm.trans hbegan')
    exact ⟨before, t, e', past, x, hx, hbegan, (htotal (.inr hown)).trans hnow⟩
  · obtain ⟨before, t, e', past, hprompt, hexact, hreturns⟩ := exists_waited
    obtain ⟨⟨x, hx, _, hfetched⟩, hbegan, hnow, _⟩ := of_returnsTotal hreturns
    obtain ⟨_, _, _, _, _, htotal⟩ := total_of_sample rfl fills_playBegin past hprompt hexact before t [] 1 x rfl hx
    obtain ⟨since, hsince, _, hsum⟩ := htotal hfetched
    exact ⟨before, t, e', past, x, since, hx, hbegan, hsince, hsum.trans hnow⟩

/-- **A total may leave out** what the call has waited for. -/
theorem waiting_left_out :
    ¬∀ (steps : List ExecutorTransition) (e' : Executor), playBegin.History steps e' →
      (∀ t ∈ steps, ExecutorTransition.isPrompt t = true) → Throughout isExact steps →
      ∀ before t after c x began, steps = before ++ t :: after → ExecutorTransition.returned? t c = some x →
        lastStart? before c = some began → x.total.nanos + began.nanos = t.before.now.nanos := by
  intro htotal
  obtain ⟨before, t, e', past, hprompt, hexact, hreturns⟩ := exists_waited
  obtain ⟨⟨x, hx, htook, _⟩, hbegan, hnow, _⟩ := of_returnsTotal hreturns
  have hsum := htotal _ e' past hprompt hexact before t [] 1 x ⟨0⟩ rfl hx hbegan
  rw [htook, hnow] at hsum
  cases hsum

end Executor

end HttpBench
