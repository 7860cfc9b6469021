import HttpBench.Proofs.Suite.Possibilities

/-!
# A suite comes to its end

From wherever it has got to, a suite can be brought to its end: the run under way by steps that it
makes by itself (`Dispatch.canReach_isOver`), and then the runs that are left. Every run leaves the
shared cache unused to the next, so none has to wait for what another has not finished.

Nothing is said of the time that this takes.
-/

namespace HttpBench

variable {x : Exchange}

/-- **A suite goes on by itself**: with the run under way, and with what comes then. -/
inductive SuiteEvent.GoesOn (x : Exchange) : List SuiteEvent → List SuiteEvent → Prop
  | rest {events rest : List SuiteEvent} (hrest : ∀ e ∈ rest, e.IsOwn x) : GoesOn x events (events ++ rest)
  | run {before rest : List SuiteEvent} {first : Dispatch} {steps later : List DispatchTransition}
      (hlater : ∀ t ∈ later, t.label.IsOwn x) (hrest : ∀ e ∈ rest, e.IsOwn x) :
      GoesOn x (before ++ [.dispatched first steps]) (before ++ .dispatched first (steps ++ later) :: rest)

namespace SuiteEvent.GoesOn

variable {events events' : List SuiteEvent}

theorem refl : GoesOn x events events := by
  have hnothing : GoesOn x events (events ++ []) := .rest (by simp)
  rwa [List.append_nil] at hnothing

theorem append (h : GoesOn x events events') {more : List SuiteEvent} (hmore : ∀ e ∈ more, e.IsOwn x) :
    GoesOn x events (events' ++ more) := by
  cases h with
  | rest hrest =>
    rw [List.append_assoc]
    exact .rest (List.forall_mem_append.mpr ⟨hrest, hmore⟩)
  | run hlater hrest =>
    rw [List.append_assoc, List.cons_append]
    exact .run hlater (List.forall_mem_append.mpr ⟨hrest, hmore⟩)

theorem prepend (h : GoesOn x events events') (before : List SuiteEvent) :
    GoesOn x (before ++ events) (before ++ events') := by
  cases h with
  | rest hrest =>
    rw [← List.append_assoc]
    exact .rest hrest
  | run hlater hrest =>
    rw [← List.append_assoc, ← List.append_assoc]
    exact .run hlater hrest

end SuiteEvent.GoesOn

namespace Scene

variable {p : Scene} {plan : RunPlan} {steps : List DispatchTransition} {d : Dispatch} {result : RunResult}

/-- A run that has begun can be brought to its end. -/
theorem Unused.canReach (h : p.Unused) (x : Exchange) (past : (p.begin plan).History steps d) :
    d.CanReach x Dispatch.IsOver :=
  Dispatch.canReach_isOver x past h

/-- A run leaves its scene unused. -/
theorem Unused.afterRun (h : p.Unused) (past : (p.begin plan).History steps d) (result : RunResult) :
    (afterRun d result).Unused :=
  (Dispatch.unused_of_history past h).1

end Scene

namespace Possibly

variable {A B : Type} {m : Possibly A} {f : A → Possibly B} {answer : Scene → A → Prop}

/-- **An action comes to an end**, where nobody is at work on the shared cache: it can be carried out by
itself from its beginning, and from wherever it has got to; and then nobody is at work there again. -/
structure Ends (x : Exchange) (m : Possibly A) : Prop where
  finishes : ∀ p, p.Unused → ∃ events a q, m p events (.finished a q) ∧ ∀ e ∈ events, e.IsOwn x
  goesOn : ∀ p events standing, p.Unused → m p events standing →
    ∃ events' a q, SuiteEvent.GoesOn x events events' ∧ m p events' (.finished a q)
  unused : ∀ p events a q, p.Unused → m p events (.finished a q) → q.Unused

namespace Ends

theorem pure (a : A) : Ends x (Pure.pure a) where
  finishes p _ := ⟨[], a, p, ⟨rfl, rfl⟩, by simp⟩
  goesOn p events standing _ h := by
    obtain ⟨rfl, rfl⟩ := h
    exact ⟨[], a, p, .refl, rfl, rfl⟩
  unused p events b q hp h := by
    obtain ⟨_, _, rfl⟩ := pure_finished.mp h
    exact hp

theorem bind (hm : Ends x m) (hf : ∀ a, Ends x (f a)) : Ends x (m >>= f) where
  finishes p hp := by
    obtain ⟨before, a, q, h, hbefore⟩ := hm.finishes p hp
    obtain ⟨after, b, q', h', hafter⟩ := (hf a).finishes q (hm.unused p before a q hp h)
    exact ⟨before ++ after, b, q', .finished h h', List.forall_mem_append.mpr ⟨hbefore, hafter⟩⟩
  goesOn p events standing hp h := by
    -- the first action is brought to its end, and the second one follows by itself
    have hfirst : ∀ {standing}, m p events standing →
        ∃ events' b q, SuiteEvent.GoesOn x events events' ∧ (m >>= f) p events' (.finished b q) := by
      intro standing h
      obtain ⟨before, a, q, hbefore, h⟩ := hm.goesOn p events standing hp h
      obtain ⟨after, b, q', h', hafter⟩ := (hf a).finishes q (hm.unused p before a q hp h)
      exact ⟨before ++ after, b, q', hbefore.append hafter, .finished h h'⟩
    cases h with
    | between h => exact hfirst h
    | within h => exact hfirst h
    | @finished before after a q _ h h' =>
      obtain ⟨after', b, q', hafter, h'⟩ := (hf a).goesOn q after standing (hm.unused p before a q hp h) h'
      exact ⟨before ++ after', b, q', hafter.prepend before, .finished h h'⟩
  unused p events b q hp h := by
    obtain ⟨before, after, a, p', rfl, h, h'⟩ := bind_finished.mp h
    exact (hf a).unused p' after b q (hm.unused p before a p' hp h) h'

theorem meanwhile (hanswer : ∀ p, ∃ a, answer p a) : Ends x (Meanwhile answer) where
  finishes p _ := by
    obtain ⟨a, ha⟩ := hanswer p
    exact ⟨[], a, p, .finished [] ha, by simp⟩
  goesOn p events standing _ h := by
    cases h with
    | before asides =>
      obtain ⟨a, ha⟩ := hanswer (p.afterAll asides)
      exact ⟨_, a, _, .refl, .finished asides ha⟩
    | finished asides ha => exact ⟨_, _, _, .refl, .finished asides ha⟩
  unused p events a q hp h := by
    obtain ⟨asides, _, rfl, _⟩ := meanwhile_finished.mp h
    exact hp.afterAll asides

theorem dispatching (plan : RunPlan) : Ends x (Dispatching plan) where
  finishes p hp := by
    obtain ⟨steps, d, past, ⟨result, hdone⟩, hown⟩ := hp.canReach x (.start : (p.begin plan).History [] _)
    exact ⟨_, result, _, .finished [] past hdone, by simpa [SuiteEvent.IsOwn] using hown⟩
  goesOn p events standing hp h := by
    cases h with
    | before asides =>
      have hlater : (p.afterAll asides).Unused := hp.afterAll asides
      obtain ⟨steps, d, past, ⟨result, hdone⟩, hown⟩ := hlater.canReach x (.start : (Scene.begin _ plan).History [] _)
      exact ⟨_, result, _, .rest (by simpa [SuiteEvent.IsOwn] using hown), .finished asides past hdone⟩
    | within asides past =>
      obtain ⟨later, d, more, ⟨result, hdone⟩, hown⟩ := (hp.afterAll asides).canReach x past
      exact ⟨_, result, _, .run hown (by simp), .finished asides (past.append more) hdone⟩
    | finished asides past hdone => exact ⟨_, _, _, .refl, .finished asides past hdone⟩
  unused p events result q hp h := by
    obtain ⟨asides, steps, d, _, past, _, rfl⟩ := dispatching_finished h
    exact (hp.afterAll asides).afterRun past result

end Ends

end Possibly

namespace Suite

open Possibly

variable {name : String} {interval : Option Duration} {plans : List RunPlan} {settings : List RunSettings}

theorem ends_runOnce (plan : RunPlan) (iteration : Nat) :
    Ends x (runOnce (anywhere name) interval plan iteration) := by
  cases interval with
  | none =>
    refine .bind (.meanwhile fun _ => ⟨(), trivial⟩) fun _ => ?_
    refine .bind (.dispatching _) fun result => ?_
    exact .bind (.pure none) fun _ => .pure _
  | some interval =>
    refine .bind (.meanwhile fun _ => ⟨(), trivial⟩) fun _ => ?_
    refine .bind (.meanwhile fun _ => ⟨(), trivial⟩) fun _ => ?_
    refine .bind (.dispatching _) fun result => ?_
    exact .bind (.meanwhile fun _ => ⟨none, trivial⟩) fun _ => .pure _

theorem ends_runAll (entries : List (RunPlan × Nat)) : Ends x (runAll (anywhere name) interval entries) := by
  induction entries with
  | nil => exact .pure []
  | cons entry entries ih =>
    refine .bind (.meanwhile fun p => ⟨p.cancelled, rfl⟩) fun stop => ?_
    cases stop with
    | true => exact .pure []
    | false => exact .bind (ends_runOnce _ _) fun _ => .bind ih fun _ => .pure _

/-- **A suite of checked runs comes to its end**, with its resources watched or not. -/
theorem ends_attempt (hplans : validate settings = .ok plans) :
    Ends x (attempt (anywhere name) interval settings) := by
  unfold attempt
  rw [hplans]
  refine .bind ?_ fun _ => .pure _
  refine .bind (.meanwhile fun _ => ⟨(), trivial⟩) fun _ => ?_
  refine .bind (ends_runAll _) fun runs => ?_
  refine .bind (.meanwhile fun p => ⟨p.cancelled, rfl⟩) fun cancelled => ?_
  cases cancelled with
  | true => exact .bind (.meanwhile fun _ => ⟨(), trivial⟩) fun _ => .pure _
  | false => exact .pure _

end Suite

end HttpBench
