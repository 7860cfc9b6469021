/-!
# Histories of machines

A machine is given by what each label may do to a state. A history is what such a machine has
done from some state on: its steps in their order, each with the states around it. Nothing is
said of how a machine chooses among its labels, so what holds of every history holds of every
schedule.

An invariant is proved for one step and read off a whole history with `History.invariant`; what a
single step of a history may rely on is read off with `History.split`. What comes about some time
is said of runs that never end (`Endless`).
-/

namespace HttpBench

/-- **One step of a machine**, with the states around it. -/
structure Transition (S L : Type) where
  before : S
  label : L
  after : S

/-- **A history**: every step goes on where the one before it ended. -/
inductive History {S L : Type} (next : S → L → S → Prop) (first : S) : List (Transition S L) → S → Prop
  | start : History next first [] first
  | step {steps : List (Transition S L)} {s s' : S} {label : L} (past : History next first steps s)
      (now : next s label s') : History next first (steps ++ [⟨s, label, s'⟩]) s'

namespace History
variable {S L : Type} {next : S → L → S → Prop} {first s s' : S} {steps later : List (Transition S L)}

/-- **An invariant**: what holds at first and is kept by every step holds in the end. -/
theorem invariant {P : S → Prop} (init : P first) (kept : ∀ s label s', P s → next s label s' → P s')
    (h : History next first steps s) : P s := by
  induction h with
  | start => exact init
  | step _ now ih => exact kept _ _ _ ih now

/-- One step is a history. -/
theorem one {label : L} (now : next s label s') : History next s [⟨s, label, s'⟩] s' := .step .start now

/-- What is a history of a machine is one of every machine that can do as much. -/
theorem mono {next' : S → L → S → Prop} (hmore : ∀ s label s', next s label s' → next' s label s')
    (h : History next first steps s) : History next' first steps s := by
  induction h with
  | start => exact .start
  | step _ now ih => exact ih.step (hmore _ _ _ now)

/-- A history goes on with another one from where it ended. -/
theorem append (h : History next first steps s) (h' : History next s later s') :
    History next first (steps ++ later) s' := by
  induction h' with
  | start => rw [List.append_nil]; exact h
  | step _ now ih => rw [← List.append_assoc]; exact .step ih now

/-- **A history is cut at any of its steps** into what was before it and what came after. -/
theorem cut {past rest : List (Transition S L)} {t : Transition S L}
    (h : History next first (past ++ t :: rest) s) :
    History next first past t.before ∧ next t.before t.label t.after ∧ History next t.after rest s := by
  generalize hsteps : past ++ t :: rest = steps at h
  induction h generalizing rest with
  | start => simp at hsteps
  | @step steps s s' label hpast now ih =>
    rcases List.eq_nil_or_concat rest with rfl | ⟨rest, t', rfl⟩
    · obtain ⟨rfl, ht⟩ := List.append_inj' hsteps rfl
      obtain rfl := List.head_eq_of_cons_eq ht
      exact ⟨hpast, now, .start⟩
    · have hsplit : (past ++ t :: rest) ++ [t'] = steps ++ [⟨s, label, s'⟩] := by
        rw [← hsteps, List.concat_eq_append, List.append_assoc, List.cons_append]
      obtain ⟨hrest, ht⟩ := List.append_inj' hsplit rfl
      obtain rfl := List.head_eq_of_cons_eq ht
      obtain ⟨hbefore, hnow, hafter⟩ := ih hrest
      rw [List.concat_eq_append]
      exact ⟨hbefore, hnow, hafter.step now⟩

/-- **Every step of a history** has a history before it and one behind it. -/
theorem split {t : Transition S L} (h : History next first steps s) (ht : t ∈ steps) :
    ∃ past rest, History next first past t.before ∧ next t.before t.label t.after ∧
      History next t.after rest s ∧ steps = past ++ t :: rest := by
  obtain ⟨past, rest, rfl⟩ := List.append_of_mem ht
  obtain ⟨hpast, hnow, hrest⟩ := h.cut
  exact ⟨past, rest, hpast, hnow, hrest, rfl⟩

/-- What every step keeps of an invariant that may look at the steps taken so far. -/
theorem invariantWith {P : List (Transition S L) → S → Prop} (init : P [] first)
    (kept : ∀ steps s label s', History next first steps s → P steps s → next s label s' →
      P (steps ++ [⟨s, label, s'⟩]) s')
    (h : History next first steps s) : P steps s := by
  induction h with
  | start => exact init
  | step past now ih => exact kept _ _ _ _ past ih now

/-- An invariant that only some steps keep holds for as long as there are no other steps. -/
theorem invariantUnder {P : S → Prop} {A : Transition S L → Prop} (init : P first)
    (kept : ∀ s label s', P s → next s label s' → A ⟨s, label, s'⟩ → P s')
    (h : History next first steps s) (hall : ∀ t ∈ steps, A t) : P s := by
  induction h with
  | start => exact init
  | step _ now ih =>
    have hlast := hall _ (List.mem_append_right _ (List.mem_singleton.mpr rfl))
    exact kept _ _ _ (ih fun t ht => hall t (List.mem_append_left _ ht)) now hlast

end History

/-! ## Tests of every step -/

/-- **Every step passes a test**, which may look at the steps before it. -/
def Throughout {A : Type} (test : List A → A → Bool) (steps : List A) : Prop :=
  ∀ past t rest, steps = past ++ t :: rest → test past t = true

namespace Throughout
variable {A : Type} {test : List A → A → Bool} {steps later : List A} {t : A}

theorem iff_getElem : Throughout test steps ↔ ∀ i, ∀ h : i < steps.length, test (steps.take i) steps[i] = true := by
  constructor
  · intro hall i h
    exact hall _ _ (steps.drop (i + 1)) (by rw [List.getElem_cons_drop, List.take_append_drop])
  · rintro h past t rest rfl
    simpa using h past.length (by simp)

instance : Decidable (Throughout test steps) := decidable_of_iff _ iff_getElem.symm

theorem of_append (h : Throughout test (steps ++ later)) : Throughout test steps := by
  intro past t rest hsteps
  exact h past t (rest ++ later) (by rw [hsteps, List.append_assoc, List.cons_append])

theorem last (h : Throughout test (steps ++ [t])) : test steps t = true := h steps t [] rfl

end Throughout

/-! ## Machines whose labels decide the next state -/

/-- **Play labels** from a state on, if all of them can happen one after another. -/
def playFrom {S L : Type} (step : S → L → Option S) (s : S) : List L → Option (List (Transition S L) × S)
  | [] => some ([], s)
  | label :: labels => do
    let s' ← step s label
    let (steps, last) ← playFrom step s' labels
    some (⟨s, label, s'⟩ :: steps, last)

/-- The labels of what was played are those to be played. -/
theorem map_label_of_playFrom {S L : Type} {step : S → L → Option S} {labels : List L} {s : S}
    {r : List (Transition S L) × S} (h : playFrom step s labels = some r) : r.1.map (·.label) = labels := by
  induction labels generalizing s r with
  | nil =>
    obtain rfl := Option.some.inj h
    rfl
  | cons label labels ih =>
    obtain ⟨s', _, h⟩ := Option.bind_eq_some_iff.mp h
    obtain ⟨rest, hrest, hr⟩ := Option.bind_eq_some_iff.mp h
    obtain rfl := Option.some.inj hr
    exact congrArg (label :: ·) (ih hrest)

/-- Labels that can be played make a history. -/
theorem History.of_playFrom {S L : Type} {step : S → L → Option S} {labels : List L} {s : S}
    {r : List (Transition S L) × S} (h : playFrom step s labels = some r) :
    History (fun s label s' => step s label = some s') s r.1 r.2 := by
  induction labels generalizing s r with
  | nil =>
    obtain rfl := Option.some.inj h
    exact .start
  | cons label labels ih =>
    obtain ⟨s', hs, h⟩ := Option.bind_eq_some_iff.mp h
    obtain ⟨rest, hrest, hr⟩ := Option.bind_eq_some_iff.mp h
    obtain rfl := Option.some.inj hr
    exact (History.one hs).append (ih hrest)

/-- So what is played to a state that passes a test is a history that passes it. -/
theorem History.exists_of_any {S L : Type} {step : S → L → Option S} {labels : List L} {s : S}
    {P : List (Transition S L) × S → Bool} (h : (playFrom step s labels).any P = true) :
    ∃ steps s', History (fun s label s' => step s label = some s') s steps s' ∧ P (steps, s') = true := by
  cases hplayed : playFrom step s labels with
  | none =>
    rw [hplayed] at h
    cases h
  | some r =>
    rw [hplayed] at h
    exact ⟨r.1, r.2, .of_playFrom hplayed, h⟩

/-! ## Endless runs -/

/-- **A moment** of a machine: a step, or nothing happens. -/
def Moment {S L : Type} (step : S → L → Option S) (s : S) (label : Option L) (s' : S) : Prop :=
  match label with
  | some l => step s l = some s'
  | none => s' = s

/-- **An endless run** of a machine. -/
structure Endless {S L : Type} (step : S → L → Option S) where
  state : Nat → S
  label : Nat → Option L
  next : ∀ i, Moment step (state i) (label i) (state (i + 1))

namespace Endless
variable {S L : Type} {step : S → L → Option S} {run : Endless step} {i : Nat} {l : L}

theorem next_of_label (h : run.label i = some l) : step (run.state i) l = some (run.state (i + 1)) := by
  have hnext := run.next i
  rw [h] at hnext
  exact hnext

theorem step_or_same (run : Endless step) (i : Nat) :
    (∃ l, run.label i = some l ∧ step (run.state i) l = some (run.state (i + 1))) ∨
      run.state (i + 1) = run.state i := by
  cases hlabel : run.label i with
  | none =>
    have hnext := run.next i
    rw [hlabel] at hnext
    exact .inr hnext
  | some l => exact .inl ⟨l, rfl, next_of_label hlabel⟩

/-- What holds at first and is kept by every step holds all the time. -/
theorem invariant {P : S → Prop} (run : Endless step) (init : P (run.state 0))
    (kept : ∀ s l s', P s → step s l = some s' → P s') (i : Nat) : P (run.state i) := by
  induction i with
  | zero => exact init
  | succ i ih =>
    rcases run.step_or_same i with ⟨l, _, hstep⟩ | hsame
    · exact kept _ _ _ ih hstep
    · rw [hsame]
      exact ih

/-- A run that goes on with another one after a step. -/
def cons {s : S} {l : L} (run : Endless step) (h : step s l = some (run.state 0)) : Endless step where
  state
    | 0 => s
    | i + 1 => run.state i
  label
    | 0 => some l
    | i + 1 => run.label i
  next
    | 0 => h
    | i + 1 => run.next i

/-- Labels that can be played are the beginning of a run, in which nothing happens afterwards. -/
theorem exists_of_playFrom {labels : List L} {s : S} (h : (playFrom step s labels).isSome = true) :
    ∃ run : Endless step, ∀ i, (playFrom step s (labels.take i)).map (·.2) = some (run.state i) := by
  induction labels generalizing s with
  | nil => exact ⟨⟨fun _ => s, fun _ => none, fun _ => rfl⟩, fun i => by rw [List.take_nil]; rfl⟩
  | cons l labels ih =>
    obtain ⟨r, hr⟩ := Option.isSome_iff_exists.mp h
    obtain ⟨s', hs', hr⟩ := Option.bind_eq_some_iff.mp hr
    obtain ⟨rest, hrest, _⟩ := Option.bind_eq_some_iff.mp hr
    obtain ⟨run, hrun⟩ := ih (s := s') (by rw [hrest]; rfl)
    have hfirst : s' = run.state 0 := Option.some.inj (hrun 0)
    refine ⟨run.cons (hfirst ▸ hs'), fun i => ?_⟩
    cases i with
    | zero => rfl
    | succ i =>
      obtain ⟨r, hr, hlast⟩ := Option.map_eq_some_iff.mp (hrun i)
      rw [List.take_succ_cons]
      simp only [playFrom, hs', hr, Option.bind_eq_bind, Option.bind_some, Option.map_some]
      exact congrArg some hlast

end Endless

end HttpBench
