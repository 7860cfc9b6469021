import Mathlib.Tactic.SplitIfs
import HttpBench.Run.Plan

/-!
# What a checked run is

A run passes its check exactly when its numbers are in order and its target can be made
(`RunSettings.validate_eq_ok`); the plan is then what was asked for, with that target. So the
concurrency of a plan is at least one and at most the number of its requests.
-/

namespace HttpBench

/-- **The numbers of a run are in order**: there is something to do, and somebody to do each share. -/
structure RunOptions.Sound (o : RunOptions) : Prop where
  concurrency : 0 < o.concurrency
  share : o.concurrency ≤ o.requests
  timeout : o.timeout ≠ .zero
  cacheTtl : o.cacheEnabled = true → o.cacheTtl ≠ .zero
  iterations : 0 < o.iterations

/-- **Nothing is wrong** with the numbers of a run exactly when they are in order. -/
theorem RunOptions.error?_eq_none {o : RunOptions} : o.error? = none ↔ o.Sound := by
  unfold RunOptions.error?
  constructor
  · intro h
    split_ifs at h
    exact ⟨by omega, by omega, ‹_›, fun hcache => by simp_all, by omega⟩
  · intro ⟨hconcurrency, hshare, htimeout, hcacheTtl, hiterations⟩
    rw [if_neg (by omega), if_neg (by omega), if_neg (by omega), if_neg htimeout,
      if_neg (fun h => hcacheTtl h.1 h.2), if_neg (by omega)]

namespace Target

variable {t t' : Target} {headers : List (String × String)}

theorem eq_of_withHeader {name value : String} (h : t.withHeader name value = .ok t') :
    t' = { t with headers := t.headers ++ [(name, value)] } := by
  unfold withHeader at h
  split_ifs at h
  exact (Except.ok.inj h).symm

/-- **Header fields that pass their checks** are added in their order, and nothing else changes. -/
theorem eq_of_withHeaders (h : t.withHeaders headers = .ok t') : t' = { t with headers := t.headers ++ headers } := by
  induction headers generalizing t with
  | nil =>
    obtain rfl := Except.ok.inj h
    rw [List.append_nil]
  | cons f headers ih =>
    cases hadded : t.withHeader f.1 f.2 with
    | error e => simp [withHeaders, hadded, bind, Except.bind] at h
    | ok added =>
      have hrest : added.withHeaders headers = .ok t' := by
        simpa [withHeaders, hadded, bind, Except.bind] using h
      rw [ih hrest, eq_of_withHeader hadded, List.append_assoc, List.singleton_append]

theorem headers_of_parse {url : String} {method : Method} (h : parse url method = .ok t) : t.headers = [] := by
  unfold parse at h
  split at h <;> cases h
  rfl

end Target

namespace RunSettings

variable {s : RunSettings} {plan : RunPlan}

/-- **A run passes its check** when its numbers are in order and its target can be made. -/
theorem validate_eq_ok :
    s.validate = .ok plan ↔
      s.Sound ∧ ∃ target, s.target = .ok target ∧ plan = { s.toRunOptions with target } := by
  rw [← RunOptions.error?_eq_none]
  unfold validate
  cases herror : s.error? with
  | some e => simp
  | none =>
    cases htarget : s.target with
    | error e => simp [bind, Except.bind]
    | ok target => simp [bind, Except.bind, pure, Except.pure, eq_comm]

/-- The plan has the numbers that were asked for, and they are in order. -/
theorem sound_of_validate (h : s.validate = .ok plan) : plan.toRunOptions = s.toRunOptions ∧ plan.Sound := by
  obtain ⟨hsound, target, _, rfl⟩ := validate_eq_ok.mp h
  exact ⟨rfl, hsound⟩

/-- **The target of a checked run** has the header fields that were asked for, and no others. -/
theorem target_of_validate (h : s.validate = .ok plan) :
    plan.target.headers = s.headers ∧ plan.target.keepAlive = s.keepAlive := by
  obtain ⟨_, target, htarget, rfl⟩ := validate_eq_ok.mp h
  unfold RunSettings.target at htarget
  cases hparse : Target.parse s.url s.method with
  | error e => simp [hparse, bind, Except.bind] at htarget
  | ok parsed =>
    cases hheaded : parsed.withHeaders s.headers with
    | error e => simp [hparse, hheaded, bind, Except.bind] at htarget
    | ok headed =>
      have hheaders : headed.headers = s.headers := by
        rw [Target.eq_of_withHeaders hheaded, Target.headers_of_parse hparse, List.nil_append]
      simp only [hparse, hheaded, bind, Except.bind, pure, Except.pure, Except.ok.injEq] at htarget
      subst htarget
      cases s.body <;> exact ⟨hheaders, rfl⟩

end RunSettings

end HttpBench
