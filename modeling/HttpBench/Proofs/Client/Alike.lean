import HttpBench.Proofs.Client.Requests

/-!
# Requests that get the same answers

A request that makes a connection of its own goes on by what the network answers, and by nothing else of
its client: two such requests for one target that have got the same answers stand alike (`RequestCall.Gets.alike`),
and what one can be answered the other can (`Client.step_of_alike`). The numbers of their connections and
their times may differ.
-/

namespace HttpBench

/-- The caller whose request the network answers. -/
def ClientLabel.answers? : ClientLabel → Option Nat
  | .resolved c _ | .connected c _ | .secured c _ | .answered c _ | .lost c | .broken c _ | .received c _ => some c
  | .begin .. | .ready .. | .expire _ | .leave _ | .close _ | .pass _ => none

theorem ClientLabel.caller?_of_answers? {label : ClientLabel} {c : Nat} (h : label.answers? = some c) :
    label.caller? = some c := by
  cases label <;> first | exact h | cases h

/-- **Two requests stand alike**, each with a connection of its own or on the way to one. -/
inductive RequestStage.Alike : RequestStage → RequestStage → Prop
  | resolving : Alike .resolving .resolving
  | dialling {address : Host} : Alike (.dialling address) (.dialling address)
  | securing : Alike .securing .securing
  | awaiting {link link' : Nat} : Alike (.awaiting link false) (.awaiting link' false)
  | reading {link link' : Nat} {head : ResponseHead} : Alike (.reading link head) (.reading link' head)
  | ended {x x' : Exchange} (hresult : x.result = x'.result) : Alike (.ended x) (.ended x')

namespace RequestCall

variable {call call' : RequestCall} {after after' : Option RequestCall} {now now' : Instant} {c : Nat}
  {label : ClientLabel} {labels : List ClientLabel} {target : Target} {f f' : Failure}

/-- **Two requests for one target fare alike.** -/
structure Alike (call call' : RequestCall) : Prop where
  target : call.target = call'.target
  stage : call.stage.Alike call'.stage

namespace Alike

theorem connecting (htarget : call.target = call'.target) : (call.connecting now).Alike (call'.connecting now') := by
  cases call
  cases call'
  cases htarget
  unfold RequestCall.connecting
  dsimp only
  split_ifs
  · exact ⟨rfl, .dialling⟩
  · exact ⟨rfl, .resolving⟩

theorem endedWith {result : Except Failure Response} (htarget : call.target = call'.target) :
    (call.endedWith now result).Alike (call'.endedWith now' result) := ⟨htarget, .ended rfl⟩

theorem submitted {link link' : Nat} (htarget : call.target = call'.target) :
    (call.submitted now link false).Alike (call'.submitted now' link' false) := by
  cases call
  cases call'
  cases htarget
  unfold RequestCall.submitted
  dsimp only
  split_ifs
  · exact ⟨rfl, .awaiting⟩
  · exact endedWith rfl

/-- The same answer fails both in the same way. -/
theorem fails (h : call.Alike call') (hlabel : label.answers? = some c) (hfails : call.Fails now c label f)
    (hfails' : call'.Fails now' c label f') : f = f' := by
  obtain ⟨htarget, hstage⟩ := h
  cases hfails with
  | lookUp => cases hfails'; rw [htarget]
  | nowhere => cases hfails'; rw [htarget]
  | dial hs =>
    cases hfails' with
    | dial hs' =>
      rw [hs, hs'] at hstage
      cases hstage
      simp only [endpoint, htarget]
  | handshake => cases hfails'; rfl
  | lost => cases hfails'; rfl
  | broken => cases hfails'; rfl
  | body => cases hfails'; rfl
  | expire => cases hlabel

/-- **The same answer takes both on alike.** -/
theorem turns (h : call.Alike call') (hlabel : label.answers? = some c) (hturns : Turns now c label (some call) after)
    (hturns' : Turns now' c label (some call') after') :
    ∃ next next', after = some next ∧ after' = some next' ∧ next.Alike next' := by
  obtain ⟨htarget, hstage⟩ := h
  cases hturns with
  | reuse | reject | leave => cases hlabel
  | resolve hs =>
    cases hturns' with
    | resolve => exact ⟨_, _, rfl, rfl, htarget, .dialling⟩
    | fail hfails => cases hfails
  | connect hs hscheme =>
    cases hturns' with
    | connect => exact ⟨_, _, rfl, rfl, submitted htarget⟩
    | secure _ hscheme' =>
      rw [htarget, hscheme'] at hscheme
      cases hscheme
    | fail hfails => cases hfails
  | secure hs hscheme =>
    cases hturns' with
    | secure => exact ⟨_, _, rfl, rfl, htarget, .securing⟩
    | connect _ hscheme' =>
      rw [htarget, hscheme'] at hscheme
      cases hscheme
    | fail hfails => cases hfails
  | shake hs =>
    cases hturns' with
    | shake => exact ⟨_, _, rfl, rfl, submitted htarget⟩
    | fail hfails => cases hfails
  | answer hs =>
    cases hturns' with
    | answer => exact ⟨_, _, rfl, rfl, htarget, .reading⟩
    | fail hfails => cases hfails
  | retry hs =>
    -- a request with a connection of its own is not sent once more
    rw [hs] at hstage
    cases hstage
  | complete hs =>
    cases hturns' with
    | complete hs' =>
      rw [hs, hs'] at hstage
      cases hstage
      exact ⟨_, _, rfl, rfl, endedWith htarget⟩
    | fail hfails => cases hfails
  | fail hfails =>
    cases hturns' with
    | fail hfails' =>
      obtain rfl := fails ⟨htarget, hstage⟩ hlabel hfails hfails'
      exact ⟨_, _, rfl, rfl, endedWith htarget⟩
    | retry hs' =>
      rw [hs'] at hstage
      generalize call.stage = stage at hstage
      cases hstage
    | reuse | reject | leave => cases hlabel
    | resolve | connect | secure | shake | answer | complete => cases hfails

end Alike

/-- **What a request stands at** once it made a connection of its own and got these answers. -/
inductive Gets (target : Target) (c : Nat) : List ClientLabel → RequestCall → Prop
  | start {call : RequestCall} {now : Instant} (htarget : call.target = target) : Gets target c [] (call.connecting now)
  | next {labels : List ClientLabel} {label : ClientLabel} {call call' : RequestCall} {now : Instant}
      (past : Gets target c labels call) (hlabel : label.answers? = some c)
      (hturns : Turns now c label (some call) (some call')) : Gets target c (labels ++ [label]) call'

/-- **The answers decide** what a request stands at. -/
theorem Gets.alike (h : Gets target c labels call) (h' : Gets target c labels call') : call.Alike call' := by
  induction h generalizing call' with
  | start htarget =>
    generalize hnil : ([] : List ClientLabel) = labels at h'
    cases h' with
    | start htarget' => exact .connecting (htarget.trans htarget'.symm)
    | next => simp at hnil
  | @next labels label call next now past hlabel hturns ih =>
    generalize hsnoc : labels ++ [label] = labels' at h'
    cases h' with
    | start => simp at hsnoc
    | next past' _ hturns' =>
      obtain ⟨rfl, hlast⟩ := List.append_inj' hsnoc rfl
      obtain rfl := List.singleton_inj.mp hlast
      obtain ⟨_, _, hafter, hafter', halike⟩ := (ih past').turns hlabel hturns hturns'
      obtain rfl := Option.some.inj hafter
      obtain rfl := Option.some.inj hafter'
      exact halike

/-- It has a connection of its own, or is on the way to one. -/
theorem Gets.own (h : Gets target c labels call) : call.stage.Alike call.stage := (h.alike h).stage

/-- **It says that its connection is a new one**, from when it is sent. -/
def SentAnew (call : RequestCall) : Prop :=
  match call.stage with
  | .awaiting .. | .reading .. => call.watch.reused = some false
  | .ended x => ∀ r, x.result = .ok r → x.phases.reused = some false
  | .readying _ | .resolving | .dialling _ | .securing => True

theorem sentAnew_submitted {link : Nat} : (call.submitted now link false).SentAnew := by
  unfold submitted
  dsimp only
  split_ifs
  · rfl
  · exact fun r hr => by cases hr

theorem Gets.sentAnew (h : Gets target c labels call) : call.SentAnew := by
  induction h with
  | @start call now =>
    unfold connecting
    dsimp only
    split_ifs <;> trivial
  | @next labels label call call' now past hlabel hturns ih =>
    generalize hafter : some call' = after at hturns
    cases hturns with
    | reuse | reject | leave => cases hlabel
    | connect | shake =>
      obtain rfl := Option.some.inj hafter
      exact sentAnew_submitted
    | resolve | secure =>
      obtain rfl := Option.some.inj hafter
      trivial
    | answer hstage | complete hstage =>
      obtain rfl := Option.some.inj hafter
      rw [SentAnew, hstage] at ih
      first | exact ih | exact fun _ _ => ih
    | retry hstage =>
      have hown := past.own
      rw [hstage] at hown
      cases hown
    | fail =>
      obtain rfl := Option.some.inj hafter
      exact fun r hr => by cases hr

end RequestCall

namespace Client

variable {s s' t : Client} {c : Nat} {call call' : RequestCall} {label : ClientLabel}

/-- **What one request can be answered**, every request that fares alike can. -/
theorem step_of_alike (hcall : s.call? c = some call) (hcall' : t.call? c = some call') (halike : call.Alike call')
    (hlabel : label.answers? = some c) (hstep : s.step label = some s') :
    ∃ t' next next', t.step label = some t' ∧ s'.call? c = some next ∧ t'.call? c = some next' ∧ next.Alike next' := by
  have hcan : (t.step label).isSome = true := by
    obtain ⟨_, hstage⟩ := halike
    cases label <;> cases hlabel <;>
      simp only [step, hcall, hcall', Option.bind_eq_bind, Option.bind_some] at hstep ⊢ <;>
      generalize call.stage = stage at hstep hstage <;> generalize call'.stage = stage' at hstage ⊢ <;>
      cases hstage <;> first | rfl | cases hstep
  obtain ⟨t', ht'⟩ := Option.isSome_iff_exists.mp hcan
  have hcaller := ClientLabel.caller?_of_answers? hlabel
  have hturns := (turns_of_step hstep c).resolve_right fun h => h.1 hcaller
  have hturns' := (turns_of_step ht' c).resolve_right fun h => h.1 hcaller
  rw [hcall] at hturns
  rw [hcall'] at hturns'
  obtain ⟨next, next', hnext, hnext', halike⟩ := halike.turns hlabel hturns.2 hturns'.2
  exact ⟨t', next, next', ht', hnext, hnext', halike⟩

end Client

end HttpBench
