import HttpBench.Cache.Response
import HttpBench.Http.Target
import HttpBench.Logging.Event
import HttpBench.Sample.Basic

/-!
# Carrying out requests

An executor carries out requests for many callers at once, with a cache if it
has one. A call goes through stages, and `Executor.step` takes one call from
one stage to the next: a step is what nobody else can come between.

* Without the cache a call is fetched at once.
* With the cache the caller claims its key. A leader looks the key up, and
  fetches what is missing. A follower asks for the lock of the leader's slot,
  waits until it is handed the lock, hands it on and looks up then; what is
  still missing it fetches itself, and nobody waits for it.
* The answer of the transport ends a fetch. A successful response goes to the
  cache at once.
* A call that is over closes. A leader first takes its slot off the table of
  keys, then gives the lock up.

Whatever happens, a call ends with a sample, or is cut off without a trace
except in the counts of the cache.
-/

namespace HttpBench

/-- **How requests are carried out.** -/
structure ExecutorSettings where
  timeout : Duration := .seconds 30
  cacheTtl : Duration := .seconds 300
  policy : StatusPolicy := .non2xx
deriving DecidableEq, Repr, Inhabited

/-- **How a call ends.** -/
inductive CallEnd where
  | sample (sample : Sample)
  /-- its caller has seen a cancellation -/
  | cut
  /-- the transport has taken its caller down -/
  | crash
deriving DecidableEq, Repr

/-- **Where a call stands.** -/
inductive CallStage where
  /-- it follows the leader of a slot, and has yet to ask for the lock -/
  | following (slot : Nat)
  /-- it waits for the lock of a slot -/
  | waiting (slot : Nat)
  /-- it may look its key up -/
  | looking
  /-- the transport has it -/
  | fetching
  /-- it is over, but for the slot of a leader -/
  | closing (ending : CallEnd)
  /-- it is over, but for the lock of a leader, whose slot is off the table -/
  | unlisted (ending : CallEnd)
deriving DecidableEq, Repr

namespace CallStage

/-- How the call ends, once that is known. -/
def ending? : CallStage → Option CallEnd
  | .closing ending | .unlisted ending => some ending
  | _ => none

/-- The call may have to wait for somebody else. -/
def isPending : CallStage → Bool
  | .waiting _ | .fetching => true
  | _ => false

end CallStage

/-- **A call under way.** -/
structure Call where
  target : Target
  /-- the key in the cache, if the call uses the cache -/
  key : Option CacheKey
  sequence : Nat
  started : Instant
  /-- the slot of a leader -/
  leads : Option Nat := none
  stage : CallStage

/-- **What can happen to a call.** -/
inductive CallLabel where
  /-- it begins -/
  | start (target : Target) (useCache : Bool) (sequence : Nat)
  /-- a follower asks for the lock of its slot -/
  | ask
  /-- a follower goes on, which has been handed the lock -/
  | resume
  | lookUp
  /-- the transport answers -/
  | reply (answer : Exchange)
  /-- its caller has seen a cancellation, and cuts it off -/
  | cut
  /-- the transport takes its caller down -/
  | crash
  /-- a leader takes its slot off the table -/
  | unlist
  /-- it goes, and a leader gives the lock up -/
  | leave

/-- The call gets on by this, and its caller is not about to leave. -/
def CallLabel.isInTurn : CallLabel → Bool
  | .ask | .resume | .lookUp | .reply _ | .crash => true
  | .start .. | .cut | .unlist | .leave => false

namespace Sample

/-- **The sample of an answer** of the transport. -/
def ofExchange (policy : StatusPolicy) (sequence : Nat) (x : Exchange) : Sample where
  sequence
  outcome := match x.result with
    | .ok r => .ofStatus policy r.status
    | .error f => .transportError f
  total := x.total
  phases := x.phases
  fromCache := false
  bytes := match x.result with
    | .ok r => r.body.length
    | .error _ => 0
  protocol := match x.result with
    | .ok r => some r.protocol
    | .error _ => none

/-- **The sample of a response from the cache**, which took as long as the
caller had to wait for it. -/
def ofCached (policy : StatusPolicy) (sequence : Nat) (r : Response) (waited : Duration) : Sample where
  sequence
  outcome := .ofStatus policy r.status
  total := waited
  phases := .none
  fromCache := true
  bytes := r.body.length
  protocol := some r.protocol

end Sample

/-- **An executor**: its settings, its cache and the calls under way. -/
structure Executor where
  settings : ExecutorSettings
  cache : Option ResponseCache
  calls : List (Caller × Call) := []
  now : Instant

namespace Executor

instance : Inhabited Executor := ⟨{ settings := {}, cache := none, now := ⟨0⟩ }⟩

/-- The call of a caller. -/
def call? (e : Executor) (c : Caller) : Option Call := (e.calls.find? (·.1 == c)).map (·.2)

/-- The calls of the other callers. -/
def otherCalls (e : Executor) (c : Caller) : List (Caller × Call) := e.calls.filter (·.1 != c)

/-- Note a call. -/
def setCall (e : Executor) (c : Caller) (call : Call) : Executor :=
  { e with calls := (c, call) :: e.otherCalls c }

/-- Note where a call stands. -/
def setStage (e : Executor) (c : Caller) (call : Call) (stage : CallStage) : Executor :=
  e.setCall c { call with stage }

/-- A call has gone. -/
def dropCall (e : Executor) (c : Caller) : Executor := { e with calls := e.otherCalls c }

/-- Change who fetches what. -/
def changeFills (e : Executor) (f : Fills CacheKey → Fills CacheKey) : Executor :=
  { e with cache := e.cache.map fun k => { k with fills := f k.fills } }

/-- **Begin a call.** -/
def start (e : Executor) (c : Caller) (target : Target) (useCache : Bool) (sequence : Nat) : Executor :=
  let call : Call := { target, key := none, sequence, started := e.now, stage := .fetching }
  match (if useCache then e.cache else none) with
  | none => e.setCall c call
  | some cache =>
    let key := target.cacheKey
    let (fills, claim) := cache.fills.claim key c
    let e := { e with cache := some { cache with fills } }
    match claim with
    | .leads slot => e.setCall c { call with key := some key, leads := some slot, stage := .looking }
    | .follows slot => e.setCall c { call with key := some key, stage := .following slot }

/-- **Ask for the lock of a slot.** If it is free there is nothing to wait for. -/
def ask (e : Executor) (c : Caller) (call : Call) (slot : Nat) : Executor :=
  match e.cache with
  | some cache =>
    let (fills, through) := cache.fills.settle slot c
    { e with cache := some { cache with fills } }.setStage c call (if through then .looking else .waiting slot)
  | none => e.setStage c call .looking

/-- A call has been handed the lock that it waits for. -/
def hasTurn (e : Executor) (c : Caller) (slot : Nat) : Bool :=
  match e.cache with
  | some cache => cache.fills.hasTurn slot c
  | none => false

/-- **Look the key up**: serve what is there, fetch what is missing. -/
def lookUp (e : Executor) (c : Caller) (call : Call) : Executor :=
  match e.cache, call.key with
  | some cache, some key =>
    let (store, found) := cache.store.get key e.now
    { e with cache := some { cache with store } }.setStage c call
      (match found with
      | some r => .closing (.sample (.ofCached e.settings.policy call.sequence r (e.now.since call.started)))
      | none => .fetching)
  | _, _ => e.setStage c call .fetching

/-- **Store a response** that the policy calls a success. -/
def keep (e : Executor) (call : Call) (x : Exchange) : Executor :=
  match e.cache, call.key, x.result with
  | some cache, some key, .ok r =>
    if e.settings.policy.isFailure r.status then e
    else { e with cache := some { cache with store := cache.store.put key r e.settings.cacheTtl e.now } }
  | _, _, _ => e

/-- **One step of a call.** There is no next state for what cannot happen now. -/
def step (e : Executor) (c : Caller) (label : CallLabel) : Option Executor :=
  match e.call? c with
  | none =>
    match label with
    | .start target useCache sequence => some (e.start c target useCache sequence)
    | _ => none
  | some call =>
    match call.stage, label with
    | .following slot, .ask => some (e.ask c call slot)
    | .waiting slot, .resume =>
      if e.hasTurn c slot then some ((e.changeFills (·.release slot)).setStage c call .looking) else none
    | .looking, .lookUp => some (e.lookUp c call)
    | .fetching, .reply x =>
      some ((e.keep call x).setStage c call (.closing (.sample (.ofExchange e.settings.policy call.sequence x))))
    | .waiting slot, .cut => some ((e.changeFills (·.abandon slot c)).setStage c call (.closing .cut))
    | .fetching, .cut => some (e.setStage c call (.closing .cut))
    | .fetching, .crash => some (e.setStage c call (.closing .crash))
    | .closing ending, .unlist =>
      call.leads.map fun slot => (e.changeFills (·.unlist slot)).setStage c call (.unlisted ending)
    | .closing _, .leave => if call.leads.isNone then some (e.dropCall c) else none
    | .unlisted _, .leave => call.leads.map fun slot => (e.changeFills (·.release slot)).dropCall c
    | _, _ => none

/-- Where the call of a caller stands. -/
def stage? (e : Executor) (c : Caller) : Option CallStage := (e.call? c).map (·.stage)

/-- How the call of a caller ends, once that is known. -/
def ending? (e : Executor) (c : Caller) : Option CallEnd := (e.stage? c).bind CallStage.ending?

/-- The transport has the call of this caller. -/
def isFetching (e : Executor) (c : Caller) : Bool := e.stage? c = some .fetching

/-- The call of this caller may have to wait for somebody else. -/
def isPending (e : Executor) (c : Caller) : Bool := (e.stage? c).any CallStage.isPending

/-- The callers that can go on and have not run since. -/
def onTurn (e : Executor) : List Caller :=
  match e.cache with
  | some cache => cache.fills.onTurn
  | none => []

/-- Drop what has expired from the cache. -/
def purge (e : Executor) : Executor :=
  { e with cache := e.cache.map fun k => { k with store := (k.store.purge e.now).1 } }

/-- Let time pass. -/
def pass (e : Executor) (d : Duration) : Executor := { e with now := e.now.after d }

end Executor

/-- What an executor reports of an answer. -/
def Exchange.event? (x : Exchange) (sequence : Nat) : Option LogEvent :=
  match x.result with
  | .error f => some {
      level := .debug
      source := .executor
      message := "Request " ++ Nat.repr sequence ++ " failed: " ++ f.message }
  | .ok _ => none

end HttpBench
