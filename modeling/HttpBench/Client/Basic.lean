import HttpBench.Client.Pool
import HttpBench.Http.Connection
import HttpBench.Http.Response
import HttpBench.Timing.Stopwatch

/-!
# A client that sees the phases of its requests

A client resolves, connects, shakes hands and sends by itself, and so knows
when each phase starts and ends. It carries out requests for many callers at
once, every caller one at a time, and keeps connections for further requests.

The client is a state that changes step by step. What a caller does and what
the network answers comes in as a `ClientLabel`; a step that cannot happen has
no next state. So all interleavings of all callers, with all answers at all
times, are the sequences of labels that can happen.

A request that gets a connection from the pool has no phases before it is sent.
If that connection turns out to be lost before the response begins, the request
is sent once more on a new connection, whose phases count then. A request ends
with a response or a failure; a timeout may end it wherever it stands, and
leaves the phases that were seen.

A new connection can be sent on at once: to agree on HTTP takes no bytes and
does not fail. An error of a connection other than its loss ends a request as
what is no response does (`ClientLabel.broken`), up to the text of the failure.
-/

namespace HttpBench

/-- **A connection of a client**, open or closed. -/
structure Link where
  key : PoolKey
  closed : Bool := false
deriving Repr

/-- **Where a request stands.** -/
inductive RequestStage where
  /-- it has a connection from the pool, which may not be usable -/
  | readying (link : Nat)
  | resolving
  | dialling (address : Host)
  | securing
  /-- it was sent, on a connection that is from the pool or not -/
  | awaiting (link : Nat) (pooled : Bool)
  /-- the head of the response is there -/
  | reading (link : Nat) (head : ResponseHead)
  | ended (x : Exchange)

/-- **A request under way.** -/
structure RequestCall where
  target : Target
  timeout : Duration
  watch : Stopwatch
  stage : RequestStage

/-- **A client.** -/
structure Client where
  pool : Pool
  /-- all connections there ever were -/
  links : List Link := []
  calls : List (Nat × RequestCall) := []
  now : Instant := ⟨0⟩

/-- **What can happen** to a client. -/
inductive ClientLabel where
  /-- a caller that has no request under way makes one -/
  | begin (c : Nat) (target : Target) (timeout : Duration)
  /-- whether the connection from the pool can be used -/
  | ready (c : Nat) (usable : Bool)
  | resolved (c : Nat) (answer : Except String (List Host))
  | connected (c : Nat) (answer : Except String Unit)
  | secured (c : Nat) (answer : Except String Unit)
  /-- the head of the response is there -/
  | answered (c : Nat) (head : ResponseHead)
  /-- the connection was lost before there was a head -/
  | lost (c : Nat)
  /-- what came is no response -/
  | broken (c : Nat) (e : HeadError)
  /-- the body is there, or never will be -/
  | received (c : Nat) (body : Except BodyError (List UInt8))
  /-- the time of a request is over -/
  | expire (c : Nat)
  /-- a caller goes, or takes what it got -/
  | leave (c : Nat)
  /-- a connection closes by itself -/
  | close (link : Nat)
  | pass (d : Duration)

namespace RequestStage

/-- The connection that the request has. -/
def link? : RequestStage → Option Nat
  | .readying link | .awaiting link _ | .reading link _ => some link
  | .resolving | .dialling _ | .securing | .ended _ => none

end RequestStage

namespace RequestCall

/-- **What came of a request**, now. -/
def exchange (call : RequestCall) (now : Instant) (result : Except Failure Response) : Exchange :=
  { phases := call.watch.phases, total := call.watch.total now, result }

/-- The text of an address and the port to connect to. -/
def endpoint (call : RequestCall) (address : Host) : String :=
  (match address with
    | .ipv6 _ => "[" ++ address.plainText ++ "]"
    | _ => address.plainText) ++ ":" ++ Nat.repr call.target.url.effectivePort

/-- The response to a request. -/
def response (head : ResponseHead) (body : List UInt8) : Response :=
  { status := head.status, headers := head.headers, body, protocol := head.protocol }

end RequestCall

namespace Client

/-- A client at the start of its time, that keeps so many connections. -/
def ofRoom (room : Nat) : Client := { pool := { room } }

/-- The request of a caller. -/
def call? (s : Client) (c : Nat) : Option RequestCall := (s.calls.find? (·.1 == c)).map (·.2)

/-- Note where a request stands. -/
def setCall (s : Client) (c : Nat) (call : RequestCall) : Client :=
  { s with calls := (c, call) :: s.calls.filter (·.1 != c) }

/-- A request is gone. -/
def dropCall (s : Client) (c : Nat) : Client := { s with calls := s.calls.filter (·.1 != c) }

/-- A connection is closed. -/
def isClosed (s : Client) (link : Nat) : Bool := ((s.links[link]?).map (·.closed)).getD true

/-- **Close a connection.** -/
def closeLink (s : Client) (link : Nat) : Client :=
  { s with links := s.links.modify link fun l => { l with closed := true } }

/-- Close the connection that a request has. -/
def closeHeld (s : Client) (stage : RequestStage) : Client :=
  match stage.link? with
  | some link => s.closeLink link
  | none => s

/-- **End a request**: its connection closes, unless it is in the pool. -/
def finish (s : Client) (c : Nat) (call : RequestCall) (result : Except Failure Response) : Client :=
  (s.closeHeld call.stage).setCall c { call with stage := .ended (call.exchange s.now result) }

/-- Start to connect. -/
def dial (s : Client) (c : Nat) (call : RequestCall) (address : Host) : Client :=
  s.setCall c { call with watch := call.watch.note .connectStart s.now, stage := .dialling address }

/-- **Start a new connection**, with a look-up if the host is no address. -/
def connect (s : Client) (c : Nat) (call : RequestCall) : Client :=
  let host := call.target.url.host
  if host.isAddress then s.dial c call host
  else s.setCall c { call with watch := call.watch.note .dnsStart s.now, stage := .resolving }

/-- **Take a connection from the pool**, or start a new one. -/
def checkOut (s : Client) (c : Nat) (call : RequestCall) : Client :=
  let (found, pool) := s.pool.take s.isClosed call.target.url.poolKey
  let s := { s with pool }
  match found with
  | some link => s.setCall c { call with stage := .readying link }
  | none => s.connect c call

/-- **Send a request** on a connection, if it can be sent at all. -/
def submit (s : Client) (c : Nat) (call : RequestCall) (link : Nat) (pooled : Bool) : Client :=
  let call := { call with
    watch := (call.watch.noteReused pooled).note .requestSent s.now
    stage := .awaiting link pooled }
  if call.target.isSendable then s.setCall c call else s.finish c call (.error (.request "uri too long"))

/-- **A new connection is there**: the request is sent on it. -/
def opened (s : Client) (c : Nat) (call : RequestCall) : Client :=
  let fresh : Link := { key := call.target.url.poolKey }
  { s with links := s.links ++ [fresh] }.submit c call s.links.length false

/-- **Keep a connection** for further requests, if its request allows that and
there is room. -/
def keep (s : Client) (target : Target) (link : Nat) : Option Client :=
  if target.keepAlive && !s.isClosed link then
    (s.pool.give target.url.poolKey link).map fun pool => { s with pool }
  else none

/-- **A response is complete.** Its connection is kept, or closed. -/
def complete (s : Client) (c : Nat) (call : RequestCall) (link : Nat) (head : ResponseHead) (body : List UInt8) :
    Client :=
  let call := { call with watch := call.watch.note .complete s.now }
  let ended := { call with stage := .ended (call.exchange s.now (.ok (RequestCall.response head body))) }
  ((s.keep call.target link).getD (s.closeLink link)).setCall c ended

/-- **One step.** -/
def step (s : Client) : ClientLabel → Option Client
  | .begin c target timeout =>
    match s.call? c with
    | some _ => none
    | none => s.checkOut c { target, timeout, watch := .start s.now, stage := .resolving }
  | .ready c usable => do
    let call ← s.call? c
    match call.stage with
    | .readying link => some (if usable then s.submit c call link true else (s.closeLink link).checkOut c call)
    | _ => none
  | .resolved c answer => do
    let call ← s.call? c
    match call.stage with
    | .resolving =>
      let host := call.target.url.host.plainText
      some (match answer with
        | .error e => s.finish c call (.error (.dns (host ++ ": " ++ e)))
        | .ok [] => s.finish c call (.error (.dns (host ++ ": no addresses returned")))
        | .ok (address :: _) => s.dial c { call with watch := call.watch.note .dnsEnd s.now } address)
    | _ => none
  | .connected c answer => do
    let call ← s.call? c
    match call.stage with
    | .dialling address =>
      some (match answer with
        | .error e => s.finish c call (.error (.connect (call.endpoint address ++ ": " ++ e)))
        | .ok () =>
          let call := { call with watch := call.watch.note .connectEnd s.now }
          match call.target.url.scheme with
          | .http => s.opened c call
          | .https => s.setCall c { call with watch := call.watch.note .tlsStart s.now, stage := .securing })
    | _ => none
  | .secured c answer => do
    let call ← s.call? c
    match call.stage with
    | .securing =>
      some (match answer with
        | .error e => s.finish c call (.error (.tls e))
        | .ok () => s.opened c { call with watch := call.watch.note .tlsEnd s.now })
    | _ => none
  | .answered c head => do
    let call ← s.call? c
    match call.stage with
    | .awaiting link _ =>
      some (s.setCall c { call with watch := call.watch.note .firstByte s.now, stage := .reading link head })
    | _ => none
  | .lost c => do
    let call ← s.call? c
    match call.stage with
    | .awaiting link true => some ((s.closeLink link).connect c call)
    | .awaiting _ false =>
      some (s.finish c call (.error (.protocol "connection closed before message completed")))
    | _ => none
  | .broken c e => do
    let call ← s.call? c
    match call.stage with
    | .awaiting .. => some (s.finish c call (.error (.protocol e.message)))
    | _ => none
  | .received c body => do
    let call ← s.call? c
    match call.stage with
    | .reading link head =>
      some (match body with
        | .error e => s.finish c call (.error (.body e.message))
        | .ok body => s.complete c call link head body)
    | _ => none
  | .expire c => do
    let call ← s.call? c
    match call.stage with
    | .ended _ => none
    | _ =>
      if call.timeout.nanos ≤ (s.now.since call.watch.started).nanos then
        some (s.finish c call (.error (.timeout call.timeout.wholeMillis)))
      else none
  | .leave c => (s.call? c).map fun call => (s.closeHeld call.stage).dropCall c
  | .close link => if link < s.links.length then some (s.closeLink link) else none
  | .pass d => some { s with now := s.now.after d }

end Client

end HttpBench
