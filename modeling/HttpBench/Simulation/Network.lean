import HttpBench.Client.Basic
import HttpBench.Simulation.Carrier

/-!
# A network that plays a script

A simulated network resolves, connects, shakes hands and serves as its script
says, each in its own time. On top of it runs a client. Whatever takes no time
happens at once, in the turn of whoever waits for it.

A peer takes one request after another, each whole, and plays one reply for
each: it waits, writes, and perhaps closes. When it has no reply left it closes
after a while, or stays open without a word.

What a peer writes is read in a turn of the connection's own, and only then
whoever waits for it is woken. So a timeout at the same time comes first.
-/

namespace HttpBench.Simulation

/-- **The look-up of a name.** -/
structure Lookup where
  delay : Duration
  answer : Except String (List Host)

/-- **A handshake.** -/
structure Handshake where
  delay : Duration := ⟨0⟩
  error : Option String := none

/-- **What a peer does**, one after another. -/
inductive PeerAction where
  | wait (d : Duration)
  | write (bytes : List UInt8)
  | close

/-- **What comes** from a peer. -/
inductive Arrival where
  | bytes (b : List UInt8)
  | hangUp

/-- What comes, behind what has not been read: bytes join the bytes before them. -/
def Arrival.addTo : List Arrival → Arrival → List Arrival
  | [], a => [a]
  | [.bytes b], .bytes more => [.bytes (b ++ more)]
  | first :: rest, a => first :: addTo rest a

/-- **What happens on a new connection.** -/
structure Listener where
  delay : Duration := ⟨0⟩
  error : Option String := none
  /-- what the peer does after each request -/
  replies : List (List PeerAction) := []
  /-- the replies start over -/
  cycles : Bool := false
  /-- what it does after the last one -/
  afterwards : List PeerAction := []

/-- **The peer of a connection.** -/
structure Peer where
  script : Listener
  /-- the client's end of the connection -/
  connection : Connection := {}
  /-- the number of the connection with the client, once the client uses it -/
  link : Option Nat := none
  /-- what has come from the client and not been read -/
  inbox : List UInt8 := []
  /-- the requests so far, the last in front -/
  requests : List (List UInt8) := []
  todo : List PeerAction := []
  /-- the end of the wait that it is in -/
  due : Option Instant := none
  isOver : Bool := false
  /-- what the peer has sent and the client's end has not read -/
  arriving : List Arrival := []
  /-- what the call that has the connection has not seen yet -/
  events : List ConnectionEvent := []

namespace Peer

/-- The bytes up to an empty line, and those behind it. -/
def splitHead : List UInt8 → Option (List UInt8 × List UInt8)
  | 13 :: 10 :: 13 :: 10 :: rest => some ([13, 10, 13, 10], rest)
  | b :: rest => (splitHead rest).map fun parts => (b :: parts.1, parts.2)
  | [] => none

/-- The length of the body behind a head, as the first line that tells says. -/
def bodyLength (head : List UInt8) : Nat :=
  let lines := Text.splitAt '\n' (head.map fun b => Char.ofNat b.toNat)
  let lengths := lines.filterMap fun cs =>
    let name := cs.takeWhile (· != ':')
    if (String.ofList name).toLower == "content-length" then
      some ((Framing.length? (Framing.trim ((cs.drop (name.length + 1)).filter (· != '\r')))).getD 0)
    else none
  lengths.headD 0

/-- **A whole request** from what has come, and what is left. -/
def request? (inbox : List UInt8) : Option (List UInt8 × List UInt8) := do
  let (head, rest) ← splitHead inbox
  let length := bodyLength head
  if length ≤ rest.length then some (head ++ rest.take length, rest.drop length) else none

/-- The reply to the next request. -/
def nextReply? (p : Peer) : Option (List PeerAction) :=
  let n := p.requests.length
  if p.script.cycles then p.script.replies[n % p.script.replies.length]? else p.script.replies[n]?

end Peer

/-- **What the network owes a caller.** -/
structure Wait where
  /-- what will happen to the call, and when -/
  coming : Option (Instant × ClientLabel) := none
  /-- when the call will be over, once that is set -/
  limit : Option Instant := none
  /-- the last connection that it started -/
  dialled : Nat := 0

/-- **A network** with a client. -/
structure Network where
  names : List (String × Lookup) := []
  listeners : List Listener := []
  /-- the listeners start over -/
  cycles : Bool := false
  handshakes : List Handshake := []
  client : Client
  waits : List (Caller × Wait) := []
  /-- one for every connection that was started -/
  peers : List Peer := []
  /-- what was asked of the network, the last in front -/
  dials : List (Instant × String) := []
  lookups : List (Instant × String × Nat) := []
  shaken : List (Instant × String) := []

namespace Network

/-- An action in the network. -/
abbrev Act := Sim BenchTask Network

/-- The task of a peer. -/
def peerTask (n : Nat) : BenchTask := .carrier (2 * n)

/-- The task of the client's end of a connection. -/
def connectionTask (n : Nat) : BenchTask := .carrier (2 * n + 1)

/-- What the network owes a caller. -/
def wait (s : Network) (c : Caller) : Wait := ((s.waits.find? (·.1 == c)).map (·.2)).getD {}

/-- Note what the network owes a caller. -/
def setWait (s : Network) (c : Caller) (w : Wait) : Network :=
  { s with waits := (c, w) :: s.waits.filter (·.1 != c) }

/-- Change a peer. -/
def changePeer (s : Network) (n : Nat) (f : Peer → Peer) : Network := { s with peers := s.peers.modify n f }

/-- The peer of a connection of the client. -/
def peerOf? (s : Network) (link : Nat) : Option Nat := s.peers.findIdx? (·.link == some link)

/-- Who has a connection. -/
def holder? (s : Network) (link : Nat) : Option Caller :=
  (s.client.calls.find? fun call => call.2.stage.link? == some link).map (·.1)

/-- The listener of the next connection. -/
def nextListener (s : Network) : Listener :=
  let n := s.peers.length
  let found := if s.cycles then s.listeners[n % s.listeners.length]? else s.listeners[n]?
  found.getD { error := some "refused" }

/-- Let something happen to the client, now. -/
def stepClient (label : ClientLabel) : Act Unit := do
  let now ← Sim.now
  Sim.alter fun s =>
    let client := (s.client.step (.pass (now.since s.client.now))).getD s.client
    { s with client := (client.step label).getD client }

/-- **Put a request on the wire**, if the call of this caller was just sent. -/
def transmit (c : Caller) : Act Unit := do
  let s ← Sim.read id
  let some { stage := .awaiting link _, target, .. } := s.client.call? c | return
  let some n := s.peerOf? link | return
  let some peer := s.peers[n]? | return
  if peer.connection.isClosed then
    Sim.alter (·.changePeer n fun p => { p with events := [.lost] })
  else
    let (connection, bytes) := peer.connection.send target
    Sim.alter (·.changePeer n fun p => { p with connection, inbox := p.inbox ++ bytes })
    Sim.wake (peerTask n)

/-- **Something happens to the call of a caller.** A new connection gets its
peer, and a request that is sent goes on the wire. -/
def happen (c : Caller) (label : ClientLabel) : Act Unit := do
  let links := (← Sim.read (·.client.links)).length
  stepClient label
  let s ← Sim.read id
  let n := (s.wait c).dialled
  if label matches .connected _ (.ok ()) then Sim.wake (peerTask n)
  if links < s.client.links.length then Sim.alter (·.changePeer n fun p => { p with link := some links })
  if label matches .ready .. | .connected .. | .secured .. then transmit c

/-- Something will happen to the call of a caller after a while, or now. -/
def expect (c : Caller) (d : Duration) (label : ClientLabel) : Act Unit := do
  if d.nanos = 0 then happen c label
  else
    let due := (← Sim.now).after d
    Sim.alter fun s => s.setWait c { s.wait c with coming := some (due, label) }
    Sim.wakeAt (.caller c) due

/-- Start to look a name up. -/
def lookUp (c : Caller) (call : RequestCall) : Act Unit := do
  let now ← Sim.now
  let host := call.target.url.host.plainText
  Sim.alter fun s => { s with lookups := (now, host, call.target.url.effectivePort) :: s.lookups }
  let found := (← Sim.read (·.names)).find? (·.1 == host)
  let entry := (found.map (·.2)).getD { delay := ⟨0⟩, answer := .error "no such host" }
  expect c entry.delay (.resolved c entry.answer)

/-- Start to connect. -/
def dial (c : Caller) (call : RequestCall) (address : Host) : Act Unit := do
  let now ← Sim.now
  let script ← Sim.read nextListener
  Sim.alter fun s =>
    let peer : Peer := { script }
    let w := { s.wait c with dialled := s.peers.length }
    { s with dials := (now, call.endpoint address) :: s.dials, peers := s.peers ++ [peer] }.setWait c w
  let answer := match script.error with
    | some e => .error e
    | none => .ok ()
  expect c script.delay (.connected c answer)

/-- Start to shake hands. -/
def shake (c : Caller) (call : RequestCall) : Act Unit := do
  let now ← Sim.now
  let s ← Sim.read id
  let entry := (s.handshakes[s.shaken.length]?).getD {}
  Sim.alter fun s => { s with shaken := (now, call.target.url.host.plainText) :: s.shaken }
  let answer := match entry.error with
    | some e => .error e
    | none => .ok ()
  expect c entry.delay (.secured c answer)

/-- What an event of its connection means for a call. -/
def labelOf (c : Caller) : ConnectionEvent → ClientLabel
  | .head h => .answered c h
  | .body bytes => .received c (.ok bytes)
  | .lost => .lost c
  | .broken e => .broken c e
  | .brokenBody e => .received c (.error e)

/-- The next event of a connection that the client has not seen. -/
def takeEvent (link : Nat) : Act (Option ConnectionEvent) := do
  let s ← Sim.read id
  let some n := s.peerOf? link | return none
  match (s.peers[n]?).map (·.events) with
  | some (e :: rest) =>
    Sim.alter (·.changePeer n fun p => { p with events := rest })
    return some e
  | _ => return none

/-- **Take a call as far as it goes**, in at most so many steps. -/
def progress (c : Caller) : Nat → Act Unit
  | 0 => pure ()
  | fuel + 1 => do
    let s ← Sim.read id
    let some call := s.client.call? c | return
    let w := s.wait c
    match w.coming with
    | some (due, label) =>
      if ← Sim.isDue due then
        Sim.alter (·.setWait c { w with coming := none })
        happen c label
        progress c fuel
    | none =>
      match call.stage with
      | .ended _ => pure ()
      | .readying link =>
        happen c (.ready c (!s.client.isClosed link))
        progress c fuel
      | .resolving =>
        lookUp c call
        progress c fuel
      | .dialling address =>
        dial c call address
        progress c fuel
      | .securing =>
        shake c call
        progress c fuel
      | .awaiting link _ | .reading link _ =>
        match ← takeEvent link with
        | some e =>
          happen c (labelOf c e)
          progress c fuel
        | none => pure ()

/-- The caller has what it wanted, or goes without. -/
def release (c : Caller) : Act Unit := do
  stepClient (.leave c)
  Sim.alter fun s => { s with waits := s.waits.filter (·.1 != c) }
  Sim.plan (·.unset (.caller c))

/-- **Ask for the answer to a call.** -/
def ask (c : Caller) : Act CarrierAnswer := do
  progress c Sim.enough
  let some call ← Sim.read (·.client.call? c) | return .nothing
  if !(call.stage matches .ended _) then
    let w ← Sim.read (·.wait c)
    let limit := w.limit.getD (call.watch.started.after call.timeout)
    if ← Sim.isDue limit then stepClient (.expire c)
    else if w.limit.isNone then
      Sim.alter (·.setWait c { w with limit := some limit })
      Sim.wakeAt (.caller c) limit
  match ← Sim.read (·.client.call? c) with
  | some { stage := .ended x, .. } =>
    release c
    return .exchange x
  | _ => return .nothing

/-- Take what has come. -/
def receive (connection : Connection) : List Arrival → Connection × List ConnectionEvent
  | [] => (connection, [])
  | a :: rest =>
    let (connection, events) := match a with
      | .bytes b => connection.receive b
      | .hangUp => connection.hangUp
    let (connection, more) := receive connection rest
    (connection, events ++ more)

/-- **A turn of the client's end of a connection.** -/
def listen (n : Nat) : Act Unit := do
  let s ← Sim.read id
  let some peer := s.peers[n]? | return
  let isGone := match peer.link with
    | some link => s.client.isClosed link
    | none => false
  if isGone then return
  let (connection, events) := receive peer.connection peer.arriving
  Sim.alter (·.changePeer n fun p => { p with connection, arriving := [], events := p.events ++ events })
  let some link := peer.link | return
  if connection.isClosed then stepClient (.close link)
  if let some c := s.holder? link then Sim.wake (.caller c)

/-- A peer sends something. -/
def deliver (n : Nat) (a : Arrival) : Act Unit := do
  Sim.alter (·.changePeer n fun p => { p with arriving := Arrival.addTo p.arriving a })
  Sim.wake (connectionTask n)

/-- **A turn of a peer**, of at most so many steps. -/
def serve (n : Nat) : Nat → Act Unit
  | 0 => pure ()
  | fuel + 1 => do
    let some peer := (← Sim.read id).peers[n]? | return
    let change := fun f => Sim.alter fun s : Network => s.changePeer n f
    match peer.todo with
    | [] =>
      if peer.isOver then return
      match peer.nextReply? with
      | none =>
        change fun p => { p with todo := p.script.afterwards, isOver := true }
        serve n fuel
      | some reply =>
        match Peer.request? peer.inbox with
        | none => pure ()
        | some (request, inbox) =>
          change fun p => { p with inbox, requests := request :: p.requests, todo := reply }
          serve n fuel
    | .wait d :: rest =>
      match peer.due with
      | some due =>
        if ← Sim.isDue due then
          change fun p => { p with todo := rest, due := none }
          serve n fuel
      | none =>
        if d.nanos = 0 then
          change fun p => { p with todo := rest }
          serve n fuel
        else
          let due := (← Sim.now).after d
          change fun p => { p with due := some due }
          Sim.wakeAt (peerTask n) due
    | .write bytes :: rest =>
      change fun p => { p with todo := rest }
      deliver n (.bytes bytes)
      serve n fuel
    | .close :: _ =>
      change fun p => { p with todo := [], isOver := true }
      deliver n .hangUp

instance : Carrier Network where
  name := "instrumented"
  start c target timeout := stepClient (.begin c target timeout)
  poll := ask
  abandon := release
  turn k := if k % 2 = 0 then serve (k / 2) Sim.enough else listen (k / 2)

end Network

end HttpBench.Simulation
