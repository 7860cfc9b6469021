import HttpBench.Http.Body
import HttpBench.Http.Request

/-!
# One connection of a client

A connection carries one request at a time. It is idle, or waits for the head
of a response, or reads the body, and closes for good when it cannot go on:
because the peer closed it, because what came was no response, because bytes
came that nobody had asked for, or because the response said so.

What comes from the peer turns into events for whoever sent the request.
-/

namespace HttpBench

/-- **What a connection is at.** -/
inductive ConnectionStage where
  | idle
  /-- a request was sent, and whether it was sent completely -/
  | awaiting (method : Method) (complete : Bool)
  /-- the body comes, and whether the connection goes on behind it -/
  | reading (body : BodyReader) (goesOn : Bool)
  | closed
deriving Repr

/-- **What happened to a request.** -/
inductive ConnectionEvent where
  | head (h : ResponseHead)
  | body (bytes : List UInt8)
  /-- the peer closed the connection before the head was complete -/
  | lost
  /-- what came is no head -/
  | broken (e : HeadError)
  /-- what came is no body -/
  | brokenBody (e : BodyError)
deriving Repr

/-- **A connection.** -/
structure Connection where
  stage : ConnectionStage := .idle
  /-- what has come and not been read -/
  unread : List UInt8 := []
  /-- the last response was of version 1.0 -/
  old : Bool := false
  /-- no request and no response so far forbids another request -/
  goesOn : Bool := true
deriving Repr

namespace Connection

/-- The connection is closed. -/
def isClosed (c : Connection) : Bool := c.stage matches .closed

/-- Close the connection. -/
def close (c : Connection) : Connection := { c with stage := .closed, unread := [] }

/-- **Send a request** on an idle connection: its bytes. -/
def send (c : Connection) (t : Target) : Connection × List UInt8 :=
  let w := WrittenRequest.ofTarget t c.old
  ({ c with stage := .awaiting t.method w.complete, goesOn := c.goesOn && !w.closes }, w.bytes)

/-- The response is complete, with so many bytes behind it. -/
def rest (c : Connection) (goesOn : Bool) (unread : List UInt8) : Connection :=
  if goesOn && unread.isEmpty then { c with stage := .idle, unread := [] } else c.close

/-- Go on with a body. -/
def readBody (c : Connection) (r : BodyReader) (goesOn : Bool) (bytes : List UInt8) :
    Connection × List ConnectionEvent :=
  match r.read bytes with
  | .error e => (c.close, [.brokenBody e])
  | .ok (r, unread) =>
    if r.isComplete then (c.rest goesOn unread, [.body r.body])
    else ({ c with stage := .reading r goesOn, unread := [] }, [])

/-- Go on with a head. Once it was incomplete it is only looked at again when
an empty line has come. -/
def readHead (c : Connection) (method : Method) (complete : Bool) (bytes : List UInt8) :
    Connection × List ConnectionEvent :=
  let bytes := c.unread ++ bytes
  if !ResponseHead.mayBeComplete c.unread.length bytes then ({ c with unread := bytes }, [])
  else
    match ResponseHead.parse method bytes with
    | (.incomplete, unread) => ({ c with unread }, [])
    | (.malformed e, _) => (c.close, [.broken e])
    | (.done h unread, _) =>
      let c := { c with old := h.old, goesOn := c.goesOn && h.goesOn }
      let (c, events) := c.readBody (.start h.frame) (c.goesOn && complete) unread
      (c, .head h :: events)

/-- **Bytes come** from the peer. -/
def receive (c : Connection) (bytes : List UInt8) : Connection × List ConnectionEvent :=
  if bytes.isEmpty then (c, [])
  else
    match c.stage with
    | .idle => (c.close, [])
    | .awaiting method complete => c.readHead method complete bytes
    | .reading r goesOn => c.readBody r goesOn bytes
    | .closed => (c, [])

/-- **The peer closes** the connection. -/
def hangUp (c : Connection) : Connection × List ConnectionEvent :=
  match c.stage with
  | .idle | .closed => (c.close, [])
  | .awaiting .. => (c.close, [.lost])
  | .reading r _ =>
    match r.atEnd with
    | .ok body => (c.close, [.body body])
    | .error e => (c.close, [.brokenBody e])

end Connection

end HttpBench
