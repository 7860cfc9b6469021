import HttpBench.Timing.Phase

/-!
# The stopwatch of a request

A stopwatch notes when each event of one request was seen, the last time it
was seen. A phase has a time exactly when both its ends were noted, and a
phase whose end was noted before its start took no time.
-/

namespace HttpBench

/-- **An event** in the life of a request. -/
inductive Milestone where
  | dnsStart
  | dnsEnd
  | connectStart
  | connectEnd
  | tlsStart
  | tlsEnd
  | requestSent
  | firstByte
  | complete
deriving DecidableEq, Repr

/-- The events by their names. -/
def Milestone.names : List (String × Milestone) :=
  [("dns_start", .dnsStart), ("dns_end", .dnsEnd), ("connect_start", .connectStart), ("connect_end", .connectEnd),
    ("tls_start", .tlsStart), ("tls_end", .tlsEnd), ("request_sent", .requestSent), ("first_byte", .firstByte),
    ("complete", .complete)]

/-- **A stopwatch**: when the request started, when each event was last seen,
and whether the connection was a reused one. -/
structure Stopwatch where
  started : Instant
  dnsStart : Option Instant := none
  dnsEnd : Option Instant := none
  connectStart : Option Instant := none
  connectEnd : Option Instant := none
  tlsStart : Option Instant := none
  tlsEnd : Option Instant := none
  requestSent : Option Instant := none
  firstByte : Option Instant := none
  completed : Option Instant := none
  reused : Option Bool := none
deriving DecidableEq, Repr, Inhabited

namespace Stopwatch

/-- A stopwatch that starts now. -/
def start (now : Instant) : Stopwatch := { started := now }

/-- **Note an event.** -/
def note (w : Stopwatch) (event : Milestone) (now : Instant) : Stopwatch :=
  match event with
  | .dnsStart => { w with dnsStart := some now }
  | .dnsEnd => { w with dnsEnd := some now }
  | .connectStart => { w with connectStart := some now }
  | .connectEnd => { w with connectEnd := some now }
  | .tlsStart => { w with tlsStart := some now }
  | .tlsEnd => { w with tlsEnd := some now }
  | .requestSent => { w with requestSent := some now }
  | .firstByte => { w with firstByte := some now }
  | .complete => { w with completed := some now }

/-- Note whether the connection is a reused one. -/
def noteReused (w : Stopwatch) (reused : Bool) : Stopwatch := { w with reused := some reused }

/-- **The total**: from the start to completion, or to now while incomplete. -/
def total (w : Stopwatch) (now : Instant) : Duration :=
  (w.completed.getD now).since w.started

/-- The time between two events that were both seen. -/
def span (start stop : Option Instant) : Option Duration :=
  match start, stop with
  | some s, some e => some (e.since s)
  | _, _ => none

/-- **The phases** that the noted events bound. -/
def phases (w : Stopwatch) : PhaseTimes where
  dns := span w.dnsStart w.dnsEnd
  connect := span w.connectStart w.connectEnd
  tls := span w.tlsStart w.tlsEnd
  ttfb := span w.requestSent w.firstByte
  transfer := span w.firstByte w.completed
  reused := w.reused

end Stopwatch

end HttpBench
