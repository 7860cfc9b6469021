import HttpBench.Json.Decode
import HttpBench.Time.Duration

/-!
# The phases of a request

A request on a new connection resolves a name, connects, perhaps shakes
hands, waits for the first byte and reads the body. Whoever drives the
request reports the phases it observed; a phase that did not happen, or was
not seen to end, has no time.
-/

namespace HttpBench

open Json Number

/-- **A phase** of one request. -/
inductive Phase where
  | dns
  | connect
  | tls
  | ttfb
  | transfer
deriving DecidableEq, Repr

namespace Phase

/-- All phases in the order in which a request passes through them. -/
def all : List Phase := [.dns, .connect, .tls, .ttfb, .transfer]

/-- The name of a phase in reports. -/
def name : Phase → String
  | .dns => "dns"
  | .connect => "connect"
  | .tls => "tls"
  | .ttfb => "ttfb"
  | .transfer => "transfer"

end Phase

/-- **The observed phases** of one request, and whether its connection had
carried a request before. -/
structure PhaseTimes where
  dns : Option Duration := none
  connect : Option Duration := none
  tls : Option Duration := none
  ttfb : Option Duration := none
  transfer : Option Duration := none
  reused : Option Bool := none
deriving DecidableEq, Repr, Inhabited

namespace PhaseTimes

/-- Nothing was observed. -/
def none : PhaseTimes := {}

/-- The time of one phase. -/
def get (times : PhaseTimes) : Phase → Option Duration
  | .dns => times.dns
  | .connect => times.connect
  | .tls => times.tls
  | .ttfb => times.ttfb
  | .transfer => times.transfer

/-- No phase was observed. -/
def isEmpty (times : PhaseTimes) : Bool :=
  Phase.all.all fun p => (times.get p).isNone

/-- **The sum of the observed phases**, unless it is too long for a duration. -/
def sum? (times : PhaseTimes) : Option Duration :=
  (Phase.all.filterMap times.get).foldlM Duration.add? Duration.zero

section
variable {R : Type} [Scalar R]

/-- The written form: milliseconds by phase. -/
def toJson (times : PhaseTimes) : Value R :=
  let ms := Value.ofOption fun d : Duration => Value.real d.toMillis
  .object [("dns_ms", ms times.dns), ("connect_ms", ms times.connect), ("tls_ms", ms times.tls),
    ("ttfb_ms", ms times.ttfb), ("transfer_ms", ms times.transfer),
    ("connection_reused", .ofOption .bool times.reused)]

/-- Read the written form; a phase that is left out was not observed. -/
def ofJson? : Decoder R PhaseTimes := record do
  let ms : Decoder R (Option Duration) := nullable fun v => (asReal v).map Duration.ofMillis
  let dns ← fieldOr "dns_ms" ms Option.none
  let connect ← fieldOr "connect_ms" ms Option.none
  let tls ← fieldOr "tls_ms" ms Option.none
  let ttfb ← fieldOr "ttfb_ms" ms Option.none
  let transfer ← fieldOr "transfer_ms" ms Option.none
  let reused ← optionalField "connection_reused" asBool
  pure { dns, connect, tls, ttfb, transfer, reused }

end

end PhaseTimes

end HttpBench
