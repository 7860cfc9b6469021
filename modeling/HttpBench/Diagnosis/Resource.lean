import HttpBench.Json.Decode

/-!
# Resource usage

What the program itself used while a run was in flight.
-/

namespace HttpBench

open Json Number

/-- **Resources used** over a run, by repeated readings. -/
structure ResourceUsage (R : Type) where
  peakMemory : Nat
  lastMemory : Nat
  /-- of single precision -/
  peakCpu : R
  readings : Nat
deriving Inhabited

namespace ResourceUsage
variable {R : Type} [Scalar R]

/-- **Nothing read yet.** -/
def empty : ResourceUsage R := ⟨0, 0, Scalar.zero, 0⟩

/-- **One more reading.** -/
def record (u : ResourceUsage R) (memory : Nat) (cpu : R) : ResourceUsage R where
  peakMemory := max u.peakMemory memory
  lastMemory := memory
  peakCpu := if Scalar.lt u.peakCpu cpu then cpu else u.peakCpu
  readings := u.readings + 1

/-- The peak of the memory in units of `2 ^ 20` bytes. -/
def peakMegabytes (u : ResourceUsage R) : R := ofInt u.peakMemory / ofInt (1024 * 1024)

/-- The written form. -/
def toJson (u : ResourceUsage R) : Value R :=
  .object [("peak_memory_bytes", .nat u.peakMemory), ("last_memory_bytes", .nat u.lastMemory),
    ("peak_cpu_percent", .real (Scalar.ofSingle u.peakCpu)), ("samples", .nat u.readings)]

/-- Read the written form. -/
def ofJson? : Decoder R (ResourceUsage R) := Json.record do
  let peakMemory ← field "peak_memory_bytes" asNat
  let lastMemory ← field "last_memory_bytes" asNat
  let peakCpu ← field "peak_cpu_percent" fun v => (asReal v).map Scalar.toSingle
  let readings ← field "samples" asNat
  pure { peakMemory, lastMemory, peakCpu, readings }

end ResourceUsage

end HttpBench
