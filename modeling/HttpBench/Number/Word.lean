/-!
# Words

How many numbers a word of so many bits can tell apart. Counts and lengths that
come from outside are below such a bound.
-/

namespace HttpBench.Number

/-- The words of 16 bits. -/
def range16 : Nat := 65536

/-- The words of 32 bits. -/
def range32 : Nat := 4294967296

/-- The words of 63 bits, which are those of 64 bits with a sign that have none. -/
def range63 : Nat := 9223372036854775808

/-- The words of 64 bits. -/
def range64 : Nat := 18446744073709551616

end HttpBench.Number
