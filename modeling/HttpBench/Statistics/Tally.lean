/-!
# Tallies

How often each key occurs, the keys in ascending order.
-/

namespace HttpBench

/-- **A tally**: keys in ascending order with their counts. -/
abbrev Tally (K : Type) := List (K × Nat)

namespace Tally
variable {K : Type} [LT K] [DecidableLT K] [DecidableEq K]

/-- Count a key once more. -/
def add (key : K) : Tally K → Tally K
  | [] => [(key, 1)]
  | (k, n) :: rest =>
    if key = k then (k, n + 1) :: rest
    else if key < k then (key, 1) :: (k, n) :: rest
    else (k, n) :: add key rest

/-- **The tally of a list.** -/
def ofList (keys : List K) : Tally K := keys.foldl (fun tally key => tally.add key) []

end Tally

end HttpBench
