/-!
# Sets and maps of code points

Character properties are kept as lists of closed code-point intervals, and
one-to-one case maps as lists of runs.  Both lists are in ascending order and
their intervals do not overlap; membership scans them from the front.
-/

namespace PluginAudit.Text.Unicode

/-- Closed intervals of code points, in ascending order. -/
abbrev Ranges := List (Nat × Nat)

/-- Whether a code point lies in one of the intervals. -/
def Ranges.contains : Ranges → Nat → Bool
  | [], _ => false
  | (low, high) :: rest, n =>
      if n < low then false else n ≤ high || Ranges.contains rest n

/-- The intervals of two sets that have no code point in common. -/
def Ranges.merged (a b : Ranges) : Ranges := List.merge a b fun x y => x.1 ≤ y.1

/-- Runs of a character map.  The run `(low, high, step, image)` sends
`low + k * step`, up to `high`, to `image + k * step`. -/
abbrev Runs := List (Nat × Nat × Nat × Nat)

/-- The image of a code point, or the code point itself when no run has it. -/
def Runs.apply : Runs → Nat → Nat
  | [], n => n
  | (low, high, step, image) :: rest, n =>
      if n < low then n
      else if n ≤ high then
        if (n - low) % step = 0 then image + (n - low) else Runs.apply rest n
      else Runs.apply rest n

/-- All code points that the runs send to `target`. -/
def Runs.preimages (runs : Runs) (target : Nat) : List Nat :=
  runs.filterMap fun (low, high, step, image) =>
    if image ≤ target ∧ target - image ≤ high - low ∧ (target - image) % step = 0 then
      some (low + (target - image))
    else none

end PluginAudit.Text.Unicode
