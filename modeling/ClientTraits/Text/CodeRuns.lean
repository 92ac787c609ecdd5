/-!
# Runs of code points

A property of characters is written down as a table of runs. A run is a first and a last code
point and a step: step 1 is a plain range, step 2 takes every second code point, which is how
the cased letters of many scripts alternate.
-/

namespace ClientTraits.Text

/-- A table of runs `(first, last, step)`. -/
abbrev CodeRuns := List (Nat × Nat × Nat)

namespace CodeRuns

/-- Some run of the table meets the code point. -/
def has (runs : CodeRuns) (code : Nat) : Bool :=
  runs.any fun (first, last, step) =>
    first ≤ code && code ≤ last && (code - first) % step == 0

/-- The character's code point is in the table. -/
def hasChar (runs : CodeRuns) (c : Char) : Bool :=
  runs.has c.toNat

end CodeRuns

end ClientTraits.Text
