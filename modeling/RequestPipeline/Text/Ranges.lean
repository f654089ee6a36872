/-!
# Sets of characters as ranges

A set of characters is written down as the ranges of their code points, first and last.
-/

namespace RequestPipeline.Text

def inRanges (ranges : List (Nat × Nat)) (c : Char) : Bool :=
  ranges.any fun (lo, hi) => lo ≤ c.toNat && c.toNat ≤ hi

end RequestPipeline.Text
