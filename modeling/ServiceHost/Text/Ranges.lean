/-! Properties of characters as tables: a property holds in ranges of code points, given by their ends. -/

namespace ServiceHost.Text

def inRanges (ranges : List (Nat × Nat)) (n : Nat) : Bool :=
  ranges.any fun r => r.1 ≤ n && n ≤ r.2

end ServiceHost.Text
