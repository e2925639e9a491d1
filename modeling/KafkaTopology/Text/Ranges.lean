/-!
# Ranges of characters

Sets of characters that are given as increasing ranges of their numbers.
-/
namespace KafkaTopology.Text

/-- Whether `n` lies in one of the ranges `lo` to `hi`, found by halving them. -/
def inRanges (ranges : Array (Nat × Nat)) (n : Nat) : (fuel lo hi : Nat) → Bool
  | 0, _, _ => false
  | fuel + 1, lo, hi =>
    if hi ≤ lo then false
    else
      let mid := (lo + hi) / 2
      match ranges[mid]? with
      | none => false
      | some (a, b) =>
        if n < a then inRanges ranges n fuel lo mid
        else if b < n then inRanges ranges n fuel (mid + 1) hi
        else true

end KafkaTopology.Text
