/-!
# Ranges of code points

A class of characters is given by the ascending ranges of its code points.
-/

namespace RuleEngine
namespace Text

/-- Closed ranges of code points, in ascending order. -/
abbrev Ranges := List (Nat × Nat)

namespace Ranges

/-- Whether a code point lies in one of the ranges.  The search ends at the first range that begins
above it. -/
def contains : Ranges → Nat → Bool
  | [], _ => false
  | (first, last) :: rest, n => first ≤ n && (n ≤ last || contains rest n)

theorem contains_eq_any {ranges : Ranges} (ascending : ranges.Pairwise fun r s => r.1 ≤ s.1)
    (n : Nat) : contains ranges n = ranges.any fun r => r.1 ≤ n && n ≤ r.2 := by
  induction ranges with
  | nil => rfl
  | cons r rest ih =>
      have ⟨first, later⟩ := List.pairwise_cons.1 ascending
      by_cases below : r.1 ≤ n
      · simp [contains, below, ih later]
      · -- every later range begins above the code point as well
        have none : rest.any (fun s => s.1 ≤ n && n ≤ s.2) = false := by
          refine List.any_eq_false.2 fun s hs => ?_
          have := first s hs
          simp only [Bool.and_eq_true, decide_eq_true_eq, not_and]
          omega
        simp [contains, below, none]

end Ranges
end Text
end RuleEngine
