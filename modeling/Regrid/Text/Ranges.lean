/-!
# Ranges — sets of characters as lists of ranges

A property of characters is a list of ranges of code points, each given by its first and its last member.
-/
namespace Regrid.Text

/-- **A code point lies in one of the ranges.** -/
def inRanges (ranges : List (Nat × Nat)) (n : Nat) : Bool := ranges.any fun (first, last) => first ≤ n && n ≤ last

end Regrid.Text
