set_option autoImplicit false

namespace Census.Text

/-- Runs of neighbouring code points, each with its first and its last one. -/
abbrev Ranges := List (Nat × Nat)

namespace Ranges

def contains (ranges : Ranges) (n : Nat) : Bool :=
  ranges.any fun (first, last) => first ≤ n && n ≤ last

theorem contains_iff {ranges : Ranges} {n : Nat} :
    ranges.contains n = true ↔ ∃ range ∈ ranges, range.1 ≤ n ∧ n ≤ range.2 := by
  simp [contains]

/-- Whether the runs ascend with a gap between any two, which makes them the only such list. -/
def apart : Ranges → Bool
  | [] => true
  | [(first, last)] => first ≤ last
  | (first, last) :: (next, after) :: rest =>
    first ≤ last && last + 1 < next && apart ((next, after) :: rest)

def size (ranges : Ranges) : Nat :=
  ranges.foldr (fun (first, last) others => last + 1 - first + others) 0

end Ranges

end Census.Text
