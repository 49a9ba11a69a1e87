/-! Sets of characters, as ranges of code points. -/
namespace RecordForms.Text

/-- A set of characters: each pair holds the first and the last code point of a range. -/
structure CharSet where
  ranges : List (Nat × Nat)

def CharSet.contains (set : CharSet) (c : Char) : Bool :=
  set.ranges.any fun range => range.1 ≤ c.toNat && c.toNat ≤ range.2

theorem CharSet.contains_iff (set : CharSet) (c : Char) :
    set.contains c = true ↔ ∃ range ∈ set.ranges, range.1 ≤ c.toNat ∧ c.toNat ≤ range.2 := by
  simp [CharSet.contains]

end RecordForms.Text
