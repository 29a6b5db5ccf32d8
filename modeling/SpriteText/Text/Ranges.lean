/-!
# Ranges of code points

Character properties are kept as lists of closed ranges of code points.
-/

namespace SpriteText.Text

/-- Whether a code point lies in one of the closed ranges. -/
def covers (ranges : List (Nat × Nat)) (code : Nat) : Bool :=
  ranges.any fun range => range.1 ≤ code && code ≤ range.2

/-- A code point is covered exactly when some range holds it. -/
theorem covers_iff {ranges : List (Nat × Nat)} {code : Nat} :
    covers ranges code = true ↔ ∃ range ∈ ranges, range.1 ≤ code ∧ code ≤ range.2 := by
  simp [covers]

end SpriteText.Text
