/-!
# Ranges of code points

A property of characters is kept as the list of the closed ranges in which it holds.
-/
namespace ScreenBinding.Text

/-- Whether a code point lies in one of the closed ranges. -/
def within (ranges : List (Nat × Nat)) (c : Nat) : Bool :=
  ranges.any fun r => r.1 ≤ c && c ≤ r.2

theorem within_iff {ranges : List (Nat × Nat)} {c : Nat} :
    within ranges c = true ↔ ∃ r ∈ ranges, r.1 ≤ c ∧ c ≤ r.2 := by
  simp [within]

end ScreenBinding.Text
