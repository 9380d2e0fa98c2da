/-!
# Differences of lists

What has to be added to and removed from one list of texts to get the members of another.
Order and repetitions are those of the list an item comes from.
-/
namespace ScreenBinding

structure Difference where
  added : List String
  removed : List String
  kept : List String
  deriving DecidableEq

namespace Difference

def between (previous next : List String) : Difference where
  added := next.filter (!previous.contains ·)
  removed := previous.filter (!next.contains ·)
  kept := previous.filter (next.contains ·)

def isEmpty (d : Difference) : Bool := d.added.isEmpty && d.removed.isEmpty

@[simp] theorem mem_added {p n : List String} {a : String} :
    a ∈ (between p n).added ↔ a ∈ n ∧ a ∉ p := by simp [between]

@[simp] theorem mem_removed {p n : List String} {a : String} :
    a ∈ (between p n).removed ↔ a ∈ p ∧ a ∉ n := by simp [between]

@[simp] theorem mem_kept {p n : List String} {a : String} :
    a ∈ (between p n).kept ↔ a ∈ p ∧ a ∈ n := by simp [between]

end Difference
end ScreenBinding
