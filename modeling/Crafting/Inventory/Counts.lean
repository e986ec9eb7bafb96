import Crafting.Assoc
import Crafting.EntityRef

/-!
# Counts

How many there are of each entity: an entry for each entity that has one, and zero for all others.
-/

namespace Crafting

abbrev Counts := List (EntityRef × Int)

namespace Counts

def count (counts : Counts) (ref : EntityRef) : Int :=
  (Assoc.get? ref counts).getD 0

/-- The counts with an entry written. -/
def put (ref : EntityRef) (n : Int) (counts : Counts) : Counts :=
  Assoc.put ref n counts

/-- The counts without the entry of that entity. -/
def remove (ref : EntityRef) (counts : Counts) : Counts :=
  Assoc.remove ref counts

/-- The entries by the names of their kinds, those of one kind by number. -/
def sorted (counts : Counts) : Counts :=
  counts.mergeSort fun a b =>
    if a.1.kind.name = b.1.kind.name then a.1.id ≤ b.1.id else a.1.kind.name ≤ b.1.kind.name

@[simp] theorem count_put_self (ref : EntityRef) (n : Int) (counts : Counts) : (counts.put ref n).count ref = n := by
  simp [count, put]

theorem count_put_of_ne {ref other : EntityRef} (h : other ≠ ref) (n : Int) (counts : Counts) :
    (counts.put ref n).count other = counts.count other := by
  simp [count, put, Assoc.get?_put_of_ne h]

@[simp] theorem count_remove_self (ref : EntityRef) (counts : Counts) : (counts.remove ref).count ref = 0 := by
  simp [count, remove]

theorem count_remove_of_ne {ref other : EntityRef} (h : other ≠ ref) (counts : Counts) :
    (counts.remove ref).count other = counts.count other := by
  simp [count, remove, Assoc.get?_remove_of_ne h]

end Counts

end Crafting
