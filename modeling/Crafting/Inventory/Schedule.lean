import Crafting.Assoc

/-!
# Schedules of faults

The calls of an inventory can be made to fail. A schedule says, for each method, how its coming calls go; a call that is
not mentioned passes.
-/

namespace Crafting

/-- The calls that can be made to fail. -/
inductive Call where
  | quantityOf
  | has
  | currency
  | consume
  | add
  | spend
  | gain
  deriving DecidableEq

/-- The call of that name. -/
def Call.ofName? (name : String) : Option Call :=
  [("quantity_of", quantityOf), ("has", has), ("currency", currency), ("consume", consume), ("add", add),
    ("spend_currency", spend), ("gain_currency", gain)].lookup name

/-! ## The calls of one method -/

/-- Runs of coming calls that all pass, or all fail with one message. Behind the last run all calls pass. -/
abbrev Course := List (Nat × Option String)

namespace Course

/-- A course that begins with `n` more calls. -/
def prepend (n : Nat) (fate : Option String) (course : Course) : Course :=
  if n = 0 then course else (n, fate) :: course

/-- How the next call goes, and the course after it. -/
def next : Course → Option String × Course
  | [] => (none, [])
  | (0, _) :: rest => next rest
  | (n + 1, fate) :: rest => (fate, prepend n fate rest)

/-- How the call goes that has `n` others before it. -/
def fate (course : Course) : Nat → Option String
  | 0 => course.next.1
  | n + 1 => fate course.next.2 n

/-- Makes `times` free calls fail, after `skip` free ones. -/
def fill (message : String) (skip times : Nat) : Course → Course
  | [] => prepend skip none (prepend times (some message) [])
  | (n, some taken) :: rest => (n, some taken) :: fill message skip times rest
  | (n, none) :: rest =>
      let free := min n skip
      let failing := min (n - free) times
      prepend free none (prepend failing (some message) (prepend (n - free - failing) none
        (fill message (skip - free) (times - failing) rest)))

@[simp] theorem fate_nil (n : Nat) : fate [] n = none := by
  induction n with
  | zero => rfl
  | succ n ih => exact ih

end Course

/-! ## The calls of all methods -/

abbrev Schedule := List (Call × Course)

namespace Schedule

/-- No call fails. -/
def clear : Schedule := []

def course (schedule : Schedule) (call : Call) : Course :=
  (Assoc.get? call schedule).getD []

/-- How the next call of a method goes, and the schedule after it. -/
def next (schedule : Schedule) (call : Call) : Option String × Schedule :=
  match schedule.course call with
  | [] => (none, schedule)
  | run :: rest =>
      let (fate, rest) := Course.next (run :: rest)
      (fate, Assoc.put call rest schedule)

/-- Makes the `n`-th coming call of a method fail, and the `times - 1` after it. Calls that already fail do not count. -/
def arm (schedule : Schedule) (call : Call) (n : Nat) (message : String) (times : Nat) : Schedule :=
  Assoc.put call ((schedule.course call).fill message (n - 1) times) schedule

@[simp] theorem next_clear (call : Call) : next clear call = (none, clear) := rfl

end Schedule

end Crafting
