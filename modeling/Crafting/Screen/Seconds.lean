import Crafting.Binary
import Crafting.Failure

/-!
# Seconds

Times and spans of time in seconds. Those in whole seconds are exact; a fraction is a float. Spans are compared by what
they are worth, however they are written.
-/

namespace Crafting.Screen

inductive Seconds where
  | whole (value : Int)
  | float (value : Float)

namespace Seconds

/-- The nearest float, for which a time in whole seconds can be too large. -/
def toFloat : Seconds → Except Failure Float
  | .whole value => (Binary.ofInt? value).elim (.error .tooLarge) .ok
  | .float value => .ok value

/-- The span from `start` to a time: exact if both are whole, else between floats. -/
def since (time start : Seconds) : Except Failure Seconds :=
  match time, start with
  | .whole time, .whole start => .ok (.whole (time - start))
  | time, start => do return .float ((← time.toFloat) - (← start.toFloat))

/-- Whether a span has reached another. -/
def reaches : (span goal : Seconds) → Bool
  | .whole span, .whole goal => goal ≤ span
  | .whole span, .float goal => Binary.isAtMost goal span
  | .float span, .whole goal => Binary.isAtLeast span goal
  | .float span, .float goal => goal ≤ span

end Seconds

end Crafting.Screen
