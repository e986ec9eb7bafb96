import Crafting.Screen.Draw
import Crafting.Screen.Seconds

/-!
# Notifications

A line of text that shows for a while and then hides itself.
-/

namespace Crafting.Screen

structure Notification where
  /-- How long a message shows. -/
  duration : Seconds := .float 2
  clock : Seconds := .whole 0
  message : String := ""
  color : Color := .white
  shownAt : Option Seconds := none

namespace Notification

def isVisible (n : Notification) : Bool :=
  n.shownAt.isSome

def display (n : Notification) (message : String) (color : Color) : Notification :=
  { n with message, color, shownAt := some n.clock }

def hide (n : Notification) : Notification :=
  { n with shownAt := none }

/-- Hides the message once its time is up. -/
def update (n : Notification) : Except Failure Notification :=
  match n.shownAt with
  | none => .ok n
  | some start => do return if (← n.clock.since start).reaches n.duration then n.hide else n

def draw (n : Notification) (font : Font) (rect : Rect) : List DrawCall :=
  if n.isVisible then
    [.rect .notice rect 0, .rect .border rect 1, centered n.message font n.color rect]
  else []

end Notification

end Crafting.Screen
