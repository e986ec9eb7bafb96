import Crafting.Menu.Drawing

/-!
# The window

The menu in a window of its own, frame by frame: the inputs of a frame are answered, then the frame is drawn. The window
closes after the frame in which closing was asked for.
-/

namespace Crafting.Window

open Screen

def width : Int := 816
def height : Int := 624
def caption : String := "Crafting"

/-- What a window receives: an input for its menu, or the wish to quit. -/
inductive Event where
  | quit
  | input (input : Menu.Input)
  deriving DecidableEq

/-- The events between two frames. The clock, if it is set, goes first. -/
structure Frame where
  events : List Event
  clock : Option Seconds := none

/-- The menu of a window. -/
def makeMenu (font titleFont : Font) : Except Failure Menu :=
  Menu.make (.keep .words 0 0 width height) 3 36 true font titleFont

variable {σ κ : Type} [Inventory σ] [DecidableEq κ] [Observer κ]

/-- Answers an event; `true` asks to close the window. -/
def handle : Event → Act (Menu.Shop σ κ) Bool
  | .quit => pure true
  | .input input => Menu.handle input

/-- Answers the events of a frame, all of them, and says whether one asked to close the window. -/
def handleAll : List Event → Act (Menu.Shop σ κ) Bool
  | [] => pure false
  | event :: rest => do
      let closing ← handle event
      let closingLater ← handleAll rest
      return closing || closingLater

/-- Draws a frame. -/
def draw : Act (Menu.Shop σ κ) (List DrawCall) := do
  return .fill .black :: (← Menu.draw)

/-- The frames up to the one that closes the window. -/
def runFrames : List Frame → Act (Menu.Shop σ κ) (List (List DrawCall))
  | [] => pure []
  | frame :: rest => do
      if let some clock := frame.clock then
        Menu.changeMenu fun menu => { menu with notification := { menu.notification with clock } }
      let closing ← handleAll frame.events
      let calls ← draw
      if closing then return [calls]
      return calls :: (← runFrames rest)

/-- The window from its opening on. -/
def run (frames : List Frame) : Act (Menu.Shop σ κ) (List (List DrawCall)) := do
  Menu.openUp
  runFrames frames

end Crafting.Window
