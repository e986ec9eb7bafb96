import Crafting.Screen.Notification
import Crafting.Selection

/-!
# The menu on screen

A list of recipes in columns, the details of the chosen one below it, and a notification above. This is the layout: where
each part lies, and which entry lies at a point.
-/

namespace Crafting

open Screen

structure Menu where
  rect : Rect
  rowHeight : Int
  /-- Whether the cursor goes on at the other end. -/
  wrap : Bool
  selection : Selection
  notification : Notification := {}
  font : Font
  titleFont : Font

namespace Menu

def padding : Int := 10

def headerHeight : Int := 40

/-- The height kept for the details below the list. -/
def detailsHeight : Int := 340

/-- The height of the list in a menu of that size: at least one row. -/
def listHeight (rect : Rect) (rowHeight : Int) : Int :=
  max rowHeight (rect.height - headerHeight - detailsHeight - padding)

/-- A menu with an empty list. -/
def make (rect : Rect) (columns rowHeight : Int) (wrap : Bool) (font titleFont : Font) : Except Failure Menu := do
  let height ← rect.grid.coordinate (listHeight rect rowHeight)
  let selection ← Selection.make columns height rowHeight 0
  return { rect, rowHeight, wrap, selection, font, titleFont }

variable (menu : Menu)

def listRect : Rect :=
  .keep menu.rect.grid (menu.rect.x + padding) (menu.rect.y + headerHeight) (menu.rect.width - padding * 2)
    (listHeight menu.rect menu.rowHeight)

def detailsRect : Rect :=
  let y := menu.listRect.bottom + padding
  .keep menu.rect.grid (menu.rect.x + padding) y (menu.rect.width - padding * 2)
    (max 0 (menu.rect.bottom - y - padding))

def notificationRect : Rect :=
  let width := menu.rect.width / 2
  .keep menu.rect.grid (menu.rect.x + (menu.rect.width - width) / 2) (menu.rect.y + padding / 2) width
    (headerHeight - padding)

/-- Where an entry lies, as far as the list is scrolled. -/
def itemRect (index : Int) : Except Failure Rect :=
  let area := menu.listRect
  let columns := menu.selection.columns
  let width := area.width / columns
  let row := index / columns - menu.selection.top
  Rect.make menu.rect.grid (area.x + index % columns * width) (area.y + row * menu.rowHeight) width menu.rowHeight

/-- The entries on screen. -/
def shown : List Int :=
  let first := menu.selection.firstIndex
  (List.range (menu.selection.endIndex - first).toNat).map fun (i : Nat) => first + i

/-- The first of some entries that lies at a point. -/
def firstAt (x y : Int) : List Int → Except Failure (Option Int)
  | [] => .ok none
  | index :: rest => do
      if (← menu.itemRect index).contains x y then return some index else firstAt x y rest

/-- The entry that lies at a point. -/
def hitTest (x y : Int) : Except Failure (Option Int) := do
  let x ← menu.rect.grid.coordinate x
  let y ← menu.rect.grid.coordinate y
  if menu.listRect.contains x y then menu.firstAt x y menu.shown else return none

end Menu

end Crafting
