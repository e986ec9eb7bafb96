import Crafting.Details
import Crafting.Menu.Control

/-!
# Drawing the menu

The panel with its title and purse, the recipes on screen, the details of the chosen one, and the notification. A recipe
that cannot be crafted now is drawn dimmed.
-/

namespace Crafting.Menu

open Screen

variable {σ κ : Type} [Inventory σ] [DecidableEq κ] [Observer κ]

/-- The panel, its title and the purse in the upper right corner. -/
def drawPanel : Act (Shop σ κ) (List DrawCall) := do
  let w ← Act.get
  let menu := w.bus.world
  let purse ← Workshop.purseText
  return [.rect .panel menu.rect 0, .rect .border menu.rect 2,
    .line "Craft" menu.titleFont .gold (menu.rect.x + padding) (menu.rect.y + padding),
    .line purse menu.font .white (menu.rect.right - menu.font.width purse - padding) (menu.rect.y + padding + 5)]

/-- One entry of the list. Its name is drawn as it was given, also if it is no text. -/
def drawEntry (index : Int) : Act (Shop σ κ) (List DrawCall) := do
  let w ← Act.get
  let menu := w.bus.world
  match Catalog.get? w.recipes (some index) with
  | none => return []
  | some recipe => do
      let cell ← .ofExcept (menu.itemRect index)
      let cursor := if menu.selection.cursor = some index then [DrawCall.rect .cursor cell 0] else []
      let verdict ← Workshop.judge (some recipe)
      let color := if verdict.isReady then Color.white else .disabled
      return cursor ++ [.text (w.registry.nameOf recipe.result) menu.font color (cell.x + 5)
        (cell.y + (cell.height - menu.font.height) / 2)]

def drawEntries : List Int → Act (Shop σ κ) (List DrawCall)
  | [] => pure []
  | index :: rest => do
      let calls ← drawEntry index
      return calls ++ (← drawEntries rest)

/-- The list of recipes. -/
def drawList : Act (Shop σ κ) (List DrawCall) := do
  let menu ← current
  let area := menu.listRect
  let frame := DrawCall.rect .border area 1
  if menu.selection.isEmpty then
    return [frame, .line "No recipes available." menu.font .disabled (area.x + 5) (area.y + 5)]
  return frame :: (← drawEntries menu.shown)

/-- Lines below one another from `y` on, as many as fit above `bottom`. -/
def drawLines (font : Font) (x bottom : Int) (y : Int) : List String → List DrawCall
  | [] => []
  | line :: rest =>
      if y + font.lineHeight > bottom then []
      else .line line font .white x y :: drawLines font x bottom (y + font.lineHeight) rest

/-- The details of the chosen recipe. -/
def drawDetails : Act (Shop σ κ) (List DrawCall) := do
  let w ← Act.get
  let menu := w.bus.world
  let area := menu.detailsRect
  if area.height ≤ 0 then return []
  let lines ← .ofExcept (Details.lines w.registry w.currencyName (menu.chosen w.recipes))
  return .rect .border area 1 :: drawLines menu.font (area.x + 5) area.bottom (area.y + 5) lines

/-- Draws the menu. A message whose time is up goes first. -/
def draw : Act (Shop σ κ) (List DrawCall) := do
  let panel ← drawPanel
  let list ← drawList
  let details ← drawDetails
  let menu ← current
  let notification ← .ofExcept menu.notification.update
  changeMenu fun menu => { menu with notification }
  return panel ++ list ++ details ++ notification.draw menu.font menu.notificationRect

end Crafting.Menu
