import Crafting.Menu.Basic
import Crafting.Workshop

/-!
# The menu at work

The menu listens to its workshop: a rebuilt catalog resets the list, and the outcome of a craft is shown. Input moves the
cursor, which is announced, or crafts the chosen recipe. Others may listen too; they only observe.
-/

namespace Crafting

/-- Someone who observes announcements: what they report, and with what words they fail if they do. -/
class Observer (κ : Type) where
  observe : κ → String → Notice → List Log.Entry × Option String

/-- How an observer ends. -/
def Observer.ending : Option String → Except Failure Unit
  | none => .ok ()
  | some message => .error (.refused message)

/-- Observers on their own share nothing. -/
instance {κ : Type} [Observer κ] : Audience κ Notice Unit where
  react who topic notice _ :=
    let (log, refusal) := Observer.observe who topic notice
    { world := (), log, ending := Observer.ending refusal }

/-- Who listens at a workshop with a menu: the menu, in two ways, and observers. -/
inductive Listener (κ : Type) where
  | list
  | notification
  | guest (who : κ)
  deriving DecidableEq

/-- The color in which an outcome is shown. -/
def Outcome.color (outcome : Outcome) : Screen.Color :=
  if outcome.success then .success else .failure

namespace Menu

/-- The chosen recipe. -/
def chosen (menu : Menu) (recipes : List Recipe) : Option Recipe :=
  Catalog.get? recipes menu.selection.cursor

/-- The menu with as many entries as there are recipes. -/
def adopt (menu : Menu) (recipes : List Recipe) : Menu :=
  match menu.selection.reset recipes.length with
  | .ok selection => { menu with selection }
  | .error _ => menu

def showOutcome (menu : Menu) (outcome : Outcome) : Menu :=
  { menu with notification := menu.notification.display outcome.message outcome.color }

instance {κ : Type} [Observer κ] : Audience (Listener κ) Notice Menu where
  react who topic notice menu :=
    match who, notice with
    | .list, .refreshed recipes =>
        let menu := menu.adopt recipes
        { world := menu, steps := [.publish Topic.recipeSelected (.selected (menu.chosen recipes))] }
    | .notification, .succeeded outcome | .notification, .blocked outcome => { world := menu.showOutcome outcome }
    | .guest guest, notice =>
        let (log, refusal) := Observer.observe guest topic notice
        { world := menu, log, ending := Observer.ending refusal }
    | _, _ => { world := menu }

/-- The subscriptions of a menu. -/
def attach {κ : Type} [DecidableEq κ] (bus : EventBus (Listener κ) Notice Menu) : EventBus (Listener κ) Notice Menu :=
  ((bus.subscribe Topic.catalogRefreshed .list).subscribe Topic.craftSucceeded .notification).subscribe
    Topic.craftBlocked .notification

/-! ## Input -/

inductive Key where
  | down
  | up
  | right
  | left
  | pageDown
  | pageUp
  /-- Crafts the chosen recipe. -/
  | confirm
  /-- Closes the menu. -/
  | escape
  | other
  deriving DecidableEq

/-- The key of that name. Several confirm, and most do nothing. -/
def Key.ofName (name : String) : Key :=
  ([("down", down), ("up", up), ("right", right), ("left", left), ("pagedown", pageDown), ("pageup", pageUp),
    ("return", confirm), ("kp_enter", confirm), ("space", confirm), ("escape", escape)].lookup name).getD other

inductive Input where
  | key (key : Key)
  /-- A press of a mouse button, of which only the first counts. -/
  | click (x y button : Int)
  | wheel (turns : Int)
  | other
  deriving DecidableEq

/-- What a key does to the selection. -/
def Key.op? (wrap : Bool) : Key → Option Selection.Op
  | .down => some (.down wrap)
  | .up => some (.up wrap)
  | .right => some (.right wrap)
  | .left => some (.left wrap)
  | .pageDown => some .pageDown
  | .pageUp => some .pageUp
  | .confirm | .escape | .other => none

variable {σ κ : Type} [Inventory σ] [DecidableEq κ] [Observer κ]

/-- A workshop with a menu. -/
abbrev Shop (σ κ : Type) : Type := Workshop σ (Listener κ) Menu

def current : Act (Shop σ κ) Menu := do
  return (← Act.get).bus.world

def changeMenu (f : Menu → Menu) : Act (Shop σ κ) Unit :=
  .modify fun w => { w with bus := { w.bus with world := f w.bus.world } }

/-- The chosen recipe. -/
def selected : Act (Shop σ κ) (Option Recipe) := do
  let w ← Act.get
  return w.bus.world.chosen w.recipes

/-- Moves the selection; an entry that is chosen by it is announced. -/
def operate (op : Selection.Op) : Act (Shop σ κ) Unit := do
  let outcome := op.apply (← current).selection
  changeMenu fun menu => { menu with selection := outcome.selection }
  if let some index := outcome.picked then
    let w ← Act.get
    Workshop.announce (.selected (Catalog.get? w.recipes (some index)))
  if let some failure := outcome.failure then .fail failure

/-- Rebuilds the catalog and chooses its first recipe. -/
def openUp : Act (Shop σ κ) Unit := do
  let _ ← Workshop.refresh
  operate (.select 0)

/-- Crafts the chosen recipe. -/
def commit : Act (Shop σ κ) Outcome := do
  Workshop.craft (← selected)

/-- Answers an input; `true` asks to close the menu. -/
def handle (input : Input) : Act (Shop σ κ) Bool := do
  let menu ← current
  match input with
  | .key .escape => return true
  | .key .confirm => do
      let _ ← commit
      return false
  | .key key => do
      if let some op := key.op? menu.wrap then operate op
      return false
  | .click x y button => do
      if button = 1 then
        if let some index ← .ofExcept (menu.hitTest x y) then
          if menu.selection.cursor = some index then
            let _ ← commit
          else operate (.select index)
      return false
  | .wheel turns => do
      operate (.setTop (menu.selection.top - turns))
      return false
  | .other => return false

end Menu

end Crafting
