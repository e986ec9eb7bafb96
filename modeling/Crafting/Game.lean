import Crafting.Folder
import Crafting.Inventory.PartyFile
import Crafting.Session
import Crafting.Window

/-!
# The game

A game begins with its data files and its party, and is played at a text prompt or in a window. Sounds are only logged.
-/

namespace Crafting.Game

/-- Where a game begins: the paths and what is found there. -/
structure Source where
  directory : String
  partyPath : String
  dataFile : Kind → DataFile
  partyFile : DataFile

/-- A game whose files all lie in one folder, which is found at a path. -/
def Source.inFolder (path : String) (folder : Folder) : Source :=
  { directory := path, partyPath := pathIn path "party.json"
    dataFile := fun kind => folder.find (Registry.fileName kind), partyFile := folder.find "party.json" }

/-- What plays the sounds. -/
inductive Speaker where
  | speaker
  deriving DecidableEq

instance : Observer Speaker where
  observe
    | _, _, .cue sound => ([Log.debug "Sound" ("Play '" ++ sound ++ "'")], none)
    | _, _, _ => ([], none)

/-- Loads the data files, then the party. -/
def load {σ : Type} (source : Source) : Act σ (Registry × Faulty Party) := do
  let ((), registry) ← Act.within {} (Registry.loadDirectory source.directory source.dataFile)
  let party ← Party.load source.partyPath source.partyFile
  return (registry, ⟨party, .clear⟩)

/-- The workshop of a game at a text prompt. -/
def textWorkshop (registry : Registry) (inventory : Faulty Party) : Workshop (Faulty Party) Speaker Unit :=
  { registry, inventory, bus := EventBus.subscribe Topic.soundCue .speaker { world := () } }

/-- Plays at a text prompt with these lines; the state is what is printed. -/
def playText (source : Source) (lines : List String) : Act String Unit := do
  let (registry, inventory) ← load source
  Act.zoom (fun printed => { workshop := textWorkshop registry inventory, printed })
    (fun (session : Session (Faulty Party) Speaker Unit) _ => session.printed) (Session.run lines)

/-- The workshop of a game in a window. -/
def windowWorkshop (registry : Registry) (inventory : Faulty Party) (menu : Menu) :
    Menu.Shop (Faulty Party) Speaker :=
  { registry, inventory
    bus := Menu.attach (EventBus.subscribe Topic.soundCue (.guest .speaker) { world := menu }) }

/-- Plays in a window with the events of these frames; answers what is drawn in each. -/
def playWindow (source : Source) (font titleFont : Screen.Font) (frames : List Window.Frame) :
    Act Unit (List (List Screen.DrawCall)) := do
  let (registry, inventory) ← load source
  let menu ← .ofExcept (Window.makeMenu font titleFont)
  let (calls, _) ← Act.within (windowWorkshop registry inventory menu) (Window.run frames)
  return calls

end Crafting.Game
