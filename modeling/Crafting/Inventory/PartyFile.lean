import Crafting.Inventory.Party
import Crafting.Registry.Load

/-!
# The party file

The party with which a game starts: its gold, what it holds, and the gear it wears. A file that describes no party gives
an empty one.
-/

namespace Crafting.Party

/-- The reference in an entry. A torn kind is unknown, like any other that is not the name of one. -/
def entryRef (entry : Json) : Except Failure EntityRef := do
  let kind ← entry.require "kind"
  let id ← (← entry.require "id").toInt
  let name ← kind.display
  if kind.isTorn then .error (.tornKind name) else EntityRef.ofName name id

/-- What a key of the description lists. -/
def entries (data : Json) (key : String) : Except Failure (List Json) :=
  match data.get? key with
  | some value => value.elements
  | none => .ok []

/-- Takes in a held item. -/
def addItem (party : Party) (entry : Json) : Except Failure Party := do
  let ref ← entryRef entry
  let quantity ← ((entry.get? "quantity").getD (.whole 1)).toInt
  party.add ref quantity

/-- Takes in something worn: gear is worn at once and anything else is held. -/
def addEquipped (party : Party) (entry : Json) : Except Failure Party := do
  let ref ← entryRef entry
  let party ← party.add ref 1
  if ref.kind.isGear then return (← party.consume ref 1).putOn ref else return party

/-- The party that a value describes. -/
def ofJson (data : Json) : Except Failure Party := do
  let .object _ := data | .error .missingField
  let gold ← ((data.get? "gold").getD (.whole 0)).toInt
  let party ← make gold purseCap
  let party ← (← entries data "items").foldlM addItem party
  (← entries data "equipped").foldlM addEquipped party

def logSource : String := "Main"

/-- Whether a failure says that a file describes no party. The two others are let through. -/
def isBadFile : Failure → Bool
  | .missingField | .infinite => false
  | _ => true

/-- The report that a file describes no party, and why not. Torn text in it cannot be printed. -/
def badFileText (path : String) (cause : Option Failure) : Except Failure String :=
  match cause with
  | some (.tornKind _) => .error .unencodable
  | _ => .ok ("Could not load party file '" ++ path ++ "': " ++ (cause.map Failure.message).getD "")

/-- The party of a file. -/
def load {σ : Type} (path : String) : DataFile → Act σ Party
  | .absent => do
      .log (Log.warning logSource ("Party file '" ++ path ++ "' not found; starting with an empty inventory."))
      return {}
  | .unreadable => broken none
  | .bytes content =>
      match DataFile.parse content >>= ofJson with
      | .ok party => pure party
      | .error failure => if isBadFile failure then broken (some failure) else .fail failure
where
  broken (cause : Option Failure) : Act σ Party := do
    .report (Log.error logSource) (badFileText path cause)
    return {}

end Crafting.Party
