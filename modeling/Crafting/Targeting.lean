import Crafting.Registry.Basic
import Crafting.Text.Holds

/-!
# Targeting

Who can be picked as a target: the living combatants that are under no state whose note carries a tag.
-/

namespace Crafting

/-- The tag that makes a state's bearer no target. -/
def untargetableTag : String := "<SP variable>nontargetable</SP variable>"

/-- Whether a note carries a tag. A note that is a list or an object carries it as an item or a key. -/
def hasTag (note : Json) (tag : String) : Except Failure Bool :=
  if !note.isTruthy || tag.isEmpty then .ok false
  else
    match note, note.parts? with
    | _, some parts => .ok (parts.any fun part => Text.holds tag.toList part.toList)
    | .array items, none => .ok (items.any fun item => match item with
        | .string text => text == tag
        | _ => false)
    | .object fields, none => .ok (fields.any fun field => field.1 == tag)
    | _, none => .error .wrongType

structure Combatant where
  name : String
  hp : Int := 1
  states : List Int := []

namespace Combatant

def isAlive (combatant : Combatant) : Bool :=
  0 < combatant.hp

/-- Whether none of these states carries the tag. -/
def freeOf (registry : Registry) (tag : String) : List Int → Except Failure Bool
  | [] => .ok true
  | id :: rest =>
      match registry.lookup .state id with
      | none => freeOf registry tag rest
      | some state => do if ← hasTag state.note tag then return false else freeOf registry tag rest

def isSelectable (combatant : Combatant) (registry : Registry) (tag : String) : Except Failure Bool :=
  freeOf registry tag combatant.states

end Combatant

/-- The combatants that may be targeted, in their order. -/
def targets (combatants : List Combatant) (registry : Registry) (tag : String) : Except Failure (List Combatant) :=
  match combatants with
  | [] => .ok []
  | combatant :: rest => do
      let chosen ← if combatant.isAlive then combatant.isSelectable registry tag else .ok false
      let others ← targets rest registry tag
      return if chosen then combatant :: others else others

end Crafting
