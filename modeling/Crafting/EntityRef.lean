import Crafting.Text.Blank
import Crafting.Text.Case

/-!
# Kinds and references

What the entities of a game are (items, weapons, armor, states), and the reference that names one of them: its kind and
its positive number.
-/

namespace Crafting

/-! ## Kinds -/

inductive Kind where
  | item
  | weapon
  | armor
  | state
  deriving DecidableEq

namespace Kind

def name : Kind → String
  | .item => "Item"
  | .weapon => "Weapon"
  | .armor => "Armor"
  | .state => "State"

/-- Every kind, in the order of declaration. -/
def all : List Kind := [.item, .weapon, .armor, .state]

/-- The kinds whose notes may hold recipes, in catalog order. -/
def craftable : List Kind := [.item, .weapon, .armor]

/-- Weapons and armor can be worn. -/
def isGear : Kind → Bool
  | .weapon | .armor => true
  | .item | .state => false

/-- The kind of exactly that name. -/
def ofName? (name : String) : Option Kind :=
  all.find? fun kind => kind.name == name

/-- The kind that a note spells in any letter case, `consumable` being another word for an item. -/
def ofSpelling? (spelling : String) : Option Kind :=
  let word := spelling.trimBlanks.lowered
  if word == "consumable" then some .item else all.find? fun kind => kind.name.lowered == word

theorem mem_all (kind : Kind) : kind ∈ all := by
  cases kind <;> decide

theorem name_injective {a b : Kind} (h : a.name = b.name) : a = b := by
  cases a <;> cases b <;> first | rfl | exact absurd h (by decide)

@[simp] theorem ofName?_name (kind : Kind) : ofName? kind.name = some kind := by
  cases kind <;> decide

end Kind

/-! ## References -/

/-- Names one entity. -/
structure EntityRef where
  kind : Kind
  id : Nat
  id_pos : 0 < id
  deriving DecidableEq

instance : Inhabited EntityRef := ⟨⟨.item, 1, by decide⟩⟩

end Crafting
