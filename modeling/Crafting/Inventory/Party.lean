import Crafting.Inventory.Basic
import Crafting.Inventory.Counts

/-!
# The party's inventory

Stacks of held entities, worn gear, and a purse with a cap. Every change is checked first: a stack has at least one
entity, and no more can be consumed or spent than there is.
-/

namespace Crafting

/-- The most gold that a purse holds. -/
def purseCap : Int := 99999999

structure Party where
  held : Counts := []
  equipped : Counts := []
  gold : Int := 0
  maxGold : Int := purseCap

namespace Party

/-- A party with nothing but gold, as much of it as the cap allows. -/
def make (gold maxGold : Int) : Except Failure Party :=
  if gold < 0 then .error .negativeGold else .ok { gold := min gold maxGold, maxGold }

def add (ref : EntityRef) (quantity : Int) (party : Party) : Except Failure Party :=
  if quantity < 1 then .error (.cannotAdd quantity ref)
  else .ok { party with held := party.held.put ref (party.held.count ref + quantity) }

def consume (ref : EntityRef) (quantity : Int) (party : Party) : Except Failure Party :=
  let held := party.held.count ref
  if quantity < 1 then .error (.cannotConsume quantity ref)
  else if held < quantity then .error (.tooFewHeld held ref quantity)
  else if held = quantity then .ok { party with held := party.held.remove ref }
  else .ok { party with held := party.held.put ref (held - quantity) }

def spend (amount : Int) (party : Party) : Except Failure Party :=
  if amount < 0 then .error .negativeSpend
  else if party.gold < amount then .error (.tooPoor party.gold amount)
  else .ok { party with gold := party.gold - amount }

def gain (amount : Int) (party : Party) : Except Failure Party :=
  if amount < 0 then .error .negativeGain
  else .ok { party with gold := min party.maxGold (party.gold + amount) }

/-- One more worn. -/
def putOn (ref : EntityRef) (party : Party) : Party :=
  { party with equipped := party.equipped.put ref (party.equipped.count ref + 1) }

/-- One less worn. -/
def takeOff (ref : EntityRef) (party : Party) : Party :=
  let worn := party.equipped.count ref
  { party with equipped := if worn = 1 then party.equipped.remove ref else party.equipped.put ref (worn - 1) }

instance : Store Party where
  quantityOf party ref := .ok (party.held.count ref)
  wears party ref := 0 < party.equipped.count ref
  currency party := .ok party.gold
  consume := consume
  add := add
  spend := spend
  gain := gain

/-! ## Wearing gear -/

/-- Wears one held piece of gear; answers whether it did. -/
def equip (ref : EntityRef) : Act (Faulty Party) Bool := do
  if !ref.kind.isGear then return false
  if (← Inventory.quantityOf ref) < 1 then return false
  Inventory.consume ref 1
  Faulty.change fun party => .ok (putOn ref party)
  return true

/-- Takes one worn piece off and then holds it; answers whether it did. -/
def unequip (ref : EntityRef) : Act (Faulty Party) Bool := do
  if (← Faulty.read fun party => .ok (party.equipped.count ref)) < 1 then return false
  Faulty.change fun party => .ok (takeOff ref party)
  Inventory.add ref 1
  return true

end Party

end Crafting
