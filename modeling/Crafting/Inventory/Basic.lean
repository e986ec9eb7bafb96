import Crafting.Act
import Crafting.Inventory.Schedule

/-!
# Inventories

What crafting asks of an inventory: how much of an entity it holds and whether it owns any, the currency it has, and to
change both. Every call may fail.

Failing calls can be scheduled: `Faulty` puts a schedule beside a store, and a call that is due to fail does so on entry,
without doing its work.
-/

namespace Crafting

class Inventory (σ : Type) where
  quantityOf : EntityRef → Act σ Int
  /-- Whether any is owned, held or worn. -/
  has : EntityRef → Act σ Bool
  currency : Act σ Int
  consume : EntityRef → Int → Act σ Unit
  add : EntityRef → Int → Act σ Unit
  spend : Int → Act σ Unit
  gain : Int → Act σ Unit

/-- A store of holdings and currency, without any faults to come. -/
class Store (τ : Type) where
  quantityOf : τ → EntityRef → Except Failure Int
  /-- Whether one is owned although it is not held. -/
  wears : τ → EntityRef → Bool
  currency : τ → Except Failure Int
  consume : EntityRef → Int → τ → Except Failure τ
  add : EntityRef → Int → τ → Except Failure τ
  spend : Int → τ → Except Failure τ
  gain : Int → τ → Except Failure τ

/-! ## Stores with faults to come -/

structure Faulty (τ : Type) where
  store : τ
  faults : Schedule

namespace Faulty

variable {τ α : Type}

/-- Begins a call: it fails here if it is due to. -/
def enter (call : Call) : Act (Faulty τ) Unit := fun s =>
  match s.faults.next call with
  | (none, faults) => ⟨.ok (), { s with faults }, []⟩
  | (some message, faults) => ⟨.error (.refused message), { s with faults }, []⟩

/-- Reads the store. -/
def read (f : τ → Except Failure α) : Act (Faulty τ) α := fun s =>
  ⟨f s.store, s, []⟩

/-- Changes the store, or leaves it as it is on failure. -/
def change (f : τ → Except Failure τ) : Act (Faulty τ) Unit := fun s =>
  match f s.store with
  | .ok store => ⟨.ok (), { s with store }, []⟩
  | .error failure => ⟨.error failure, s, []⟩

variable [Store τ]

def quantityOf (ref : EntityRef) : Act (Faulty τ) Int := do
  enter .quantityOf
  read (Store.quantityOf · ref)

/-- Whether any is held or, unless only held ones count, worn. Holding is asked first. -/
def hasCounting (worn : Bool) (ref : EntityRef) : Act (Faulty τ) Bool := do
  enter .has
  if 0 < (← quantityOf ref) then pure true
  else read fun store => .ok (worn && Store.wears store ref)

instance : Inventory (Faulty τ) where
  quantityOf := quantityOf
  has := hasCounting true
  currency := do
    enter .currency
    read Store.currency
  consume ref quantity := do
    enter .consume
    change (Store.consume ref quantity)
  add ref quantity := do
    enter .add
    change (Store.add ref quantity)
  spend amount := do
    enter .spend
    change (Store.spend amount)
  gain amount := do
    enter .gain
    change (Store.gain amount)

end Faulty

end Crafting
