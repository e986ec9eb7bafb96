import Crafting.Inventory.Basic
import Crafting.Inventory.Counts

/-!
# Other stores

A host may keep its holdings elsewhere. `Ledger` takes every change without a check, so that a count may reach zero or
fall below it, and may do without a purse. `Bare` offers nothing.
-/

namespace Crafting

structure Ledger where
  counts : Counts := []
  gold : Int := 0
  /-- Whether currency can be spent and gained. -/
  purse : Bool := true

instance : Store Ledger where
  quantityOf ledger ref := .ok (ledger.counts.count ref)
  wears _ _ := false
  currency ledger := .ok ledger.gold
  consume ref quantity ledger :=
    .ok { ledger with counts := ledger.counts.put ref (ledger.counts.count ref - quantity) }
  add ref quantity ledger :=
    .ok { ledger with counts := ledger.counts.put ref (ledger.counts.count ref + quantity) }
  spend amount ledger := if ledger.purse then .ok { ledger with gold := ledger.gold - amount } else .error .unsupported
  gain amount ledger := if ledger.purse then .ok { ledger with gold := ledger.gold + amount } else .error .unsupported

/-- A store that offers no call at all. -/
structure Bare where

instance : Store Bare where
  quantityOf _ _ := .error .unsupported
  wears _ _ := false
  currency _ := .error .unsupported
  consume _ _ _ := .error .unsupported
  add _ _ _ := .error .unsupported
  spend _ _ := .error .unsupported
  gain _ _ := .error .unsupported

end Crafting
