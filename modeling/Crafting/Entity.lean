import Crafting.Json.Value

/-!
# Entities

An item, weapon, armor or state as its data record defines it. The record's own values are kept as they are; what is
read from them is decided where it is used.
-/

namespace Crafting

/-! ## Combat stats -/

inductive Stat where
  | attack
  | defense
  | magicAttack
  | magicDefense
  | agility
  | luck
  deriving DecidableEq

namespace Stat

/-- The place of a stat among the parameters. -/
def slot : Stat → Nat
  | attack => 2
  | defense => 3
  | magicAttack => 4
  | magicDefense => 5
  | agility => 6
  | luck => 7

def label : Stat → String
  | attack => "Attack"
  | defense => "Defense"
  | magicAttack => "M.Attack"
  | magicDefense => "M.Defense"
  | agility => "Agility"
  | luck => "Luck"

end Stat

/-! ## Entities -/

structure Entity where
  ref : EntityRef
  name : Json
  icon : Int := 0
  description : Json := .string ""
  note : Json := .string ""
  params : List Json := []

namespace Entity

def kind (entity : Entity) : Kind :=
  entity.ref.kind

/-- Only gear has combat stats. -/
def hasStats (entity : Entity) : Bool :=
  entity.kind.isGear

/-- A combat stat; one that is missing or void is zero. -/
def stat (entity : Entity) (stat : Stat) : Json :=
  let value := entity.params.getD stat.slot (.whole 0)
  if value.isTruthy then value else .whole 0

/-! ## Records -/

/-- A text of a record, empty if it is missing or void. -/
def textOf (record : Json) (key : String) : Json :=
  match record.get? key with
  | some value => if value.isTruthy then value else .string ""
  | none => .string ""

/-- The number of a record's icon, zero if it is missing or void. -/
def iconOf (record : Json) : Except Failure Int :=
  match record.get? "iconIndex" with
  | some value => if value.isTruthy then value.toInt else .ok 0
  | none => .ok 0

/-- The parameters of a record, none if they are missing or void. -/
def paramsOf (record : Json) : Except Failure (List Json) :=
  match record.get? "params" with
  | some value => if value.isTruthy then value.elements else .ok []
  | none => .ok []

/-- The entity that a record of that kind defines. -/
def ofRecord (kind : String) (record : Json) : Except Failure Entity := do
  let id ← (← record.require "id").toInt
  let ref ← EntityRef.ofName kind id
  let icon ← iconOf record
  let params ← paramsOf record
  return {
    ref, icon, params
    name := (record.get? "name").getD (.string "")
    description := textOf record "description"
    note := textOf record "note" }

end Entity

end Crafting
