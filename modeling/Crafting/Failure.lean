import Crafting.EntityRef
import Crafting.Text.Numeral

/-!
# Failures

Why an operation fails, as causes, with the wording in one function. The causes at the end stand for faults of the data
or of a subscriber that have no wording of this library. Numbers are written here for all texts of the library, and what
has too many digits is a failure too.
-/

namespace Crafting

inductive Failure where
  /- references and recipes -/
  | unknownKind (name : String)
  | nonPositiveId (id : Int)
  | materialQuantity (quantity : Int)
  | noMaterials
  | negativeCost (cost : Int)
  /- holdings and currency -/
  | negativeGold
  | cannotAdd (quantity : Int) (ref : EntityRef)
  | cannotConsume (quantity : Int) (ref : EntityRef)
  | tooFewHeld (held : Int) (ref : EntityRef) (quantity : Int)
  | negativeSpend
  | tooPoor (gold amount : Int)
  | negativeGain
  /- lists on a screen -/
  | noColumns
  | rowHeight
  | negativeItemCount
  /- whoever was called refused, in its own words -/
  | refused (message : String)
  /- whoever was called refused, and the attempt to tell why failed in turn -/
  | untold (next : Failure)
  /- whoever was called leaves, and nobody keeps it -/
  | exit
  /- a call that the store at hand does not offer -/
  | unsupported
  /- data of another shape than needed -/
  | unreadable
  | tooManyDigits (digits : Nat)
  | unwritable
  /- a kind whose name holds half a character -/
  | tornKind (name : String)
  /- half a character in a text that is to be printed -/
  | unencodable
  | infinite
  | tooLarge
  | wrongType
  | missingKey
  | missingField
  | outOfRange
  | undecodable
  | malformed
  /- announcements that cause one another without end -/
  | tooDeep
  deriving DecidableEq

namespace Failure

/-- What a numeral's fault means for the operation that needed the number or its numeral. -/
def ofNumeral : Text.Numeral.Fault → Failure
  | .malformed => .unreadable
  | .tooLong digits => .tooManyDigits digits
  | .unwritable => .unwritable

end Failure

/-! ## Writing -/

def writeNumber (n : Nat) : Except Failure String :=
  (Text.Numeral.write n).mapError .ofNumeral

def writeInt (n : Int) : Except Failure String :=
  (Text.Numeral.writeSigned n).mapError .ofNumeral

def EntityRef.text (ref : EntityRef) : Except Failure String := do
  return ref.kind.name ++ " " ++ (← writeNumber ref.id)

namespace Failure

/-- The wording, unless a number in it cannot be written. -/
def words : Failure → Except Failure String
  | unknownKind name | tornKind name => .ok ("Unknown entity kind '" ++ name ++ "'.")
  | nonPositiveId id => do return "Entity id must be positive, got " ++ (← writeInt id) ++ "."
  | materialQuantity quantity => do return "Material quantity must be at least 1, got " ++ (← writeInt quantity) ++ "."
  | noMaterials => .ok "A recipe needs at least one material."
  | negativeCost cost => do return "Recipe cost cannot be negative, got " ++ (← writeInt cost) ++ "."
  | negativeGold => .ok "Gold cannot be negative."
  | cannotAdd quantity ref => do return "Cannot add " ++ (← writeInt quantity) ++ " of " ++ (← ref.text) ++ "."
  | cannotConsume quantity ref => do return "Cannot consume " ++ (← writeInt quantity) ++ " of " ++ (← ref.text) ++ "."
  | tooFewHeld held ref quantity => do
      return "Only " ++ (← writeInt held) ++ " of " ++ (← ref.text) ++ " held, cannot consume " ++
        (← writeInt quantity) ++ "."
  | negativeSpend => .ok "Cannot spend a negative amount."
  | tooPoor gold amount => do
      return "Only " ++ (← writeInt gold) ++ " gold available, cannot spend " ++ (← writeInt amount) ++ "."
  | negativeGain => .ok "Cannot gain a negative amount."
  | noColumns => .ok "A list needs at least one column."
  | rowHeight => .ok "Row height must be positive."
  | negativeItemCount => .ok "Item count cannot be negative."
  | refused message => .ok message
  | tooManyDigits digits => .ok (Text.Numeral.tooLongMessage digits)
  | unwritable => .ok Text.Numeral.unwritableMessage
  | untold _ | exit | unsupported | unreadable | unencodable | infinite | tooLarge | wrongType | missingKey
  | missingField | outOfRange | undecodable | malformed | tooDeep => .ok ""

/-- What a failure says. Where a number cannot be written, only that is said. -/
def message (failure : Failure) : String :=
  match failure.words with
  | .ok words => words
  | .error _ => Text.Numeral.unwritableMessage

/-- What a handler takes down of a failure: an opening, and what the failure says. One that no handler keeps goes on
before anything is written, and one that cannot tell why it happened lets another one go on. -/
def toldAfter (opening : Except Failure String) : Failure → Except Failure String
  | exit => .error exit
  | untold next => opening >>= fun _ => .error next
  | failure => opening.map (· ++ failure.message)

end Failure

/-! ## Checked references -/

theorem toNat_pos {n : Int} (h : 1 ≤ n) : 0 < n.toNat := by
  omega

/-- The reference to an entity of that kind and number. -/
def EntityRef.ofKind (kind : Kind) (id : Int) : Except Failure EntityRef :=
  if h : 1 ≤ id then .ok ⟨kind, id.toNat, toNat_pos h⟩ else .error (.nonPositiveId id)

/-- The reference to an entity of the kind of that name. The kind is looked at first. -/
def EntityRef.ofName (kind : String) (id : Int) : Except Failure EntityRef :=
  match Kind.ofName? kind with
  | none => .error (.unknownKind kind)
  | some kind => ofKind kind id

theorem EntityRef.ofKind_eq_ok {kind : Kind} {id : Int} {ref : EntityRef} :
    ofKind kind id = .ok ref ↔ ref.kind = kind ∧ (ref.id : Int) = id := by
  obtain ⟨k, n, hn⟩ := ref
  unfold ofKind
  split
  · simp only [Except.ok.injEq, EntityRef.mk.injEq]
    constructor
    · rintro ⟨rfl, rfl⟩; exact ⟨rfl, by omega⟩
    · rintro ⟨rfl, rfl⟩; exact ⟨rfl, by omega⟩
  · simp only [reduceCtorEq, false_iff, not_and]
    intro _ h
    omega

end Crafting
