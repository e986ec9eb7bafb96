import Crafting.Note.Field
import Crafting.Recipe
import Crafting.Text.Numeral

/-!
# Blocks

A block declares one recipe by fields in a fixed order: the result, the materials numbered from one, then optionally a
description, a requirement and a cost.
-/

namespace Crafting.Note

open Text

/-! ## Values -/

/-- ASCII letters, blanks and digits: the letters, the digits and what follows them. -/
def splitRef? (value : List Char) : Option (List Char × List Char × List Char) :=
  let (letters, rest) := value.span isAsciiLetter
  let (digits, rest) := (rest.dropWhile isBlank).span isDecimal
  if letters.isEmpty || digits.isEmpty then none else some (letters, digits, rest)

/-- A comma between blanks, then digits to the end. -/
def splitQuantity? (rest : List Char) : Option (List Char) :=
  match rest.dropWhile isBlank with
  | ',' :: rest =>
      let digits := rest.dropWhile isBlank
      if !digits.isEmpty && digits.all isDecimal then some digits else none
  | _ => none

/-- The kind that a field's value names; a state is no part of a recipe. -/
def readKind (field : Field) (letters : List Char) : Except Fault Kind :=
  match Kind.ofSpelling? (String.ofList letters) with
  | none | some .state => .error ⟨.unknownKind (String.ofList letters), some field.line⟩
  | some kind => .ok kind

/-- Turns what refuses a value into a fault of its field. -/
def Field.refuse {α : Type} (field : Field) (result : Except Failure α) : Except Fault α :=
  result.mapError fun failure => ⟨.refused failure, some field.line⟩

def readNumber (digits : List Char) : Except Failure Nat :=
  (Numeral.ofDigits digits).mapError .ofNumeral

/-- Reads the value `<Kind> <id>` of a field. -/
def readRef (field : Field) : Except Fault EntityRef :=
  match splitRef? field.value with
  | some (letters, digits, []) => do
      let kind ← readKind field letters
      field.refuse do EntityRef.ofKind kind (← readNumber digits)
  | _ => .error ⟨.notARef (String.ofList field.key) (String.ofList field.value), some field.line⟩

/-- Reads the value `<Kind> <id>, <quantity>` of a field. -/
def readMaterial (field : Field) : Except Fault Material :=
  let split := do
    let (letters, digits, rest) ← splitRef? field.value
    return (letters, digits, ← splitQuantity? rest)
  match split with
  | some (letters, digits, quantity) => do
      let kind ← readKind field letters
      field.refuse do
        let ref ← EntityRef.ofKind kind (← readNumber digits)
        Material.make ref (← readNumber quantity)
  | none => .error ⟨.notAMaterial (String.ofList field.key) (String.ofList field.value), some field.line⟩

/-- Reads a cost. A numeral beyond the limit is no fault of the author's. -/
def readCost (field : Field) : Except Refusal Nat :=
  if !field.value.isEmpty && field.value.all isDecimal then
    (Numeral.ofDigits field.value).mapError fun _ => .costTooLong field.value.length
  else .error (.malformed ⟨.notACount (String.ofList field.key) (String.ofList field.value), some field.line⟩)

/-! ## Fields in their order -/

/-- The next field if it has that key, and the fields after it. -/
def takeField (key : String) : List Field → Option Field × List Field
  | [] => (none, [])
  | field :: rest => if field.key = key.toList then (some field, rest) else (none, field :: rest)

/-- The fault of a field that is not where it is needed. -/
def missing (key : String) (rest : List Field) : Fault :=
  match rest with
  | [] => ⟨.missingField key none, none⟩
  | field :: _ => ⟨.missingField key (some (String.ofList field.key)), some field.line⟩

/-- The materials from that number on, and the fields after them. -/
def readMaterials (number : Nat) : List Field → Except Fault (List Material × List Field)
  | [] => .ok ([], [])
  | field :: rest =>
      if field.key = ("material" ++ toString number).toList then do
        let material ← readMaterial field
        let (materials, rest) ← readMaterials (number + 1) rest
        return (material :: materials, rest)
      else .ok ([], field :: rest)

/-- The fields of a block, each in its place. -/
structure Layout where
  result : EntityRef
  materials : List Material
  description : Option Field
  requirement : Option Field
  cost : Option Field

/-- Reads the result and the materials, and finds the fields after them. -/
def readLayout (fields : List Field) : Except Fault Layout := do
  let (result, rest) ← match takeField "result" fields with
    | (some field, rest) => .ok (← readRef field, rest)
    | (none, rest) => .error (missing "result" rest)
  let (materials, rest) ← readMaterials 1 rest
  if materials.isEmpty then .error (missing "material1" rest)
  let (description, rest) := takeField "description" rest
  let (requirement, rest) := takeField "requirement" rest
  let (cost, rest) := takeField "cost" rest
  match rest with
  | [] => .ok { result, materials, description, requirement, cost }
  | field :: _ => .error ⟨.unexpectedField (String.ofList field.key), some field.line⟩

/-- Reads a field that may be left out. -/
def readOptional {α : Type} (absent : α) (read : Field → Except Refusal α) : Option Field → Except Refusal α
  | none => .ok absent
  | some field => read field

/-- Reads the recipe that a block declares. -/
def readBlock (body : List Char) (source : Option EntityRef) : Except Refusal Recipe := do
  let layout ← (fields body >>= readLayout).mapError .malformed
  let requirement ← readOptional none (fun field => (readRef field).map some |>.mapError .malformed) layout.requirement
  let cost ← readOptional 0 readCost layout.cost
  return {
    result := layout.result
    materials := layout.materials
    description := String.ofList ((layout.description.map (·.value)).getD [])
    requirement, cost, source }

end Crafting.Note
