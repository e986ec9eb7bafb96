import Crafting.Act
import Crafting.DataFile
import Crafting.Registry.Basic

/-!
# Loading registries

Registries are filled from lists of records, as they stand in data files. Void records are gaps and broken ones are
passed over with a warning. What stops the loading is an infinite number, or a record that cannot be told in its warning.
-/

namespace Crafting

namespace Registry

def logSource : String := "EntityRegistry"

/-- The warning of a second declaration. -/
def duplicateText (ref : EntityRef) : Except Failure String := do
  return "Duplicate definition for " ++ (← ref.text) ++ "; keeping the latest."

/-- Registers an entity; a second declaration is worth a warning. -/
def declareEntity (entity : Entity) : Act Registry Unit := do
  let registry ← Act.get
  if registry.resolves entity.ref then
    .report (Log.warning logSource) (duplicateText entity.ref)
  .set (registry.register entity)

/-- What tells a record in its warning: its number as it is given or, if it has no keys, the record itself. -/
def recordMark : Json → Json
  | .object fields => (Assoc.get? "id" fields).getD .null
  | record => record

/-- The warning that a record is passed over. -/
def malformedText (kind : String) (record : Json) (failure : Failure) : Except Failure String := do
  return "Skipping malformed " ++ kind ++ " record " ++ (← (recordMark record).literal) ++ ": " ++ failure.message

/-- Registers the entities of records and counts them. -/
def loadItems (kind : String) : List Json → Act Registry Nat
  | [] => pure 0
  | record :: rest =>
      if !record.isTruthy then loadItems kind rest
      else do
        match ← Act.attempt (do declareEntity (← .ofExcept (Entity.ofRecord kind record))) with
        | .ok () => return (← loadItems kind rest) + 1
        | .error .infinite => .fail .infinite
        | .error failure =>
            .report (Log.warning logSource) (malformedText kind record failure)
            loadItems kind rest

/-- Registers the records that a value lists. -/
def loadRecords (kind : String) (records : Json) : Act Registry Nat := do
  loadItems kind (← .ofExcept records.elements)

/-- Registers tables of records by the names of their kinds. -/
def loadTables : List (String × Json) → Act Registry Unit
  | [] => pure ()
  | (kind, records) :: rest => do
      if (Kind.ofName? kind).isNone then .fail (.unknownKind kind)
      let _ ← loadRecords kind records
      loadTables rest

/-! ## From a directory -/

/-- The name of the data file of a kind. -/
def fileName : Kind → String
  | .item => "Items.json"
  | .weapon => "Weapons.json"
  | .armor => "Armors.json"
  | .state => "States.json"

/-- Registers the records of a kind's data file. A file that cannot be opened or read as JSON is passed over. -/
def loadFile (directory : String) (kind : Kind) : DataFile → Act Registry Unit
  | .absent =>
      .log (Log.warning logSource ("No " ++ kind.name ++ " data at '" ++ pathIn directory (fileName kind) ++ "'."))
  | .unreadable => .log (Log.error logSource ("Error loading " ++ fileName kind))
  | .bytes content =>
      match DataFile.parse content with
      | .error .malformed => .log (Log.error logSource ("Error loading " ++ fileName kind))
      | .error failure => .fail failure
      | .ok (.array records) => do
          let count ← loadItems kind.name records
          .log (Log.debug logSource
            ("Loaded " ++ toString count ++ " " ++ kind.name ++ " entries from " ++ fileName kind ++ "."))
      | .ok _ => .log (Log.error logSource (fileName kind ++ " must contain a JSON array."))

/-- Registers the records of the data files of a directory. -/
def loadDirectory (directory : String) (file : Kind → DataFile) : Act Registry Unit :=
  Kind.all.forM fun kind => loadFile directory kind (file kind)

end Registry

end Crafting
