import Crafting.Proofs.Json
import Crafting.Proofs.Registry

/-!
# Loading the data files of a directory

A directory is loaded just when none of its data files lets a failure through, and then the table of each kind comes from
that kind's own file and from no other. Files let failures through in three ways: bytes that are no text, a number of too
many digits, and a record with an infinite number.
-/

namespace Crafting

/-! ## Records -/

/-- An infinite number stands in a record where the number of an entity or of its icon is read. The icon is not read
unless the entity's own number is in order. -/
inductive Entity.Infinite (record : Json) : Prop where
  | id {value : Json} (hid : record.get? "id" = some value) (hvalue : value.IsInfinite)
  | icon {value icon : Json} {id : Int} (hid : record.get? "id" = some value) (hvalue : value.toInt = .ok id)
      (hpos : 1 ≤ id) (hicon : record.get? "iconIndex" = some icon) (htruthy : icon.isTruthy = true)
      (hinfinite : icon.IsInfinite)

theorem EntityRef.ofKind_error {kind : Kind} {id : Int} {failure : Failure} (h : ofKind kind id = .error failure) :
    failure = .nonPositiveId id := by
  unfold ofKind at h
  split at h <;> cases h
  rfl

theorem Kind.ofName?_eq_some_iff {name : String} {kind : Kind} : ofName? name = some kind ↔ name = kind.name := by
  constructor
  · intro h
    have hsame := List.find?_some h
    exact (eq_of_beq hsame).symm
  · rintro rfl
    exact ofName?_name kind

theorem EntityRef.ofName_name (kind : Kind) (id : Int) : ofName kind.name id = ofKind kind id := by
  rw [ofName, Kind.ofName?_name]

namespace Entity

theorem iconOf_eq_infinite_iff {record : Json} :
    iconOf record = .error .infinite ↔
      ∃ icon, record.get? "iconIndex" = some icon ∧ icon.isTruthy = true ∧ icon.IsInfinite := by
  unfold iconOf
  cases hicon : record.get? "iconIndex" with
  | none => simp
  | some icon =>
      by_cases htruthy : icon.isTruthy = true
      · simp only [htruthy, if_true, Option.some.injEq, exists_eq_left', true_and]
        exact Json.toInt_eq_infinite_iff
      · simp [htruthy]

theorem paramsOf_error {record : Json} {failure : Failure} (h : paramsOf record = .error failure) :
    failure = .wrongType := by
  unfold paramsOf at h
  split at h
  · split at h
    · exact Json.elements_error h
    · cases h
  · cases h

/-- A record stops the loading just when an infinite number stands where one is read. -/
theorem ofRecord_eq_infinite_iff {kind : Kind} {record : Json} :
    ofRecord kind.name record = .error .infinite ↔ Infinite record := by
  simp only [ofRecord, EntityRef.ofName_name, Result.bind_eq_error_iff, Json.require_eq_ok_iff]
  constructor
  · rintro (hid | ⟨value, hid, hvalue | ⟨id, hvalue, href | ⟨ref, href, hicon | ⟨icon, hicon, hparams | ⟨_, _, ⟨⟩⟩⟩⟩⟩⟩)
    · rcases Json.require_error hid with h | h <;> cases h
    · exact .id hid (Json.toInt_eq_infinite_iff.1 hvalue)
    · cases EntityRef.ofKind_error href
    · obtain ⟨icon, hget, htruthy, hinfinite⟩ := iconOf_eq_infinite_iff.1 hicon
      have hpos : 1 ≤ id := by
        have := (EntityRef.ofKind_eq_ok.1 href).2
        have := ref.id_pos
        omega
      exact .icon hid hvalue hpos hget htruthy hinfinite
    · cases paramsOf_error hparams
  · rintro (⟨hid, hvalue⟩ | ⟨hid, hvalue, hpos, hicon, htruthy, hinfinite⟩)
    · exact .inr ⟨_, hid, .inl (Json.toInt_eq_infinite_iff.2 hvalue)⟩
    · refine .inr ⟨_, hid, .inr ⟨_, hvalue, .inr ⟨⟨kind, _, toNat_pos hpos⟩, ?_, .inl ?_⟩⟩⟩
      · exact EntityRef.ofKind_eq_ok.2 ⟨rfl, Int.toNat_of_nonneg (by omega)⟩
      · exact iconOf_eq_infinite_iff.2 ⟨_, hicon, htruthy, hinfinite⟩

theorem Infinite.isTruthy {record : Json} (h : Infinite record) : record.isTruthy = true := by
  have htruthy {value : Json} (hid : record.get? "id" = some value) : record.isTruthy = true := by
    cases record with
    | object fields =>
        cases fields with
        | nil => cases hid
        | cons field rest => rfl
    | _ => cases hid
  cases h with
  | id hid _ => exact htruthy hid
  | icon hid _ _ _ _ _ => exact htruthy hid

/-- An entity has no longer a number than its record. -/
theorem writable_of_ofRecord {kind : Kind} {record : Json} {entity : Entity} (h : record.Writable)
    (hread : ofRecord kind.name record = .ok entity) : entity.ref.Writable := by
  simp only [ofRecord, EntityRef.ofName_name, Result.bind_eq_ok_iff, Result.pure_eq_ok_iff, Json.require_eq_ok_iff]
    at hread
  obtain ⟨value, hvalue, id, hid, ref, href, _, _, _, _, rfl⟩ := hread
  have hwritable := (h.of_get? hvalue).toInt hid
  rwa [← (EntityRef.ofKind_eq_ok.1 href).2, Int.natAbs_natCast] at hwritable

end Entity

/-! ## Files -/

/-- The records that a data file lists, none unless it holds an array. -/
def DataFile.records : DataFile → List Json
  | .absent | .unreadable => []
  | .bytes content =>
      match parse content with
      | .ok (.array records) => records
      | _ => []

/-- The failures that loading a data file lets through. -/
inductive DataFile.LetsThrough : DataFile → Failure → Prop where
  | undecodable {content : List UInt8} (h : ∀ text, content ≠ Text.utf8Of text) :
      LetsThrough (.bytes content) .undecodable
  | tooManyDigits {text : List Char} {digits : Nat} (h : Json.Overlong (String.ofList text) digits) :
      LetsThrough (.bytes (Text.utf8Of text)) (.tooManyDigits digits)
  | infinite {file : DataFile} {records : List Json} {record : Json} (hfile : file.Holds (.array records))
      (hrecord : record ∈ records) (h : Entity.Infinite record) : LetsThrough file .infinite

namespace DataFile

variable {content : List UInt8}

theorem records_of_holds {file : DataFile} {records : List Json} (h : file.Holds (.array records)) :
    file.records = records := by
  obtain ⟨text, rfl, -⟩ := id h
  simp only [DataFile.records, parse_eq_ok_iff.2 h]

theorem records_eq_nil {file : DataFile} (h : ∀ records, ¬ file.Holds (.array records)) : file.records = [] := by
  unfold DataFile.records
  split
  · rfl
  · rfl
  · split
    · rename_i records hrecords
      exact absurd (parse_eq_ok_iff.1 hrecords) (h records)
    · rfl

theorem letsThrough_of_parse_error {failure : Failure} (h : parse content = .error failure)
    (hfailure : failure ≠ .malformed) : (bytes content).LetsThrough failure := by
  obtain ⟨rfl, hnone⟩ | ⟨text, rfl, hread⟩ := parse_eq_error_iff.1 h
  · exact .undecodable hnone
  · obtain rfl | ⟨digits, rfl⟩ := Json.read_error hread
    · exact absurd rfl hfailure
    · exact .tooManyDigits (Json.read_eq_tooManyDigits_iff.1 hread)

/-- What a content lets through, read off its parse. -/
theorem letsThrough_bytes_iff {failure : Failure} :
    (bytes content).LetsThrough failure ↔
      parse content = .error failure ∧ failure ≠ .malformed ∨
        failure = .infinite ∧ ∃ records, parse content = .ok (.array records) ∧
          ∃ record ∈ records, Entity.Infinite record := by
  constructor
  · rintro (hnone | htoo | ⟨hfile, hrecord, hinfinite⟩)
    · exact .inl ⟨parse_eq_error_iff.2 (.inl ⟨rfl, hnone⟩), nofun⟩
    · exact .inl ⟨parse_eq_error_iff.2 (.inr ⟨_, rfl, Json.read_eq_tooManyDigits_iff.2 htoo⟩), nofun⟩
    · exact .inr ⟨rfl, _, parse_eq_ok_iff.2 hfile, _, hrecord, hinfinite⟩
  · rintro (⟨hparse, hfailure⟩ | ⟨rfl, records, hparse, record, hrecord, hinfinite⟩)
    · exact letsThrough_of_parse_error hparse hfailure
    · exact .infinite (parse_eq_ok_iff.1 hparse) hrecord hinfinite

end DataFile

/-! ## Tables -/

namespace Registry

/-- The entity of a record, none if the record is void or broken. -/
def entityOf? (kind : Kind) (record : Json) : Option Entity :=
  if record.isTruthy then (Entity.ofRecord kind.name record).toOption else none

/-- Entities go into a table one after another. -/
def placeAll (entities table : List Entity) : List Entity :=
  entities.foldl (fun table entity => place entity table) table

/-- The table that a data file makes. -/
def tableOf (kind : Kind) (file : DataFile) : List Entity :=
  placeAll (file.records.filterMap (entityOf? kind)) []

theorem setTable_table (registry : Registry) (kind : Kind) : registry.setTable kind (registry.table kind) = registry := by
  cases kind <;> rfl

theorem setTable_setTable (registry : Registry) (kind : Kind) (entities others : List Entity) :
    (registry.setTable kind entities).setTable kind others = registry.setTable kind others := by
  cases kind <;> rfl

theorem entityOf?_eq_some_iff {kind : Kind} {record : Json} {entity : Entity} :
    entityOf? kind record = some entity ↔
      record.isTruthy = true ∧ Entity.ofRecord kind.name record = .ok entity := by
  unfold entityOf?
  by_cases htruthy : record.isTruthy = true
  · cases Entity.ofRecord kind.name record <;> simp [htruthy, Except.toOption]
  · simp [htruthy]

theorem kind_of_entityOf? {kind : Kind} {record : Json} {entity : Entity} (h : entityOf? kind record = some entity) :
    entity.kind = kind := by
  have hread := (entityOf?_eq_some_iff.1 h).2
  simp only [Entity.ofRecord, EntityRef.ofName_name, Result.bind_eq_ok_iff, Result.pure_eq_ok_iff] at hread
  obtain ⟨_, _, id, _, ref, href, icon, _, params, _, rfl⟩ := hread
  exact (EntityRef.ofKind_eq_ok.1 href).1

/-! ## One record -/

variable {kind : Kind} {record : Json}

theorem loadItems_stops (h : Entity.Infinite record) (rest : List Json) (registry : Registry) :
    (loadItems kind.name (record :: rest) registry).value = .error .infinite := by
  rw [loadItems, h.isTruthy, Entity.ofRecord_eq_infinite_iff.2 h]
  rfl

/-- A record that can be written can be told in its warning. -/
theorem exists_malformedText (h : record.Writable) (kind : String) :
    ∃ opening, ∀ failure, malformedText kind record failure = .ok (opening ++ ": " ++ failure.message) := by
  have hmark : (recordMark record).Writable := by
    unfold recordMark
    split
    · rename_i fields
      cases hid : Assoc.get? "id" fields with
      | none => exact ⟨_, by rw [Option.getD_none, Json.literal]⟩
      | some value => exact h.of_get? hid
    · exact h
  obtain ⟨shown, hshown⟩ := hmark
  refine ⟨"Skipping malformed " ++ kind ++ " record " ++ shown, fun failure => ?_⟩
  rw [malformedText, hshown]
  rfl

/-- A record that gives no entity leaves everything to the others. -/
theorem loadItems_passes (hwritable : record.Writable) (hfinite : ¬ Entity.Infinite record)
    (hnone : entityOf? kind record = none) (rest : List Json) (registry : Registry) :
    (loadItems kind.name (record :: rest) registry).value = (loadItems kind.name rest registry).value ∧
      (loadItems kind.name (record :: rest) registry).state = (loadItems kind.name rest registry).state := by
  rw [loadItems]
  split
  · exact ⟨rfl, rfl⟩
  · rename_i htruthy
    have htruthy : record.isTruthy = true := by simpa using htruthy
    obtain ⟨opening, hopening⟩ := exists_malformedText hwritable kind.name
    cases hread : Entity.ofRecord kind.name record with
    | ok entity =>
        rw [entityOf?_eq_some_iff.2 ⟨htruthy, hread⟩] at hnone
        cases hnone
    | error failure =>
        cases failure
        case infinite => exact absurd (Entity.ofRecord_eq_infinite_iff.1 hread) hfinite
        all_goals
          simp only [Act.run_bind, Act.run_attempt, Act.run_ofExcept, hopening, Act.run_report_ok, and_self]

/-- A record that gives an entity has it registered before the others. -/
theorem loadItems_registers {entity : Entity} (hwritable : record.Writable) (h : entityOf? kind record = some entity)
    (rest : List Json) (registry : Registry) :
    (loadItems kind.name (record :: rest) registry).value =
        (loadItems kind.name rest (registry.register entity)).value.map (· + 1) ∧
      (loadItems kind.name (record :: rest) registry).state =
        (loadItems kind.name rest (registry.register entity)).state := by
  obtain ⟨htruthy, hread⟩ := entityOf?_eq_some_iff.1 h
  obtain ⟨hvalue, hstate⟩ := declareEntity_of_writable (Entity.writable_of_ofRecord hwritable hread) registry
  rw [loadItems, htruthy, hread]
  simp only [Bool.not_true, Bool.false_eq_true, if_false, Act.run_bind, Act.run_attempt, Act.run_ofExcept, hvalue,
    hstate]
  cases (loadItems kind.name rest (registry.register entity)).value <;> exact ⟨rfl, rfl⟩

/-! ## All records -/

/-- Records are loaded into the table of their kind unless an infinite number stops them. -/
theorem loadItems_outcome (kind : Kind) {records : List Json} (hwritable : ∀ record ∈ records, record.Writable)
    (registry : Registry) :
    let run := loadItems kind.name records registry
    let entities := records.filterMap (entityOf? kind)
    (∃ record ∈ records, Entity.Infinite record) ∧ run.value = .error .infinite ∨
      (∀ record ∈ records, ¬ Entity.Infinite record) ∧ run.value = .ok entities.length ∧
        run.state = registry.setTable kind (placeAll entities (registry.table kind)) := by
  intro run entities
  induction records generalizing registry with
  | nil => exact .inr ⟨nofun, rfl, (setTable_table registry kind).symm⟩
  | cons record rest ih =>
      -- The first record stops the loading, is passed over, or is registered before the others.
      obtain ⟨hfirst, hothers⟩ := List.forall_mem_cons.1 hwritable
      by_cases hinfinite : Entity.Infinite record
      · exact .inl ⟨⟨record, List.mem_cons_self, hinfinite⟩, loadItems_stops hinfinite rest registry⟩
      have hhead (h : ∀ other ∈ rest, ¬ Entity.Infinite other) : ∀ other ∈ record :: rest, ¬ Entity.Infinite other :=
        List.forall_mem_cons.2 ⟨hinfinite, h⟩
      cases hentity : entityOf? kind record with
      | none =>
          obtain ⟨hvalue, hstate⟩ := loadItems_passes hfirst hinfinite hentity rest registry
          have hentities : entities = rest.filterMap (entityOf? kind) := List.filterMap_cons_none hentity
          rw [hvalue, hstate, hentities]
          refine (ih hothers registry).imp ?_ ?_
          · exact fun ⟨⟨other, hother, h⟩, hstop⟩ => ⟨⟨other, List.mem_cons_of_mem _ hother, h⟩, hstop⟩
          · exact fun ⟨h, hrest⟩ => ⟨hhead h, hrest⟩
      | some entity =>
          obtain ⟨hvalue, hstate⟩ := loadItems_registers hfirst hentity rest registry
          have hentities : entities = entity :: rest.filterMap (entityOf? kind) := List.filterMap_cons_some hentity
          have hkind := kind_of_entityOf? hentity
          rw [hvalue, hstate, hentities]
          obtain ⟨⟨other, hother, h⟩, hstop⟩ | ⟨h, hcount, hrest⟩ := ih hothers (registry.register entity)
          · exact .inl ⟨⟨other, List.mem_cons_of_mem _ hother, h⟩, by rw [hstop]; rfl⟩
          · refine .inr ⟨hhead h, by rw [hcount]; rfl, ?_⟩
            rw [hrest, register, hkind, table_setTable_self, setTable_setTable]
            rfl

theorem loadItems_finite (kind : Kind) {records : List Json} (hwritable : ∀ record ∈ records, record.Writable)
    (h : ∀ record ∈ records, ¬Entity.Infinite record) (registry : Registry) :
    let run := loadItems kind.name records registry
    let entities := records.filterMap (entityOf? kind)
    run.value = .ok entities.length ∧ run.state = registry.setTable kind (placeAll entities (registry.table kind)) := by
  obtain ⟨⟨record, hrecord, hinfinite⟩, -⟩ | ⟨-, hloads⟩ := loadItems_outcome kind hwritable registry
  · exact absurd hinfinite (h record hrecord)
  · exact hloads

/-! ## Files of a directory -/

/-- A data file without records is only reported, unless it lets a failure through. -/
theorem loadFile_reports {file : DataFile} (hfile : ∀ records, ¬ file.Holds (.array records))
    (hthrough : ∀ failure, ¬ file.LetsThrough failure) (directory : String) (kind : Kind) :
    ∃ entry, loadFile directory kind file = Act.log entry := by
  cases file with
  | absent => exact ⟨_, rfl⟩
  | unreadable => exact ⟨_, rfl⟩
  | bytes content =>
      rw [loadFile]
      split
      · exact ⟨_, rfl⟩
      · rename_i failure hfailure hparse
        exact absurd (DataFile.letsThrough_of_parse_error hparse hfailure) (hthrough failure)
      · rename_i records hparse
        exact absurd (DataFile.parse_eq_ok_iff.1 hparse) (hfile records)
      · exact ⟨_, rfl⟩

/-- The records of a data file are loaded and their count is reported. -/
theorem loadFile_of_holds {file : DataFile} {records : List Json} (hfile : file.Holds (.array records))
    (directory : String) (kind : Kind) :
    ∃ entry : Nat → Log.Entry,
      loadFile directory kind file = loadItems kind.name records >>= fun count => Act.log (entry count) := by
  obtain ⟨text, rfl, -⟩ := id hfile
  rw [loadFile, DataFile.parse_eq_ok_iff.2 hfile]
  exact ⟨_, rfl⟩

/-- A content that is refused, and not as malformed, stops the loading. -/
theorem loadFile_of_parse_error {content : List UInt8} {failure : Failure}
    (h : DataFile.parse content = .error failure) (hfailure : failure ≠ .malformed) (directory : String) (kind : Kind) :
    loadFile directory kind (.bytes content) = Act.fail failure := by
  rw [loadFile, h]
  cases failure
  case malformed => exact absurd rfl hfailure
  all_goals rfl

/-- A data file is loaded into the table of its kind, and into no other, unless it lets a failure through. -/
theorem loadFile_returns {file : DataFile} (h : ∀ failure, ¬ file.LetsThrough failure) (directory : String) (kind : Kind)
    (registry : Registry) :
    let run := loadFile directory kind file registry
    run.value = .ok () ∧
      run.state = registry.setTable kind (placeAll (file.records.filterMap (entityOf? kind)) (registry.table kind)) := by
  intro run
  by_cases hfile : ∃ records, file.Holds (.array records)
  · obtain ⟨records, hfile⟩ := hfile
    obtain ⟨entry, hload⟩ := loadFile_of_holds hfile directory kind
    have hrun : run = (loadItems kind.name records >>= fun count => Act.log (entry count)) registry :=
      congrFun hload registry
    have hfinite : ∀ record ∈ records, ¬ Entity.Infinite record :=
      fun record hrecord hinfinite => h .infinite (.infinite hfile hrecord hinfinite)
    have hwritable := Json.writable_array_iff.1 (DataFile.writable_of_holds hfile)
    obtain ⟨hvalue, hstate⟩ := loadItems_finite kind hwritable hfinite registry
    rw [hrun, Act.run_bind_of_ok hvalue, DataFile.records_of_holds hfile]
    exact ⟨rfl, hstate⟩
  · have hnone : ∀ records, ¬ file.Holds (.array records) := fun records hrecords => hfile ⟨records, hrecords⟩
    obtain ⟨entry, hload⟩ := loadFile_reports hnone h directory kind
    have hrun : run = ⟨.ok (), registry, [entry]⟩ := congrFun hload registry
    rw [hrun, DataFile.records_eq_nil hnone]
    exact ⟨rfl, (setTable_table registry kind).symm⟩

theorem loadFile_fails {file : DataFile} {failure : Failure} (h : file.LetsThrough failure) (directory : String)
    (kind : Kind) (registry : Registry) : (loadFile directory kind file registry).value = .error failure := by
  cases file with
  | absent | unreadable => nomatch h
  | bytes content =>
      obtain ⟨hparse, hfailure⟩ | ⟨rfl, records, hparse, record, hrecord, hinfinite⟩ :=
        DataFile.letsThrough_bytes_iff.1 h
      · rw [loadFile_of_parse_error hparse hfailure]
        rfl
      · have hfile := DataFile.parse_eq_ok_iff.1 hparse
        obtain ⟨entry, hload⟩ := loadFile_of_holds hfile directory kind
        have hwritable := Json.writable_array_iff.1 (DataFile.writable_of_holds hfile)
        obtain ⟨-, hvalue⟩ | ⟨hfinite, -⟩ := loadItems_outcome kind hwritable registry
        · rw [hload, Act.run_bind_of_error hvalue]
        · exact absurd hinfinite (hfinite record hrecord)

/-- The first of the files to let a failure through lets this one through. -/
inductive FirstThrough (file : Kind → DataFile) : List Kind → Failure → Prop where
  | here {kind : Kind} {rest : List Kind} {failure : Failure} (h : (file kind).LetsThrough failure) :
      FirstThrough file (kind :: rest) failure
  | later {kind : Kind} {rest : List Kind} {failure : Failure} (hkind : ∀ failure, ¬ (file kind).LetsThrough failure)
      (h : FirstThrough file rest failure) : FirstThrough file (kind :: rest) failure

variable {file : Kind → DataFile} {kinds : List Kind}

theorem exists_firstThrough {kind : Kind} (hkind : kind ∈ kinds) {failure : Failure}
    (h : (file kind).LetsThrough failure) : ∃ first, FirstThrough file kinds first := by
  induction kinds with
  | nil => cases hkind
  | cons head rest ih =>
      by_cases hhead : ∃ cause, (file head).LetsThrough cause
      · obtain ⟨cause, hcause⟩ := hhead
        exact ⟨cause, .here hcause⟩
      · obtain rfl | hrest := List.mem_cons.1 hkind
        · exact absurd ⟨failure, h⟩ hhead
        · obtain ⟨first, hfirst⟩ := ih hrest
          exact ⟨first, .later (not_exists.1 hhead) hfirst⟩

/-- Loading files one after another fails as the first of them to let a failure through. -/
theorem loadFiles_error_iff {directory : String} {failure : Failure} (registry : Registry) :
    ((kinds.forM fun kind => loadFile directory kind (file kind)) registry).value = .error failure ↔
      FirstThrough file kinds failure := by
  induction kinds generalizing registry with
  | nil => exact ⟨nofun, nofun⟩
  | cons kind rest ih =>
      show ((loadFile directory kind (file kind) >>= fun _ =>
        rest.forM fun kind => loadFile directory kind (file kind)) registry).value = _ ↔ _
      -- The first file lets something through, or it is loaded and the others decide.
      by_cases hkind : ∃ cause, (file kind).LetsThrough cause
      · obtain ⟨cause, hcause⟩ := hkind
        have hfails := loadFile_fails hcause directory kind registry
        rw [Act.run_bind_of_error hfails]
        constructor
        · rintro ⟨⟩
          exact .here hcause
        · rintro (h | ⟨hnone, -⟩)
          · exact hfails.symm.trans (loadFile_fails h directory kind registry)
          · exact absurd hcause (hnone cause)
      · have hnone := not_exists.1 hkind
        rw [Act.run_bind_of_ok (loadFile_returns hnone directory kind registry).1]
        refine (ih _).trans ⟨.later hnone, ?_⟩
        rintro (h | ⟨-, h⟩)
        · exact absurd h (hnone failure)
        · exact h

/-- Files that let nothing through are loaded, each into the table of its kind. -/
theorem loadFiles_returns {registry : Registry} (hfiles : ∀ kind ∈ kinds, ∀ failure, ¬ (file kind).LetsThrough failure)
    (hnodup : kinds.Nodup) (hempty : ∀ kind ∈ kinds, registry.table kind = []) (directory : String) :
    let run := (kinds.forM fun kind => loadFile directory kind (file kind)) registry
    run.value = .ok () ∧ (∀ kind ∈ kinds, run.state.table kind = tableOf kind (file kind)) ∧
      ∀ kind ∉ kinds, run.state.table kind = registry.table kind := by
  induction kinds generalizing registry with
  | nil => exact ⟨rfl, nofun, fun _ _ => rfl⟩
  | cons kind rest ih =>
      obtain ⟨hkind, hrest⟩ := List.forall_mem_cons.1 hfiles
      obtain ⟨hfresh, hnodup⟩ := List.nodup_cons.1 hnodup
      obtain ⟨hvalue, hstate⟩ := loadFile_returns hkind directory kind registry
      rw [hempty kind List.mem_cons_self] at hstate
      have hothers (other : Kind) (h : other ≠ kind) :
          (loadFile directory kind (file kind) registry).state.table other = registry.table other := by
        rw [hstate, table_setTable_of_ne registry _ h]
      have hstill : ∀ other ∈ rest, (loadFile directory kind (file kind) registry).state.table other = [] := by
        intro other hother
        rw [hothers other (fun h => hfresh (h ▸ hother))]
        exact hempty other (List.mem_cons_of_mem kind hother)
      obtain ⟨hlast, htables, hkept⟩ := ih hrest hnodup hstill
      intro run
      have hrun : run = _ := Act.run_bind_of_ok hvalue fun _ => rest.forM fun kind => loadFile directory kind (file kind)
      rw [hrun]
      refine ⟨hlast, List.forall_mem_cons.2 ⟨?_, htables⟩, fun other hother => ?_⟩
      · exact (hkept kind hfresh).trans (by rw [hstate, table_setTable_self]; rfl)
      · obtain ⟨hne, hrest⟩ := not_or.1 (mt List.mem_cons.2 hother)
        exact (hkept other hrest).trans (hothers other hne)

/-- A directory gives a registry just when none of its data files lets a failure through, and then the table of each kind
is made by its own file alone, and is empty if that holds no array. Otherwise it fails as the first file that lets one
through. -/
theorem loadDirectory_outcome (directory : String) (file : Kind → DataFile) :
    let run := loadDirectory directory file {}
    (run.value = .ok () ↔ ∀ kind failure, ¬ (file kind).LetsThrough failure) ∧
      (run.value = .ok () → ∀ kind, run.state.table kind = tableOf kind (file kind) ∧
        ((∀ records, ¬ (file kind).Holds (.array records)) → run.state.table kind = [])) ∧
      ∀ failure, run.value = .error failure ↔ FirstThrough file Kind.all failure := by
  intro run
  have hstarted (kind : Kind) : ({} : Registry).table kind = [] := by cases kind <;> rfl
  have hreturns (h : ∀ kind failure, ¬ (file kind).LetsThrough failure) :=
    loadFiles_returns (fun kind (_ : kind ∈ Kind.all) => h kind) (by decide) (fun kind _ => hstarted kind) directory
  have hfails (failure : Failure) : run.value = .error failure ↔ FirstThrough file Kind.all failure :=
    loadFiles_error_iff {}
  have hclean : run.value = .ok () → ∀ kind failure, ¬ (file kind).LetsThrough failure := by
    intro hvalue kind failure h
    obtain ⟨first, hfirst⟩ := exists_firstThrough (Kind.mem_all kind) h
    rw [(hfails first).2 hfirst] at hvalue
    cases hvalue
  refine ⟨⟨hclean, fun h => (hreturns h).1⟩, fun hvalue kind => ?_, hfails⟩
  have htable : run.state.table kind = tableOf kind (file kind) :=
    (hreturns (hclean hvalue)).2.1 kind (Kind.mem_all kind)
  refine ⟨htable, fun hnone => ?_⟩
  rw [htable, tableOf, DataFile.records_eq_nil hnone]
  rfl

end Registry

namespace Sample

/-- A directory whose first file is one byte that begins no character, and whose other files are missing. -/
def tornFiles : Kind → DataFile
  | .item => .bytes [0xFF]
  | .weapon | .armor | .state => .absent

theorem torn_directory_fails : (Registry.loadDirectory "data" tornFiles {}).value = .error .undecodable :=
  ((Registry.loadDirectory_outcome "data" tornFiles).2.2 .undecodable).2
    (.here (.undecodable (Text.decodeUtf8?_eq_none_iff.1 rfl)))

end Sample

end Crafting
