import Crafting.Proofs.Scanning

/-!
# What loading makes of a table

Loading a list of records leaves the entities of a table in their places and puts new ones behind them, in the order in
which their numbers first come. The last record of a number is the one that stands, and records that define no entity
count for nothing. Lists may be loaded in parts, and the tables of a registry in any order.
-/

namespace Crafting

namespace Registry

/-! ## Valid records -/

/-- The record is not void, and it defines an entity. -/
def Valid (kind : Kind) (record : Json) : Prop :=
  record.isTruthy = true ∧ ∃ entity, Entity.ofRecord kind.name record = .ok entity

/-- The numbers of the entities that records define, in order. -/
def idsOf (kind : Kind) (records : List Json) : List Nat :=
  (records.filterMap (entityOf? kind)).map (·.ref.id)

section

variable {kind : Kind} {record : Json}

theorem valid_iff : Valid kind record ↔ (entityOf? kind record).isSome = true := by
  simp only [Valid, Option.isSome_iff_exists, entityOf?_eq_some_iff, exists_and_left]

instance : DecidablePred (Valid kind) :=
  fun _ => decidable_of_iff _ valid_iff.symm

/-- Records that are not valid give no entities. -/
theorem filterMap_filter_valid (records : List Json) :
    (records.filter (Valid kind)).filterMap (entityOf? kind) = records.filterMap (entityOf? kind) := by
  rw [List.filterMap_filter]
  refine List.filterMap_congr fun record _ => ?_
  by_cases hvalid : Valid kind record
  · simp only [hvalid, decide_true, if_true]
  · have hnone : entityOf? kind record = none := Option.not_isSome_iff_eq_none.1 (mt valid_iff.2 hvalid)
    simp only [hvalid, decide_false, Bool.false_eq_true, if_false, hnone]

theorem length_filterMap_entityOf? (records : List Json) :
    (records.filterMap (entityOf? kind)).length = records.countP (Valid kind) := by
  rw [List.length_filterMap_eq_countP]
  refine List.countP_congr fun record _ => ?_
  rw [decide_eq_true_iff, valid_iff]

end

/-! ## The table after loading -/

/-- The numbers of a table keep their order, and new ones come behind them as they first come. -/
theorem map_placeAll (entities table : List Entity) :
    (placeAll entities table).map (·.ref.id) =
      table.map (·.ref.id) ++ ((entities.map (·.ref.id)).filter (· ∉ table.map (·.ref.id))).eraseDups := by
  induction entities generalizing table with
  | nil => exact (List.append_nil _).symm
  | cons entity rest ih =>
      show (placeAll rest (place entity table)).map _ = _
      rw [ih, map_place, List.map_cons]
      by_cases hthere : entity.ref.id ∈ table.map (·.ref.id)
      · rw [if_pos hthere, List.filter_cons_of_neg (by simpa using hthere)]
      · -- The new number goes behind the table, and is new only once.
        have hlater : ((rest.map (·.ref.id)).filter (· ∉ table.map (·.ref.id) ++ [entity.ref.id])) =
            ((rest.map (·.ref.id)).filter (· ∉ table.map (·.ref.id))).filter (!· == entity.ref.id) := by
          rw [List.filter_filter]
          refine List.filter_congr fun id _ => ?_
          rw [Bool.eq_iff_iff]
          simp [and_comm]
        rw [if_neg hthere, List.filter_cons_of_pos (by simpa using hthere), List.eraseDups_cons, List.append_assoc,
          List.singleton_append, hlater]

/-- What is left of a table and the entities of records: what the last record of a number defines, and where no record
has its number, what was there before. -/
theorem mem_placed_iff {kind : Kind} {records : List Json} {table : List Entity}
    (h : (table.map (·.ref.id)).Nodup) {entity : Entity} :
    entity ∈ placeAll (records.filterMap (entityOf? kind)) table ↔
      (∃ record, Stands kind records record entity) ∨ entity ∈ table ∧ entity.ref.id ∉ idsOf kind records := by
  have hnone : (∀ other ∈ records.filterMap (entityOf? kind), other.ref.id ≠ entity.ref.id) ↔
      entity.ref.id ∉ idsOf kind records := by
    simp only [idsOf, List.mem_map, not_exists, not_and]
  have hempty : (([] : List Entity).map (·.ref.id)).Nodup := List.nodup_nil
  have hlast : entity ∈ placeAll (records.filterMap (entityOf? kind)) [] ↔
      ∃ record, Stands kind records record entity :=
    mem_loaded_iff
  rw [mem_placeAll_iff hempty, or_iff_left fun hnew => nomatch hnew.1] at hlast
  rw [mem_placeAll_iff h, hnone, hlast]

/-- What loading records makes of a registry. -/
structure Loaded (kind : Kind) (records : List Json) (registry : Registry) (run : Run Registry Nat) : Prop where
  count : run.value = .ok (records.countP (Valid kind))
  others : ∀ other ≠ kind, run.state.table other = registry.table other
  /-- Old numbers stay in their places, and new ones follow as their first valid records come. -/
  ids : (run.state.table kind).map (·.ref.id) = (registry.table kind).map (·.ref.id) ++
    ((idsOf kind records).filter (· ∉ (registry.table kind).map (·.ref.id))).eraseDups
  nodup : ((run.state.table kind).map (·.ref.id)).Nodup
  /-- The last valid record of a number stands. Where there is none, the old entity does. -/
  stands : ∀ entity, entity ∈ run.state.table kind ↔
    (∃ record, Stands kind records record entity) ∨
      entity ∈ registry.table kind ∧ entity.ref.id ∉ idsOf kind records
  /-- The other records have no effect. -/
  valid_only : let valid := loadRecords kind.name (.array (records.filter (Valid kind))) registry
    run.value = valid.value ∧ run.state = valid.state

theorem loadRecords_array (kind : String) (records : List Json) :
    loadRecords kind (.array records) = loadItems kind records :=
  rfl

theorem Sound.loaded {registry : Registry} (hsound : registry.Sound) (kind : Kind) {records : List Json}
    (hwritable : ∀ record ∈ records, record.Writable) (h : ∀ record ∈ records, ¬Entity.Infinite record) :
    Loaded kind records registry (loadRecords kind.name (.array records) registry) := by
  rw [loadRecords_array]
  obtain ⟨hvalue, hstate⟩ := loadItems_finite kind hwritable h registry
  have hafter := loadItems_sound kind.name records registry hsound
  have htable : (loadItems kind.name records registry).state.table kind =
      placeAll (records.filterMap (entityOf? kind)) (registry.table kind) := by
    rw [hstate, table_setTable_self]
  refine ⟨?_, fun other hother => ?_, ?_, hafter.nodup kind, fun entity => ?_, ?_⟩
  · rw [hvalue, length_filterMap_entityOf?]
  · rw [hstate, table_setTable_of_ne registry _ hother]
  · rw [htable, map_placeAll]
    rfl
  · rw [htable, mem_placed_iff (hsound.nodup kind)]
  · have hvalid : ∀ record ∈ records.filter (Valid kind), record ∈ records := fun _ => List.mem_of_mem_filter
    obtain ⟨hcount, htables⟩ := loadItems_finite kind (fun record hrecord => hwritable record (hvalid record hrecord))
      (fun record hrecord => h record (hvalid record hrecord)) registry
    rw [filterMap_filter_valid] at hcount htables
    exact ⟨hvalue.trans hcount.symm, hstate.trans htables.symm⟩

/-! ## Loading in parts -/

/-- Records may be loaded in two parts, with one report after the other. -/
theorem loadItems_append (kind : String) (records others : List Json) :
    loadItems kind (records ++ others) = (do
      let first ← loadItems kind records
      let second ← loadItems kind others
      return first + second) := by
  induction records with
  | nil => simp only [List.nil_append, loadItems, pure_bind, Nat.zero_add, bind_pure]
  | cons record rest ih =>
      rw [List.cons_append, loadItems, loadItems]
      split
      · exact ih
      · rw [bind_assoc]
        refine bind_congr fun result => ?_
        cases result with
        | ok declared =>
            simp only [ih, bind_assoc, pure_bind, Nat.add_right_comm]
        | error failure =>
            cases failure
            case infinite => rfl
            all_goals simp only [ih, bind_assoc]

/-! ## The order of tables -/

theorem setTable_comm (registry : Registry) {kind other : Kind} (h : kind ≠ other) (entities others : List Entity) :
    (registry.setTable kind entities).setTable other others =
      (registry.setTable other others).setTable kind entities := by
  cases kind <;> cases other <;> first | rfl | exact absurd rfl h

theorem loadTables_append (tables others : List (String × Json)) :
    loadTables (tables ++ others) = (do loadTables tables; loadTables others) := by
  induction tables with
  | nil => simp only [List.nil_append, loadTables, pure_bind]
  | cons table rest ih =>
      rw [List.cons_append, loadTables, loadTables]
      cases (Kind.ofName? table.1).isNone with
      | true => rfl
      | false =>
          simp only [Bool.false_eq_true, if_false, ih, bind_assoc]

/-- Whatever is in the registry, loading the table puts these entities into the table of that kind. -/
def Fills (table : String × Json) (kind : Kind) (entities : List Entity) : Prop :=
  ∀ registry, (loadTables [table] registry).value = .ok () ∧
    (loadTables [table] registry).state = registry.setTable kind (placeAll entities (registry.table kind))

/-- Whatever is in the registry, loading the table fails. -/
def Fails (table : String × Json) : Prop :=
  ∀ registry, ∃ failure, (loadTables [table] registry).value = .error failure

theorem fills_or_fails {table : String × Json} (hwritable : table.2.Writable) :
    (∃ kind entities, table.1 = kind.name ∧ Fills table kind entities) ∨ Fails table := by
  obtain ⟨name, value⟩ := table
  cases hname : Kind.ofName? name with
  | none =>
      refine .inr fun registry => ⟨.unknownKind name, ?_⟩
      rw [loadTables, hname]
      rfl
  | some kind =>
      obtain rfl := Kind.ofName?_eq_some_iff.1 hname
      have hload : loadTables [(kind.name, value)] = (loadRecords kind.name value >>= fun _ => pure ()) := by
        rw [loadTables, hname]
        rfl
      cases hitems : value.elements with
      | error failure =>
          refine .inr fun registry => ⟨failure, ?_⟩
          rw [hload, loadRecords, hitems]
          rfl
      | ok records =>
          have hrecords : loadRecords kind.name value = loadItems kind.name records := by
            rw [loadRecords, hitems]
            rfl
          rw [hrecords] at hload
          have hwritten : ∀ record ∈ records, record.Writable := hwritable.of_elements hitems
          by_cases hfinite : ∀ record ∈ records, ¬Entity.Infinite record
          · refine .inl ⟨kind, records.filterMap (entityOf? kind), rfl, fun registry => ?_⟩
            obtain ⟨hvalue, hstate⟩ := loadItems_finite kind hwritten hfinite registry
            rw [hload, Act.run_bind_of_ok hvalue]
            exact ⟨rfl, hstate⟩
          · refine .inr fun registry => ⟨.infinite, ?_⟩
            obtain ⟨-, hvalue⟩ | ⟨h, -⟩ := loadItems_outcome kind hwritten registry
            · rw [hload, Act.run_bind_of_error hvalue]
            · exact absurd h hfinite

/-- Both runs return and leave the same registry, or neither returns. -/
structure Agree (run other : Run Registry Unit) : Prop where
  returns : run.value = .ok () ↔ other.value = .ok ()
  state : run.value = .ok () → run.state = other.state

theorem Agree.refl (run : Run Registry Unit) : Agree run run :=
  ⟨Iff.rfl, fun _ => rfl⟩

theorem Agree.trans {run other last : Run Registry Unit} (h : Agree run other) (h' : Agree other last) :
    Agree run last where
  returns := h.returns.trans h'.returns
  state hvalue := (h.state hvalue).trans (h'.state (h.returns.1 hvalue))

section

variable {table other : String × Json} {rest : List (String × Json)}

theorem loadTables_cons (table : String × Json) (rest : List (String × Json)) :
    loadTables (table :: rest) = (loadTables [table] >>= fun _ => loadTables rest) :=
  loadTables_append [table] rest

theorem Fails.not_ok (h : Fails table) (hmem : table ∈ rest) (registry : Registry) :
    (loadTables rest registry).value ≠ .ok () := by
  induction rest generalizing registry with
  | nil => cases hmem
  | cons first others ih =>
      rw [loadTables_cons, Ne, Act.bind_eq_ok_iff]
      rintro ⟨⟨⟩, hfirst, hothers⟩
      rcases List.mem_cons.1 hmem with rfl | hmem
      · obtain ⟨failure, hfailure⟩ := h registry
        rw [hfailure] at hfirst
        cases hfirst
      · exact ih hmem _ hothers

theorem Fills.then {kind kind' : Kind} {entities entities' : List Entity} (h : Fills table kind entities)
    (h' : Fills other kind' entities') (hne : kind' ≠ kind) (registry : Registry) :
    let run := loadTables [table, other] registry
    run.value = .ok () ∧ run.state =
      (registry.setTable kind (placeAll entities (registry.table kind))).setTable kind'
        (placeAll entities' (registry.table kind')) := by
  obtain ⟨hvalue, hstate⟩ := h registry
  obtain ⟨hvalue', hstate'⟩ := h' (loadTables [table] registry).state
  rw [loadTables_cons table [other], Act.run_bind_of_ok hvalue]
  refine ⟨hvalue', hstate'.trans ?_⟩
  rw [hstate, table_setTable_of_ne registry _ hne]

/-- Tables of two kinds may change places. -/
theorem loadTables_swap (htable : table.2.Writable) (hother : other.2.Writable) (hne : table.1 ≠ other.1)
    (rest : List (String × Json)) (registry : Registry) :
    Agree (loadTables (table :: other :: rest) registry) (loadTables (other :: table :: rest) registry) := by
  have hfails : Fails table ∨ Fails other →
      Agree (loadTables (table :: other :: rest) registry) (loadTables (other :: table :: rest) registry) := by
    intro h
    have hneither : ∀ tables : List (String × Json), table ∈ tables → other ∈ tables →
        (loadTables tables registry).value ≠ .ok () := by
      intro tables htable hother
      exact h.elim (fun hfails => hfails.not_ok htable registry) fun hfails => hfails.not_ok hother registry
    have hfirst := hneither (table :: other :: rest) (by simp) (by simp)
    exact ⟨iff_of_false hfirst (hneither _ (by simp) (by simp)), fun hvalue => absurd hvalue hfirst⟩
  obtain ⟨kind, entities, hname, hfills⟩ | hfail := fills_or_fails htable
  · obtain ⟨kind', entities', hname', hfills'⟩ | hfail := fills_or_fails hother
    · have hkinds : kind ≠ kind' := fun heq => hne (by rw [hname, hname', heq])
      obtain ⟨hvalue, hstate⟩ := hfills.then hfills' hkinds.symm registry
      obtain ⟨hvalue', hstate'⟩ := hfills'.then hfills hkinds registry
      rw [setTable_comm registry hkinds.symm, ← hstate] at hstate'
      have hrun : loadTables (table :: other :: rest) = _ := loadTables_append [table, other] rest
      have hrun' : loadTables (other :: table :: rest) = _ := loadTables_append [other, table] rest
      rw [hrun, hrun', Act.run_bind_of_ok hvalue, Act.run_bind_of_ok hvalue', hstate']
      exact ⟨Iff.rfl, fun _ => rfl⟩
    · exact hfails (.inr hfail)
  · exact hfails (.inl hfail)

theorem loadTables_perm {tables others : List (String × Json)} (hperm : tables.Perm others)
    (hwritable : ∀ table ∈ tables, table.2.Writable) (hnodup : (tables.map Prod.fst).Nodup) (registry : Registry) :
    Agree (loadTables tables registry) (loadTables others registry) := by
  -- By induction on the permutation: neighbours change places, and what is in front is the same.
  induction hperm generalizing registry with
  | nil => exact .refl _
  | @cons table rest others hperm ih =>
      rw [loadTables_cons table rest, loadTables_cons table others, Act.run_bind, Act.run_bind]
      cases (loadTables [table] registry).value with
      | error failure => exact ⟨Iff.rfl, nofun⟩
      | ok u =>
          have hothers := (List.forall_mem_cons.1 hwritable).2
          have hrest := ih hothers (List.nodup_cons.1 hnodup).2 (loadTables [table] registry).state
          exact ⟨hrest.returns, hrest.state⟩
  | swap other table rest =>
      obtain ⟨hnew, -⟩ := List.nodup_cons.1 hnodup
      have hne : table.1 ≠ other.1 := fun hsame => hnew (List.mem_map.2 ⟨other, List.mem_cons_self, hsame.symm⟩)
      obtain ⟨htable, hothers⟩ := List.forall_mem_cons.1 hwritable
      exact loadTables_swap htable (List.forall_mem_cons.1 hothers).1 hne rest registry
  | trans hperm _ ih ih' =>
      have hlater := ih' (fun table hmem => hwritable table (hperm.mem_iff.2 hmem))
        ((hperm.map Prod.fst).nodup_iff.1 hnodup) registry
      exact (ih hwritable hnodup registry).trans hlater

end

/-- Records without infinite numbers whose numbers can all be written, as those that are read from a text can, are loaded
as `Loaded` says. Lists of records may be loaded in two parts. Tables of different kinds may be loaded in any order, and
are loaded unless a record has an infinite number. -/
theorem loading_keeps_latest :
    (∀ (kind : Kind) (registry : Registry) (records : List Json), registry.Sound →
      (∀ record ∈ records, record.Writable) → (∀ record ∈ records, ¬Entity.Infinite record) →
        Loaded kind records registry (loadRecords kind.name (.array records) registry)) ∧
    (∀ (kind : String) (records others : List Json),
      loadRecords kind (.array (records ++ others)) = (do
        let first ← loadRecords kind (.array records)
        let second ← loadRecords kind (.array others)
        return first + second)) ∧
    ∀ (tables others : List (String × Json)) (registry : Registry), tables.Perm others →
      (∀ table ∈ tables, table.2.Writable) → (tables.map Prod.fst).Nodup →
        Agree (loadTables tables registry) (loadTables others registry) ∧
          ∀ loads : List (Kind × List Json), tables = tablesOf loads →
            (∀ load ∈ loads, ∀ record ∈ load.2, ¬Entity.Infinite record) →
              (loadTables tables registry).value = .ok () := by
  refine ⟨fun kind _ _ hsound hwritable hfinite => hsound.loaded kind hwritable hfinite, loadItems_append, ?_⟩
  intro tables others registry hperm hwritable hnodup
  refine ⟨loadTables_perm hperm hwritable hnodup registry, ?_⟩
  rintro loads rfl hfinite
  have hrecords : ∀ load ∈ loads, ∀ record ∈ load.2, record.Writable := fun load hload =>
    Json.writable_array_iff.1 (hwritable _ (List.mem_map_of_mem hload))
  exact (loadTables_returns hrecords hfinite registry).1

end Registry

namespace Sample

open Registry

/-- A registry with an item of another number than the records to be loaded. -/
def larder : Registry :=
  ({} : Registry).register { ref := herb, name := .string "Herb" }

/-- A record, a gap, a value that is no record, and the first record mended. -/
def mended : List Json :=
  [oddRecord, .null, .whole 5, plainRecord]

theorem larder_keeps_latest :
    let tables := tablesOf [(.weapon, []), (.item, mended)]
    let run := loadRecords Kind.item.name (.array mended) larder
    larder.Sound ∧ (∀ record ∈ mended, record.Writable) ∧ (∀ record ∈ mended, ¬Entity.Infinite record) ∧
      (∀ table ∈ tables, table.2.Writable) ∧ (tables.map Prod.fst).Nodup ∧
      run.value = .ok 2 ∧ (run.state.table .item).map (·.ref.id) = [8, 3] ∧
      (loadTables tables larder).value = .ok () ∧
      (loadTables tables larder).state = (loadTables tables.reverse larder).state := by
  intro tables run
  obtain ⟨hloads, -, horders⟩ := loading_keeps_latest
  have hsound : larder.Sound := sound_empty.register _
  have hfinite : ∀ record ∈ mended, ¬Entity.Infinite record := by
    have hno_id : ∀ record : Json, record.get? "id" = none → ¬Entity.Infinite record := by
      rintro record hnone (⟨hid, -⟩ | ⟨hid, -, -, -, -, -⟩) <;> rw [hnone] at hid <;> cases hid
    have hodd := not_infinite_of_entityOf? (show entityOf? .item oddRecord = some _ from rfl)
    have hplain := not_infinite_of_entityOf? (show entityOf? .item plainRecord = some _ from rfl)
    simp only [mended, List.forall_mem_cons]
    exact ⟨hodd, hno_id _ rfl, hno_id _ rfl, hplain, List.forall_mem_nil _⟩
  have hliteral : (Json.array mended).literal =
      .ok "[\x7b'id': 3, 'name': 'Scroll', 'note': 5\x7d, None, 5, \x7b'id': 3, 'name': 'Scroll', 'note': None\x7d]" := by
    decide +kernel
  have htables : ∀ table ∈ tables, table.2.Writable :=
    List.forall_mem_cons.2 ⟨⟨"[]", rfl⟩, List.forall_mem_singleton.2 ⟨_, hliteral⟩⟩
  have hwritable : ∀ record ∈ mended, record.Writable :=
    Json.writable_array_iff.1 (htables ("Item", .array mended) (List.mem_cons_of_mem _ (List.mem_singleton_self _)))
  have hloaded := hloads .item larder mended hsound hwritable hfinite
  have hnodup : (tables.map Prod.fst).Nodup := by decide
  obtain ⟨hagree, hreturns⟩ := horders tables tables.reverse larder (List.reverse_perm tables).symm htables hnodup
  have hvalue := hreturns [(.weapon, []), (.item, mended)] rfl
    (List.forall_mem_cons.2 ⟨List.forall_mem_nil _, List.forall_mem_singleton.2 hfinite⟩)
  refine ⟨hsound, hwritable, hfinite, htables, hnodup, ?_, ?_, hvalue, hagree.state hvalue⟩
  · rw [hloaded.count]
    rfl
  · rw [hloaded.ids]
    rfl

end Sample

end Crafting
