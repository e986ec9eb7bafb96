import Crafting.Proofs.Console
import Crafting.Proofs.Loading

/-!
# Scanning what was loaded

Loading passes over the records that define no entity, but takes the note of the others as it is. So what was loaded
can be scanned for recipes just when the note of each record that still stands is void, or a text at whose blocks
reading does not stop.
-/

namespace Crafting

/-! ## Registries that can be scanned -/

/-- The problems of an entity that has a name to be written are told if its note can be read to the end. -/
theorem Console.noteProblems_answers_iff {entity : Entity} (h : entity.Named) :
    (∃ lines, noteProblems entity = .ok lines) ↔ Note.Legible .every entity.note := by
  have hlines : ∀ problems : List String, ∃ lines, problems.mapM (problemLine entity) = .ok lines :=
    fun problems => Result.exists_mapM_iff.2 fun problem _ => ⟨_, problemLine_eq_ok_iff.2 ⟨h, rfl⟩⟩
  unfold noteProblems Note.Legible
  by_cases htruthy : entity.note.isTruthy = true
  · simp only [htruthy, Bool.not_true, Bool.false_eq_true, if_false, forall_const]
    cases entity.note.text? with
    | some text =>
        simp only [Result.bind_eq_ok_iff, Option.some.injEq, exists_eq_left', ← Note.exists_problems_iff]
        refine ⟨fun ⟨_, messages, h, _⟩ => ⟨messages, h⟩, fun ⟨messages, h⟩ => ?_⟩
        obtain ⟨lines, hlines⟩ := hlines messages
        exact ⟨lines, messages, h, hlines⟩
    | none => exact iff_of_false (by rintro ⟨_, ⟨⟩⟩) (by rintro ⟨_, ⟨⟩, -⟩)
  · simp only [htruthy, Bool.not_false, if_true]
    exact iff_of_true ⟨[], rfl⟩ (fun h => absurd h Bool.false_ne_true)

theorem Console.exists_checkNotes_iff {σ ι ω : Type} {w : Workshop σ ι ω}
    (hnamed : ∀ entity ∈ w.registry.craftable, entity.Named) :
    (∃ text, (checkNotes w).value = .ok text) ↔ ∀ entity ∈ w.registry.craftable, Note.Legible .every entity.note := by
  rw [checkNotes_run, Result.exists_map_iff, Result.exists_mapM_iff]
  exact forall₂_congr fun entity hentity => noteProblems_answers_iff (hnamed entity hentity)

/-- No recipe is dropped of an entity whose name cannot be printed. -/
def Registry.DropsPrintable (registry : Registry) (mode : Note.Mode) : Prop :=
  ∀ entity ∈ registry.craftable, entity.name.isTorn = true →
    ∀ recipe ∈ Catalog.declaredBy mode entity, Catalog.unresolved registry recipe = []

theorem Catalog.readable_iff {registry : Registry} {mode : Note.Mode}
    (hnamed : ∀ entity ∈ registry.craftable, entity.Named) :
    Readable registry mode ↔
      (∀ entity ∈ registry.craftable, Note.Legible mode entity.note) ∧ registry.DropsPrintable mode := by
  simp only [Readable, Registry.DropsPrintable, ← forall₂_and]
  refine forall₂_congr fun entity hentity => and_congr (readableNote_iff (hnamed entity hentity).ref) ?_
  rw [reports_declaredBy_iff]
  constructor
  · intro hprintable htorn recipe hrecipe
    refine Classical.byContradiction fun hunknown => ?_
    have hwhole := (hprintable ⟨recipe, hrecipe, hunknown⟩).whole
    rw [htorn] at hwhole
    cases hwhole
  · rintro hdrops ⟨recipe, hrecipe, hunknown⟩
    refine ⟨hnamed entity hentity, Bool.eq_false_iff.2 fun htorn => ?_⟩
    exact hunknown (hdrops htorn recipe hrecipe)

theorem Workshop.exists_refresh_iff {ι ω : Type} [DecidableEq ι] [Audience ι Notice ω] [Audience.Candid ι Notice ω]
    {w : Workshop (Faulty Party) ι ω} (hclear : w.inventory.faults = .clear) :
    (∃ recipes, (refresh w).value = .ok recipes) ↔ Catalog.Readable w.registry w.mode := by
  have hsees := fun recipe => w.visibility.sees_looks w.inventory.store recipe
  rw [← Faulty.eq_of_clear hclear] at hsees
  by_cases hreadable : Catalog.Readable w.registry w.mode
  · obtain ⟨⟨recipes, hrecipes⟩, -⟩ := Catalog.rebuild_looks hsees hreadable
    exact iff_of_true ⟨recipes, (refresh_of_ok hrecipes).1⟩ hreadable
  · obtain ⟨⟨failure, hfailure⟩, -⟩ := Catalog.rebuild_stops hsees hreadable
    refine iff_of_false ?_ hreadable
    rintro ⟨recipes, hrecipes⟩
    rw [(refresh_of_error hfailure).1] at hrecipes
    cases hrecipes

/-! ## Records that stand -/

namespace Registry

/-- What is left in a table: of the entities with one number, the one that came last. -/
theorem mem_placeAll_iff {entities table : List Entity} (h : (table.map (·.ref.id)).Nodup) {entity : Entity} :
    entity ∈ placeAll entities table ↔
      (∃ before after, entities = before ++ entity :: after ∧ ∀ other ∈ after, other.ref.id ≠ entity.ref.id) ∨
        entity ∈ table ∧ ∀ other ∈ entities, other.ref.id ≠ entity.ref.id := by
  -- By induction on the entities: for the later ones, the first is part of the table that they are put in.
  induction entities generalizing table with
  | nil => simp [placeAll]
  | cons first rest ih =>
      show entity ∈ placeAll rest (place first table) ↔ _
      rw [ih (nodup_place h first), mem_place_iff h]
      constructor
      · rintro (⟨before, after, rfl, hlast⟩ | ⟨rfl | ⟨hentity, hne⟩, hlast⟩)
        · exact .inl ⟨first :: before, after, rfl, hlast⟩
        · exact .inl ⟨[], rest, rfl, hlast⟩
        · exact .inr ⟨hentity, List.forall_mem_cons.2 ⟨hne, hlast⟩⟩
      · rintro (⟨_ | ⟨other, before⟩, after, heq, hlast⟩ | ⟨hentity, hlast⟩)
        · cases heq
          exact .inr ⟨.inl rfl, hlast⟩
        · cases heq
          exact .inl ⟨before, after, rfl, hlast⟩
        · obtain ⟨hne, hlast⟩ := List.forall_mem_cons.1 hlast
          exact .inr ⟨.inr ⟨hentity, hne⟩, hlast⟩

theorem not_infinite_of_entityOf? {kind : Kind} {record : Json} {entity : Entity}
    (h : entityOf? kind record = some entity) : ¬Entity.Infinite record := by
  intro hinfinite
  have hread := (entityOf?_eq_some_iff.1 h).2
  rw [Entity.ofRecord_eq_infinite_iff.2 hinfinite] at hread
  cases hread

/-- What a record is made of can be written, so its entity has a name that can. -/
theorem named_of_entityOf? {kind : Kind} {record : Json} {entity : Entity} (h : entityOf? kind record = some entity)
    (hwritable : record.Writable) : entity.Named := by
  have hread := (entityOf?_eq_some_iff.1 h).2
  refine ⟨Entity.writable_of_ofRecord hwritable hread, ?_⟩
  simp only [Entity.ofRecord, Result.bind_eq_ok_iff, Result.pure_eq_ok_iff] at hread
  obtain ⟨_, -, _, -, _, -, _, -, _, -, rfl⟩ := hread
  show ∃ words, ((record.get? "name").getD (.string "")).display = .ok words
  cases hname : record.get? "name" with
  | none => exact ⟨"", rfl⟩
  | some name => exact (hwritable.of_get? hname).display

/-- Among records of one kind, the record defines the entity, and no later one defines an entity of its number. -/
def Stands (kind : Kind) (records : List Json) (record : Json) (entity : Entity) : Prop :=
  ∃ before after, records = before ++ record :: after ∧ entityOf? kind record = some entity ∧
    ∀ other ∈ after, ∀ later, entityOf? kind other = some later → later.ref.id ≠ entity.ref.id

theorem mem_loaded_iff {kind : Kind} {records : List Json} {entity : Entity} :
    entity ∈ placeAll (records.filterMap (entityOf? kind)) [] ↔ ∃ record, Stands kind records record entity := by
  have hempty : (([] : List Entity).map (·.ref.id)).Nodup := List.nodup_nil
  rw [mem_placeAll_iff hempty, or_iff_left fun h => nomatch h.1]
  constructor
  · rintro ⟨before, after, heq, hlast⟩
    obtain ⟨front, back, rfl, -, hback⟩ := List.filterMap_eq_append_iff.1 heq
    obtain ⟨skipped, record, later, rfl, -, hrecord, rfl⟩ := List.filterMap_eq_cons_iff.1 hback
    refine ⟨record, front ++ skipped, later, by rw [List.append_assoc], hrecord, fun other hother next hnext => ?_⟩
    exact hlast next (List.mem_filterMap.2 ⟨other, hother, hnext⟩)
  · rintro ⟨record, before, after, rfl, hrecord, hlast⟩
    refine ⟨before.filterMap (entityOf? kind), after.filterMap (entityOf? kind), ?_, fun other hother => ?_⟩
    · rw [List.filterMap_append, List.filterMap_cons_some hrecord]
    · obtain ⟨record, hmem, hother⟩ := List.mem_filterMap.1 hother
      exact hlast record hmem other hother

/-- A record whose note is missing gives an entity with an empty one. -/
theorem legible_note_iff {kind : Kind} {mode : Note.Mode} {record : Json} {entity : Entity}
    (h : entityOf? kind record = some entity) :
    Note.Legible mode entity.note ↔ ∀ note, record.get? "note" = some note → Note.Legible mode note := by
  have hread := (entityOf?_eq_some_iff.1 h).2
  simp only [Entity.ofRecord, Result.bind_eq_ok_iff, Result.pure_eq_ok_iff] at hread
  obtain ⟨_, -, _, -, _, -, _, -, _, -, rfl⟩ := hread
  show Note.Legible mode (Entity.textOf record "note") ↔ _
  have hempty : Note.Legible mode (.string "") := fun htruthy => absurd htruthy (by decide)
  unfold Entity.textOf
  cases hnote : record.get? "note" with
  | none => simpa using hempty
  | some note =>
      by_cases htruthy : note.isTruthy = true
      · simp [htruthy]
      · have hvoid : Note.Legible mode note := fun h => absurd h htruthy
        simpa [htruthy, hvoid] using hempty

/-! ## Loading in a row -/

/-- The tables of records of which each names its kind. -/
def tablesOf (loads : List (Kind × List Json)) : List (String × Json) :=
  loads.map fun load => (load.1.name, .array load.2)

/-- All records of a kind. -/
def recordsOf (kind : Kind) (loads : List (Kind × List Json)) : List Json :=
  (loads.filter (·.1 = kind)).flatMap Prod.snd

theorem loadTables_returns {loads : List (Kind × List Json)}
    (hwritable : ∀ load ∈ loads, ∀ record ∈ load.2, record.Writable)
    (h : ∀ load ∈ loads, ∀ record ∈ load.2, ¬Entity.Infinite record) (registry : Registry) :
    (loadTables (tablesOf loads) registry).value = .ok () ∧
      ∀ kind, (loadTables (tablesOf loads) registry).state.table kind =
        placeAll ((recordsOf kind loads).filterMap (entityOf? kind)) (registry.table kind) := by
  induction loads generalizing registry with
  | nil => exact ⟨rfl, fun _ => rfl⟩
  | cons load rest ih =>
      obtain ⟨hfirst, hrest⟩ := List.forall_mem_cons.1 h
      obtain ⟨hwritten, hothers⟩ := List.forall_mem_cons.1 hwritable
      obtain ⟨kind, records⟩ := load
      obtain ⟨hcount, hstate⟩ := loadItems_finite kind hwritten hfirst registry
      have hrun : loadTables (tablesOf ((kind, records) :: rest)) registry =
          (loadItems kind.name records >>= fun _ => loadTables (tablesOf rest)) registry := by
        show (if (Kind.ofName? kind.name).isNone then _ else _ : Act Registry Unit) registry = _
        rw [Kind.ofName?_name]
        rfl
      obtain ⟨hvalue, htables⟩ := ih hothers hrest (loadItems kind.name records registry).state
      rw [hrun, Act.run_bind_of_ok hcount]
      refine ⟨hvalue, fun other => ?_⟩
      rw [htables other, hstate]
      by_cases hother : kind = other
      · -- Loading a kind again goes on with the table that it has.
        subst hother
        simp only [table_setTable_self, recordsOf, List.filter_cons, decide_true, if_true, List.flatMap_cons,
          List.filterMap_append]
        exact (List.foldl_append).symm
      · simp only [table_setTable_of_ne registry _ (Ne.symm hother), recordsOf, List.filter_cons, decide_eq_true_eq,
          hother, if_false]

/-! ## Scanning -/

/-- The notes of all craftable records that stand can be read in that mode. -/
def Scannable (mode : Note.Mode) (loads : List (Kind × List Json)) : Prop :=
  ∀ kind ∈ Kind.craftable, ∀ record entity, Stands kind (recordsOf kind loads) record entity →
    ∀ note, record.get? "note" = some note → Note.Legible mode note

/-- What was loaded into an empty registry has the notes of the records that stand. -/
theorem scannable_iff {registry : Registry} {loads : List (Kind × List Json)}
    (h : ∀ kind, registry.table kind = placeAll ((recordsOf kind loads).filterMap (entityOf? kind)) [])
    (mode : Note.Mode) : (∀ entity ∈ registry.craftable, Note.Legible mode entity.note) ↔ Scannable mode loads := by
  simp only [craftable, List.mem_flatMap, h, mem_loaded_iff, Scannable]
  constructor
  · intro hlegible kind hkind record entity hstands
    obtain ⟨_, _, -, hrecord, -⟩ := id hstands
    exact (legible_note_iff hrecord).1 (hlegible entity ⟨kind, hkind, record, hstands⟩)
  · rintro hscannable entity ⟨kind, hkind, record, hstands⟩
    obtain ⟨_, _, -, hrecord, -⟩ := id hstands
    exact (legible_note_iff hrecord).2 (hscannable kind hkind record entity hstands)

theorem writable_of_mem_recordsOf {kind : Kind} {loads : List (Kind × List Json)}
    (h : ∀ load ∈ loads, ∀ record ∈ load.2, record.Writable) : ∀ record ∈ recordsOf kind loads, record.Writable := by
  intro record hrecord
  obtain ⟨load, hload, hmem⟩ := List.mem_flatMap.1 hrecord
  exact h load (List.mem_filter.1 hload).1 record hmem

/-- Records without infinite numbers whose numbers can all be written, as those that are read from a text can, are always
loaded. What they make up can be scanned for recipes, for any party of which no call fails and where no subscriber
leaves, just when the notes of the craftable records that stand can be read in the workshop's mode and no recipe is
dropped of an entity whose name is torn. It can be checked just when the notes can be read to the end: each is missing,
void or a text, and reading it comes to no block that is refused for its cost alone. -/
theorem loaded_scans_iff {ι ω : Type} [DecidableEq ι] [Audience ι Notice ω] [Audience.Candid ι Notice ω]
    (loads : List (Kind × List Json)) (hwritable : ∀ load ∈ loads, ∀ record ∈ load.2, record.Writable)
    (hfinite : ∀ load ∈ loads, ∀ record ∈ load.2, ¬Entity.Infinite record) :
    let loading := loadTables (tablesOf loads) {}
    loading.value = .ok () ∧ ∀ w : Workshop (Faulty Party) ι ω, w.registry = loading.state →
      w.inventory.faults = .clear →
        ((∃ recipes, (Workshop.refresh w).value = .ok recipes) ↔
            Scannable w.mode loads ∧ loading.state.DropsPrintable w.mode) ∧
          ((∃ text, (Console.checkNotes w).value = .ok text) ↔ Scannable .every loads) := by
  intro loading
  obtain ⟨hvalue, htables⟩ := loadTables_returns hwritable hfinite {}
  refine ⟨hvalue, fun w hregistry hclear => ?_⟩
  have hloaded : ∀ kind, w.registry.table kind = placeAll ((recordsOf kind loads).filterMap (entityOf? kind)) [] := by
    intro kind
    have hempty : ({} : Registry).table kind = [] := by
      cases kind <;> rfl
    rw [hregistry, htables kind, hempty]
  have hnamed : ∀ entity ∈ w.registry.craftable, entity.Named := by
    intro entity hentity
    obtain ⟨kind, -, hmem⟩ := List.mem_flatMap.1 hentity
    rw [hloaded kind] at hmem
    obtain ⟨record, before, after, hrecords, hrecord, -⟩ := mem_loaded_iff.1 hmem
    have hlisted : record ∈ recordsOf kind loads := by
      rw [hrecords]
      exact List.mem_append_right _ List.mem_cons_self
    exact named_of_entityOf? hrecord (writable_of_mem_recordsOf hwritable record hlisted)
  rw [Workshop.exists_refresh_iff hclear, Catalog.readable_iff hnamed, Console.exists_checkNotes_iff hnamed,
    scannable_iff hloaded, scannable_iff hloaded, hregistry]
  exact ⟨Iff.rfl, Iff.rfl⟩

end Registry

namespace Sample

open Registry

/-- A record whose note is no text. -/
def oddRecord : Json :=
  .object [("id", .whole 3), ("name", .string "Scroll"), ("note", .whole 5)]

def plainRecord : Json :=
  .object [("id", .whole 3), ("name", .string "Scroll"), ("note", .null)]

/-- A workshop over what is loaded from records of items. -/
def loadedShop (records : List Json) : Workshop (Faulty Party) Empty Unit where
  registry := (loadTables (tablesOf [(.item, records)]) {}).state
  inventory := ⟨{ gold := 0 }, .clear⟩
  bus := { world := () }

/-- A record whose note is no text is loaded, and then stops the scan, unless another one takes its place. -/
theorem odd_note_stops :
    (∀ record ∈ [oddRecord, plainRecord], record.Writable) ∧
      (∀ record ∈ [oddRecord, plainRecord], ¬Entity.Infinite record) ∧
      (¬∃ recipes, (Workshop.refresh (loadedShop [oddRecord])).value = .ok recipes) ∧
      (¬∃ text, (Console.checkNotes (loadedShop [oddRecord])).value = .ok text) ∧
      (∃ recipes, (Workshop.refresh (loadedShop [oddRecord, plainRecord])).value = .ok recipes) ∧
      ∃ text, (Console.checkNotes (loadedShop [oddRecord, plainRecord])).value = .ok text := by
  have hodd : entityOf? .item oddRecord =
      some { ref := ⟨.item, 3, Nat.succ_pos 2⟩, name := .string "Scroll", note := .whole 5 } := rfl
  have hplain : entityOf? .item plainRecord =
      some { ref := ⟨.item, 3, Nat.succ_pos 2⟩, name := .string "Scroll" } := rfl
  have hwritable : ∀ record ∈ [oddRecord, plainRecord], record.Writable := by
    have hwritten : ∀ record ∈ [oddRecord, plainRecord], record.literal.toOption.isSome = true := by decide +kernel
    intro record hrecord
    cases hliteral : record.literal with
    | ok text => exact ⟨text, hliteral⟩
    | error failure =>
        have hsome := hwritten record hrecord
        rw [hliteral] at hsome
        cases hsome
  have hfinite : ∀ record ∈ [oddRecord, plainRecord], ¬Entity.Infinite record :=
    List.forall_mem_cons.2
      ⟨not_infinite_of_entityOf? hodd, List.forall_mem_singleton.2 (not_infinite_of_entityOf? hplain)⟩
  have hstops : ∀ mode, ¬Scannable mode [(.item, [oddRecord])] := by
    intro mode h
    have hstands : Stands .item [oddRecord] oddRecord _ := ⟨[], [], rfl, hodd, nofun⟩
    obtain ⟨text, htext, -⟩ := h .item (by decide) oddRecord _ hstands (.whole 5) rfl rfl
    cases htext
  have hpasses : ∀ mode, Scannable mode [(.item, [oddRecord, plainRecord])] := by
    rintro mode (_ | _ | _ | _) hkind record entity ⟨before, after, heq, hrecord, hlast⟩ note hnote
    · change [oddRecord, plainRecord] = before ++ record :: after at heq
      rcases before with _ | ⟨first, _ | ⟨second, before⟩⟩
      · -- The odd record is not the last of its number.
        cases heq
        cases hodd.symm.trans hrecord
        exact (hlast plainRecord (List.mem_singleton_self _) _ hplain rfl).elim
      · cases heq
        cases hnote
        exact nofun
      · simp at heq
    all_goals
      cases before <;> cases heq
  have hdrops : (loadTables (tablesOf [(.item, [oddRecord, plainRecord])]) {}).state.DropsPrintable .every := by
    have hwhole : ∀ entity ∈ (loadTables (tablesOf [(.item, [oddRecord, plainRecord])]) {}).state.craftable,
        entity.name.isTorn = false :=
      List.forall_mem_singleton.2 rfl
    intro entity hentity htorn
    rw [hwhole entity hentity] at htorn
    cases htorn
  have hodds : ∀ record ∈ [oddRecord], record ∈ [oddRecord, plainRecord] :=
    List.forall_mem_singleton.2 List.mem_cons_self
  obtain ⟨hrefresh, hcheck⟩ := (loaded_scans_iff [(.item, [oddRecord])]
    (List.forall_mem_singleton.2 fun record h => hwritable record (hodds record h))
    (List.forall_mem_singleton.2 fun record h => hfinite record (hodds record h))).2 (loadedShop [oddRecord]) rfl rfl
  obtain ⟨hrefreshes, hchecks⟩ := (loaded_scans_iff [(.item, [oddRecord, plainRecord])]
    (List.forall_mem_singleton.2 hwritable) (List.forall_mem_singleton.2 hfinite)).2
    (loadedShop [oddRecord, plainRecord]) rfl rfl
  exact ⟨hwritable, hfinite, fun h => hstops _ (hrefresh.1 h).1, mt hcheck.1 (hstops _),
    hrefreshes.2 ⟨hpasses _, hdrops⟩, hchecks.2 (hpasses _)⟩

end Sample

end Crafting
