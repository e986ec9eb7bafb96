import Mathlib.Data.List.Nodup
import Crafting.Proofs.Act
import Crafting.Registry.Load

/-!
# Sound registries

The tables of a registry hold entities of their own kind, no two with one number. Registering and changing notes keep
this, so it holds of every registry that is filled from records.
-/

namespace Crafting.Registry

/-- Each table is of its own kind and has each number once at most. -/
structure Sound (registry : Registry) : Prop where
  kind_eq : ∀ kind, ∀ entity ∈ registry.table kind, entity.kind = kind
  nodup : ∀ kind, ((registry.table kind).map (·.ref.id)).Nodup

theorem sound_empty : Sound {} where
  kind_eq := by rintro (_ | _ | _ | _) entity hentity <;> cases hentity
  nodup := by rintro (_ | _ | _ | _) <;> exact List.nodup_nil

theorem Sound.setTable {registry : Registry} (h : registry.Sound) {kind : Kind} {entities : List Entity}
    (hkind : ∀ entity ∈ entities, entity.kind = kind) (hnodup : (entities.map (·.ref.id)).Nodup) :
    (registry.setTable kind entities).Sound := by
  constructor <;> intro other <;> by_cases hother : other = kind
  · subst hother
    rwa [table_setTable_self]
  · rw [table_setTable_of_ne registry entities hother]
    exact h.kind_eq other
  · subst hother
    rwa [table_setTable_self]
  · rw [table_setTable_of_ne registry entities hother]
    exact h.nodup other

/-! ## Registering -/

/-- An entity takes the place of the one with its number, or goes to the end. -/
theorem map_place (entity : Entity) (table : List Entity) :
    (place entity table).map (·.ref.id) =
      if entity.ref.id ∈ table.map (·.ref.id) then table.map (·.ref.id)
      else table.map (·.ref.id) ++ [entity.ref.id] := by
  induction table with
  | nil => rfl
  | cons first rest ih =>
      rw [place, List.map_cons]
      by_cases hsame : first.ref.id = entity.ref.id
      · rw [if_pos hsame, List.map_cons, hsame, if_pos List.mem_cons_self]
      · simp only [if_neg hsame, List.map_cons, ih, List.mem_cons, Ne.symm hsame, false_or]
        split <;> rfl

theorem nodup_place {table : List Entity} (h : (table.map (·.ref.id)).Nodup) (entity : Entity) :
    ((place entity table).map (·.ref.id)).Nodup := by
  rw [map_place]
  split
  · exact h
  · rename_i hnew
    exact h.append (List.nodup_singleton _) (List.disjoint_singleton.2 hnew)

theorem mem_place_iff {table : List Entity} (h : (table.map (·.ref.id)).Nodup) {entity other : Entity} :
    other ∈ place entity table ↔ other = entity ∨ other ∈ table ∧ entity.ref.id ≠ other.ref.id := by
  induction table with
  | nil => simp [place]
  | cons first rest ih =>
      obtain ⟨hfirst, hrest⟩ := List.nodup_cons.1 h
      rw [place]
      by_cases hsame : first.ref.id = entity.ref.id
      · -- The first one makes room, and no other has its number.
        have hkept : other ∈ rest → entity.ref.id ≠ other.ref.id := by
          intro hother heq
          have hmem : other.ref.id ∈ rest.map (·.ref.id) := List.mem_map_of_mem hother
          rw [← heq, ← hsame] at hmem
          exact hfirst hmem
        rw [if_pos hsame, List.mem_cons, List.mem_cons]
        constructor
        · rintro (rfl | hother)
          · exact .inl rfl
          · exact .inr ⟨.inr hother, hkept hother⟩
        · rintro (rfl | ⟨rfl | hother, hne⟩)
          · exact .inl rfl
          · exact absurd hsame.symm hne
          · exact .inr hother
      · rw [if_neg hsame, List.mem_cons, List.mem_cons, ih hrest]
        constructor
        · rintro (rfl | rfl | ⟨hother, hne⟩)
          · exact .inr ⟨.inl rfl, Ne.symm hsame⟩
          · exact .inl rfl
          · exact .inr ⟨.inr hother, hne⟩
        · rintro (rfl | ⟨rfl | hother, hne⟩)
          · exact .inr (.inl rfl)
          · exact .inl rfl
          · exact .inr (.inr ⟨hother, hne⟩)

theorem Sound.register {registry : Registry} (h : registry.Sound) (entity : Entity) :
    (registry.register entity).Sound := by
  refine h.setTable (fun other hother => ?_) (nodup_place (h.nodup entity.kind) entity)
  rcases (mem_place_iff (h.nodup entity.kind)).1 hother with rfl | ⟨hother, -⟩
  · rfl
  · exact h.kind_eq _ other hother

theorem Sound.setNote {registry : Registry} (h : registry.Sound) (ref : EntityRef) (note : Json) :
    (registry.setNote ref note).Sound := by
  have hkept : ∀ entity : Entity, (if entity.ref = ref then { entity with note } else entity).ref = entity.ref := by
    intro entity
    split <;> rfl
  refine h.setTable (List.forall_mem_map.2 fun entity hentity => ?_) ?_
  · rw [Entity.kind, hkept]
    exact h.kind_eq _ entity hentity
  · have hids := h.nodup ref.kind
    simpa only [List.map_map, Function.comp_def, hkept] using hids

/-! ## Loading -/

/-- Whether the declaration of an entity is reported as its second. -/
def declaration (entity : Entity) (registry : Registry) : Except Failure Unit :=
  if registry.resolves entity.ref then (duplicateText entity.ref).map fun _ => () else .ok ()

/-- An entity is registered, unless it is declared a second time and that cannot be reported. -/
theorem declareEntity_run (entity : Entity) (registry : Registry) :
    (declareEntity entity registry).value = declaration entity registry ∧
      (declareEntity entity registry).state =
        (declaration entity registry).toOption.elim registry fun _ => registry.register entity := by
  simp only [declareEntity, declaration, Act.run_bind, Act.run_get]
  split
  · cases duplicateText entity.ref <;> exact ⟨rfl, rfl⟩
  · exact ⟨rfl, rfl⟩

theorem declareEntity_of_writable {entity : Entity} (h : entity.ref.Writable) (registry : Registry) :
    (declareEntity entity registry).value = .ok () ∧
      (declareEntity entity registry).state = registry.register entity := by
  have hdeclared : declaration entity registry = .ok () := by
    rw [declaration, duplicateText, h.text_eq]
    split <;> rfl
  obtain ⟨hvalue, hstate⟩ := declareEntity_run entity registry
  rw [hdeclared] at hvalue hstate
  exact ⟨hvalue, hstate⟩

theorem loadItems_sound (kind : String) (records : List Json) : Act.Keeps Sound (loadItems kind records) := by
  induction records with
  | nil => exact .pure 0
  | cons record rest ih =>
      have hdeclare (entity : Entity) : Act.Keeps Sound (declareEntity entity) := by
        intro registry h
        rw [(declareEntity_run entity registry).2]
        cases declaration entity registry with
        | ok u => exact h.register entity
        | error failure => exact h
      refine .ite ih (((Act.Keeps.ofExcept _).bind hdeclare).attempt.bind fun result => ?_)
      cases result with
      | ok u => exact ih.bind fun _ => .pure _
      | error failure =>
          cases failure
          case infinite => exact .fail _
          all_goals exact (Act.Keeps.report _ _).bind fun _ => ih

theorem loadRecords_sound (kind : String) (records : Json) : Act.Keeps Sound (loadRecords kind records) :=
  Act.Keeps.bind (fun _ h => h) fun items => loadItems_sound kind items

theorem loadTables_sound (tables : List (String × Json)) : Act.Keeps Sound (loadTables tables) := by
  induction tables with
  | nil => exact .pure ()
  | cons table rest ih =>
      have hrest : Act.Keeps Sound (do
          let _ ← loadRecords table.1 table.2
          loadTables rest) :=
        (loadRecords_sound table.1 table.2).bind fun _ => ih
      exact .ite ((Act.Keeps.fail _).bind fun _ => hrest) hrest

/-- What is loaded from a directory is sound. -/
theorem loadDirectory_sound (directory : String) (file : Kind → DataFile) :
    Act.Keeps Sound (loadDirectory directory file) := by
  refine Act.Keeps.forM (fun kind => ?_) Kind.all
  unfold loadFile
  split
  · exact .log _
  · exact .log _
  · split
    · exact .log _
    · exact .fail _
    · exact (loadItems_sound kind.name _).bind fun _ => .log _
    · exact .log _

/-! ## Craftable entities -/

theorem Sound.nodup_refs {registry : Registry} (h : registry.Sound) (kind : Kind) :
    ((registry.table kind).map (·.ref)).Nodup := by
  have hids := h.nodup kind
  rw [← Function.comp_def EntityRef.id, ← List.map_map] at hids
  exact hids.of_map

theorem Sound.nodup_craftable {registry : Registry} (h : registry.Sound) : (registry.craftable.map (·.ref)).Nodup := by
  rw [craftable, List.map_flatMap, List.nodup_flatMap]
  refine ⟨fun kind _ => h.nodup_refs kind, ?_⟩
  have hkinds : Kind.craftable.Pairwise (· ≠ ·) := by decide
  refine hkinds.imp fun {first second} hne ref hfirst hsecond => hne ?_
  -- A reference in two tables would be of two kinds.
  obtain ⟨entity, hentity, rfl⟩ := List.mem_map.1 hfirst
  obtain ⟨other, hother, hsame⟩ := List.mem_map.1 hsecond
  rw [← h.kind_eq first entity hentity, ← h.kind_eq second other hother, Entity.kind, Entity.kind, hsame]

end Crafting.Registry
