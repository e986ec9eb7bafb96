import Mathlib.Data.List.Flatten
import Crafting.Proofs.Abundance
import Crafting.Proofs.Fate

/-!
# Where only the first recipe counts

A note may count for one recipe only. Then the first recipe that it has is read, and of the catalog that counts every
recipe a part is left, with one recipe of each entity at most. A recipe that is not shown still takes the place of those
behind it in its note.
-/

namespace Crafting

/-! ## Notes -/

namespace Note

variable {σ : Type} {note : String} {source : Option EntityRef} {s : σ} {found : List Recipe}

/-- The note has one block at most that can be read. -/
def IsSingle (note : String) : Prop :=
  (blocks note.toList).Pairwise fun body other => ¬((∃ recipe, Declares body recipe) ∧ ∃ recipe, Declares other recipe)

theorem eq_declaredIn (h : (recipes note source s).value = .ok found) : found = declaredIn note source := by
  rw [recipes_run (exists_recipes_iff.1 ⟨found, h⟩)] at h
  exact (Except.ok.inj h).symm

/-- Of a note whose recipes can all be read, the first can be read. -/
theorem firstRecipe_of_recipes (h : (recipes note source s).value = .ok found) :
    (firstRecipe note source s).value = .ok found.head? := by
  obtain ⟨first, hfirst⟩ := exists_firstRecipe_iff.2 ((exists_recipes_iff.1 ⟨found, h⟩).of_every .first)
  rw [hfirst, keepFirst_value hfirst, filterMap_toOption, eq_declaredIn h]

theorem source_of_mem_declaredIn : ∀ recipe ∈ declaredIn note source, recipe.source = source := by
  intro recipe hrecipe
  obtain ⟨body, -, hread⟩ := List.mem_filterMap.1 hrecipe
  exact (toOption_readBlock_iff.1 hread).2

theorem IsSingle.head?_toList (h : IsSingle note) :
    (declaredIn note source).head?.toList = declaredIn note source := by
  -- No two recipes are read, as they would be of two blocks.
  have hpairs : (declaredIn note source).Pairwise fun _ _ => False := by
    refine List.pairwise_filterMap.2 (h.imp fun {body other} hnot first hfirst second hsecond => hnot ⟨?_, ?_⟩)
    · exact ⟨first, (toOption_readBlock_iff.1 hfirst).1⟩
    · exact ⟨second, (toOption_readBlock_iff.1 hsecond).1⟩
  match declaredIn note source, hpairs with
  | [], _ => rfl
  | [recipe], _ => rfl
  | first :: second :: rest, hpairs => exact absurd ((List.pairwise_cons.1 hpairs).1 second List.mem_cons_self) id

end Note

/-! ## Entities -/

namespace Catalog

variable {σ : Type} {entity : Entity}

theorem declared_first {recipes : List Recipe} (h : (declared .every entity ()).value = .ok recipes) :
    (declared .first entity ()).value = .ok recipes.head?.toList := by
  rw [declared_eq_ok_iff] at h ⊢
  rcases h with ⟨hvoid, rfl⟩ | ⟨note, hnote, htruthy, hrecipes⟩
  · exact .inl ⟨hvoid, rfl⟩
  · refine .inr ⟨note, hnote, htruthy, ?_⟩
    rw [Note.recipesIn, Act.run_bind_of_ok (Note.firstRecipe_of_recipes hrecipes)]
    rfl

theorem ReadableNote.first (h : ReadableNote .every entity) : ReadableNote .first entity := by
  obtain ⟨recipes, hrecipes⟩ := h
  exact ⟨_, declared_first hrecipes⟩

theorem Reports.first {registry : Registry} {recipes : List Recipe} (h : Reports registry entity recipes) :
    Reports registry entity recipes.head?.toList :=
  fun recipe hrecipe => h recipe (List.mem_of_mem_head? (Option.mem_toList.1 hrecipe))

theorem declaredBy_first (h : ReadableNote .every entity) :
    declaredBy .first entity = (declaredBy .every entity).head?.toList := by
  obtain ⟨recipes, hrecipes⟩ := h
  rw [declaredBy, declaredBy, declared_first hrecipes, hrecipes]
  rfl

theorem source_of_mem_declaredBy : ∀ recipe ∈ declaredBy .every entity, recipe.source = some entity.ref := by
  intro recipe hrecipe
  rw [declaredBy] at hrecipe
  cases hdeclared : (declared .every entity ()).value with
  | error failure =>
      rw [hdeclared] at hrecipe
      cases hrecipe
  | ok recipes =>
      rw [hdeclared] at hrecipe
      rcases declared_eq_ok_iff.1 hdeclared with ⟨-, rfl⟩ | ⟨note, -, -, hrecipes⟩
      · cases hrecipe
      · obtain rfl := Note.eq_declaredIn hrecipes
        exact Note.source_of_mem_declaredIn recipe hrecipe

theorem declaredBy_of_single (hreadable : ReadableNote .every entity)
    (h : ∀ note, entity.note.text? = some note → Note.IsSingle note) :
    declaredBy .first entity = declaredBy .every entity := by
  rw [declaredBy_first hreadable]
  obtain ⟨recipes, hdeclared⟩ := hreadable
  rw [declaredBy, hdeclared]
  rcases declared_eq_ok_iff.1 hdeclared with ⟨-, rfl⟩ | ⟨note, hnote, -, hrecipes⟩
  · rfl
  · obtain rfl := Note.eq_declaredIn hrecipes
    exact (h note hnote).head?_toList

/-! ## Registries -/

section

variable {registry : Registry} {entities : List Entity} (h : ∀ entity ∈ entities, ReadableNote .every entity)

include h

theorem known_first_sublist : (known registry .first entities).Sublist (known registry .every entities) := by
  refine List.Sublist.filter _ (List.Sublist.flatMap_right entities fun entity hentity => ?_)
  rw [declaredBy_first (h entity hentity)]
  cases declaredBy .every entity with
  | nil => exact List.Sublist.slnil
  | cons recipe rest => exact List.singleton_sublist.2 List.mem_cons_self

/-- Each entity is the source of one recipe at most. -/
theorem sources_sublist :
    ((known registry .first entities).map (·.source)).Sublist (entities.map fun entity => some entity.ref) := by
  have hdeclared : ((entities.flatMap (declaredBy .first)).map (·.source)).Sublist
      (entities.flatMap fun entity => [some entity.ref]) := by
    rw [List.map_flatMap]
    refine List.Sublist.flatMap_right entities fun entity hentity => ?_
    rw [declaredBy_first (h entity hentity)]
    have hsource : ∀ recipe ∈ declaredBy .every entity, recipe.source = some entity.ref := source_of_mem_declaredBy
    cases hrecipes : declaredBy .every entity with
    | nil => exact List.nil_sublist _
    | cons recipe rest =>
        rw [hrecipes] at hsource
        exact hsource recipe List.mem_cons_self ▸ List.Sublist.refl _
  rw [List.map_eq_flatMap (l := entities)]
  exact (List.filter_sublist.map _).trans hdeclared

theorem known_first_of_single
    (hsingle : ∀ entity ∈ entities, ∀ note, entity.note.text? = some note → Note.IsSingle note) :
    known registry .first entities = known registry .every entities := by
  have hdeclared : entities.flatMap (declaredBy .first) = entities.flatMap (declaredBy .every) :=
    List.flatMap_congr fun entity hentity => declaredBy_of_single (h entity hentity) (hsingle entity hentity)
  rw [known, known, hdeclared]

end

theorem Shows.sublist {answers : Recipe → Except Failure Bool} {recipes others found : List Recipe}
    (h : Shows answers recipes found) (hsublist : others.Sublist recipes) :
    ∃ fewer, Shows answers others fewer ∧ fewer.Sublist found := by
  obtain ⟨hanswered, rfl⟩ := h
  exact ⟨_, ⟨fun recipe hrecipe => hanswered recipe (hsublist.subset hrecipe), rfl⟩, hsublist.filter _⟩

/-- Where all recipes of a note can be read, the first of them is its first recipe. Where the catalog of all recipes is
built by a predicate of the recipe alone, which may fail too, so is that of the first ones. It is a part of the other,
in the same order, with one recipe for each source at most, and all of it if no note has two blocks that can be read. -/
theorem first_mode_degrades (s : σ) :
    (∀ note source found, (Note.recipes note source s).value = .ok found →
      (Note.firstRecipe note source s).value = .ok found.head?) ∧
    ∀ (registry : Registry) (answers : Recipe → Except Failure Bool) (all : List Recipe),
      let built := fun mode => (build registry (fun recipe => Act.ofExcept (answers recipe)) mode s).value
      built .every = .ok all →
        ∃ first, built .first = .ok first ∧ first.Sublist all ∧
          (registry.Sound → (first.map (·.source)).Nodup) ∧
          ((∀ entity ∈ registry.craftable, ∀ note, entity.note.text? = some note → Note.IsSingle note) → first = all) := by
  refine ⟨fun note source found => Note.firstRecipe_of_recipes, ?_⟩
  intro registry answers all built hall
  have hbuilt : ∀ mode found, built mode = .ok found ↔
      Readable registry mode ∧ Shows answers (known registry mode registry.craftable) found :=
    fun mode found => build_eq_ok_iff fun recipe => Act.run_ofExcept (answers recipe) s
  obtain ⟨hreadable, hshows⟩ := (hbuilt .every all).1 hall
  have hnotes : ∀ entity ∈ registry.craftable, ReadableNote .every entity := fun entity hentity =>
    (hreadable entity hentity).1
  have hfewer : (known registry .first registry.craftable).Sublist (known registry .every registry.craftable) :=
    known_first_sublist hnotes
  obtain ⟨first, hfirst, hsublist⟩ := hshows.sublist hfewer
  have hfirstReadable : Readable registry .first := by
    intro entity hentity
    refine ⟨(hnotes entity hentity).first, ?_⟩
    rw [declaredBy_first (hnotes entity hentity)]
    exact (hreadable entity hentity).2.first
  refine ⟨first, (hbuilt .first first).2 ⟨hfirstReadable, hfirst⟩, hsublist, fun hsound => ?_, fun hsingle => ?_⟩
  · -- What is shown has the sources of different entities.
    have hsources : (registry.craftable.map fun entity => some entity.ref).Nodup := by
      have hrefs := hsound.nodup_craftable.map (Option.some_injective EntityRef)
      rwa [List.map_map] at hrefs
    obtain ⟨-, rfl⟩ := hfirst
    exact ((List.filter_sublist.map _).trans (sources_sublist hnotes)).nodup hsources
  · rw [hfirst.2, hshows.2, known_first_of_single hnotes hsingle]

end Catalog

namespace Sample

/-- Whoever owns nothing is shown the second recipe of the flask, but not where only the first counts. -/
theorem cellar_degrades :
    let s : Faulty Party := ⟨{}, .clear⟩
    let built := fun mode => (Catalog.build cellar Visibility.nothingOwned.sees mode s).value
    ∃ note, flask.note = .string note ∧ (Note.recipes note (some flask.ref) s).value = .ok [refill, doubled] ∧
      (Note.firstRecipe note (some flask.ref) s).value = .ok (some refill) ∧
      cellar.Sound ∧ built .every = .ok [doubled] ∧
      ∃ first, built .first = .ok first ∧ first.Sublist [doubled] ∧ (first.map (·.source)).Nodup := by
  intro s built
  obtain ⟨hnotes, hcatalogs⟩ := Catalog.first_mode_degrades s
  have hdeclared := (Catalog.run_declared .every flask s).1.trans declared_flask
  obtain ⟨-, hnone⟩ | ⟨note, hnote, -, hrecipes⟩ := Catalog.declared_eq_ok_iff.1 hdeclared
  · cases hnone
  cases hnote
  have hsound : cellar.Sound := Registry.sound_empty.register flask
  have hshown : Catalog.Shows (fun recipe => .ok recipe.requirement.isNone) [refill, doubled] [doubled] :=
    ⟨fun recipe _ => ⟨_, rfl⟩, rfl⟩
  rw [← known_cellar] at hshown
  have hall : built .every = .ok [doubled] :=
    (Catalog.build_eq_ok_iff fun _ => Act.run_ofExcept _ s).2 ⟨readable_cellar, hshown⟩
  obtain ⟨first, hfirst, hsublist, hsources, -⟩ := hcatalogs cellar _ [doubled] hall
  exact ⟨_, rfl, hrecipes, hnotes _ _ _ hrecipes, hsound, hall, first, hfirst, hsublist, hsources hsound⟩

end Sample

end Crafting
