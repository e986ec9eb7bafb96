import Crafting.Console.Basic
import Crafting.Inventory.Party
import Crafting.Proofs.Catalog
import Crafting.Proofs.Note.Returns
import Crafting.Proofs.Note.RoundTrip
import Crafting.Proofs.Registry

/-!
# Fates of recipe blocks

Each recipe block in the notes of a registry comes to one end: it is reported to its author, dropped with a warning,
hidden, or listed. Building the catalog and checking the notes tell of these fates, block after block, and of nothing
else.
-/

namespace Crafting

open Note (Fault Refusal readBlock)

/-! ## Blocks -/

/-- A recipe block in the note of an entity, with its number there. -/
structure NoteBlock where
  entity : Entity
  number : Nat
  body : List Char

/-- The blocks in an entity's note, numbered from one. -/
def Entity.noteBlocks (entity : Entity) : List NoteBlock :=
  match entity.note with
  | .string note => (Note.blocks note.toList).zipIdx 1 |>.map fun (body, number) => ⟨entity, number, body⟩
  | _ => []

/-- All blocks: those of items, then of weapons, then of armor. -/
def Registry.noteBlocks (registry : Registry) : List NoteBlock :=
  (registry.items ++ (registry.weapons ++ registry.armor)).flatMap Entity.noteBlocks

/-! ## Fates -/

/-- What becomes of a block, with what is seen of it. -/
inductive Fate where
  | reported (line : String)
  | dropped (warning : Log.Entry)
  | hidden
  | listed (recipe : Recipe)

namespace Fate

def line? : Fate → Option String
  | reported line => some line
  | dropped _ | hidden | listed _ => none

def warning? : Fate → Option Log.Entry
  | dropped warning => some warning
  | reported _ | hidden | listed _ => none

def recipe? : Fate → Option Recipe
  | listed recipe => some recipe
  | reported _ | dropped _ | hidden => none

end Fate

namespace NoteBlock

/-- The block declares the recipe, which has the entity of the note as its source. -/
def Declares (block : NoteBlock) (recipe : Recipe) : Prop :=
  Note.Declares block.body recipe ∧ recipe.source = some block.entity.ref

end NoteBlock

/-- The line of a report on a block in the entity's note. -/
def Entity.reportLine (entity : Entity) (block : Nat × Fault) : String :=
  FormatCode.paint .cyan (entity.ref.plainText ++ " (" ++ entity.shownName ++ ")") ++ ": " ++ Note.problemText block

/-- The warning about a recipe that mentions entities that are not registered. -/
def dropWarning (registry : Registry) (entity : Entity) (recipe : Recipe) : Log.Entry :=
  Log.warning Catalog.logSource
    ("Dropping recipe on " ++ entity.ref.plainText ++ " (" ++ entity.shownName ++ "): unknown " ++
      ", ".intercalate ((Catalog.unresolved registry recipe).map EntityRef.plainText) ++ ".")

/-- How a block comes to its fate where that predicate says which recipes are visible. -/
inductive NoteBlock.Meets (registry : Registry) (accepts : Recipe → Bool) (block : NoteBlock) : Fate → Prop where
  | reported {fault : Fault} (hfault : readBlock block.body none = .error (.malformed fault)) :
      Meets registry accepts block (.reported (block.entity.reportLine (block.number, fault)))
  | dropped {recipe : Recipe} (hdeclares : block.Declares recipe)
      (hunknown : ∃ ref ∈ recipe.entityRefs, registry.resolves ref = false) :
      Meets registry accepts block (.dropped (dropWarning registry block.entity recipe))
  | hidden {recipe : Recipe} (hdeclares : block.Declares recipe)
      (hknown : ∀ ref ∈ recipe.entityRefs, registry.resolves ref = true) (hhidden : accepts recipe = false) :
      Meets registry accepts block .hidden
  | listed {recipe : Recipe} (hdeclares : block.Declares recipe)
      (hknown : ∀ ref ∈ recipe.entityRefs, registry.resolves ref = true) (hvisible : accepts recipe = true) :
      Meets registry accepts block (.listed recipe)

/-- The fate of a recipe that is read from a block. -/
def recipeFate (registry : Registry) (accepts : Recipe → Bool) (entity : Entity) (recipe : Recipe) : Fate :=
  if Catalog.unresolved registry recipe = [] then if accepts recipe then .listed recipe else .hidden
  else .dropped (dropWarning registry entity recipe)

/-- The fate of a block; there is none if reading stops at it. -/
def NoteBlock.fate? (registry : Registry) (accepts : Recipe → Bool) (block : NoteBlock) : Option Fate :=
  match readBlock block.body (some block.entity.ref) with
  | .ok recipe => some (recipeFate registry accepts block.entity recipe)
  | .error (.malformed fault) => some (.reported (block.entity.reportLine (block.number, fault)))
  | .error (.costTooLong _) => none

/-! ## One fate for each block -/

theorem Note.readBlock_eq_malformed_iff {body : List Char} {source : Option EntityRef} {fault : Fault} :
    readBlock body source = .error (.malformed fault) ↔ readBlock body none = .error (.malformed fault) := by
  rw [readBlock_source body source]
  cases readBlock body none <;> simp [Except.map]

section

variable {registry : Registry} {accepts : Recipe → Bool} {entity : Entity} {recipe : Recipe} {block : NoteBlock}
  {fate : Fate}

theorem Catalog.unresolved_eq_nil_iff :
    unresolved registry recipe = [] ↔ ∀ ref ∈ recipe.entityRefs, registry.resolves ref = true := by
  simp [unresolved]

theorem recipeFate_of_known (h : ∀ ref ∈ recipe.entityRefs, registry.resolves ref = true) :
    recipeFate registry accepts entity recipe = if accepts recipe then .listed recipe else .hidden :=
  if_pos (Catalog.unresolved_eq_nil_iff.2 h)

theorem recipeFate_of_unknown (h : ∃ ref ∈ recipe.entityRefs, registry.resolves ref = false) :
    recipeFate registry accepts entity recipe = .dropped (dropWarning registry entity recipe) := by
  obtain ⟨ref, hmem, hunknown⟩ := h
  refine if_neg fun hnone => ?_
  rw [Catalog.unresolved_eq_nil_iff.1 hnone ref hmem] at hunknown
  cases hunknown

/-- What can be read is not reported. -/
theorem line?_recipeFate (recipe : Recipe) : (recipeFate registry accepts entity recipe).line? = none := by
  unfold recipeFate
  split
  · split <;> rfl
  · rfl

namespace NoteBlock

theorem readBlock_eq_ok_iff :
    readBlock block.body (some block.entity.ref) = .ok recipe ↔ block.Declares recipe :=
  Note.readBlock_eq_ok_iff

theorem meets_recipeFate (h : block.Declares recipe) :
    block.Meets registry accepts (recipeFate registry accepts block.entity recipe) := by
  by_cases hknown : ∀ ref ∈ recipe.entityRefs, registry.resolves ref = true
  · rw [recipeFate_of_known hknown]
    split
    · exact .listed h hknown ‹_›
    · exact .hidden h hknown (Bool.eq_false_iff.2 ‹_›)
  · have hunknown : ∃ ref ∈ recipe.entityRefs, registry.resolves ref = false := by simpa using hknown
    rw [recipeFate_of_unknown hunknown]
    exact .dropped h hunknown

theorem fate?_eq_some_iff : block.fate? registry accepts = some fate ↔ block.Meets registry accepts fate := by
  constructor
  · intro h
    rw [fate?] at h
    split at h
    · cases h
      exact meets_recipeFate (readBlock_eq_ok_iff.1 ‹_›)
    · cases h
      exact .reported (Note.readBlock_eq_malformed_iff.1 ‹_›)
    · cases h
  · have hread : ∀ {recipe}, block.Declares recipe →
        block.fate? registry accepts = some (recipeFate registry accepts block.entity recipe) := by
      intro recipe hdeclares
      rw [fate?, readBlock_eq_ok_iff.2 hdeclares]
    rintro (hfault | ⟨hdeclares, hunknown⟩ | ⟨hdeclares, hknown, hhidden⟩ | ⟨hdeclares, hknown, hvisible⟩)
    · rw [fate?, Note.readBlock_eq_malformed_iff.2 hfault]
    · rw [hread hdeclares, recipeFate_of_unknown hunknown]
    · rw [hread hdeclares, recipeFate_of_known hknown, hhidden]
      rfl
    · rw [hread hdeclares, recipeFate_of_known hknown, if_pos hvisible]

theorem exists_meets (h : ∀ digits, ¬Note.CostTooLong block.body digits) :
    ∃! fate, block.Meets registry accepts fate := by
  simp only [← fate?_eq_some_iff, fate?]
  split
  · exact ⟨_, rfl, fun _ hother => (Option.some.inj hother).symm⟩
  · exact ⟨_, rfl, fun _ hother => (Option.some.inj hother).symm⟩
  · rename_i digits hlong
    exact absurd (Note.readBlock_eq_costTooLong_iff.1 hlong) (h digits)

/-- What is reported is what declares no recipe. -/
theorem exists_reported_iff (h : ∀ digits, ¬Note.CostTooLong block.body digits) :
    (∃ line, block.Meets registry accepts (.reported line)) ↔ ¬∃ recipe, Note.Declares block.body recipe := by
  rw [← and_iff_left (a := ¬∃ recipe, Note.Declares block.body recipe) h, ← Note.exists_malformed_iff none]
  constructor
  · rintro ⟨_, ⟨hfault⟩⟩
    exact ⟨_, hfault⟩
  · rintro ⟨fault, hfault⟩
    exact ⟨_, .reported hfault⟩

end NoteBlock

end

/-! ## What notes declare -/

namespace Note

theorem toOption_readBlock_iff {body : List Char} {source : Option EntityRef} {recipe : Recipe} :
    (readBlock body source).toOption = some recipe ↔ Declares body recipe ∧ recipe.source = source := by
  rw [← readBlock_eq_ok_iff]
  cases readBlock body source <;> simp [Except.toOption]

/-- Whatever mode a note is read in, its recipes are among those of all its blocks. -/
theorem mem_declaredIn_of_recipesIn {σ : Type} {mode : Mode} {note : String} {source : Option EntityRef} {s : σ}
    {found : List Recipe} (h : (recipesIn mode note source s).value = .ok found) :
    ∀ recipe ∈ found, recipe ∈ declaredIn note source := by
  cases mode with
  | every =>
      rw [recipesIn, recipes_run (exists_recipes_iff.1 ⟨found, h⟩)] at h
      cases h
      exact fun _ hrecipe => hrecipe
  | first =>
      obtain ⟨first, hfirst, hfound⟩ := Act.bind_eq_ok_iff.1 h
      cases hfound
      rw [keepFirst_value hfirst, filterMap_toOption]
      exact fun recipe hrecipe => List.mem_of_mem_head? (Option.mem_toList.1 hrecipe)

end Note

namespace Catalog

/-- What is read from a note can be written. -/
theorem writable_of_mem_declaredBy {mode : Note.Mode} {entity : Entity} :
    ∀ recipe ∈ declaredBy mode entity, ∀ n ∈ recipe.numbers, Text.Numeral.Writable n := by
  intro recipe hrecipe
  rw [declaredBy] at hrecipe
  cases hdeclared : (declared mode entity ()).value with
  | error failure =>
      rw [hdeclared] at hrecipe
      cases hrecipe
  | ok recipes =>
      rw [hdeclared] at hrecipe
      rcases declared_eq_ok_iff.1 hdeclared with ⟨-, rfl⟩ | ⟨note, -, -, hrecipes⟩
      · cases hrecipe
      · obtain ⟨body, hbody, hread⟩ := List.mem_filterMap.1 (Note.mem_declaredIn_of_recipesIn hrecipes recipe hrecipe)
        exact ((Note.toOption_readBlock_iff.1 hread).1.readable (Note.tags_of_mem_blocks hbody)).2.1

/-- What is dropped can be reported where entities can be printed. -/
theorem reports_declaredBy_iff {registry : Registry} {mode : Note.Mode} {entity : Entity} :
    Reports registry entity (declaredBy mode entity) ↔
      ((∃ recipe ∈ declaredBy mode entity, unresolved registry recipe ≠ []) → entity.Printable) := by
  constructor
  · rintro hreports ⟨recipe, hrecipe, hunknown⟩
    obtain ⟨words, hwords⟩ := hreports recipe hrecipe hunknown
    exact (droppedText_eq_ok_iff.1 hwords).1
  · intro hprintable recipe hrecipe hunknown
    refine ⟨_, droppedText_eq_ok_iff.2 ⟨hprintable ⟨recipe, hrecipe, hunknown⟩, fun ref href => ?_, rfl⟩⟩
    have hrefs : ref ∈ recipe.entityRefs := (List.mem_filter.1 href).1
    exact writable_of_mem_declaredBy recipe hrecipe ref.id (List.mem_append_left _ (List.mem_map_of_mem hrefs))

end Catalog

/-! ## What is told of an entity's blocks -/

/-- The fates of an entity's blocks. -/
def Entity.fates (registry : Registry) (accepts : Recipe → Bool) (entity : Entity) : List Fate :=
  entity.noteBlocks.filterMap (NoteBlock.fate? registry accepts)

section

variable {σ : Type} (registry : Registry) (accepts : Recipe → Bool) {entity : Entity} {note : String}

theorem filterMap_fates {α : Type} (hnote : entity.note = .string note) (tell : Fate → Option α) :
    (entity.fates registry accepts).filterMap tell =
      ((Note.blocks note.toList).zipIdx 1).filterMap fun block =>
        (NoteBlock.fate? registry accepts ⟨entity, block.2, block.1⟩).bind tell := by
  rw [Entity.fates, Entity.noteBlocks, hnote, List.filterMap_filterMap, List.filterMap_map]
  rfl

/-- What is told of the recipes alone is told by reading them. -/
theorem filterMap_declaredIn {α : Type} (hnote : entity.note = .string note) (tell : Fate → Option α)
    (htell : ∀ line, tell (.reported line) = none) :
    ((Note.declaredIn note (some entity.ref)).filterMap fun recipe =>
        tell (recipeFate registry accepts entity recipe)) =
      (entity.fates registry accepts).filterMap tell := by
  rw [filterMap_fates registry accepts hnote, ← Note.filterMap_toOption, Note.readings, List.filterMap_map,
    List.filterMap_filterMap]
  refine List.filterMap_congr fun block _ => ?_
  simp only [Function.comp_apply, NoteBlock.fate?]
  rcases readBlock block.1 (some entity.ref) with (fault | digits) | recipe
  · exact (htell _).symm
  · rfl
  · rfl

theorem map_malformedIn (hnote : entity.note = .string note) :
    (Note.malformedIn note).map entity.reportLine = (entity.fates registry accepts).filterMap Fate.line? := by
  rw [filterMap_fates registry accepts hnote, ← Note.filterMap_malformed? note (some entity.ref), Note.readings,
    List.filterMap_map, List.map_filterMap]
  refine List.filterMap_congr fun block _ => ?_
  simp only [Function.comp_apply, NoteBlock.fate?, Note.malformed?]
  rcases readBlock block.1 (some entity.ref) with (fault | digits) | recipe
  · rfl
  · rfl
  · exact (line?_recipeFate recipe).symm

theorem declared_eq (hnote : entity.note = .string note) (s : σ) :
    Catalog.declared .every entity s = Note.recipes note (some entity.ref) s := by
  rw [Catalog.declared, hnote]
  split
  · rename_i hvoid
    obtain rfl : note = "" := by simpa [Json.isTruthy] using hvoid
    rfl
  · rfl

theorem Console.problemLine_eq_ok_iff {problem line : String} :
    problemLine entity problem = .ok line ↔ entity.Named ∧
      line = FormatCode.paint .cyan (entity.ref.plainText ++ " (" ++ entity.shownName ++ ")") ++ ": " ++ problem := by
  simp only [problemLine, Result.bind_eq_ok_iff, Result.pure_eq_ok_iff, EntityRef.text_eq_ok_iff]
  constructor
  · rintro ⟨_, ⟨href, rfl⟩, name, hname, rfl⟩
    exact ⟨⟨href, name, hname⟩, by rw [Entity.shownName_of_display hname]⟩
  · rintro ⟨⟨href, name, hname⟩, rfl⟩
    exact ⟨_, ⟨href, rfl⟩, name, hname, by rw [Entity.shownName_of_display hname]⟩

/-- The problems of a note are each written under the name of its entity. -/
theorem noteProblems_eq (hnote : entity.note = .string note) (h : Note.Unblocked none note .every) :
    Console.noteProblems entity =
      ((Note.malformedIn note).map Note.problemText).mapM (Console.problemLine entity) := by
  rw [Console.noteProblems, hnote]
  split
  · rename_i hvoid
    obtain rfl : note = "" := by simpa [Json.isTruthy] using hvoid
    rfl
  · simp only [Json.text?, Note.problems_eq h]
    rfl

theorem exists_noteProblems_iff (hnote : entity.note = .string note) (h : Note.Unblocked none note .every) :
    (∃ lines, Console.noteProblems entity = .ok lines) ↔ (Note.malformedIn note ≠ [] → entity.Named) := by
  rw [noteProblems_eq hnote h, Result.exists_mapM_iff, List.forall_mem_map]
  simp only [Console.problemLine_eq_ok_iff, exists_and_left, exists_eq, and_true]
  constructor
  · intro hnamed hsome
    obtain ⟨block, hblock⟩ := List.exists_mem_of_ne_nil _ hsome
    exact hnamed block hblock
  · exact fun hnamed block hblock => hnamed (List.ne_nil_of_mem hblock)

theorem noteProblems_of_named (hnote : entity.note = .string note) (h : Note.Unblocked none note .every)
    (hnamed : Note.malformedIn note ≠ [] → entity.Named) :
    Console.noteProblems entity = .ok ((entity.fates registry accepts).filterMap Fate.line?) := by
  rw [noteProblems_eq hnote h, ← map_malformedIn registry accepts hnote, List.mapM_map]
  exact Result.mapM_eq_ok fun block hblock =>
    Console.problemLine_eq_ok_iff.2 ⟨hnamed (List.ne_nil_of_mem hblock), rfl⟩

theorem run_listed [Inventory σ] {recipes : List Recipe} (h : Catalog.Reports registry entity recipes) (s : σ) :
    Catalog.listed registry (Visibility.only accepts).sees entity recipes s =
      ⟨.ok (recipes.filterMap fun recipe => (recipeFate registry accepts entity recipe).recipe?), s,
        recipes.filterMap fun recipe => (recipeFate registry accepts entity recipe).warning?⟩ := by
  induction recipes with
  | nil => rfl
  | cons recipe rest ih =>
      -- By induction on the recipes: one that is known is listed or hidden, another is dropped with its warning.
      obtain ⟨hfirst, hrest⟩ := List.forall_mem_cons.1 h
      have ih := ih hrest
      rw [Catalog.listed]
      cases hunresolved : Catalog.unresolved registry recipe with
      | nil =>
          have hfate : recipeFate registry accepts entity recipe = if accepts recipe then .listed recipe else .hidden :=
            if_pos hunresolved
          simp only [Visibility.sees, Act.run_bind, Act.run_pure, ih, List.filterMap_cons, hfate, List.append_nil]
          cases accepts recipe <;> rfl
      | cons unknown others =>
          have hfate : recipeFate registry accepts entity recipe = .dropped (dropWarning registry entity recipe) :=
            if_neg (hunresolved ▸ List.cons_ne_nil _ _)
          obtain ⟨words, hwords⟩ := hfirst (hunresolved ▸ List.cons_ne_nil _ _)
          rw [hunresolved] at hwords
          have hwarning : dropWarning registry entity recipe = Log.warning Catalog.logSource words := by
            rw [dropWarning, hunresolved, (Catalog.droppedText_eq_ok_iff.1 hwords).2.2]
          simp only [Act.run_bind_report hwords, ih, List.filterMap_cons, hfate, Fate.recipe?, Fate.warning?, hwarning]

end

/-! ## What is told of all blocks -/

def Log.Entry.isWarning (entry : Log.Entry) : Bool :=
  entry.level = 2

/-- An entity's note is a text at whose blocks reading does not stop. -/
def Entity.HasPlainNote (entity : Entity) : Prop :=
  ∃ note, entity.note = .string note ∧ Note.Unblocked (some entity.ref) note .every

section

variable {σ : Type} {registry : Registry} {accepts : Recipe → Bool} {entity : Entity}

/-- What building the catalog reports on an entity. -/
def Entity.scanLog (registry : Registry) (accepts : Recipe → Bool) (entity : Entity) : List Log.Entry :=
  (match entity.note with
    | .string note => (Note.malformedIn note).map (Note.skipEntry (some entity.ref))
    | _ => []) ++
    (entity.fates registry accepts).filterMap Fate.warning?

theorem declaredBy_eq {note : String} (hnote : entity.note = .string note)
    (hclear : Note.Unblocked (some entity.ref) note .every) :
    Catalog.declaredBy .every entity = Note.declaredIn note (some entity.ref) := by
  refine Catalog.declaredBy_of_ok ?_
  rw [declared_eq hnote, Note.recipes_run hclear]

theorem run_scan [Inventory σ] {entities : List Entity} (h : ∀ entity ∈ entities, entity.HasPlainNote)
    (hreports : ∀ entity ∈ entities, Catalog.Reports registry entity (Catalog.declaredBy .every entity)) (s : σ) :
    Catalog.scan registry (Visibility.only accepts).sees .every entities s =
      ⟨.ok ((entities.flatMap (Entity.fates registry accepts)).filterMap Fate.recipe?), s,
        entities.flatMap (Entity.scanLog registry accepts)⟩ := by
  induction entities with
  | nil => rfl
  | cons entity rest ih =>
      have hrest := ih (fun other hother => h other (List.mem_cons_of_mem _ hother))
        fun other hother => hreports other (List.mem_cons_of_mem _ hother)
      obtain ⟨note, hnote, hclear⟩ := h entity List.mem_cons_self
      have hfirst := hreports entity List.mem_cons_self
      rw [declaredBy_eq hnote hclear] at hfirst
      have hlisted := filterMap_declaredIn registry accepts hnote Fate.recipe? fun _ => rfl
      have hdropped := filterMap_declaredIn registry accepts hnote Fate.warning? fun _ => rfl
      simp only [Catalog.scan, Act.run_bind, declared_eq hnote, Note.recipes_run hclear,
        run_listed registry accepts hfirst, hlisted, hdropped, hrest, Act.run_pure, List.flatMap_cons,
        List.filterMap_append, Entity.scanLog, hnote, List.append_nil, List.append_assoc]

theorem isWarning_of_warning? {fate : Fate} {warning : Log.Entry}
    (hfate : fate ∈ entity.fates registry accepts) (h : fate.warning? = some warning) : warning.isWarning = true := by
  obtain ⟨block, -, hblock⟩ := List.mem_filterMap.1 hfate
  cases NoteBlock.fate?_eq_some_iff.1 hblock with
  | dropped => cases h; rfl
  | reported | hidden | listed => cases h

/-- The warnings are those about dropped blocks. -/
theorem filter_scanLog (entities : List Entity) :
    (entities.flatMap (Entity.scanLog registry accepts)).filter Log.Entry.isWarning =
      (entities.flatMap (Entity.fates registry accepts)).filterMap Fate.warning? := by
  rw [List.filter_flatMap, List.filterMap_flatMap]
  congr 1
  funext entity
  rw [Entity.scanLog, List.filter_append]
  have hskips : ∀ blocks : List (Nat × Fault),
      (blocks.map (Note.skipEntry (some entity.ref))).filter Log.Entry.isWarning = [] :=
    fun _ => List.filter_eq_nil_iff.2 (List.forall_mem_map.2 fun _ _ => nofun)
  have hwarnings : ((entity.fates registry accepts).filterMap Fate.warning?).filter Log.Entry.isWarning =
      (entity.fates registry accepts).filterMap Fate.warning? := by
    refine List.filter_eq_self.2 fun warning hwarning => ?_
    obtain ⟨fate, hfate, htold⟩ := List.mem_filterMap.1 hwarning
    exact isWarning_of_warning? hfate htold
  rw [hwarnings]
  split
  · rw [hskips, List.nil_append]
  · rfl

theorem forall₂_filterMap {α β : Type} {f : α → Option β} {items : List α} (h : ∀ a ∈ items, ∃ b, f a = some b) :
    List.Forall₂ (fun a b => f a = some b) items (items.filterMap f) := by
  induction items with
  | nil => exact .nil
  | cons a rest ih =>
      obtain ⟨b, hb⟩ := h a List.mem_cons_self
      rw [List.filterMap_cons, hb]
      exact .cons hb (ih fun c hc => h c (List.mem_cons_of_mem _ hc))

end

/-! ## Registries -/

section

variable {registry : Registry}

theorem Registry.craftable_eq (registry : Registry) :
    registry.craftable = registry.items ++ (registry.weapons ++ registry.armor) := by
  simp [craftable, Kind.craftable, table]

theorem Entity.entity_of_mem_noteBlocks {entity : Entity} : ∀ block ∈ entity.noteBlocks, block.entity = entity := by
  unfold noteBlocks
  split
  · exact List.forall_mem_map.2 fun _ _ => rfl
  · exact List.forall_mem_nil _

theorem Entity.mem_noteBlocks_iff {entity : Entity} {note : String} (hnote : entity.note = .string note)
    {block : NoteBlock} : block ∈ entity.noteBlocks ↔
      block.entity = entity ∧ (block.body, block.number) ∈ (Note.blocks note.toList).zipIdx 1 := by
  rw [noteBlocks, hnote, List.mem_map]
  constructor
  · rintro ⟨_, hmem, rfl⟩
    exact ⟨rfl, hmem⟩
  · rintro ⟨rfl, hmem⟩
    exact ⟨_, hmem, rfl⟩

theorem Entity.nodup_numbers (entity : Entity) : (entity.noteBlocks.map NoteBlock.number).Nodup := by
  unfold noteBlocks
  split
  · rename_i note _
    have hnumbers : ((Note.blocks note.toList).zipIdx 1).map Prod.snd = List.range' 1 _ := List.zipIdx_map_snd 1 _
    rw [List.map_map]
    exact hnumbers ▸ List.nodup_range'
  · exact List.nodup_nil

/-- Its entity and its number name a block. -/
theorem Registry.Sound.nodup_noteBlocks (h : registry.Sound) :
    (registry.noteBlocks.map fun block => (block.entity.ref, block.number)).Nodup := by
  rw [noteBlocks, ← craftable_eq, List.map_flatMap, List.nodup_flatMap]
  constructor
  · intro entity _
    refine List.Nodup.of_map Prod.snd ?_
    rw [List.map_map]
    exact entity.nodup_numbers
  · have hrefs : registry.craftable.Pairwise fun first second => first.ref ≠ second.ref :=
      List.pairwise_map.1 h.nodup_craftable
    refine hrefs.imp fun {first second} hne key hfirst hsecond => hne ?_
    obtain ⟨block, hblock, rfl⟩ := List.mem_map.1 hfirst
    obtain ⟨other, hother, hsame⟩ := List.mem_map.1 hsecond
    rw [← Entity.entity_of_mem_noteBlocks block hblock, ← Entity.entity_of_mem_noteBlocks other hother]
    exact (Prod.mk.inj hsame).1.symm

theorem Registry.not_costTooLong_of_mem_noteBlocks (h : ∀ entity ∈ registry.craftable, entity.HasPlainNote) :
    ∀ block ∈ registry.noteBlocks, ∀ digits, ¬Note.CostTooLong block.body digits := by
  rw [noteBlocks, ← craftable_eq]
  intro block hblock digits hcost
  obtain ⟨entity, hentity, hmem⟩ := List.mem_flatMap.1 hblock
  obtain ⟨note, hnote, hclear⟩ := h entity hentity
  have hbody := List.fst_mem_of_mem_zipIdx ((Entity.mem_noteBlocks_iff hnote).1 hmem).2
  exact hclear block.body hbody (.inl ⟨digits, hcost⟩)

end

/-! ## Who has to be named -/

section

variable {registry : Registry} (accepts : Recipe → Bool) {entity : Entity}

/-- The check of the notes names the entities that have a block to be reported. -/
theorem exists_noteProblems_iff_blocks (h : entity.HasPlainNote) :
    (∃ lines, Console.noteProblems entity = .ok lines) ↔
      ∀ block ∈ entity.noteBlocks, (∃ line, block.Meets registry accepts (.reported line)) → block.entity.Named := by
  obtain ⟨note, hnote, hclear⟩ := h
  rw [exists_noteProblems_iff hnote hclear.unsourced]
  constructor
  · rintro hnamed block hblock ⟨_, ⟨hfault⟩⟩
    obtain ⟨rfl, hmem⟩ := (Entity.mem_noteBlocks_iff hnote).1 hblock
    exact hnamed (List.ne_nil_of_mem (Note.mem_malformedIn_iff.2 ⟨block.body, hmem, hfault⟩))
  · intro hnamed hsome
    obtain ⟨⟨number, fault⟩, hfault⟩ := List.exists_mem_of_ne_nil _ hsome
    obtain ⟨body, hmem, hread⟩ := Note.mem_malformedIn_iff.1 hfault
    exact hnamed ⟨entity, number, body⟩ ((Entity.mem_noteBlocks_iff hnote).2 ⟨rfl, hmem⟩) ⟨_, .reported hread⟩

/-- The recipes declared in a note are those of its blocks. -/
theorem mem_declaredIn_iff_blocks {note : String} (hnote : entity.note = .string note) {recipe : Recipe} :
    recipe ∈ Note.declaredIn note (some entity.ref) ↔ ∃ block ∈ entity.noteBlocks, block.Declares recipe := by
  rw [Note.declaredIn, List.mem_filterMap]
  simp only [Note.toOption_readBlock_iff]
  constructor
  · rintro ⟨body, hbody, hdeclares⟩
    have hnumbered : body ∈ ((Note.blocks note.toList).zipIdx 1).map Prod.fst := by rwa [List.zipIdx_map_fst]
    obtain ⟨⟨_, number⟩, hnumber, rfl⟩ := List.mem_map.1 hnumbered
    exact ⟨⟨entity, number, _⟩, (Entity.mem_noteBlocks_iff hnote).2 ⟨rfl, hnumber⟩, hdeclares⟩
  · rintro ⟨block, hblock, hdeclares⟩
    obtain ⟨rfl, hbody⟩ := (Entity.mem_noteBlocks_iff hnote).1 hblock
    exact ⟨block.body, List.fst_mem_of_mem_zipIdx hbody, hdeclares⟩

/-- Building the catalog prints the entities that have a block to be dropped. -/
theorem reports_iff_blocks (h : entity.HasPlainNote) :
    Catalog.Reports registry entity (Catalog.declaredBy .every entity) ↔
      ∀ block ∈ entity.noteBlocks,
        (∃ warning, block.Meets registry accepts (.dropped warning)) → block.entity.Printable := by
  obtain ⟨note, hnote, hclear⟩ := h
  have hunknown : ∀ recipe, Catalog.unresolved registry recipe ≠ [] ↔
      ∃ ref ∈ recipe.entityRefs, registry.resolves ref = false := by
    intro recipe
    rw [ne_eq, Catalog.unresolved_eq_nil_iff]
    simp
  rw [Catalog.reports_declaredBy_iff, declaredBy_eq hnote hclear]
  simp only [mem_declaredIn_iff_blocks hnote, hunknown]
  constructor
  · rintro hprintable block hblock ⟨_, hdropped⟩
    cases hdropped with
    | dropped hdeclares hsome =>
        rw [Entity.entity_of_mem_noteBlocks block hblock]
        exact hprintable ⟨_, ⟨block, hblock, hdeclares⟩, hsome⟩
  · rintro hprintable ⟨recipe, ⟨block, hblock, hdeclares⟩, hsome⟩
    rw [← Entity.entity_of_mem_noteBlocks block hblock]
    exact hprintable block hblock ⟨_, .dropped hdeclares hsome⟩

end

/-- The answer to checking the notes, from its lines on blocks. -/
def Console.notesReport (lines : List String) : String :=
  "\n".intercalate ([FormatCode.paint .yellow "RECIPE NOTES"] ++ lines ++
    [if lines.isEmpty then FormatCode.paint .green "All recipe notes parse."
      else FormatCode.paint .red (toString lines.length ++ " problem(s) found.")])

theorem Console.checkNotes_run {σ ι ω : Type} (w : Workshop σ ι ω) :
    checkNotes w =
      ⟨(w.registry.craftable.mapM noteProblems).map fun problems => notesReport problems.flatten, w, []⟩ := by
  simp only [checkNotes, Act.run_bind, Act.run_get, Act.run_ofExcept]
  cases w.registry.craftable.mapM noteProblems <;> rfl

theorem Registry.forall_noteBlocks_iff {registry : Registry} {p : NoteBlock → Prop} :
    (∀ block ∈ registry.noteBlocks, p block) ↔ ∀ entity ∈ registry.craftable, ∀ block ∈ entity.noteBlocks, p block := by
  rw [noteBlocks, ← craftable_eq, List.forall_mem_flatMap]

namespace Sample

/-- An item with a block that is reported, one that is dropped and one that is hidden where nothing is owned. -/
def phial : Entity where
  ref := ⟨.item, 1, Nat.one_pos⟩
  name := .string "Phial"
  note := .string ("<recipe></recipe><recipe>\nResult: Item 7\nMaterial1: Item 1, 1\n</recipe>" ++
    "<recipe>\nResult: Item 1\nMaterial1: Item 1, 2\nRequirement: Item 1\n</recipe>")

/-- A weapon with a block that is listed. -/
def torch : Entity where
  ref := ⟨.weapon, 1, Nat.one_pos⟩
  name := .string "Torch"
  note := .string "<recipe>\nResult: Weapon 1\nMaterial1: Item 1, 3\n</recipe>"

def torchRecipe : Recipe where
  result := torch.ref
  materials := [⟨phial.ref, 3, Nat.succ_pos 2⟩]
  source := torch.ref

def almanac : Workshop (Faulty Party) Empty Unit where
  registry := (({} : Registry).register torch).register phial
  inventory := ⟨{ gold := 0 }, .clear⟩
  bus := { world := () }

end Sample

end Crafting
