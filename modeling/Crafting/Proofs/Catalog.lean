import Crafting.Catalog
import Crafting.Proofs.Inventory.Calls

/-!
# Building a catalog

Whether the note of an entity can be read lies with the entity alone. Where it only looks at what is owned, a catalog is
built if every note can be read and every dropped recipe reported, and otherwise nothing comes of it; and where the same
recipes are seen, it is the same catalog: what is shown of the recipes that mention registered entities only.
-/

namespace Crafting

variable {σ τ : Type}

theorem Visibility.sees_keeps [Inventory σ] {holds : σ → Prop} (h : Inventory.ReadsKeep holds)
    (visibility : Visibility) (recipe : Recipe) : Act.Keeps holds (visibility.sees recipe) := by
  cases visibility with
  | requirement =>
      simp only [sees]
      split
      · exact .pure _
      · exact h.has _
  | only accepts => exact .pure _

/-! ## Reading notes -/

namespace Note

variable {rel : σ → τ → Prop}

theorem keepRecipes_related (source : Option EntityRef) (readings : List (Nat × Except Refusal Recipe)) :
    Act.Related rel (keepRecipes source readings) (keepRecipes source readings) := by
  induction readings with
  | nil => exact .pure _
  | cons reading rest ih =>
      obtain ⟨number, result⟩ := reading
      cases result with
      | ok recipe => exact ih.bind fun _ => .pure _
      | error refusal =>
          cases refusal with
          | malformed fault => exact (Act.Related.report _ _).bind fun _ => ih
          | costTooLong digits => exact .fail _

theorem keepFirst_related (source : Option EntityRef) (readings : List (Nat × Except Refusal Recipe)) :
    Act.Related rel (keepFirst source readings) (keepFirst source readings) := by
  induction readings with
  | nil => exact .pure _
  | cons reading rest ih =>
      obtain ⟨number, result⟩ := reading
      cases result with
      | ok recipe => exact .pure _
      | error refusal =>
          cases refusal with
          | malformed fault => exact (Act.Related.report _ _).bind fun _ => ih
          | costTooLong digits => exact .fail _

theorem recipesIn_related (mode : Mode) (note : String) (source : Option EntityRef) :
    Act.Related rel (recipesIn mode note source) (recipesIn mode note source) := by
  cases mode with
  | every => exact keepRecipes_related source _
  | first => exact (keepFirst_related source _).bind fun _ => .pure _

end Note

/-! ## Naming entities -/

namespace Entity

/-- The number and the name of an entity can be written. -/
structure Named (entity : Entity) : Prop where
  ref : entity.ref.Writable
  name : ∃ words, entity.name.display = .ok words

/-- They can be printed, too. -/
structure Printable (entity : Entity) : Prop extends Named entity where
  whole : entity.name.isTorn = false

/-- The name of an entity whose name can be written. -/
def shownName (entity : Entity) : String :=
  entity.name.display.toOption.getD ""

theorem shownName_of_display {entity : Entity} {words : String} (h : entity.name.display = .ok words) :
    entity.shownName = words := by
  rw [shownName, h]
  rfl

end Entity

namespace Catalog

/-- That a recipe is dropped can be reported if the entity can be printed and the unknown references be written. -/
theorem droppedText_eq_ok_iff {entity : Entity} {unknown : List EntityRef} {words : String} :
    droppedText entity unknown = .ok words ↔ entity.Printable ∧ (∀ ref ∈ unknown, ref.Writable) ∧
      words = "Dropping recipe on " ++ entity.ref.plainText ++ " (" ++ entity.shownName ++ "): unknown " ++
        ", ".intercalate (unknown.map EntityRef.plainText) ++ "." := by
  have hrefs : ∀ refs, unknown.mapM EntityRef.text = .ok refs ↔
      (∀ ref ∈ unknown, ref.Writable) ∧ refs = unknown.map EntityRef.plainText := by
    intro refs
    constructor
    · intro h
      have hall : ∀ ref ∈ unknown, ref.Writable := fun ref hmem =>
        EntityRef.exists_text_iff.1 (Result.exists_mapM_iff.1 ⟨refs, h⟩ ref hmem)
      rw [Result.mapM_eq_ok fun ref hmem => (hall ref hmem).text_eq] at h
      exact ⟨hall, (Except.ok.inj h).symm⟩
    · rintro ⟨hall, rfl⟩
      exact Result.mapM_eq_ok fun ref hmem => (hall ref hmem).text_eq
  simp only [droppedText, Result.bind_eq_ok_iff, EntityRef.text_eq_ok_iff, hrefs]
  constructor
  · rintro ⟨_, ⟨href, rfl⟩, name, hname, _, ⟨hunknown, rfl⟩, hlast⟩
    rw [Entity.shownName_of_display hname]
    -- A torn name is written into the warning, and then stops it.
    cases htorn : entity.name.isTorn with
    | true =>
        rw [htorn] at hlast
        cases hlast
    | false =>
        rw [htorn] at hlast
        exact ⟨⟨⟨href, name, hname⟩, htorn⟩, hunknown, (Except.ok.inj hlast).symm⟩
  · rintro ⟨⟨⟨href, name, hname⟩, htorn⟩, hunknown, rfl⟩
    rw [Entity.shownName_of_display hname, htorn]
    exact ⟨_, ⟨href, rfl⟩, name, hname, _, ⟨hunknown, rfl⟩, rfl⟩

theorem declared_related {rel : σ → τ → Prop} (mode : Note.Mode) (entity : Entity) :
    Act.Related rel (declared mode entity) (declared mode entity) := by
  unfold declared
  refine .ite (.pure _) ?_
  split
  · exact Note.recipesIn_related mode _ _
  · exact .fail _

theorem run_declared (mode : Note.Mode) (entity : Entity) (s : σ) :
    (declared mode entity s).value = (declared mode entity ()).value ∧ (declared mode entity s).state = s := by
  -- Reading makes no use of the state, so it runs alike on a state that holds nothing.
  have hrelated : Act.Related (fun t (_ : Unit) => t = s) (declared mode entity) (declared mode entity) :=
    declared_related mode entity
  obtain ⟨hvalue, -, hstate⟩ := hrelated s () rfl
  exact ⟨hvalue, hstate⟩

/-- The note of an entity is void, or it is a text that has these recipes. -/
theorem declared_eq_ok_iff {mode : Note.Mode} {entity : Entity} {s : σ} {recipes : List Recipe} :
    (declared mode entity s).value = .ok recipes ↔
      entity.note.isTruthy = false ∧ recipes = [] ∨
        ∃ note, entity.note.text? = some note ∧ entity.note.isTruthy = true ∧
          (Note.recipesIn mode note (some entity.ref) s).value = .ok recipes := by
  unfold declared
  cases htruthy : entity.note.isTruthy with
  | false => simp [eq_comm]
  | true => cases htext : entity.note.text? <;> simp

/-- The recipes in an entity's note can be had. -/
def ReadableNote (mode : Note.Mode) (entity : Entity) : Prop :=
  ∃ recipes, (declared mode entity ()).value = .ok recipes

/-- The recipes in an entity's note, and none of a note that cannot be read. -/
def declaredBy (mode : Note.Mode) (entity : Entity) : List Recipe :=
  (declared mode entity ()).value.toOption.getD []

theorem declaredBy_of_ok {mode : Note.Mode} {entity : Entity} {recipes : List Recipe}
    (h : (declared mode entity ()).value = .ok recipes) : declaredBy mode entity = recipes := by
  rw [declaredBy, h]
  rfl

/-- Of an entity's recipes, each that is dropped can be reported. -/
def Reports (registry : Registry) (entity : Entity) (recipes : List Recipe) : Prop :=
  ∀ recipe ∈ recipes, unresolved registry recipe ≠ [] →
    ∃ words, droppedText entity (unresolved registry recipe) = .ok words

/-- Every note that may hold recipes can be read, and what is dropped of it can be reported. -/
def Readable (registry : Registry) (mode : Note.Mode) : Prop :=
  ∀ entity ∈ registry.craftable, ReadableNote mode entity ∧ Reports registry entity (declaredBy mode entity)

theorem declared_stops {mode : Note.Mode} {entity : Entity} (h : ¬ReadableNote mode entity) (s : σ) :
    Act.Stops s (declared mode entity) := by
  obtain ⟨hvalue, hstate⟩ := run_declared mode entity s
  refine ⟨?_, hstate⟩
  cases hresult : (declared mode entity ()).value with
  | ok recipes => exact absurd ⟨recipes, hresult⟩ h
  | error failure => exact ⟨failure, hvalue.trans hresult⟩

/-! ## Building -/

section Building

variable {s : σ} {sees : Recipe → Act σ Bool} (hsees : ∀ recipe, Act.Looks s (sees recipe)) {registry : Registry}
  {mode : Note.Mode}

include hsees

theorem listed_looks {entity : Entity} {recipes : List Recipe} (h : Reports registry entity recipes) :
    Act.Looks s (listed registry sees entity recipes) := by
  induction recipes with
  | nil => exact .pure _
  | cons recipe rest ih =>
      obtain ⟨hfirst, hrest⟩ := List.forall_mem_cons.1 h
      unfold listed
      split
      · exact (hsees recipe).bind fun _ => (ih hrest).bind fun _ => .pure _
      · rename_i hunknown
        exact (Act.Looks.report _ (hfirst hunknown)).bind fun _ => ih hrest

theorem listed_stops {entity : Entity} {recipes : List Recipe} (h : ¬Reports registry entity recipes) :
    Act.Stops s (listed registry sees entity recipes) := by
  induction recipes with
  | nil => exact absurd (fun _ hmem => nomatch hmem) h
  | cons recipe rest ih =>
      unfold listed
      split
      · rename_i hresolved
        -- What is resolved need not be reported, so that it is the rest that cannot.
        have hrest : ¬Reports registry entity rest := fun hrest =>
          h (List.forall_mem_cons.2 ⟨fun hunknown => absurd hresolved hunknown, hrest⟩)
        exact .after (hsees recipe) fun _ => (ih hrest).bind _
      · by_cases hfirst : ∃ words, droppedText entity (unresolved registry recipe) = .ok words
        · have hrest : ¬Reports registry entity rest := fun hrest =>
            h (List.forall_mem_cons.2 ⟨fun _ => hfirst, hrest⟩)
          exact .after (.report _ hfirst) fun _ => ih hrest
        · exact (Act.Stops.report _ hfirst).bind _

theorem scan_looks {entities : List Entity}
    (h : ∀ entity ∈ entities, ReadableNote mode entity ∧ Reports registry entity (declaredBy mode entity)) :
    Act.Looks s (scan registry sees mode entities) := by
  induction entities with
  | nil => exact .pure _
  | cons entity rest ih =>
      obtain ⟨⟨⟨recipes, hrecipes⟩, hreports⟩, hrest⟩ := List.forall_mem_cons.1 h
      obtain ⟨hvalue, hstate⟩ := run_declared mode entity s
      rw [declaredBy_of_ok hrecipes] at hreports
      refine .bind_of_ok (hvalue.trans hrecipes) hstate ((listed_looks hsees hreports).bind fun _ => ?_)
      exact (ih hrest).bind fun _ => .pure _

theorem scan_stops {entities : List Entity}
    (h : ¬∀ entity ∈ entities, ReadableNote mode entity ∧ Reports registry entity (declaredBy mode entity)) :
    Act.Stops s (scan registry sees mode entities) := by
  -- The scan gets as far as the first entity that it cannot read or report.
  induction entities with
  | nil => exact absurd (fun _ hmem => nomatch hmem) h
  | cons entity rest ih =>
      by_cases hfirst : ReadableNote mode entity
      · obtain ⟨recipes, hrecipes⟩ := hfirst
        obtain ⟨hvalue, hstate⟩ := run_declared mode entity s
        refine .after_ok (hvalue.trans hrecipes) hstate ?_
        by_cases hreports : Reports registry entity recipes
        · refine .after (listed_looks hsees hreports) fun _ => (ih fun hrest => h ?_).bind _
          exact List.forall_mem_cons.2 ⟨⟨⟨recipes, hrecipes⟩, (declaredBy_of_ok hrecipes).symm ▸ hreports⟩, hrest⟩
        · exact (listed_stops hsees hreports).bind _
      · exact (declared_stops hfirst s).bind _

/-- Whatever is listed was seen. -/
theorem seen_of_listed {entity : Entity} {recipes found : List Recipe}
    (h : (listed registry sees entity recipes s).value = .ok found) :
    ∀ recipe ∈ found, (sees recipe s).value = .ok true := by
  induction recipes generalizing found with
  | nil =>
      cases h
      exact List.forall_mem_nil _
  | cons recipe rest ih =>
      rw [listed] at h
      cases hunresolved : unresolved registry recipe with
      | nil =>
          obtain ⟨⟨seen, hseen⟩, hsame⟩ := hsees recipe
          simp only [hunresolved] at h
          rw [Act.run_bind_of_ok hseen, hsame] at h
          obtain ⟨others, hothers, hfound⟩ := Act.bind_eq_ok_iff.1 h
          cases hfound
          cases seen with
          | true => exact List.forall_mem_cons.2 ⟨hseen, ih hothers⟩
          | false => exact ih hothers
      | cons unknown others =>
          simp only [hunresolved] at h
          obtain ⟨_, -, hrest⟩ := Act.bind_eq_ok_iff.1 h
          rw [Act.report_state] at hrest
          exact ih hrest

theorem seen_of_scan {entities : List Entity} {found : List Recipe}
    (h : (scan registry sees mode entities s).value = .ok found) :
    ∀ recipe ∈ found, (sees recipe s).value = .ok true := by
  induction entities generalizing found with
  | nil =>
      cases h
      exact List.forall_mem_nil _
  | cons entity rest ih =>
      obtain ⟨hvalue, hstate⟩ := run_declared mode entity s
      unfold scan at h
      cases hdeclared : (declared mode entity s).value with
      | error failure =>
          rw [Act.run_bind_of_error hdeclared] at h
          cases h
      | ok recipes =>
          rw [Act.run_bind_of_ok hdeclared, hstate] at h
          -- A scan that ends well has reported all that it dropped.
          have hreports : Reports registry entity recipes := by
            refine Classical.byContradiction fun hnot => ?_
            exact (listed_stops hsees hnot).bind _ |>.not_ok ⟨found, h⟩
          obtain ⟨⟨first, hfirst⟩, hsame⟩ := listed_looks hsees hreports
          rw [Act.run_bind_of_ok hfirst, hsame] at h
          obtain ⟨others, hrest, hfound⟩ := Act.bind_eq_ok_iff.1 h
          cases hfound
          exact List.forall_mem_append.2 ⟨seen_of_listed hsees hfirst, ih hrest⟩

theorem readable_of_build {found : List Recipe} (h : (build registry sees mode s).value = .ok found) :
    Readable registry mode := by
  refine Classical.byContradiction fun hnot => ?_
  obtain ⟨⟨failure, hfailure⟩, -⟩ := scan_stops hsees hnot
  rw [build, hfailure] at h
  cases h

theorem rebuild_looks (h : Readable registry mode) : Act.Looks s (rebuild registry sees mode) :=
  (scan_looks hsees h).bind fun _ => (Act.Looks.log _).bind fun _ => .pure _

theorem rebuild_stops (h : ¬Readable registry mode) : Act.Stops s (rebuild registry sees mode) :=
  (scan_stops hsees h).bind _

end Building

section Related

variable {rel : σ → τ → Prop} {sees : Recipe → Act σ Bool} {sees' : Recipe → Act τ Bool}
  (hsees : ∀ recipe, Act.Related rel (sees recipe) (sees' recipe)) (registry : Registry)

include hsees

theorem listed_related (entity : Entity) (recipes : List Recipe) :
    Act.Related rel (listed registry sees entity recipes) (listed registry sees' entity recipes) := by
  induction recipes with
  | nil => exact .pure _
  | cons recipe rest ih =>
      unfold listed
      split
      · exact (hsees recipe).bind fun _ => ih.bind fun _ => .pure _
      · exact (Act.Related.report _ _).bind fun _ => ih

/-- Where recipes are seen alike, the same catalog is built. -/
theorem build_related (mode : Note.Mode) : Act.Related rel (build registry sees mode) (build registry sees' mode) := by
  unfold build
  induction registry.craftable with
  | nil => exact .pure _
  | cons entity rest ih =>
      refine (declared_related mode entity).bind fun recipes => ?_
      exact (listed_related hsees registry entity recipes).bind fun _ => ih.bind fun _ => .pure _

end Related

theorem rebuild_keeps {holds : σ → Prop} {sees : Recipe → Act σ Bool} (hsees : ∀ recipe, Act.Keeps holds (sees recipe))
    (registry : Registry) (mode : Note.Mode) : Act.Keeps holds (rebuild registry sees mode) := by
  have hbuild : Act.Keeps holds (build registry sees mode) :=
    Act.keeps_iff_related.2 (build_related (fun recipe => Act.keeps_iff_related.1 (hsees recipe)) registry mode)
  exact hbuild.bind fun _ => (Act.Keeps.log _).bind fun _ => .pure _

/-- Rebuilding reports the size of what was built, and answers that. -/
theorem rebuild_eq_ok_iff {registry : Registry} {sees : Recipe → Act σ Bool} {mode : Note.Mode} {s : σ}
    {recipes : List Recipe} :
    (rebuild registry sees mode s).value = .ok recipes ↔ (build registry sees mode s).value = .ok recipes := by
  cases hbuilt : (build registry sees mode s).value with
  | error failure => rw [rebuild, Act.run_bind_of_error hbuilt]
  | ok built =>
      rw [rebuild, Act.run_bind_of_ok hbuilt]
      exact Iff.rfl

/-! ## What is built -/

/-- The recipes of entities that mention registered entities only, visible or not. -/
def known (registry : Registry) (mode : Note.Mode) (entities : List Entity) : List Recipe :=
  (entities.flatMap (declaredBy mode)).filter fun recipe => (unresolved registry recipe).isEmpty

/-- What is shown of recipes where this is answered of each. No recipe may be left without an answer. -/
def Shows (answers : Recipe → Except Failure Bool) (recipes found : List Recipe) : Prop :=
  (∀ recipe ∈ recipes, ∃ seen, answers recipe = .ok seen) ∧
    found = recipes.filter fun recipe => (answers recipe).toOption.getD false

section Built

variable {answers : Recipe → Except Failure Bool}

theorem shows_cons {recipe : Recipe} {rest found : List Recipe} :
    Shows answers (recipe :: rest) found ↔ ∃ seen others, answers recipe = .ok seen ∧ Shows answers rest others ∧
      found = if seen then recipe :: others else others := by
  constructor
  · rintro ⟨hanswered, rfl⟩
    obtain ⟨⟨seen, hseen⟩, hrest⟩ := List.forall_mem_cons.1 hanswered
    refine ⟨seen, _, hseen, ⟨hrest, rfl⟩, ?_⟩
    rw [List.filter_cons, hseen]
    rfl
  · rintro ⟨seen, others, hseen, ⟨hrest, rfl⟩, rfl⟩
    refine ⟨List.forall_mem_cons.2 ⟨⟨seen, hseen⟩, hrest⟩, ?_⟩
    rw [List.filter_cons, hseen]
    rfl

theorem shows_append {recipes others found : List Recipe} :
    Shows answers (recipes ++ others) found ↔
      ∃ first second, Shows answers recipes first ∧ Shows answers others second ∧ found = first ++ second := by
  constructor
  · rintro ⟨hanswered, rfl⟩
    obtain ⟨hrecipes, hothers⟩ := List.forall_mem_append.1 hanswered
    exact ⟨_, _, ⟨hrecipes, rfl⟩, ⟨hothers, rfl⟩, List.filter_append _ _⟩
  · rintro ⟨first, second, ⟨hrecipes, rfl⟩, ⟨hothers, rfl⟩, rfl⟩
    exact ⟨List.forall_mem_append.2 ⟨hrecipes, hothers⟩, (List.filter_append _ _).symm⟩

variable {s : σ} {sees : Recipe → Act σ Bool} (hsees : ∀ recipe, sees recipe s = ⟨answers recipe, s, []⟩)
  {registry : Registry} {mode : Note.Mode}

include hsees

theorem listed_state (entity : Entity) (recipes : List Recipe) :
    (listed registry sees entity recipes s).state = s := by
  have hkeeps : ∀ recipe, Act.Keeps (· = s) (sees recipe) := by
    rintro recipe t rfl
    rw [hsees]
  exact Act.keeps_iff_related.2
    (listed_related (fun recipe => Act.keeps_iff_related.1 (hkeeps recipe)) registry entity recipes) s rfl

theorem listed_eq_ok_iff {entity : Entity} {recipes found : List Recipe} :
    (listed registry sees entity recipes s).value = .ok found ↔ Reports registry entity recipes ∧
      Shows answers (recipes.filter fun recipe => (unresolved registry recipe).isEmpty) found := by
  induction recipes generalizing found with
  | nil =>
      refine ⟨fun h => ⟨List.forall_mem_nil _, List.forall_mem_nil _, (Except.ok.inj h).symm⟩, fun h => ?_⟩
      exact congrArg Except.ok h.2.2.symm
  | cons recipe rest ih =>
      rw [listed, List.filter_cons, Reports, List.forall_mem_cons]
      cases unresolved registry recipe with
      | cons unknown others =>
          simp only [List.isEmpty_cons, Bool.false_eq_true, if_false, Act.bind_eq_ok_iff, Act.report_state, ih,
            Act.report_value, Result.map_eq_ok_iff, exists_and_right, ne_eq, reduceCtorEq, not_false_eq_true,
            forall_const, and_assoc, exists_const, and_true]
          rfl
      | nil =>
          simp only [List.isEmpty_nil, if_true, shows_cons, Act.bind_eq_ok_iff, hsees, Act.run_pure, Except.ok.injEq,
            ih, ne_eq, not_true_eq_false, false_implies, true_and]
          constructor
          · rintro ⟨seen, hseen, others, ⟨hreports, hothers⟩, rfl⟩
            exact ⟨hreports, seen, others, hseen, hothers, rfl⟩
          · rintro ⟨hreports, seen, others, hseen, hothers, rfl⟩
            exact ⟨seen, hseen, others, ⟨hreports, hothers⟩, rfl⟩

theorem scan_eq_ok_iff {entities : List Entity} {found : List Recipe} :
    (scan registry sees mode entities s).value = .ok found ↔
      (∀ entity ∈ entities, ReadableNote mode entity ∧ Reports registry entity (declaredBy mode entity)) ∧
        Shows answers (known registry mode entities) found := by
  induction entities generalizing found with
  | nil =>
      refine ⟨fun h => ⟨List.forall_mem_nil _, List.forall_mem_nil _, (Except.ok.inj h).symm⟩, fun h => ?_⟩
      exact congrArg Except.ok h.2.2.symm
  | cons entity rest ih =>
      obtain ⟨hvalue, hstate⟩ := run_declared mode entity s
      have hsame : ∀ recipes, (listed registry sees entity recipes s).state = s := listed_state hsees entity
      simp only [scan, known, List.flatMap_cons, List.filter_append, shows_append, Act.bind_eq_ok_iff, hvalue, hstate,
        hsame, Act.run_pure, Except.ok.injEq, listed_eq_ok_iff hsees, ih, List.forall_mem_cons]
      constructor
      · rintro ⟨recipes, hrecipes, first, ⟨hreports, hfirst⟩, second, ⟨hrest, hsecond⟩, rfl⟩
        rw [declaredBy_of_ok hrecipes]
        exact ⟨⟨⟨⟨recipes, hrecipes⟩, hreports⟩, hrest⟩, first, second, hfirst, hsecond, rfl⟩
      · rintro ⟨⟨⟨⟨recipes, hrecipes⟩, hreports⟩, hrest⟩, first, second, hfirst, hsecond, rfl⟩
        rw [declaredBy_of_ok hrecipes] at hreports hfirst
        exact ⟨recipes, hrecipes, first, ⟨hreports, hfirst⟩, second, ⟨hrest, hsecond⟩, rfl⟩

/-- The catalog is what is shown of the known recipes, if every note can be read and every dropped recipe reported. -/
theorem build_eq_ok_iff {found : List Recipe} :
    (build registry sees mode s).value = .ok found ↔
      Readable registry mode ∧ Shows answers (known registry mode registry.craftable) found :=
  scan_eq_ok_iff hsees

end Built

/-! ## Looking up -/

theorem exists_get? {recipes : List Recipe} {index : Int} (hnonneg : 0 ≤ index) (hlt : index < recipes.length) :
    ∃ recipe, get? recipes (some index) = some recipe := by
  have hplace : index.toNat < recipes.length := by omega
  exact ⟨recipes[index.toNat], by rw [get?, if_pos hnonneg, List.getElem?_eq_getElem hplace]⟩

end Catalog

end Crafting
