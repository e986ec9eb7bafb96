import Crafting.Proofs.Dispatch
import Crafting.Proofs.Fate
import Crafting.Proofs.PartyCraft
import Crafting.Proofs.Text.Digits

/-!
# Lines that are answered

The first word of a line alone says which command it calls. Where no call of the inventory fails, names are texts and
notes can be read, a line goes unanswered for one of two reasons: the number that is to name a recipe cannot be read, or
the amount in the purse that is to be listed cannot be written.
-/

namespace Crafting

namespace Console

/-! ## Calling a command -/

/-- The names and aliases of the commands that every workshop has, with what they call. -/
def verbs {α : Type} : List (String × Deed α) := [
  ("recipes", .recipes), ("craftlist", .recipes),
  ("recipe", .recipe), ("inspect", .recipe),
  ("craft", .craft), ("make", .craft),
  ("checknotes", .checkNotes), ("lint", .checkNotes),
  ("help", .help), ("?", .help)]

theorem builtIn_verbs {α : Type} :
    (builtIn : Table (Deed α)).entries.map (fun entry => (entry.1, entry.2.deed)) = verbs :=
  rfl

theorem builtIn_names {α : Type} : ∀ entry ∈ (builtIn : Table (Deed α)).entries, ' ' ∉ entry.1.toList := by
  have hnames : ∀ name ∈ (builtIn : Table (Deed α)).entries.map Prod.fst, ' ' ∉ name.toList := by
    -- A closed list, whatever the deeds of others are.
    show ∀ name ∈ ["recipes", "craftlist", "recipe", "inspect", "craft", "make", "checknotes", "lint", "help", "?"],
      ' ' ∉ name.toList
    decide
  exact fun entry hentry => hnames entry.1 (List.mem_map_of_mem hentry)

theorem find?_builtIn {α : Type} (key : String) :
    ((builtIn : Table (Deed α)).find? key).map Command.deed = Assoc.get? key verbs := by
  rw [← builtIn_verbs, Assoc.get?_map]
  rfl

section

variable {σ ι ω α : Type} [Inventory σ] [DecidableEq ι] [Audience ι Notice ω]

/-- A line comes to what its first word calls, done with the other words. -/
theorem answer_run (extra : α → List String → Act (Workshop σ ι ω) String) {line verb : String} {args : List String}
    {deed : Deed α} (hwords : line.blankWords = verb :: args) (hverb : Assoc.get? verb.lowered verbs = some deed)
    (w : Workshop σ ι ω) :
    (∃ command, (answer builtIn extra line w).value =
      (perform builtIn extra args deed w).value.map fun text => ⟨text, some command⟩) ∧
    (answer builtIn extra line w).state = (perform builtIn extra args deed w).state := by
  rw [← find?_builtIn] at hverb
  obtain ⟨command, hfound, rfl⟩ := Option.map_eq_some_iff.1 hverb
  have hdispatch : (builtIn : Table (Deed α)).dispatch (verb :: args) = some (command, args) := by
    rw [Table.dispatch_cons builtIn_names, hfound]
    rfl
  simp only [answer, answerWords, hwords, hdispatch, Act.run_bind]
  cases (perform builtIn extra args command.deed w).value with
  | ok text => exact ⟨⟨command.name, rfl⟩, rfl⟩
  | error failure => exact ⟨⟨command.name, rfl⟩, rfl⟩

/-- A line whose first word calls nothing is answered at once. -/
theorem answer_of_unknown (extra : α → List String → Act (Workshop σ ι ω) String) {line : String}
    (h : ∀ verb args, line.blankWords = verb :: args → Assoc.get? verb.lowered (verbs : List (String × Deed α)) = none)
    (w : Workshop σ ι ω) : Act.Looks w (answer builtIn extra line) := by
  unfold answer answerWords
  cases hwords : line.blankWords with
  | nil => exact .pure _
  | cons verb args =>
      have hnone := h verb args hwords
      rw [← find?_builtIn, Option.map_eq_none_iff] at hnone
      simp only [Table.dispatch_cons builtIn_names, hnone, Option.map_none]
      exact .pure _

end

/-! ## Naming a recipe -/

/-- The text is to be a number, but a digit in it is not decimal or there are too many of them. -/
def Misnumbered (text : String) : Prop :=
  isNumber text = true ∧
    ¬((∀ c ∈ text.toList, Text.isDecimal c = true) ∧ text.toList.length ≤ Text.Numeral.maxDigits)

theorem isNumber_iff {text : String} :
    isNumber text = true ↔ text.toList ≠ [] ∧ ∀ c ∈ text.toList, Text.isDigit c = true := by
  simp [isNumber]

theorem exists_read_iff_of_isNumber {text : String} (h : isNumber text = true) :
    (∃ n, Text.Numeral.read text.toList = .ok n) ↔ ¬Misnumbered text := by
  obtain ⟨hsome, hdigits⟩ := isNumber_iff.1 h
  rw [Text.Numeral.exists_read_iff hsome hdigits, Misnumbered, and_iff_right h, not_not]

/-- Only a single word is a number. -/
theorem misnumbered_intercalate {args : List String} :
    Misnumbered (" ".intercalate args) ↔ ∃ number, args = [number] ∧ Misnumbered number := by
  match args with
  | [] => exact iff_of_false (fun h => nomatch h.1) fun ⟨_, h, _⟩ => nomatch h
  | [number] => exact ⟨fun h => ⟨number, rfl, h⟩, fun ⟨_, hargs, h⟩ => (List.singleton_inj.1 hargs) ▸ h⟩
  | first :: second :: rest =>
      refine iff_of_false (fun h => ?_) fun ⟨_, hargs, _⟩ => nomatch hargs
      have hspace := (isNumber_iff.1 h.1).2 ' ' (space_mem_intercalate first second rest)
      exact absurd hspace (by decide)

end Console

/-- Where names are texts, so is the name that is shown for an entity. -/
theorem Registry.exists_nameOf {registry : Registry}
    (hnames : ∀ kind, ∀ entity ∈ registry.table kind, ∃ name, entity.name = .string name) (ref : EntityRef) :
    ∃ name, registry.nameOf ref = .string name := by
  unfold nameOf
  cases hfound : registry.get? ref with
  | none => exact ⟨unknownName, rfl⟩
  | some entity => exact hnames ref.kind entity (List.mem_of_find?_eq_some hfound)

namespace Catalog

variable {registry : Registry} (hnames : ∀ ref, ∃ name, registry.nameOf ref = .string name)

include hnames

theorem exists_findFrom (needle : List Char) (index : Nat) (recipes : List Recipe) :
    ∃ found, findFrom registry needle index recipes = .ok found := by
  induction recipes generalizing index with
  | nil => exact ⟨none, rfl⟩
  | cons recipe rest ih =>
      obtain ⟨name, hname⟩ := hnames recipe.result
      simp only [findFrom, hname, Json.parts?]
      split
      · exact ⟨_, rfl⟩
      · exact ih (index + 1)

theorem exists_find? (recipes : List Recipe) (text : String) : ∃ found, find? registry recipes text = .ok found := by
  simp only [find?]
  split
  · exact ⟨none, rfl⟩
  · exact exists_findFrom hnames _ 0 recipes

end Catalog

/-- A note can be read in that mode: it is void, or a text at none of whose blocks reading stops. -/
def Note.Legible (mode : Note.Mode) (note : Json) : Prop :=
  note.isTruthy = true → ∃ text, note.text? = some text ∧ Note.Unblocked none text mode

theorem Note.unblocked_iff {mode : Note.Mode} {source : Option EntityRef} (h : Note.Named source) {note : String} :
    Note.Unblocked source note mode ↔ Note.Unblocked none note mode := by
  have hsame : Note.Blocks source = Note.Blocks none := by
    funext body
    rw [Note.Blocks.named h, Note.Blocks.named (by rintro _ ⟨⟩)]
  cases mode <;> simp only [Note.Unblocked, hsame]

namespace Catalog

theorem readableNote_iff {mode : Note.Mode} {entity : Entity} (h : entity.ref.Writable) :
    ReadableNote mode entity ↔ Note.Legible mode entity.note := by
  have hnamed : Note.Named (some entity.ref) := by
    rintro _ ⟨⟩
    exact h
  simp only [ReadableNote, declared_eq_ok_iff, Note.Legible, ← Note.unblocked_iff hnamed]
  by_cases htruthy : entity.note.isTruthy = true
  · simp only [htruthy, Bool.true_eq_false, false_and, false_or, true_and, forall_const]
    constructor
    · rintro ⟨recipes, text, htext, hrecipes⟩
      exact ⟨text, htext, Note.exists_recipesIn_iff.1 ⟨recipes, hrecipes⟩⟩
    · rintro ⟨text, htext, hunblocked⟩
      obtain ⟨recipes, hrecipes⟩ := Note.exists_recipesIn_iff.2 hunblocked
      exact ⟨recipes, text, htext, hrecipes⟩
  · exact iff_of_true ⟨[], .inl ⟨Bool.eq_false_iff.2 htruthy, rfl⟩⟩ fun h => absurd h htruthy

end Catalog

namespace Console

section

variable {ι ω : Type} {w : Workshop (Faulty Party) ι ω}
  (hnames : ∀ ref, ∃ name, w.registry.nameOf ref = .string name)

theorem namedRecipe_run (args : List String) (w : Workshop (Faulty Party) ι ω) :
    namedRecipe args w = ⟨(resolve w (" ".intercalate args)).map (Catalog.get? w.recipes), w, []⟩ := by
  simp only [namedRecipe, Act.run_bind, Act.run_get, Act.run_ofExcept]
  cases resolve w (" ".intercalate args) <;> rfl

include hnames

theorem exists_resolve_iff {text : String} : (∃ place, resolve w text = .ok place) ↔ ¬Misnumbered text := by
  unfold resolve
  by_cases hnumber : isNumber text = true
  · rw [if_pos hnumber, ← exists_read_iff_of_isNumber hnumber]
    cases hread : Text.Numeral.read text.toList with
    | ok n => exact iff_of_true ⟨_, rfl⟩ ⟨n, rfl⟩
    | error fault => exact iff_of_false nofun nofun
  · -- Any other text is searched in names, and these are texts.
    rw [if_neg hnumber]
    obtain ⟨found, hfound⟩ := Catalog.exists_find? hnames w.recipes text
    rw [hfound]
    exact iff_of_true ⟨_, rfl⟩ fun h => hnumber h.1

variable {args : List String}

theorem exists_named_iff : (∃ named, (resolve w (" ".intercalate args)).map (Catalog.get? w.recipes) = .ok named) ↔
    ¬Misnumbered (" ".intercalate args) :=
  Result.exists_map_iff.trans (exists_resolve_iff hnames)

theorem namedRecipe_stops (h : Misnumbered (" ".intercalate args)) : Act.Stops w (namedRecipe args) :=
  .of_run (namedRecipe_run args w) fun hnamed => (exists_named_iff hnames).1 hnamed h

theorem showRecipe_stops (h : Misnumbered (" ".intercalate args)) : Act.Stops w (showRecipe args) := by
  obtain ⟨number, rfl, -⟩ := misnumbered_intercalate.1 h
  exact (namedRecipe_stops hnames h).bind _

theorem craftRecipe_stops [DecidableEq ι] [Audience ι Notice ω] (h : Misnumbered (" ".intercalate args)) :
    Act.Stops w (craftRecipe args) := by
  obtain ⟨number, rfl, -⟩ := misnumbered_intercalate.1 h
  exact (namedRecipe_stops hnames h).bind _

end

/-! ## Numbers that can be written -/

end Console

/-- Every number of a registry can be written, those among the parameters of its entities too. -/
structure Registry.Writable (registry : Registry) : Prop where
  ref : ∀ kind, ∀ entity ∈ registry.table kind, entity.ref.Writable
  params : ∀ kind, ∀ entity ∈ registry.table kind, ∀ param ∈ entity.params, param.Writable

theorem Entity.writable_stat {entity : Entity} (h : ∀ param ∈ entity.params, param.Writable) (stat : Stat) :
    (entity.stat stat).Writable := by
  have hzero : (Json.whole 0).Writable := Json.writable_whole_iff.2 Text.Numeral.writable_zero
  unfold Entity.stat
  dsimp only
  split
  · rw [List.getD_eq_getElem?_getD]
    cases hparam : entity.params[stat.slot]? with
    | none => exact hzero
    | some param => exact h param (List.mem_of_getElem? hparam)
  · exact hzero

namespace Details

variable {registry : Registry}

theorem exists_statLines {ref : EntityRef}
    (h : ∀ entity, registry.get? ref = some entity → ∀ param ∈ entity.params, param.Writable) :
    ∃ lines, ((registry.get? ref).map statLines).getD (.ok []) = .ok lines := by
  cases hfound : registry.get? ref with
  | none => exact ⟨[], rfl⟩
  | some entity =>
      have hparams := h entity hfound
      show ∃ lines, statLines entity = .ok lines
      unfold statLines
      split
      · refine Result.exists_mapM_iff.2 fun row _ => ?_
        have hrow : ∃ texts, row.mapM (statText entity) = .ok texts := by
          refine Result.exists_mapM_iff.2 fun stat _ => ?_
          obtain ⟨shown, hshown⟩ := (Entity.writable_stat hparams stat).display
          exact ⟨_, by rw [statText, hshown]; rfl⟩
        obtain ⟨texts, htexts⟩ := hrow
        exact ⟨_, by rw [htexts]; rfl⟩
      · exact ⟨[], rfl⟩

variable (hnames : ∀ ref, ∃ name, (registry.nameOf ref).display = .ok name)

include hnames

theorem exists_materialLines {materials : List Material}
    (h : ∀ material ∈ materials, Text.Numeral.Writable material.quantity) (number : Nat) :
    ∃ lines, materialLines registry number materials = .ok lines := by
  induction materials generalizing number with
  | nil => exact ⟨[], rfl⟩
  | cons material rest ih =>
      obtain ⟨hfirst, hrest⟩ := List.forall_mem_cons.1 h
      obtain ⟨name, hname⟩ := hnames material.ref
      obtain ⟨others, hothers⟩ := ih hrest (number + 1)
      obtain ⟨quantity, hquantity⟩ := exists_writeNumber_iff.2 hfirst
      exact ⟨_, by rw [materialLines, hname, hquantity, hothers]; rfl⟩

/-- A recipe is described where its numbers and those of its result can be written. -/
theorem exists_lines (currencyName : String) {recipe : Recipe} (h : ∀ n ∈ recipe.numbers, Text.Numeral.Writable n)
    (hparams : ∀ entity, registry.get? recipe.result = some entity → ∀ param ∈ entity.params, param.Writable) :
    ∃ details, lines registry currencyName (some recipe) = .ok details := by
  obtain ⟨-, hmaterials, -, hcost⟩ := Recipe.forall_mem_numbers_iff.1 h
  have hcostLines : ∃ lines, costLines currencyName recipe.cost = .ok lines := by
    unfold costLines
    split
    · exact ⟨[], rfl⟩
    · obtain ⟨cost, hwritten⟩ := exists_writeNumber_iff.2 hcost
      exact ⟨_, by rw [hwritten]; rfl⟩
  have hrequirementLines : ∃ lines, requirementLines registry recipe.requirement = .ok lines := by
    cases recipe.requirement with
    | none => exact ⟨[], rfl⟩
    | some ref =>
        obtain ⟨name, hname⟩ := hnames ref
        exact ⟨_, by rw [requirementLines, hname]; rfl⟩
  obtain ⟨stats, hstats⟩ := exists_statLines hparams
  obtain ⟨cost, hcost⟩ := hcostLines
  obtain ⟨materials, hmaterials⟩ := exists_materialLines hnames (fun material hmem => (hmaterials material hmem).2) 1
  obtain ⟨requirement, hrequirement⟩ := hrequirementLines
  exact ⟨_, by rw [lines, hstats, hcost, hmaterials, hrequirement]; rfl⟩

end Details

theorem Catalog.mem_of_get? {recipes : List Recipe} {index : Option Int} {recipe : Recipe}
    (h : get? recipes index = some recipe) : recipe ∈ recipes := by
  unfold get? at h
  split at h
  · split at h
    · exact List.mem_of_getElem? h
    · cases h
  · cases h

/-- Where entities have names that are texts and numbers that can be written, all notes can be read if those can that
are read to the end, and all that is dropped can be reported. -/
theorem Registry.Writable.readable {registry : Registry} (hwritable : registry.Writable)
    (hnames : ∀ kind, ∀ entity ∈ registry.table kind, ∃ name, entity.name = .string name)
    (hplain : ∀ entity ∈ registry.craftable, entity.HasPlainNote) (mode : Note.Mode) :
    Catalog.Readable registry mode := by
  intro entity hentity
  obtain ⟨kind, -, hmem⟩ := List.mem_flatMap.1 hentity
  obtain ⟨note, hnote, hclear⟩ := hplain entity hentity
  obtain ⟨name, hname⟩ := hnames kind entity hmem
  have href := hwritable.ref kind entity hmem
  refine ⟨(Catalog.readableNote_iff href).2 fun _ => ⟨note, by rw [hnote]; rfl, hclear.unsourced.of_every mode⟩, ?_⟩
  exact Catalog.reports_declaredBy_iff.2 fun _ => ⟨⟨href, by rw [hname]; exact ⟨name, rfl⟩⟩, by rw [hname]; rfl⟩

namespace Console

/-! ## What the commands answer -/

section

variable {ι ω : Type} {w : Workshop (Faulty Party) ι ω} {party : Party}

theorem checkNotes_looks (hplain : ∀ entity ∈ w.registry.craftable, entity.HasPlainNote)
    (hnamed : ∀ entity ∈ w.registry.craftable, entity.Named) : Act.Looks w checkNotes := by
  rw [Act.Looks, checkNotes_run, Result.exists_map_iff, Result.exists_mapM_iff]
  refine ⟨fun entity hentity => ?_, rfl⟩
  obtain ⟨note, hnote, hclear⟩ := hplain entity hentity
  exact (exists_noteProblems_iff hnote hclear.unsourced).2 fun _ => hnamed entity hentity

variable (hinventory : w.inventory = ⟨party, .clear⟩)

include hinventory

theorem judge_state (recipe : Option Recipe) : (Workshop.judge recipe w).state = w := by
  show { w with inventory := w.judged recipe } = w
  rw [Workshop.judged_clear hinventory, ← hinventory]

theorem purseText_run : Workshop.purseText w =
    ⟨(writeInt party.gold).map (w.currencyName.titled ++ ": " ++ ·), w, []⟩ := by
  have hsame : { w with inventory := ⟨party, .clear⟩ } = w := by rw [← hinventory]
  simp only [Workshop.purseText, Workshop.onInventory, Act.run_bind, Act.run_get, Act.run_zoom, hinventory,
    Party.run_currency, Act.run_ofExcept, hsame]
  cases writeInt party.gold <;> rfl

theorem judge_value (hshown : ∀ ref, ∃ name, w.nameOf ref = .ok name) (recipe : Option Recipe) :
    (Workshop.judge recipe w).value = .ok (party.verdict (some w.registry) recipe) := by
  show (Verdict.judge (some w.registry) recipe w.inventory).value = _
  rw [hinventory]
  exact Verdict.judge_clear_of_named party (some w.registry) recipe hshown

section Named

variable (hnames : ∀ ref, ∃ name, w.registry.nameOf ref = .string name)

omit hinventory in
include hnames in
theorem exists_shownName (ref : EntityRef) : ∃ name, w.nameOf ref = .ok name := by
  obtain ⟨name, hname⟩ := hnames ref
  exact ⟨name, by rw [Workshop.nameOf, shownName, hname]; rfl⟩

include hnames

theorem judge_looks (recipe : Option Recipe) : Act.Looks w (Workshop.judge recipe) :=
  ⟨⟨_, judge_value hinventory (exists_shownName hnames) recipe⟩, judge_state hinventory recipe⟩

theorem showRecipe_looks (hdetails : ∀ recipe ∈ w.recipes, ∃ details,
      Details.lines w.registry w.currencyName (some recipe) = .ok details) {args : List String}
    (h : ¬Misnumbered (" ".intercalate args)) : Act.Looks w (showRecipe args) := by
  obtain ⟨named, hnamed⟩ := (exists_named_iff hnames).2 h
  have hrun := namedRecipe_run args w
  rw [hnamed] at hrun
  unfold showRecipe
  split
  · exact .pure _
  · refine .bind_of_ok (congrArg Run.value hrun) (congrArg Run.state hrun) ?_
    cases named with
    | none => exact .pure _
    | some recipe =>
        obtain ⟨place, -, hplace⟩ := Result.map_eq_ok_iff.1 hnamed
        refine .bind_of_ok rfl rfl ((Act.Looks.ofExcept (exists_shownName hnames _)).bind fun _ => ?_)
        refine (Act.Looks.ofExcept (hdetails recipe (Catalog.mem_of_get? hplace))).bind fun _ => ?_
        exact (judge_looks hinventory hnames (some recipe)).bind fun _ => .pure _

theorem recipeLines_looks (number : Nat) (recipes : List Recipe) : Act.Looks w (recipeLines number recipes) := by
  induction recipes generalizing number with
  | nil => exact .pure _
  | cons recipe rest ih =>
      refine (judge_looks hinventory hnames (some recipe)).bind fun _ => .bind_of_ok rfl rfl ?_
      refine (Act.Looks.ofExcept (exists_shownName hnames _)).bind fun _ => ?_
      exact (ih (number + 1)).bind fun _ => .pure _

end Named

variable [DecidableEq ι] [Audience ι Notice ω] [Audience.Candid ι Notice ω]
  (hreadable : Catalog.Readable w.registry w.mode)

include hreadable

theorem refresh_settles : ∃ recipes, (Workshop.refresh w).value = .ok recipes ∧
    (Workshop.refresh w).state.inventory = w.inventory ∧ (Workshop.refresh w).state.registry = w.registry := by
  have hsees := fun recipe => w.visibility.sees_looks party recipe
  rw [← hinventory] at hsees
  obtain ⟨⟨recipes, hrecipes⟩, hsame⟩ := Catalog.rebuild_looks hsees hreadable
  obtain ⟨hvalue, hstate⟩ := Workshop.refresh_of_ok hrecipes
  exact ⟨recipes, hvalue, by rw [hstate, hsame], by rw [hstate]⟩

/-- Once the catalog is refreshed, listing it changes nothing. The list is answered if the amount in the purse can be
written, and only then. -/
theorem listRecipes_settles (hnames : ∀ ref, ∃ name, w.registry.nameOf ref = .string name) :
    ((∃ text, (listRecipes w).value = .ok text) ↔ Text.Numeral.Writable party.gold.natAbs) ∧
      (listRecipes w).state = (Workshop.refresh w).state := by
  obtain ⟨recipes, hvalue, hinventory', hregistry⟩ := refresh_settles hinventory hreadable
  have hafter := hinventory'.trans hinventory
  have hpurse := purseText_run hafter
  have hwritten : (∃ text, (writeInt party.gold).map
      ((Workshop.refresh w).state.currencyName.titled ++ ": " ++ ·) = .ok text) ↔
        Text.Numeral.Writable party.gold.natAbs := by
    rw [Result.exists_map_iff, exists_writeInt_iff]
  rw [← hregistry] at hnames
  -- What follows the refreshing only looks, or it stops at the purse.
  unfold listRecipes
  rw [Act.run_bind_of_ok hvalue]
  by_cases hgold : Text.Numeral.Writable party.gold.natAbs
  · refine (fun hlooks : Act.Looks (Workshop.refresh w).state _ => ⟨iff_of_true hlooks.1 hgold, hlooks.2⟩) ?_
    refine (Act.Looks.of_run hpurse (hwritten.2 hgold)).bind fun purse => ?_
    split
    · exact .pure _
    · exact (recipeLines_looks hafter hnames 1 recipes).bind fun _ => .pure _
  · refine (fun hstops : Act.Stops (Workshop.refresh w).state _ => ⟨iff_of_false hstops.not_ok hgold, hstops.2⟩) ?_
    exact (Act.Stops.of_run hpurse (mt hwritten.1 hgold)).bind _

/-- A craft answers where all notes can be read and all is reported. -/
theorem craft_settles {recipe : Option Recipe} (hreports : w.Reports recipe) :
    (∃ outcome, (Workshop.craft recipe w).value = .ok outcome) ∧
      (Workshop.craft recipe w).state.registry = w.registry := by
  cases Workshop.craft_crafted hinventory recipe with
  | refused _ _ hvalue hstate => exact ⟨⟨_, hvalue⟩, by rw [hstate]⟩
  | listed _ _ _ _ _ _ _ _ hvalue hstate => exact ⟨⟨_, hvalue⟩, by rw [hstate]⟩
  | unlisted _ _ _ _ _ _ hunreadable => exact absurd hreadable hunreadable
  | untold _ hunreported => exact absurd hreports (hunreported ‹_›)
  | unreported _ _ _ hunreported => exact absurd hreports (hunreported ‹_›)

theorem craftRecipe_answers (hnames : ∀ ref, ∃ name, w.registry.nameOf ref = .string name)
    (hreports : ∀ recipe ∈ w.recipes, recipe.Reportable) {args : List String}
    (h : ¬Misnumbered (" ".intercalate args)) : ∃ text, (craftRecipe args w).value = .ok text := by
  obtain ⟨named, hnamed⟩ := (exists_named_iff hnames).2 h
  have hrun := namedRecipe_run args w
  rw [hnamed] at hrun
  unfold craftRecipe
  split
  · exact ⟨_, rfl⟩
  · -- Naming only looks, so the craft begins where the command began.
    rw [Act.run_bind_of_ok (congrArg Run.value hrun), hrun]
    cases named with
    | none => exact ⟨_, rfl⟩
    | some recipe =>
        obtain ⟨place, -, hplace⟩ := Result.map_eq_ok_iff.1 hnamed
        have hmade : w.Reports (some recipe) := by
          rintro _ ⟨⟩
          exact ⟨hreports recipe (Catalog.mem_of_get? hplace), exists_shownName hnames _⟩
        obtain ⟨⟨outcome, houtcome⟩, hregistry⟩ := craft_settles hinventory hreadable hmade
        dsimp only
        rw [Act.run_bind_of_ok houtcome]
        split
        · -- A craft keeps the registry, and so the name of what was made.
          rw [← hregistry] at hnames
          obtain ⟨name, hname⟩ := exists_shownName hnames recipe.result
          exact ⟨_, by rw [Act.run_bind_of_ok rfl, Act.run_bind, Act.run_ofExcept, hname]; rfl⟩
        · exact ⟨_, rfl⟩

end

/-! ## Lines -/

/-- The line is to name a recipe by a number that cannot be read. -/
def NamesMisnumbered (line : String) : Prop :=
  ∃ verb number, line.blankWords = [verb, number] ∧ verb.lowered ∈ ["recipe", "inspect", "craft", "make"] ∧
    Misnumbered number

/-- The line asks for the list of recipes. -/
def AsksForList (line : String) : Prop :=
  ∃ verb args, line.blankWords = verb :: args ∧ verb.lowered ∈ ["recipes", "craftlist"]

/-- What keeps a deed from being answered where no call fails and the notes can be read. -/
def Deed.Balks {α : Type} (party : Party) (args : List String) : Deed α → Prop
  | .recipes => ¬Text.Numeral.Writable party.gold.natAbs
  | .recipe | .craft => Misnumbered (" ".intercalate args)
  | .checkNotes | .help | .extra _ => False

theorem mem_verbs_iff {α : Type} {key : String} {deed : Deed α} :
    (key, deed) ∈ verbs ↔ Assoc.get? key verbs = some deed := by
  refine Assoc.mem_iff_get? ?_
  show ["recipes", "craftlist", "recipe", "inspect", "craft", "make", "checknotes", "lint", "help", "?"].Nodup
  decide

/-- The first word of a line that calls nothing is no name of a command. -/
theorem get?_of_not_calls {α : Type} {line : String}
    (h : ¬∃ verb args, ∃ deed : Deed α, line.blankWords = verb :: args ∧ (verb.lowered, deed) ∈ verbs) (verb : String)
    (args : List String) (hwords : line.blankWords = verb :: args) :
    Assoc.get? verb.lowered (verbs : List (String × Deed α)) = none := by
  refine Option.eq_none_iff_forall_ne_some.2 fun deed hdeed => ?_
  exact h ⟨verb, args, deed, hwords, mem_verbs_iff.2 hdeed⟩

theorem mem_verbs_list {α : Type} {key : String} :
    (key, Deed.recipes) ∈ (verbs : List (String × Deed α)) ↔ key ∈ ["recipes", "craftlist"] := by
  simp [verbs]

theorem mem_verbs_named {α : Type} {key : String} :
    (key, Deed.recipe) ∈ (verbs : List (String × Deed α)) ∨ (key, Deed.craft) ∈ (verbs : List (String × Deed α)) ↔
      key ∈ ["recipe", "inspect", "craft", "make"] := by
  simp [verbs, or_assoc]

/-- A line calls one deed, so it is that one that balks if any does. -/
theorem calls_balks_iff {α : Type} {party : Party} {line verb : String} {args : List String} {deed : Deed α}
    (hwords : line.blankWords = verb :: args) (hverb : (verb.lowered, deed) ∈ verbs) :
    (∃ verb args, ∃ deed : Deed α, line.blankWords = verb :: args ∧ (verb.lowered, deed) ∈ verbs ∧
      deed.Balks party args) ↔ deed.Balks party args := by
  refine ⟨?_, fun h => ⟨verb, args, deed, hwords, hverb, h⟩⟩
  rintro ⟨verb', args', deed', hwords', hverb', h⟩
  obtain ⟨rfl, rfl⟩ := List.cons.inj (hwords.symm.trans hwords')
  obtain rfl : deed = deed' := Option.some.inj ((mem_verbs_iff.1 hverb).symm.trans (mem_verbs_iff.1 hverb'))
  exact h

/-- A line calls a deed that balks just when it names a recipe by a number that cannot be read, or asks for a list that
cannot be written. -/
theorem balks_iff {α : Type} {party : Party} {line : String} :
    (∃ verb args, ∃ deed : Deed α, line.blankWords = verb :: args ∧ (verb.lowered, deed) ∈ verbs ∧
      deed.Balks party args) ↔
      NamesMisnumbered line ∨ AsksForList line ∧ ¬Text.Numeral.Writable party.gold.natAbs := by
  constructor
  · rintro ⟨verb, args, deed, hwords, hverb, hbalks⟩
    cases deed with
    | recipes => exact .inr ⟨⟨verb, args, hwords, mem_verbs_list.1 hverb⟩, hbalks⟩
    | recipe =>
        obtain ⟨number, rfl, hnumber⟩ := misnumbered_intercalate.1 hbalks
        exact .inl ⟨verb, number, hwords, mem_verbs_named.1 (.inl hverb), hnumber⟩
    | craft =>
        obtain ⟨number, rfl, hnumber⟩ := misnumbered_intercalate.1 hbalks
        exact .inl ⟨verb, number, hwords, mem_verbs_named.1 (.inr hverb), hnumber⟩
    | checkNotes => exact hbalks.elim
    | help => exact hbalks.elim
    | extra deed => exact hbalks.elim
  · rintro (⟨verb, number, hwords, hverb, hnumber⟩ | ⟨⟨verb, args, hwords, hverb⟩, hgold⟩)
    · have hmisnumbered := misnumbered_intercalate.2 ⟨number, rfl, hnumber⟩
      rcases (mem_verbs_named (α := α)).2 hverb with hrecipe | hcraft
      · exact ⟨verb, [number], .recipe, hwords, hrecipe, hmisnumbered⟩
      · exact ⟨verb, [number], .craft, hwords, hcraft, hmisnumbered⟩
    · exact ⟨verb, args, .recipes, hwords, mem_verbs_list.2 hverb, hgold⟩

section

variable {ι ω α : Type} [DecidableEq ι] [Audience ι Notice ω] [Audience.Candid ι Notice ω]
  {w : Workshop (Faulty Party) ι ω} {party : Party} (hinventory : w.inventory = ⟨party, .clear⟩)
  (hwritable : w.registry.Writable)
  (hnames : ∀ kind, ∀ entity ∈ w.registry.table kind, ∃ name, entity.name = .string name)
  (hplain : ∀ entity ∈ w.registry.craftable, entity.HasPlainNote)
  (hrecipes : ∀ recipe ∈ w.recipes, ∀ n ∈ recipe.numbers, Text.Numeral.Writable n)
  (extra : α → List String → Act (Workshop (Faulty Party) ι ω) String)

include hinventory hwritable hnames hplain hrecipes

/-- A deed is answered unless it balks, and one that is not leaves the inventory as it is. -/
theorem perform_settles {verb : String} {deed : Deed α} (hverb : (verb, deed) ∈ verbs) (args : List String) :
    ((∃ text, (perform builtIn extra args deed w).value = .ok text) ↔ ¬deed.Balks party args) ∧
      ∀ failure, (perform builtIn extra args deed w).value = .error failure →
        (perform builtIn extra args deed w).state.inventory = w.inventory := by
  have hreadable := hwritable.readable hnames hplain w.mode
  have hnamed := Registry.exists_nameOf hnames
  cases deed with
  | recipes =>
      obtain ⟨hanswers, hstate⟩ := listRecipes_settles hinventory hreadable hnamed
      obtain ⟨-, -, hsame, -⟩ := refresh_settles hinventory hreadable
      exact ⟨hanswers.trans not_not.symm, fun _ _ => (congrArg Workshop.inventory hstate).trans hsame⟩
  | recipe =>
      by_cases hmisnumbered : Misnumbered (" ".intercalate args)
      · have hstops : Act.Stops w (showRecipe args) := showRecipe_stops hnamed hmisnumbered
        exact ⟨iff_of_false hstops.not_ok (not_not_intro hmisnumbered), fun _ _ => congrArg Workshop.inventory hstops.2⟩
      · have hlooks : Act.Looks w (showRecipe args) := showRecipe_looks hinventory hnamed
          (fun recipe hmem => Details.exists_lines (exists_shownName hnamed) _ (hrecipes recipe hmem) fun _ hfound =>
            hwritable.params _ _ (List.mem_of_find?_eq_some hfound)) hmisnumbered
        exact ⟨iff_of_true hlooks.1 hmisnumbered, fun _ _ => congrArg Workshop.inventory hlooks.2⟩
  | craft =>
      by_cases hmisnumbered : Misnumbered (" ".intercalate args)
      · have hstops : Act.Stops w (craftRecipe args) := craftRecipe_stops hnamed hmisnumbered
        exact ⟨iff_of_false hstops.not_ok (not_not_intro hmisnumbered), fun _ _ => congrArg Workshop.inventory hstops.2⟩
      -- A craft is always answered here: what it reports can be written, and the catalog be rebuilt after it.
      · have hreports : ∀ recipe ∈ w.recipes, recipe.Reportable := by
          intro recipe hmem
          obtain ⟨hresult, -, -, hcost⟩ := Recipe.forall_mem_numbers_iff.1 (hrecipes recipe hmem)
          exact ⟨hresult, hcost⟩
        obtain ⟨text, htext⟩ := craftRecipe_answers hinventory hreadable hnamed hreports hmisnumbered
        exact ⟨iff_of_true ⟨text, htext⟩ hmisnumbered, fun failure hfailure => nomatch htext.symm.trans hfailure⟩
  | checkNotes =>
      have hlooks : Act.Looks w checkNotes := checkNotes_looks hplain fun entity hentity => by
        obtain ⟨kind, -, hmem⟩ := List.mem_flatMap.1 hentity
        obtain ⟨name, hname⟩ := hnames kind entity hmem
        exact ⟨hwritable.ref kind entity hmem, name, by rw [hname]; rfl⟩
      exact ⟨iff_of_true hlooks.1 not_false, fun _ _ => congrArg Workshop.inventory hlooks.2⟩
  | help => exact ⟨iff_of_true ⟨_, rfl⟩ not_false, fun _ _ => rfl⟩
  | extra deed =>
      simp [verbs] at hverb

end

/-- Where no call of the inventory fails, all names are texts, all notes can be read, all numbers can be written and no
subscriber leaves, a line is answered unless it names a recipe by a number that cannot be read, or asks for the list
while the amount in the purse cannot be written. A line that is not answered leaves the inventory as it is. -/
theorem answers_iff {ι ω α : Type} [DecidableEq ι] [Audience ι Notice ω] [Audience.Candid ι Notice ω]
    (w : Workshop (Faulty Party) ι ω) (extra : α → List String → Act (Workshop (Faulty Party) ι ω) String) (line : String)
    (hclear : w.inventory.faults = .clear)
    (hwritable : w.registry.Writable) (hrecipes : ∀ recipe ∈ w.recipes, ∀ n ∈ recipe.numbers, Text.Numeral.Writable n)
    (hnames : ∀ kind, ∀ entity ∈ w.registry.table kind, ∃ name, entity.name = .string name)
    (hnotes : ∀ entity ∈ w.registry.craftable, ∃ note found,
      entity.note = .string note ∧ (Note.recipes note (some entity.ref) ()).value = .ok found) :
    ((∃ reply, (answer builtIn extra line w).value = .ok reply) ↔
      ¬(NamesMisnumbered line ∨
        AsksForList line ∧ ¬Text.Numeral.Writable w.inventory.store.gold.natAbs)) ∧
    ∀ failure, (answer builtIn extra line w).value = .error failure →
      (answer builtIn extra line w).state.inventory = w.inventory := by
  have hinventory : w.inventory = ⟨w.inventory.store, .clear⟩ := Faulty.eq_of_clear hclear
  have hplain : ∀ entity ∈ w.registry.craftable, entity.HasPlainNote := by
    intro entity hentity
    obtain ⟨note, found, hnote, hfound⟩ := hnotes entity hentity
    exact ⟨note, hnote, Note.exists_recipes_iff.1 ⟨found, hfound⟩⟩
  rw [← balks_iff (α := α)]
  by_cases hcalls : ∃ verb args, ∃ deed : Deed α, line.blankWords = verb :: args ∧ (verb.lowered, deed) ∈ verbs
  · obtain ⟨verb, args, deed, hwords, hverb⟩ := hcalls
    obtain ⟨hanswers, hkept⟩ := perform_settles hinventory hwritable hnames hplain hrecipes extra hverb args
    obtain ⟨⟨command, hvalue⟩, hstate⟩ := answer_run extra hwords (mem_verbs_iff.1 hverb) w
    rw [calls_balks_iff hwords hverb, ← hanswers, hvalue, hstate]
    cases hdone : (perform builtIn extra args deed w).value with
    | ok text => exact ⟨iff_of_true ⟨_, rfl⟩ ⟨text, rfl⟩, nofun⟩
    | error failure => exact ⟨iff_of_false nofun nofun, fun _ _ => hkept failure hdone⟩
  · obtain ⟨hanswered, hsame⟩ := answer_of_unknown extra (get?_of_not_calls hcalls) w
    refine ⟨iff_of_true hanswered ?_, fun _ _ => congrArg Workshop.inventory hsame⟩
    rintro ⟨verb, args, deed, hwords, hverb, -⟩
    exact hcalls ⟨verb, args, deed, hwords, hverb⟩

end Console

namespace Sample

open Console

/-- A shop that offers the torch. -/
def torchStand : Workshop (Faulty Party) Empty Unit where
  registry := ({} : Registry).register torch
  inventory := ⟨{ gold := 0 }, .clear⟩
  bus := { world := () }
  recipes := [torchRecipe]

/-- The torch can be named by a digit, but by no superscript. -/
theorem superscript_unanswered :
    torchStand.inventory.faults = .clear ∧ torchStand.registry.Writable ∧
      (∀ recipe ∈ torchStand.recipes, ∀ n ∈ recipe.numbers, Text.Numeral.Writable n) ∧
      (∀ kind, ∀ entity ∈ torchStand.registry.table kind, ∃ name, entity.name = .string name) ∧
      (∀ entity ∈ torchStand.registry.craftable, ∃ note found,
        entity.note = .string note ∧ (Note.recipes note (some entity.ref) ()).value = .ok found) ∧
      (¬∃ reply, (answer builtIn (fun deed : Empty => nomatch deed) "craft ¹" torchStand).value = .ok reply) ∧
      ∃ reply, (answer builtIn (fun deed : Empty => nomatch deed) "craft 1" torchStand).value = .ok reply := by
  have hnames : ∀ kind, ∀ entity ∈ torchStand.registry.table kind, ∃ name, entity.name = .string name := by
    intro kind
    cases kind with
    | weapon => exact List.forall_mem_singleton.2 ⟨_, rfl⟩
    | item | armor | state => exact List.forall_mem_nil _
  have hwritable : torchStand.registry.Writable := by
    constructor <;> intro kind
    · cases kind with
      | weapon => exact List.forall_mem_singleton.2 (by decide)
      | item | armor | state => exact List.forall_mem_nil _
    · cases kind with
      | weapon => exact List.forall_mem_singleton.2 (List.forall_mem_nil _)
      | item | armor | state => exact List.forall_mem_nil _
  have hrecipes : ∀ recipe ∈ torchStand.recipes, ∀ n ∈ recipe.numbers, Text.Numeral.Writable n :=
    List.forall_mem_singleton.2 (by decide +kernel)
  have hread : (Note.recipes "<recipe>\nResult: Weapon 1\nMaterial1: Item 1, 3\n</recipe>" (some torch.ref) ()).value =
      .ok [torchRecipe] := by
    decide +kernel
  have hnotes : ∀ entity ∈ torchStand.registry.craftable, ∃ note found,
      entity.note = .string note ∧ (Note.recipes note (some entity.ref) ()).value = .ok found :=
    List.forall_mem_singleton.2 ⟨_, _, rfl, hread⟩
  have hsuperscript : "craft ¹".blankWords = ["craft", "¹"] := by decide +kernel
  have hdigit : "craft 1".blankWords = ["craft", "1"] := by decide +kernel
  refine ⟨rfl, hwritable, hrecipes, hnames, hnotes, ?_, ?_⟩
  · have hmisnumbered : Misnumbered "¹" := by
      refine ⟨by decide +kernel, fun h => ?_⟩
      exact absurd (h.1 '¹' (List.mem_singleton_self _)) (by decide +kernel)
    rw [(answers_iff torchStand _ "craft ¹" rfl hwritable hrecipes hnames hnotes).1]
    exact not_not_intro (.inl ⟨"craft", "¹", hsuperscript, by decide +kernel, hmisnumbered⟩)
  · have hnumbered : ¬Misnumbered "1" := by
      refine fun h => h.2 ⟨List.forall_mem_singleton.2 ?_, Nat.le_of_ble_eq_true rfl⟩
      decide +kernel
    rw [(answers_iff torchStand _ "craft 1" rfl hwritable hrecipes hnames hnotes).1]
    rintro (⟨verb, number, hwords, -, hnumber⟩ | ⟨⟨verb, args, hwords, hlist⟩, -⟩)
    · obtain ⟨rfl, rfl⟩ : "craft" = verb ∧ "1" = number := by simpa [hdigit] using hwords
      exact hnumbered hnumber
    · obtain ⟨rfl, -⟩ : "craft" = verb ∧ ["1"] = args := by simpa [hdigit] using hwords
      exact absurd hlist (by decide +kernel)

end Sample

end Crafting
