import Crafting.Proofs.Commands

/-!
# The list and its numbers

The list that is answered numbers the recipes on offer from one on. Until something changes, a number of the list names
the recipe behind it, in the digits of any script: to describe it says what its entry says, and to craft it crafts that
recipe. Any other number names none.
-/

namespace Crafting

/-! ## Numbers -/

theorem Text.Numeral.read_of_denotes {digits : List Char} {n : Nat} (h : Note.Denotes digits n) :
    read digits = .ok (n : Int) := by
  have hdigit : ∀ c ∈ digits, isDigit c = true := fun c hc => Bool.or_eq_true_iff.2 (.inl (h.isDecimal c hc))
  have hspan : digits.span (fun c => isDecimal c || c == '_') = (digits, []) := by
    have hall : ∀ c ∈ digits, (isDecimal c || c == '_') = true := fun c hc =>
      Bool.or_eq_true_iff.2 (.inl (h.isDecimal c hc))
    rw [List.span_eq_takeWhile_dropWhile, List.takeWhile_eq_self_iff.2 hall, List.dropWhile_eq_nil_iff.2 hall]
  have hunderscore : ∀ c ∈ digits, c ≠ '_' := fun c hc => (of_isDigit_margin (hdigit c hc)).2.2.2
  have hvalue : ofDigits digits = .ok n := ofDigits_eq_ok_iff.2 ⟨h.length_le, h.value_eq⟩
  rw [read, dropWhile_of_isDigit hdigit, takeSign_of_isDigit hdigit]
  simp only [hspan, joinGroups?_of_none hunderscore, if_neg h.ne_nil, hvalue, List.all_nil, if_true, one_mul]

/-! ## Names and catalogs -/

/-- A text can be shown, halves of characters or not. -/
theorem Json.display_of_text? {value : Json} {text : String} (h : value.text? = some text) :
    value.display = .ok text := by
  cases value with
  | string whole =>
      cases h
      rfl
  | torn points =>
      cases h
      rfl
  | null | bool _ | whole _ | float _ | array _ | object _ => cases h

/-- Where names are texts, the name of every entity can be shown. -/
theorem Registry.exists_shown {registry : Registry}
    (hnames : ∀ kind, ∀ entity ∈ registry.table kind, ∃ name, entity.name.text? = some name) (ref : EntityRef) :
    ∃ name, shownName (some registry) ref = .ok name := by
  show ∃ name, (registry.nameOf ref).display = .ok name
  unfold nameOf
  cases hfound : registry.get? ref with
  | none => exact ⟨unknownName, rfl⟩
  | some entity =>
      obtain ⟨name, hname⟩ := hnames ref.kind entity (List.mem_of_find?_eq_some hfound)
      exact ⟨name, Json.display_of_text? hname⟩

theorem Visibility.sees_run (visibility : Visibility) (party : Party) (recipe : Recipe) :
    visibility.sees recipe (⟨party, .clear⟩ : Faulty Party) =
      ⟨(visibility.sees recipe (⟨party, .clear⟩ : Faulty Party)).value, ⟨party, .clear⟩, []⟩ := by
  cases visibility with
  | requirement =>
      cases hrequirement : recipe.requirement with
      | none => simp only [sees, hrequirement, Act.run_pure]
      | some ref => simp only [sees, hrequirement, Party.run_has]
  | only accepts => rfl

/-- What a catalog offers was read from notes, so its numbers can be written. -/
theorem Catalog.writable_of_build {σ : Type} {registry : Registry} {sees : Recipe → Act σ Bool}
    {answers : Recipe → Except Failure Bool} {mode : Note.Mode} {s : σ} {found : List Recipe}
    (hsees : ∀ recipe, sees recipe s = ⟨answers recipe, s, []⟩)
    (h : (build registry sees mode s).value = .ok found) :
    ∀ recipe ∈ found, ∀ n ∈ recipe.numbers, Text.Numeral.Writable n := by
  obtain ⟨-, -, rfl⟩ := (build_eq_ok_iff hsees).1 h
  intro recipe hrecipe
  obtain ⟨entity, -, hdeclared⟩ := List.mem_flatMap.1 (List.mem_filter.1 (List.mem_filter.1 hrecipe).1).1
  exact writable_of_mem_declaredBy recipe hdeclared

namespace Console

open FormatCode

theorem isNumber_of_denotes {number : String} {n : Nat} (h : Note.Denotes number.toList n) : isNumber number = true :=
  isNumber_iff.2 ⟨h.ne_nil, fun c hc => Bool.or_eq_true_iff.2 (.inl (h.isDecimal c hc))⟩

section

variable {σ ι ω : Type} {number : String} {n : Nat}

/-- A number names the recipe that it counts to, from one on. -/
theorem map_get?_resolve (w : Workshop σ ι ω) (h : Note.Denotes number.toList n) :
    (resolve w number).map (Catalog.get? w.recipes) = .ok (if n = 0 then none else w.recipes[n - 1]?) := by
  have hread : (Text.Numeral.read number.toList).mapError Failure.ofNumeral = .ok (n : Int) := by
    rw [Text.Numeral.read_of_denotes h]
    rfl
  rw [resolve, if_pos (isNumber_of_denotes h), hread]
  refine congrArg Except.ok ?_
  show Catalog.get? w.recipes (if _ then _ else _) = _
  -- The place is one less than the number; a number outside of the list has none.
  by_cases hzero : n = 0
  · subst hzero
    rfl
  · by_cases hwithin : n - 1 < w.recipes.length
    · have hplace : ((n : Int) - 1).toNat = n - 1 := by omega
      rw [if_pos (by simp; omega), Catalog.get?, if_pos (by omega), hplace, if_neg hzero]
    · rw [if_neg (by simp; omega), if_neg hzero, List.getElem?_eq_none (by omega), Catalog.get?]

end

/-! ## The text of the list -/

/-- The line of a recipe that can be crafted. -/
def readyEntry (number : Nat) (name : String) : String :=
  padNumber number ++ ". " ++ paint .green "[Ready]" ++ " " ++ paint .green name

/-- The line of a recipe that cannot be crafted, with the reason behind it. -/
def lockedEntry (number : Nat) (name reason : String) : String :=
  padNumber number ++ ". " ++ paint .red "[Locked]" ++ " " ++ paint .green name ++ " (" ++ reason ++ ")"

/-- The list with those entries. -/
def listText (purse : String) (entries : List String) : String :=
  "\n".intercalate ([paint .yellow "CRAFTING", purse, String.ofList (List.replicate 20 '-')] ++
    if entries.isEmpty then ["No recipes available."]
    else entries ++ ["(Type 'recipe <number>' for details, 'craft <number>' to craft)"])

/-- The marks tell the two apart. -/
theorem lockedEntry_ne_readyEntry (number : Nat) (name other reason : String) :
    lockedEntry number name reason ≠ readyEntry number other := by
  intro h
  have hsame := congrArg String.toList h
  simp only [lockedEntry, readyEntry, paint, Code.text, Code.word, String.toList_append, List.append_assoc,
    List.append_cancel_left_eq] at hsame
  -- The third character behind the number is the first one of the colour's name.
  have hcolour := congrArg (fun chars : List Char => chars[2]?) hsame
  simp at hcolour

/-- Only what is ready is said to be. -/
theorem reason_eq_ready_iff {σ ι ω : Type} {w : Workshop σ ι ω} {verdict : Verdict} :
    w.reason verdict = "Ready to craft." ↔ verdict = .ready := by
  refine ⟨fun h => ?_, fun h => h ▸ rfl⟩
  -- The first three letters tell: no other reason begins like it.
  have hfirst := congrArg (fun text : String => text.toList.take 3) h
  cases verdict <;> simp [Workshop.reason, Verdict.reason, cannotCraft] at hfirst ⊢

/-- What is answered to a line that asks for a recipe's details. -/
def detailsText {σ ι ω : Type} (w : Workshop σ ι ω) (name : String) (verdict : Verdict) (details : List String) :
    String :=
  "\n".intercalate ([paint .yellow name] ++ details ++
    [paint (if verdict.isReady then .green else .red) (w.reason verdict)])

/-- What is answered to a craft of a recipe whose result has that name. -/
def outcomeText (name : String) (outcome : Outcome) : String :=
  if outcome.success then madeText name else paint .red outcome.message

/-! ## What is listed -/

section

variable {ι ω : Type} {w : Workshop (Faulty Party) ι ω} {party : Party}

/-- The line in the list of a recipe whose result has that name. -/
def entry (w : Workshop (Faulty Party) ι ω) (party : Party) (number : Nat) (recipe : Recipe) (name : String) : String :=
  let verdict := party.verdict (some w.registry) (some recipe)
  if verdict = .ready then readyEntry number name else lockedEntry number name (w.reason verdict)

/-- The lines of recipes in the list, numbered from `number` on. -/
def Lists (w : Workshop (Faulty Party) ι ω) (party : Party) (number : Nat) (recipes : List Recipe)
    (entries : List String) : Prop :=
  entries.length = recipes.length ∧ ∀ place recipe, recipes[place]? = some recipe → ∃ name,
    w.nameOf recipe.result = .ok name ∧ entries[place]? = some (entry w party (number + place) recipe name)

theorem Lists.nil (w : Workshop (Faulty Party) ι ω) (party : Party) (number : Nat) : Lists w party number [] [] :=
  ⟨rfl, fun _ _ h => nomatch h⟩

theorem Lists.cons {number : Nat} {recipe : Recipe} {name : String} {rest : List Recipe} {entries : List String}
    (hname : w.nameOf recipe.result = .ok name) (h : Lists w party (number + 1) rest entries) :
    Lists w party number (recipe :: rest) (entry w party number recipe name :: entries) := by
  refine ⟨congrArg (· + 1) h.1, fun place other hother => ?_⟩
  cases place with
  | zero =>
      cases hother
      exact ⟨name, hname, rfl⟩
  | succ place =>
      have hplace : number + (place + 1) = number + 1 + place := by omega
      rw [hplace]
      exact h.2 place other hother

variable (hinventory : w.inventory = ⟨party, .clear⟩) (hshown : ∀ ref, ∃ name, w.nameOf ref = .ok name)

include hinventory hshown

theorem recipeLines_lists {number : Nat} {recipes : List Recipe} {found : List String}
    (h : (recipeLines number recipes w).value = .ok found) : Lists w party number recipes found := by
  induction recipes generalizing number found with
  | nil =>
      cases h
      exact .nil w party number
  | cons recipe rest ih =>
      obtain ⟨verdict, hverdict, h⟩ := Act.bind_eq_ok_iff.1 h
      cases hverdict.symm.trans (judge_value hinventory hshown (some recipe))
      rw [judge_state hinventory, Act.run_bind_of_ok rfl] at h
      obtain ⟨name, hname, h⟩ := Act.bind_eq_ok_iff.1 h
      obtain ⟨others, hothers, hlines⟩ := Act.bind_eq_ok_iff.1 h
      -- The line as it is put together is the entry by its verdict.
      have hfound : found = entry w party number recipe name :: others := by
        refine (Except.ok.inj hlines).symm.trans ?_
        by_cases hready : party.verdict (some w.registry) (some recipe) = .ready
        · simp [entry, readyEntry, hready, Verdict.isReady]
        · simp [entry, lockedEntry, hready, Verdict.isReady]
      rw [hfound]
      exact .cons hname (ih hothers)

omit hshown

variable [DecidableEq ι] [Audience ι Notice ω]

include hshown in
/-- What is answered is the list of what is on offer from then on. -/
theorem listRecipes_lists {text : String} (h : (listRecipes w).value = .ok text) :
    ∃ purse entries, text = listText purse entries ∧
      Lists (listRecipes w).state party 1 (listRecipes w).state.recipes entries := by
  obtain ⟨recipes, -, hoffer, hkept, hafter⟩ := listRecipes_answered hinventory h
  have hlater : (listRecipes w).state.inventory = ⟨party, .clear⟩ := by rw [hafter, hinventory]
  have hregistry : (listRecipes w).state.registry = w.registry := by rw [hafter]
  have hnamed : ∀ ref, ∃ name, (listRecipes w).state.nameOf ref = .ok name := by
    intro ref
    rw [Workshop.nameOf, hregistry]
    exact hshown ref
  obtain rfl : (listRecipes w).state.recipes = recipes := by rw [hafter]
  rw [listRecipes, Act.run_bind_of_ok hoffer, ← hkept] at h
  -- The purse is only looked at; the lines are those of the shop that the refresh left.
  obtain ⟨purse, -, hlines⟩ := Act.bind_eq_ok_iff.1 h
  rw [purseText_run hlater] at hlines
  dsimp only at hlines
  split at hlines
  · rename_i hempty
    cases hlines
    rw [List.isEmpty_iff.1 hempty]
    exact ⟨purse, [], rfl, .nil _ party 1⟩
  · rename_i hsome
    obtain ⟨found, hfound, hjoined⟩ := Act.bind_eq_ok_iff.1 hlines
    cases hjoined
    have hlists := recipeLines_lists hlater hnamed hfound
    refine ⟨purse, found, ?_, hlists⟩
    have hentries : ¬found.isEmpty = true := by
      rw [List.isEmpty_iff_length_eq_zero, hlists.1, ← List.isEmpty_iff_length_eq_zero]
      exact hsome
    rw [listText, if_neg hentries, List.append_assoc]

/-! ## What a number comes to -/

variable {number : String}

omit hinventory in
/-- A number that names no recipe is called unknown, and nothing happens. -/
theorem unknown_of_none (hnone : (namedRecipe [number] w).value = .ok none) :
    ((showRecipe [number] w).value = .ok (unknownRecipe [number]) ∧ (showRecipe [number] w).state = w) ∧
      (craftRecipe [number] w).value = .ok (unknownRecipe [number]) ∧ (craftRecipe [number] w).state = w := by
  have hsame : (namedRecipe [number] w).state = w := by rw [namedRecipe_run]
  have hgiven : ¬[number].isEmpty = true := Bool.false_ne_true
  constructor
  · rw [showRecipe, if_neg hgiven, Act.run_bind_of_ok hnone, hsame]
    exact ⟨rfl, rfl⟩
  · rw [craftRecipe, if_neg hgiven, Act.run_bind_of_ok hnone, hsame]
    exact ⟨rfl, rfl⟩

section Named

variable {recipe : Recipe} {name : String} (hnamed : (namedRecipe [number] w).value = .ok (some recipe))
  (hname : w.nameOf recipe.result = .ok name)

include hnamed hname

omit [DecidableEq ι] [Audience ι Notice ω] in
include hshown in
theorem showRecipe_of_named :
    (showRecipe [number] w).value = (Details.lines w.registry w.currencyName (some recipe)).map
      (detailsText w name (party.verdict (some w.registry) (some recipe))) := by
  have hsame : (namedRecipe [number] w).state = w := by rw [namedRecipe_run]
  have hgiven : ¬[number].isEmpty = true := Bool.false_ne_true
  have hjudge := judge_value hinventory hshown (some recipe)
  rw [showRecipe, if_neg hgiven, Act.run_bind_of_ok hnamed, hsame]
  simp only [Act.run_bind, Act.run_get, Act.run_ofExcept, hname]
  cases Details.lines w.registry w.currencyName (some recipe) with
  | error failure => rfl
  | ok details =>
      simp only [hjudge]
      rfl

/-- To craft by a number is to craft, and to tell how that ended. -/
theorem craftRecipe_of_named :
    (craftRecipe [number] w).value = (Workshop.craft (some recipe) w).value.map (outcomeText name) ∧
      (craftRecipe [number] w).state = (Workshop.craft (some recipe) w).state := by
  have hsame : (namedRecipe [number] w).state = w := by rw [namedRecipe_run]
  have hgiven : ¬[number].isEmpty = true := Bool.false_ne_true
  rw [craftRecipe, if_neg hgiven, Act.run_bind_of_ok hnamed, hsame]
  dsimp only
  cases Workshop.craft_crafted hinventory (some recipe) with
  | refused _ _ hvalue _ =>
      rw [Act.run_bind_of_ok hvalue, hvalue]
      exact ⟨rfl, rfl⟩
  | listed _ _ _ _ _ _ _ _ hvalue hstate =>
      -- A craft keeps the registry, and so the name of what was made.
      have hkept : (Workshop.craft (some recipe) w).state.nameOf recipe.result = .ok name := by
        rw [hstate]
        exact hname
      simp only [Act.run_bind_of_ok hvalue, if_true, nameOf_said, hkept, hvalue]
      exact ⟨rfl, trivial⟩
  | unlisted _ _ _ _ _ _ _ hvalue _ | untold _ _ hvalue _ | unreported _ _ _ _ _ hvalue _ =>
      rw [Act.run_bind_of_error hvalue, hvalue]
      exact ⟨rfl, rfl⟩

end Named

/-- What a craft of a recipe does to a workshop, and what is answered to it. -/
structure CraftAnswered (w : Workshop (Faulty Party) ι ω) (recipe : Recipe) (name : String)
    (result : Except Failure String) (after : Workshop (Faulty Party) ι ω) : Prop where
  answered : result = (Workshop.craft (some recipe) w).value.map (outcomeText name)
  state_eq : after = (Workshop.craft (some recipe) w).state
  success_iff : ∀ outcome, (Workshop.craft (some recipe) w).value = .ok outcome →
    (outcome.success = true ↔ w.Applies (some recipe))
  /-- Only a subscriber who leaves can keep it from an answer. -/
  settles : Audience.Candid ι Notice ω → ∃ outcome, (Workshop.craft (some recipe) w).value = .ok outcome
  exchanged : w.Applies (some recipe) → w.inventory.store.Exchanged recipe after.inventory.store
  unchanged : ¬w.Applies (some recipe) → after.inventory = w.inventory

theorem craftAnswered_of_named (hreadable : Catalog.Readable w.registry w.mode) {recipe : Recipe} {name : String}
    (hreportable : recipe.Reportable) (hnamed : (namedRecipe [number] w).value = .ok (some recipe))
    (hname : w.nameOf recipe.result = .ok name) :
    CraftAnswered w recipe name (craftRecipe [number] w).value (craftRecipe [number] w).state := by
  have hreports : w.Reports (some recipe) := by
    rintro _ ⟨⟩
    exact ⟨hreportable, name, hname⟩
  obtain ⟨hanswer, hstate⟩ := craftRecipe_of_named hinventory hnamed hname
  obtain ⟨hexchanged, hunchanged⟩ := Workshop.craft_party (by rw [hinventory]) (some recipe)
  refine ⟨hanswer, hstate, fun outcome houtcome => ?_, fun hcandid => ?_, fun happlies => ?_, fun hnot => ?_⟩
  · cases Workshop.craft_crafted hinventory (some recipe) with
    | refused _ hnot hvalue _ =>
        cases houtcome.symm.trans hvalue
        exact iff_of_false Bool.false_ne_true hnot
    | listed _ _ _ happlies _ _ _ _ hvalue _ =>
        cases houtcome.symm.trans hvalue
        exact iff_of_true rfl happlies
    | unlisted _ _ _ _ _ _ _ hvalue _ | untold _ _ hvalue _ | unreported _ _ _ _ _ hvalue _ =>
        cases houtcome.symm.trans hvalue
  · exact (craft_settles hinventory hreadable hreports).1
  · obtain ⟨made, hmade, hdone⟩ := hexchanged happlies
    cases hmade
    rw [hstate]
    exact hdone
  · rw [hstate]
    exact hunchanged hreports hnot

end

/-! ## Lines that name by a number -/

/-- The line calls one of those commands with that word alone. -/
def Calls (names : List String) (word line : String) : Prop :=
  ∃ verb, line.blankWords = [verb, word] ∧ verb.lowered ∈ names

/-- A command's name and a number behind it, with a space between them. -/
theorem calls_space {names : List String} {name number : String} {n : Nat} (hname : name.toList ≠ [])
    (hword : name.toList.any Text.isBlank = false) (hmem : name.lowered ∈ names)
    (hnumber : Note.Denotes number.toList n) : Calls names number (name ++ " " ++ number) := by
  have hnamed : Text.IsWord name.toList := ⟨hname, by simpa using hword⟩
  have hnumbered : Text.IsWord number.toList :=
    ⟨hnumber.ne_nil, fun c hc => (Note.of_isDecimal_blank_letter (hnumber.isDecimal c hc)).1⟩
  have hwords : ∀ word ∈ [name, number], Text.IsWord word.toList :=
    List.forall_mem_cons.2 ⟨hnamed, List.forall_mem_singleton.2 hnumbered⟩
  have hline : " ".intercalate [name, number] = name ++ " " ++ number := rfl
  exact ⟨name, hline ▸ String.blankWords_intercalate hwords, hmem⟩

section

variable {ι ω α : Type} [DecidableEq ι] [Audience ι Notice ω]
  (extra : α → List String → Act (Workshop (Faulty Party) ι ω) String)

theorem answer_of_calls {names : List String} {word line : String} {deed : Deed α} (h : Calls names word line)
    (hnames : ∀ name ∈ names, (name, deed) ∈ (verbs : List (String × Deed α))) (w : Workshop (Faulty Party) ι ω) :
    (answer builtIn extra line w).value.map Reply.text = (perform builtIn extra [word] deed w).value ∧
      (answer builtIn extra line w).state = (perform builtIn extra [word] deed w).state := by
  obtain ⟨verb, hwords, hverb⟩ := h
  obtain ⟨⟨command, hvalue⟩, hstate⟩ := answer_run extra hwords (mem_verbs_iff.1 (hnames _ hverb)) w
  refine ⟨?_, hstate⟩
  rw [hvalue]
  cases (perform builtIn extra [word] deed w).value <;> rfl

theorem verbs_recipe : ∀ name ∈ ["recipe", "inspect"], (name, Deed.recipe) ∈ (verbs : List (String × Deed α)) := by
  simp [verbs]

theorem verbs_craft : ∀ name ∈ ["craft", "make"], (name, Deed.craft) ∈ (verbs : List (String × Deed α)) := by
  simp [verbs]

/-- The entry of a recipe in the list, its details and a craft by its number agree about it. -/
structure Agree (now : Workshop (Faulty Party) ι ω) (n : Nat) (recipe : Recipe) (entry name : String)
    (verdict : Verdict) : Prop where
  named : now.nameOf recipe.result = .ok name
  judged : (Workshop.judge (some recipe) now).value = .ok verdict
  ready_iff : now.reason verdict = "Ready to craft." ↔ entry = readyEntry n name
  locked : now.reason verdict ≠ "Ready to craft." → entry = lockedEntry n name (now.reason verdict)
  details : ∀ number line, Note.Denotes number.toList n → Calls ["recipe", "inspect"] number line →
    (answer builtIn extra line now).value.map Reply.text =
        (Details.lines now.registry now.currencyName (some recipe)).map (detailsText now name verdict) ∧
      (answer builtIn extra line now).state = now
  /-- Only a parameter of the result with too many digits can keep the details from an answer. -/
  described : (∀ entity, now.registry.get? recipe.result = some entity → ∀ param ∈ entity.params, param.Writable) →
    ∃ details, Details.lines now.registry now.currencyName (some recipe) = .ok details
  craft : ∀ number line, Note.Denotes number.toList n → Calls ["craft", "make"] number line →
    CraftAnswered now recipe name ((answer builtIn extra line now).value.map Reply.text)
      (answer builtIn extra line now).state

variable {w : Workshop (Faulty Party) ι ω} {party : Party} (hinventory : w.inventory = ⟨party, .clear⟩)

include hinventory

theorem agree_of_getElem? (hshown : ∀ ref, ∃ name, w.nameOf ref = .ok name)
    (hreadable : Catalog.Readable w.registry w.mode) {place : Nat} {recipe : Recipe} {name : String}
    (hwritable : ∀ n ∈ recipe.numbers, Text.Numeral.Writable n) (hname : w.nameOf recipe.result = .ok name)
    (hrecipe : w.recipes[place]? = some recipe) :
    Agree extra w (place + 1) recipe (entry w party (place + 1) recipe name) name
      (party.verdict (some w.registry) (some recipe)) := by
  have hnamed : ∀ number, Note.Denotes number.toList (place + 1) →
      (namedRecipe [number] w).value = .ok (some recipe) := by
    intro number hnumber
    rw [namedRecipe_run]
    exact (map_get?_resolve w hnumber).trans (congrArg Except.ok hrecipe)
  have hreportable : recipe.Reportable := by
    obtain ⟨hresult, -, -, hcost⟩ := Recipe.forall_mem_numbers_iff.1 hwritable
    exact ⟨hresult, hcost⟩
  refine ⟨hname, judge_value hinventory hshown (some recipe), ?_, fun hreason => ?_,
    fun number line hnumber hcalls => ?_, Details.exists_lines hshown _ hwritable,
    fun number line hnumber hcalls => ?_⟩
  · rw [reason_eq_ready_iff, entry]
    split
    · rename_i hready
      exact iff_of_true hready rfl
    · rename_i hlocked
      exact iff_of_false hlocked (lockedEntry_ne_readyEntry _ _ _ _)
  · rw [entry, if_neg (mt reason_eq_ready_iff.2 hreason)]
  · obtain ⟨hvalue, hstate⟩ := answer_of_calls extra hcalls verbs_recipe w
    rw [hvalue, hstate]
    exact ⟨showRecipe_of_named hinventory hshown (hnamed number hnumber) hname, showRecipe_keeps hinventory w rfl⟩
  · obtain ⟨hvalue, hstate⟩ := answer_of_calls extra hcalls verbs_craft w
    rw [hvalue, hstate]
    exact craftAnswered_of_named hinventory hreadable hreportable (hnamed number hnumber) hname

omit hinventory in
theorem unknown_of_outside {number : String} {n : Nat} (hnumber : Note.Denotes number.toList n)
    (houtside : n = 0 ∨ w.recipes.length < n) {line : String}
    (hcalls : Calls ["recipe", "inspect"] number line ∨ Calls ["craft", "make"] number line) :
    (answer builtIn extra line w).value.map Reply.text = .ok (unknownRecipe [number]) ∧
      (answer builtIn extra line w).state = w := by
  have hnone : (namedRecipe [number] w).value = .ok none := by
    rw [namedRecipe_run]
    refine (map_get?_resolve w hnumber).trans (congrArg Except.ok ?_)
    split
    · rfl
    · exact List.getElem?_eq_none (by omega)
  obtain ⟨hshown, hcrafted⟩ := unknown_of_none hnone
  rcases hcalls with hcalls | hcalls
  · obtain ⟨hvalue, hstate⟩ := answer_of_calls extra hcalls verbs_recipe w
    rw [hvalue, hstate]
    exact hshown
  · obtain ⟨hvalue, hstate⟩ := answer_of_calls extra hcalls verbs_craft w
    rw [hvalue, hstate]
    exact hcrafted

end

end Console

namespace Sample

open Console

end Sample

end Crafting
