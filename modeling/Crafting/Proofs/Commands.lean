import Crafting.Proofs.Console
import Crafting.Proofs.Offer

/-!
# What lines change

A line that is answered changes what the party has only if it calls for a craft and the answer says that the craft
succeeded, and then by that one exchange. The recipes on offer change with it, or when the line asks for the list; no
other command does more than look.
-/

namespace Crafting

/-- What exchanges in a row make of a party. -/
structure Party.ExchangedAll (made : List Recipe) (before after : Party) : Prop where
  held : ∀ ref, after.held.count ref = before.held.count ref + (made.map (·.yield ref)).sum
  gold : after.gold = before.gold - (made.map fun recipe => (recipe.cost : Int)).sum
  equipped : after.equipped = before.equipped
  maxGold : after.maxGold = before.maxGold

theorem Party.ExchangedAll.nil (party : Party) : party.ExchangedAll [] party where
  held _ := (Int.add_zero _).symm
  gold := (Int.sub_zero _).symm
  equipped := rfl
  maxGold := rfl

theorem Party.ExchangedAll.cons {recipe : Recipe} {rest : List Recipe} {before party after : Party}
    (h : before.Exchanged recipe party) (hrest : party.ExchangedAll rest after) :
    before.ExchangedAll (recipe :: rest) after where
  held ref := by
    have hfirst := h.held ref
    have hothers := hrest.held ref
    rw [List.map_cons, List.sum_cons, hothers, hfirst, Recipe.yield]
    omega
  gold := by
    rw [List.map_cons, List.sum_cons, hrest.gold, h.gold]
    omega
  equipped := hrest.equipped.trans h.equipped
  maxGold := hrest.maxGold.trans h.maxGold

namespace Console

open FormatCode

/-! ## Answers to a craft -/

/-- What is answered to a craft that succeeds. -/
def madeText (name : String) : String :=
  paint .green craftedMessage ++ " You made " ++ paint .green name ++ "."

/-- The colours tell a success from anything else that is answered to a craft. -/
theorem paint_red_ne_madeText (text name : String) : paint .red text ≠ madeText name := by
  intro h
  have hsame := congrArg String.toList h
  simp only [paint, madeText, Code.text, Code.word, String.toList_append] at hsame
  -- The third character is the first one of the colour's name.
  have hcolour := congrArg (fun chars : List Char => chars[2]?) hsame
  simp at hcolour

section

variable {σ ι ω : Type}

/-- The recipe that a line says it has made: the line calls for a craft of it, and the answer is that of a success. -/
def made? (line : String) (w : Workshop σ ι ω) (reply : Reply) : Option Recipe :=
  match line.blankWords with
  | [] => none
  | verb :: args =>
      if verb.lowered ∈ ["craft", "make"] then
        match (namedRecipe args w).value with
        | .ok (some made) => if (w.nameOf made.result).map madeText = .ok reply.text then some made else none
        | _ => none
      else none

variable {line verb : String} {args : List String} {w : Workshop σ ι ω} {reply : Reply}

theorem made?_of_craft {made : Recipe} (hwords : line.blankWords = verb :: args)
    (hverb : verb.lowered ∈ ["craft", "make"]) (hnamed : (namedRecipe args w).value = .ok (some made))
    (htext : (w.nameOf made.result).map madeText = .ok reply.text) : made? line w reply = some made := by
  simp only [made?, hwords, if_pos hverb, hnamed, if_pos htext]

theorem made?_eq_none_of_verb (hwords : line.blankWords = verb :: args) (hverb : verb.lowered ∉ ["craft", "make"]) :
    made? line w reply = none := by
  simp only [made?, hwords, if_neg hverb]

theorem made?_eq_none_of_red {text : String} (htext : reply.text = paint .red text) : made? line w reply = none := by
  have hother := fun name => paint_red_ne_madeText text name
  unfold made?
  split
  · rfl
  · split
    · split
      · -- A recipe was named, so the answer alone decides.
        refine if_neg fun hmade => ?_
        obtain ⟨name, -, hname⟩ := Result.map_eq_ok_iff.1 hmade
        exact hother name (htext.symm.trans hname.symm)
      · rfl
    · rfl

end

/-! ## What one line does -/

theorem checkNotes_keeps {σ ι ω : Type} (w : Workshop σ ι ω) : Act.Keeps (· = w) checkNotes := by
  rintro _ rfl
  rw [checkNotes_run]

section

variable {ι ω : Type} [DecidableEq ι] [Audience ι Notice ω] {w : Workshop (Faulty Party) ι ω} {party : Party}

/-- What a line that is answered does to a workshop. -/
inductive Effect (line : String) (w : Workshop (Faulty Party) ι ω) (reply : Reply)
    (after : Workshop (Faulty Party) ι ω) : Prop where
  /-- It makes a recipe and says so, and the catalog is rebuilt. -/
  | made {made : Recipe} (hmade : made? line w reply = some made)
      (hexchanged : w.inventory.store.Exchanged made after.inventory.store)
      (hbuilt : (Catalog.build w.registry w.visibility.sees w.mode after.inventory).value = .ok after.recipes)
  /-- It lists the recipes, for which the catalog is rebuilt. -/
  | listed (hnone : made? line w reply = none) (hlist : AsksForList line) (hinventory : after.inventory = w.inventory)
      (hbuilt : (Catalog.build w.registry w.visibility.sees w.mode after.inventory).value = .ok after.recipes)
  | looked (hnone : made? line w reply = none) (hinventory : after.inventory = w.inventory)
      (hrecipes : after.recipes = w.recipes)

variable (hinventory : w.inventory = ⟨party, .clear⟩) {args : List String} {text : String}

include hinventory

omit [DecidableEq ι] [Audience ι Notice ω] in
theorem judge_keeps (recipe : Option Recipe) : Act.Keeps (· = w) (Workshop.judge recipe) := by
  rintro _ rfl
  exact judge_state hinventory recipe

omit [DecidableEq ι] [Audience ι Notice ω] in
theorem purseText_keeps : Act.Keeps (· = w) Workshop.purseText := by
  rintro _ rfl
  rw [purseText_run hinventory]

omit [DecidableEq ι] [Audience ι Notice ω] in
theorem recipeLines_keeps (number : Nat) (recipes : List Recipe) : Act.Keeps (· = w) (recipeLines number recipes) := by
  induction recipes generalizing number with
  | nil => exact .pure _
  | cons recipe rest ih =>
      refine (judge_keeps hinventory (some recipe)).bind fun _ => .bind (fun _ h => h) fun _ => ?_
      exact (Act.Keeps.ofExcept _).bind fun _ => (ih (number + 1)).bind fun _ => .pure _

/-- A list that is answered was built, and all else is as it was, but for what was announced. -/
theorem listRecipes_answered (h : (listRecipes w).value = .ok text) :
    ∃ recipes, (Catalog.build w.registry w.visibility.sees w.mode w.inventory).value = .ok recipes ∧
      (Workshop.refresh w).value = .ok recipes ∧ (listRecipes w).state = (Workshop.refresh w).state ∧
      (listRecipes w).state =
        { w with recipes, bus := w.bus.told [(Topic.catalogRefreshed, .refreshed recipes)] } := by
  have hsees := fun recipe => w.visibility.sees_looks party recipe
  rw [← hinventory] at hsees
  obtain ⟨listed, hlisted, -⟩ := Act.bind_eq_ok_iff.1 h
  by_cases hreadable : Catalog.Readable w.registry w.mode
  · obtain ⟨⟨recipes, hrecipes⟩, hsame⟩ := Catalog.rebuild_looks hsees hreadable
    obtain ⟨hanswers, hrefreshed⟩ := Workshop.refresh_of_rebuilt hrecipes
    obtain hanswer | ⟨failure, hfailure⟩ := hanswers
    · have hafter : (Workshop.refresh w).state.inventory = ⟨party, .clear⟩ := by
        rw [hrefreshed, hsame, hinventory]
      have hkept : (listRecipes w).state = (Workshop.refresh w).state := by
        rw [listRecipes, Act.run_bind_of_ok hanswer]
        -- Behind the refreshing there is nothing but looking.
        refine (purseText_keeps hafter).bind (fun purse => ?_) _ rfl
        exact .ite (.pure _) ((recipeLines_keeps hafter 1 recipes).bind fun _ => .pure _)
      exact ⟨recipes, Catalog.rebuild_eq_ok_iff.1 hrecipes, hanswer, hkept, by rw [hkept, hrefreshed, hsame]⟩
    · cases hlisted.symm.trans hfailure
  · obtain ⟨⟨failure, hfailure⟩, -⟩ := Catalog.rebuild_stops hsees hreadable
    cases hlisted.symm.trans (Workshop.refresh_of_error hfailure).1

omit [DecidableEq ι] [Audience ι Notice ω] in
theorem showRecipe_keeps : Act.Keeps (· = w) (showRecipe args) := by
  unfold showRecipe
  refine .ite (.pure _) (.bind ?_ fun named => ?_)
  · rintro _ rfl
    rw [namedRecipe_run]
  · cases named with
    | none => exact .pure _
    | some recipe =>
        refine .bind (fun _ h => h) fun _ => (Act.Keeps.ofExcept _).bind fun _ => (Act.Keeps.ofExcept _).bind fun _ => ?_
        exact (judge_keeps hinventory (some recipe)).bind fun _ => .pure _

omit hinventory [DecidableEq ι] [Audience ι Notice ω] in
/-- A success is told with the name of what was made, if that can be shown. -/
theorem nameOf_said (ref : EntityRef) :
    (Act.get >>= fun w : Workshop (Faulty Party) ι ω => do
      return paint .green craftedMessage ++ " You made " ++ paint .green (← Act.ofExcept (w.nameOf ref)) ++ ".") w =
      ⟨(w.nameOf ref).map madeText, w, []⟩ := by
  rw [Act.run_bind_of_ok rfl, Act.run_bind, Act.run_ofExcept]
  cases w.nameOf ref <;> rfl

/-- A craft that is answered made the recipe and says so, or it changed nothing but what was announced and says so. -/
theorem craftRecipe_answered (h : (craftRecipe args w).value = .ok text) :
    (∃ made after recipes bus, (namedRecipe args w).value = .ok (some made) ∧
      (w.nameOf made.result).map madeText = .ok text ∧ party.Exchanged made after ∧
      (Catalog.build w.registry w.visibility.sees w.mode (⟨after, .clear⟩ : Faulty Party)).value = .ok recipes ∧
      (craftRecipe args w).state = { w with inventory := ⟨after, .clear⟩, recipes, bus }) ∨
    ∃ message bus, text = paint .red message ∧ (craftRecipe args w).state = { w with bus } := by
  have hrun := namedRecipe_run args w
  by_cases hargs : args.isEmpty = true
  · have hempty : craftRecipe args w =
        ⟨.ok (paint .red "Craft what? Usage: craft <number|name> (Use 'recipes' to see list)"), w, []⟩ := by
      rw [craftRecipe, if_pos hargs, Act.run_pure]
    rw [hempty] at h ⊢
    cases h
    exact .inr ⟨_, w.bus, rfl, rfl⟩
  · cases hnamed : (namedRecipe args w).value with
    | error failure =>
        rw [craftRecipe, if_neg hargs, Act.run_bind_of_error hnamed] at h
        cases h
    | ok named =>
        have hstay : (namedRecipe args w).state = w := by rw [hrun]
        cases named with
        | none =>
            have hunknown : (craftRecipe args w).value = .ok (unknownRecipe args) ∧ (craftRecipe args w).state = w := by
              rw [craftRecipe, if_neg hargs, Act.run_bind_of_ok hnamed, hstay]
              exact ⟨rfl, rfl⟩
            rw [hunknown.1] at h
            cases h
            exact .inr ⟨_, w.bus, rfl, hunknown.2⟩
        | some made =>
            -- Naming only looks, so the craft begins where the command began.
            rw [craftRecipe, if_neg hargs, Act.run_bind_of_ok hnamed, hstay] at h ⊢
            cases Workshop.craft_crafted hinventory (some made) with
            | refused _ _ hvalue hstate =>
                simp only [Act.run_bind_of_ok hvalue] at h ⊢
                cases h
                exact .inr ⟨_, _, rfl, hstate⟩
            | listed hrecipe _ _ _ _ hexchanged _ hbuilt hvalue hstate =>
                cases hrecipe
                simp only [Act.run_bind_of_ok hvalue, if_true] at h ⊢
                rw [hstate] at h ⊢
                rw [nameOf_said] at h ⊢
                exact .inl ⟨made, _, _, _, rfl, h, hexchanged, hbuilt, rfl⟩
            | unlisted _ _ _ _ _ _ _ hvalue _ | untold _ _ hvalue _ | unreported _ _ _ _ _ hvalue _ =>
                simp only [Act.run_bind_of_error hvalue] at h
                cases h

end

section

variable {ι ω α : Type} [DecidableEq ι] [Audience ι Notice ω] {w : Workshop (Faulty Party) ι ω}
  (extra : α → List String → Act (Workshop (Faulty Party) ι ω) String) {line : String} {reply : Reply}

theorem mem_verbs_craft {key : String} :
    (key, Deed.craft) ∈ (verbs : List (String × Deed α)) ↔ key ∈ ["craft", "make"] := by
  simp [verbs]

/-- A line that is answered leaves the workshop as it was, but for the effect that it has on the party and the recipes.
-/
theorem answer_effect (hclear : w.inventory.faults = .clear)
    (hreply : (answer builtIn extra line w).value = .ok reply) :
    Workshop.Continues w (answer builtIn extra line w).state ∧
      Effect line w reply (answer builtIn extra line w).state := by
  have hinventory : w.inventory = ⟨w.inventory.store, .clear⟩ := Faulty.eq_of_clear hclear
  have hlooked : made? line w reply = none → (answer builtIn extra line w).state = w →
      Workshop.Continues w (answer builtIn extra line w).state ∧
        Effect line w reply (answer builtIn extra line w).state := by
    intro hnone hsame
    rw [hsame]
    exact ⟨.start hclear, .looked hnone rfl rfl⟩
  by_cases hcalls : ∃ verb args, ∃ deed : Deed α, line.blankWords = verb :: args ∧ (verb.lowered, deed) ∈ verbs
  · obtain ⟨verb, args, deed, hwords, hverb⟩ := hcalls
    obtain ⟨⟨command, hvalue⟩, hstate⟩ := answer_run extra hwords (mem_verbs_iff.1 hverb) w
    obtain ⟨text, htext, rfl⟩ := Result.map_eq_ok_iff.1 (hvalue.symm.trans hreply)
    -- No name calls two deeds, so only a craft can say that it has made something.
    have hnone : (∀ h : deed = .craft, False) → made? line w ⟨text, some command⟩ = none := by
      refine fun hother => made?_eq_none_of_verb hwords fun hcraft => hother ?_
      have hverbs := mem_verbs_iff.1 (mem_verbs_craft (α := α).2 hcraft)
      exact Option.some.inj ((mem_verbs_iff.1 hverb).symm.trans hverbs)
    cases deed with
    | recipes =>
        obtain ⟨recipes, hbuilt, -, -, hlisted⟩ := listRecipes_answered hinventory htext
        rw [hstate]
        show Workshop.Continues w (listRecipes w).state ∧ Effect line w _ (listRecipes w).state
        rw [hlisted]
        exact ⟨⟨hclear, rfl, rfl, rfl⟩, .listed (hnone nofun) ⟨verb, args, hwords, mem_verbs_list.1 hverb⟩ rfl hbuilt⟩
    | recipe => exact hlooked (hnone nofun) (hstate.trans (showRecipe_keeps hinventory w rfl))
    | craft =>
        rw [hstate]
        show Workshop.Continues w (craftRecipe args w).state ∧ Effect line w _ (craftRecipe args w).state
        rcases craftRecipe_answered hinventory htext with
          ⟨made, after, recipes, bus, hnamed, hmade, hexchanged, hbuilt, hcrafted⟩ | ⟨message, bus, hred, hcrafted⟩
        · rw [hcrafted]
          exact ⟨⟨rfl, rfl, rfl, rfl⟩,
            .made (made?_of_craft hwords (mem_verbs_craft.1 hverb) hnamed hmade) hexchanged hbuilt⟩
        · rw [hcrafted]
          exact ⟨⟨hclear, rfl, rfl, rfl⟩, .looked (made?_eq_none_of_red hred) rfl rfl⟩
    | checkNotes => exact hlooked (hnone nofun) (hstate.trans (checkNotes_keeps w w rfl))
    | help => exact hlooked (hnone nofun) hstate
    | extra deed => simp [verbs] at hverb
  · -- A line that calls nothing is answered all the same, but by no command.
    have hunknown := get?_of_not_calls hcalls
    refine hlooked ?_ (answer_of_unknown extra hunknown w).2
    cases hwords : line.blankWords with
    | nil => simp only [made?, hwords]
    | cons verb args =>
        refine made?_eq_none_of_verb hwords fun hcraft => ?_
        have hverbs := mem_verbs_iff.1 (mem_verbs_craft (α := α).2 hcraft)
        rw [hunknown verb args hwords] at hverbs
        cases hverbs

/-! ## Lines in a row -/

/-- The recipes that lines in a row say they have made. -/
def madeIn (lines : List String) (w : Workshop (Faulty Party) ι ω) : List Recipe :=
  (Act.turns (answer builtIn extra) lines w).filterMap fun turn =>
    match (answer builtIn extra turn.1 turn.2).value with
    | .ok reply => made? turn.1 turn.2 reply
    | .error _ => none

theorem madeIn_cons (hreply : (answer builtIn extra line w).value = .ok reply) (rest : List String) :
    madeIn extra (line :: rest) w =
      (made? line w reply).toList ++ madeIn extra rest (answer builtIn extra line w).state := by
  unfold madeIn
  rw [Act.turns, List.filterMap_cons]
  simp only [hreply]
  cases made? line w reply <;> rfl

variable {lines : List String}

/-- By induction on the lines: what the first one leaves is what the others begin with. -/
theorem settles_after (hclear : w.inventory.faults = .clear)
    (hanswered : ∀ turn ∈ Act.turns (answer builtIn extra) lines w,
      ∃ reply, (answer builtIn extra turn.1 turn.2).value = .ok reply) :
    (∀ turn ∈ Act.turns (answer builtIn extra) lines w, Workshop.Continues w turn.2) ∧
      w.inventory.store.ExchangedAll (madeIn extra lines w)
        (Act.after (answer builtIn extra) lines w).inventory.store ∧
      (madeIn extra lines w = [] → (Act.after (answer builtIn extra) lines w).inventory = w.inventory ∧
        ((∀ line ∈ lines, ¬AsksForList line) →
          (Act.after (answer builtIn extra) lines w).recipes = w.recipes)) := by
  induction lines generalizing w with
  | nil => exact ⟨List.forall_mem_nil _, .nil _, fun _ => ⟨rfl, fun _ => rfl⟩⟩
  | cons line rest ih =>
      obtain ⟨⟨reply, hreply⟩, hothers⟩ := List.forall_mem_cons.1 hanswered
      obtain ⟨hcontinues, heffect⟩ := answer_effect extra hclear hreply
      obtain ⟨hturns, hexchanged, hkept⟩ := ih hcontinues.clear hothers
      refine ⟨List.forall_mem_cons.2 ⟨.start hclear, fun turn hturn => hcontinues.trans (hturns turn hturn)⟩, ?_⟩
      rw [madeIn_cons extra hreply]
      show _ ∧ (_ → (Act.after (answer builtIn extra) rest _).inventory = _ ∧ _)
      cases heffect with
      | made hmade hfirst _ =>
          rw [hmade]
          exact ⟨.cons hfirst hexchanged, nofun⟩
      | listed hnone hlist hinventory _ =>
          rw [hnone, ← hinventory]
          refine ⟨hexchanged, fun hnothing => ⟨(hkept hnothing).1, fun hlines => ?_⟩⟩
          exact absurd hlist (hlines line List.mem_cons_self)
      | looked hnone hinventory hrecipes =>
          rw [hnone, ← hinventory, ← hrecipes]
          refine ⟨hexchanged, fun hnothing => ⟨(hkept hnothing).1, fun hlines => ?_⟩⟩
          exact (hkept hnothing).2 fun other hother => hlines other (List.mem_cons_of_mem _ hother)

/-- Through any lines that are all answered, where no call of the inventory fails. A line that calls for a craft and
says that it made a recipe has made one whole exchange for it, and a line that does not say so leaves the inventory as
it is. The recipes on offer change with what is made, or when a line asks for the list, and are then what a build
gives; every other line leaves them as they are. In all, the party has changed by the exchanges of the recipes that
were said to be made, and by nothing else. -/
theorem lines_change_as_announced (w : Workshop (Faulty Party) ι ω) (lines : List String)
    (hclear : w.inventory.faults = .clear)
    (hanswered : ∀ turn ∈ Act.turns (answer builtIn extra) lines w,
      ∃ reply, (answer builtIn extra turn.1 turn.2).value = .ok reply) :
    (∀ turn ∈ Act.turns (answer builtIn extra) lines w, ∀ reply,
      (answer builtIn extra turn.1 turn.2).value = .ok reply →
        let before := turn.2
        let after := (answer builtIn extra turn.1 turn.2).state
        (∀ made, made? turn.1 before reply = some made → before.inventory.store.Exchanged made after.inventory.store) ∧
          (made? turn.1 before reply = none → after.inventory = before.inventory) ∧
          (after.recipes = before.recipes ∨
            (AsksForList turn.1 ∨ ∃ made, made? turn.1 before reply = some made) ∧
              (Catalog.build w.registry w.visibility.sees w.mode after.inventory).value = .ok after.recipes)) ∧
      w.inventory.store.ExchangedAll (madeIn extra lines w)
        (Act.after (answer builtIn extra) lines w).inventory.store ∧
      (madeIn extra lines w = [] → (Act.after (answer builtIn extra) lines w).inventory = w.inventory ∧
        ((∀ line ∈ lines, ¬AsksForList line) →
          (Act.after (answer builtIn extra) lines w).recipes = w.recipes)) := by
  obtain ⟨hturns, hsettled⟩ := settles_after extra hclear hanswered
  refine ⟨fun turn hturn reply hreply => ?_, hsettled⟩
  obtain ⟨hclearNow, hregistry, hmode, hvisibility⟩ := hturns turn hturn
  cases (answer_effect extra hclearNow hreply).2 with
  | made hmade hexchanged hbuilt =>
      rw [hregistry, hmode, hvisibility] at hbuilt
      refine ⟨fun made hsaid => ?_, fun hnone => ?_, .inr ⟨.inr ⟨_, hmade⟩, hbuilt⟩⟩
      · cases hmade.symm.trans hsaid
        exact hexchanged
      · cases hmade.symm.trans hnone
  | listed hnone hlist hinventory hbuilt =>
      rw [hregistry, hmode, hvisibility] at hbuilt
      refine ⟨fun made hsaid => ?_, fun _ => hinventory, .inr ⟨.inl hlist, hbuilt⟩⟩
      cases hnone.symm.trans hsaid
  | looked hnone hinventory hrecipes =>
      refine ⟨fun made hsaid => ?_, fun _ => hinventory, .inl hrecipes⟩
      cases hnone.symm.trans hsaid

end

end Console

namespace Sample

open Console

/-- The list is asked for, the twig is made, and too few herbs are left for another. -/
def groveLines : List String :=
  ["recipes", "Make twig", "craft 1", "recipe 1", "dance"]

theorem grove_lines_announced :
    grove.inventory.faults = .clear ∧
      (∀ turn ∈ Act.turns (answer builtIn Empty.elim) groveLines grove,
        ∃ reply, (answer builtIn Empty.elim turn.1 turn.2).value = .ok reply) ∧
      madeIn Empty.elim groveLines grove = [twigRecipe] ∧
      grove.inventory.store.ExchangedAll [twigRecipe]
        (Act.after (answer builtIn Empty.elim) groveLines grove).inventory.store := by
  -- Both are read off the one run.
  have hrun : (Act.turns (answer builtIn Empty.elim) groveLines grove).all (fun turn =>
        (answer builtIn Empty.elim turn.1 turn.2).value.toOption.isSome) = true ∧
      madeIn Empty.elim groveLines grove = [twigRecipe] := by
    decide +kernel
  obtain ⟨hok, hmade⟩ := hrun
  have hanswered : ∀ turn ∈ Act.turns (answer builtIn Empty.elim) groveLines grove,
      ∃ reply, (answer builtIn Empty.elim turn.1 turn.2).value = .ok reply := by
    intro turn hturn
    have hturned := List.all_eq_true.1 hok turn hturn
    cases hvalue : (answer builtIn Empty.elim turn.1 turn.2).value with
    | ok reply => exact ⟨reply, rfl⟩
    | error failure =>
        rw [hvalue] at hturned
        cases hturned
  obtain ⟨-, hexchanged, -⟩ := lines_change_as_announced Empty.elim grove groveLines rfl hanswered
  rw [hmade] at hexchanged
  exact ⟨rfl, hanswered, hmade, hexchanged⟩

end Sample

end Crafting
