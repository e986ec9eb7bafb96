import Crafting.Game
import Crafting.Proofs.Catalog
import Crafting.Proofs.Craft
import Crafting.Proofs.Menu.Listening
import Crafting.Proofs.Result

/-!
# The menu in step with its workshop

From the moment it is opened, a menu lists as many entries as its workshop has recipes, and what was last announced as
chosen is what a craft by the menu would make: through any input, any work on the inventory, and any refreshing and
crafting, also where these fail.
-/

namespace Crafting.Menu

variable {σ κ : Type}

/-- The list agrees with the recipes on offer. -/
def InStep (w : Shop σ κ) : Prop :=
  Agrees w.recipes w.bus

/-! ## What a menu in step shows -/

theorem InStep.chosen_eq_none_iff {w : Shop σ κ} (h : InStep w) :
    w.bus.world.chosen w.recipes = none ↔ w.recipes = [] := by
  have hcount : w.bus.world.selection.itemCount = w.recipes.length := h.itemCount_eq
  rw [← List.length_eq_zero_iff]
  cases hcursor : w.bus.world.selection.cursor with
  | none =>
      have hzero := h.valid.cursor_eq_none_iff.1 hcursor
      exact iff_of_true (by rw [chosen, hcursor, Catalog.get?]) (by omega)
  | some cursor =>
      obtain ⟨hnonneg, hlt⟩ := h.valid.cursor_bounds cursor hcursor
      obtain ⟨recipe, hrecipe⟩ := Catalog.exists_get? hnonneg (hcount ▸ hlt)
      rw [chosen, hcursor, hrecipe]
      exact iff_of_false (Option.some_ne_none recipe) (by omega)

theorem mem_shown_iff {menu : Menu} {index : Int} :
    index ∈ menu.shown ↔ menu.selection.firstIndex ≤ index ∧ index < menu.selection.endIndex := by
  simp only [shown, List.mem_map, List.mem_range]
  constructor
  · rintro ⟨i, hi, rfl⟩
    omega
  · intro hindex
    exact ⟨(index - menu.selection.firstIndex).toNat, by omega, by omega⟩

/-- Every entry on screen is a recipe on offer. -/
theorem InStep.get?_of_mem_shown {w : Shop σ κ} (h : InStep w) {index : Int} (hindex : index ∈ w.bus.world.shown) :
    ∃ recipe, Catalog.get? w.recipes (some index) = some recipe := by
  obtain ⟨hlow, hhigh⟩ := mem_shown_iff.1 hindex
  have hfirst : 0 ≤ w.bus.world.selection.firstIndex :=
    Int.mul_nonneg h.valid.top_nonneg (by have := h.valid.columns_pos; omega)
  have hend : w.bus.world.selection.endIndex ≤ w.recipes.length := h.itemCount_eq ▸ min_le_left _ _
  exact Catalog.exists_get? (by omega) (by omega)

/-! ## A menu that was made -/

theorem make_valid {rect : Screen.Rect} {columns rowHeight : Int} {wrap : Bool} {font titleFont : Screen.Font}
    {menu : Menu} (hmade : make rect columns rowHeight wrap font titleFont = .ok menu) : menu.selection.Valid := by
  rw [make, Result.bind_eq_ok_iff] at hmade
  obtain ⟨height, -, hmade⟩ := hmade
  obtain ⟨selection, hselection, hmade⟩ := Result.bind_eq_ok_iff.1 hmade
  cases hmade
  exact .of_make hselection

/-! ## Announcements -/

theorem onInventory_inStep {α : Type} (act : Act σ α) :
    Act.Keeps InStep (Workshop.onInventory act : Act (Shop σ κ) α) :=
  fun _ h => h

variable [DecidableEq κ] [Observer κ]

theorem announce_inStep {notice : Notice} (hcatalog : notice.topic ≠ Topic.catalogRefreshed)
    (hselected : notice.topic ≠ Topic.recipeSelected) :
    Act.Keeps InStep (Workshop.announce notice : Act (Shop σ κ) Unit) :=
  fun w h => publish_other hcatalog hselected notice w.recipes w.bus h

theorem announceOutcome_inStep (outcome : Outcome) :
    Act.Keeps InStep (Workshop.announceOutcome outcome : Act (Shop σ κ) Unit) := by
  have htold : Act.Keeps InStep (Workshop.announce outcome.notice : Act (Shop σ κ) Unit) := by
    obtain ⟨success, message, recipe⟩ := outcome
    cases success
    · exact announce_inStep (show Topic.craftBlocked ≠ _ by decide) (show Topic.craftBlocked ≠ _ by decide)
    · exact announce_inStep (show Topic.craftSucceeded ≠ _ by decide) (show Topic.craftSucceeded ≠ _ by decide)
  have hcue : Act.Keeps InStep (Workshop.announce (.cue outcome.sound) : Act (Shop σ κ) Unit) :=
    announce_inStep (show Topic.soundCue ≠ _ by decide) (show Topic.soundCue ≠ _ by decide)
  exact Workshop.announceOutcome_keeps_of htold hcue

/-! ## Refreshing and crafting -/

variable [Inventory σ]

/-- A refreshed workshop has the menu in step, whatever it was before. -/
theorem refresh_attends {w : Shop σ κ} (h : Attends w.bus) {recipes : List Recipe}
    (hrefreshed : (Workshop.refresh w).value = .ok recipes) : InStep (Workshop.refresh w).state := by
  cases hrebuilt : (Catalog.rebuild w.registry w.visibility.sees w.mode w.inventory).value with
  | error failure =>
      rw [(Workshop.refresh_of_error hrebuilt).1] at hrefreshed
      cases hrefreshed
  | ok found =>
      -- The recipes are replaced just before the list hears of them, so the two meet again only after that.
      rw [(Workshop.refresh_of_ok hrebuilt).2]
      exact publish_refreshed h found

theorem refresh_inStep : Act.Keeps InStep (Workshop.refresh : Act (Shop σ κ) (List Recipe)) := by
  intro w h
  cases hrebuilt : (Catalog.rebuild w.registry w.visibility.sees w.mode w.inventory).value with
  | error failure =>
      -- The recipes are still the old ones, and nothing was announced.
      rw [(Workshop.refresh_of_error hrebuilt).2]
      exact h
  | ok recipes =>
      exact refresh_attends h.toAttends (Workshop.refresh_of_ok hrebuilt).1

theorem craft_inStep (recipe : Option Recipe) : Act.Keeps InStep (Workshop.craft recipe : Act (Shop σ κ) Outcome) :=
  Workshop.craft_keeps_of (Act.Keeps.bind (fun _ h => h) fun _ => onInventory_inStep _) (onInventory_inStep _)
    announceOutcome_inStep refresh_inStep

/-! ## Input -/

/-- The workshop with the menu's list moved. -/
def moved (op : Selection.Op) (w : Shop σ κ) : Shop σ κ :=
  { w with bus := { w.bus with
    world := { w.bus.world with selection := (op.apply w.bus.world.selection).selection } } }

omit [Inventory σ] in
theorem operate_run {op : Selection.Op} {w : Shop σ κ} (hpassed : (op.apply w.bus.world.selection).failure = none) :
    (operate op w).value = .ok () ∧ (operate op w).state =
      match (op.apply w.bus.world.selection).picked with
      | none => moved op w
      | some index => (Workshop.announce (.selected (Catalog.get? w.recipes (some index))) (moved op w)).state := by
  simp only [operate, current, changeMenu, Act.run_bind, Act.run_get, Act.run_pure, Act.run_modify, hpassed]
  cases (op.apply w.bus.world.selection).picked with
  | none => exact ⟨rfl, rfl⟩
  | some index =>
      have hvalue := Workshop.announce_value (.selected (Catalog.get? w.recipes (some index))) (moved op w)
      rw [moved] at hvalue
      simp only [Act.run_bind, Act.run_get, hvalue]
      exact ⟨rfl, rfl⟩

omit [Inventory σ] in
/-- A move of the cursor is announced, and what does not move it leaves the choice as it is. -/
theorem operate_inStep {op : Selection.Op} (hop : ¬op.Refits) :
    Act.Keeps InStep (operate op : Act (Shop σ κ) Unit) := by
  intro w h
  have hfollows := h.valid.move (Selection.Op.move hop w.bus.world.selection)
  have hattends : Attends (moved op w).bus := ⟨h.list_iff, hfollows.valid⟩
  have hcount : (moved op w).bus.world.selection.itemCount = w.recipes.length :=
    hfollows.itemCount_eq.trans h.itemCount_eq
  have hcursor : (moved op w).bus.world.selection.cursor =
      (op.apply w.bus.world.selection).picked.or w.bus.world.selection.cursor := hfollows.cursor_eq
  rw [(operate_run (Selection.Op.passes hop _)).2]
  -- An entry that is picked is the new cursor; where none is, only the scrolling may have changed.
  cases hpicked : (op.apply w.bus.world.selection).picked with
  | none =>
      rw [hpicked, Option.none_or] at hcursor
      refine ⟨hattends, hcount, ?_⟩
      rw [chosen, hcursor]
      exact h.last_eq
  | some index =>
      rw [hpicked, Option.some_or] at hcursor
      have hchosen : (moved op w).bus.world.chosen w.recipes = Catalog.get? w.recipes (some index) := by
        rw [chosen, hcursor]
      simp only [← hchosen]
      exact publish_selected hattends hcount

/-- An input moves the list, crafts or does nothing, and keeps whatever moves and crafts keep. -/
theorem handle_keeps_of {holds : Shop σ κ → Prop}
    (hoperate : ∀ op : Selection.Op, ¬op.Refits → Act.Keeps holds (operate op : Act (Shop σ κ) Unit))
    (hcraft : ∀ recipe, Act.Keeps holds (Workshop.craft recipe : Act (Shop σ κ) Outcome)) (input : Input) :
    Act.Keeps holds (handle input : Act (Shop σ κ) Bool) := by
  have hcommit : Act.Keeps holds (commit : Act (Shop σ κ) Outcome) := Act.Keeps.bind (fun _ h => h) hcraft
  have hend : Act.Keeps holds (pure false : Act (Shop σ κ) Bool) := .pure false
  refine Act.Keeps.bind (fun _ h => h) fun menu => ?_
  cases input with
  | key key =>
      cases key with
      | escape => exact .pure true
      | confirm => exact hcommit.bind fun _ => hend
      | other => exact (Act.Keeps.pure ()).bind fun _ => hend
      | _ => exact (hoperate _ (by exact not_false)).bind fun _ => hend
  | click x y button =>
      refine .ite (Act.Keeps.bind (fun _ h => h) fun hit => ?_) hend
      cases hit with
      | none => exact hend
      | some index => exact .ite (hcommit.bind fun _ => hend) ((hoperate _ (by exact not_false)).bind fun _ => hend)
  | wheel turns => exact (hoperate _ (by exact not_false)).bind fun _ => hend
  | other => exact .pure false

theorem handle_inStep (input : Input) : Act.Keeps InStep (handle input : Act (Shop σ κ) Bool) :=
  handle_keeps_of (fun _ hop => operate_inStep hop) craft_inStep input

/-- A menu opens just when the catalog can be built. -/
theorem openUp_answers_iff {w : Shop σ κ} :
    (openUp w).value = .ok () ↔
      ∃ recipes, (Catalog.rebuild w.registry w.visibility.sees w.mode w.inventory).value = .ok recipes := by
  cases hrebuilt : (Catalog.rebuild w.registry w.visibility.sees w.mode w.inventory).value with
  | error failure =>
      rw [openUp, Act.run_bind_of_error (Workshop.refresh_of_error hrebuilt).1]
      exact iff_of_false nofun fun ⟨_, h⟩ => nomatch h
  | ok recipes =>
      rw [openUp, Act.run_bind_of_ok (Workshop.refresh_of_ok hrebuilt).1]
      exact iff_of_true (operate_run rfl).1 ⟨recipes, rfl⟩

theorem openUp_inStep {w : Shop σ κ} (h : Attends w.bus) (hopened : (openUp w).value = .ok ()) :
    InStep (openUp w).state := by
  cases hrefreshed : (Workshop.refresh w).value with
  | error failure =>
      rw [openUp, Act.run_bind_of_error hrefreshed] at hopened
      cases hopened
  | ok recipes =>
      rw [openUp, Act.run_bind_of_ok hrefreshed]
      exact operate_inStep (by exact not_false) _ (refresh_attends h hrefreshed)

/-! ## Whatever may happen -/

/-- What may happen at a shop with an open menu. Observers come and go, and others announce what they like, except on
the topics of the catalog and of the choice. What is to be offered may change before it is refreshed. -/
inductive Step (σ κ : Type) where
  | receive (input : Input)
  | work (act : Act σ Unit)
  | arrange (registry : Registry) (visibility : Visibility)
  | refresh
  | craft (recipe : Option Recipe)
  | join (topic : String) (guest : κ)
  | leave (topic : String) (guest : κ)
  | announce (topic : String) (notice : Notice) (hcatalog : topic ≠ Topic.catalogRefreshed)
      (hselected : topic ≠ Topic.recipeSelected)

def Step.act : Step σ κ → Act (Shop σ κ) Unit
  | .receive input => do let _ ← handle input
  | .work act => Workshop.onInventory act
  | .arrange registry visibility => .modify fun w => { w with registry, visibility }
  | .refresh => do let _ ← Workshop.refresh
  | .craft recipe => do let _ ← Workshop.craft recipe
  | .join topic guest => Workshop.onBus (.modify (EventBus.subscribe topic (.guest guest)))
  | .leave topic guest => Workshop.onBus (.modify (EventBus.unsubscribe topic (.guest guest)))
  | .announce topic notice _ _ => Workshop.onBus (EventBus.publish topic notice)

/-- The shop after some steps. A step that fails leaves what it did until then, and the next one follows. -/
def after : List (Step σ κ) → Shop σ κ → Shop σ κ
  | [], w => w
  | step :: rest, w => after rest (step.act w).state

theorem step_inStep (step : Step σ κ) : Act.Keeps InStep step.act := by
  cases step with
  | receive input => exact (handle_inStep input).bind fun _ => .pure ()
  | work act => exact onInventory_inStep act
  | arrange registry visibility => exact fun w h => h
  | refresh => exact refresh_inStep.bind fun _ => .pure ()
  | craft recipe => exact (craft_inStep recipe).bind fun _ => .pure ()
  | join topic guest => exact fun w h => subscribe_agrees topic guest h
  | leave topic guest => exact fun w h => unsubscribe_agrees topic guest h
  | announce topic notice hcatalog hselected =>
      exact fun w h => publish_other hcatalog hselected notice w.recipes w.bus h

theorem after_inStep {w : Shop σ κ} (h : InStep w) (steps : List (Step σ κ)) : InStep (after steps w) := by
  induction steps generalizing w with
  | nil => exact h
  | cons step rest ih => exact ih (step_inStep step w h)

/-! ## From the opening on -/

/-- The shop with a menu that now listens to it. -/
def createdOn (menu : Menu) (w : Shop σ κ) : Shop σ κ :=
  { w with bus := attach { w.bus with world := menu } }

/-- A menu that was opened stays in step, through steps that fail as well: it lists the catalog, it has a choice as long
as there is a recipe, every entry on screen is on offer, and what it last announced as chosen is what confirming
crafts. -/
theorem stays_in_step {rect : Screen.Rect} {columns rowHeight : Int} {wrap : Bool} {font titleFont : Screen.Font}
    {menu : Menu} (hmade : make rect columns rowHeight wrap font titleFont = .ok menu) (before : Shop σ κ)
    (hguests : ∀ topic, ∀ who ∈ before.bus.subscribersOf topic, ∃ guest, who = .guest guest)
    (hopened : (openUp (createdOn menu before)).value = .ok ()) (steps : List (Step σ κ)) :
    let w := after steps (openUp (createdOn menu before)).state
    w.bus.world.selection.itemCount = w.recipes.length ∧
      (w.bus.world.chosen w.recipes = none ↔ w.recipes = []) ∧
      (∀ index ∈ w.bus.world.shown, ∃ recipe, Catalog.get? w.recipes (some index) = some recipe) ∧
      w.bus.last? Topic.recipeSelected = some (.selected (w.bus.world.chosen w.recipes)) ∧
      ∀ announced, w.bus.last? Topic.recipeSelected = some (.selected announced) →
        handle (.key .confirm) w = (do let _ ← Workshop.craft announced; return false) w := by
  intro w
  have hattends : Attends (createdOn menu before).bus := by
    refine attach_attends (make_valid hmade) fun topic hlist => ?_
    obtain ⟨guest, hguest⟩ := hguests topic _ hlist
    cases hguest
  have h : InStep w := after_inStep (openUp_inStep hattends hopened) steps
  refine ⟨h.itemCount_eq, h.chosen_eq_none_iff, fun index hindex => h.get?_of_mem_shown hindex, h.last_eq, ?_⟩
  intro announced hannounced
  rw [h.last_eq] at hannounced
  cases hannounced
  rfl

end Crafting.Menu

namespace Crafting.Sample

open Menu

/-- An item that is made of itself. -/
def lamp : Entity where
  ref := ⟨.item, 1, Nat.one_pos⟩
  name := .string "Lamp"
  note := .string "<recipe>\nResult: Item 1\nMaterial1: Item 1, 1\n</recipe>"

def lampRecipe : Recipe where
  result := lamp.ref
  materials := [⟨lamp.ref, 1, Nat.one_pos⟩]
  source := lamp.ref

def plain : Screen.Font := ⟨"plain", 8, 16, 18⟩

/-- The menu of a window before anything is listed. -/
def signboard : Menu where
  rect := ⟨0, 0, 816, 624, .words⟩
  rowHeight := 36
  wrap := true
  selection := { columns := 3, viewportHeight := 234, rowHeight := 36 }
  font := plain
  titleFont := plain

/-- A shop with sound, where the bag sticks at the first look. -/
def stall : Shop (Faulty Party) Game.Speaker where
  registry := { items := [lamp] }
  inventory := ⟨{ held := [(lamp.ref, 2)] }, [(.quantityOf, [(1, some "bag stuck")])]⟩
  bus := EventBus.subscribe Topic.soundCue (.guest .speaker) { world := signboard }

/-- In step through a craft in which the bag sticks, and with no lamp left. -/
theorem stall_in_step :
    Window.makeMenu plain plain = .ok signboard ∧
      (∀ topic, ∀ who ∈ stall.bus.subscribersOf topic, ∃ guest, who = .guest guest) ∧
      (openUp (createdOn signboard stall)).value = .ok () ∧
      let w := after [.receive (.key .confirm), .receive (.wheel 3), .work (Inventory.consume lamp.ref 2), .refresh]
        (openUp (createdOn signboard stall)).state
      w.bus.world.selection.itemCount = w.recipes.length ∧
        w.bus.last? Topic.recipeSelected = some (.selected (w.bus.world.chosen w.recipes)) := by
  have hmade : Window.makeMenu plain plain = .ok signboard := rfl
  have hguests : ∀ topic, ∀ who ∈ stall.bus.subscribersOf topic, ∃ guest, who = .guest guest := by
    intro topic who hwho
    rw [stall, EventBus.subscribersOf_subscribe] at hwho
    split at hwho
    · exact ⟨.speaker, List.mem_singleton.1 hwho⟩
    · cases hwho
  have hrebuilt : (Catalog.rebuild stall.registry stall.visibility.sees stall.mode stall.inventory).value =
      .ok [lampRecipe] := by
    decide +kernel
  have hopened : (openUp (createdOn signboard stall)).value = .ok () := openUp_answers_iff.2 ⟨_, hrebuilt⟩
  obtain ⟨hcount, -, -, hlast, -⟩ := stays_in_step hmade stall hguests hopened
    [.receive (.key .confirm), .receive (.wheel 3), .work (Inventory.consume lamp.ref 2), .refresh]
  exact ⟨hmade, hguests, hopened, hcount, hlast⟩

end Crafting.Sample
