import Crafting.Proofs.Moves

/-!
# What is announced of crafts

Where no call is made to fail and all can be reported, what a workshop announces of its crafts is what came of them,
craft by craft. Subscribers may do what they like, and fail; as long as they do not announce on its topics, nothing else
is heard there. The one craft of which too little is announced is one that applies and then meets a note that cannot be
read.
-/

namespace Crafting.Workshop

/-- The topics on which a workshop announces. -/
def topics : List String :=
  [Topic.craftSucceeded, Topic.craftBlocked, Topic.soundCue, Topic.catalogRefreshed]

/-- What is announced of a craft that went like this: its outcome, the sound that goes with it and, after a success, the
new catalog. A craft that fails has announced its success already, but no catalog. -/
def notices {σ ι ω : Type} (recipe : Option Recipe) (run : Run (Workshop σ ι ω) Outcome) : List (String × Notice) :=
  match run.value with
  | .ok outcome =>
      outcome.announcements ++
        if outcome.success then [(Topic.catalogRefreshed, .refreshed run.state.recipes)] else []
  | .error _ => Outcome.announcements ⟨true, craftedMessage, recipe⟩

theorem topic_of_announcement (outcome : Outcome) : ∀ notice ∈ outcome.announcements, notice.1 ∈ topics := by
  obtain ⟨success, message, recipe⟩ := outcome
  cases success <;> simp [Outcome.announcements, Outcome.notice, Notice.topic, topics]

theorem exists_succeeded_iff (outcome : Outcome) :
    (∃ other, (Topic.craftSucceeded, .succeeded other) ∈ outcome.announcements) ↔ outcome.success = true := by
  obtain ⟨success, message, recipe⟩ := outcome
  cases success <;> simp [Outcome.announcements, Outcome.notice, Notice.topic]

section

variable {σ ι ω : Type} {recipe : Option Recipe} {run : Run (Workshop σ ι ω) Outcome} {outcome : Outcome}

theorem notices_of_success (h : run.value = .ok outcome) (hsuccess : outcome.success = true) :
    notices recipe run = outcome.announcements ++ [(Topic.catalogRefreshed, .refreshed run.state.recipes)] := by
  rw [notices, h]
  simp only [hsuccess, if_true]

theorem notices_of_blocked (h : run.value = .ok outcome) (hblocked : outcome.success = false) :
    notices recipe run = outcome.announcements := by
  rw [notices, h]
  simp only [hblocked, Bool.false_eq_true, if_false, List.append_nil]

theorem notices_of_error {failure : Failure} (h : run.value = .error failure) :
    notices recipe run = Outcome.announcements ⟨true, craftedMessage, recipe⟩ := by
  rw [notices, h]

theorem topic_of_notice : ∀ notice ∈ notices recipe run, notice.1 ∈ topics := by
  cases hvalue : run.value with
  | error failure =>
      rw [notices_of_error hvalue]
      exact topic_of_announcement _
  | ok outcome =>
      cases hsuccess : outcome.success with
      | false =>
          rw [notices_of_blocked hvalue hsuccess]
          exact topic_of_announcement outcome
      | true =>
          rw [notices_of_success hvalue hsuccess]
          exact List.forall_mem_append.2 ⟨topic_of_announcement outcome, by simp [topics]⟩

end

variable {ι ω : Type} [DecidableEq ι] [Audience ι Notice ω]

/-! ## One craft -/

/-- What is announced of the craft of a recipe is what comes of it. -/
structure Truthful (w : Workshop (Faulty Party) ι ω) (recipe : Option Recipe) : Prop where
  announced : (∃ outcome, (Topic.craftSucceeded, .succeeded outcome) ∈ notices recipe (craft recipe w)) ↔
    w.Applies recipe
  answered : ∀ outcome, (craft recipe w).value = .ok outcome →
    outcome.recipe = recipe ∧ (outcome.success = true ↔ w.Applies recipe)
  offered : ∀ outcome, (craft recipe w).value = .ok outcome → outcome.success = true →
    (Catalog.build w.registry w.visibility.sees w.mode (craft recipe w).state.inventory).value =
      .ok (craft recipe w).state.recipes
  fails : (∃ failure, (craft recipe w).value = .error failure) ↔
    w.Applies recipe ∧ ¬Catalog.Readable w.registry w.mode
  exchanged : w.Applies recipe → ∃ made, recipe = some made ∧
    w.inventory.store.Exchanged made (craft recipe w).state.inventory.store
  unchanged : ¬w.Applies recipe → (craft recipe w).state.inventory = w.inventory

section

variable [Audience.Candid ι Notice ω] {w : Workshop (Faulty Party) ι ω} (hclear : w.inventory.faults = .clear)
  {recipe : Option Recipe} (hreports : w.Reports recipe)

include hclear hreports

theorem craft_bus : (craft recipe w).state.bus = w.bus.told (notices recipe (craft recipe w)) := by
  cases craft_crafted (Faulty.eq_of_clear hclear) recipe with
  | refused _ _ hvalue hstate => rw [notices_of_blocked hvalue rfl, hstate]
  | listed _ _ _ _ _ _ _ _ hvalue hstate => rw [notices_of_success hvalue rfl, hstate]
  | unlisted _ _ _ _ _ _ _ hvalue hstate => rw [notices_of_error hvalue, hstate]
  | untold _ hsilent => exact absurd hreports (hsilent inferInstance)
  | unreported _ _ _ hsilent => exact absurd hreports (hsilent inferInstance)

theorem craft_truthful : Truthful w recipe := by
  obtain ⟨hexchanged, hunchanged⟩ := craft_party hclear recipe
  have hfails := craft_fails_iff hclear hreports
  cases craft_crafted (Faulty.eq_of_clear hclear) recipe with
  | refused _ hnot hvalue hstate =>
      refine ⟨?_, fun outcome houtcome => ?_, fun outcome houtcome hsuccess => ?_, hfails, hexchanged,
        hunchanged hreports⟩
      · rw [notices_of_blocked hvalue rfl, exists_succeeded_iff]
        exact ⟨nofun, fun happlies => absurd happlies hnot⟩
      · cases houtcome.symm.trans hvalue
        exact ⟨rfl, nofun, fun happlies => absurd happlies hnot⟩
      · cases houtcome.symm.trans hvalue
        cases hsuccess
  | listed _ _ _ happlies _ _ _ hbuilt hvalue hstate =>
      refine ⟨?_, fun outcome houtcome => ?_, fun outcome houtcome hsuccess => ?_, hfails, hexchanged,
        hunchanged hreports⟩
      · rw [notices_of_success hvalue rfl]
        exact ⟨fun _ => happlies, fun _ => ⟨_, List.mem_append_left _ List.mem_cons_self⟩⟩
      · cases houtcome.symm.trans hvalue
        exact ⟨rfl, fun _ => happlies, fun _ => rfl⟩
      · rw [hstate]
        exact hbuilt
  | unlisted _ _ _ happlies _ _ _ hvalue hstate =>
      -- There is no outcome to be told, but the success was announced before the refreshing.
      refine ⟨?_, fun outcome houtcome => ?_, fun outcome houtcome => ?_, hfails, hexchanged, hunchanged hreports⟩
      · rw [notices_of_error hvalue, exists_succeeded_iff]
        exact ⟨fun _ => happlies, fun _ => rfl⟩
      · cases houtcome.symm.trans hvalue
      · cases houtcome.symm.trans hvalue
  | untold _ hsilent => exact absurd hreports (hsilent inferInstance)
  | unreported _ _ _ hsilent => exact absurd hreports (hsilent inferInstance)

end

/-! ## Crafts in a row -/

/-- All that is announced of crafts in a row. -/
def noticesOf (recipes : List (Option Recipe)) (w : Workshop (Faulty Party) ι ω) : List (String × Notice) :=
  (Act.turns craft recipes w).flatMap fun turn => notices turn.1 (craft turn.1 turn.2)

theorem topic_of_noticesOf (recipes : List (Option Recipe)) (w : Workshop (Faulty Party) ι ω) :
    ∀ notice ∈ noticesOf recipes w, notice.1 ∈ topics := by
  intro notice hnotice
  obtain ⟨turn, -, hmem⟩ := List.mem_flatMap.1 hnotice
  exact topic_of_notice notice hmem

section

variable [Audience.Candid ι Notice ω] {w : Workshop (Faulty Party) ι ω} (hclear : w.inventory.faults = .clear)
  {recipes : List (Option Recipe)} (hreports : ∀ recipe ∈ recipes, w.Reports recipe)

include hclear hreports

/-- By induction on the crafts: the others are announced on the bus that the first one leaves. -/
theorem bus_after : (Act.after craft recipes w).bus = w.bus.told (noticesOf recipes w) := by
  induction recipes generalizing w with
  | nil => rfl
  | cons recipe rest ih =>
      obtain ⟨hrecipe, hothers⟩ := List.forall_mem_cons.1 hreports
      have hcontinues := (Continues.start hclear).craft recipe
      have hfirst := craft_bus hclear hrecipe
      have hrest := ih hcontinues.clear fun other hother => hcontinues.reports (hothers other hother)
      show (Act.after craft rest (craft recipe w).state).bus = _
      rw [hrest, hfirst, ← EventBus.told_append]
      rfl

/-- Craft after craft it is announced what came of each, and nothing else is announced, whatever the subscribers do short
of leaving, where the recipes can be reported. Where the subscribers do not announce on the topics of the workshop,
nothing else is heard on these either. -/
theorem crafts_announced :
    let after := Act.after craft recipes w
    after.bus.announced = w.bus.announced ++ noticesOf recipes w ∧
      (Audience.Abstains ι Notice ω topics → after.bus.heard topics = w.bus.heard topics ++ noticesOf recipes w) ∧
      ∀ turn ∈ Act.turns craft recipes w, Truthful turn.2 turn.1 := by
  intro after
  have hbus : after.bus = w.bus.told (noticesOf recipes w) := bus_after hclear hreports
  rw [hbus]
  refine ⟨EventBus.told_announced w.bus _, fun habstains => ?_, fun turn hturn => ?_⟩
  · exact EventBus.told_heard habstains w.bus (topic_of_noticesOf recipes w)
  · have hkeeps : ∀ recipe ∈ recipes, Act.Keeps (Continues w) (craft recipe) := fun recipe _ _ h => h.craft recipe
    have hcontinues : Continues w turn.2 := Act.Keeps.of_mem_turns hkeeps (.start hclear) hturn
    exact craft_truthful hcontinues.clear (hcontinues.reports (hreports _ (Act.mem_of_mem_turns hturn)))

end

end Crafting.Workshop

namespace Crafting.Sample

open Workshop

/-- Fails whenever it is called. -/
inductive Critic where
  | harsh
  deriving DecidableEq

instance : Audience Critic Notice Unit where
  react _ _ _ world := { world, ending := .error (.refused "bravo refused") }

instance : Audience.Candid Critic Notice Unit where
  ending := by
    rintro _ _ _ _ _ ⟨⟩
    trivial

/-- Two potions are asked for and there is enough for one. -/
def stage : Workshop (Faulty Party) Critic Unit where
  registry := {}
  inventory := ⟨party 2, .clear⟩
  bus := { world := (), subscribers := topics.map fun topic => (topic, [.harsh]) }

theorem stage_announced :
    let shortage : Outcome := ⟨false, "Not enough Unknown Item.", some potion⟩
    stage.inventory.faults = .clear ∧ Audience.Abstains Critic Notice Unit topics ∧
      (Act.after craft [some potion, some potion] stage).bus.heard topics =
        [(Topic.craftSucceeded, .succeeded ⟨true, craftedMessage, some potion⟩), (Topic.soundCue, .cue "shop"),
          (Topic.catalogRefreshed, .refreshed []), (Topic.craftBlocked, .blocked shortage),
          (Topic.soundCue, .cue "buzzer")] := by
  have habstains : Audience.Abstains Critic Notice Unit topics := fun _ _ _ _ _ hstep => nomatch hstep
  have hpotion : stage.Reports (some potion) := by
    rintro _ ⟨⟩
    exact ⟨⟨by decide, by decide⟩, unknownName, rfl⟩
  have hreports : ∀ recipe ∈ [some potion, some potion], stage.Reports recipe :=
    List.forall_mem_cons.2 ⟨hpotion, List.forall_mem_singleton.2 hpotion⟩
  have hheard := (crafts_announced (w := stage) rfl hreports).2.1 habstains
  exact ⟨rfl, habstains, hheard⟩

/-- Where the scroll cannot be read, a success is announced and no catalog after it. -/
example : noticesOf [some potion] (shop ⟨party 2, .clear⟩ [scroll]) =
    [(Topic.craftSucceeded, .succeeded ⟨true, craftedMessage, some potion⟩), (Topic.soundCue, .cue "shop")] :=
  rfl

end Crafting.Sample
