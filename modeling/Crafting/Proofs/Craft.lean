import Crafting.Proofs.Catalog
import Crafting.Proofs.EventBus
import Crafting.Proofs.Settlement
import Crafting.Proofs.Verdict
import Crafting.Workshop

/-!
# Crafting on any inventory

A craft judges, exchanges, announces how it went and, after a success, refreshes the catalog. Here is each way that it
can go, and which failures it lets through.
-/

namespace Crafting

def Outcome.announcements (outcome : Outcome) : List (String × Notice) :=
  [(outcome.notice.topic, outcome.notice), (Topic.soundCue, .cue outcome.sound)]

namespace Workshop

variable {σ ι ω : Type}

/-! ## Judging and exchanging -/

section Attempting

variable [Inventory σ]

/-- The inventory once a recipe is judged. -/
def judged (w : Workshop σ ι ω) (recipe : Option Recipe) : σ :=
  (Verdict.judge (some w.registry) recipe w.inventory).state

/-- The exchange on a recipe that was found ready. -/
def exchange (w : Workshop σ ι ω) (recipe : Option Recipe) : Run σ Exchange.Ending :=
  Exchange.run recipe (w.judged recipe)

/-- The recipe is found ready, and the exchange that follows is carried out. -/
def Applies (w : Workshop σ ι ω) (recipe : Option Recipe) : Prop :=
  (Verdict.judge (some w.registry) recipe w.inventory).value = .ok .ready ∧ (w.exchange recipe).value = .ok .applied

variable {w : Workshop σ ι ω} {recipe : Option Recipe}

theorem attemptCraft_of_unjudged {failure : Failure}
    (h : (Verdict.judge (some w.registry) recipe w.inventory).value = .error failure) :
    (attemptCraft recipe w).value = .error failure ∧
      (attemptCraft recipe w).state = { w with inventory := w.judged recipe } := by
  simp only [attemptCraft, judge, onInventory, Act.run_bind, Act.run_get, Act.run_zoom, h]
  exact ⟨trivial, rfl⟩

theorem attemptCraft_of_not_ready {verdict : Verdict}
    (hjudge : (Verdict.judge (some w.registry) recipe w.inventory).value = .ok verdict) (hverdict : verdict ≠ .ready) :
    (attemptCraft recipe w).value = .ok ⟨false, w.reason verdict, recipe⟩ ∧
      (attemptCraft recipe w).state = { w with inventory := w.judged recipe } := by
  have hready : verdict.isReady = false := beq_eq_false_iff_ne.2 hverdict
  simp only [attemptCraft, judge, onInventory, Act.run_bind, Act.run_get, Act.run_zoom, hjudge, hready, Bool.not_false,
    if_true, Act.run_pure]
  exact ⟨rfl, rfl⟩

section Ready

variable (hready : (Verdict.judge (some w.registry) recipe w.inventory).value = .ok .ready)

include hready

theorem attemptCraft_of_ready_error {failure : Failure} (h : (w.exchange recipe).value = .error failure) :
    (attemptCraft recipe w).value = .error failure ∧
      (attemptCraft recipe w).state = { w with inventory := (w.exchange recipe).state } := by
  have hexchange : (Exchange.run recipe (Verdict.judge (some w.registry) recipe w.inventory).state).value =
      .error failure := h
  have hisReady : Verdict.ready.isReady = true := rfl
  simp only [attemptCraft, judge, onInventory, Act.run_bind, Act.run_get, Act.run_zoom, hready, hisReady, hexchange,
    Bool.not_true, Bool.false_eq_true, if_false]
  exact ⟨trivial, rfl⟩

theorem attemptCraft_of_ready_ok {ending : Exchange.Ending} (h : (w.exchange recipe).value = .ok ending) :
    (attemptCraft recipe w).value =
        .ok (if ending = .applied then ⟨true, craftedMessage, recipe⟩ else ⟨false, cannotCraft, recipe⟩) ∧
      (attemptCraft recipe w).state = { w with inventory := (w.exchange recipe).state } := by
  -- Spelled out, so that the run of the craft can be rewritten with it.
  have hexchange : (Exchange.run recipe (Verdict.judge (some w.registry) recipe w.inventory).state).value =
      .ok ending := h
  have hisReady : Verdict.ready.isReady = true := rfl
  simp only [attemptCraft, judge, onInventory, Act.run_bind, Act.run_get, Act.run_zoom, hready, hisReady, hexchange,
    Bool.not_true, Bool.false_eq_true, if_false]
  by_cases happlied : ending = .applied
  · simp only [happlied, if_true, Act.run_pure]
    exact ⟨trivial, rfl⟩
  · simp only [happlied, if_false, Act.run_pure]
    exact ⟨trivial, rfl⟩

end Ready

end Attempting

/-! ## Announcing -/

/-- What is reported of a craft of the recipe can be written: its numbers, and the name of its result. -/
def Reports (w : Workshop σ ι ω) (recipe : Option Recipe) : Prop :=
  ∀ made, recipe = some made → made.Reportable ∧ ∃ name, w.nameOf made.result = .ok name

theorem exists_outcomeText_of_blocked (w : Workshop σ ι ω) {outcome : Outcome} (hblocked : outcome.success = false) :
    ∃ words, w.outcomeText outcome = .ok words := by
  rw [outcomeText, hblocked]
  exact ⟨_, rfl⟩

theorem outcomeText_of_success (w : Workshop σ ι ω) (message : String) (made : Recipe) :
    w.outcomeText ⟨true, message, some made⟩ = (w.nameOf made.result).map fun name => "Crafted " ++ name ++ "." := by
  have htext : w.outcomeText ⟨true, message, some made⟩ =
      (w.nameOf made.result >>= fun name => .ok ("Crafted " ++ name ++ ".")) := rfl
  rw [htext]
  cases w.nameOf made.result <;> rfl

variable [DecidableEq ι] [Audience ι Notice ω]

theorem announceOutcome_of_untold {outcome : Outcome} {w : Workshop σ ι ω} {failure : Failure}
    (h : w.outcomeText outcome = .error failure) :
    (announceOutcome outcome w).value = .error failure ∧ (announceOutcome outcome w).state = w := by
  simp only [announceOutcome, Act.run_bind, Act.run_get, h, Act.run_report_error, and_self]

/-- First the outcome is told, then the sound, on the bus that the telling left. -/
theorem announceOutcome_state {outcome : Outcome} {w : Workshop σ ι ω} {u : Unit}
    (h : (announceOutcome outcome w).value = .ok u) :
    (announceOutcome outcome w).state = { w with bus := w.bus.told outcome.announcements } := by
  cases htext : w.outcomeText outcome with
  | error failure => cases h.symm.trans (announceOutcome_of_untold htext).1
  | ok words =>
      simp only [announceOutcome, Act.run_bind, Act.run_get, htext, Act.run_report_ok] at h ⊢
      cases hvalue : (announce outcome.notice w).value with
      | error failure =>
          rw [hvalue] at h
          cases h
      | ok _ => rfl

theorem announceOutcome_frame (outcome : Outcome) (w : Workshop σ ι ω) :
    ∃ bus, (announceOutcome outcome w).state = { w with bus } := by
  cases htext : w.outcomeText outcome with
  | error failure => exact ⟨w.bus, (announceOutcome_of_untold htext).2⟩
  | ok words =>
      simp only [announceOutcome, Act.run_bind, Act.run_get, htext, Act.run_report_ok]
      split <;> exact ⟨_, rfl⟩

section Candid

variable [Audience.Candid ι Notice ω]

theorem announce_value (notice : Notice) (w : Workshop σ ι ω) : (announce notice w).value = .ok () :=
  EventBus.publish_value notice.topic notice w.bus

theorem announceOutcome_value {outcome : Outcome} {w : Workshop σ ι ω}
    (h : ∃ words, w.outcomeText outcome = .ok words) : (announceOutcome outcome w).value = .ok () := by
  obtain ⟨words, hwords⟩ := h
  simp only [announceOutcome, Act.run_bind, Act.run_get, hwords, Act.run_report_ok, announce_value]

end Candid

variable [Inventory σ]

/-! ## Refreshing -/

theorem refresh_of_error {w : Workshop σ ι ω} {failure : Failure}
    (h : (Catalog.rebuild w.registry w.visibility.sees w.mode w.inventory).value = .error failure) :
    (refresh w).value = .error failure ∧
      (refresh w).state =
        { w with inventory := (Catalog.rebuild w.registry w.visibility.sees w.mode w.inventory).state } := by
  simp only [refresh, onInventory, Act.run_bind, Act.run_get, Act.run_zoom, h, and_self]

/-- The catalog is there before it is announced. -/
theorem refresh_of_rebuilt {w : Workshop σ ι ω} {recipes : List Recipe}
    (h : (Catalog.rebuild w.registry w.visibility.sees w.mode w.inventory).value = .ok recipes) :
    ((refresh w).value = .ok recipes ∨ ∃ failure, (refresh w).value = .error failure) ∧
      (refresh w).state =
        { w with
          inventory := (Catalog.rebuild w.registry w.visibility.sees w.mode w.inventory).state
          recipes
          bus := w.bus.told [(Topic.catalogRefreshed, .refreshed recipes)] } := by
  simp only [refresh, onInventory, Act.run_bind, Act.run_get, Act.run_zoom, Act.run_modify, Act.run_pure, h]
  split
  · exact ⟨.inr ⟨_, rfl⟩, rfl⟩
  · exact ⟨.inl rfl, rfl⟩

theorem refresh_of_ok [Audience.Candid ι Notice ω] {w : Workshop σ ι ω} {recipes : List Recipe}
    (h : (Catalog.rebuild w.registry w.visibility.sees w.mode w.inventory).value = .ok recipes) :
    (refresh w).value = .ok recipes ∧
      (refresh w).state =
        { w with
          inventory := (Catalog.rebuild w.registry w.visibility.sees w.mode w.inventory).state
          recipes
          bus := w.bus.told [(Topic.catalogRefreshed, .refreshed recipes)] } := by
  have hvalue := announce_value (.refreshed recipes) { w with
    inventory := (Catalog.rebuild w.registry w.visibility.sees w.mode w.inventory).state
    recipes }
  refine ⟨?_, (refresh_of_rebuilt h).2⟩
  simp only [refresh, onInventory, Act.run_bind, Act.run_get, Act.run_zoom, Act.run_modify, Act.run_pure, h, hvalue]

/-! ## The ways of a craft -/

section Ways

variable {w : Workshop σ ι ω} {recipe : Option Recipe}

theorem craft_of_error {failure : Failure} (h : (attemptCraft recipe w).value = .error failure) :
    (craft recipe w).value = .error failure ∧ (craft recipe w).state = (attemptCraft recipe w).state := by
  simp only [craft, Act.run_bind, h, and_self]

variable {outcome : Outcome} (h : (attemptCraft recipe w).value = .ok outcome)

include h

theorem craft_of_untold {failure : Failure}
    (htold : (announceOutcome outcome (attemptCraft recipe w).state).value = .error failure) :
    (craft recipe w).value = .error failure ∧
      (craft recipe w).state = (announceOutcome outcome (attemptCraft recipe w).state).state := by
  simp only [craft, Act.run_bind, h, htold, and_self]

variable {u : Unit} (htold : (announceOutcome outcome (attemptCraft recipe w).state).value = .ok u)

include htold

theorem craft_of_blocked (hblocked : outcome.success = false) :
    (craft recipe w).value = .ok outcome ∧
      (craft recipe w).state = { (attemptCraft recipe w).state with
        bus := (attemptCraft recipe w).state.bus.told outcome.announcements } := by
  rw [← announceOutcome_state htold]
  simp only [craft, Act.run_bind, h, htold, hblocked, Bool.false_eq_true, if_false, Act.run_pure, and_self]

/-- After a success that was announced, a craft goes as its refreshing goes. -/
theorem craft_of_success (hsuccess : outcome.success = true) :
    let told := { (attemptCraft recipe w).state with
      bus := (attemptCraft recipe w).state.bus.told outcome.announcements }
    (craft recipe w).value = (refresh told).value.map (fun _ => outcome) ∧
      (craft recipe w).state = (refresh told).state := by
  rw [← announceOutcome_state htold]
  simp only [craft, Act.run_bind, h, htold, hsuccess, if_true]
  cases (refresh (announceOutcome outcome (attemptCraft recipe w).state).state).value <;> exact ⟨rfl, rfl⟩

end Ways

/-- The catalog as it is rebuilt after an exchange. -/
def rebuilt (w : Workshop σ ι ω) (recipe : Option Recipe) : Run σ (List Recipe) :=
  Catalog.rebuild w.registry w.visibility.sees w.mode (w.exchange recipe).state

/-- The workshop once the exchange is carried out and the success is announced. -/
def applied (w : Workshop σ ι ω) (recipe : Option Recipe) : Workshop σ ι ω :=
  { w with
    inventory := (w.exchange recipe).state
    bus := w.bus.told (Outcome.announcements ⟨true, craftedMessage, recipe⟩) }

section Applied

variable {w : Workshop σ ι ω} {made : Recipe} (happlies : w.Applies (some made))

include happlies

/-- Where the name of what was made cannot be shown, the exchange stays and nothing is told. -/
theorem craft_of_unnamed {failure : Failure} (hname : w.nameOf made.result = .error failure) :
    (craft (some made) w).value = .error failure ∧
      (craft (some made) w).state = { w with inventory := (w.exchange (some made)).state } := by
  obtain ⟨hattempt, hafter⟩ := attemptCraft_of_ready_ok happlies.1 happlies.2
  rw [if_pos rfl] at hattempt
  have htext : (attemptCraft (some made) w).state.outcomeText ⟨true, craftedMessage, some made⟩ = .error failure := by
    rw [outcomeText_of_success, hafter]
    exact Result.map_eq_error_iff.2 hname
  obtain ⟨hvalue, hstate⟩ := announceOutcome_of_untold htext
  obtain ⟨hcraft, hlast⟩ := craft_of_untold hattempt hvalue
  exact ⟨hcraft, hlast.trans (hstate.trans hafter)⟩

/-- Else a craft goes as its refreshing goes. -/
theorem craft_of_named [Audience.Candid ι Notice ω] {name : String} (hname : w.nameOf made.result = .ok name) :
    (craft (some made) w).value =
        (refresh (w.applied (some made))).value.map (fun _ => ⟨true, craftedMessage, some made⟩) ∧
      (craft (some made) w).state = (refresh (w.applied (some made))).state := by
  obtain ⟨hattempt, hafter⟩ := attemptCraft_of_ready_ok happlies.1 happlies.2
  rw [if_pos rfl] at hattempt
  have htext : ∃ words, (attemptCraft (some made) w).state.outcomeText ⟨true, craftedMessage, some made⟩ = .ok words := by
    rw [outcomeText_of_success, hafter]
    exact ⟨_, Result.map_eq_ok_iff.2 ⟨name, hname, rfl⟩⟩
  have hcraft := craft_of_success hattempt (announceOutcome_value htext) rfl
  rw [hafter] at hcraft
  exact hcraft

end Applied

/-! ## What a craft keeps -/

omit [DecidableEq ι] [Audience ι Notice ω] [Inventory σ] in
theorem onInventory_keeps {α : Type} {holds : σ → Prop} {act : Act σ α} (h : Act.Keeps holds act) :
    Act.Keeps (fun w : Workshop σ ι ω => holds w.inventory) (onInventory act) :=
  fun w hw => h w.inventory hw

omit [Inventory σ] in
theorem announce_keeps (holds : σ → Prop) (notice : Notice) :
    Act.Keeps (fun w : Workshop σ ι ω => holds w.inventory) (announce notice) :=
  fun _ hw => hw

omit [Inventory σ] in
theorem announceOutcome_keeps_of {holds : Workshop σ ι ω → Prop} {outcome : Outcome}
    (hnotice : Act.Keeps holds (announce outcome.notice)) (hcue : Act.Keeps holds (announce (.cue outcome.sound))) :
    Act.Keeps holds (announceOutcome outcome) :=
  Act.Keeps.bind (fun _ hw => hw) fun _ => (Act.Keeps.report _ _).bind fun _ => hnotice.bind fun _ => hcue

/-- A craft judges, exchanges, tells how it went and refreshes, and keeps what each of these keeps. -/
theorem craft_keeps_of {holds : Workshop σ ι ω → Prop} {recipe : Option Recipe}
    (hjudge : Act.Keeps holds (judge recipe)) (hexchange : Act.Keeps holds (onInventory (Exchange.run recipe)))
    (htold : ∀ outcome, Act.Keeps holds (announceOutcome outcome)) (hrefresh : Act.Keeps holds refresh) :
    Act.Keeps holds (craft recipe) := by
  have hattempt : Act.Keeps holds (attemptCraft recipe) := by
    refine hjudge.bind fun verdict => .ite (Act.Keeps.bind (fun _ hw => hw) fun _ => .pure _) ?_
    exact hexchange.bind fun _ => .ite (.pure _) (.pure _)
  refine hattempt.bind fun outcome => (htold outcome).bind fun _ => ?_
  exact .ite (hrefresh.bind fun _ => .pure _) (.pure _)

/-- A craft keeps whatever the calls of its inventory keep. -/
theorem craft_keeps {holds : σ → Prop} (h : Inventory.CallsKeep holds) (recipe : Option Recipe) :
    Act.Keeps (fun w : Workshop σ ι ω => holds w.inventory) (craft recipe) := by
  have hrefresh : Act.Keeps (fun w : Workshop σ ι ω => holds w.inventory) refresh := by
    refine Act.Keeps.bind (fun _ hw => hw) fun w => ?_
    have hrebuild := Catalog.rebuild_keeps (Visibility.sees_keeps h.toReadsKeep w.visibility) w.registry w.mode
    refine (onInventory_keeps hrebuild).bind fun recipes => Act.Keeps.bind (fun _ hw => hw) fun _ => ?_
    exact (announce_keeps holds _).bind fun _ => .pure _
  exact craft_keeps_of (Act.Keeps.bind (fun _ hw => hw) fun w =>
      onInventory_keeps (Verdict.judge_keeps h.toReadsKeep (some w.registry) recipe))
    (onInventory_keeps (Exchange.run_keeps h recipe))
    (fun _ => announceOutcome_keeps_of (announce_keeps holds _) (announce_keeps holds _)) hrefresh

/-! ## Failures let through -/

/-- The failures that a craft lets through: while the exchange looks again at what is there, while the catalog is
rebuilt after a success, and where something cannot be written in a report, on a failed check, on the exchange or on the
success. -/
inductive LetsThrough (w : Workshop σ ι ω) (recipe : Option Recipe) (failure : Failure) : Prop where
  | looking {made : Recipe} (hrecipe : recipe = some made)
      (hready : (Verdict.judge (some w.registry) recipe w.inventory).value = .ok .ready)
      (hfails : (Exchange.isAvailable made (w.judged recipe)).value = .error failure)
  | refreshing {made : Recipe} {name : String} (hrecipe : recipe = some made) (happlies : w.Applies recipe)
      (hname : w.nameOf made.result = .ok name) (hfails : (w.rebuilt recipe).value = .error failure)
  | judging {made : Recipe} {cause : Failure} (hrecipe : recipe = some made) (hwrite : ¬made.result.Writable)
      (hfails : (Verdict.check (some w.registry) recipe w.inventory).value = .error cause)
      (hfailure : failure = .unwritable)
  | exchanging {made : Recipe} (hrecipe : recipe = some made)
      (hready : (Verdict.judge (some w.registry) recipe w.inventory).value = .ok .ready)
      (hwrite : Exchange.Unreported made (w.judged recipe)) (hfailure : failure = .unwritable)
  | telling {made : Recipe} (hrecipe : recipe = some made) (happlies : w.Applies recipe)
      (hfails : w.nameOf made.result = .error failure)

/-- What was announced of crafts. -/
def craftsOf (announced : List (String × Notice)) : List (String × Notice) :=
  announced.filter fun entry => entry.1 = Topic.craftSucceeded ∨ entry.1 = Topic.craftBlocked

theorem craftsOf_append (before after : List (String × Notice)) :
    craftsOf (before ++ after) = craftsOf before ++ craftsOf after :=
  List.filter_append _ _

theorem craftsOf_announcements (outcome : Outcome) :
    craftsOf outcome.announcements = [(outcome.notice.topic, outcome.notice)] := by
  obtain ⟨success, message, recipe⟩ := outcome
  cases success <;> rfl

theorem craftsOf_refreshed (recipes : List Recipe) : craftsOf [(Topic.catalogRefreshed, .refreshed recipes)] = [] :=
  rfl

variable [Inventory.Candid σ] [Audience.Candid ι Notice ω] {w : Workshop σ ι ω} {recipe : Option Recipe}

theorem craft_of_letsThrough {failure : Failure} (h : w.LetsThrough recipe failure) :
    (craft recipe w).value = .error failure := by
  have hexchanging {made : Recipe} (hrecipe : recipe = some made)
      (hready : (Verdict.judge (some w.registry) recipe w.inventory).value = .ok .ready)
      (hfails : (Exchange.isAvailable made (w.judged recipe)).value = .error failure ∨
        failure = .unwritable ∧ Exchange.Unreported made (w.judged recipe)) :
      (craft recipe w).value = .error failure := by
    -- A recipe found ready has materials, so the exchange does look.
    subst hrecipe
    obtain ⟨other, hother, hmaterials⟩ := Verdict.materials_of_ready hready
    cases hother
    have hexchange : (w.exchange (some made)).value = .error failure := (Exchange.run_eq_error_iff hmaterials).2 hfails
    exact (craft_of_error (attemptCraft_of_ready_error hready hexchange).1).1
  cases h with
  | looking hrecipe hready hfails => exact hexchanging hrecipe hready (.inl hfails)
  | exchanging hrecipe hready hwrite hfailure => exact hexchanging hrecipe hready (.inr ⟨hfailure, hwrite⟩)
  | judging hrecipe hwrite hfails hfailure =>
      have hjudge := Verdict.judge_eq_error_iff.2 ⟨hfailure, ⟨_, hfails⟩, _, hrecipe, hwrite⟩
      exact (craft_of_error (attemptCraft_of_unjudged hjudge).1).1
  | telling hrecipe happlies hfails =>
      subst hrecipe
      exact (craft_of_unnamed happlies hfails).1
  | @refreshing made name hrecipe happlies hname hfails =>
      subst hrecipe
      rw [(craft_of_named happlies hname).1, (refresh_of_error (w := w.applied (some made)) hfails).1]
      rfl

/-- A craft fails of a failure that it lets through, or else announces its outcome. -/
theorem craft_settles (w : Workshop σ ι ω) (recipe : Option Recipe) :
    match (craft recipe w).value with
    | .error failure => w.LetsThrough recipe failure
    | .ok outcome => craftsOf (craft recipe w).state.bus.announced =
        craftsOf w.bus.announced ++ [(outcome.notice.topic, outcome.notice)] := by
  -- What is blocked is told, and that is all.
  have hblocked {outcome : Outcome} {inventory : σ} (hattempt : (attemptCraft recipe w).value = .ok outcome)
      (hafter : (attemptCraft recipe w).state = { w with inventory }) (hsuccess : outcome.success = false) :
      (craft recipe w).value = .ok outcome ∧ craftsOf (craft recipe w).state.bus.announced =
        craftsOf w.bus.announced ++ [(outcome.notice.topic, outcome.notice)] := by
    have htold := announceOutcome_value (exists_outcomeText_of_blocked (attemptCraft recipe w).state hsuccess)
    obtain ⟨hvalue, hstate⟩ := craft_of_blocked hattempt htold hsuccess
    refine ⟨hvalue, ?_⟩
    rw [hstate, hafter]
    simp only [EventBus.told_announced, craftsOf_append, craftsOf_announcements]
  cases hjudge : (Verdict.judge (some w.registry) recipe w.inventory).value with
  | error failure =>
      rw [(craft_of_error (attemptCraft_of_unjudged hjudge).1).1]
      obtain ⟨hfailure, ⟨cause, hfails⟩, made, hrecipe, hwrite⟩ := Verdict.judge_eq_error_iff.1 hjudge
      exact .judging hrecipe hwrite hfails hfailure
  | ok verdict =>
      by_cases hready : verdict = .ready
      · subst hready
        obtain ⟨made, rfl, hmaterials⟩ := Verdict.materials_of_ready hjudge
        cases hexchange : (w.exchange (some made)).value with
        | error failure =>
            rw [(craft_of_error (attemptCraft_of_ready_error hjudge hexchange).1).1]
            obtain hfails | ⟨hfailure, hwrite⟩ := (Exchange.run_eq_error_iff hmaterials).1 hexchange
            · exact .looking rfl hjudge hfails
            · exact .exchanging rfl hjudge hwrite hfailure
        | ok ending =>
            by_cases happlied : ending = .applied
            · subst happlied
              have happlies : w.Applies (some made) := ⟨hjudge, hexchange⟩
              cases hname : w.nameOf made.result with
              | error failure =>
                  rw [(craft_of_unnamed happlies hname).1]
                  exact .telling rfl happlies hname
              | ok name =>
                  obtain ⟨hvalue, hstate⟩ := craft_of_named happlies hname
                  cases hrebuilt : (w.rebuilt (some made)).value with
                  | error failure =>
                      rw [hvalue, (refresh_of_error (w := w.applied (some made)) hrebuilt).1]
                      exact .refreshing rfl happlies hname hrebuilt
                  | ok recipes =>
                      obtain ⟨hrefreshed, hlast⟩ := refresh_of_ok (w := w.applied (some made)) hrebuilt
                      rw [hvalue, hrefreshed, hstate, hlast]
                      -- The refreshed catalog is announced behind the outcome, and is no announcement of a craft.
                      simp only [Except.map, applied, EventBus.told_announced, craftsOf_append, craftsOf_announcements,
                        craftsOf_refreshed, List.append_nil]
            · obtain ⟨hattempt, hafter⟩ := attemptCraft_of_ready_ok hjudge hexchange
              rw [if_neg happlied] at hattempt
              obtain ⟨hvalue, htold⟩ := hblocked hattempt hafter rfl
              rw [hvalue]
              exact htold
      · obtain ⟨hattempt, hafter⟩ := attemptCraft_of_not_ready hjudge hready
        obtain ⟨hvalue, htold⟩ := hblocked hattempt hafter rfl
        rw [hvalue]
        exact htold

/-- A craft answers with an outcome and announces it once, unless it lets a failure through; and it fails of just the
failures that it lets through. -/
theorem craft_answers_iff (w : Workshop σ ι ω) (recipe : Option Recipe) :
    ((∃ outcome, (craft recipe w).value = .ok outcome ∧
      craftsOf (craft recipe w).state.bus.announced =
        craftsOf w.bus.announced ++ [(outcome.notice.topic, outcome.notice)]) ↔
      ¬∃ failure, w.LetsThrough recipe failure) ∧
    ∀ failure, (craft recipe w).value = .error failure ↔ w.LetsThrough recipe failure := by
  have hsettles := craft_settles w recipe
  have herror : ∀ failure, (craft recipe w).value = .error failure ↔ w.LetsThrough recipe failure := by
    refine fun failure => ⟨fun h => ?_, craft_of_letsThrough⟩
    rw [h] at hsettles
    exact hsettles
  refine ⟨⟨?_, fun hnone => ?_⟩, herror⟩
  · -- An act has one value: what answers lets nothing through.
    rintro ⟨outcome, hvalue, -⟩ ⟨failure, hfailure⟩
    rw [craft_of_letsThrough hfailure] at hvalue
    cases hvalue
  · cases hvalue : (craft recipe w).value with
    | error failure => exact absurd ⟨failure, (herror failure).1 hvalue⟩ hnone
    | ok outcome =>
        rw [hvalue] at hsettles
        exact ⟨outcome, rfl, hsettles⟩

end Workshop

/-! ## A shop -/

namespace Sample

/-- Nobody listens. -/
instance : Audience Empty Notice Unit where
  react who := nomatch who

def shop (inventory : Faulty Party) (items : List Entity) : Workshop (Faulty Party) Empty Unit where
  registry := { items }
  inventory
  bus := { world := () }

instance : Audience.Candid Empty Notice Unit where
  ending who := nomatch who

/-- The bag sticks when the exchange looks again, three looks after the judge's first. -/
def stuckShop : Workshop (Faulty Party) Empty Unit :=
  shop ⟨party 2, [(.quantityOf, [(3, none), (1, some "bag stuck")])]⟩ []

open Workshop

/-- The failure is let through, and there is no answer and no announcement. -/
theorem stuck_bag_unanswered :
    stuckShop.LetsThrough (some potion) (.refused "bag stuck") ∧
      ¬∃ outcome, (craft (some potion) stuckShop).value = .ok outcome ∧
        craftsOf (craft (some potion) stuckShop).state.bus.announced =
          craftsOf stuckShop.bus.announced ++ [(outcome.notice.topic, outcome.notice)] := by
  have hlets : stuckShop.LetsThrough (some potion) (.refused "bag stuck") := .looking rfl rfl rfl
  refine ⟨hlets, fun hanswers => ?_⟩
  exact (craft_answers_iff stuckShop (some potion)).1.1 hanswers ⟨_, hlets⟩

end Sample

end Crafting
