import Crafting.Proofs.Availability
import Crafting.Proofs.Catalog
import Crafting.Proofs.Craft

/-!
# Crafting from a party's inventory

Where no call fails, a craft carries out exactly one whole exchange or leaves the party as it is, and whether it does is
a matter of what the party holds, owns and can pay. A judge that finds a recipe ready may still be wrong about that.
-/

namespace Crafting

theorem Visibility.sees_looks (visibility : Visibility) (party : Party) (recipe : Recipe) :
    Act.Looks (⟨party, .clear⟩ : Faulty Party) (visibility.sees recipe) := by
  cases visibility with
  | requirement =>
      simp only [sees]
      split
      · exact .pure _
      · rename_i ref _
        exact ⟨⟨_, congrArg Run.value (Party.run_has party ref)⟩, congrArg Run.state (Party.run_has party ref)⟩
  | only accepts => exact .pure _

/-- With entities named once each, a judge that looks at each material on its own misses nothing. -/
theorem Party.Meets.covers {party : Party} {recipe : Recipe} (h : party.Meets recipe)
    (hdistinct : (recipe.materials.map (·.ref)).Nodup) : party.Covers recipe where
  materials m hm := by
    rw [Recipe.need_eq, neededOf_eq_quantity hdistinct hm]
    exact h.materials m hm
  cost := h.cost

namespace Workshop

variable {ι ω : Type} [DecidableEq ι] [Audience ι Notice ω]

/-! ## Where no call fails -/

section Clear

variable {w : Workshop (Faulty Party) ι ω} {party : Party} (hinventory : w.inventory = ⟨party, .clear⟩)

include hinventory

omit [DecidableEq ι] [Audience ι Notice ω] in
theorem judged_clear (recipe : Option Recipe) : w.judged recipe = ⟨party, .clear⟩ := by
  unfold judged
  rw [hinventory]
  exact Verdict.judge_clear_state party (some w.registry) recipe

omit [DecidableEq ι] [Audience ι Notice ω] in
theorem judge_clear_eq_ready_iff {recipe : Option Recipe} :
    (Verdict.judge (some w.registry) recipe w.inventory).value = .ok .ready ↔
      ∃ made, recipe = some made ∧ party.Meets made := by
  rw [hinventory]
  exact Verdict.judge_clear_eq_ready_iff party (some w.registry) recipe

omit [DecidableEq ι] [Audience ι Notice ω] in
/-- Where no call fails, the exchange is carried out on what passes the judge and is covered, if it can report that. -/
theorem applies_clear_iff {recipe : Option Recipe} :
    w.Applies recipe ↔ ∃ made, recipe = some made ∧ party.Meets made ∧ party.Covers made ∧ made.Reportable := by
  rw [Applies, judge_clear_eq_ready_iff hinventory, exchange, judged_clear hinventory, Exchange.run_eq_applied_iff]
  constructor
  · rintro ⟨⟨made, rfl, hmeets⟩, other, hother, -, hcovers, hreport⟩
    cases hother
    exact ⟨made, rfl, hmeets, hcovers, hreport⟩
  · rintro ⟨made, rfl, hmeets, hcovers, hreport⟩
    exact ⟨⟨made, rfl, hmeets⟩, made, rfl, hmeets.materials_ne_nil, hcovers, hreport⟩

/-- What a craft answers that the party falls short of. -/
def refusal (w : Workshop (Faulty Party) ι ω) (party : Party) (recipe : Option Recipe) : Outcome :=
  let verdict := party.verdict (some w.registry) recipe
  ⟨false, if verdict = .ready then cannotCraft else w.reason verdict, recipe⟩

/-- How a craft goes on a party whose calls all pass. -/
inductive Crafted (w : Workshop (Faulty Party) ι ω) (party : Party) (recipe : Option Recipe)
    (run : Run (Workshop (Faulty Party) ι ω) Outcome) : Prop where
  /-- Something is missing. Only the refusal is announced. -/
  | refused (hshort : ¬∃ made, recipe = some made ∧ party.Meets made ∧ party.Covers made)
      (happlies : ¬w.Applies recipe) (hvalue : run.value = .ok (w.refusal party recipe))
      (hstate : run.state = { w with bus := w.bus.told (w.refusal party recipe).announcements })
  /-- The exchange is carried out and the catalog rebuilt after it. -/
  | listed {made : Recipe} {after : Party} {recipes : List Recipe} (hrecipe : recipe = some made)
      (hmeets : party.Meets made) (hcovers : party.Covers made) (happlies : w.Applies recipe)
      (hreports : w.Reports recipe) (hexchanged : party.Exchanged made after)
      (hreadable : Catalog.Readable w.registry w.mode)
      (hbuilt : (Catalog.build w.registry w.visibility.sees w.mode (⟨after, .clear⟩ : Faulty Party)).value = .ok recipes)
      (hvalue : run.value = .ok ⟨true, craftedMessage, recipe⟩)
      (hstate : run.state = { w with
        inventory := ⟨after, .clear⟩
        recipes
        bus := w.bus.told (Outcome.announcements ⟨true, craftedMessage, recipe⟩ ++
          [(Topic.catalogRefreshed, .refreshed recipes)]) })
  /-- The exchange is carried out, but the catalog cannot be rebuilt. -/
  | unlisted {made : Recipe} {after : Party} {failure : Failure} (hrecipe : recipe = some made)
      (hmeets : party.Meets made) (hcovers : party.Covers made) (happlies : w.Applies recipe)
      (hreports : w.Reports recipe) (hexchanged : party.Exchanged made after)
      (hunreadable : ¬Catalog.Readable w.registry w.mode) (hvalue : run.value = .error failure)
      (hstate : run.state = { w with
        inventory := ⟨after, .clear⟩
        bus := w.bus.told (Outcome.announcements ⟨true, craftedMessage, recipe⟩) })
  /-- Something is missing, and that cannot be reported, or a subscriber leaves who is told of it. -/
  | untold {bus : EventBus ι Notice ω} {failure : Failure}
      (hshort : ¬∃ made, recipe = some made ∧ party.Meets made ∧ party.Covers made)
      (hreports : Audience.Candid ι Notice ω → ¬w.Reports recipe) (hvalue : run.value = .error failure)
      (hstate : run.state = { w with bus })
  /-- The exchange is carried out, and that cannot be reported, or a subscriber leaves who is told of it. -/
  | unreported {made : Recipe} {after : Party} {recipes : List Recipe} {bus : EventBus ι Notice ω} {failure : Failure}
      (hrecipe : recipe = some made) (hmeets : party.Meets made) (hcovers : party.Covers made)
      (hreports : Audience.Candid ι Notice ω → ¬w.Reports recipe) (hexchanged : party.Exchanged made after)
      (hvalue : run.value = .error failure)
      (hstate : run.state = { w with inventory := ⟨after, .clear⟩, recipes, bus })

/-- A craft that attempts no exchange, or none that is carried out, is told of and changes nothing. -/
theorem crafted_of_blocked {recipe : Option Recipe}
    (hshort : ¬∃ made, recipe = some made ∧ party.Meets made ∧ party.Covers made)
    (hattempt : (attemptCraft recipe w).value = .ok (w.refusal party recipe))
    (hafter : (attemptCraft recipe w).state = w) : Crafted w party recipe (craft recipe w) := by
  have happlies : ¬w.Applies recipe := by
    rw [applies_clear_iff hinventory]
    exact fun ⟨made, hrecipe, hmeets, hcovers, _⟩ => hshort ⟨made, hrecipe, hmeets, hcovers⟩
  cases htold : (announceOutcome (w.refusal party recipe) (attemptCraft recipe w).state).value with
  | ok u =>
      obtain ⟨hvalue, hstate⟩ := craft_of_blocked hattempt htold rfl
      rw [hafter] at hstate
      exact .refused hshort happlies hvalue hstate
  | error failure =>
      obtain ⟨hvalue, hstate⟩ := craft_of_untold hattempt htold
      obtain ⟨bus, hbus⟩ := announceOutcome_frame (w.refusal party recipe) w
      rw [hafter, hbus] at hstate
      refine .untold hshort (fun _ _ => ?_) hvalue hstate
      rw [announceOutcome_value (exists_outcomeText_of_blocked _ rfl)] at htold
      cases htold

omit hinventory in
/-- An exchange that was carried out and told of: then all hangs on the catalog. -/
theorem crafted_of_told {made : Recipe} {after : Party} (hmeets : party.Meets made) (hcovers : party.Covers made)
    (happlies : w.Applies (some made)) (hreports : w.Reports (some made)) (hexchanged : party.Exchanged made after)
    (hattempt : (attemptCraft (some made) w).value = .ok ⟨true, craftedMessage, some made⟩)
    (hattempted : (attemptCraft (some made) w).state = { w with inventory := ⟨after, .clear⟩ })
    (htold : ∃ u, (announceOutcome ⟨true, craftedMessage, some made⟩ (attemptCraft (some made) w).state).value = .ok u) :
    Crafted w party (some made) (craft (some made) w) := by
  obtain ⟨u, htold⟩ := htold
  obtain ⟨hvalue, hstate⟩ := craft_of_success hattempt htold rfl
  rw [hattempted] at hvalue hstate
  let told : Workshop (Faulty Party) ι ω := { w with
    inventory := ⟨after, .clear⟩
    bus := w.bus.told (Outcome.announcements ⟨true, craftedMessage, some made⟩) }
  have hsees : ∀ recipe, Act.Looks told.inventory (told.visibility.sees recipe) :=
    fun recipe => w.visibility.sees_looks after recipe
  by_cases hreadable : Catalog.Readable w.registry w.mode
  · obtain ⟨⟨recipes, hrecipes⟩, hsame⟩ := Catalog.rebuild_looks hsees hreadable
    obtain ⟨hanswers, hrefreshed⟩ := refresh_of_rebuilt (w := told) hrecipes
    rw [hrefreshed, hsame] at hstate
    rcases hanswers with hanswer | ⟨failure, hfailure⟩
    · rw [hanswer] at hvalue
      refine .listed rfl hmeets hcovers happlies hreports hexchanged hreadable
        (Catalog.rebuild_eq_ok_iff.1 hrecipes) hvalue (hstate.trans ?_)
      rw [EventBus.told_append]
    -- The catalog is rebuilt, and someone leaves who is told of that.
    · rw [hfailure] at hvalue
      refine .unreported rfl hmeets hcovers (fun _ _ => ?_) hexchanged hvalue hstate
      cases hfailure.symm.trans (refresh_of_ok (w := told) hrecipes).1
  · obtain ⟨⟨failure, hfailure⟩, hsame⟩ := Catalog.rebuild_stops hsees hreadable
    obtain ⟨hfails, hrefreshed⟩ := refresh_of_error (w := told) hfailure
    rw [hfails] at hvalue
    rw [hrefreshed, hsame] at hstate
    exact .unlisted rfl hmeets hcovers happlies hreports hexchanged hreadable hvalue hstate

/-- An exchange that was carried out is told of, if the name of its result can be shown and nobody leaves meanwhile. -/
theorem crafted_of_applied {made : Recipe} {after : Party} (hmeets : party.Meets made) (hcovers : party.Covers made)
    (happlies : w.Applies (some made)) (hexchanged : party.Exchanged made after)
    (hafter : (w.exchange (some made)).state = ⟨after, .clear⟩) : Crafted w party (some made) (craft (some made) w) := by
  have hreportable : made.Reportable := by
    obtain ⟨other, hother, -, -, hreport⟩ := (applies_clear_iff hinventory).1 happlies
    cases hother
    exact hreport
  cases hname : w.nameOf made.result with
  | error failure =>
      obtain ⟨hvalue, hstate⟩ := craft_of_unnamed happlies hname
      rw [hafter] at hstate
      refine .unreported rfl hmeets hcovers (fun _ hreports => ?_) hexchanged hvalue hstate
      obtain ⟨-, name, hok⟩ := hreports made rfl
      cases hname.symm.trans hok
  | ok name =>
      have hreports : w.Reports (some made) := by
        rintro _ ⟨⟩
        exact ⟨hreportable, name, hname⟩
      obtain ⟨hattempt, hattempted⟩ := attemptCraft_of_ready_ok happlies.1 happlies.2
      rw [if_pos rfl] at hattempt
      rw [hafter] at hattempted
      cases htold : (announceOutcome ⟨true, craftedMessage, some made⟩ (attemptCraft (some made) w).state).value with
      | ok u =>
          exact crafted_of_told hmeets hcovers happlies hreports hexchanged hattempt hattempted ⟨u, htold⟩
      | error failure =>
          obtain ⟨hvalue, hstate⟩ := craft_of_untold hattempt htold
          obtain ⟨bus, hbus⟩ :=
            announceOutcome_frame ⟨true, craftedMessage, some made⟩ (attemptCraft (some made) w).state
          rw [hbus, hattempted] at hstate
          refine .unreported rfl hmeets hcovers (fun _ _ => ?_) hexchanged hvalue hstate
          -- If nobody leaves, only the name could have kept it from being told.
          rw [announceOutcome_value] at htold
          · cases htold
          · rw [outcomeText_of_success, hattempted]
            exact ⟨_, Result.map_eq_ok_iff.2 ⟨name, hname, rfl⟩⟩

theorem craft_crafted (recipe : Option Recipe) : Crafted w party recipe (craft recipe w) := by
  have hjudged := judged_clear hinventory recipe
  cases hjudge : (Verdict.judge (some w.registry) recipe w.inventory).value with
  | error failure =>
      obtain ⟨hattempt, hafter⟩ := attemptCraft_of_unjudged hjudge
      obtain ⟨hvalue, hstate⟩ := craft_of_error hattempt
      refine .untold ?_ (fun _ hreports => ?_) hvalue (hstate.trans (hafter.trans (by rw [hjudged, ← hinventory])))
      · rintro ⟨made, hrecipe, hmeets, -⟩
        cases hjudge.symm.trans ((judge_clear_eq_ready_iff hinventory).2 ⟨made, hrecipe, hmeets⟩)
      obtain ⟨-, -, made, hrecipe, hwrite⟩ := Verdict.judge_eq_error_iff.1 hjudge
      exact hwrite (hreports made hrecipe).1.result
  | ok verdict =>
      have hverdict : verdict = party.verdict (some w.registry) recipe := by
        rw [hinventory] at hjudge
        exact Verdict.judge_clear_of_ok party (some w.registry) recipe hjudge
      by_cases hready : verdict = .ready
      · subst hready
        obtain ⟨made, rfl, hmeets⟩ := (judge_clear_eq_ready_iff hinventory).1 hjudge
        have hexchange : w.exchange (some made) = Exchange.run (some made) (⟨party, .clear⟩ : Faulty Party) := by
          rw [exchange, hjudged]
        by_cases hcovers : party.Covers made
        · obtain ⟨after, hexchanged, hrun, hafter⟩ := Exchange.run_of_covers hmeets.materials_ne_nil hcovers
          rw [← hexchange] at hrun hafter
          cases htext : Exchange.appliedText made with
          | ok words =>
              rw [htext] at hrun
              exact crafted_of_applied hinventory hmeets hcovers ⟨hjudge, hrun⟩ hexchanged hafter
          | error failure =>
              -- The exchange stays, although it fails where it is to be reported.
              rw [htext] at hrun
              obtain ⟨hattempt, hattempted⟩ := attemptCraft_of_ready_error hjudge hrun
              obtain ⟨hvalue, hstate⟩ := craft_of_error hattempt
              rw [hattempted, hafter] at hstate
              refine .unreported rfl hmeets hcovers (fun _ hreports => ?_) hexchanged hvalue hstate
              obtain ⟨words, hwords⟩ := Exchange.exists_appliedText_iff.2 (hreports made rfl).1
              cases htext.symm.trans hwords
        · -- The judge is content, so it is the exchange that finds too little.
          obtain ⟨hrun, hsame⟩ := Exchange.run_of_not_covers hmeets.materials_ne_nil hcovers
          rw [← hexchange] at hrun hsame
          have hshort : ¬∃ other, some made = some other ∧ party.Meets other ∧ party.Covers other := by
            rintro ⟨_, ⟨⟩, -, hcovered⟩
            exact hcovers hcovered
          cases htext : Exchange.unavailableText made with
          | ok words =>
              rw [htext] at hrun
              obtain ⟨hattempt, hafter⟩ := attemptCraft_of_ready_ok hjudge hrun
              rw [hsame, ← hinventory] at hafter
              refine crafted_of_blocked hinventory hshort (hattempt.trans ?_) hafter
              rw [refusal, ← hverdict, if_pos rfl]
              rfl
          | error failure =>
              rw [htext] at hrun
              obtain ⟨hattempt, hafter⟩ := attemptCraft_of_ready_error hjudge hrun
              obtain ⟨hvalue, hstate⟩ := craft_of_error hattempt
              rw [hafter, hsame, ← hinventory] at hstate
              refine .untold hshort (fun _ hreports => ?_) hvalue hstate
              obtain ⟨words, hwords⟩ := Exchange.exists_unavailableText_iff.2 (hreports made rfl).1.result
              cases htext.symm.trans hwords
      · obtain ⟨hattempt, hafter⟩ := attemptCraft_of_not_ready hjudge hready
        rw [hjudged, ← hinventory] at hafter
        refine crafted_of_blocked hinventory ?_ (hattempt.trans ?_) hafter
        · rintro ⟨made, hrecipe, hmeets, -⟩
          have hjudgedReady := (judge_clear_eq_ready_iff hinventory).2 ⟨made, hrecipe, hmeets⟩
          exact hready (Except.ok.inj (hjudge.symm.trans hjudgedReady))
        · rw [refusal, ← hverdict, if_neg hready]

/-- What passes the judge and is covered is made, and then all hangs on the reports and on the notes. -/
theorem craft_of_covers {made : Recipe} (hmeets : party.Meets made) (hcovers : party.Covers made) :
    party.Exchanged made (craft (some made) w).state.inventory.store ∧
      (Audience.Candid ι Notice ω → w.Reports (some made) → Catalog.Readable w.registry w.mode →
        (craft (some made) w).value = .ok ⟨true, craftedMessage, some made⟩) := by
  cases craft_crafted hinventory (some made) with
  | refused hshort => exact absurd ⟨made, rfl, hmeets, hcovers⟩ hshort
  | listed hrecipe _ _ _ _ hexchanged _ _ hvalue hstate =>
      cases hrecipe
      rw [hstate]
      exact ⟨hexchanged, fun _ _ _ => hvalue⟩
  | unlisted hrecipe _ _ _ _ hexchanged hunreadable _ hstate =>
      cases hrecipe
      rw [hstate]
      exact ⟨hexchanged, fun _ _ h => absurd h hunreadable⟩
  | untold hshort => exact absurd ⟨made, rfl, hmeets, hcovers⟩ hshort
  | unreported hrecipe _ _ hreports hexchanged _ hstate =>
      cases hrecipe
      rw [hstate]
      exact ⟨hexchanged, fun hcandid h => absurd h (hreports hcandid)⟩

/-- What does not pass the judge, or is not covered, leaves everything as it is. -/
theorem craft_of_not_covers {recipe : Option Recipe}
    (h : ¬∃ made, recipe = some made ∧ party.Meets made ∧ party.Covers made) :
    (craft recipe w).state.inventory = w.inventory ∧ (craft recipe w).state.recipes = w.recipes ∧
      (Audience.Candid ι Notice ω → w.Reports recipe → (craft recipe w).value = .ok (w.refusal party recipe)) := by
  cases craft_crafted hinventory recipe with
  | refused _ _ hvalue hstate =>
      rw [hstate]
      exact ⟨rfl, rfl, fun _ _ => hvalue⟩
  | untold _ hreports _ hstate =>
      rw [hstate]
      exact ⟨rfl, rfl, fun hcandid hreport => absurd hreport (hreports hcandid)⟩
  | listed hrecipe hmeets hcovers => exact absurd ⟨_, hrecipe, hmeets, hcovers⟩ h
  | unlisted hrecipe hmeets hcovers => exact absurd ⟨_, hrecipe, hmeets, hcovers⟩ h
  | unreported hrecipe hmeets hcovers => exact absurd ⟨_, hrecipe, hmeets, hcovers⟩ h

/-- A craft succeeds just when the judge finds nothing, there is enough of everything, all can be reported and the notes
can be read. -/
theorem craft_succeeds_iff [Audience.Candid ι Notice ω] {recipe : Option Recipe} :
    (∃ outcome, (craft recipe w).value = .ok outcome ∧ outcome.success = true) ↔
      (∃ made, recipe = some made ∧ party.Meets made ∧ party.Covers made) ∧ w.Reports recipe ∧
        Catalog.Readable w.registry w.mode := by
  constructor
  · rintro ⟨outcome, houtcome, hsuccess⟩
    cases craft_crafted hinventory recipe with
    | refused _ _ hvalue =>
        cases houtcome.symm.trans hvalue
        cases hsuccess
    | listed hrecipe hmeets hcovers _ hreports _ hreadable =>
        exact ⟨⟨_, hrecipe, hmeets, hcovers⟩, hreports, hreadable⟩
    | unlisted _ _ _ _ _ _ _ hvalue => cases houtcome.symm.trans hvalue
    | untold _ _ hvalue => cases houtcome.symm.trans hvalue
    | unreported _ _ _ _ _ hvalue => cases houtcome.symm.trans hvalue
  · rintro ⟨⟨made, rfl, hmeets, hcovers⟩, hreports, hreadable⟩
    exact ⟨_, (craft_of_covers hinventory hmeets hcovers).2 inferInstance hreports hreadable, rfl⟩

end Clear

/-! ## Crafts -/

end Workshop

namespace Sample

open Workshop

theorem covers_potion : (party 2).Covers potion :=
  ⟨by decide, by decide⟩

theorem canMake_potion : (party 2).CanMake potion := by
  refine (Party.canMake_iff (reachable_party (by decide)).positive).2 ⟨.of_covers ?_ covers_potion ?_, covers_potion⟩
  · exact List.cons_ne_nil _ _
  · exact fun _ h => nomatch h

theorem reports_potion (w : Workshop (Faulty Party) Empty Unit) (h : w.registry.get? potion.result = none) :
    w.Reports (some potion) := by
  rintro _ ⟨⟩
  refine ⟨⟨by decide, by decide⟩, unknownName, ?_⟩
  rw [nameOf, shownName, Registry.nameOf, h]
  rfl

/-- A party whose purse has a cap below zero. -/
def debtor : Party where
  held := [(herb, 1)]
  gold := -5
  maxGold := -5

def tea : Recipe where
  result := ⟨.item, 2, by decide⟩
  materials := [⟨herb, 1, Nat.one_pos⟩]

/-- An item whose note is no text. -/
def scroll : Entity where
  ref := ⟨.item, 3, by decide⟩
  name := .string "Scroll"
  note := .whole 5

theorem reachable_debtor : debtor.Reachable := by
  have hpurse : Party.Reachable { gold := -5, maxGold := -5 } := .made (show Party.make 0 (-5) = .ok _ from rfl)
  exact hpurse.changed (show Party.apply _ (.add herb 1) = .ok _ from rfl)

theorem unreadable_scroll : ¬Catalog.Readable (shop ⟨party 2, .clear⟩ [scroll]).registry .every := by
  intro h
  obtain ⟨⟨recipes, hrecipes⟩, -⟩ := h scroll List.mem_cons_self
  cases hrecipes

/-- A potion whose number has a digit too many to be written. -/
def rarePotion : Recipe :=
  { potion with result := ⟨.item, 10 ^ Text.Numeral.maxDigits, Nat.pow_pos (Nat.succ_pos 9)⟩ }

end Sample

/-! ## Judges -/

namespace Workshop

variable {ι ω : Type} [DecidableEq ι] [Audience ι Notice ω]

/-- Where no call fails, a judge and the craft that follows agree just when what passes the judge is covered in all, can
be reported, and every note can be read. They do if no entity is named twice. -/
theorem judge_agrees_iff [Audience.Candid ι Notice ω] (w : Workshop (Faulty Party) ι ω) (recipe : Option Recipe)
    (hclear : w.inventory.faults = .clear) :
    let agree := (judge recipe w).value = .ok .ready ↔
      ∃ outcome, (craft recipe (judge recipe w).state).value = .ok outcome ∧ outcome.success = true
    (agree ↔ ∀ made, recipe = some made → w.inventory.store.Meets made →
      w.inventory.store.Covers made ∧ w.Reports recipe ∧ Catalog.Readable w.registry w.mode) ∧
    ((∀ made, recipe = some made → (made.materials.map (·.ref)).Nodup) →
      w.Reports recipe → Catalog.Readable w.registry w.mode → agree) := by
  intro agree
  have hinventory : w.inventory = ⟨w.inventory.store, .clear⟩ := Faulty.eq_of_clear hclear
  -- The judge only looks, so the craft that follows begins where the judge began.
  have hstate : (judge recipe w).state = w := by
    show { w with inventory := w.judged recipe } = w
    rw [judged_clear hinventory, ← hinventory]
  have hready : (judge recipe w).value = .ok .ready ↔
      ∃ made, recipe = some made ∧ w.inventory.store.Meets made := judge_clear_eq_ready_iff hinventory
  have hagree : agree ↔ ∀ made, recipe = some made → w.inventory.store.Meets made →
      w.inventory.store.Covers made ∧ w.Reports recipe ∧ Catalog.Readable w.registry w.mode := by
    show (_ ↔ ∃ outcome, (craft recipe (judge recipe w).state).value = .ok outcome ∧ _) ↔ _
    rw [hready, hstate, craft_succeeds_iff hinventory]
    constructor
    · rintro h made rfl hmeets
      obtain ⟨⟨other, hother, -, hcovers⟩, hreports, hreadable⟩ := h.1 ⟨made, rfl, hmeets⟩
      cases hother
      exact ⟨hcovers, hreports, hreadable⟩
    · refine fun h => ⟨?_, fun ⟨⟨made, hrecipe, hmeets, _⟩, _⟩ => ⟨made, hrecipe, hmeets⟩⟩
      rintro ⟨made, hrecipe, hmeets⟩
      obtain ⟨hcovers, hreports, hreadable⟩ := h made hrecipe hmeets
      exact ⟨⟨made, hrecipe, hmeets, hcovers⟩, hreports, hreadable⟩
  refine ⟨hagree, fun hdistinct hreports hreadable => hagree.2 fun made hrecipe hmeets => ?_⟩
  exact ⟨hmeets.covers (hdistinct made hrecipe), hreports, hreadable⟩

end Workshop

namespace Sample

open Workshop

/-- With one herb the judge finds the potion ready, and the craft that follows does not make it. -/
theorem judge_misled :
    (shop ⟨party 1, .clear⟩ []).inventory.faults = .clear ∧
      ¬((judge (some potion) (shop ⟨party 1, .clear⟩ [])).value = .ok .ready ↔
        ∃ outcome, (craft (some potion) (judge (some potion) (shop ⟨party 1, .clear⟩ [])).state).value = .ok outcome ∧
          outcome.success = true) := by
  refine ⟨rfl, fun hagree => ?_⟩
  have hmeets : (party 1).Meets potion := ⟨List.cons_ne_nil _ _, by decide, (fun _ h => nomatch h), by decide⟩
  have hcovers :=
    ((judge_agrees_iff (shop ⟨party 1, .clear⟩ []) (some potion) rfl).1.1 hagree potion rfl hmeets).1
  exact absurd (hcovers.materials ⟨herb, 1, by decide⟩ List.mem_cons_self) (by decide)

end Sample

end Crafting
