import Crafting.Proofs.Inventory.Party
import Crafting.Verdict

/-!
# Judging a recipe

A judge answers whenever a failing check could be reported, and only a recipe with materials is found ready. Of a party
whose calls all pass the verdict is that of the first check that the party fails.
-/

namespace Crafting

namespace Verdict

/-! ## On any inventory -/

variable {σ : Type} [Inventory σ]

theorem exists_subject_iff {recipe : Option Recipe} :
    (∃ words, subject recipe = .ok words) ↔ ∀ made, recipe = some made → made.result.Writable := by
  cases recipe with
  | none => exact iff_of_true ⟨_, rfl⟩ (by rintro _ ⟨⟩)
  | some recipe =>
      rw [subject, EntityRef.exists_text_iff]
      exact ⟨fun h _ hmade => Option.some.inj hmade ▸ h, fun h => h recipe rfl⟩

theorem exists_failedText_iff {recipe : Option Recipe} {failure : Failure} (htell : failure.Tellable) :
    (∃ words, failedText recipe failure = .ok words) ↔ ∀ made, recipe = some made → made.result.Writable := by
  rw [← exists_subject_iff, failedText, htell.toldAfter_eq, Result.exists_map_iff]
  cases subject recipe with
  | ok words => exact iff_of_true ⟨_, rfl⟩ ⟨_, rfl⟩
  | error failure => exact iff_of_false (by rintro ⟨_, ⟨⟩⟩) (by rintro ⟨_, ⟨⟩⟩)

theorem failedText_eq_error_iff {recipe : Option Recipe} {cause failure : Failure} (htell : cause.Tellable) :
    failedText recipe cause = .error failure ↔
      failure = .unwritable ∧ ∃ made, recipe = some made ∧ ¬made.result.Writable := by
  have honly : ∀ failure, failedText recipe cause = .error failure → failure = .unwritable := by
    intro failure h
    rw [failedText, htell.toldAfter_eq, Result.map_eq_error_iff] at h
    obtain hsubject | ⟨_, -, hdone⟩ := Result.bind_eq_error_iff.1 h
    · cases recipe with
      | none => cases hsubject
      | some made => exact EntityRef.text_eq_error hsubject
    · cases hdone
  rw [Result.eq_error_iff_of_only honly, exists_failedText_iff htell]
  simp only [not_forall, exists_prop]

theorem tellable_of_shownName {registry : Option Registry} {ref : EntityRef} {failure : Failure}
    (h : shownName registry ref = .error failure) : failure.Tellable := by
  cases registry with
  | none => cases h
  | some registry =>
      rw [Json.display_eq_error h]
      trivial

section Candid

variable [Inventory.Candid σ]

theorem shortage_candid (materials : List Material) : Act.Candid (shortage materials : Act σ (Option EntityRef)) := by
  induction materials with
  | nil => exact .pure _
  | cons material rest ih => exact (Inventory.Candid.quantityOf material.ref).bind fun _ => .ite (.pure _) ih

theorem lacking_candid (requirement : Option EntityRef) :
    Act.Candid (lacking requirement : Act σ (Option EntityRef)) := by
  cases requirement with
  | none => exact .pure _
  | some ref => exact (Inventory.Candid.has ref).bind fun _ => .ite (.pure _) (.pure _)

theorem check_candid (registry : Option Registry) (recipe : Option Recipe) :
    Act.Candid (check registry recipe : Act σ Verdict) := by
  -- A failure comes of a call of the inventory, or of a name that cannot be shown; each can be told.
  have hname (objection : String → Verdict) (ref : EntityRef) : Act.Candid (do
      return objection (← .ofExcept (shownName registry ref)) : Act σ Verdict) :=
    (Act.Candid.ofExcept fun _ => tellable_of_shownName).bind fun _ => .pure _
  cases recipe with
  | none => exact .pure _
  | some recipe =>
      refine .ite (.pure _) ((shortage_candid recipe.materials).bind fun short => ?_)
      cases short with
      | some ref => exact hname .notEnough ref
      | none =>
          refine (lacking_candid recipe.requirement).bind fun lacks => ?_
          cases lacks with
          | some ref => exact hname .requires ref
          | none =>
              have haffords : Act.Candid (affords recipe : Act σ Bool) :=
                .ite (.pure _) (Inventory.Candid.currency.bind fun _ => .pure _)
              exact haffords.bind fun _ => .ite (.pure _) (.pure _)

end Candid

section Keeps

variable {holds : σ → Prop} (h : Inventory.ReadsKeep holds)

include h

theorem shortage_keeps (materials : List Material) : Act.Keeps holds (shortage materials) := by
  induction materials with
  | nil => exact .pure _
  | cons material rest ih => exact (h.quantityOf material.ref).bind fun _ => .ite (.pure _) ih

theorem lacking_keeps (requirement : Option EntityRef) : Act.Keeps holds (lacking requirement) := by
  cases requirement with
  | none => exact .pure _
  | some ref => exact (h.has ref).bind fun _ => .ite (.pure _) (.pure _)

theorem affords_keeps (recipe : Recipe) : Act.Keeps holds (affords recipe) :=
  .ite (.pure _) (h.currency.bind fun _ => .pure _)

theorem check_keeps (registry : Option Registry) (recipe : Option Recipe) :
    Act.Keeps holds (check registry recipe) := by
  have hname (objection : String → Verdict) (ref : EntityRef) : Act.Keeps holds (do
      return objection (← .ofExcept (shownName registry ref)) : Act σ Verdict) :=
    (Act.Keeps.ofExcept _).bind fun _ => .pure _
  cases recipe with
  | none => exact .pure _
  | some recipe =>
      refine .ite (.pure _) ((shortage_keeps h recipe.materials).bind fun short => ?_)
      cases short with
      | some ref => exact hname .notEnough ref
      | none =>
          refine (lacking_keeps h recipe.requirement).bind fun lacks => ?_
          cases lacks with
          | some ref => exact hname .requires ref
          | none => exact (affords_keeps h recipe).bind fun _ => .ite (.pure _) (.pure _)

/-- A judge only asks, so it keeps whatever asking keeps. -/
theorem judge_keeps (registry : Option Registry) (recipe : Option Recipe) : Act.Keeps holds (judge registry recipe) := by
  refine (check_keeps h registry recipe).attempt.bind fun result => ?_
  cases result with
  | ok verdict => exact .pure _
  | error failure => exact (Act.Keeps.report _ _).bind fun _ => .pure _

end Keeps

section Runs

variable {registry : Option Registry} {recipe : Option Recipe} {s : σ}

theorem judge_of_ok {verdict : Verdict} (h : (check registry recipe s).value = .ok verdict) :
    (judge registry recipe s).value = .ok verdict ∧
      (judge registry recipe s).state = (check registry recipe s).state := by
  simp only [judge, Act.run_bind, Act.run_attempt, h, Act.run_pure, and_self]

/-- A check that fails leaves the matter undecided, if that can be reported. -/
theorem judge_of_error {failure : Failure} (h : (check registry recipe s).value = .error failure) :
    (judge registry recipe s).value = (failedText recipe failure).map (fun _ => .undecided) ∧
      (judge registry recipe s).state = (check registry recipe s).state := by
  simp only [judge, Act.run_bind, Act.run_attempt, h]
  cases failedText recipe failure <;> exact ⟨rfl, rfl⟩

theorem judge_eq_ready_iff :
    (judge registry recipe s).value = .ok .ready ↔ (check registry recipe s).value = .ok .ready := by
  cases hcheck : (check registry recipe s).value with
  | ok verdict => rw [(judge_of_ok hcheck).1]
  | error failure =>
      rw [(judge_of_error hcheck).1]
      cases failedText recipe failure <;> exact iff_of_false (by rintro ⟨⟩) (by rintro ⟨⟩)

/-- Only of a failed check that cannot be reported does a judge fail. -/
theorem judge_eq_error_iff [Inventory.Candid σ] {failure : Failure} :
    (judge registry recipe s).value = .error failure ↔
      failure = .unwritable ∧ (∃ cause, (check registry recipe s).value = .error cause) ∧
        ∃ made, recipe = some made ∧ ¬made.result.Writable := by
  cases hcheck : (check registry recipe s).value with
  | ok verdict =>
      rw [(judge_of_ok hcheck).1]
      exact iff_of_false (by rintro ⟨⟩) (by rintro ⟨-, ⟨_, ⟨⟩⟩, -⟩)
  | error cause =>
      have htell := check_candid registry recipe s cause hcheck
      rw [(judge_of_error hcheck).1, Result.map_eq_error_iff, failedText_eq_error_iff htell]
      simp only [Except.error.injEq, exists_eq', true_and]

/-- What is found ready is a recipe with materials. -/
theorem materials_of_ready (h : (judge registry recipe s).value = .ok .ready) :
    ∃ made, recipe = some made ∧ made.materials ≠ [] := by
  rw [judge_eq_ready_iff] at h
  cases recipe with
  | none => cases h
  | some made =>
      -- Without materials the first check already decides.
      refine ⟨made, rfl, fun hnone => ?_⟩
      have hinvalid : check registry (some made) s = ⟨.ok .invalid, s, []⟩ := by
        simp [check, hnone]
      rw [hinvalid] at h
      cases h

end Runs

end Verdict

/-! ## On a party whose calls all pass -/

namespace Party

/-- What the checks of a judge find: the first one that the party fails, if it fails any. Nothing is found where the name
that goes with it cannot be shown. -/
def finding (party : Party) (registry : Option Registry) : Option Recipe → Except Failure Verdict
  | none => .ok .invalid
  | some recipe =>
      if recipe.materials = [] then .ok .invalid
      else
        match recipe.materials.find? fun m => party.held.count m.ref < m.quantity with
        | some material => (shownName registry material.ref).map .notEnough
        | none =>
            match recipe.requirement.filter fun ref => ¬party.Owns ref with
            | some ref => (shownName registry ref).map .requires
            | none => .ok (if recipe.cost = 0 ∨ (recipe.cost : Int) ≤ party.gold then .ready else .notEnoughCurrency)

/-- The verdict on a party. -/
def verdict (party : Party) (registry : Option Registry) (recipe : Option Recipe) : Verdict :=
  (party.finding registry recipe).toOption.getD .undecided

/-- The checks of a judge, which looks at each material on its own. -/
structure Meets (party : Party) (recipe : Recipe) : Prop where
  materials_ne_nil : recipe.materials ≠ []
  materials : ∀ m ∈ recipe.materials, (m.quantity : Int) ≤ party.held.count m.ref
  requirement : ∀ ref, recipe.requirement = some ref → party.Owns ref
  cost : recipe.cost = 0 ∨ (recipe.cost : Int) ≤ party.gold

theorem lacks_none_iff {party : Party} {requirement : Option EntityRef} :
    (requirement.filter fun ref => ¬party.Owns ref) = none ↔ ∀ ref, requirement = some ref → party.Owns ref := by
  cases requirement with
  | none => exact ⟨fun _ => nofun, fun _ => rfl⟩
  | some ref => simp [Option.filter]

/-- Where the requirement is owned, no judge misses it. -/
theorem finding_ne_requires {party : Party} {registry : Option Registry} {recipe : Recipe}
    (howned : ∀ ref, recipe.requirement = some ref → party.Owns ref) (name : String) :
    party.finding registry (some recipe) ≠ .ok (.requires name) := by
  simp only [finding, lacks_none_iff.2 howned]
  split
  · rintro ⟨⟩
  · split
    · rename_i material _
      cases shownName registry material.ref <;> rintro ⟨⟩
    · split <;> rintro ⟨⟩

theorem verdict_ne_requires {party : Party} {registry : Option Registry} {recipe : Recipe}
    (howned : ∀ ref, recipe.requirement = some ref → party.Owns ref) (name : String) :
    party.verdict registry (some recipe) ≠ .requires name := by
  unfold verdict
  have hfinding : party.finding registry (some recipe) ≠ .ok (.requires name) := finding_ne_requires howned name
  cases hfound : party.finding registry (some recipe) with
  | ok found =>
      intro h
      exact hfinding (hfound.trans (congrArg Except.ok h))
  | error failure => rintro ⟨⟩

theorem finding_eq_ready {party : Party} {registry : Option Registry} {recipe : Option Recipe} :
    party.finding registry recipe = .ok .ready ↔ ∃ made, recipe = some made ∧ party.Meets made := by
  have hnamed (objection : String → Verdict) (hne : ∀ name, objection name ≠ .ready) (ref : EntityRef) :
      (shownName registry ref).map objection ≠ .ok .ready := by
    intro h
    obtain ⟨name, -, hready⟩ := Result.map_eq_ok_iff.1 h
    exact hne name hready
  constructor
  · intro h
    cases recipe with
    | none => cases h
    | some made =>
        -- Only where every check passes is the verdict `ready`; elsewhere the check gives another.
        simp only [finding] at h
        split at h
        · cases h
        · rename_i hmaterials
          split at h
          · exact absurd h (hnamed _ (by rintro _ ⟨⟩) _)
          · rename_i henough
            split at h
            · exact absurd h (hnamed _ (by rintro _ ⟨⟩) _)
            · rename_i howned
              split at h
              · rename_i hcost
                refine ⟨made, rfl, hmaterials, fun m hm => ?_, lacks_none_iff.1 howned, hcost⟩
                have hnot := List.find?_eq_none.1 henough m hm
                simpa using hnot
              · cases h
  · rintro ⟨made, rfl, hmeets⟩
    have henough : (made.materials.find? fun m => party.held.count m.ref < m.quantity) = none := by
      refine List.find?_eq_none.2 fun m hm => ?_
      simpa using hmeets.materials m hm
    have howned := lacks_none_iff.2 hmeets.requirement
    simp only [finding, if_neg hmeets.materials_ne_nil, henough, howned, if_pos hmeets.cost]

theorem exists_finding {registry : Option Registry} (hnames : ∀ ref, ∃ name, shownName registry ref = .ok name)
    (party : Party) (recipe : Option Recipe) : ∃ verdict, party.finding registry recipe = .ok verdict := by
  have hnamed (objection : String → Verdict) (ref : EntityRef) :
      ∃ verdict, (shownName registry ref).map objection = .ok verdict :=
    Result.exists_map_iff.2 (hnames ref)
  cases recipe with
  | none => exact ⟨.invalid, rfl⟩
  | some made =>
      simp only [finding]
      split
      · exact ⟨_, rfl⟩
      · split
        · exact hnamed _ _
        · split
          · exact hnamed _ _
          · exact ⟨_, rfl⟩

end Party

namespace Verdict

theorem shortage_clear (party : Party) (materials : List Material) :
    shortage materials (⟨party, .clear⟩ : Faulty Party) =
      ⟨.ok ((materials.find? fun m => party.held.count m.ref < m.quantity).map (·.ref)), ⟨party, .clear⟩, []⟩ := by
  -- Both walk the materials and stop at the first one that falls short.
  induction materials with
  | nil => rfl
  | cons material rest ih =>
      by_cases hshort : party.held.count material.ref < material.quantity
      · simp [shortage, Act.run_bind, hshort]
      · simp [shortage, Act.run_bind, hshort, ih]

theorem lacking_clear (party : Party) (requirement : Option EntityRef) :
    lacking requirement (⟨party, .clear⟩ : Faulty Party) =
      ⟨.ok (requirement.filter fun ref => ¬party.Owns ref), ⟨party, .clear⟩, []⟩ := by
  cases requirement with
  | none => rfl
  | some ref => by_cases howned : party.Owns ref <;> simp [lacking, Act.run_bind, howned, Option.filter]

theorem affords_clear (party : Party) (recipe : Recipe) :
    affords recipe (⟨party, .clear⟩ : Faulty Party) =
      ⟨.ok (decide (recipe.cost = 0 ∨ (recipe.cost : Int) ≤ party.gold)), ⟨party, .clear⟩, []⟩ := by
  by_cases hfree : recipe.cost = 0 <;> simp [affords, Act.run_bind, hfree]

/-- Where no call fails, the checks find the first one that the party fails, and only look. -/
theorem check_clear (party : Party) (registry : Option Registry) (recipe : Option Recipe) :
    check registry recipe (⟨party, .clear⟩ : Faulty Party) = ⟨party.finding registry recipe, ⟨party, .clear⟩, []⟩ := by
  cases recipe with
  | none => rfl
  | some recipe =>
      by_cases hnone : recipe.materials = []
      · simp [check, Party.finding, hnone]
      · -- The checks in their order, up to the first that fails.
        have hnonempty : recipe.materials.isEmpty = false := List.isEmpty_eq_false_iff.2 hnone
        have hshortage := shortage_clear party recipe.materials
        have hlacking := lacking_clear party recipe.requirement
        have haffords := affords_clear party recipe
        simp only [Party.finding, if_neg hnone]
        cases hshort : recipe.materials.find? fun m => party.held.count m.ref < m.quantity with
        | some material =>
            rw [hshort] at hshortage
            simp [check, hnonempty, Act.run_bind, hshortage]
        | none =>
            rw [hshort] at hshortage
            cases howned : recipe.requirement.filter fun ref => ¬party.Owns ref with
            | some ref =>
                rw [howned] at hlacking
                simp [check, hnonempty, Act.run_bind, hshortage, hlacking]
            | none =>
                rw [howned] at hlacking
                by_cases hcost : recipe.cost = 0 ∨ (recipe.cost : Int) ≤ party.gold <;>
                  simp [check, hnonempty, Act.run_bind, hshortage, hlacking, haffords, hcost]

section Clear

variable (party : Party) (registry : Option Registry) (recipe : Option Recipe)

theorem judge_clear_state : (judge registry recipe (⟨party, .clear⟩ : Faulty Party)).state = ⟨party, .clear⟩ := by
  have hcheck := congrArg Run.value (check_clear party registry recipe)
  have hstate := congrArg Run.state (check_clear party registry recipe)
  cases hfinding : party.finding registry recipe with
  | ok verdict =>
      rw [hfinding] at hcheck
      exact (judge_of_ok hcheck).2.trans hstate
  | error failure =>
      rw [hfinding] at hcheck
      exact (judge_of_error hcheck).2.trans hstate

/-- Where no call fails, a judge answers nothing but the first check that the party fails. -/
theorem judge_clear_of_ok {verdict : Verdict}
    (h : (judge registry recipe (⟨party, .clear⟩ : Faulty Party)).value = .ok verdict) :
    verdict = party.verdict registry recipe := by
  have hcheck := congrArg Run.value (check_clear party registry recipe)
  unfold Party.verdict
  cases hfinding : party.finding registry recipe with
  | ok found =>
      rw [hfinding] at hcheck
      exact Except.ok.inj (h.symm.trans (judge_of_ok hcheck).1)
  | error failure =>
      rw [hfinding] at hcheck
      obtain ⟨_, -, hundecided⟩ := Result.map_eq_ok_iff.1 ((judge_of_error hcheck).1.symm.trans h)
      exact hundecided.symm

/-- Where no call fails and all names can be shown, nothing has to be reported. -/
theorem judge_clear_of_named (hnames : ∀ ref, ∃ name, shownName registry ref = .ok name) :
    (judge registry recipe (⟨party, .clear⟩ : Faulty Party)).value = .ok (party.verdict registry recipe) := by
  obtain ⟨verdict, hverdict⟩ := Party.exists_finding hnames party recipe
  have hcheck := congrArg Run.value (check_clear party registry recipe)
  rw [hverdict] at hcheck
  rw [(judge_of_ok hcheck).1, Party.verdict, hverdict]
  rfl

theorem judge_clear_eq_ready_iff :
    (judge registry recipe (⟨party, .clear⟩ : Faulty Party)).value = .ok .ready ↔
      ∃ made, recipe = some made ∧ party.Meets made := by
  rw [judge_eq_ready_iff, check_clear]
  exact Party.finding_eq_ready

end Clear

end Verdict

end Crafting
