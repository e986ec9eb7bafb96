import Crafting.Proofs.Settlement
import Crafting.Proofs.Verdict

/-!
# What a party has enough for

An exchange asks that the materials naming one entity are held together, a judge only that each is held on its own. On a
party whose calls all pass, an exchange is carried out just when there is enough of everything, and else changes nothing.
-/

namespace Crafting

/-! ## Enough of everything -/

namespace Party

/-- There is enough for all materials taken together, and for the cost. -/
structure Covers (party : Party) (recipe : Recipe) : Prop where
  materials : ∀ m ∈ recipe.materials, (recipe.need m.ref : Int) ≤ party.held.count m.ref
  cost : recipe.cost = 0 ∨ (recipe.cost : Int) ≤ party.gold

/-- All that is asked of a party for it to craft a recipe. -/
structure CanMake (party : Party) (recipe : Recipe) : Prop where
  materials_ne_nil : recipe.materials ≠ []
  materials : ∀ ref, (recipe.need ref : Int) ≤ party.held.count ref
  requirement : ∀ ref, recipe.requirement = some ref → party.Owns ref
  cost : recipe.cost = 0 ∨ (recipe.cost : Int) ≤ party.gold

theorem Meets.of_covers {party : Party} {recipe : Recipe} (hnonempty : recipe.materials ≠ [])
    (hcovers : party.Covers recipe) (howned : ∀ ref, recipe.requirement = some ref → party.Owns ref) :
    party.Meets recipe where
  materials_ne_nil := hnonempty
  materials m hm := by
    have hneed := hcovers.materials m hm
    have hquantity := quantity_le_neededOf hm
    rw [Recipe.need_eq] at hneed
    omega
  requirement := howned
  cost := hcovers.cost

/-- A party can craft what passes its judge and is covered in all. -/
theorem canMake_iff {party : Party} (hpositive : party.held.Positive) {recipe : Recipe} :
    party.CanMake recipe ↔ party.Meets recipe ∧ party.Covers recipe := by
  constructor
  · intro h
    have hcovers : party.Covers recipe := ⟨fun m _ => h.materials m.ref, h.cost⟩
    exact ⟨.of_covers h.materials_ne_nil hcovers h.requirement, hcovers⟩
  · rintro ⟨hmeets, hcovers⟩
    refine ⟨hmeets.materials_ne_nil, fun ref => ?_, hmeets.requirement, hmeets.cost⟩
    by_cases hnamed : ∃ m ∈ recipe.materials, m.ref = ref
    · obtain ⟨m, hm, rfl⟩ := hnamed
      exact hcovers.materials m hm
    · -- What no material names is not needed, and no count is below zero.
      have hneed : recipe.need ref = 0 := by
        rw [Recipe.need_eq]
        exact neededOf_eq_zero fun m hm href => hnamed ⟨m, hm, href⟩
      have hcount := hpositive.count_nonneg ref
      omega

end Party

namespace Exchange

/-! ## Looking -/

theorem allHeld_clear (party : Party) (totals : List (EntityRef × Nat)) :
    allHeld totals (⟨party, .clear⟩ : Faulty Party) =
      ⟨.ok (decide (∀ total ∈ totals, (total.2 : Int) ≤ party.held.count total.1)), ⟨party, .clear⟩, []⟩ := by
  induction totals with
  | nil => simp [allHeld]
  | cons total rest ih =>
      obtain ⟨ref, quantity⟩ := total
      by_cases hshort : party.held.count ref < quantity
      · have hnot : ¬(quantity : Int) ≤ party.held.count ref := by omega
        simp [allHeld, Act.run_bind, hshort, hnot]
      · have henough : (quantity : Int) ≤ party.held.count ref := by omega
        simp [allHeld, Act.run_bind, hshort, henough, ih]

theorem isAvailable_clear (party : Party) (recipe : Recipe) :
    isAvailable recipe (⟨party, .clear⟩ : Faulty Party) =
      ⟨.ok (decide ((∀ total ∈ recipe.totals, (total.2 : Int) ≤ party.held.count total.1) ∧
        (recipe.cost = 0 ∨ (recipe.cost : Int) ≤ party.gold))), ⟨party, .clear⟩, []⟩ := by
  -- Once the materials are there, the cost is looked at as a judge does.
  have hshape : isAvailable recipe = (do
      if !(← allHeld recipe.totals) then return false
      Verdict.affords recipe : Act (Faulty Party) Bool) := rfl
  have hheld := allHeld_clear party recipe.totals
  have haffords := Verdict.affords_clear party recipe
  rw [hshape, Act.run_bind, hheld, Bool.decide_and]
  cases decide (∀ total ∈ recipe.totals, (total.2 : Int) ≤ party.held.count total.1) with
  | true => simp only [Bool.not_true, Bool.false_eq_true, if_false, haffords, Bool.true_and, List.nil_append]
  | false => simp only [Bool.not_false, if_true, Act.run_pure, Bool.false_and, List.nil_append]

theorem covers_iff_totals {party : Party} {recipe : Recipe} :
    party.Covers recipe ↔ (∀ total ∈ recipe.totals, (total.2 : Int) ≤ party.held.count total.1) ∧
      (recipe.cost = 0 ∨ (recipe.cost : Int) ≤ party.gold) := by
  constructor
  · rintro ⟨hmaterials, hcost⟩
    refine ⟨fun (ref, quantity) htotal => ?_, hcost⟩
    obtain ⟨hnamed, rfl⟩ := Recipe.mem_totals.1 htotal
    obtain ⟨m, hm, rfl⟩ := List.mem_map.1 hnamed
    exact hmaterials m hm
  · rintro ⟨htotals, hcost⟩
    exact ⟨fun m hm => htotals (m.ref, recipe.need m.ref) (Recipe.mem_totals.2 ⟨List.mem_map_of_mem hm, rfl⟩), hcost⟩

/-! ## Applying -/

theorem applyFrom_clear (step : Step) {party after : Party} (h : party.apply step.change = .ok after)
    (done rest : List Step) :
    (applyFrom done (step :: rest) (⟨party, .clear⟩ : Faulty Party)).value =
      (applyFrom (step :: done) rest (⟨after, .clear⟩ : Faulty Party)).value := by
  have hrun : step.run (⟨party, .clear⟩ : Faulty Party) = ⟨.ok (), ⟨after, .clear⟩, []⟩ := by
    rw [Step.run_eq_call]
    exact Party.run_call_of_ok h
  rw [(applyFrom_cons_of_ok (congrArg Run.value hrun) done rest).1, hrun]

/-- Materials that are covered together can be consumed one after another. -/
theorem applyFrom_materials (materials : List Material) {party : Party}
    (h : ∀ m ∈ materials, (neededOf materials m.ref : Int) ≤ party.held.count m.ref) (done rest : List Step) :
    ∃ after later, after.gold = party.gold ∧
      (applyFrom done (materials.map (fun m => .consume m.ref m.quantity) ++ rest) (⟨party, .clear⟩ : Faulty Party)).value =
        (applyFrom later rest (⟨after, .clear⟩ : Faulty Party)).value := by
  -- By induction on the materials: after the first, what is left still covers the others together.
  induction materials generalizing party done with
  | nil => exact ⟨party, done, rfl, rfl⟩
  | cons material others ih =>
      have hheld := h material List.mem_cons_self
      have hquantity := quantity_le_neededOf (List.mem_cons_self (a := material) (l := others))
      have hpos := material.quantity_pos
      obtain ⟨next, hnext⟩ : ∃ next, party.apply (.consume material.ref material.quantity) = .ok next :=
        ⟨_, Party.apply_eq_ok_iff.2 ⟨by omega, by omega, rfl⟩⟩
      have hmoved := Party.moved_of_apply hnext
      -- What the first takes from an entity's stack is what the others then need less of it.
      have hothers : ∀ m ∈ others, (neededOf others m.ref : Int) ≤ next.held.count m.ref := by
        intro m hm
        have hbefore := h m (List.mem_cons_of_mem _ hm)
        rw [neededOf_cons] at hbefore
        rw [hmoved.held, Change.onHeld]
        by_cases hsame : material.ref = m.ref
        · rw [if_pos hsame] at hbefore ⊢
          omega
        · rw [if_neg hsame] at hbefore ⊢
          omega
      obtain ⟨after, later, hgold, hvalue⟩ := ih hothers (.consume material.ref material.quantity :: done)
      refine ⟨after, later, hgold.trans ((hmoved.gold rfl).trans (Int.add_zero _)), ?_⟩
      exact (applyFrom_clear (.consume material.ref material.quantity) hnext done _).trans hvalue

theorem applyFrom_stepsOf {party : Party} {recipe : Recipe} (h : party.Covers recipe) :
    (applyFrom [] (stepsOf recipe) (⟨party, .clear⟩ : Faulty Party)).value = .ok none := by
  obtain ⟨consumed, done, hgold, hmaterials⟩ := applyFrom_materials recipe.materials h.materials []
    ([.add recipe.result 1] ++ if recipe.cost = 0 then [] else [.spend recipe.cost])
  -- One result can always be added, and adding it leaves the purse alone.
  obtain ⟨added, hadded⟩ : ∃ added, consumed.apply (.add recipe.result 1) = .ok added := ⟨_, rfl⟩
  have hresult := applyFrom_clear (.add recipe.result 1) hadded done
    (if recipe.cost = 0 then [] else [.spend recipe.cost])
  have hpurse : added.gold = party.gold :=
    ((Party.moved_of_apply hadded).gold rfl).trans ((Int.add_zero _).trans hgold)
  rw [stepsOf, List.append_assoc, hmaterials]
  refine hresult.trans ?_
  by_cases hfree : recipe.cost = 0
  · rw [if_pos hfree]
    rfl
  · have hcost : (recipe.cost : Int) ≤ added.gold := by
      rcases h.cost with hzero | hrich
      · exact absurd hzero hfree
      · omega
    obtain ⟨paid, hpaid⟩ : ∃ paid, added.apply (.spend recipe.cost) = .ok paid :=
      ⟨_, Party.apply_eq_ok_iff.2 ⟨by omega, by omega, rfl⟩⟩
    rw [if_neg hfree]
    exact applyFrom_clear (.spend recipe.cost) hpaid _ []

/-! ## Exchanging -/

section Exchanging

variable {party : Party} {recipe : Recipe} (hrecipe : recipe.materials ≠ [])

include hrecipe

/-- What is covered is exchanged, whether or not that can be reported. -/
theorem run_of_covers (h : party.Covers recipe) :
    ∃ after, party.Exchanged recipe after ∧
      (run (some recipe) (⟨party, .clear⟩ : Faulty Party)).value = (appliedText recipe).map (fun _ => .applied) ∧
      (run (some recipe) (⟨party, .clear⟩ : Faulty Party)).state = ⟨after, .clear⟩ := by
  have havailable := isAvailable_clear party recipe
  rw [decide_eq_true (covers_iff_totals.1 h)] at havailable
  have happly := applyFrom_stepsOf h
  obtain ⟨hvalue, hstate⟩ := run_of_applied hrecipe (congrArg Run.value havailable) (by rw [havailable]; exact happly)
  rw [havailable] at hstate
  have hclear : (run (some recipe) (⟨party, .clear⟩ : Faulty Party)).state.faults = .clear :=
    run_keeps Faulty.calls_keep_clear (some recipe) _ rfl
  exact ⟨_, hstate ▸ exchanged_of_applyFrom happly, hvalue, Faulty.eq_of_clear hclear⟩

theorem run_of_not_covers (h : ¬party.Covers recipe) :
    (run (some recipe) (⟨party, .clear⟩ : Faulty Party)).value =
        (unavailableText recipe).map (fun _ => .unavailable) ∧
      (run (some recipe) (⟨party, .clear⟩ : Faulty Party)).state = ⟨party, .clear⟩ := by
  have havailable := isAvailable_clear party recipe
  rw [decide_eq_false ((not_congr covers_iff_totals).1 h)] at havailable
  obtain ⟨hvalue, hstate⟩ := run_of_unavailable hrecipe (congrArg Run.value havailable)
  exact ⟨hvalue, hstate.trans (congrArg Run.state havailable)⟩

end Exchanging

theorem run_hollow {recipe : Recipe} (h : recipe.materials = []) (s : Faulty Party) :
    run (some recipe) s = run none s := by
  rw [run, h]
  rfl

theorem run_eq_applied_iff {party : Party} {recipe : Option Recipe} :
    (run recipe (⟨party, .clear⟩ : Faulty Party)).value = .ok .applied ↔
      ∃ made, recipe = some made ∧ made.materials ≠ [] ∧ party.Covers made ∧ made.Reportable := by
  constructor
  · intro happlied
    cases recipe with
    | none => cases happlied
    | some made =>
        by_cases hmaterials : made.materials = []
        · rw [run_hollow hmaterials] at happlied
          cases happlied
        · by_cases hcovers : party.Covers made
          · obtain ⟨_, -, hvalue, -⟩ := run_of_covers hmaterials hcovers
            rw [hvalue] at happlied
            exact ⟨made, rfl, hmaterials, hcovers, exists_appliedText_iff.1 (Result.exists_map_iff.1 ⟨_, happlied⟩)⟩
          · rw [(run_of_not_covers hmaterials hcovers).1] at happlied
            obtain ⟨_, -, hending⟩ := Result.map_eq_ok_iff.1 happlied
            cases hending
  · rintro ⟨made, rfl, hmaterials, hcovers, hreport⟩
    obtain ⟨_, -, hvalue, -⟩ := run_of_covers hmaterials hcovers
    obtain ⟨words, hwords⟩ := exists_appliedText_iff.2 hreport
    rw [hvalue, hwords]
    rfl

/-- Where no call fails, an exchange is carried out in full or changes nothing. -/
theorem run_clear (recipe : Option Recipe) (party : Party) :
    let exchange := run recipe (⟨party, .clear⟩ : Faulty Party)
    (∃ made after, recipe = some made ∧ party.Exchanged made after ∧
        exchange.value = (appliedText made).map (fun _ => .applied) ∧ exchange.state = ⟨after, .clear⟩) ∨
      exchange.value ≠ .ok .applied ∧ exchange.state = ⟨party, .clear⟩ := by
  intro exchange
  cases recipe with
  | none => exact .inr ⟨by rintro ⟨⟩, rfl⟩
  | some made =>
      by_cases hmaterials : made.materials = []
      · have hrun : exchange = run none (⟨party, .clear⟩ : Faulty Party) := run_hollow hmaterials _
        rw [hrun]
        exact .inr ⟨by rintro ⟨⟩, rfl⟩
      · by_cases hcovers : party.Covers made
        · obtain ⟨after, hexchanged, hvalue, hstate⟩ := run_of_covers hmaterials hcovers
          exact .inl ⟨made, after, rfl, hexchanged, hvalue, hstate⟩
        · obtain ⟨hvalue, hstate⟩ := run_of_not_covers hmaterials hcovers
          refine .inr ⟨fun happlied => ?_, hstate⟩
          obtain ⟨_, -, hending⟩ := Result.map_eq_ok_iff.1 (hvalue.symm.trans happlied)
          cases hending

end Exchange

end Crafting
