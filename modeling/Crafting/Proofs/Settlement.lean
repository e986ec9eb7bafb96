import Crafting.Proofs.Exchange
import Crafting.Proofs.Inventory.Accounts
import Crafting.Proofs.Recipe

/-!
# How an exchange on a party settles

Whatever calls fail, an exchange on a party is not begun, or carried out in full, or taken back; and what could not be
taken back is exactly what its ending names.
-/

namespace Crafting

/-- What an exchange that was carried out makes of a party. -/
structure Party.Exchanged (recipe : Recipe) (before after : Party) : Prop where
  held : ∀ ref, after.held.count ref =
    before.held.count ref - recipe.need ref + (if ref = recipe.result then 1 else 0)
  gold : after.gold = before.gold - recipe.cost
  equipped : after.equipped = before.equipped
  maxGold : after.maxGold = before.maxGold

namespace Exchange

/-! ## What steps amount to -/

def onHeld (ref : EntityRef) (steps : List Step) : Int :=
  (steps.map fun step => step.change.onHeld ref).sum

theorem passedOnHeld_passedAll (ref : EntityRef) (steps : List Step) :
    passedOnHeld ref (passedAll steps) = onHeld ref steps := by
  simp [passedOnHeld, passedAll, onHeld, List.map_map, Function.comp_def]

theorem Step.onHeld_undo (ref : EntityRef) (step : Step) :
    step.undo.change.onHeld ref = -step.change.onHeld ref := by
  cases step with
  | consume other quantity =>
      simp only [Step.undo, Step.change, Change.onHeld]
      split <;> omega
  | add other quantity =>
      simp only [Step.undo, Step.change, Change.onHeld]
      split <;> omega
  | spend amount => rfl
  | gain amount => rfl

/-- Undoing steps takes back what they added, less what stands. -/
theorem passedOnHeld_undoings (ref : EntityRef) (undone : List (Step × Bool)) :
    passedOnHeld ref (undoings undone) = onHeld ref (standingOf undone) - onHeld ref (undone.map Prod.fst) := by
  induction undone with
  | nil => rfl
  | cons entry rest ih =>
      obtain ⟨step, passed⟩ := entry
      have hundo := Step.onHeld_undo ref step
      simp only [passedOnHeld, onHeld, undoings, standingOf, List.map_cons, List.sum_cons] at ih ⊢
      -- An undoing that passed takes its step back; one that failed leaves it standing.
      cases passed with
      | true =>
          simp only [if_true, Bool.not_true, Bool.false_eq_true, not_false_eq_true, List.filter_cons_of_neg]
          omega
      | false =>
          simp only [Bool.false_eq_true, if_false, Bool.not_false, List.filter_cons_of_pos, List.map_cons, List.sum_cons]
          omega

theorem onHeld_materials (ref : EntityRef) (materials : List Material) :
    onHeld ref (materials.map fun m => .consume m.ref m.quantity) = -(neededOf materials ref : Int) := by
  induction materials with
  | nil => rfl
  | cons material rest ih =>
      simp only [onHeld, List.map_cons, List.sum_cons] at ih ⊢
      rw [ih, neededOf_cons, Step.change, Change.onHeld]
      split <;> omega

theorem onHeld_stepsOf (ref : EntityRef) (recipe : Recipe) :
    onHeld ref (stepsOf recipe) = -(recipe.need ref : Int) + (if ref = recipe.result then 1 else 0) := by
  have hmaterials := onHeld_materials ref recipe.materials
  have hpay : onHeld ref (if recipe.cost = 0 then [] else [.spend recipe.cost]) = 0 := by
    split <;> rfl
  simp only [onHeld] at hmaterials hpay
  simp only [onHeld, stepsOf, List.map_append, List.sum_append, hmaterials, hpay, Recipe.need_eq]
  simp [Step.change, Change.onHeld, eq_comm]

/-! ## The purse -/

/-- Materials and the result are goods; only the cost is paid in gold. -/
def Step.isGoods : Step → Bool
  | consume _ _ | add _ _ => true
  | spend _ | gain _ => false

theorem passedOnGold_goods {tried : List (Change × Bool)} (h : ∀ entry ∈ tried, entry.2 = true → entry.1.onGold = 0) :
    passedOnGold tried = 0 := by
  induction tried with
  | nil => rfl
  | cons entry rest ih =>
      have hfirst := h entry List.mem_cons_self
      have hrest := ih fun other hother => h other (List.mem_cons_of_mem _ hother)
      simp only [passedOnGold, List.map_cons, List.sum_cons] at hrest ⊢
      rw [hrest]
      cases hpassed : entry.2 with
      | true => simp [hfirst hpassed]
      | false => simp

/-- The cost is the last step, so before a step that fails there are only goods. -/
theorem goods_of_stepsOf {recipe : Recipe} {applied rest : List Step} {step : Step}
    (h : stepsOf recipe = applied ++ step :: rest) : ∀ other ∈ applied, other.isGoods = true := by
  -- What was applied is a front of the steps and shorter than all of them, so it ends before the payment.
  have hfront : applied <+: recipe.materials.map (fun m => .consume m.ref m.quantity) ++ [.add recipe.result 1] := by
    refine List.prefix_of_prefix_length_le ⟨step :: rest, h.symm⟩ (List.prefix_append _ _) ?_
    have hlength := congrArg List.length h
    simp only [stepsOf, List.length_append, List.length_cons] at hlength ⊢
    split at hlength <;> simp at hlength ⊢ <;> omega
  intro other hother
  rcases List.mem_append.1 (hfront.subset hother) with hmaterial | hresult
  · obtain ⟨m, -, rfl⟩ := List.mem_map.1 hmaterial
    rfl
  · rw [List.mem_singleton.1 hresult]
    rfl

theorem Step.goods_onGold {step : Step} (h : step.isGoods = true) : step.change.onGold = 0 := by
  cases step <;> first | rfl | cases h

theorem Step.goods_isGain {step : Step} (h : step.isGoods = true) : step.change.isGain = false := by
  cases step <;> first | rfl | cases h

theorem Step.goods_undo {step : Step} (h : step.isGoods = true) : step.undo.isGoods = true := by
  cases step <;> first | rfl | cases h

theorem isGain_of_mem_stepsOf {recipe : Recipe} {step : Step} (h : step ∈ stepsOf recipe) :
    step.change.isGain = false := by
  simp only [stepsOf, List.mem_append, List.mem_map, List.mem_singleton] at h
  rcases h with (⟨m, -, rfl⟩ | rfl) | hpay
  · rfl
  · rfl
  · split at hpay
    · cases hpay
    · rw [List.mem_singleton.1 hpay]
      rfl

theorem onGold_stepsOf (recipe : Recipe) : passedOnGold (passedAll (stepsOf recipe)) = -(recipe.cost : Int) := by
  have hgoods : ∀ goods : List Step, (∀ step ∈ goods, step.isGoods = true) → passedOnGold (passedAll goods) = 0 := by
    intro goods h
    refine passedOnGold_goods fun entry hentry _ => ?_
    obtain ⟨step, hstep, rfl⟩ := List.mem_map.1 hentry
    exact Step.goods_onGold (h step hstep)
  have hmaterials := hgoods (recipe.materials.map fun m => .consume m.ref m.quantity) (by simp [Step.isGoods])
  have hresult := hgoods [.add recipe.result 1] (by simp [Step.isGoods])
  simp only [passedAll] at hmaterials hresult
  simp only [stepsOf, passedAll, List.map_append, passedOnGold_append, hmaterials, hresult]
  split
  · rename_i hfree
    rw [hfree]
    rfl
  · simp [passedOnGold, Step.change, Change.onGold]

/-- The changes of an exchange that comes to a stop: the steps applied, and the one that failed. -/
def stopped (applied : List Step) (step : Step) : List (Change × Bool) :=
  passedAll applied ++ [(step.change, false)]

/-- The changes of an exchange that is taken back: those up to the stop, and the undoing. -/
def takenBack (applied : List Step) (step : Step) (undone : List (Step × Bool)) : List (Change × Bool) :=
  stopped applied step ++ undoings undone

theorem passedOnHeld_stopped (ref : EntityRef) (applied : List Step) (step : Step) :
    passedOnHeld ref (stopped applied step) = onHeld ref applied := by
  rw [stopped, passedOnHeld_append, passedOnHeld_passedAll]
  exact Int.add_zero _

section TakenBack

variable {recipe : Recipe} {applied rest : List Step} {step : Step} {undone : List (Step × Bool)}
  (hsplit : stepsOf recipe = applied ++ step :: rest)

include hsplit

theorem stopped_isGain : ∀ entry ∈ stopped applied step, entry.1.isGain = false := by
  have hmem : step ∈ stepsOf recipe := hsplit ▸ List.mem_append_right _ List.mem_cons_self
  simp only [stopped, List.forall_mem_append, List.forall_mem_singleton, passedAll, List.forall_mem_map]
  exact ⟨fun other hother => Step.goods_isGain (goods_of_stepsOf hsplit other hother), isGain_of_mem_stepsOf hmem⟩

theorem passedOnGold_stopped : passedOnGold (stopped applied step) = 0 := by
  refine passedOnGold_goods ?_
  simp only [stopped, List.forall_mem_append, List.forall_mem_singleton, passedAll, List.forall_mem_map]
  exact ⟨fun other hother _ => Step.goods_onGold (goods_of_stepsOf hsplit other hother), fun h => Bool.noConfusion h⟩

variable (hundone : undone.map Prod.fst = applied.reverse)

include hundone

theorem goods_of_mem_undone {entry : Step × Bool} (h : entry ∈ undone) : entry.1.isGoods = true := by
  have hmem : entry.1 ∈ applied.reverse := hundone ▸ List.mem_map_of_mem h
  exact goods_of_stepsOf hsplit _ (List.mem_reverse.1 hmem)

theorem takenBack_isGain : ∀ entry ∈ takenBack applied step undone, entry.1.isGain = false := by
  simp only [takenBack, List.forall_mem_append, undoings, List.forall_mem_map]
  exact ⟨stopped_isGain hsplit,
    fun entry hentry => Step.goods_isGain (Step.goods_undo (goods_of_mem_undone hsplit hundone hentry))⟩

theorem passedOnGold_takenBack : passedOnGold (takenBack applied step undone) = 0 := by
  have hundoing : passedOnGold (undoings undone) = 0 := by
    refine passedOnGold_goods ?_
    simp only [undoings, List.forall_mem_map]
    exact fun entry hentry _ => Step.goods_onGold (Step.goods_undo (goods_of_mem_undone hsplit hundone hentry))
  rw [takenBack, passedOnGold_append, passedOnGold_stopped hsplit, hundoing]
  rfl

omit hsplit in
/-- What is taken back and what was applied cancel, up to the steps that stand. -/
theorem passedOnHeld_takenBack (ref : EntityRef) :
    passedOnHeld ref (takenBack applied step undone) = onHeld ref (standingOf undone) := by
  have hreverse : onHeld ref (undone.map Prod.fst) = onHeld ref applied := by
    rw [hundone, onHeld, List.map_reverse, List.sum_reverse_int, onHeld]
  rw [takenBack, passedOnHeld_append, passedOnHeld_stopped, passedOnHeld_undoings, hreverse]
  omega

end TakenBack

/-! ## Settling -/

section Settling

variable (recipe : Option Recipe) (s : Faulty Party)

theorem run_watched :
    (run recipe (⟨s, []⟩ : Watched (Faulty Party))).value = (run recipe s).value ∧
      (run recipe (⟨s, []⟩ : Watched (Faulty Party))).state.inventory = (run recipe s).state := by
  have h := run_related Watched.calls_related recipe (⟨s, []⟩ : Watched (Faulty Party)) s rfl
  exact ⟨h.1, h.2.2⟩

theorem run_accounts :
    s.store.Accounts (run recipe (⟨s, []⟩ : Watched (Faulty Party))).state.tried (run recipe s).state.store := by
  rw [← (run_watched recipe s).2]
  exact run_keeps (Party.calls_keep_accounts s.store) recipe ⟨s, []⟩ (.start s.store)

end Settling

theorem exchanged_of_passedAll {party after : Party} {recipe : Recipe}
    (h : party.Accounts (passedAll (stepsOf recipe)) after) : party.Exchanged recipe after where
  held ref := by
    rw [h.held, passedOnHeld_passedAll, onHeld_stepsOf]
    omega
  gold := by
    have hgain : ∀ entry ∈ passedAll (stepsOf recipe), entry.1.isGain = false := by
      rw [passedAll, List.forall_mem_map]
      exact fun step => isGain_of_mem_stepsOf
    rw [h.gold hgain, onGold_stepsOf]
    rfl
  equipped := h.equipped
  maxGold := h.maxGold

/-- Where every step passes the whole exchange is carried out. -/
theorem exchanged_of_applyFrom {s : Faulty Party} {recipe : Recipe}
    (h : (applyFrom [] (stepsOf recipe) s).value = .ok none) :
    s.store.Exchanged recipe (applyFrom [] (stepsOf recipe) s).state.store := by
  have hrelated := applyFrom_related Watched.calls_related [] (stepsOf recipe) (⟨s, []⟩ : Watched (Faulty Party)) s rfl
  have haccounts : s.store.Accounts (applyFrom [] (stepsOf recipe) (⟨s, []⟩ : Watched (Faulty Party))).state.tried
      (applyFrom [] (stepsOf recipe) s).state.store := by
    rw [← hrelated.2.2]
    exact applyFrom_keeps (Party.calls_keep_accounts s.store) [] (stepsOf recipe) ⟨s, []⟩ (.start s.store)
  have hvalue := hrelated.1.trans h
  rcases applyFrom_tried [] (stepsOf recipe) (⟨s, []⟩ : Watched (Faulty Party)) with ⟨-, htried⟩ | ⟨_, _, _, _, -, hstop, -⟩
  · rw [htried] at haccounts
    exact exchanged_of_passedAll haccounts
  · cases hvalue.symm.trans hstop

end Exchange

/-! ## A potion -/

namespace Sample

def herb : EntityRef := ⟨.item, 8, by decide⟩

def water : EntityRef := ⟨.item, 9, by decide⟩

/-- A potion of two herbs, named one by one, and water. -/
def potion : Recipe where
  result := ⟨.item, 1, Nat.one_pos⟩
  materials := [⟨herb, 1, Nat.one_pos⟩, ⟨water, 1, Nat.one_pos⟩, ⟨herb, 1, Nat.one_pos⟩]
  cost := 50

def party (herbs : Int) : Party where
  held := [(herb, herbs), (water, 1)]
  gold := 60

/-- The purse jams, and then so does the bag when the water is to go back. -/
def jammed : Faulty Party where
  store := party 2
  faults := [(.spend, [(1, some "purse jammed")]), (.add, [(2, none), (1, some "bag full")])]

theorem reachable_party {herbs : Int} (h : 1 ≤ herbs) : (party herbs).Reachable := by
  have hempty : Party.Reachable { gold := 60 } := .made (show Party.make 60 purseCap = .ok _ from rfl)
  have hherbs : Party.Reachable { held := [(herb, herbs)], gold := 60 } := by
    refine hempty.changed (show Party.apply _ (.add herb herbs) = .ok _ from ?_)
    rw [Party.apply, Party.add, if_neg (by omega)]
    simp [Counts.put, Counts.count, Assoc.put, Assoc.get?]
  exact hherbs.changed (show Party.apply _ (.add water 1) = .ok _ from rfl)

end Sample

end Crafting
