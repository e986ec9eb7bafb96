import Mathlib.Algebra.BigOperators.Group.List.Basic
import Crafting.Proofs.Dealings
import Crafting.Proofs.PartyCraft

/-!
# Moves in a workshop

What happens to the party of a workshop is a row of moves, each of them a dealing with the party or a craft. Where no
call is made to fail, all that is owned is what was owned at first and what the moves that were carried out add to it.
Wearing and taking off add nothing. A craft is carried out if its exchange is, also where the refreshing that follows
fails.
-/

namespace Crafting

/-! ## What is added to what is owned -/

/-- What the recipe makes of an entity, less what it needs of it. -/
def Recipe.yield (recipe : Recipe) (ref : EntityRef) : Int :=
  (if ref = recipe.result then 1 else 0) - recipe.need ref

namespace Party

/-- What a dealing that is done adds to all that is owned of an entity. -/
def Dealing.onOwned (ref : EntityRef) : Dealing → Int
  | apply change => change.onHeld ref
  | equip _ | unequip _ => 0
  | exchange recipe => recipe.elim 0 (·.yield ref)

variable {party after : Party}

theorem Exchanged.owned {recipe : Recipe} (h : party.Exchanged recipe after) (ref : EntityRef) :
    after.owned ref = party.owned ref + recipe.yield ref := by
  have hheld := h.held ref
  unfold Party.owned Recipe.yield
  rw [h.equipped]
  omega

theorem Dealing.owned_of_does {dealing : Dealing} (h : dealing.Does party after) (ref : EntityRef) :
    after.owned ref = party.owned ref + dealing.onOwned ref := by
  cases dealing with
  | apply change =>
      have hmoved := moved_of_apply h
      have hheld := hmoved.held ref
      rw [Party.owned, hmoved.equipped, hheld, Party.owned, Dealing.onOwned]
      omega
  | equip piece => exact (Shifted.owned h ref).trans (Int.add_zero _).symm
  | unequip piece => exact (Shifted.owned h ref).trans (Int.add_zero _).symm
  | exchange recipe =>
      obtain ⟨made, rfl, hexchanged⟩ := h
      exact hexchanged.owned ref

end Party

/-! ## Moves -/

namespace Workshop

inductive Move where
  | deal (dealing : Party.Dealing)
  | craft (recipe : Option Recipe)

variable {ι ω : Type} [DecidableEq ι] [Audience ι Notice ω]

namespace Move

/-- Moves; answers whether it was done. -/
def act : Move → Act (Workshop (Faulty Party) ι ω) Bool
  | deal dealing => onInventory dealing.act
  | craft recipe => do return (← Workshop.craft recipe).success

def onOwned (ref : EntityRef) : Move → Int
  | deal dealing => dealing.onOwned ref
  | craft recipe => recipe.elim 0 (·.yield ref)

def isCraft : Move → Bool
  | deal _ => false
  | craft _ => true

/-- The move answers that it was done. -/
def succeeds (move : Move) (w : Workshop (Faulty Party) ι ω) : Bool :=
  match (move.act w).value with
  | .ok done => done
  | .error _ => false

/-- If the move is an exchange or a craft, it can be reported. -/
def Reports (w : Workshop (Faulty Party) ι ω) : Move → Prop
  | deal dealing => dealing.Reports
  | craft recipe => w.Reports recipe

/-- The move is carried out: it answers so, or it is a craft that fails. -/
def isCarriedOut (move : Move) (w : Workshop (Faulty Party) ι ω) : Bool :=
  match (move.act w).value with
  | .ok done => done
  | .error _ => move.isCraft

end Move

/-- Those of a row of moves that were carried out. -/
def carriedOut (moves : List Move) (w : Workshop (Faulty Party) ι ω) : List Move :=
  ((Act.turns Move.act moves w).filter fun turn => turn.1.isCarriedOut turn.2).map Prod.fst

/-- Those of a row of moves that answered that they were done. -/
def succeeded (moves : List Move) (w : Workshop (Faulty Party) ι ω) : List Move :=
  ((Act.turns Move.act moves w).filter fun turn => turn.1.succeeds turn.2).map Prod.fst

/-! ## One move -/

/-- The workshop is as it was at first, up to the party, the bus and the recipes on offer, and no call is made to fail. -/
structure Continues (first w : Workshop (Faulty Party) ι ω) : Prop where
  clear : w.inventory.faults = .clear
  registry : w.registry = first.registry
  mode : w.mode = first.mode
  visibility : w.visibility = first.visibility

section

variable {first w : Workshop (Faulty Party) ι ω}

omit [DecidableEq ι] [Audience ι Notice ω] in
theorem Continues.trans {between : Workshop (Faulty Party) ι ω} (h : Continues first between)
    (hnext : Continues between w) : Continues first w :=
  ⟨hnext.clear, hnext.registry.trans h.registry, hnext.mode.trans h.mode, hnext.visibility.trans h.visibility⟩

omit [DecidableEq ι] [Audience ι Notice ω] in
theorem Continues.reports (h : Continues first w) {recipe : Option Recipe} (hreports : first.Reports recipe) :
    w.Reports recipe := by
  intro made hmade
  have hnamed := hreports made hmade
  rwa [nameOf, ← h.registry] at hnamed

theorem Continues.craft (h : Continues first w) (recipe : Option Recipe) : Continues first (craft recipe w).state := by
  cases craft_crafted (Faulty.eq_of_clear h.clear) recipe with
  | refused _ _ _ hstate | untold _ _ _ hstate =>
      rw [hstate]
      exact ⟨h.clear, h.registry, h.mode, h.visibility⟩
  | listed _ _ _ _ _ _ _ _ _ hstate | unlisted _ _ _ _ _ _ _ _ hstate | unreported _ _ _ _ _ _ hstate =>
      rw [hstate]
      exact ⟨rfl, h.registry, h.mode, h.visibility⟩

/-- A craft that applies makes one whole exchange with the party, and one that does not leaves it as it is. -/
theorem craft_party (hclear : w.inventory.faults = .clear) (recipe : Option Recipe) :
    (w.Applies recipe → ∃ made, recipe = some made ∧
      w.inventory.store.Exchanged made (craft recipe w).state.inventory.store) ∧
    (w.Reports recipe → ¬w.Applies recipe → (craft recipe w).state.inventory = w.inventory) := by
  have hinventory := Faulty.eq_of_clear hclear
  constructor
  · intro happlies
    obtain ⟨made, rfl, hmeets, hcovers, -⟩ := (applies_clear_iff hinventory).1 happlies
    exact ⟨made, rfl, (craft_of_covers hinventory hmeets hcovers).1⟩
  · intro hreports hnot
    refine (craft_of_not_covers hinventory ?_).1
    rintro ⟨made, hrecipe, hmeets, hcovers⟩
    exact hnot ((applies_clear_iff hinventory).2 ⟨made, hrecipe, hmeets, hcovers, (hreports made hrecipe).1⟩)

theorem craft_keeps_equipped (hclear : w.inventory.faults = .clear) (recipe : Option Recipe) :
    (craft recipe w).state.inventory.store.equipped = w.inventory.store.equipped := by
  have hinventory := Faulty.eq_of_clear hclear
  by_cases hmakes : ∃ made, recipe = some made ∧ w.inventory.store.Meets made ∧ w.inventory.store.Covers made
  · -- An exchange consumes and adds what is held; what is worn has no part in it.
    obtain ⟨made, rfl, hmeets, hcovers⟩ := hmakes
    exact (craft_of_covers hinventory hmeets hcovers).1.equipped
  · rw [(craft_of_not_covers hinventory hmakes).1]

section Reported

variable [Audience.Candid ι Notice ω] {recipe : Option Recipe}

/-- What becomes of a craft that can be reported. -/
theorem craft_reported (hclear : w.inventory.faults = .clear) (hreports : w.Reports recipe) :
    (¬w.Applies recipe ∧ (craft recipe w).value = .ok (w.refusal w.inventory.store recipe)) ∨
      (w.Applies recipe ∧ Catalog.Readable w.registry w.mode ∧
        (craft recipe w).value = .ok ⟨true, craftedMessage, recipe⟩) ∨
      (w.Applies recipe ∧ ¬Catalog.Readable w.registry w.mode ∧ ∃ failure, (craft recipe w).value = .error failure) := by
  cases craft_crafted (Faulty.eq_of_clear hclear) recipe with
  | refused _ happlies hvalue => exact .inl ⟨happlies, hvalue⟩
  | listed _ _ _ happlies _ _ hreadable _ hvalue => exact .inr (.inl ⟨happlies, hreadable, hvalue⟩)
  | unlisted _ _ _ happlies _ _ hunreadable hvalue => exact .inr (.inr ⟨happlies, hunreadable, _, hvalue⟩)
  | untold _ hsilent => exact absurd hreports (hsilent inferInstance)
  | unreported _ _ _ hsilent => exact absurd hreports (hsilent inferInstance)

/-- A craft that can be reported fails just when its exchange is carried out and then a note cannot be read. -/
theorem craft_fails_iff (hclear : w.inventory.faults = .clear) (hreports : w.Reports recipe) :
    (∃ failure, (craft recipe w).value = .error failure) ↔
      w.Applies recipe ∧ ¬Catalog.Readable w.registry w.mode := by
  rcases craft_reported hclear hreports with
    ⟨hnot, hvalue⟩ | ⟨-, hreadable, hvalue⟩ | ⟨happlies, hunreadable, failure, hvalue⟩
  · rw [hvalue]
    exact iff_of_false (by rintro ⟨_, ⟨⟩⟩) fun h => hnot h.1
  · rw [hvalue]
    exact iff_of_false (by rintro ⟨_, ⟨⟩⟩) fun h => h.2 hreadable
  · -- The exchange stays although the craft does not answer.
    exact iff_of_true ⟨failure, hvalue⟩ ⟨happlies, hunreadable⟩

end Reported

namespace Move

theorem run_craft (recipe : Option Recipe) (w : Workshop (Faulty Party) ι ω) :
    ((craft recipe).act w).value = (Workshop.craft recipe w).value.map Outcome.success ∧
      ((craft recipe).act w).state = (Workshop.craft recipe w).state := by
  rw [act, Act.run_bind]
  cases (Workshop.craft recipe w).value <;> exact ⟨rfl, rfl⟩

theorem act_continues (first : Workshop (Faulty Party) ι ω) (move : Move) : Act.Keeps (Continues first) move.act := by
  intro w h
  cases move with
  | deal dealing => exact ⟨dealing.act_keeps_clear _ h.clear, h.registry, h.mode, h.visibility⟩
  | craft recipe =>
      rw [(run_craft recipe w).2]
      exact h.craft recipe

theorem isCarriedOut_deal (dealing : Party.Dealing) (w : Workshop (Faulty Party) ι ω) :
    (deal dealing).isCarriedOut w = true ↔ (dealing.act w.inventory).value = .ok true := by
  have hvalue : ((deal dealing).act w).value = (dealing.act w.inventory).value := rfl
  rw [isCarriedOut, hvalue]
  cases (dealing.act w.inventory).value with
  | ok done => rw [Except.ok.injEq]
  | error failure => exact ⟨nofun, nofun⟩

theorem deal_owned (hclear : w.inventory.faults = .clear) {dealing : Party.Dealing} (hreports : dealing.Reports)
    (ref : EntityRef) :
    ((deal dealing).act w).state.inventory.store.owned ref =
      w.inventory.store.owned ref + if (deal dealing).isCarriedOut w then dealing.onOwned ref else 0 := by
  show (dealing.act w.inventory).state.store.owned ref = _
  have hsettled := dealing.act_clear w.inventory.store
  rw [← Faulty.eq_of_clear hclear] at hsettled
  rcases hsettled with ⟨after, hdoes, hstate, hvalue | ⟨hsilent, -⟩⟩ | ⟨hvalue, hstate⟩
  · rw [hstate, if_pos ((isCarriedOut_deal dealing w).2 hvalue)]
    exact Party.Dealing.owned_of_does hdoes ref
  · exact absurd hreports hsilent
  · rw [hstate, if_neg fun hdone => hvalue ((isCarriedOut_deal dealing w).1 hdone), Int.add_zero]

section Reported

variable [Audience.Candid ι Notice ω]

theorem isCarriedOut_craft (hclear : w.inventory.faults = .clear) {recipe : Option Recipe}
    (hreports : w.Reports recipe) : (craft recipe).isCarriedOut w = true ↔ w.Applies recipe := by
  rw [isCarriedOut, (run_craft recipe w).1]
  rcases craft_reported hclear hreports with
    ⟨hnot, hvalue⟩ | ⟨happlies, -, hvalue⟩ | ⟨happlies, -, failure, hvalue⟩
  · rw [hvalue]
    exact iff_of_false (by rintro ⟨⟩) hnot
  · rw [hvalue]
    exact iff_of_true rfl happlies
  · rw [hvalue]
    exact iff_of_true rfl happlies

/-- A move that is carried out adds its share to what is owned, and one that is not adds nothing. -/
theorem act_owned (hclear : w.inventory.faults = .clear) {move : Move} (hreports : move.Reports w) (ref : EntityRef) :
    (move.act w).state.inventory.store.owned ref =
      w.inventory.store.owned ref + if move.isCarriedOut w then move.onOwned ref else 0 := by
  cases move with
  | deal dealing => exact deal_owned hclear hreports ref
  | craft recipe =>
      rw [(run_craft recipe w).2]
      obtain ⟨hexchanges, hunchanged⟩ := craft_party hclear recipe
      by_cases happlies : w.Applies recipe
      · obtain ⟨made, rfl, hexchanged⟩ := hexchanges happlies
        rw [if_pos ((isCarriedOut_craft hclear hreports).2 happlies)]
        exact hexchanged.owned ref
      · rw [if_neg fun hdone => happlies ((isCarriedOut_craft hclear hreports).1 hdone), hunchanged hreports happlies,
          Int.add_zero]

/-- Where every note can be read, no craft fails, and what is carried out is what answers so. -/
theorem isCarriedOut_eq_succeeds (hclear : w.inventory.faults = .clear) (hreadable : Catalog.Readable w.registry w.mode)
    {move : Move} (hreports : move.Reports w) : move.isCarriedOut w = move.succeeds w := by
  unfold isCarriedOut succeeds
  cases hvalue : (move.act w).value with
  | ok done => rfl
  | error failure =>
      cases move with
      | deal dealing => rfl
      | craft recipe =>
          rw [(run_craft recipe w).1] at hvalue
          cases hcraft : (Workshop.craft recipe w).value with
          | ok outcome =>
              rw [hcraft] at hvalue
              cases hvalue
          | error failure => exact absurd hreadable ((craft_fails_iff hclear hreports).1 ⟨failure, hcraft⟩).2

end Reported

omit [DecidableEq ι] [Audience ι Notice ω] in
theorem Reports.of_continues {first w : Workshop (Faulty Party) ι ω} (h : Continues first w) {move : Move}
    (hreports : move.Reports first) : move.Reports w := by
  cases move with
  | deal dealing => exact hreports
  | craft recipe => exact h.reports hreports

end Move

end

/-! ## Moves in a row -/

theorem carriedOut_cons (move : Move) (rest : List Move) (w : Workshop (Faulty Party) ι ω) :
    carriedOut (move :: rest) w =
      if move.isCarriedOut w then move :: carriedOut rest (move.act w).state
      else carriedOut rest (move.act w).state := by
  unfold carriedOut
  rw [Act.turns, List.filter_cons]
  split <;> rfl

section

variable {w : Workshop (Faulty Party) ι ω} (hclear : w.inventory.faults = .clear) (moves : List Move)

omit [DecidableEq ι] [Audience ι Notice ω] in
theorem Continues.start (h : w.inventory.faults = .clear) : Continues w w :=
  ⟨h, rfl, rfl, rfl⟩

include hclear

theorem continues_after : Continues w (Act.after Move.act moves w) :=
  Act.Keeps.after_turns (fun move _ => Move.act_continues w move) (.start hclear)

variable [Audience.Candid ι Notice ω] {moves} (hreports : ∀ move ∈ moves, move.Reports w)

include hreports

/-- By induction on the moves: what the first one leaves is what the others begin with. -/
theorem owned_after (ref : EntityRef) :
    (Act.after Move.act moves w).inventory.store.owned ref =
      w.inventory.store.owned ref + ((carriedOut moves w).map (Move.onOwned ref)).sum := by
  induction moves generalizing w with
  | nil => exact (Int.add_zero _).symm
  | cons move rest ih =>
      obtain ⟨hmove, hothers⟩ := List.forall_mem_cons.1 hreports
      have hcontinues := Move.act_continues w move w (.start hclear)
      have hfirst := Move.act_owned hclear hmove ref
      have hrest := ih hcontinues.clear fun other hother => (hothers other hother).of_continues hcontinues
      show (Act.after Move.act rest (move.act w).state).inventory.store.owned ref = _
      rw [hrest, hfirst, carriedOut_cons]
      split
      · rw [List.map_cons, List.sum_cons]
        omega
      · omega

theorem carriedOut_eq_succeeded (hreadable : Catalog.Readable w.registry w.mode) :
    carriedOut moves w = succeeded moves w := by
  unfold carriedOut succeeded
  refine congrArg (List.map Prod.fst) (List.filter_congr fun turn hturn => ?_)
  have hcontinues : Continues w turn.2 :=
    Act.Keeps.of_mem_turns (fun move _ => Move.act_continues w move) (.start hclear) hturn
  have hreported := (hreports _ (Act.mem_of_mem_turns hturn)).of_continues hcontinues
  refine Move.isCarriedOut_eq_succeeds hcontinues.clear ?_ hreported
  rwa [hcontinues.registry, hcontinues.mode]

/-- Through every row of moves that can be reported, the total of an entity, held and worn, changes by what the moves that
were carried out add, in whatever order they came; to wear and to take off adds nothing, and crafts leave alone what is
worn. Only a craft can be carried out and fail, and does so just when it applies and a note cannot be read; where every
note can be read, the moves carried out are those that answer so. -/
theorem totals_after :
    let after := Act.after Move.act moves w
    (∀ ref, after.inventory.store.owned ref =
      w.inventory.store.owned ref + ((carriedOut moves w).map (Move.onOwned ref)).sum) ∧
    (∀ others, (∀ move ∈ others, move.Reports w) → (carriedOut others w).Perm (carriedOut moves w) → ∀ ref,
      (Act.after Move.act others w).inventory.store.owned ref = after.inventory.store.owned ref) ∧
    (∀ recipe, (craft recipe after).state.inventory.store.equipped = after.inventory.store.equipped ∧
      (w.Reports recipe → ((∃ failure, (craft recipe after).value = .error failure) ↔
        after.Applies recipe ∧ ¬Catalog.Readable w.registry w.mode))) ∧
    (Catalog.Readable w.registry w.mode → carriedOut moves w = succeeded moves w) := by
  intro after
  have hcontinues : Continues w after := continues_after hclear moves
  refine ⟨owned_after hclear hreports, fun others hothers hperm ref => ?_, fun recipe => ⟨?_, fun hrecipe => ?_⟩,
    carriedOut_eq_succeeded hclear hreports⟩
  · rw [owned_after hclear hreports, owned_after hclear hothers, (hperm.map (Move.onOwned ref)).sum_eq]
  · exact craft_keeps_equipped hcontinues.clear recipe
  · rw [craft_fails_iff hcontinues.clear (hcontinues.reports hrecipe), hcontinues.registry, hcontinues.mode]

end

end Workshop

namespace Sample

open Workshop

/-- The scroll stops the refreshing and the craft answers nothing, but its exchange counts. -/
theorem potion_counts :
    (shop ⟨party 2, .clear⟩ [scroll]).inventory.faults = .clear ∧
      succeeded [.craft (some potion)] (shop ⟨party 2, .clear⟩ [scroll]) = [] ∧
      (Act.after Move.act [.craft (some potion)] (shop ⟨party 2, .clear⟩ [scroll])).inventory.store.owned potion.result =
        (party 2).owned potion.result + 1 := by
  have hclear : (shop ⟨party 2, .clear⟩ [scroll]).inventory.faults = .clear := rfl
  have hreports : ∀ move ∈ [Move.craft (some potion)], move.Reports (shop ⟨party 2, .clear⟩ [scroll]) :=
    List.forall_mem_singleton.2 (reports_potion _ rfl)
  have hdone : carriedOut [.craft (some potion)] (shop ⟨party 2, .clear⟩ [scroll]) = [.craft (some potion)] := rfl
  have hsucceeded : succeeded [.craft (some potion)] (shop ⟨party 2, .clear⟩ [scroll]) = [] := rfl
  have htotal := (totals_after hclear hreports).1 potion.result
  rw [hdone] at htotal
  exact ⟨hclear, hsucceeded, htotal⟩

end Sample

end Crafting
