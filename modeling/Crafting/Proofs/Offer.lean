import Crafting.Proofs.Moves

/-!
# The recipes on offer

By default a recipe is on offer while its requirement is owned, so that all hangs on which entities are owned. Gear that
is put on or taken off is owned before and after, a craft that is blocked changes nothing, and after one that succeeds
the catalog is built anew. Between moves the recipes on offer are those that a build would give.
-/

namespace Crafting

/-! ## What a build hangs on -/

/-- Both parties own the same entities, and no call is made to fail. -/
structure Party.OwnsAlike (s t : Faulty Party) : Prop where
  clear : s.faults = .clear
  clear_other : t.faults = .clear
  owns : ∀ ref, s.store.Owns ref ↔ t.store.Owns ref

theorem Visibility.sees_ownsAlike (recipe : Recipe) :
    Act.Related Party.OwnsAlike (requirement.sees recipe) (requirement.sees recipe) := by
  simp only [sees]
  split
  · exact .pure _
  · rename_i ref _
    intro s t h
    rw [Faulty.eq_of_clear h.clear, Faulty.eq_of_clear h.clear_other, Party.run_has, Party.run_has]
    exact ⟨by simp only [h.owns ref], rfl, rfl, rfl, h.owns⟩

namespace Workshop

variable {ι ω : Type} [DecidableEq ι] [Audience ι Notice ω]

/-! ## Fresh offers -/

/-- The workshop goes on from the first one, and what it offers is what a build would give. -/
structure Fresh (first w : Workshop (Faulty Party) ι ω) : Prop extends Continues first w where
  stocked : w.inventory.store.Stocked
  offered : (Catalog.build first.registry Visibility.requirement.sees first.mode w.inventory).value = .ok w.recipes

variable {first w : Workshop (Faulty Party) ι ω}

omit [DecidableEq ι] [Audience ι Notice ω] in
theorem Fresh.sees_looks (h : Fresh first w) (recipe : Recipe) :
    Act.Looks w.inventory (Visibility.requirement.sees recipe) := by
  rw [Faulty.eq_of_clear h.clear]
  exact Visibility.sees_looks .requirement w.inventory.store recipe

omit [DecidableEq ι] [Audience ι Notice ω] in
/-- The requirement of whatever is on offer is owned. -/
theorem Fresh.owns_requirement (h : Fresh first w) {recipe : Recipe} (hrecipe : recipe ∈ w.recipes) {ref : EntityRef}
    (href : recipe.requirement = some ref) : w.inventory.store.Owns ref := by
  have hseen := Catalog.seen_of_scan h.sees_looks h.offered recipe hrecipe
  rw [Faulty.eq_of_clear h.clear] at hseen
  simp only [Visibility.sees, href, Party.run_has, Except.ok.injEq, decide_eq_true_eq] at hseen
  exact hseen

/-! ## One move -/

namespace Move

/-- A craft, or gear that is put on or taken off. -/
def isInner : Move → Bool
  | craft _ | deal (.equip _) | deal (.unequip _) => true
  | deal (.apply _) | deal (.exchange _) => false

/-- Gear that is put on or taken off is owned before and after. -/
theorem fresh_of_wear {dealing : Party.Dealing} (hreports : dealing.Reports) (hwear : ∀ ref, dealing.onOwned ref = 0) :
    Act.Keeps (Fresh first) (deal dealing).act := by
  intro w h
  have hstocked : (dealing.act w.inventory).state.store.Stocked := dealing.act_keeps_stocked _ h.stocked
  have halike : Party.OwnsAlike (dealing.act w.inventory).state w.inventory := by
    refine ⟨dealing.act_keeps_clear _ h.clear, h.clear, fun ref => ?_⟩
    -- Whether or not the piece was moved, the total stays; and with no count below zero the total says what is owned.
    have howned := deal_owned h.clear hreports ref
    rw [hwear, ite_self, Int.add_zero] at howned
    rw [hstocked.owns_iff, h.stocked.owns_iff]
    exact Iff.of_eq (congrArg (0 < ·) howned)
  have hbuild := (Catalog.build_related Visibility.sees_ownsAlike first.registry first.mode _ _ halike).1
  exact ⟨act_continues first (deal dealing) w h.toContinues, hstocked, hbuild.trans h.offered⟩

section Reported

variable [Audience.Candid ι Notice ω] (hdefault : first.visibility = .requirement)

include hdefault

theorem fresh_of_craft {recipe : Option Recipe} (hreports : first.Reports recipe) :
    Act.Keeps (Fresh first) (Workshop.craft recipe) := by
  intro w h
  have hstocked := craft_keeps (Party.calls_keep Party.Stocked fun _ _ _ hparty happly => hparty.apply happly) recipe w
    h.stocked
  refine ⟨h.toContinues.craft recipe, hstocked, ?_⟩
  cases craft_crafted (Faulty.eq_of_clear h.clear) recipe with
  | refused _ _ _ hstate | untold _ _ _ hstate =>
      rw [hstate]
      exact h.offered
  | listed _ _ _ _ _ _ _ hbuilt _ hstate =>
      rw [h.registry, h.mode, h.visibility, hdefault] at hbuilt
      rw [hstate]
      exact hbuilt
  | unlisted _ _ _ _ _ _ hunreadable _ _ =>
      -- A build that succeeded once has read every note.
      have hreadable := Catalog.readable_of_build h.sees_looks h.offered
      rw [← h.registry, ← h.mode] at hreadable
      exact absurd hreadable hunreadable
  | unreported _ _ _ hsilent => exact absurd (h.reports hreports) (hsilent inferInstance)

theorem act_keeps_fresh {move : Move} (hinner : move.isInner = true) (hreports : move.Reports first) :
    Act.Keeps (Fresh first) move.act := by
  cases move with
  | craft recipe =>
      intro w h
      rw [(run_craft recipe w).2]
      exact fresh_of_craft hdefault hreports w h
  | deal dealing =>
      cases dealing with
      | equip ref => exact fresh_of_wear hreports fun _ => rfl
      | unequip ref => exact fresh_of_wear hreports fun _ => rfl
      | apply change => cases hinner
      | exchange recipe => cases hinner

end Reported

end Move

/-! ## Moves in a row -/

variable [Audience.Candid ι Notice ω]

theorem fresh_of_refresh (hparty : w.inventory.store.Reachable) (hclear : w.inventory.faults = .clear)
    (hdefault : w.visibility = .requirement) {recipes : List Recipe}
    (hbuilds : (Catalog.build w.registry Visibility.requirement.sees w.mode w.inventory).value = .ok recipes) :
    (refresh w).value = .ok recipes ∧ Fresh w (refresh w).state := by
  have hlooks : ∀ recipe, Act.Looks w.inventory (Visibility.requirement.sees recipe) := by
    rw [Faulty.eq_of_clear hclear]
    exact Visibility.sees_looks .requirement w.inventory.store
  have hsame := (Catalog.rebuild_looks hlooks (Catalog.readable_of_build hlooks hbuilds)).2
  have hrebuilt : (Catalog.rebuild w.registry w.visibility.sees w.mode w.inventory).value = .ok recipes := by
    rw [hdefault]
    exact Catalog.rebuild_eq_ok_iff.2 hbuilds
  obtain ⟨hvalue, hstate⟩ := refresh_of_ok hrebuilt
  rw [hdefault, hsame] at hstate
  rw [hstate]
  exact ⟨hvalue, ⟨hclear, rfl, rfl, hdefault.symm⟩, hparty.stocked, hbuilds⟩

end Workshop

namespace Sample

open Workshop

/-- A weapon that is made of herbs, where one is owned already. -/
def twig : Entity where
  ref := blade
  name := .string "Twig"
  note := .string "<recipe>\nResult: Weapon 1\nMaterial1: Item 8, 2\nRequirement: Weapon 1\n</recipe>"

def twigRecipe : Recipe where
  result := blade
  materials := [⟨herb, 2, Nat.two_pos⟩]
  requirement := blade
  source := blade

def grove : Workshop (Faulty Party) Empty Unit where
  registry := (({} : Registry).register twig).register { ref := herb, name := .string "Herb", note := .null }
  inventory := ⟨{ held := [(herb, 3), (blade, 1)] }, .clear⟩
  bus := { world := () }

theorem reachable_grove : grove.inventory.store.Reachable := by
  have hempty : Party.Reachable {} := .made (show Party.make 0 purseCap = .ok _ from rfl)
  have hherbs : Party.Reachable { held := [(herb, 3)] } :=
    hempty.changed (show Party.apply _ (.add herb 3) = .ok _ from rfl)
  exact hherbs.changed (show Party.apply _ (.add blade 1) = .ok _ from rfl)

/-- The only twig is put on, another is made, and too few herbs are left for a third. -/
def groveMoves : List Move :=
  [.deal (.equip blade), .craft twigRecipe, .craft twigRecipe]

end Sample

end Crafting
