import Mathlib.Data.List.Basic
import Crafting.Proofs.Availability
import Crafting.Proofs.Catalog

/-!
# More of everything

To have more never takes anything away. A party with at least as much of everything passes every check that the other
passes, can make every exchange that the other makes, and is shown whatever the other is shown, in the same order.
-/

namespace Crafting

namespace Party

/-- The richer party holds and wears at least as many of each entity, and has at least as much gold. -/
structure AtMost (party richer : Party) : Prop where
  held : ∀ ref, party.held.count ref ≤ richer.held.count ref
  equipped : ∀ ref, party.equipped.count ref ≤ richer.equipped.count ref
  gold : party.gold ≤ richer.gold

/-- Whether a recipe is shown to the party by default. -/
def isShown (party : Party) (recipe : Recipe) : Bool :=
  recipe.requirement.all fun ref => party.Owns ref

namespace AtMost

variable {party richer : Party} (h : party.AtMost richer) {recipe : Recipe}

include h

theorem owns {ref : EntityRef} (howns : party.Owns ref) : richer.Owns ref := by
  have hheld := h.held ref
  have hworn := h.equipped ref
  rcases howns with hsome | hsome
  · left
    omega
  · right
    omega

theorem affords {cost : Nat} (hcost : cost = 0 ∨ (cost : Int) ≤ party.gold) : cost = 0 ∨ (cost : Int) ≤ richer.gold :=
  hcost.imp_right fun hgold => Int.le_trans hgold h.gold

theorem meets (hmeets : party.Meets recipe) : richer.Meets recipe where
  materials_ne_nil := hmeets.materials_ne_nil
  materials m hm := Int.le_trans (hmeets.materials m hm) (h.held m.ref)
  requirement ref href := h.owns (hmeets.requirement ref href)
  cost := h.affords hmeets.cost

theorem covers (hcovers : party.Covers recipe) : richer.Covers recipe where
  materials m hm := Int.le_trans (hcovers.materials m hm) (h.held m.ref)
  cost := h.affords hcovers.cost

theorem isShown (hshown : party.isShown recipe = true) : richer.isShown recipe = true := by
  unfold Party.isShown at hshown ⊢
  cases hrequirement : recipe.requirement with
  | none => rfl
  | some ref =>
      rw [hrequirement] at hshown
      exact decide_eq_true (h.owns (of_decide_eq_true hshown))

end AtMost

end Party

/-! ## What is granted to a party -/

namespace Catalog

theorem sees_clear (party : Party) (recipe : Recipe) :
    Visibility.requirement.sees recipe (⟨party, .clear⟩ : Faulty Party) =
      ⟨.ok (party.isShown recipe), ⟨party, .clear⟩, []⟩ := by
  unfold Party.isShown
  simp only [Visibility.sees]
  cases recipe.requirement with
  | none => rfl
  | some ref => exact Party.run_has party ref

/-- By default a party is shown the known recipes whose requirement it owns. -/
theorem build_clear {party : Party} {registry : Registry} {mode : Note.Mode} {found : List Recipe} :
    (build registry Visibility.requirement.sees mode (⟨party, .clear⟩ : Faulty Party)).value = .ok found ↔
      Readable registry mode ∧ found = (known registry mode registry.craftable).filter party.isShown := by
  rw [build_eq_ok_iff (sees_clear party)]
  exact and_congr_right fun _ => and_iff_right fun recipe _ => ⟨_, rfl⟩

end Catalog

/-- What a party is found ready for, can exchange or is shown, so is a party that has at least as much of everything. -/
theorem Party.richer_lacks_nothing {party richer : Party} (h : party.AtMost richer) :
    (∀ registry recipe, (Verdict.judge registry recipe (⟨party, .clear⟩ : Faulty Party)).value = .ok .ready →
      (Verdict.judge registry recipe (⟨richer, .clear⟩ : Faulty Party)).value = .ok .ready) ∧
    (∀ recipe, (Exchange.run recipe (⟨party, .clear⟩ : Faulty Party)).value = .ok .applied →
      (Exchange.run recipe (⟨richer, .clear⟩ : Faulty Party)).value = .ok .applied) ∧
    ∀ registry mode,
      let shown := fun party : Party =>
        (Catalog.build registry Visibility.requirement.sees mode (⟨party, .clear⟩ : Faulty Party)).value
      ((∃ found, shown party = .ok found) ↔ ∃ more, shown richer = .ok more) ∧
        ∀ found more, shown party = .ok found → shown richer = .ok more → found.Sublist more := by
  refine ⟨fun registry recipe hready => ?_, fun recipe happlied => ?_, fun registry mode => ?_⟩
  · obtain ⟨made, hmade, hmeets⟩ := (Verdict.judge_clear_eq_ready_iff party registry recipe).1 hready
    exact (Verdict.judge_clear_eq_ready_iff richer registry recipe).2 ⟨made, hmade, h.meets hmeets⟩
  · obtain ⟨made, hmade, hmaterials, hcovers, hreport⟩ := Exchange.run_eq_applied_iff.1 happlied
    exact Exchange.run_eq_applied_iff.2 ⟨made, hmade, hmaterials, h.covers hcovers, hreport⟩
  · -- Both builds read the same notes, and only what is shown of them differs.
    simp only [Catalog.build_clear]
    constructor
    · exact ⟨fun ⟨_, hreadable, _⟩ => ⟨_, hreadable, rfl⟩, fun ⟨_, hreadable, _⟩ => ⟨_, hreadable, rfl⟩⟩
    · rintro found more ⟨-, rfl⟩ ⟨-, rfl⟩
      exact List.monotone_filter_right _ fun recipe hshown => h.isShown hshown

namespace Sample

/-- An item that is refilled where one is owned, and made of two. -/
def flask : Entity where
  ref := ⟨.item, 1, Nat.one_pos⟩
  name := .string "Flask"
  note := .string ("<recipe>\nResult: Item 1\nMaterial1: Item 1, 1\nRequirement: Item 1\n</recipe>" ++
    "<recipe>\nResult: Item 1\nMaterial1: Item 1, 2\n</recipe>")

def refill : Recipe where
  result := flask.ref
  materials := [⟨flask.ref, 1, Nat.one_pos⟩]
  requirement := flask.ref
  source := flask.ref

def doubled : Recipe where
  result := flask.ref
  materials := [⟨flask.ref, 2, Nat.two_pos⟩]
  source := flask.ref

theorem declared_flask : (Catalog.declared .every flask ()).value = .ok [refill, doubled] := by
  decide +kernel

theorem declaredBy_flask : Catalog.declaredBy .every flask = [refill, doubled] :=
  Catalog.declaredBy_of_ok declared_flask

def cellar : Registry :=
  ({} : Registry).register flask

theorem known_cellar : Catalog.known cellar .every cellar.craftable = [refill, doubled] := by
  show (List.flatMap _ [flask]).filter _ = _
  rw [List.flatMap_singleton, declaredBy_flask]
  rfl

theorem readable_cellar : Catalog.Readable cellar .every := by
  refine List.forall_mem_singleton.2 ⟨⟨_, declared_flask⟩, fun recipe hrecipe hunknown => absurd ?_ hunknown⟩
  rw [declaredBy_flask] at hrecipe
  rcases List.mem_pair.1 hrecipe with rfl | rfl <;> rfl

/-- Enough for a potion, and a flask besides. -/
def hoard : Party where
  held := [(herb, 3), (water, 1), (flask.ref, 1)]
  gold := 60

theorem party_atMost_hoard : (party 2).AtMost hoard where
  held ref := by
    simp only [Counts.count, Assoc.get?, party, hoard]
    repeat' split
    all_goals simp
  equipped _ := Int.le_refl _
  gold := Int.le_refl _

theorem hoard_lacks_nothing :
    (party 2).AtMost hoard ∧
      (Verdict.judge none (some potion) (⟨hoard, .clear⟩ : Faulty Party)).value = .ok .ready ∧
      (Exchange.run (some potion) (⟨hoard, .clear⟩ : Faulty Party)).value = .ok .applied ∧
      [doubled].Sublist [refill, doubled] := by
  obtain ⟨hready, happlied, hshown⟩ := Party.richer_lacks_nothing party_atMost_hoard
  refine ⟨party_atMost_hoard, hready _ _ (by decide +kernel), happlied _ (by decide +kernel), ?_⟩
  -- Without a flask only the recipe that requires none is shown.
  have hfound : (Catalog.build cellar Visibility.requirement.sees .every (⟨party 2, .clear⟩ : Faulty Party)).value =
      .ok [doubled] :=
    Catalog.build_clear.2 ⟨readable_cellar, by rw [known_cellar]; rfl⟩
  have hmore : (Catalog.build cellar Visibility.requirement.sees .every (⟨hoard, .clear⟩ : Faulty Party)).value =
      .ok [refill, doubled] :=
    Catalog.build_clear.2 ⟨readable_cellar, by rw [known_cellar]; rfl⟩
  exact (hshown cellar .every).2 _ _ hfound hmore

end Sample

end Crafting
