import Crafting.Proofs.Assoc
import Crafting.Recipe

/-!
# What a recipe needs

The totals of a recipe list every material's entity once, with what the recipe needs of it in all.
-/

namespace Crafting

theorem Recipe.need_eq (recipe : Recipe) (ref : EntityRef) : recipe.need ref = neededOf recipe.materials ref :=
  rfl

@[simp] theorem neededOf_nil (ref : EntityRef) : neededOf [] ref = 0 :=
  rfl

@[simp] theorem neededOf_cons (material : Material) (rest : List Material) (ref : EntityRef) :
    neededOf (material :: rest) ref = (if material.ref = ref then material.quantity else 0) + neededOf rest ref :=
  rfl

theorem neededOf_eq_zero {materials : List Material} {ref : EntityRef} (h : ∀ m ∈ materials, m.ref ≠ ref) :
    neededOf materials ref = 0 := by
  induction materials with
  | nil => rfl
  | cons material rest ih =>
      rw [neededOf_cons, if_neg (h material List.mem_cons_self), ih fun m hm => h m (List.mem_cons_of_mem _ hm)]

theorem quantity_le_neededOf {materials : List Material} {material : Material} (h : material ∈ materials) :
    material.quantity ≤ neededOf materials material.ref := by
  induction materials with
  | nil => cases h
  | cons other rest ih =>
      rw [neededOf_cons]
      rcases List.mem_cons.1 h with rfl | hmem
      · rw [if_pos rfl]
        omega
      · have hrest := ih hmem
        omega

/-- A material whose entity no other names is all that is needed of it. -/
theorem neededOf_eq_quantity {materials : List Material} (hnodup : (materials.map (·.ref)).Nodup) {material : Material}
    (h : material ∈ materials) : neededOf materials material.ref = material.quantity := by
  induction materials with
  | nil => cases h
  | cons other rest ih =>
      obtain ⟨hfresh, hrest⟩ := List.nodup_cons.1 hnodup
      rw [neededOf_cons]
      rcases List.mem_cons.1 h with rfl | hmem
      · rw [if_pos rfl, neededOf_eq_zero fun m hm e => hfresh (List.mem_map.2 ⟨m, hm, e⟩), Nat.add_zero]
      · have hne : other.ref ≠ material.ref := fun e => hfresh (List.mem_map.2 ⟨material, hmem, e.symm⟩)
        rw [if_neg hne, ih hrest hmem, Nat.zero_add]

/-! ## Totals -/

def totalsFrom (totals : List (EntityRef × Nat)) (materials : List Material) : List (EntityRef × Nat) :=
  materials.foldl (fun totals m => addTotal totals m.ref m.quantity) totals

theorem distinct_totalsFrom {totals : List (EntityRef × Nat)} (h : Assoc.Distinct totals) (materials : List Material) :
    Assoc.Distinct (totalsFrom totals materials) := by
  induction materials generalizing totals with
  | nil => exact h
  | cons material rest ih => exact ih (Assoc.distinct_put _ _ h)

theorem get?_totalsFrom (totals : List (EntityRef × Nat)) (materials : List Material) (ref : EntityRef) :
    Assoc.get? ref (totalsFrom totals materials) =
      if (Assoc.get? ref totals).isSome ∨ ref ∈ materials.map (·.ref) then
        some ((Assoc.get? ref totals).getD 0 + neededOf materials ref)
      else none := by
  -- By induction on the materials, whatever totals they are added to.
  induction materials generalizing totals with
  | nil => cases h : Assoc.get? ref totals <;> simp [totalsFrom, h]
  | cons material rest ih =>
      show Assoc.get? ref (totalsFrom (addTotal totals material.ref material.quantity) rest) = _
      rw [ih, addTotal]
      by_cases h : material.ref = ref
      · subst h
        simp [Nat.add_assoc]
      · have hne : ref ≠ material.ref := fun e => h e.symm
        simp [Assoc.get?_put_of_ne hne, h, hne]

/-- The totals are what the recipe needs of each entity that a material names. -/
theorem Recipe.mem_totals {recipe : Recipe} {ref : EntityRef} {quantity : Nat} :
    (ref, quantity) ∈ recipe.totals ↔ ref ∈ recipe.materials.map (·.ref) ∧ quantity = recipe.need ref := by
  have hget := get?_totalsFrom [] recipe.materials ref
  have hdistinct : Assoc.Distinct (totalsFrom [] recipe.materials) :=
    distinct_totalsFrom (show Assoc.Distinct [] from List.nodup_nil) _
  rw [show recipe.totals = totalsFrom [] recipe.materials from rfl, Assoc.mem_iff_get? hdistinct, hget, need_eq]
  by_cases h : ref ∈ recipe.materials.map (·.ref)
  · simp [h, Assoc.get?, eq_comm]
  · simp [h, Assoc.get?]

end Crafting
