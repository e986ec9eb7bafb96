import Crafting.Proofs.Note.Block

/-!
# Costs that are too long

A block that declares no recipe is malformed, unless nothing but its cost is wrong, and with the cost only that it has
too many digits. Such a block is refused for its cost.
-/

namespace Crafting.Note

open Text

/-- The block declares a recipe but for its cost: that many decimal digits, which are too many. -/
def CostTooLong (body : List Char) (digits : Nat) : Prop :=
  ∃ (values : Values) (numeral : List Char) (recipe : Recipe),
    List.Forall₂ (fun line entry => IsField (trim line) entry.1 entry.2)
      ((lines body).filter fun line => trim line ≠ []) values.entries ∧
    values.cost = some numeral ∧ (∀ c ∈ numeral, isDecimal c = true) ∧ numeral.length = digits ∧
    Numeral.maxDigits < digits ∧ Values.Give { values with cost := none } recipe

theorem readCost_eq_error_iff {field : Field} {digits : Nat} :
    readCost field = .error (.costTooLong digits) ↔
      (∀ c ∈ field.value, isDecimal c = true) ∧ field.value.length = digits ∧ Numeral.maxDigits < digits := by
  rw [readCost, Numeral.ofDigits]
  split
  · rename_i h
    obtain ⟨-, hdecimal⟩ : field.value ≠ [] ∧ ∀ c ∈ field.value, isDecimal c = true := by simpa using h
    split
    · rename_i hlength
      constructor
      · rintro ⟨⟩
      · rintro ⟨-, rfl, hlong⟩
        omega
    · rename_i hlength
      rw [Result.mapError_eq_error_iff]
      constructor
      · rintro ⟨_, ⟨⟩, ⟨⟩⟩
        exact ⟨hdecimal, rfl, by omega⟩
      · rintro ⟨-, rfl, -⟩
        exact ⟨_, rfl, rfl⟩
  · rename_i h
    constructor
    · rintro ⟨⟩
    · rintro ⟨hdecimal, hlength, hlong⟩
      -- Digits beyond the limit are some digits, so that the value is a number.
      have hne : field.value ≠ [] := by
        rintro hnil
        rw [hnil, List.length_nil] at hlength
        omega
      exact absurd (by simpa using ⟨hne, hdecimal⟩) h

theorem readOptional_eq_error_iff {α : Type} {absent : α} {read : Field → Except Refusal α} {given : Option Field}
    {refusal : Refusal} :
    readOptional absent read given = .error refusal ↔ ∃ field, given = some field ∧ read field = .error refusal := by
  cases given with
  | none => simp [readOptional]
  | some field => simp [readOptional]

/-- What is refused for its cost is in order otherwise. -/
theorem readBlock_eq_costTooLong_iff {body : List Char} {source : Option EntityRef} {digits : Nat} :
    readBlock body source = .error (.costTooLong digits) ↔ CostTooLong body digits := by
  have hmalformed : ∀ {α : Type} (result : Except Fault α),
      ¬result.mapError Refusal.malformed = .error (.costTooLong digits) := by
    intro α result h
    obtain ⟨fault, -, ⟨⟩⟩ := Result.mapError_eq_error_iff.1 h
  rw [readBlock]
  -- Of the steps of reading, only that of the cost refuses for the cost.
  simp only [Result.bind_eq_error_iff, Result.mapError_eq_ok_iff, readOptional_eq_error_iff, hmalformed,
    readCost_eq_error_iff, readOptional_eq_ok_iff fun _ => readRequirement_eq_ok_iff, pure, Except.pure, reduceCtorEq,
    and_false, exists_false, false_or, or_false]
  constructor
  · rintro ⟨layout, hlayout, requirement, hrequirement, field, hfield, hdecimal, hlength, hlong⟩
    obtain ⟨values, hlines, hfill⟩ := exists_values_of_layout hlayout
    have hcost : values.cost = some field.value := by
      rw [← hfill.cost, hfield]
      rfl
    -- The recipe is the one that the block would declare without its cost.
    let recipe : Recipe := {
      result := layout.result, materials := layout.materials
      description := String.ofList (values.description.getD [])
      requirement }
    have hgive : Values.Give { values with cost := none } recipe :=
      ⟨hfill.result, hfill.materials_ne_nil, hfill.materials, rfl, hfill.requirement ▸ hrequirement, rfl⟩
    exact ⟨values, field.value, recipe, hlines, hcost, hdecimal, hlength, hlong, hgive⟩
  · rintro ⟨values, numeral, recipe, hlines, hcost, hdecimal, hlength, hlong, hgive⟩
    obtain ⟨layout, hlayout, hfill, -, -⟩ :=
      exists_layout_of_values hlines hgive.result hgive.materials_ne_nil hgive.materials
    obtain ⟨field, hfield, rfl⟩ := Option.map_eq_some_iff.1 (hfill.cost.trans hcost)
    exact ⟨layout, hlayout, recipe.requirement, hfill.requirement ▸ hgive.requirement, field, hfield, hdecimal, hlength,
      hlong⟩

/-- A block that is malformed neither declares a recipe nor is refused for its cost alone. -/
theorem exists_malformed_iff {body : List Char} (source : Option EntityRef) :
    (∃ fault, readBlock body source = .error (.malformed fault)) ↔
      (¬∃ recipe, Declares body recipe) ∧ ∀ digits, ¬CostTooLong body digits := by
  have hrefused := fun digits => @readBlock_eq_costTooLong_iff body source digits
  simp only [← hrefused]
  constructor
  · rintro ⟨fault, hfault⟩
    refine ⟨fun ⟨recipe, hdeclares⟩ => ?_, fun digits hlong => ?_⟩
    · have hread := readBlock_eq_ok_iff.2 ⟨hdeclares.withSource source, rfl⟩
      rw [hfault] at hread
      cases hread
    · rw [hfault] at hlong
      cases hlong
  · rintro ⟨hnone, hlong⟩
    cases hread : readBlock body source with
    | ok recipe => exact absurd ⟨recipe, (readBlock_eq_ok_iff.1 hread).1⟩ hnone
    | error refusal =>
        cases refusal with
        | malformed fault => exact ⟨fault, rfl⟩
        | costTooLong digits => exact absurd hread (hlong digits)

/-- The source plays no part in reading, and is only put down in what is read. -/
theorem readBlock_source (body : List Char) (source : Option EntityRef) :
    readBlock body source = (readBlock body none).map fun recipe => { recipe with source } := by
  rw [readBlock, readBlock]
  simp only [Result.map_bind]
  rfl

end Crafting.Note
