import Crafting.Note.Printer
import Crafting.Proofs.Note.Block
import Crafting.Proofs.Note.Tag
import Crafting.Proofs.Wording

/-!
# Written recipes

A recipe is written just when each of its numbers has a numeral within the limit, and then as the lines of its fields
between the two tags.
-/

namespace Crafting

/-! ## What a recipe mentions -/

namespace Recipe

theorem forall_mem_entityRefs_iff {recipe : Recipe} {p : EntityRef → Prop} :
    (∀ ref ∈ recipe.entityRefs, p ref) ↔
      p recipe.result ∧ (∀ material ∈ recipe.materials, p material.ref) ∧ ∀ ref ∈ recipe.requirement, p ref := by
  simp only [entityRefs, List.forall_mem_append, List.forall_mem_cons, List.forall_mem_map, Option.mem_toList,
    Option.mem_def, and_assoc]

/-- Every number of a recipe. -/
def numbers (recipe : Recipe) : List Nat :=
  recipe.entityRefs.map (·.id) ++ (recipe.materials.map (·.quantity) ++ [recipe.cost])

theorem forall_mem_numbers_iff {recipe : Recipe} {p : Nat → Prop} :
    (∀ n ∈ recipe.numbers, p n) ↔
      p recipe.result.id ∧ (∀ material ∈ recipe.materials, p material.ref.id ∧ p material.quantity) ∧
        (∀ ref ∈ recipe.requirement, p ref.id) ∧ p recipe.cost := by
  simp only [numbers, List.forall_mem_append, List.forall_mem_map, forall_mem_entityRefs_iff, List.forall_mem_singleton,
    forall_and, and_assoc]
  exact and_congr_right fun _ => and_congr_right fun _ => and_left_comm

end Recipe

namespace Note

open Text

/-! ## Values as they are written -/

def materialValue (material : Material) : List Char :=
  (material.ref.plainText ++ ", " ++ toString material.quantity).toList

/-- The values of a recipe's block; an empty description and a cost of zero are left out. -/
def written (recipe : Recipe) : Values where
  result := recipe.result.plainText.toList
  materials := recipe.materials.map materialValue
  description := if recipe.description.isEmpty then none else some recipe.description.toList
  requirement := recipe.requirement.map fun ref => ref.plainText.toList
  cost := if recipe.cost = 0 then none else some (toString recipe.cost).toList

def capitalized : List Char → List Char
  | [] => []
  | c :: rest => c.toUpper :: rest

def fieldLine (entry : List Char × List Char) : String :=
  String.ofList (capitalized entry.1 ++ ':' :: ' ' :: entry.2)

theorem fieldLine_eq {label value : String} {key : List Char} (h : label.toList = capitalized key ++ [':', ' ']) :
    label ++ value = fieldLine (key, value.toList) := by
  rw [← String.toList_inj, fieldLine, String.toList_append, String.toList_ofList, h, List.append_assoc]
  rfl

theorem materialLine_eq (number : Nat) (material : Material) :
    "Material" ++ toString number ++ ": " ++ material.ref.plainText ++ ", " ++ toString material.quantity =
      fieldLine (materialKey number, materialValue material) := by
  have hlabel : ("Material" ++ toString number ++ ": ").toList = capitalized (materialKey number) ++ [':', ' '] := by
    rw [materialKey, String.toList_append, String.toList_append, String.toList_append]
    rfl
  rw [materialValue, ← fieldLine_eq hlabel]
  simp only [String.append_assoc]

/-! ## Writing -/

theorem materialLines_eq_ok_iff {number : Nat} {materials : List Material} {found : List String} :
    materialLines number materials = .ok found ↔
      (∀ material ∈ materials, Numeral.Writable material.ref.id ∧ Numeral.Writable material.quantity) ∧
      found = (materialEntries number (materials.map materialValue)).map fieldLine := by
  induction materials generalizing number found with
  | nil => simp [materialLines, materialEntries, eq_comm]
  | cons material rest ih =>
      simp only [materialLines, Result.bind_eq_ok_iff, Result.pure_eq_ok_iff, EntityRef.text_eq_ok_iff, writeNumber_eq_ok_iff,
        ih, List.forall_mem_cons]
      have hlines : (materialEntries number ((material :: rest).map materialValue)).map fieldLine =
          fieldLine (materialKey number, materialValue material) ::
            (materialEntries (number + 1) (rest.map materialValue)).map fieldLine := rfl
      rw [hlines, ← materialLine_eq]
      constructor
      · rintro ⟨_, ⟨href, rfl⟩, _, ⟨hquantity, rfl⟩, _, ⟨hrest, rfl⟩, rfl⟩
        exact ⟨⟨⟨href, hquantity⟩, hrest⟩, rfl⟩
      · rintro ⟨⟨⟨href, hquantity⟩, hrest⟩, rfl⟩
        exact ⟨_, ⟨href, rfl⟩, _, ⟨hquantity, rfl⟩, _, ⟨hrest, rfl⟩, rfl⟩

theorem requirementLines_eq_ok_iff {requirement : Option EntityRef} {found : List String} :
    requirementLines requirement = .ok found ↔
      (∀ ref ∈ requirement, Numeral.Writable ref.id) ∧
      found = (optionalEntry "requirement" (requirement.map fun ref => ref.plainText.toList)).map fieldLine := by
  cases requirement with
  | none => simp [requirementLines, optionalEntry, eq_comm]
  | some ref =>
      have hline : "Requirement: " ++ ref.plainText = fieldLine ("requirement".toList, ref.plainText.toList) := fieldLine_eq rfl
      have hlines : (optionalEntry "requirement" ((some ref).map fun ref => ref.plainText.toList)).map fieldLine =
          [fieldLine ("requirement".toList, ref.plainText.toList)] := rfl
      rw [hlines, ← hline]
      simp only [requirementLines, Result.bind_eq_ok_iff, Result.pure_eq_ok_iff, EntityRef.text_eq_ok_iff]
      constructor
      · rintro ⟨_, ⟨href, rfl⟩, rfl⟩
        exact ⟨fun _ h => by cases h; exact href, rfl⟩
      · rintro ⟨href, rfl⟩
        exact ⟨_, ⟨href ref rfl, rfl⟩, rfl⟩

theorem costLines_eq_ok_iff {cost : Nat} {found : List String} :
    costLines cost = .ok found ↔
      Numeral.Writable cost ∧
      found = (optionalEntry "cost" (if cost = 0 then none else some (toString cost).toList)).map fieldLine := by
  rw [costLines]
  split
  · rename_i hfree
    rw [hfree]
    exact ⟨fun h => ⟨Numeral.writable_zero, (Except.ok.inj h).symm⟩, fun h => congrArg _ h.2.symm⟩
  · have hline : "Cost: " ++ toString cost = fieldLine ("cost".toList, (toString cost).toList) := fieldLine_eq rfl
    have hlines : (optionalEntry "cost" (some (toString cost).toList)).map fieldLine =
        [fieldLine ("cost".toList, (toString cost).toList)] := rfl
    rw [hlines, ← hline]
    simp only [Result.bind_eq_ok_iff, Result.pure_eq_ok_iff, writeNumber_eq_ok_iff]
    constructor
    · rintro ⟨_, ⟨hcost, rfl⟩, rfl⟩
      exact ⟨hcost, rfl⟩
    · rintro ⟨hcost, rfl⟩
      exact ⟨_, ⟨hcost, rfl⟩, rfl⟩

theorem descriptionLines_eq (recipe : Recipe) :
    (if recipe.description.isEmpty then [] else ["Description: " ++ recipe.description]) =
      (optionalEntry "description" (written recipe).description).map fieldLine := by
  rw [written]
  split
  · rfl
  · exact congrArg ([·]) (fieldLine_eq rfl)

/-- The lines of a recipe's block, tags included. -/
theorem blockLines_eq_ok_iff {recipe : Recipe} {found : List String} :
    blockLines recipe = .ok found ↔
      (∀ n ∈ recipe.numbers, Numeral.Writable n) ∧
      found = ["<recipe>"] ++ (written recipe).entries.map fieldLine ++ ["</recipe>"] := by
  have hresult : "Result: " ++ recipe.result.plainText = fieldLine ("result".toList, recipe.result.plainText.toList) :=
    fieldLine_eq rfl
  -- The lines are listed in another grouping than the entries.
  have hentries : (written recipe).entries.map fieldLine =
      ("Result: " ++ recipe.result.plainText) :: ((materialEntries 1 (recipe.materials.map materialValue)).map fieldLine ++
        ((if recipe.description.isEmpty then [] else ["Description: " ++ recipe.description]) ++
          ((optionalEntry "requirement" (recipe.requirement.map fun ref => ref.plainText.toList)).map fieldLine ++
            (optionalEntry "cost" (if recipe.cost = 0 then none else some (toString recipe.cost).toList)).map
              fieldLine))) := by
    rw [hresult, descriptionLines_eq, Values.entries]
    simp only [List.map_cons, List.map_append]
    rfl
  rw [hentries, Recipe.forall_mem_numbers_iff]
  simp only [blockLines, Result.bind_eq_ok_iff, Result.pure_eq_ok_iff, EntityRef.text_eq_ok_iff, materialLines_eq_ok_iff,
    requirementLines_eq_ok_iff, costLines_eq_ok_iff]
  constructor
  · rintro ⟨_, ⟨hresult, rfl⟩, _, ⟨hmaterials, rfl⟩, _, ⟨hrequirement, rfl⟩, _, ⟨hcost, rfl⟩, rfl⟩
    refine ⟨⟨hresult, hmaterials, hrequirement, hcost⟩, ?_⟩
    simp only [List.append_assoc, List.cons_append, List.nil_append]
  · rintro ⟨⟨hresult, hmaterials, hrequirement, hcost⟩, rfl⟩
    refine ⟨_, ⟨hresult, rfl⟩, _, ⟨hmaterials, rfl⟩, _, ⟨hrequirement, rfl⟩, _, ⟨hcost, rfl⟩, ?_⟩
    simp only [List.append_assoc, List.cons_append, List.nil_append]

theorem intercalate_concat {α : Type} (sep : List α) (parts : List (List α)) (last : List α) :
    sep.intercalate (parts ++ [last]) = parts.flatMap (· ++ sep) ++ last := by
  induction parts with
  | nil => simp
  | cons part rest ih =>
      cases rest with
      | nil => simp
      | cons next rest => simp_all

/-- What stands between the tags of a written recipe. -/
def writtenBody (recipe : Recipe) : List Char :=
  ([] :: (written recipe).entries.map fun entry => (fieldLine entry).toList).flatMap (· ++ ['\n'])

theorem render_eq_ok_iff {recipe : Recipe} {text : String} :
    render recipe = .ok text ↔
      (∀ n ∈ recipe.numbers, Numeral.Writable n) ∧ text.toList = openTag ++ (writtenBody recipe ++ closeTag) := by
  have htext : ("\n".intercalate (["<recipe>"] ++ (written recipe).entries.map fieldLine ++ ["</recipe>"])).toList =
      openTag ++ (writtenBody recipe ++ closeTag) := by
    rw [String.toList_intercalate, List.map_append]
    refine (intercalate_concat _ _ _).trans ?_
    simp only [writtenBody, List.map_append, List.map_cons, List.map_nil, List.map_map, List.flatMap_append,
      List.flatMap_cons, List.flatMap_nil, List.append_nil, List.nil_append, List.append_assoc]
    rfl
  rw [← htext, String.toList_inj]
  simp only [render, Result.bind_eq_ok_iff, Result.pure_eq_ok_iff, blockLines_eq_ok_iff]
  constructor
  · rintro ⟨_, ⟨hwritable, rfl⟩, rfl⟩
    exact ⟨hwritable, rfl⟩
  · rintro ⟨hwritable, rfl⟩
    exact ⟨_, ⟨hwritable, rfl⟩, rfl⟩

end Note

end Crafting
