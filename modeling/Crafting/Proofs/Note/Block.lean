import Crafting.Proofs.Note.Value

/-!
# The grammar of blocks

A block declares a recipe just when its lines are fields in the fixed order, the materials numbered from one without a
gap, and each value has its form. Reading a block finds the declared recipe, and refuses every other block.
-/

namespace Crafting.Note

open Text

/-! ## Fields in their order -/

/-- A field that may be left out, with that key where it stands. -/
def Keyed (key : String) (field : Option Field) : Prop :=
  ∀ given ∈ field, given.key = key.toList

theorem takeField_of_ne {key : String} {rest : List Field} (h : ∀ field ∈ rest.head?, field.key ≠ key.toList) :
    takeField key rest = (none, rest) := by
  cases rest with
  | nil => rfl
  | cons field others => exact if_neg (h field rfl)

theorem takeField_append {key : String} {taken : Option Field} {rest : List Field} (htaken : Keyed key taken)
    (hrest : ∀ field ∈ rest.head?, field.key ≠ key.toList) : takeField key (taken.toList ++ rest) = (taken, rest) := by
  cases taken with
  | some field => exact if_pos (htaken field rfl)
  | none => exact takeField_of_ne hrest

/-- What is taken stood first, and has the key. -/
theorem exists_takeField (key : String) (found : List Field) :
    ∃ taken rest, takeField key found = (taken, rest) ∧ found = taken.toList ++ rest ∧ Keyed key taken := by
  cases found with
  | nil => exact ⟨none, [], rfl, rfl, fun _ h => nomatch h⟩
  | cons field rest =>
      by_cases hkey : field.key = key.toList
      · exact ⟨some field, rest, if_pos hkey, rfl, fun _ h => by cases h; exact hkey⟩
      · exact ⟨none, field :: rest, if_neg hkey, rfl, fun _ h => nomatch h⟩

def materialKey (number : Nat) : List Char :=
  ("material" ++ toString number).toList

/-- The entries of materials, numbered from `number` on. -/
def materialEntries (number : Nat) (values : List (List Char)) : List (List Char × List Char) :=
  (values.zipIdx number).map fun (value, number) => (materialKey number, value)

theorem entries_eq_nil_iff {number : Nat} {found : List Field} :
    found.map Field.entry = materialEntries number [] ↔ found = [] :=
  List.map_eq_nil_iff

theorem entries_eq_cons_iff {number : Nat} {found : List Field} {value : List Char} {rest : List (List Char)} :
    found.map Field.entry = materialEntries number (value :: rest) ↔
      ∃ field others, found = field :: others ∧ field.key = materialKey number ∧ field.value = value ∧
        others.map Field.entry = materialEntries (number + 1) rest := by
  have hcons : materialEntries number (value :: rest) =
      (materialKey number, value) :: materialEntries (number + 1) rest := rfl
  rw [hcons, List.map_eq_cons_iff]
  simp only [Field.entry, Prod.mk.injEq, and_assoc]

/-- The materials are the fields whose keys go on counting. -/
theorem readMaterials_eq_ok_iff {number : Nat} {found rest : List Field} {materials : List Material} :
    readMaterials number found = .ok (materials, rest) ↔
      ∃ taken values, found = taken ++ rest ∧ taken.map Field.entry = materialEntries number values ∧
        List.Forall₂ NamesMaterial values materials ∧
        ∀ field ∈ rest.head?, field.key ≠ materialKey (number + values.length) := by
  -- On the fields: the first one has the next number, or the materials end before it.
  induction found generalizing number materials with
  | nil =>
      constructor
      · rintro ⟨⟩
        exact ⟨[], [], rfl, rfl, .nil, fun _ h => nomatch h⟩
      · rintro ⟨taken, values, hfound, hentries, hmaterials, -⟩
        obtain ⟨rfl, rfl⟩ := List.nil_eq_append_iff.1 hfound
        cases hmaterials with
        | nil => rfl
        | cons hmaterial hrest => cases hentries
  | cons field others ih =>
      rw [readMaterials]
      by_cases hkey : field.key = ("material" ++ toString number).toList
      · rw [if_pos hkey]
        simp only [Result.bind_eq_ok_iff, Result.pure_eq_ok_iff, readMaterial_eq_ok_iff, Prod.exists, Prod.mk.injEq]
        constructor
        · rintro ⟨material, hmaterial, more, left, hmore, rfl, rfl⟩
          obtain ⟨taken, values, rfl, hentries, hmaterials, hstop⟩ := ih.1 hmore
          refine ⟨field :: taken, field.value :: values, rfl, ?_, .cons hmaterial hmaterials, ?_⟩
          · exact entries_eq_cons_iff.2 ⟨field, taken, rfl, hkey, rfl, hentries⟩
          · rwa [List.length_cons, Nat.add_comm values.length, ← Nat.add_assoc]
        · rintro ⟨taken, values, hfound, hentries, hmaterials, hstop⟩
          cases hmaterials with
          | nil =>
              -- The first field has the next number, so the materials do not end here.
              obtain rfl := entries_eq_nil_iff.1 hentries
              cases hfound
              exact absurd hkey (hstop field rfl)
          | cons hmaterial hrest =>
              obtain ⟨_, taken, rfl, -, rfl, hothers⟩ := entries_eq_cons_iff.1 hentries
              cases hfound
              rw [List.length_cons, Nat.add_comm _ 1, ← Nat.add_assoc] at hstop
              exact ⟨_, hmaterial, _, rest, ih.2 ⟨taken, _, rfl, hothers, hrest, hstop⟩, rfl, rfl⟩
      · rw [if_neg hkey]
        constructor
        · rintro ⟨⟩
          exact ⟨[], [], rfl, rfl, .nil, fun _ h => by cases h; exact hkey⟩
        · rintro ⟨taken, values, hfound, hentries, hmaterials, hstop⟩
          cases hmaterials with
          | nil =>
              obtain rfl := entries_eq_nil_iff.1 hentries
              cases hfound
              rfl
          | cons hmaterial hrest =>
              obtain ⟨_, taken, rfl, hfirst, -⟩ := entries_eq_cons_iff.1 hentries
              cases hfound
              exact absurd hfirst hkey

/-! ## The layout of a block -/

theorem Keyed.ne {key : String} {other : List Char} {field : Option Field} (h : Keyed key field)
    (hne : key.toList ≠ other) : ∀ given ∈ field.toList, given.key ≠ other := by
  intro given hgiven
  rw [h given (Option.mem_toList.1 hgiven)]
  exact hne

theorem ne_materialKey {key : String} (h : key.toList.head? ≠ some 'm') (number : Nat) :
    key.toList ≠ materialKey number := by
  intro heq
  rw [heq, materialKey, String.toList_append] at h
  exact h rfl

/-- The fields after the materials are not another material, and stand in their order. -/
theorem takeField_rest {description requirement cost : Option Field} (hdescription : Keyed "description" description)
    (hrequirement : Keyed "requirement" requirement) (hcost : Keyed "cost" cost) :
    (∀ number, ∀ field ∈ (description.toList ++ (requirement.toList ++ cost.toList)).head?,
      field.key ≠ materialKey number) ∧
    takeField "description" (description.toList ++ (requirement.toList ++ cost.toList)) =
      (description, requirement.toList ++ cost.toList) ∧
    takeField "requirement" (requirement.toList ++ cost.toList) = (requirement, cost.toList) ∧
    takeField "cost" cost.toList = (cost, []) := by
  refine ⟨fun number => ?_, ?_, ?_, ?_⟩
  · refine head?_append_of (hdescription.ne (ne_materialKey (by decide +kernel) number)) ?_
    refine head?_append_of (hrequirement.ne (ne_materialKey (by decide +kernel) number)) fun field hfield => ?_
    exact hcost.ne (ne_materialKey (by decide +kernel) number) field (List.mem_of_mem_head? hfield)
  · refine takeField_append hdescription (head?_append_of (hrequirement.ne (by decide +kernel)) fun field hfield => ?_)
    exact hcost.ne (by decide +kernel) field (List.mem_of_mem_head? hfield)
  · exact takeField_append hrequirement fun field hfield =>
      hcost.ne (by decide +kernel) field (List.mem_of_mem_head? hfield)
  · rw [← List.append_nil cost.toList]
    exact takeField_append hcost fun _ h => nomatch h

theorem readLayout_eq_ok_iff {found : List Field} {layout : Layout} :
    readLayout found = .ok layout ↔
      ∃ result taken values,
        found = result :: (taken ++ (layout.description.toList ++ (layout.requirement.toList ++ layout.cost.toList))) ∧
        result.key = "result".toList ∧ NamesRef result.value layout.result ∧
        values ≠ [] ∧ taken.map Field.entry = materialEntries 1 values ∧
        List.Forall₂ NamesMaterial values layout.materials ∧
        Keyed "description" layout.description ∧ Keyed "requirement" layout.requirement ∧ Keyed "cost" layout.cost := by
  rw [readLayout]
  simp only
  constructor
  · intro h
    obtain ⟨result, rest, htake, rfl, hkey⟩ := exists_takeField "result" found
    rw [htake] at h
    cases result with
    | none =>
        simp only [Result.bind_eq_ok_iff] at h
        obtain ⟨_, ⟨⟩, -⟩ := h
    | some result =>
        simp only [Result.bind_eq_ok_iff] at h
        obtain ⟨ref, hresult, _, ⟨⟩, ⟨materials, rest⟩, hmaterials, h⟩ := h
        obtain ⟨taken, values, rfl, hentries, hnamed, -⟩ := readMaterials_eq_ok_iff.1 hmaterials
        obtain ⟨description, rest, htake, rfl, hdescription⟩ := exists_takeField "description" rest
        simp only [htake] at h
        obtain ⟨requirement, rest, htake, rfl, hrequirement⟩ := exists_takeField "requirement" rest
        simp only [htake] at h
        obtain ⟨cost, rest, htake, rfl, hcost⟩ := exists_takeField "cost" rest
        simp only [htake] at h
        -- What is left to ask is whether there was a material, and whether any field is left over.
        split at h
        · obtain ⟨_, ⟨⟩, -⟩ := Result.bind_eq_ok_iff.1 h
        rename_i hsome
        cases rest with
        | cons field rest => cases h
        | nil =>
            cases h
            rw [List.append_nil]
            refine ⟨result, taken, values, rfl, hkey result rfl, readRef_eq_ok_iff.1 hresult, ?_, hentries, hnamed,
              hdescription, hrequirement, hcost⟩
            rintro rfl
            cases hnamed
            exact hsome rfl
  · rintro ⟨result, taken, values, rfl, hkey, hresult, hne, hentries, hmaterials, hdescription, hrequirement, hcost⟩
    -- The fields after the materials have other keys, so that the materials end there.
    obtain ⟨hstop, hdescription, hrequirement, hcost⟩ := takeField_rest hdescription hrequirement hcost
    have hread := readMaterials_eq_ok_iff.2 ⟨taken, values, rfl, hentries, hmaterials, hstop _⟩
    have hsome : ¬layout.materials.isEmpty = true := by
      intro hempty
      rw [List.isEmpty_iff.1 hempty, List.forall₂_nil_right_iff] at hmaterials
      exact hne hmaterials
    have hfirst : takeField "result" (result :: (taken ++ (layout.description.toList ++
        (layout.requirement.toList ++ layout.cost.toList)))) = (some result, _) := if_pos hkey
    simp only [hfirst, Result.bind_eq_ok_iff]
    refine ⟨_, readRef_eq_ok_iff.2 hresult, _, rfl, _, hread, ?_⟩
    simp only [if_neg hsome, hdescription, hrequirement, hcost]

/-! ## Blocks -/

/-- The entry of a field that may be left out. -/
def optionalEntry (key : String) (value : Option (List Char)) : List (List Char × List Char) :=
  (value.map fun value => (key.toList, value)).toList

theorem entries_eq_optionalEntry_iff {key : String} {found : List Field} {value : Option (List Char)} :
    found.map Field.entry = optionalEntry key value ↔
      ∃ field : Option Field, found = field.toList ∧ Keyed key field ∧ field.map (·.value) = value := by
  constructor
  · intro h
    cases value with
    | none => exact ⟨none, List.map_eq_nil_iff.1 h, (fun _ hf => nomatch hf), rfl⟩
    | some value =>
        obtain ⟨field, rest, rfl, hentry, hrest⟩ := List.map_eq_cons_iff.1 h
        rw [Field.entry, Prod.mk.injEq] at hentry
        refine ⟨some field, by rw [List.map_eq_nil_iff.1 hrest]; rfl, ?_, congrArg some hentry.2⟩
        rintro _ ⟨⟩
        exact hentry.1
  · rintro ⟨field, rfl, hkey, rfl⟩
    cases field with
    | none => rfl
    | some field => exact congrArg (fun key => [(key, field.value)]) (hkey field rfl)

/-- The values of a block's fields. -/
structure Values where
  result : List Char
  materials : List (List Char)
  description : Option (List Char)
  requirement : Option (List Char)
  cost : Option (List Char)

/-- The fields in their order: each key in lower case, with its value. -/
def Values.entries (values : Values) : List (List Char × List Char) :=
  ("result".toList, values.result) :: (materialEntries 1 values.materials ++
    (optionalEntry "description" values.description ++
      (optionalEntry "requirement" values.requirement ++ optionalEntry "cost" values.cost)))

theorem forall_mem_entries_iff {values : Values} {p : List Char × List Char → Prop} :
    (∀ entry ∈ values.entries, p entry) ↔
      p ("result".toList, values.result) ∧ (∀ entry ∈ materialEntries 1 values.materials, p entry) ∧
        (∀ value ∈ values.description, p ("description".toList, value)) ∧
        (∀ value ∈ values.requirement, p ("requirement".toList, value)) ∧
        ∀ value ∈ values.cost, p ("cost".toList, value) := by
  have hoptional : ∀ (key : String) (given : Option (List Char)),
      (∀ entry ∈ optionalEntry key given, p entry) ↔ ∀ value ∈ given, p (key.toList, value) := by
    intro key given
    cases given <;> simp [optionalEntry]
  simp only [Values.entries, List.forall_mem_cons, List.forall_mem_append, hoptional]

theorem entries_eq_iff {found : List Field} {values : Values} :
    found.map Field.entry = values.entries ↔
      ∃ result taken, ∃ description requirement cost : Option Field,
        found = result :: (taken ++ (description.toList ++ (requirement.toList ++ cost.toList))) ∧
        result.key = "result".toList ∧ result.value = values.result ∧
        taken.map Field.entry = materialEntries 1 values.materials ∧
        (Keyed "description" description ∧ description.map (·.value) = values.description) ∧
        (Keyed "requirement" requirement ∧ requirement.map (·.value) = values.requirement) ∧
        Keyed "cost" cost ∧ cost.map (·.value) = values.cost := by
  rw [Values.entries, List.map_eq_cons_iff]
  simp only [List.map_eq_append_iff, entries_eq_optionalEntry_iff, Field.entry, Prod.mk.injEq]
  constructor
  · rintro ⟨result, _, rfl, ⟨hkey, hvalue⟩, taken, _, rfl, htaken, _, _, rfl, ⟨description, rfl, hdescription⟩, _, _,
      rfl, ⟨requirement, rfl, hrequirement⟩, cost, rfl, hcost⟩
    exact ⟨result, taken, description, requirement, cost, rfl, hkey, hvalue, htaken, hdescription, hrequirement, hcost⟩
  · rintro ⟨result, taken, description, requirement, cost, rfl, hkey, hvalue, htaken, hdescription, hrequirement, hcost⟩
    exact ⟨result, _, rfl, ⟨hkey, hvalue⟩, taken, _, rfl, htaken, _, _, rfl, ⟨description, rfl, hdescription⟩, _, _, rfl,
      ⟨requirement, rfl, hrequirement⟩, cost, rfl, hcost⟩

/-- What a value that may be left out names; without it the default holds. -/
def NamesOr {α : Type} (absent : α) (names : List Char → α → Prop) : Option (List Char) → α → Prop
  | none, a => a = absent
  | some value, a => names value a

theorem NamesOr.cases {α : Type} {absent a : α} {names : List Char → α → Prop} {given : Option (List Char)}
    (h : NamesOr absent names given a) : a = absent ∨ ∃ value, given = some value ∧ names value a := by
  cases given with
  | none => exact .inl h
  | some value => exact .inr ⟨value, rfl, h⟩

def NamesRequirement (value : List Char) (requirement : Option EntityRef) : Prop :=
  ∃ ref, NamesRef value ref ∧ some ref = requirement

/-- The recipe has what the values name. -/
structure Values.Give (values : Values) (recipe : Recipe) : Prop where
  result : NamesRef values.result recipe.result
  materials_ne_nil : values.materials ≠ []
  materials : List.Forall₂ NamesMaterial values.materials recipe.materials
  description : recipe.description = String.ofList (values.description.getD [])
  requirement : NamesOr none NamesRequirement values.requirement recipe.requirement
  cost : NamesOr 0 Denotes values.cost recipe.cost

/-- Each line of the block that is not blank is the next field, and the fields give the recipe. -/
def Declares (body : List Char) (recipe : Recipe) : Prop :=
  ∃ values : Values,
    List.Forall₂ (fun line entry => IsField (trim line) entry.1 entry.2)
      ((lines body).filter fun line => trim line ≠ []) values.entries ∧
    values.Give recipe

theorem readOptional_eq_ok_iff {α : Type} {absent a : α} {read : Field → Except Refusal α}
    {names : List Char → α → Prop} (h : ∀ field, read field = .ok a ↔ names field.value a) {field : Option Field} :
    readOptional absent read field = .ok a ↔ NamesOr absent names (field.map (·.value)) a := by
  cases field with
  | none => simp [readOptional, NamesOr, eq_comm]
  | some given => exact h given

theorem readRequirement_eq_ok_iff {field : Field} {requirement : Option EntityRef} :
    ((readRef field).map some |>.mapError Refusal.malformed) = .ok requirement ↔
      NamesRequirement field.value requirement := by
  simp only [Result.mapError_eq_ok_iff, Result.map_eq_ok_iff, readRef_eq_ok_iff, NamesRequirement]

/-- The layout holds the fields with these values, of which the result and the materials are read already. -/
structure Values.Fill (values : Values) (layout : Layout) : Prop where
  result : NamesRef values.result layout.result
  materials_ne_nil : values.materials ≠ []
  materials : List.Forall₂ NamesMaterial values.materials layout.materials
  description : layout.description.map (·.value) = values.description
  requirement : layout.requirement.map (·.value) = values.requirement
  cost : layout.cost.map (·.value) = values.cost

theorem exists_values_of_layout {body : List Char} {layout : Layout} (h : (fields body >>= readLayout) = .ok layout) :
    ∃ values : Values,
      List.Forall₂ (fun line entry => IsField (trim line) entry.1 entry.2)
        ((lines body).filter fun line => trim line ≠ []) values.entries ∧
      values.Fill layout := by
  obtain ⟨found, hfound, hlayout⟩ := Result.bind_eq_ok_iff.1 h
  obtain ⟨result, taken, materials, rfl, hresultKey, hresult, hne, htaken, hmaterials, hdescriptionKey, hrequirementKey,
    hcostKey⟩ := readLayout_eq_ok_iff.1 hlayout
  -- The values are those of the fields that were taken.
  let values : Values := {
    result := result.value, materials
    description := layout.description.map (·.value)
    requirement := layout.requirement.map (·.value)
    cost := layout.cost.map (·.value) }
  have hentries : _ = values.entries :=
    entries_eq_iff.2 ⟨result, taken, layout.description, layout.requirement, layout.cost, rfl, hresultKey, rfl,
      htaken, ⟨hdescriptionKey, rfl⟩, ⟨hrequirementKey, rfl⟩, hcostKey, rfl⟩
  exact ⟨values, fields_entries.1 ⟨_, hfound, hentries⟩, hresult, hne, hmaterials, rfl, rfl, rfl⟩

theorem exists_layout_of_values {body : List Char} {values : Values} {result : EntityRef} {materials : List Material}
    (hlines : List.Forall₂ (fun line entry => IsField (trim line) entry.1 entry.2)
      ((lines body).filter fun line => trim line ≠ []) values.entries)
    (hresult : NamesRef values.result result) (hne : values.materials ≠ [])
    (hmaterials : List.Forall₂ NamesMaterial values.materials materials) :
    ∃ layout : Layout, (fields body >>= readLayout) = .ok layout ∧ values.Fill layout ∧
      layout.result = result ∧ layout.materials = materials := by
  -- Only the fields know their lines, so they are got back from the body first.
  obtain ⟨found, hfound, hentries⟩ := fields_entries.2 hlines
  obtain ⟨first, taken, description, requirement, cost, rfl, hresultKey, hfirst, htaken,
    ⟨hdescriptionKey, hdescription⟩, ⟨hrequirementKey, hrequirement⟩, hcostKey, hcost⟩ := entries_eq_iff.1 hentries
  let layout : Layout := { result, materials, description, requirement, cost }
  have hlayout : readLayout _ = .ok layout :=
    readLayout_eq_ok_iff.2 ⟨first, taken, values.materials, rfl, hresultKey, hfirst ▸ hresult, hne, htaken, hmaterials,
      hdescriptionKey, hrequirementKey, hcostKey⟩
  exact ⟨layout, Result.bind_eq_ok_iff.2 ⟨_, hfound, hlayout⟩,
    ⟨hresult, hne, hmaterials, hdescription, hrequirement, hcost⟩, rfl, rfl⟩

theorem readBlock_eq_ok_iff {body : List Char} {source : Option EntityRef} {recipe : Recipe} :
    readBlock body source = .ok recipe ↔ Declares body recipe ∧ recipe.source = source := by
  rw [readBlock]
  simp only [Result.bind_eq_ok_iff, Result.mapError_eq_ok_iff, Result.pure_eq_ok_iff]
  simp only [readOptional_eq_ok_iff fun _ => readRequirement_eq_ok_iff,
    readOptional_eq_ok_iff fun _ => readCost_eq_ok_iff]
  constructor
  · rintro ⟨layout, hlayout, requirement, hrequirement, cost, hcost, rfl⟩
    obtain ⟨values, hlines, hfill⟩ := exists_values_of_layout (Result.bind_eq_ok_iff.2 hlayout)
    refine ⟨⟨values, hlines, hfill.result, hfill.materials_ne_nil, hfill.materials, ?_, ?_, ?_⟩, rfl⟩
    · rw [hfill.description]
    · rwa [hfill.requirement] at hrequirement
    · rwa [hfill.cost] at hcost
  · rintro ⟨⟨values, hlines, hgive⟩, rfl⟩
    obtain ⟨layout, hlayout, hfill, hresult, hmaterials⟩ :=
      exists_layout_of_values hlines hgive.result hgive.materials_ne_nil hgive.materials
    refine ⟨layout, Result.bind_eq_ok_iff.1 hlayout, recipe.requirement, ?_, recipe.cost, ?_, ?_⟩
    · exact hfill.requirement ▸ hgive.requirement
    · exact hfill.cost ▸ hgive.cost
    · rw [hresult, hmaterials, hfill.description, ← hgive.description]

/-! ## Which blocks are read -/

theorem Declares.withSource {body : List Char} {recipe : Recipe} (h : Declares body recipe)
    (source : Option EntityRef) : Declares body { recipe with source } := by
  obtain ⟨values, hlines, hgive⟩ := h
  exact ⟨values, hlines, hgive.result, hgive.materials_ne_nil, hgive.materials, hgive.description, hgive.requirement,
    hgive.cost⟩

/-- A block is read just when it declares a recipe, and then as the recipe it declares; every other block is refused. -/
theorem readBlock_declares (body : List Char) (source : Option EntityRef) :
    (∀ recipe, readBlock body source = .ok recipe ↔ Declares body recipe ∧ recipe.source = source) ∧
    ((∃ refusal, readBlock body source = .error refusal) ↔ ¬∃ recipe, Declares body recipe) := by
  refine ⟨fun _ => readBlock_eq_ok_iff, ?_⟩
  constructor
  · rintro ⟨refusal, hrefused⟩ ⟨recipe, hdeclares⟩
    have hread := readBlock_eq_ok_iff.2 ⟨hdeclares.withSource source, rfl⟩
    rw [hrefused] at hread
    cases hread
  · intro hnone
    cases hread : readBlock body source with
    | error refusal => exact ⟨refusal, rfl⟩
    | ok recipe => exact absurd ⟨recipe, (readBlock_eq_ok_iff.1 hread).1⟩ hnone

-- Digits of any script count, and so do leading zeros, but not in the key of a material.
example : readBlock "RESULT :Weapon007\n\nmaterial1: consumable ٨ ,3".toList none =
    .ok { result := ⟨.weapon, 7, by decide⟩, materials := [⟨⟨.item, 8, by decide⟩, 3, by decide⟩] } := by
  decide +kernel

example : readBlock "Result: Weapon 7\nMaterial01: Item 8, 3".toList none =
    .error (.malformed ⟨.missingField "material1" (some "material01"), some 2⟩) := by
  decide +kernel

end Crafting.Note
