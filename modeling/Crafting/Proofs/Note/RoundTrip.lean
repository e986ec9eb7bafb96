import Crafting.Proofs.Note.Scan
import Crafting.Proofs.Note.Written

/-!
# Round trips

A recipe is read back from its block just when it mentions no state and its description can stand as a value. What is
read from a note is of this kind, so it is written and read back as it is.
-/

namespace Crafting.Note

open Text

variable {σ : Type}

/-! ## What is written -/

/-- A recipe that can be read back is written, and its text holds that recipe alone. -/
theorem recipes_render {recipe : Recipe} (hmaterials : recipe.materials ≠ [])
    (hwritable : ∀ n ∈ recipe.numbers, Numeral.Writable n) (h : Readable recipe) :
    ∃ text, render recipe = .ok text ∧
      ∀ (source : Option EntityRef) (s : σ), (recipes text source s).value = .ok [{ recipe with source }] := by
  let text := String.ofList (openTag ++ (writtenBody recipe ++ closeTag))
  have htext : text.toList = openTag ++ (writtenBody recipe ++ closeTag) := String.toList_ofList
  refine ⟨text, render_eq_ok_iff.2 ⟨hwritable, htext⟩, fun source s => ?_⟩
  have hblocks : blocks text.toList = [writtenBody recipe] := by
    rw [htext]
    exact blocks_written h.description
  have hread : readBlock (writtenBody recipe) source = .ok { recipe with source } :=
    readBlock_eq_ok_iff.2 ⟨(writtenBody_declares hmaterials hwritable h).withSource source, rfl⟩
  rw [recipes_value, hblocks, List.map_singleton, hread]
  rfl

/-! ## What is read -/

theorem exists_of_mem_right {α β : Type} {R : α → β → Prop} {first : List α} {second : List β}
    (h : List.Forall₂ R first second) {b : β} (hb : b ∈ second) : ∃ a ∈ first, R a b := by
  induction h with
  | nil => cases hb
  | @cons a b' first second hab _ ih =>
      rcases List.mem_cons.1 hb with rfl | hb
      · exact ⟨a, List.mem_cons_self, hab⟩
      · obtain ⟨a', ha', hab'⟩ := ih hb
        exact ⟨a', List.mem_cons_of_mem _ ha', hab'⟩

theorem Denotes.writable {digits : List Char} {n : Nat} (h : Denotes digits n) : Numeral.Writable n :=
  h.value_eq ▸ Numeral.writable_value h.length_le

theorem NamesRef.kind_and_id {value : List Char} {ref : EntityRef} (h : NamesRef value ref) :
    ref.kind ≠ .state ∧ Numeral.Writable ref.id := by
  obtain ⟨letters, gap, digits, -, ⟨-, hword⟩, -, hid⟩ := h
  refine ⟨fun hstate => ?_, hid.writable⟩
  rw [hstate] at hword
  simp [kindWords] at hword

theorem Plain.of_part {part text : List Char} (h : part <:+: text) (hline : ∀ c ∈ text, isLineEnd c = false)
    (htags : tags text = []) : Plain (trim part) := by
  have hpart : trim part <:+: text := (infix_trim part).trans h
  exact ⟨trim_trim part, fun c hc => hline c (hpart.subset hc), tags_eq_nil_of_part hpart htags⟩

/-- What a block without tags declares can be written and read back. -/
theorem Declares.readable {body : List Char} {recipe : Recipe} (h : Declares body recipe) (hbody : tags body = []) :
    recipe.materials ≠ [] ∧ (∀ n ∈ recipe.numbers, Numeral.Writable n) ∧ Readable recipe := by
  obtain ⟨values, hlines, hgive⟩ := h
  have hresult := hgive.result.kind_and_id
  have hmaterial : ∀ material ∈ recipe.materials,
      (material.ref.kind ≠ .state ∧ Numeral.Writable material.ref.id) ∧ Numeral.Writable material.quantity := by
    intro material hmem
    obtain ⟨value, -, named, _, _, digits, -, hnamed, -, -, hquantity⟩ := exists_of_mem_right hgive.materials hmem
    exact ⟨hnamed.kind_and_id, hquantity.writable⟩
  have hrequirement : ∀ ref ∈ recipe.requirement, ref.kind ≠ .state ∧ Numeral.Writable ref.id := by
    intro ref href
    rcases hgive.requirement.cases with hnone | ⟨value, -, other, hnamed, hsome⟩
    · rw [hnone] at href
      cases href
    · rw [← hsome] at href
      cases href
      exact hnamed.kind_and_id
  have hcost : Numeral.Writable recipe.cost := by
    rcases hgive.cost.cases with hfree | ⟨digits, -, hdenotes⟩
    · rw [hfree]
      exact Numeral.writable_zero
    · exact hdenotes.writable
  have hdescription : Plain recipe.description.toList := by
    rw [hgive.description, String.toList_ofList]
    cases hvalue : values.description with
    | none => exact ⟨rfl, (fun _ h => nomatch h), rfl⟩
    | some value =>
        -- The description is cut from a line of the body, so it has no line end and no tag.
        have hentry := (forall_mem_entries_iff.1 fun entry h => h).2.2.1 value hvalue
        obtain ⟨line, hline, hfield⟩ := exists_of_mem_right hlines hentry
        obtain ⟨rest, hrest, rfl⟩ := hfield.exists_value
        have hmem := (List.mem_filter.1 hline).1
        exact .of_part (hrest.trans (infix_trim line)) (isLineEnd_of_mem_lines hmem)
          (tags_eq_nil_of_part (infix_of_mem_lines hmem) hbody)
  refine ⟨fun hnil => hgive.materials_ne_nil ?_, Recipe.forall_mem_numbers_iff.2 ⟨hresult.2, ?_, ?_, hcost⟩,
    Recipe.forall_mem_entityRefs_iff.2 ⟨hresult.1, ?_, ?_⟩, hdescription⟩
  · have hnamed := hgive.materials
    rwa [hnil, List.forall₂_nil_right_iff] at hnamed
  · exact fun material hmem => ⟨(hmaterial material hmem).1.2, (hmaterial material hmem).2⟩
  · exact fun ref href => (hrequirement ref href).2
  · exact fun material hmem => (hmaterial material hmem).1.1
  · exact fun ref href => (hrequirement ref href).1

theorem readable_of_read {note : String} {source : Option EntityRef} {s : σ} {found : List Recipe}
    (h : (recipes note source s).value = .ok found) {recipe : Recipe} (hmem : recipe ∈ found) :
    recipe.materials ≠ [] ∧ (∀ n ∈ recipe.numbers, Numeral.Writable n) ∧ Readable recipe := by
  rw [recipes_value] at h
  obtain ⟨body, hbody, hread⟩ := List.mem_map.1 (mem_of_gathered h hmem)
  exact (readBlock_eq_ok_iff.1 hread).1.readable (tags_of_mem_blocks hbody)

/-! ## Round trips -/

theorem same_iff {a b : Recipe} : a.same b = true ↔ { a with source := none } = { b with source := none } := by
  rw [Recipe.same, beq_iff_eq]

/-- A recipe that can be written is read back from its text, up to its source, just when it can be read at all. -/
theorem render_round_trip_iff (recipe : Recipe) (hmaterials : recipe.materials ≠ [])
    (hwritable : ∀ n ∈ recipe.numbers, Numeral.Writable n) (source : Option EntityRef) (s : σ) :
    (∃ text found, render recipe = .ok text ∧ (recipes text source s).value = .ok [found] ∧
      found.same recipe = true) ↔ Readable recipe := by
  constructor
  · rintro ⟨text, found, -, hread, hsame⟩
    -- What was found was read from a note, and the recipe differs from it in the source at most.
    obtain ⟨-, -, hfound⟩ := readable_of_read hread (List.mem_singleton_self found)
    have hplain : Readable { found with source := none } := ⟨hfound.kinds, hfound.description⟩
    rw [same_iff.1 hsame] at hplain
    exact ⟨hplain.kinds, hplain.description⟩
  · intro h
    obtain ⟨text, htext, hread⟩ := recipes_render hmaterials hwritable h
    exact ⟨text, _, htext, hread source s, same_iff.2 rfl⟩

end Crafting.Note

namespace Crafting.Sample

open Note

/-- A recipe with signs of its own in the description. -/
def salve : Recipe where
  result := ⟨.item, 2, Nat.two_pos⟩
  materials := [⟨⟨.item, 1, Nat.one_pos⟩, 1, Nat.one_pos⟩, ⟨⟨.weapon, 1, Nat.one_pos⟩, 2, Nat.two_pos⟩]
  description := "Cost: <b>none</b>, <recip>e"
  requirement := some ⟨.armor, 1, Nat.one_pos⟩
  cost := 50

theorem readable_salve : Readable salve :=
  ⟨by decide, by decide +kernel, List.all_iff_forall_prop.1 (by decide +kernel), by decide +kernel⟩

theorem salve_reads_back :
    salve.materials ≠ [] ∧ (∀ n ∈ salve.numbers, Text.Numeral.Writable n) ∧
      ∃ text found, render salve = .ok text ∧ (recipes text none ()).value = .ok [found] ∧ found.same salve = true := by
  have hmaterials : salve.materials ≠ [] := List.cons_ne_nil _ _
  have hwritable : ∀ n ∈ salve.numbers, Text.Numeral.Writable n := by decide +kernel
  exact ⟨hmaterials, hwritable, (render_round_trip_iff salve hmaterials hwritable none ()).2 readable_salve⟩

end Crafting.Sample

namespace Crafting.Note

variable {σ : Type}

/-- Whatever is read from a note can be written, and is read back from its text as it is; written once more, it is the
same text. -/
theorem read_round_trip (note : String) (source : Option EntityRef) (s : σ) (found : List Recipe)
    (h : (recipes note source s).value = .ok found) :
    ∀ recipe ∈ found, ∃ text, render recipe = .ok text ∧ ∀ (source' : Option EntityRef) (s' : σ),
      ∃ again, (recipes text source' s').value = .ok [again] ∧ again.same recipe = true ∧ render again = .ok text := by
  intro recipe hmem
  obtain ⟨hmaterials, hwritable, hreadable⟩ := readable_of_read h hmem
  obtain ⟨text, htext, hread⟩ := recipes_render hmaterials hwritable hreadable
  exact ⟨text, htext, fun source' s' => ⟨_, hread source' s', same_iff.2 rfl, htext⟩⟩

end Crafting.Note

namespace Crafting.Sample

open Note

/-- A note that spells its recipe in its own way. -/
def scrawl : String :=
  "Herbs!<Recipe>\r\n RESULT :Consumable2\n\nmaterial1: ITEM 001 , ٢\u2028cost: 0\n</RECİPE></recipe>"

def brew : Recipe where
  result := ⟨.item, 2, Nat.two_pos⟩
  materials := [⟨⟨.item, 1, Nat.one_pos⟩, 2, Nat.two_pos⟩]

theorem scrawl_settles :
    (recipes scrawl none ()).value = .ok [brew] ∧
      ∀ recipe ∈ [brew], ∃ text, render recipe = .ok text ∧ ∀ (source' : Option EntityRef) (s' : Unit),
        ∃ again, (recipes text source' s').value = .ok [again] ∧ again.same recipe = true ∧ render again = .ok text := by
  have hread : (recipes scrawl none ()).value = .ok [brew] := by decide +kernel
  exact ⟨hread, read_round_trip scrawl none () [brew] hread⟩

end Crafting.Sample
