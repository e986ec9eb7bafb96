import Crafting.Proofs.Note.Neighbours
import Crafting.Proofs.Note.Printer

/-!
# The grammar of written recipes

A written recipe follows the grammar of blocks when it mentions no state and its description can stand as a value: then
what stands between its tags declares the recipe, and holds no tag of its own.
-/

namespace Crafting.Note

open Text

/-! ## Plain texts -/

/-- A text that can stand as a value: without blanks around it, on one line, and without tags. -/
structure Plain (text : List Char) : Prop where
  trimmed : trim text = text
  oneLine : ∀ c ∈ text, isLineEnd c = false
  untagged : tags text = []

/-- A text that makes a value, which is not left out when it is written. -/
def Fit (text : List Char) : Prop :=
  text ≠ [] ∧ Plain text

/-- The characters of keys, references and numbers as they are written. -/
def IsWordChar (c : Char) : Prop :=
  isAsciiLetter c = true ∨ isDecimal c = true ∨ c ∈ [' ', ',', ':']

theorem isLineEnd_of_isWordChar {c : Char} (h : IsWordChar c) : isLineEnd c = false := by
  rw [Bool.eq_false_iff]
  intro hend
  have hblank := isBlank_of_isLineEnd hend
  rcases h with h | h | h
  · rw [isBlank_of_isAsciiLetter h] at hblank
    cases hblank
  · rw [(of_isDecimal_blank_letter h).1] at hblank
    cases hblank
  · have hall : ∀ c ∈ [' ', ',', ':'], isLineEnd c = false := List.all_iff_forall_prop.1 (by decide)
    rw [hall c h] at hend
    cases hend

theorem not_isWordChar_lt : ¬IsWordChar '<' := by
  unfold IsWordChar
  decide

theorem tags_of_wordChars {text : List Char} (h : ∀ c ∈ text, IsWordChar c) : tags text = [] :=
  tags_eq_nil fun hmem => not_isWordChar_lt (h _ hmem)

theorem toString_toList (n : Nat) : (toString n).toList = Nat.toDigits 10 n := by
  rw [Nat.toString_eq_repr, Nat.toList_repr]

theorem denotes_toString {n : Nat} (h : Numeral.Writable n) : Denotes (toString n).toList n := by
  rw [toString_toList]
  exact ⟨Nat.toDigits_ne_nil, fun c hc => Numeral.isDecimal_of_mem_toDigits hc, h, Numeral.value_toDigits n⟩

/-- A number, with a word before it or nothing. -/
theorem fit_append_toString {front : List Char} (hfront : ∀ c ∈ front, IsWordChar c)
    (hhead : ∀ c ∈ front.head?, isBlank c = false) (n : Nat) : Fit (front ++ (toString n).toList) := by
  rw [toString_toList]
  have hdigit : ∀ c ∈ Nat.toDigits 10 n, isDecimal c = true := fun c hc => Numeral.isDecimal_of_mem_toDigits hc
  have hchars : ∀ c ∈ front ++ Nat.toDigits 10 n, IsWordChar c :=
    List.forall_mem_append.2 ⟨hfront, fun c hc => .inr (.inl (hdigit c hc))⟩
  -- A digit ends the text, and a digit begins it where no word does.
  refine ⟨List.append_ne_nil_of_right_ne_nil _ Nat.toDigits_ne_nil, trim_eq_self_iff.2 ⟨?_, fun c hc => ?_⟩,
    fun c hc => isLineEnd_of_isWordChar (hchars c hc), tags_of_wordChars hchars⟩
  · cases front with
    | nil => exact fun c hc => (of_isDecimal_blank_letter (hdigit c (List.mem_of_mem_head? hc))).1
    | cons d front => exact hhead
  · rw [List.getLast?_append_of_ne_nil _ Nat.toDigits_ne_nil] at hc
    exact (of_isDecimal_blank_letter (hdigit c (List.mem_of_mem_getLast? hc))).1

theorem fit_toString (n : Nat) : Fit (toString n).toList := by
  have hnothing : ∀ c ∈ ([] : List Char).head?, isBlank c = false := fun _ h => nomatch h
  exact fit_append_toString (List.forall_mem_nil _) hnothing n

/-! ## References and materials -/

theorem isAsciiLetter_of_mem_name {kind : Kind} : ∀ c ∈ kind.name.toList, isAsciiLetter c = true := by
  cases kind <;> exact List.all_eq_true.1 (by decide +kernel)

theorem spellsKind_name {kind : Kind} (h : kind ≠ .state) : SpellsKind kind.name.toList kind := by
  refine ⟨isAsciiLetter_of_mem_name, ?_⟩
  cases kind with
  | state => exact absurd rfl h
  | item | weapon | armor => decide +kernel

theorem isBlank_of_head?_name {kind : Kind} (rest : List Char) :
    ∀ c ∈ (kind.name.toList ++ rest).head?, isBlank c = false := by
  have hne : kind.name.toList ≠ [] := by cases kind <;> decide +kernel
  rw [List.head?_append_of_ne_nil _ hne]
  exact fun c hc => isBlank_of_isAsciiLetter (isAsciiLetter_of_mem_name c (List.mem_of_mem_head? hc))

theorem plainText_toList (ref : EntityRef) :
    ref.plainText.toList = ref.kind.name.toList ++ ([' '] ++ (toString ref.id).toList) := by
  rw [EntityRef.plainText, String.toList_append, String.toList_append, List.append_assoc]
  rfl

theorem materialValue_eq (material : Material) :
    materialValue material = material.ref.plainText.toList ++ ([',', ' '] ++ (toString material.quantity).toList) := by
  rw [materialValue, String.toList_append, String.toList_append, List.append_assoc]
  rfl

theorem namesRef_plainText {ref : EntityRef} (hkind : ref.kind ≠ .state) (hid : Numeral.Writable ref.id) :
    NamesRef ref.plainText.toList ref :=
  ⟨_, [' '], _, plainText_toList ref, spellsKind_name hkind, List.forall_mem_singleton.2 (by decide), denotes_toString hid⟩

theorem namesMaterial_value {material : Material} (hkind : material.ref.kind ≠ .state)
    (hid : Numeral.Writable material.ref.id) (hquantity : Numeral.Writable material.quantity) :
    NamesMaterial (materialValue material) material :=
  ⟨_, [], [' '], _, materialValue_eq material, namesRef_plainText hkind hid, List.forall_mem_nil _,
    List.forall_mem_singleton.2 (by decide), denotes_toString hquantity⟩

theorem isWordChar_of_mem_plainText (ref : EntityRef) : ∀ c ∈ ref.plainText.toList, IsWordChar c := by
  rw [plainText_toList, toString_toList]
  refine List.forall_mem_append.2 ⟨fun c hc => .inl (isAsciiLetter_of_mem_name c hc), List.forall_mem_append.2 ⟨?_, ?_⟩⟩
  · exact List.forall_mem_singleton.2 (.inr (.inr (by decide)))
  · exact fun c hc => .inr (.inl (Numeral.isDecimal_of_mem_toDigits hc))

theorem fit_plainText (ref : EntityRef) : Fit ref.plainText.toList := by
  have hchars := isWordChar_of_mem_plainText ref
  rw [plainText_toList, ← List.append_assoc] at hchars ⊢
  exact fit_append_toString (List.forall_mem_append.1 hchars).1 (isBlank_of_head?_name _) _

theorem fit_materialValue (material : Material) : Fit (materialValue material) := by
  rw [materialValue_eq, ← List.append_assoc]
  refine fit_append_toString (List.forall_mem_append.2 ⟨isWordChar_of_mem_plainText _, ?_⟩) ?_ _
  · exact List.forall_mem_cons.2 ⟨.inr (.inr (by decide)), List.forall_mem_singleton.2 (.inr (.inr (by decide)))⟩
  · rw [plainText_toList, List.append_assoc]
    exact isBlank_of_head?_name _

/-! ## Lines of fields -/

/-- A key as it is written: letters with a capital first, and then a number or nothing. -/
def IsKey (key : List Char) : Prop :=
  ∃ letters digits, capitalized key = letters ++ digits ∧ letters ≠ [] ∧ (∀ c ∈ letters, isAsciiLetter c = true) ∧
    (∀ c ∈ digits, isDecimal c = true) ∧ (letters ++ digits).map Char.toLower = key

theorem isKey_of_mem {key : String} (h : key ∈ ["result", "description", "requirement", "cost"]) :
    IsKey key.toList := by
  have hall : ∀ key ∈ ["result", "description", "requirement", "cost"],
      capitalized key.toList ≠ [] ∧ (capitalized key.toList).all isAsciiLetter = true ∧
        (capitalized key.toList).map Char.toLower = key.toList := by
    decide +kernel
  obtain ⟨hne, hletters, hlower⟩ := hall key h
  exact ⟨_, [], (List.append_nil _).symm, hne, List.all_eq_true.1 hletters, List.forall_mem_nil _, by rwa [List.append_nil]⟩

theorem isKey_materialKey (number : Nat) : IsKey (materialKey number) := by
  have hdigits : (Nat.toDigits 10 number).map Char.toLower = Nat.toDigits 10 number := by
    refine (List.map_congr_left fun c hc => ?_).trans (List.map_id _)
    exact toLower_eq_self (.inl (Nat.lt_of_le_of_lt (Numeral.toNat_of_mem_toDigits hc).2 (by decide)))
  refine ⟨"Material".toList, Nat.toDigits 10 number, ?_, by decide +kernel, List.all_eq_true.1 (by decide +kernel),
    fun c hc => Numeral.isDecimal_of_mem_toDigits hc, ?_⟩
  · rw [materialKey, String.toList_append, toString_toList]
    rfl
  · rw [List.map_append, hdigits, materialKey, String.toList_append, toString_toList]
    rfl

/-- What a field's line needs of its key and its value. -/
structure Sound (entry : List Char × List Char) : Prop where
  isKey : IsKey entry.1
  fit : Fit entry.2

/-- Between the label and the value stands a blank, so no tag goes over the seam. -/
theorem plain_label_append {label value : List Char} (hchars : ∀ c ∈ label, IsWordChar c) (hne : label ≠ [])
    (hhead : ∀ c ∈ label.head?, isBlank c = false) (hlast : label.getLast? = some ' ') (hvalue : Fit value) :
    Plain (label ++ value) := by
  obtain ⟨hsome, hplain⟩ := hvalue
  refine ⟨trim_eq_self_iff.2 ⟨?_, ?_⟩, ?_, ?_⟩
  · rwa [List.head?_append_of_ne_nil _ hne]
  · rw [List.getLast?_append_of_ne_nil _ hsome]
    exact (trim_eq_self_iff.1 hplain.trimmed).2
  · exact List.forall_mem_append.2 ⟨fun c hc => isLineEnd_of_isWordChar (hchars c hc), hplain.oneLine⟩
  · refine tags_append_eq_nil (.inl fun c hc => .inr ?_) (tags_of_wordChars hchars) hplain.untagged
    rw [hlast] at hc
    cases hc
    decide

theorem Sound.fieldLine {entry : List Char × List Char} (h : Sound entry) :
    Plain (fieldLine entry).toList ∧ IsField (fieldLine entry).toList entry.1 entry.2 := by
  obtain ⟨⟨letters, digits, hcapital, hne, hletter, hdigit, hlower⟩, hfit⟩ := h
  have hline : (Note.fieldLine entry).toList = letters ++ (digits ++ ([] ++ ':' :: ' ' :: entry.2)) := by
    rw [Note.fieldLine, String.toList_ofList, hcapital, List.append_assoc]
    rfl
  refine ⟨?_, letters, digits, [], ' ' :: entry.2, hline, hne, hletter, hdigit, List.forall_mem_nil _, hlower.symm, ?_⟩
  · have hparts : (Note.fieldLine entry).toList = (letters ++ (digits ++ [':', ' '])) ++ entry.2 := by
      rw [hline, List.append_assoc, List.append_assoc]
      rfl
    have hcolon : ∀ c ∈ [':', ' '], IsWordChar c :=
      List.forall_mem_cons.2 ⟨.inr (.inr (by decide)), List.forall_mem_singleton.2 (.inr (.inr (by decide)))⟩
    rw [hparts]
    refine plain_label_append ?_ (List.append_ne_nil_of_left_ne_nil hne _) ?_ ?_ hfit
    · refine List.forall_mem_append.2 ⟨fun c hc => .inl (hletter c hc), List.forall_mem_append.2 ⟨?_, hcolon⟩⟩
      exact fun c hc => .inr (.inl (hdigit c hc))
    · rw [List.head?_append_of_ne_nil _ hne]
      exact fun c hc => isBlank_of_isAsciiLetter (hletter c (List.mem_of_mem_head? hc))
    · rw [← List.append_assoc, List.getLast?_append_of_ne_nil _ (List.cons_ne_nil _ _)]
      rfl
  · rw [trim_cons_of_blank (by decide), hfit.2.trimmed]

/-! ## Blocks of recipes -/

theorem sound_of_mem_written {recipe : Recipe} (h : Plain recipe.description.toList) :
    ∀ entry ∈ (written recipe).entries, Sound entry := by
  refine forall_mem_entries_iff.2 ⟨⟨isKey_of_mem (by decide), fit_plainText _⟩, ?_, ?_, ?_, ?_⟩
  · intro entry hentry
    obtain ⟨⟨value, number⟩, hvalue, rfl⟩ := List.mem_map.1 hentry
    obtain ⟨material, -, rfl⟩ := List.mem_map.1 (List.fst_mem_of_mem_zipIdx hvalue)
    exact ⟨isKey_materialKey number, fit_materialValue material⟩
  · intro value hvalue
    change value ∈ (if recipe.description.isEmpty then none else some recipe.description.toList) at hvalue
    split at hvalue
    · cases hvalue
    · rename_i hsome
      cases hvalue
      exact ⟨isKey_of_mem (by decide), by simpa using hsome, h⟩
  · intro value hvalue
    obtain ⟨ref, -, rfl⟩ := Option.map_eq_some_iff.1 hvalue
    exact ⟨isKey_of_mem (by decide), fit_plainText ref⟩
  · intro value hvalue
    change value ∈ (if recipe.cost = 0 then none else some (toString recipe.cost).toList) at hvalue
    split at hvalue
    · cases hvalue
    · cases hvalue
      exact ⟨isKey_of_mem (by decide), fit_toString recipe.cost⟩

/-- A recipe that mentions no state, with a description that can stand as a value. -/
structure Readable (recipe : Recipe) : Prop where
  kinds : ∀ ref ∈ recipe.entityRefs, ref.kind ≠ .state
  description : Plain recipe.description.toList

theorem written_give {recipe : Recipe} (hmaterials : recipe.materials ≠ [])
    (hwritable : ∀ n ∈ recipe.numbers, Numeral.Writable n) (hkinds : ∀ ref ∈ recipe.entityRefs, ref.kind ≠ .state) :
    (written recipe).Give recipe := by
  obtain ⟨hresult, hmaterial, hrequirement, hcost⟩ := Recipe.forall_mem_numbers_iff.1 hwritable
  obtain ⟨hresultKind, hmaterialKinds, hrequirementKind⟩ := Recipe.forall_mem_entityRefs_iff.1 hkinds
  refine ⟨namesRef_plainText hresultKind hresult, ?_, ?_, ?_, ?_, ?_⟩
  · exact fun hnil => hmaterials (List.map_eq_nil_iff.1 hnil)
  · refine List.forall₂_map_left_iff.2 (List.forall₂_same.2 fun material hmem => ?_)
    exact namesMaterial_value (hmaterialKinds material hmem) (hmaterial material hmem).1 (hmaterial material hmem).2
  · show recipe.description =
      String.ofList ((if recipe.description.isEmpty then none else some recipe.description.toList).getD [])
    split
    · rename_i hempty
      exact String.isEmpty_iff.1 hempty
    · exact String.ofList_toList.symm
  · show NamesOr none NamesRequirement (recipe.requirement.map fun ref => ref.plainText.toList) recipe.requirement
    cases hneeded : recipe.requirement with
    | none => rfl
    | some ref =>
        exact ⟨ref, namesRef_plainText (hrequirementKind ref hneeded) (hrequirement ref hneeded), rfl⟩
  · show NamesOr 0 Denotes (if recipe.cost = 0 then none else some (toString recipe.cost).toList) recipe.cost
    split
    · assumption
    · exact denotes_toString hcost

theorem tags_writtenBody {recipe : Recipe} (h : Plain recipe.description.toList) : tags (writtenBody recipe) = [] := by
  refine tags_flatMap_newline (List.forall_mem_cons.2 ⟨rfl, List.forall_mem_map.2 fun entry hentry => ?_⟩)
  exact (sound_of_mem_written h entry hentry).fieldLine.1.untagged

/-- What is written between the tags holds the written fields, also where a number among them cannot be read. -/
theorem writtenBody_fields {recipe : Recipe} (h : Plain recipe.description.toList) :
    List.Forall₂ (fun line entry => IsField (trim line) entry.1 entry.2)
      ((lines (writtenBody recipe)).filter fun line => trim line ≠ []) (written recipe).entries := by
  have hsound := sound_of_mem_written h
  have hlines : lines (writtenBody recipe) =
      [] :: (written recipe).entries.map fun entry => (fieldLine entry).toList := by
    refine lines_flatMap_newline (List.forall_mem_cons.2 ⟨List.forall_mem_nil _, List.forall_mem_map.2 ?_⟩)
    exact fun entry hentry => (hsound entry hentry).fieldLine.1.oneLine
  -- Only the line that ends right behind the opener is blank.
  have hkept : (lines (writtenBody recipe)).filter (fun line => trim line ≠ []) =
      (written recipe).entries.map fun entry => (fieldLine entry).toList := by
    rw [hlines, List.filter_cons_of_neg (by decide)]
    refine List.filter_eq_self.2 (List.forall_mem_map.2 fun entry hentry => decide_eq_true ?_)
    obtain ⟨hplain, hfield⟩ := (hsound entry hentry).fieldLine
    rw [hplain.trimmed]
    exact hfield.ne_nil
  rw [hkept]
  refine List.forall₂_map_left_iff.2 (List.forall₂_same.2 fun entry hentry => ?_)
  obtain ⟨hplain, hfield⟩ := (hsound entry hentry).fieldLine
  rwa [hplain.trimmed]

theorem writtenBody_declares {recipe : Recipe} (hmaterials : recipe.materials ≠ [])
    (hwritable : ∀ n ∈ recipe.numbers, Numeral.Writable n) (h : Readable recipe) :
    Declares (writtenBody recipe) recipe :=
  ⟨written recipe, writtenBody_fields h.description, written_give hmaterials hwritable h.kinds⟩

/-- Between two tags, what is written is the only block. -/
theorem blocks_written {recipe : Recipe} (h : Plain recipe.description.toList) :
    blocks (openTag ++ (writtenBody recipe ++ closeTag)) = [writtenBody recipe] := by
  have hopener : Spells openTag openTag := List.forall₂_same.2 (List.all_eq_true.1 (by decide +kernel))
  have hcloser : Spells closeTag closeTag := List.forall₂_same.2 (List.all_eq_true.1 (by decide +kernel))
  rw [← List.append_nil closeTag]
  exact blocks_block hopener (tags_writtenBody h) hcloser []

end Crafting.Note
