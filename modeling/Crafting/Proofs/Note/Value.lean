import Crafting.Note.Block
import Crafting.Proofs.Note.Field
import Crafting.Proofs.Text.Lines

/-!
# The grammar of values

A reference is the word of a kind and a number, a material a reference, a comma and a quantity, a cost a number alone.
Such values are read, and no others are.
-/

namespace Crafting.Note

open Text

/-! ## Words of kinds -/

/-- The words that name the kinds a recipe may mention. -/
def kindWords : List (String × Kind) :=
  [("item", .item), ("consumable", .item), ("weapon", .weapon), ("armor", .armor)]

/-- The letters of such a word, each in either case. -/
def SpellsKind (letters : List Char) (kind : Kind) : Prop :=
  (∀ c ∈ letters, isAsciiLetter c = true) ∧ (String.ofList (letters.map Char.toLower), kind) ∈ kindWords

theorem lowerLetter_of_isAsciiLetter {c : Char} (h : isAsciiLetter c = true) : lowerLetter c = [c.toLower] := by
  have hall : ∀ n < 123, isAsciiLetter (Char.ofNat n) = true →
      lowerLetter (Char.ofNat n) = [(Char.ofNat n).toLower] := by
    decide +kernel
  have hc := hall c.toNat (by rw [isAsciiLetter_iff] at h; omega)
  rw [Char.ofNat_toNat] at hc
  exact hc h

theorem lowerAfter_of_letters {letters : List Char} (h : ∀ c ∈ letters, isAsciiLetter c = true) (before : List Char) :
    lowerAfter before letters = letters.map Char.toLower := by
  induction letters generalizing before with
  | nil => rfl
  | cons c rest ih =>
      have hc := h c List.mem_cons_self
      have hsigma : c ≠ 'Σ' := by
        rintro rfl
        exact absurd hc (by decide)
      rw [lowerAfter, lowerBetween, if_neg hsigma, lowerLetter_of_isAsciiLetter hc,
        ih fun d hd => h d (List.mem_cons_of_mem _ hd)]
      rfl

theorem trim_of_letters {letters : List Char} (h : ∀ c ∈ letters, isAsciiLetter c = true) : trim letters = letters :=
  trim_eq_self_iff.2 ⟨fun c hc => isBlank_of_isAsciiLetter (h c (List.mem_of_mem_head? hc)),
    fun c hc => isBlank_of_isAsciiLetter (h c (List.mem_of_mem_getLast? hc))⟩

theorem lowered_name (kind : Kind) :
    kind.name.lowered =
      match kind with
      | .item => "item"
      | .weapon => "weapon"
      | .armor => "armor"
      | .state => "state" := by
  cases kind <;> decide +kernel

theorem find?_lowered_name {word : String} {kind : Kind} :
    (Kind.all.find? fun kind => kind.name.lowered == word) = some kind ↔ kind.name.lowered = word := by
  constructor
  · intro h
    simpa using List.find?_some h
  · intro h
    cases hfound : Kind.all.find? fun kind => kind.name.lowered == word with
    | none => exact absurd (List.find?_eq_none.1 hfound kind (Kind.mem_all kind)) (by simp [h])
    | some other =>
        -- No two kinds have one word.
        have hother : other.name.lowered = word := by simpa using List.find?_some hfound
        rw [← h, lowered_name, lowered_name] at hother
        cases other <;> cases kind <;> first | rfl | exact absurd hother (by decide)

theorem ofSpelling?_eq_some_iff {letters : List Char} {kind : Kind} (h : ∀ c ∈ letters, isAsciiLetter c = true) :
    Kind.ofSpelling? (String.ofList letters) = some kind ∧ kind ≠ .state ↔ SpellsKind letters kind := by
  have hword : (String.ofList letters).trimBlanks.lowered = String.ofList (letters.map Char.toLower) := by
    rw [String.trimBlanks, String.lowered, String.toList_ofList, String.toList_ofList, trim_of_letters h,
      lowerAfter_of_letters h]
  rw [SpellsKind, and_iff_right h, Kind.ofSpelling?, hword]
  generalize String.ofList (letters.map Char.toLower) = word
  -- The other word for an item is asked for before the names of the kinds.
  by_cases hconsumable : word = "consumable"
  · subst hconsumable
    cases kind <;> simp [kindWords]
  · rw [if_neg (by simpa using hconsumable), find?_lowered_name, lowered_name]
    cases kind <;> simp [kindWords, hconsumable, eq_comm]

theorem readKind_eq_ok_iff {field : Field} {letters : List Char} {kind : Kind}
    (h : ∀ c ∈ letters, isAsciiLetter c = true) : readKind field letters = .ok kind ↔ SpellsKind letters kind := by
  rw [← ofSpelling?_eq_some_iff h, readKind]
  cases Kind.ofSpelling? (String.ofList letters) with
  | none => simp
  | some other => cases other <;> cases kind <;> simp

/-! ## Numbers -/

/-- Decimal digits, within the limit, that stand for the number. -/
structure Denotes (digits : List Char) (n : Nat) : Prop where
  ne_nil : digits ≠ []
  isDecimal : ∀ c ∈ digits, isDecimal c = true
  length_le : digits.length ≤ Numeral.maxDigits
  value_eq : Numeral.value digits = n

theorem readNumber_eq_ok_iff {digits : List Char} {n : Nat} :
    readNumber digits = .ok n ↔ digits.length ≤ Numeral.maxDigits ∧ Numeral.value digits = n := by
  rw [readNumber, Result.mapError_eq_ok_iff, Numeral.ofDigits_eq_ok_iff]

theorem Denotes.readNumber {digits : List Char} {n : Nat} (h : Denotes digits n) : readNumber digits = .ok n :=
  readNumber_eq_ok_iff.2 ⟨h.length_le, h.value_eq⟩

/-- The value of a cost is digits alone. -/
theorem readCost_eq_ok_iff {field : Field} {n : Nat} : readCost field = .ok n ↔ Denotes field.value n := by
  rw [readCost]
  split
  · rename_i h
    obtain ⟨hne, hdecimal⟩ : field.value ≠ [] ∧ ∀ c ∈ field.value, isDecimal c = true := by simpa using h
    rw [Result.mapError_eq_ok_iff, Numeral.ofDigits_eq_ok_iff]
    exact ⟨fun h => ⟨hne, hdecimal, h.1, h.2⟩, fun h => ⟨h.length_le, h.value_eq⟩⟩
  · rename_i h
    refine ⟨(fun hok => nomatch hok), fun hdenotes => absurd ?_ h⟩
    simpa using ⟨hdenotes.ne_nil, hdenotes.isDecimal⟩

/-! ## References -/

theorem splitRef?_eq_some_iff {value letters digits rest : List Char} :
    splitRef? value = some (letters, digits, rest) ↔
      letters ≠ [] ∧ digits ≠ [] ∧ (∀ c ∈ letters, isAsciiLetter c = true) ∧ (∀ c ∈ digits, isDecimal c = true) ∧
        (∀ c ∈ rest.head?, isDecimal c = false) ∧
        ∃ gap, (∀ c ∈ gap, isBlank c = true) ∧ value = letters ++ (gap ++ (digits ++ rest)) := by
  constructor
  · intro h
    obtain ⟨letters', afterLetters, rfl, hletters, hletter, -⟩ := exists_span isAsciiLetter value
    obtain ⟨gap, afterGap, rfl, hgap, hblank, -⟩ := exists_span isBlank afterLetters
    obtain ⟨digits', rest', rfl, hdigits, hdigit, hstop⟩ := exists_span isDecimal afterGap
    rw [List.span_eq_takeWhile_dropWhile, Prod.mk.injEq] at hgap
    simp only [splitRef?, hletters, hgap.2, hdigits] at h
    split at h
    · cases h
    · rename_i hne
      cases h
      obtain ⟨hletters, hdigits⟩ : letters ≠ [] ∧ digits ≠ [] := by simpa using hne
      exact ⟨hletters, hdigits, hletter, hdigit, hstop, gap, hblank, rfl⟩
  · rintro ⟨hletters, hdigits, hletter, hdigit, hstop, gap, hblank, rfl⟩
    have hhead : ∀ q : Char → Prop, (∀ c, isDecimal c = true → q c) → ∀ c ∈ (digits ++ rest).head?, q c := by
      intro q hq c hc
      cases digits with
      | nil => exact absurd rfl hdigits
      | cons d digits =>
          cases hc
          exact hq _ (hdigit _ List.mem_cons_self)
    have hspanLetters : (letters ++ (gap ++ (digits ++ rest))).span isAsciiLetter = (letters, gap ++ (digits ++ rest)) :=
      span_append hletter (head?_append_of (fun c hc => isAsciiLetter_of_isBlank (hblank c hc))
        (hhead _ fun c hc => (of_isDecimal_blank_letter hc).2))
    have hdropGap : (gap ++ (digits ++ rest)).dropWhile isBlank = digits ++ rest :=
      dropWhile_append hblank (hhead _ fun c hc => (of_isDecimal_blank_letter hc).1)
    simp only [splitRef?, hspanLetters, hdropGap, span_append hdigit hstop]
    rw [if_neg (by simp [hletters, hdigits])]

/-- The value `<Kind> <id>` of a reference; between the two there may be blanks. -/
def NamesRef (value : List Char) (ref : EntityRef) : Prop :=
  ∃ letters gap digits, value = letters ++ (gap ++ digits) ∧ SpellsKind letters ref.kind ∧
    (∀ c ∈ gap, isBlank c = true) ∧ Denotes digits ref.id

theorem refuse_eq_ok_iff {α : Type} {field : Field} {result : Except Failure α} {a : α} :
    field.refuse result = .ok a ↔ result = .ok a :=
  Result.mapError_eq_ok_iff

/-- What letters and digits name once they are told apart. -/
theorem readNamed_eq_ok_iff {field : Field} {letters digits : List Char} {ref : EntityRef}
    (hletters : ∀ c ∈ letters, isAsciiLetter c = true) (hne : digits ≠ []) (hdigits : ∀ c ∈ digits, isDecimal c = true) :
    (∃ kind, readKind field letters = .ok kind ∧ ∃ id, readNumber digits = .ok id ∧
      EntityRef.ofKind kind id = .ok ref) ↔ SpellsKind letters ref.kind ∧ Denotes digits ref.id := by
  constructor
  · rintro ⟨kind, hkind, id, hid, href⟩
    obtain ⟨rfl, hrefid⟩ := EntityRef.ofKind_eq_ok.1 href
    obtain ⟨hlength, hvalue⟩ := readNumber_eq_ok_iff.1 hid
    exact ⟨(readKind_eq_ok_iff hletters).1 hkind, hne, hdigits, hlength, hvalue.trans (Int.ofNat.inj hrefid).symm⟩
  · rintro ⟨hkind, hid⟩
    exact ⟨ref.kind, (readKind_eq_ok_iff hletters).2 hkind, ref.id, hid.readNumber, EntityRef.ofKind_eq_ok.2 ⟨rfl, rfl⟩⟩

theorem readRef_eq_ok_iff {field : Field} {ref : EntityRef} : readRef field = .ok ref ↔ NamesRef field.value ref := by
  constructor
  · intro h
    rw [readRef] at h
    split at h
    · rename_i letters digits hsplit
      obtain ⟨-, hdigits, hletter, hdigit, -, gap, hblank, hvalue⟩ := splitRef?_eq_some_iff.1 hsplit
      simp only [Result.bind_eq_ok_iff, refuse_eq_ok_iff] at h
      obtain ⟨hkind, hid⟩ := (readNamed_eq_ok_iff hletter hdigits hdigit).1 h
      rw [List.append_nil] at hvalue
      exact ⟨letters, gap, digits, hvalue, hkind, hblank, hid⟩
    · cases h
  · rintro ⟨letters, gap, digits, hvalue, hkind, hblank, hid⟩
    have hletters : letters ≠ [] := by
      rintro rfl
      exact absurd hkind.2 (by cases ref.kind <;> decide)
    have hsplit : splitRef? field.value = some (letters, digits, []) :=
      splitRef?_eq_some_iff.2 ⟨hletters, hid.ne_nil, hkind.1, hid.isDecimal, (fun _ h => nomatch h), gap, hblank,
        by rw [hvalue, List.append_nil]⟩
    rw [readRef, hsplit]
    simp only [Result.bind_eq_ok_iff, refuse_eq_ok_iff]
    exact (readNamed_eq_ok_iff hkind.1 hid.ne_nil hid.isDecimal).2 ⟨hkind, hid⟩

/-! ## Materials -/

theorem splitQuantity?_eq_some_iff {rest digits : List Char} :
    splitQuantity? rest = some digits ↔
      digits ≠ [] ∧ (∀ c ∈ digits, isDecimal c = true) ∧
        ∃ gap gap', (∀ c ∈ gap, isBlank c = true) ∧ (∀ c ∈ gap', isBlank c = true) ∧
          rest = gap ++ ',' :: (gap' ++ digits) := by
  constructor
  · intro h
    obtain ⟨gap, afterGap, rfl, hgap, hblank, -⟩ := exists_span isBlank rest
    rw [List.span_eq_takeWhile_dropWhile, Prod.mk.injEq] at hgap
    rw [splitQuantity?, hgap.2] at h
    split at h
    · rename_i afterComma
      obtain ⟨gap', digits', rfl, hgap', hblank', -⟩ := exists_span isBlank afterComma
      rw [List.span_eq_takeWhile_dropWhile, Prod.mk.injEq] at hgap'
      simp only [hgap'.2] at h
      split at h
      · rename_i hdigits
        cases h
        obtain ⟨hne, hdigit⟩ : digits ≠ [] ∧ ∀ c ∈ digits, isDecimal c = true := by simpa using hdigits
        exact ⟨hne, hdigit, gap, gap', hblank, hblank', rfl⟩
      · cases h
    · cases h
  · rintro ⟨hne, hdigit, gap, gap', hblank, hblank', rfl⟩
    have hgap : (gap ++ ',' :: (gap' ++ digits)).dropWhile isBlank = ',' :: (gap' ++ digits) :=
      dropWhile_append hblank (by rintro c ⟨⟩; decide)
    have hgap' : (gap' ++ digits).dropWhile isBlank = digits :=
      dropWhile_append hblank' fun c hc => (of_isDecimal_blank_letter (hdigit c (List.mem_of_mem_head? hc))).1
    rw [splitQuantity?, hgap]
    simp only [hgap']
    rw [if_pos]
    simpa using ⟨hne, hdigit⟩

/-- The value `<Kind> <id>, <quantity>` of a material; blanks may stand around the comma. -/
def NamesMaterial (value : List Char) (material : Material) : Prop :=
  ∃ named gap gap' digits, value = named ++ (gap ++ ',' :: (gap' ++ digits)) ∧ NamesRef named material.ref ∧
    (∀ c ∈ gap, isBlank c = true) ∧ (∀ c ∈ gap', isBlank c = true) ∧ Denotes digits material.quantity

theorem make_eq_ok_iff {ref : EntityRef} {quantity : Nat} {material : Material} :
    Material.make ref quantity = .ok material ↔ material.ref = ref ∧ material.quantity = quantity := by
  obtain ⟨ref', quantity', hpos⟩ := material
  unfold Material.make
  split
  · simp [eq_comm]
  · rename_i h
    simp only [reduceCtorEq, false_iff, not_and]
    omega

theorem splitMaterial_eq_some_iff {value letters digits quantity : List Char} :
    (do
      let (letters, digits, rest) ← splitRef? value
      return (letters, digits, ← splitQuantity? rest)) = some (letters, digits, quantity) ↔
      ∃ rest, splitRef? value = some (letters, digits, rest) ∧ splitQuantity? rest = some quantity := by
  cases splitRef? value with
  | none => simp
  | some parts =>
      obtain ⟨letters', digits', rest⟩ := parts
      cases hquantity : splitQuantity? rest with
      | none => simp [hquantity]
      | some quantity' =>
          simp [hquantity]
          grind

theorem readMaterial_eq_ok_iff {field : Field} {material : Material} :
    readMaterial field = .ok material ↔ NamesMaterial field.value material := by
  constructor
  · intro h
    rw [readMaterial] at h
    split at h
    · rename_i letters digits quantity hsplit
      obtain ⟨rest, href, hquantity⟩ := splitMaterial_eq_some_iff.1 hsplit
      obtain ⟨-, hdigits, hletter, hdigit, -, gap, hblank, hvalue⟩ := splitRef?_eq_some_iff.1 href
      obtain ⟨hne, hdecimal, before, after, hbefore, hafter, rfl⟩ := splitQuantity?_eq_some_iff.1 hquantity
      simp only [Result.bind_eq_ok_iff, refuse_eq_ok_iff] at h
      obtain ⟨kind, hkind, id, hid, ref, hofKind, n, hn, hmake⟩ := h
      obtain ⟨rfl, hn'⟩ := make_eq_ok_iff.1 hmake
      obtain ⟨hlength, hvalue'⟩ := readNumber_eq_ok_iff.1 hn
      have hnamed := (readNamed_eq_ok_iff hletter hdigits hdigit).1 ⟨kind, hkind, id, hid, hofKind⟩
      refine ⟨letters ++ (gap ++ digits), before, after, quantity, ?_,
        ⟨letters, gap, digits, rfl, hnamed.1, hblank, hnamed.2⟩, hbefore, hafter, hne, hdecimal, hlength,
        hvalue'.trans hn'.symm⟩
      rw [hvalue]
      simp only [List.append_assoc]
    · cases h
  · rintro ⟨named, before, after, quantity, hvalue, ⟨letters, gap, digits, rfl, hkind, hblank, hid⟩, hbefore, hafter,
      hquantity⟩
    have hletters : letters ≠ [] := by
      rintro rfl
      exact absurd hkind.2 (by cases material.ref.kind <;> decide)
    -- Behind the number of the entity comes a blank or the comma.
    have hstop : ∀ c ∈ (before ++ ',' :: (after ++ quantity)).head?, isDecimal c = false :=
      head?_append_of (fun c hc => isDecimal_of_isBlank (hbefore c hc)) (by rintro c ⟨⟩; decide)
    have href : splitRef? field.value = some (letters, digits, before ++ ',' :: (after ++ quantity)) :=
      splitRef?_eq_some_iff.2 ⟨hletters, hid.ne_nil, hkind.1, hid.isDecimal, hstop, gap, hblank,
        by rw [hvalue]; simp only [List.append_assoc]⟩
    have hamount : splitQuantity? (before ++ ',' :: (after ++ quantity)) = some quantity :=
      splitQuantity?_eq_some_iff.2 ⟨hquantity.ne_nil, hquantity.isDecimal, before, after, hbefore, hafter, rfl⟩
    have hsplit := splitMaterial_eq_some_iff.2 ⟨_, href, hamount⟩
    obtain ⟨kind, hreadKind, id, hreadId, hofKind⟩ :
        ∃ kind, readKind field letters = .ok kind ∧ ∃ id, readNumber digits = .ok id ∧
          EntityRef.ofKind kind id = .ok material.ref :=
      (readNamed_eq_ok_iff hkind.1 hid.ne_nil hid.isDecimal).2 ⟨hkind, hid⟩
    rw [readMaterial]
    simp only [hsplit, Result.bind_eq_ok_iff, refuse_eq_ok_iff]
    exact ⟨kind, hreadKind, id, hreadId, material.ref, hofKind, material.quantity, hquantity.readNumber,
      make_eq_ok_iff.2 ⟨rfl, rfl⟩⟩

end Crafting.Note
