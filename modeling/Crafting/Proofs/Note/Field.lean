import Mathlib.Data.List.Forall2
import Mathlib.Data.List.TakeDrop
import Mathlib.Data.List.TakeWhile
import Crafting.Note.Field
import Crafting.Proofs.Result
import Crafting.Proofs.Text.Numeral

/-!
# The grammar of fields

A line is read as a field just when it is letters, decimal digits, blanks, a colon and a value, and the fields of a block
are those of all its lines that are not blank. Letters, decimal digits and blanks are three classes without a common
character, so there is one way only to read a line.
-/

namespace Crafting.Note

open Text

/-! ## Classes of characters -/

theorem isAsciiLetter_iff {c : Char} :
    isAsciiLetter c = true ↔ (97 ≤ c.toNat ∧ c.toNat ≤ 122) ∨ (65 ≤ c.toNat ∧ c.toNat ≤ 90) := by
  simp only [isAsciiLetter, Bool.or_eq_true, Bool.and_eq_true, decide_eq_true_eq, Char.le_def, UInt32.le_iff_toNat_le]
  rfl

theorem isBlank_of_isAsciiLetter {c : Char} (h : isAsciiLetter c = true) : isBlank c = false := by
  rw [isAsciiLetter_iff] at h
  simp [isBlank]
  omega

theorem of_isDecimal_blank_letter {c : Char} (h : isDecimal c = true) : isBlank c = false ∧ isAsciiLetter c = false := by
  have hclasses := of_isDecimal (p := fun c => !isBlank c && !isAsciiLetter c) (by decide +kernel) h
  simpa using hclasses

theorem isDecimal_of_isBlank {c : Char} (h : isBlank c = true) : isDecimal c = false := by
  rw [Bool.eq_false_iff]
  intro hdecimal
  rw [(of_isDecimal_blank_letter hdecimal).1] at h
  cases h

theorem isAsciiLetter_of_isBlank {c : Char} (h : isBlank c = true) : isAsciiLetter c = false := by
  rw [Bool.eq_false_iff]
  intro hletter
  rw [isBlank_of_isAsciiLetter hletter] at h
  cases h

/-! ## Spans -/

/-- A row of characters of one class, with a character of another class behind it. -/
theorem span_append {p : Char → Bool} {row rest : List Char} (hrow : ∀ c ∈ row, p c = true)
    (hrest : ∀ c ∈ rest.head?, p c = false) : (row ++ rest).span p = (row, rest) := by
  have hstop : rest.takeWhile p = [] ∧ rest.dropWhile p = rest := by
    cases rest with
    | nil => exact ⟨rfl, rfl⟩
    | cons c rest =>
        have hc : ¬p c = true := by simp [hrest c rfl]
        exact ⟨List.takeWhile_cons_of_neg hc, List.dropWhile_cons_of_neg hc⟩
  rw [List.span_eq_takeWhile_dropWhile, List.takeWhile_append_of_pos hrow, List.dropWhile_append_of_pos hrow, hstop.1,
    hstop.2, List.append_nil]

theorem dropWhile_append {p : Char → Bool} {row rest : List Char} (hrow : ∀ c ∈ row, p c = true)
    (hrest : ∀ c ∈ rest.head?, p c = false) : (row ++ rest).dropWhile p = rest := by
  have h := span_append hrow hrest
  rw [List.span_eq_takeWhile_dropWhile] at h
  exact congrArg Prod.snd h

theorem head?_append_of {α : Type} {q : α → Prop} {front back : List α} (hfront : ∀ c ∈ front, q c)
    (hback : ∀ c ∈ back.head?, q c) : ∀ c ∈ (front ++ back).head?, q c := by
  cases front with
  | nil => exact hback
  | cons d front => exact fun c hc => by cases hc; exact hfront d List.mem_cons_self

/-- Every text is a row of one class and a rest that goes on otherwise. -/
theorem exists_span (p : Char → Bool) (text : List Char) :
    ∃ row rest, text = row ++ rest ∧ text.span p = (row, rest) ∧ (∀ c ∈ row, p c = true) ∧
      ∀ c ∈ rest.head?, p c = false := by
  refine ⟨text.takeWhile p, text.dropWhile p, List.takeWhile_append_dropWhile.symm,
    List.span_eq_takeWhile_dropWhile p text, fun c hc => List.mem_takeWhile_imp hc, fun c hc => ?_⟩
  have hhead := List.head?_dropWhile_not p text
  rw [hc] at hhead
  simpa using hhead

/-! ## Fields -/

/-- A line `<letters><digits><blanks>:<value>` without blanks around it. -/
def IsField (line key value : List Char) : Prop :=
  ∃ letters digits gap rest, line = letters ++ (digits ++ (gap ++ ':' :: rest)) ∧ letters ≠ [] ∧
    (∀ c ∈ letters, isAsciiLetter c = true) ∧ (∀ c ∈ digits, isDecimal c = true) ∧ (∀ c ∈ gap, isBlank c = true) ∧
    key = (letters ++ digits).map Char.toLower ∧ value = trim rest

theorem IsField.ne_nil {line key value : List Char} (h : IsField line key value) : line ≠ [] := by
  obtain ⟨letters, digits, gap, rest, rfl, hne, -⟩ := h
  exact List.append_ne_nil_of_left_ne_nil hne _

theorem IsField.exists_value {line key value : List Char} (h : IsField line key value) :
    ∃ rest, rest <:+: line ∧ value = trim rest := by
  obtain ⟨letters, digits, gap, rest, rfl, -, -, -, -, -, hvalue⟩ := h
  refine ⟨rest, ⟨letters ++ (digits ++ (gap ++ [':'])), [], ?_⟩, hvalue⟩
  simp only [List.append_assoc, List.append_nil, List.singleton_append]

theorem splitField?_eq_some_iff {line key value : List Char} :
    splitField? line = some (key, value) ↔ IsField line key value := by
  constructor
  · intro h
    obtain ⟨letters, afterLetters, rfl, hletters, hletter, -⟩ := exists_span isAsciiLetter line
    obtain ⟨digits, afterDigits, rfl, hdigits, hdigit, -⟩ := exists_span isDecimal afterLetters
    obtain ⟨gap, afterGap, rfl, hgap, hblank, -⟩ := exists_span isBlank afterDigits
    rw [List.span_eq_takeWhile_dropWhile, Prod.mk.injEq] at hgap
    simp only [splitField?, hletters, hdigits, hgap.2] at h
    split at h
    · cases h
    · rename_i value' hne
      cases h
      exact ⟨letters, digits, gap, value', rfl, fun h => hne h, hletter, hdigit, hblank, rfl, rfl⟩
    · cases h
  · rintro ⟨letters, digits, gap, rest, rfl, hne, hletter, hdigit, hblank, rfl, rfl⟩
    -- No two classes meet, so each row ends where the next one begins.
    have hgap : (gap ++ ':' :: rest).dropWhile isBlank = ':' :: rest :=
      dropWhile_append hblank (by rintro c ⟨⟩; decide)
    have hdigits : (digits ++ (gap ++ ':' :: rest)).span isDecimal = (digits, gap ++ ':' :: rest) :=
      span_append hdigit (head?_append_of (fun c hc => isDecimal_of_isBlank (hblank c hc)) (by rintro c ⟨⟩; decide))
    have hletters : (letters ++ (digits ++ (gap ++ ':' :: rest))).span isAsciiLetter =
        (letters, digits ++ (gap ++ ':' :: rest)) := by
      refine span_append hletter (head?_append_of (fun c hc => (of_isDecimal_blank_letter (hdigit c hc)).2) ?_)
      exact head?_append_of (fun c hc => isAsciiLetter_of_isBlank (hblank c hc)) (by rintro c ⟨⟩; decide)
    obtain ⟨d, letters, rfl⟩ := List.exists_cons_of_ne_nil hne
    simp only [splitField?, hletters, hdigits, hgap]

/-- What a field says, wherever it stands. -/
def Field.entry (field : Field) : List Char × List Char :=
  (field.key, field.value)

theorem fieldsOf_cons (number : Nat) (line : List Char) (rest : List (Nat × List Char)) :
    fieldsOf ((number, line) :: rest) =
      if trim line = [] then fieldsOf rest
      else
        match splitField? (trim line) with
        | none => .error ⟨.notAField (String.ofList (trim line)), some number⟩
        | some (key, value) => (fieldsOf rest).map (⟨key, value, number⟩ :: ·) := by
  rw [fieldsOf]
  cases trim line <;> rfl

/-- The field is that of a numbered line. -/
structure Field.ReadFrom (numbered : Nat × List Char) (field : Field) : Prop where
  line_eq : field.line = numbered.1
  isField : IsField (trim numbered.2) field.key field.value

/-- The fields of numbered lines are read just when every line that is not blank is a field. -/
theorem fieldsOf_eq_ok_iff {numbered : List (Nat × List Char)} {found : List Field} :
    fieldsOf numbered = .ok found ↔
      List.Forall₂ Field.ReadFrom (numbered.filter fun entry => trim entry.2 ≠ []) found := by
  induction numbered generalizing found with
  | nil =>
      constructor
      · rintro ⟨⟩
        exact .nil
      · rintro ⟨⟩
        rfl
  | cons first rest ih =>
      obtain ⟨number, line⟩ := first
      rw [fieldsOf_cons, List.filter_cons]
      by_cases hblank : trim line = []
      · simpa [hblank] using ih
      · rw [if_neg hblank, if_pos (decide_eq_true hblank)]
        cases hsplit : splitField? (trim line) with
        | none =>
            constructor
            · rintro ⟨⟩
            · rintro (_ | ⟨⟨-, hfield⟩, -⟩)
              rw [← splitField?_eq_some_iff, hsplit] at hfield
              cases hfield
        | some pair =>
            obtain ⟨key, value⟩ := pair
            rw [Result.map_eq_ok_iff]
            constructor
            · rintro ⟨others, hothers, rfl⟩
              exact .cons ⟨rfl, splitField?_eq_some_iff.1 hsplit⟩ (ih.1 hothers)
            · rintro (_ | ⟨⟨rfl, hfield⟩, hrest⟩)
              rw [← splitField?_eq_some_iff, hsplit, Option.some.injEq, Prod.mk.injEq] at hfield
              obtain ⟨rfl, rfl⟩ := hfield
              exact ⟨_, ih.2 hrest, rfl⟩

theorem fieldsOf_entries {numbered : List (Nat × List Char)} {entries : List (List Char × List Char)} :
    (∃ found, fieldsOf numbered = .ok found ∧ found.map Field.entry = entries) ↔
      List.Forall₂ (fun line entry => IsField (trim line) entry.1 entry.2)
        ((numbered.map Prod.snd).filter fun line => trim line ≠ []) entries := by
  have hfilter : ((numbered.map Prod.snd).filter fun line => trim line ≠ []) =
      (numbered.filter fun entry => trim entry.2 ≠ []).map Prod.snd := List.filter_map
  simp only [hfilter, List.forall₂_map_left_iff, fieldsOf_eq_ok_iff]
  generalize (numbered.filter fun entry => trim entry.2 ≠ []) = stated
  constructor
  · rintro ⟨found, hfound, rfl⟩
    exact List.forall₂_map_right_iff.2 (hfound.imp fun _ _ h => h.isField)
  · intro h
    induction h with
    | nil => exact ⟨[], .nil, rfl⟩
    | cons hfield _ ih =>
        obtain ⟨found, hfound, rfl⟩ := ih
        exact ⟨⟨_, _, _⟩ :: found, .cons ⟨rfl, hfield⟩ hfound, rfl⟩

theorem fields_entries {body : List Char} {entries : List (List Char × List Char)} :
    (∃ found, fields body = .ok found ∧ found.map Field.entry = entries) ↔
      List.Forall₂ (fun line entry => IsField (trim line) entry.1 entry.2)
        ((lines body).filter fun line => trim line ≠ []) entries := by
  have hlines : (numberedLines body).map Prod.snd = lines body := by
    rw [numberedLines, List.map_map]
    exact List.zipIdx_map_fst 1 (lines body)
  rw [fields, fieldsOf_entries, hlines]

end Crafting.Note
