import Crafting.Text.Blank

/-!
# Words

A blank cuts a text in two parts that have its words between them. So the words of a text are the stretches of it that
have no blank in them and blanks, or nothing, on both sides; and words with single spaces between them are read back.
-/

namespace Crafting.Text

/-! ## Pieces -/

theorem pieces_ne_nil (cut : Char → Bool) (text : List Char) : pieces cut text ≠ [] := by
  cases text with
  | nil => exact List.cons_ne_nil _ _
  | cons c rest =>
      rw [pieces]
      split
      · exact List.cons_ne_nil _ _
      · split <;> exact List.cons_ne_nil _ _

theorem pieces_of_none {cut : Char → Bool} {row : List Char} (h : ∀ c ∈ row, cut c = false) :
    pieces cut row = [row] := by
  induction row with
  | nil => rfl
  | cons c rest ih =>
      obtain ⟨hc, hrest⟩ := List.forall_mem_cons.1 h
      simp [pieces, hc, ih hrest]

/-- The pieces of a text that is cut somewhere are those before and those behind. -/
theorem pieces_append_cons {cut : Char → Bool} {c : Char} (hc : cut c = true) (before after : List Char) :
    pieces cut (before ++ c :: after) = pieces cut before ++ pieces cut after := by
  induction before with
  | nil => simp [pieces, hc]
  | cons d before ih =>
      rw [List.cons_append, pieces, pieces, ih]
      by_cases hd : cut d = true
      · rw [if_pos hd, if_pos hd, List.cons_append]
      · rw [if_neg hd, if_neg hd]
        obtain ⟨piece, others, hpieces⟩ := List.exists_cons_of_ne_nil (pieces_ne_nil cut before)
        rw [hpieces]
        rfl

/-! ## Words -/

/-- A word: there is something to it, and nothing of it is blank. -/
structure IsWord (word : List Char) : Prop where
  ne_nil : word ≠ []
  not_blank : ∀ c ∈ word, isBlank c = false

theorem isWord_iff {word : List Char} : IsWord word ↔ word ≠ [] ∧ (word.any isBlank) = false := by
  rw [List.any_eq_false]
  constructor
  · exact fun h => ⟨h.ne_nil, fun c hc => Bool.not_eq_true _ ▸ h.not_blank c hc⟩
  · exact fun ⟨hsome, hnone⟩ => ⟨hsome, fun c hc => Bool.eq_false_iff.2 (hnone c hc)⟩

instance : DecidablePred IsWord := fun _ => decidable_of_iff _ isWord_iff.symm

theorem IsWord.words {word : List Char} (h : IsWord word) : words word = [word] := by
  rw [Text.words, pieces_of_none h.not_blank]
  simp [h.ne_nil]

/-- A blank belongs to no word and ends the one before it. -/
theorem words_append_blank {c : Char} (hc : isBlank c = true) (before after : List Char) :
    words (before ++ c :: after) = words before ++ words after := by
  rw [words, pieces_append_cons hc, List.filter_append]
  rfl

theorem words_cons_blank {c : Char} (hc : isBlank c = true) (text : List Char) : words (c :: text) = words text :=
  words_append_blank hc [] text

theorem words_gap_append {gap : List Char} (hgap : ∀ c ∈ gap, isBlank c = true) (text : List Char) :
    words (gap ++ text) = words text := by
  induction gap with
  | nil => rfl
  | cons c gap ih =>
      obtain ⟨hc, hrest⟩ := List.forall_mem_cons.1 hgap
      rw [List.cons_append, words_cons_blank hc, ih hrest]

/-- A word at the beginning of a text that a blank ends, or the text itself. -/
theorem IsWord.words_append {word rest : List Char} (h : IsWord word) (hrest : ∀ c ∈ rest.head?, isBlank c = true) :
    Text.words (word ++ rest) = word :: Text.words rest := by
  cases rest with
  | nil => rw [List.append_nil, h.words]; rfl
  | cons c rest =>
      have hc : isBlank c = true := hrest c rfl
      rw [words_append_blank hc, words_cons_blank hc, h.words]
      rfl

/-- The words of a text in their order: before each of them there may be blanks, behind it there is one or the text
ends. -/
inductive Worded : List Char → List (List Char) → Prop where
  | blanks {gap : List Char} (hgap : ∀ c ∈ gap, isBlank c = true) : Worded gap []
  | word {gap word rest : List Char} {others : List (List Char)} (hgap : ∀ c ∈ gap, isBlank c = true)
      (hword : IsWord word) (hrest : ∀ c ∈ rest.head?, isBlank c = true) (hothers : Worded rest others) :
      Worded (gap ++ (word ++ rest)) (word :: others)

theorem Worded.words_eq {text : List Char} {found : List (List Char)} (h : Worded text found) : words text = found := by
  induction h with
  | blanks hgap =>
      have hnone := words_gap_append hgap []
      rwa [List.append_nil] at hnone
  | word hgap hword hrest _ ih => rw [words_gap_append hgap, hword.words_append hrest, ih]

theorem Worded.cons_blank {c : Char} (hc : isBlank c = true) {text : List Char} {found : List (List Char)}
    (h : Worded text found) : Worded (c :: text) found := by
  cases h with
  | blanks hgap => exact .blanks (List.forall_mem_cons.2 ⟨hc, hgap⟩)
  | @word gap word rest others hgap hword hrest hothers =>
      have hlonger : ∀ d ∈ c :: gap, isBlank d = true := List.forall_mem_cons.2 ⟨hc, hgap⟩
      exact Worded.word hlonger hword hrest hothers

theorem isWord_singleton {c : Char} (hc : isBlank c = false) : IsWord [c] :=
  ⟨List.cons_ne_nil _ _, List.forall_mem_singleton.2 hc⟩

/-- Every text is blanks and words. -/
theorem exists_worded (text : List Char) : ∃ found, Worded text found := by
  induction text with
  | nil => exact ⟨[], .blanks (List.forall_mem_nil _)⟩
  | cons c text ih =>
      obtain ⟨found, h⟩ := ih
      by_cases hc : isBlank c = true
      · exact ⟨found, h.cons_blank hc⟩
      · rw [Bool.not_eq_true] at hc
        have hnone : ∀ d ∈ ([] : List Char), isBlank d = true := List.forall_mem_nil _
        -- The character begins a word of its own, unless a word follows at once.
        by_cases hhead : ∀ d ∈ text.head?, isBlank d = true
        · exact ⟨_, Worded.word hnone (isWord_singleton hc) hhead h⟩
        · cases h with
          | blanks hgap => exact absurd (fun d hd => hgap d (List.mem_of_mem_head? hd)) hhead
          | @word gap word rest others hgap hword hrest hothers =>
              cases gap with
              | cons d gap =>
                  -- Then the text would begin with a blank.
                  refine absurd (fun e he => ?_) hhead
                  cases he
                  exact hgap d List.mem_cons_self
              | nil =>
                  have hlonger : IsWord (c :: word) :=
                    ⟨List.cons_ne_nil _ _, List.forall_mem_cons.2 ⟨hc, hword.not_blank⟩⟩
                  exact ⟨_, Worded.word hnone hlonger hrest hothers⟩

/-- The words that are read are the words of the text. -/
theorem words_eq_iff {text : List Char} {found : List (List Char)} : words text = found ↔ Worded text found := by
  refine ⟨fun h => ?_, Worded.words_eq⟩
  obtain ⟨others, hothers⟩ := exists_worded text
  rwa [← h, hothers.words_eq]

/-- Words with a space between them are read back. -/
theorem words_intercalate {found : List (List Char)} (h : ∀ word ∈ found, IsWord word) :
    words ([' '].intercalate found) = found := by
  induction found with
  | nil => rfl
  | cons word others ih =>
      obtain ⟨hword, hothers⟩ := List.forall_mem_cons.1 h
      cases others with
      | nil => rw [List.intercalate_singleton, hword.words]
      | cons next others =>
          rw [List.intercalate_cons_cons, List.append_assoc, List.singleton_append, words_append_blank (by decide),
            hword.words, ih hothers]
          rfl

end Crafting.Text

theorem String.map_toList_blankWords (text : String) :
    text.blankWords.map String.toList = Crafting.Text.words text.toList := by
  rw [blankWords, List.map_map]
  exact List.map_id'' (fun word => toList_ofList) _

theorem String.blankWords_intercalate {words : List String} (h : ∀ word ∈ words, Crafting.Text.IsWord word.toList) :
    (" ".intercalate words).blankWords = words := by
  rw [blankWords, toList_intercalate]
  have hread := Crafting.Text.words_intercalate (List.forall_mem_map.2 h)
  rw [show " ".toList = [' '] from rfl, hread, List.map_map]
  exact List.map_id'' (fun word => ofList_toList) words
