import Mathlib.Data.List.DropRight
import Crafting.Text.Blank

/-!
# Trimmed texts and lines

A text is trimmed just when no blank begins or ends it. The lines of a text are parts of it without line ends, and lines
that are each ended by a line feed are read back as they are.
-/

namespace Crafting.Text

/-! ## Trimming -/

theorem trimEnd_eq_rdropWhile (text : List Char) : trimEnd text = text.rdropWhile isBlank := by
  induction text with
  | nil => rfl
  | cons c rest ih =>
      -- What is kept of the rest decides whether the first character may go.
      have hreverse : (c :: rest).rdropWhile isBlank =
          ((rest.reverse ++ [c]).dropWhile isBlank).reverse := by
        rw [List.rdropWhile, List.reverse_cons]
      rw [hreverse, List.dropWhile_append]
      rw [List.rdropWhile] at ih
      cases hkept : rest.reverse.dropWhile isBlank with
      | nil =>
          rw [hkept] at ih
          cases hblank : isBlank c <;> simp [trimEnd, ih, hblank]
      | cons last kept =>
          rw [hkept] at ih
          cases hend : (last :: kept).reverse with
          | nil => simp at hend
          | cons d others =>
              rw [hend] at ih
              simp [trimEnd, ih, ← hend]

theorem trim_eq (text : List Char) : trim text = (text.dropWhile isBlank).rdropWhile isBlank :=
  trimEnd_eq_rdropWhile _

theorem infix_trim (text : List Char) : trim text <:+: text := by
  rw [trim_eq]
  exact (List.rdropWhile_prefix _ _).isInfix.trans (List.dropWhile_suffix _).isInfix

theorem trim_cons_of_blank {c : Char} (h : isBlank c = true) (text : List Char) : trim (c :: text) = trim text := by
  rw [trim, trim, List.dropWhile_cons_of_pos h]

/-- A text is trimmed just when no blank begins or ends it. -/
theorem trim_eq_self_iff {text : List Char} :
    trim text = text ↔ (∀ c ∈ text.head?, isBlank c = false) ∧ ∀ c ∈ text.getLast?, isBlank c = false := by
  rw [trim_eq]
  constructor
  · intro h
    -- Nothing is lost in either of the two steps.
    have hstart : text.dropWhile isBlank = text := by
      refine (List.dropWhile_suffix _).eq_of_length_le ?_
      have hle := (List.rdropWhile_prefix isBlank (text.dropWhile isBlank)).length_le
      rwa [h] at hle
    rw [hstart] at h
    refine ⟨fun c hc => ?_, fun c hc => ?_⟩
    · cases text with
      | nil => cases hc
      | cons d rest =>
          cases hc
          simpa using List.dropWhile_eq_self_iff.1 hstart (Nat.succ_pos _)
    · obtain ⟨hne, rfl⟩ := List.mem_getLast?_eq_getLast hc
      simpa using List.rdropWhile_eq_self_iff.1 h hne
  · rintro ⟨hhead, hlast⟩
    have hstart : text.dropWhile isBlank = text := by
      cases text with
      | nil => rfl
      | cons c rest => rw [List.dropWhile_cons_of_neg (by simp [hhead c rfl])]
    rw [hstart]
    refine List.rdropWhile_eq_self_iff.2 fun hne => ?_
    rw [hlast _ (List.getLast?_eq_some_getLast hne)]
    exact Bool.false_ne_true

@[simp] theorem trim_trim (text : List Char) : trim (trim text) = trim text := by
  -- What begins the trimmed text begins the text without the blanks before it, so it is no blank.
  have hstart : (trim text).dropWhile isBlank = trim text := by
    have hstarts := List.rdropWhile_prefix isBlank (text.dropWhile isBlank)
    rw [← trim_eq] at hstarts
    cases htrimmed : trim text with
    | nil => rfl
    | cons c rest =>
        obtain ⟨after, hafter⟩ := hstarts
        have hhead := List.head?_dropWhile_not isBlank text
        rw [← hafter, htrimmed] at hhead
        exact List.dropWhile_cons_of_neg (by simpa using hhead)
  rw [trim_eq (trim text), hstart, trim_eq text, List.rdropWhile_idempotent]

/-! ## Lines -/

/-- The parts of a text that a line end ends are lines of it. -/
theorem lines_append_newline {line : List Char} (h : ∀ c ∈ line, isLineEnd c = false) (rest : List Char) :
    lines (line ++ '\n' :: rest) = line :: lines rest := by
  induction line with
  | nil => rfl
  | cons c line ih =>
      have hc : isLineEnd c = false := h c List.mem_cons_self
      have hrest := ih fun d hd => h d (List.mem_cons_of_mem _ hd)
      have hreturn : c ≠ '\r' := by rintro rfl; exact absurd hc (by decide)
      rw [List.cons_append, lines.eq_3 _ _ fun _ e _ => hreturn e, hc, hrest]
      rfl

theorem lines_flatMap_newline {parts : List (List Char)} (h : ∀ part ∈ parts, ∀ c ∈ part, isLineEnd c = false) :
    lines (parts.flatMap (· ++ ['\n'])) = parts := by
  induction parts with
  | nil => rfl
  | cons part others ih =>
      rw [List.flatMap_cons, List.append_assoc, List.singleton_append,
        lines_append_newline (h part List.mem_cons_self), ih fun other ho => h other (List.mem_cons_of_mem _ ho)]

theorem isLineEnd_of_mem_lines {text line : List Char} (h : line ∈ lines text) : ∀ c ∈ line, isLineEnd c = false := by
  fun_induction lines text generalizing line with
  | case1 => cases h
  | case2 rest ih | case3 c rest _ _ ih =>
      rcases List.mem_cons.1 h with rfl | hmem
      · exact fun _ hc => nomatch hc
      · exact ih hmem
  | case4 c rest _ hc _ ih =>
      rcases List.mem_singleton.1 h with rfl
      simpa using hc
  | case5 c rest _ hc first others hlines ih =>
      rw [hlines] at ih
      rcases List.mem_cons.1 h with rfl | hmem
      · exact List.forall_mem_cons.2 ⟨by simpa using hc, ih List.mem_cons_self⟩
      · exact ih (List.mem_cons_of_mem _ hmem)

/-- Every line is a part of the text, and the first one begins it. -/
theorem lines_parts (text : List Char) :
    (∀ line ∈ (lines text).head?, line <+: text) ∧ ∀ line ∈ lines text, line <:+: text := by
  fun_induction lines text with
  | case1 => exact ⟨(fun _ h => nomatch h), fun _ h => nomatch h⟩
  | case2 rest ih =>
      refine ⟨fun line hline => ?_, List.forall_mem_cons.2 ⟨List.nil_infix, fun line hline => ?_⟩⟩
      · cases hline
        exact List.nil_prefix
      · exact (ih.2 line hline).trans (List.suffix_append ['\r', '\n'] rest).isInfix
  | case3 c rest _ _ ih =>
      refine ⟨fun line hline => ?_, List.forall_mem_cons.2 ⟨List.nil_infix, fun line hline => ?_⟩⟩
      · cases hline
        exact List.nil_prefix
      · exact List.infix_cons (ih.2 line hline)
  | case4 c rest _ _ _ ih =>
      have hstarts : [c] <+: c :: rest := List.prefix_append [c] rest
      exact ⟨fun line hline => by cases hline; exact hstarts, List.forall_mem_singleton.2 hstarts.isInfix⟩
  | case5 c rest _ _ first others hlines ih =>
      -- The character before the first line begins that line.
      rw [hlines] at ih
      have hstarts : c :: first <+: c :: rest := List.cons_prefix_cons.2 ⟨rfl, ih.1 first rfl⟩
      refine ⟨fun line hline => by cases hline; exact hstarts, List.forall_mem_cons.2 ⟨hstarts.isInfix, ?_⟩⟩
      exact fun line hline => List.infix_cons (ih.2 line (List.mem_cons_of_mem _ hline))

theorem infix_of_mem_lines {text line : List Char} (h : line ∈ lines text) : line <:+: text :=
  (lines_parts text).2 line h

end Crafting.Text
