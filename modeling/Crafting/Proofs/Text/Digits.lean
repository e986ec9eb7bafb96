import Crafting.Proofs.Note.Field
import Crafting.Proofs.Text.Words

/-!
# Rows of digits

A row of digits is a numeral just when all of its digits are decimal and it is not too long. Digits that are not decimal
make it none.
-/

namespace Crafting.Text

/-- What holds of the digits of every script and of those that are not decimal holds of all digits. -/
theorem of_isDigit {p : Char → Bool} (hdecimal : ∀ first ∈ zeros, ∀ d < 10, p (Char.ofNat (first + d)) = true)
    (hother : ∀ range ∈ otherDigitRanges, ∀ d < range.2 + 1 - range.1, p (Char.ofNat (range.1 + d)) = true) {c : Char}
    (hc : isDigit c = true) : p c = true := by
  rcases Bool.or_eq_true_iff.1 hc with h | h
  · exact of_isDecimal hdecimal h
  · obtain ⟨⟨first, last⟩, hrange, hwithin⟩ := List.any_eq_true.1 h
    simp only [Bool.and_eq_true, decide_eq_true_eq] at hwithin
    have hp := hother (first, last) hrange (c.toNat - first) (by dsimp only; omega)
    dsimp only at hp
    rwa [Nat.add_sub_cancel' hwithin.1, Char.ofNat_toNat] at hp

namespace Numeral

/-- A digit is nothing else that a numeral may hold. -/
theorem of_isDigit_margin {c : Char} (h : isDigit c = true) :
    isMargin c = false ∧ c ≠ '-' ∧ c ≠ '+' ∧ c ≠ '_' := by
  have hclasses := of_isDigit (p := fun c => !isMargin c && (c != '-' && (c != '+' && c != '_'))) (by decide +kernel)
    (by decide +kernel) h
  simpa using hclasses

theorem joinGroups?_of_none {row : List Char} (h : ∀ c ∈ row, c ≠ '_') :
    joinGroups? row = if row = [] then none else some row := by
  rw [joinGroups?, pieces_of_none fun c hc => beq_false_of_ne (h c hc)]
  cases row <;> simp

theorem takeSign_of_isDigit {row : List Char} (h : ∀ c ∈ row, isDigit c = true) : takeSign row = (1, row) := by
  cases row with
  | nil => rfl
  | cons c rest =>
      obtain ⟨-, hminus, hplus, -⟩ := of_isDigit_margin (h c List.mem_cons_self)
      unfold takeSign
      split
      · rename_i hc
        exact absurd (List.cons.inj hc).1 hminus
      · rename_i hc
        exact absurd (List.cons.inj hc).1 hplus
      · rfl

theorem dropWhile_of_isDigit {row : List Char} (h : ∀ c ∈ row, isDigit c = true) : row.dropWhile isMargin = row := by
  cases row with
  | nil => rfl
  | cons c rest =>
      have hmargin := (of_isDigit_margin (h c List.mem_cons_self)).1
      exact List.dropWhile_cons_of_neg (by rw [hmargin]; exact Bool.false_ne_true)

/-- A row of digits is read just when all are decimal and they are not too many. -/
theorem exists_read_iff {row : List Char} (hrow : row ≠ []) (h : ∀ c ∈ row, isDigit c = true) :
    (∃ n, read row = .ok n) ↔ (∀ c ∈ row, isDecimal c = true) ∧ row.length ≤ maxDigits := by
  -- The decimal digits at the start are read; whatever is left begins with a digit that is not decimal.
  obtain ⟨digits, left, rfl, hspan, hdigits, hleft⟩ := Note.exists_span (fun c => isDecimal c || c == '_') row
  obtain ⟨hmine, hothers⟩ := List.forall_mem_append.1 h
  have hunderscore : ∀ c ∈ digits, c ≠ '_' := fun c hc => (of_isDigit_margin (hmine c hc)).2.2.2
  have hdecimal : ∀ c ∈ digits, isDecimal c = true := by
    intro c hc
    have hclass := hdigits c hc
    rwa [beq_false_of_ne (hunderscore c hc), Bool.or_false] at hclass
  rw [read, dropWhile_of_isDigit h, takeSign_of_isDigit h]
  simp only [hspan, joinGroups?_of_none hunderscore]
  cases left with
  | nil =>
      rw [List.append_nil] at hrow ⊢
      rw [if_neg hrow, and_iff_right hdecimal]
      by_cases hlength : digits.length ≤ maxDigits
      · simp [ofDigits, hlength]
      · simp [ofDigits, hlength]
  | cons c rest =>
      have hodd : isDecimal c = false := (Bool.or_eq_false_iff.1 (hleft c rfl)).1
      have hmargin : isMargin c = false := (of_isDigit_margin (hothers c List.mem_cons_self)).1
      have hnone : ¬∀ d ∈ digits ++ c :: rest, isDecimal d = true := by
        intro hall
        rw [hall c (List.mem_append_right _ List.mem_cons_self)] at hodd
        cases hodd
      refine ⟨?_, fun hall => absurd hall.1 hnone⟩
      rintro ⟨n, hn⟩
      split at hn
      · cases hn
      · split at hn
        · cases hn
        · rw [List.all_cons, hmargin, Bool.false_and] at hn
          cases hn

end Numeral

end Crafting.Text
