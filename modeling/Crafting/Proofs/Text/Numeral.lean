import Mathlib.Algebra.Order.Ring.Nat
import Mathlib.Tactic.Ring
import Crafting.Text.Numeral

/-!
# Numerals and their values

A number's own numeral is read back as that number, and a numeral of so many digits stands for a number whose own numeral
has no more.
-/

namespace Crafting.Text

/-! ## Decimal digits -/

theorem isDecimal_iff {c : Char} : isDecimal c = true ↔ ∃ first ∈ zeros, first ≤ c.toNat ∧ c.toNat ≤ first + 9 := by
  simp [isDecimal, decimalValue?]

/-- What holds of the ten digits of every script holds of all decimal digits. -/
theorem of_isDecimal {p : Char → Bool} (h : ∀ first ∈ zeros, ∀ d < 10, p (Char.ofNat (first + d)) = true) {c : Char}
    (hc : isDecimal c = true) : p c = true := by
  obtain ⟨first, hfirst, hle, hlt⟩ := isDecimal_iff.1 hc
  have hp := h first hfirst (c.toNat - first) (by omega)
  rwa [Nat.add_sub_cancel' hle, Char.ofNat_toNat] at hp

theorem decimalValue?_digitChar : ∀ d < 10, decimalValue? (Nat.digitChar d) = some d := by
  decide

namespace Numeral

/-! ## Values -/

theorem valueFrom_append (high : Nat) (digits more : List Char) :
    valueFrom high (digits ++ more) = valueFrom (valueFrom high digits) more := by
  induction digits generalizing high with
  | nil => rfl
  | cons c rest ih => exact ih _

theorem valueFrom_lt (high : Nat) (digits : List Char) : valueFrom high digits < (high + 1) * 10 ^ digits.length := by
  induction digits generalizing high with
  | nil => simp [valueFrom]
  | cons c rest ih =>
      have hdigit : (decimalValue? c).getD 0 < 10 := by
        cases hc : decimalValue? c with
        | none => exact Nat.succ_pos _
        | some d => exact decimalValue?_lt hc
      calc
        valueFrom (10 * high + (decimalValue? c).getD 0) rest
            < (10 * high + (decimalValue? c).getD 0 + 1) * 10 ^ rest.length := ih _
        _ ≤ (10 * (high + 1)) * 10 ^ rest.length := Nat.mul_le_mul_right _ (by omega)
        _ = (high + 1) * 10 ^ (c :: rest).length := by rw [List.length_cons, Nat.pow_succ]; ring

theorem value_lt (digits : List Char) : value digits < 10 ^ digits.length := by
  have h := valueFrom_lt 0 digits
  rwa [Nat.zero_add, Nat.one_mul] at h

/-- A number's own numeral has that value. -/
theorem value_toDigits (n : Nat) : value (Nat.toDigits 10 n) = n := by
  induction n using Nat.strong_induction_on with
  | h n ih =>
      by_cases hn : n < 10
      · rw [Nat.toDigits_of_lt_base hn]
        simp [value, valueFrom, decimalValue?_digitChar n hn]
      · -- The last digit stands for the remainder, the digits before it for the quotient.
        have hlast : n % 10 < 10 := Nat.mod_lt n (Nat.succ_pos _)
        have hhigh : valueFrom 0 (Nat.toDigits 10 (n / 10)) = n / 10 := ih (n / 10) (by omega)
        rw [Nat.toDigits_of_base_le (by decide) (Nat.le_of_not_lt hn), value, valueFrom_append, hhigh]
        simp only [valueFrom, decimalValue?_digitChar _ hlast, Option.getD_some]
        omega

theorem toNat_of_mem_toDigits {n : Nat} {c : Char} (h : c ∈ Nat.toDigits 10 n) : 0x30 ≤ c.toNat ∧ c.toNat ≤ 0x39 := by
  have hdigit := Nat.isDigit_of_mem_toDigits (by decide) (by decide) h
  simp only [Char.isDigit, Bool.and_eq_true, decide_eq_true_eq, ge_iff_le, UInt32.le_iff_toNat_le] at hdigit
  exact hdigit

theorem isDecimal_of_mem_toDigits {n : Nat} {c : Char} (h : c ∈ Nat.toDigits 10 n) : isDecimal c = true :=
  isDecimal_iff.2 ⟨0x30, by decide, toNat_of_mem_toDigits h⟩

/-! ## Reading and writing -/

/-- A number whose numeral is within the limit on digits. -/
def Writable (n : Nat) : Prop :=
  (Nat.toDigits 10 n).length ≤ maxDigits

instance (n : Nat) : Decidable (Writable n) :=
  inferInstanceAs (Decidable (_ ≤ _))

theorem writable_zero : Writable 0 :=
  Nat.le_add_left 1 _

theorem length_toDigits_value_le {most : Nat} (hmost : 0 < most) {digits : List Char} (h : digits.length ≤ most) :
    (Nat.toDigits 10 (value digits)).length ≤ most :=
  (Nat.length_toDigits_le_iff (by decide) hmost).2
    ((value_lt digits).trans_le (Nat.pow_le_pow_right (Nat.succ_pos _) h))

theorem writable_value {digits : List Char} (h : digits.length ≤ maxDigits) : Writable (value digits) :=
  length_toDigits_value_le (by decide) h

theorem write_eq_ok_iff {n : Nat} {text : String} : write n = .ok text ↔ Writable n ∧ text = toString n := by
  have hlength : (toString n).length = (Nat.toDigits 10 n).length := by
    rw [← String.length_toList, Nat.toString_eq_repr, Nat.toList_repr]
  unfold write Writable
  simp only [hlength]
  split
  · rename_i h
    simp [h, eq_comm]
  · rename_i h
    simp [h]

theorem write_eq_error {n : Nat} {fault : Fault} (h : write n = .error fault) : fault = .unwritable := by
  simp only [write] at h
  split at h <;> cases h
  rfl

theorem exists_writeSigned_iff {n : Int} : (∃ text, writeSigned n = .ok text) ↔ Writable n.natAbs := by
  unfold writeSigned
  cases hwrite : write n.natAbs with
  | ok text => exact iff_of_true ⟨_, rfl⟩ (write_eq_ok_iff.1 hwrite).1
  | error fault =>
      refine iff_of_false nofun fun h => ?_
      rw [write_eq_ok_iff.2 ⟨h, rfl⟩] at hwrite
      cases hwrite

theorem ofDigits_eq_ok_iff {digits : List Char} {n : Nat} :
    ofDigits digits = .ok n ↔ digits.length ≤ maxDigits ∧ value digits = n := by
  unfold ofDigits
  split
  · rename_i h
    simp [h]
  · rename_i h
    simp [h]

theorem writable_iff_lt {n : Nat} : Writable n ↔ n < 10 ^ maxDigits :=
  Nat.length_toDigits_le_iff (by decide) (by decide)

/-- What is read has no more digits than its numeral. -/
theorem writable_of_read {text : List Char} {n : Int} (h : read text = .ok n) : Writable n.natAbs := by
  have hsign : ∀ text, (takeSign text).1.natAbs = 1 := by
    intro text
    unfold takeSign
    split <;> rfl
  unfold read at h
  dsimp only at h
  split at h
  · cases h
  · split at h
    · cases h
    · rename_i digits _ _ value hvalue
      split at h
      · cases h
        obtain ⟨hlength, rfl⟩ := ofDigits_eq_ok_iff.1 hvalue
        rw [Int.natAbs_mul, hsign, Nat.one_mul, Int.natAbs_natCast]
        exact writable_value hlength
      · cases h

end Numeral

end Crafting.Text
