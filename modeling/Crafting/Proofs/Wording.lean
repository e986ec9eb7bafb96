import Mathlib.Tactic.NormNum
import Crafting.Json.Value
import Crafting.Proofs.Assoc
import Crafting.Proofs.Result
import Crafting.Proofs.Text.Numeral
import Crafting.Recipe

/-!
# What can be written

A text can be written just when every number in it has a numeral within the limit. What a failure says can be taken down
unless nobody keeps it, or it cannot tell itself.
-/

namespace Crafting

open Text

theorem writeNumber_eq_ok_iff {n : Nat} {text : String} :
    writeNumber n = .ok text ↔ Numeral.Writable n ∧ text = toString n := by
  rw [writeNumber, Result.mapError_eq_ok_iff, Numeral.write_eq_ok_iff]

theorem exists_writeNumber_iff {n : Nat} : (∃ text, writeNumber n = .ok text) ↔ Numeral.Writable n := by
  simp only [writeNumber_eq_ok_iff, exists_and_left, exists_eq, and_true]

theorem writeNumber_eq_error {n : Nat} {failure : Failure} (h : writeNumber n = .error failure) :
    failure = .unwritable := by
  obtain ⟨fault, hfault, rfl⟩ := Result.mapError_eq_error_iff.1 h
  rw [Numeral.write_eq_error hfault]
  rfl

theorem writeInt_eq_error {n : Int} {failure : Failure} (h : writeInt n = .error failure) : failure = .unwritable := by
  obtain ⟨fault, hfault, rfl⟩ := Result.mapError_eq_error_iff.1 h
  obtain hwrite | ⟨_, -, hdone⟩ := Result.bind_eq_error_iff.1 hfault
  · rw [Numeral.write_eq_error hwrite]
    rfl
  · cases hdone

theorem exists_writeInt_iff {n : Int} : (∃ text, writeInt n = .ok text) ↔ Numeral.Writable n.natAbs := by
  simp only [writeInt, Result.mapError_eq_ok_iff, Numeral.exists_writeSigned_iff]

/-! ## References -/

namespace EntityRef

def Writable (ref : EntityRef) : Prop :=
  Numeral.Writable ref.id

instance (ref : EntityRef) : Decidable ref.Writable :=
  inferInstanceAs (Decidable (Numeral.Writable _))

/-- The text of a reference whose number can be written. -/
def plainText (ref : EntityRef) : String :=
  ref.kind.name ++ " " ++ toString ref.id

theorem text_eq_ok_iff {ref : EntityRef} {text : String} : ref.text = .ok text ↔ ref.Writable ∧ text = ref.plainText := by
  simp only [EntityRef.text, Result.bind_eq_ok_iff, Result.pure_eq_ok_iff, writeNumber_eq_ok_iff]
  constructor
  · rintro ⟨_, ⟨hwritable, rfl⟩, rfl⟩
    exact ⟨hwritable, rfl⟩
  · rintro ⟨hwritable, rfl⟩
    exact ⟨_, ⟨hwritable, rfl⟩, rfl⟩

theorem Writable.text_eq {ref : EntityRef} (h : ref.Writable) : ref.text = .ok ref.plainText :=
  text_eq_ok_iff.2 ⟨h, rfl⟩

theorem text_eq_error {ref : EntityRef} {failure : Failure} (h : ref.text = .error failure) : failure = .unwritable := by
  obtain hid | ⟨_, -, hdone⟩ := Result.bind_eq_error_iff.1 h
  · exact writeNumber_eq_error hid
  · cases hdone

theorem exists_text_iff {ref : EntityRef} : (∃ text, ref.text = .ok text) ↔ ref.Writable := by
  simp only [text_eq_ok_iff, exists_and_left, exists_eq, and_true]

end EntityRef

/-! ## Failures -/

namespace Failure

/-- A handler keeps the failure, and it tells why it happened. -/
def Tellable : Failure → Prop
  | exit | untold _ => False
  | _ => True

theorem Tellable.toldAfter_eq {failure : Failure} (h : failure.Tellable) (opening : Except Failure String) :
    failure.toldAfter opening = opening.map (· ++ failure.message) := by
  cases failure <;> first | rfl | exact h.elim

theorem Tellable.exists_toldAfter {failure : Failure} (h : failure.Tellable) {opening : Except Failure String}
    (hopening : ∃ words, opening = .ok words) : ∃ words, failure.toldAfter opening = .ok words := by
  rw [h.toldAfter_eq]
  exact Result.exists_map_iff.2 hopening

end Failure

/-! ## Values -/

namespace Binary

theorem ofBits_lt (bits : Nat) : (ofBits bits).mantissa < 2 ^ 53 ∧ (ofBits bits).power < 2 ^ 11 := by
  have hfraction : bits % 2 ^ 52 < 2 ^ 52 := Nat.mod_lt _ (by norm_num)
  have hexponent : bits / 2 ^ 52 % 2 ^ 11 < 2 ^ 11 := Nat.mod_lt _ (by norm_num)
  unfold ofBits
  simp only [Nat.pow_eq]
  split
  · exact ⟨hfraction.trans (by norm_num), by norm_num⟩
  · refine ⟨?_, hexponent⟩
    show 2 ^ 52 + bits % 2 ^ 52 < 2 ^ 53
    omega

/-- The whole part of a float has a few hundred digits at most. -/
theorem writable_truncate (x : Float) : Numeral.Writable (truncate x).natAbs := by
  obtain ⟨hmantissa, hpower⟩ := ofBits_lt (x.toBits.toNat % Nat.pow 2 63)
  have hunits : (units x).natAbs =
      (ofBits (x.toBits.toNat % Nat.pow 2 63)).mantissa * 2 ^ (ofBits (x.toBits.toNat % Nat.pow 2 63)).power := by
    unfold units
    dsimp only
    split
    · exact Int.natAbs_natCast _
    · rw [Int.natAbs_neg]
      exact Int.natAbs_natCast _
  generalize (ofBits (x.toBits.toNat % Nat.pow 2 63)).mantissa = mantissa at *
  generalize (ofBits (x.toBits.toNat % Nat.pow 2 63)).power = power at *
  refine Numeral.writable_iff_lt.2 ?_
  rw [truncate, Int.natAbs_tdiv, Int.natAbs_natCast, hunits]
  -- The mantissa has 53 bits and the power 11, so there are at most 53 + 2047 digits.
  calc
    mantissa * 2 ^ power / unitsInOne ≤ mantissa * 2 ^ power := Nat.div_le_self _ _
    _ ≤ mantissa * 10 ^ power := Nat.mul_le_mul_left _ (Nat.pow_le_pow_left (by norm_num) power)
    _ < 10 ^ 53 * 10 ^ power :=
      Nat.mul_lt_mul_of_pos_right (hmantissa.trans_le (Nat.pow_le_pow_left (by norm_num) 53)) (by positivity)
    _ = 10 ^ (53 + power) := (Nat.pow_add _ _ _).symm
    _ ≤ 10 ^ Numeral.maxDigits := Nat.pow_le_pow_right (by norm_num) (by rw [Numeral.maxDigits]; omega)

end Binary

namespace Json

mutual

/-- Only a number can keep a value from being shown. -/
theorem literal_eq_error {json : Json} {failure : Failure} (h : json.literal = .error failure) :
    failure = .unwritable := by
  cases json with
  | whole value => exact writeInt_eq_error (by rwa [literal] at h)
  | array items =>
      rw [literal] at h
      obtain hitems | ⟨_, -, hdone⟩ := Result.bind_eq_error_iff.1 h
      · exact literals_eq_error hitems
      · cases hdone
  | object fields =>
      rw [literal] at h
      obtain hfields | ⟨_, -, hdone⟩ := Result.bind_eq_error_iff.1 h
      · exact fieldLiterals_eq_error hfields
      · cases hdone
  | null | bool _ | float _ | string _ | torn _ => simp only [literal, reduceCtorEq] at h

theorem literals_eq_error {items : List Json} {failure : Failure} (h : literals items = .error failure) :
    failure = .unwritable := by
  cases items with
  | nil => simp only [literals, reduceCtorEq] at h
  | cons item rest =>
      rw [literals] at h
      obtain hitem | ⟨_, -, hrest⟩ := Result.bind_eq_error_iff.1 h
      · exact literal_eq_error hitem
      · obtain hrest | ⟨_, -, hdone⟩ := Result.bind_eq_error_iff.1 hrest
        · exact literals_eq_error hrest
        · cases hdone

theorem fieldLiterals_eq_error {fields : List (String × Json)} {failure : Failure}
    (h : fieldLiterals fields = .error failure) : failure = .unwritable := by
  cases fields with
  | nil => simp only [fieldLiterals, reduceCtorEq] at h
  | cons field rest =>
      obtain ⟨key, value⟩ := field
      rw [fieldLiterals] at h
      obtain hvalue | ⟨_, -, hrest⟩ := Result.bind_eq_error_iff.1 h
      · exact literal_eq_error hvalue
      · obtain hrest | ⟨_, -, hdone⟩ := Result.bind_eq_error_iff.1 hrest
        · exact fieldLiterals_eq_error hrest
        · cases hdone

end

/-- Every whole number in the value can be written, so that the value can be shown. -/
def Writable (json : Json) : Prop :=
  ∃ text, json.literal = .ok text

theorem writable_whole_iff {n : Int} : (whole n).Writable ↔ Numeral.Writable n.natAbs := by
  simp only [Writable, literal, exists_writeInt_iff]

theorem writable_array_iff {items : List Json} : (array items).Writable ↔ ∀ item ∈ items, item.Writable := by
  have hitems : (∃ texts, literals items = .ok texts) ↔ ∀ item ∈ items, item.Writable := by
    induction items with
    | nil => exact iff_of_true ⟨[], by rw [literals]⟩ (List.forall_mem_nil _)
    | cons item rest ih =>
        rw [List.forall_mem_cons, ← ih]
        simp only [literals, Writable, Result.bind_eq_ok_iff, Result.pure_eq_ok_iff]
        exact ⟨fun ⟨_, text, htext, texts, htexts, _⟩ => ⟨⟨text, htext⟩, texts, htexts⟩,
          fun ⟨⟨text, htext⟩, texts, htexts⟩ => ⟨_, text, htext, texts, htexts, rfl⟩⟩
  rw [← hitems]
  simp only [Writable, literal, Result.bind_eq_ok_iff, Result.pure_eq_ok_iff]
  exact ⟨fun ⟨_, texts, htexts, _⟩ => ⟨texts, htexts⟩, fun ⟨texts, htexts⟩ => ⟨_, texts, htexts, rfl⟩⟩

theorem writable_object_iff {fields : List (String × Json)} :
    (object fields).Writable ↔ ∀ field ∈ fields, field.2.Writable := by
  have hfields : (∃ texts, fieldLiterals fields = .ok texts) ↔ ∀ field ∈ fields, field.2.Writable := by
    induction fields with
    | nil => exact iff_of_true ⟨[], by rw [fieldLiterals]⟩ (List.forall_mem_nil _)
    | cons field rest ih =>
        rw [List.forall_mem_cons, ← ih]
        simp only [fieldLiterals, Writable, Result.bind_eq_ok_iff, Result.pure_eq_ok_iff]
        exact ⟨fun ⟨_, text, htext, texts, htexts, _⟩ => ⟨⟨text, htext⟩, texts, htexts⟩,
          fun ⟨⟨text, htext⟩, texts, htexts⟩ => ⟨_, text, htext, texts, htexts, rfl⟩⟩
  rw [← hfields]
  simp only [Writable, literal, Result.bind_eq_ok_iff, Result.pure_eq_ok_iff]
  exact ⟨fun ⟨_, texts, htexts, _⟩ => ⟨texts, htexts⟩, fun ⟨texts, htexts⟩ => ⟨_, texts, htexts, rfl⟩⟩

theorem Writable.display {json : Json} (h : json.Writable) : ∃ words, json.display = .ok words := by
  unfold Json.display
  split
  · exact ⟨_, rfl⟩
  · exact ⟨_, rfl⟩
  · exact h

theorem writable_ofPoints (points : List Nat) : (ofPoints points).Writable := by
  unfold ofPoints
  split
  · exact ⟨_, by rw [literal]⟩
  · exact ⟨_, by rw [literal]⟩

theorem Writable.of_get? {record value : Json} {key : String} (h : record.Writable)
    (hget : record.get? key = some value) : value.Writable := by
  cases record with
  | object fields => exact writable_object_iff.1 h _ (Assoc.mem_of_get?_eq_some hget)
  | _ => cases hget

/-- What a value lists can be written as the value can. -/
theorem Writable.of_elements {json : Json} {items : List Json} (h : json.Writable) (hitems : json.elements = .ok items) :
    ∀ item ∈ items, item.Writable := by
  cases json with
  | array list =>
      cases hitems
      exact writable_array_iff.1 h
  | string text =>
      cases hitems
      exact List.forall_mem_map.2 fun c _ => ⟨_, by rw [literal]⟩
  | torn points =>
      cases hitems
      exact List.forall_mem_map.2 fun point _ => writable_ofPoints [point]
  | object fields =>
      cases hitems
      exact List.forall_mem_map.2 fun field _ => ⟨_, by rw [literal]⟩
  | _ => cases hitems

/-- The whole number that a value stands for is no longer than the numbers in it, and a float has a short whole part. -/
theorem Writable.toInt {json : Json} {n : Int} (h : json.Writable) (hn : json.toInt = .ok n) :
    Numeral.Writable n.natAbs := by
  cases json with
  | whole value =>
      cases hn
      exact writable_whole_iff.1 h
  | bool value =>
      cases hn
      cases value <;> decide
  | float value =>
      rw [Json.toInt] at hn
      split at hn
      · cases hn
      · split at hn
        · cases hn
        · cases hn
          exact Binary.writable_truncate value
  | string text =>
      exact Numeral.writable_of_read (Result.mapError_eq_ok_iff.1 hn)
  | torn points =>
      exact Numeral.writable_of_read (Result.mapError_eq_ok_iff.1 hn)
  | null | array _ | object _ => cases hn

theorem display_eq_error {json : Json} {failure : Failure} (h : json.display = .error failure) :
    failure = .unwritable := by
  unfold display at h
  split at h
  · cases h
  · cases h
  · exact literal_eq_error h

end Json

/-! ## Recipes -/

/-- The numbers that an exchange reports can be written: that of the result, and the cost. -/
structure Recipe.Reportable (recipe : Recipe) : Prop where
  result : recipe.result.Writable
  cost : Numeral.Writable recipe.cost

theorem Recipe.not_reportable_iff {recipe : Recipe} :
    ¬recipe.Reportable ↔ ¬recipe.result.Writable ∨ ¬Numeral.Writable recipe.cost := by
  rw [← not_and_or]
  exact not_congr ⟨fun h => ⟨h.result, h.cost⟩, fun h => ⟨h.1, h.2⟩⟩

end Crafting
