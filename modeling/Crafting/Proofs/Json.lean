import Mathlib.Data.List.TakeDrop
import Mathlib.Data.List.TakeWhile
import Crafting.DataFile
import Crafting.Proofs.Wording
import Crafting.Proofs.Text.Utf8

/-!
# What data files hold

A file's content holds a value when it is the encoding of a text that reads as that value. Reading fails in three ways
only: the bytes are no encoding, a number has too many digits, or the text is malformed. An infinite number is read well
and fails only where a whole number is needed.
-/

namespace Crafting

namespace Json

/-! ## Fields -/

theorem require_eq_ok_iff {record value : Json} {key : String} :
    record.require key = .ok value ↔ record.get? key = some value := by
  cases record with
  | object fields =>
      show (Assoc.get? key fields).elim (Except.error Failure.missingKey) Except.ok = .ok value ↔
        Assoc.get? key fields = some value
      cases Assoc.get? key fields <;> simp
  | _ => exact ⟨nofun, nofun⟩

theorem require_error {record : Json} {key : String} {failure : Failure} (h : record.require key = .error failure) :
    failure = .missingKey ∨ failure = .wrongType := by
  cases record with
  | object fields =>
      change (Assoc.get? key fields).elim (Except.error Failure.missingKey) Except.ok = .error failure at h
      cases hget : Assoc.get? key fields <;> rw [hget] at h <;> cases h
      exact .inl rfl
  | _ => exact .inr (Except.error.inj h).symm

theorem elements_error {value : Json} {failure : Failure} (h : value.elements = .error failure) :
    failure = .wrongType := by
  cases value <;> cases h <;> rfl

/-! ## Infinite numbers -/

/-- A number beyond all bounds. -/
def IsInfinite (value : Json) : Prop :=
  ∃ x, value = .float x ∧ x.isNaN = false ∧ x.isInf = true

theorem toInt_eq_infinite_iff {value : Json} : value.toInt = .error .infinite ↔ value.IsInfinite := by
  unfold IsInfinite
  cases value with
  | float x =>
      simp only [toInt, float.injEq, exists_eq_left']
      cases x.isNaN <;> cases x.isInf <;> simp
  | string text =>
      simp only [toInt, Result.mapError_eq_error_iff, reduceCtorEq, false_and, exists_false, iff_false, not_exists,
        not_and]
      rintro (_ | _ | _) - hcause <;> cases hcause
  | torn points =>
      simp only [toInt, Result.mapError_eq_error_iff, reduceCtorEq, false_and, exists_false, iff_false, not_exists,
        not_and]
      rintro (_ | _ | _) - hcause <;> cases hcause
  | null | bool _ | whole _ | array _ | object _ =>
      refine iff_of_false ?_ ?_
      · rintro ⟨⟩
      · rintro ⟨_, ⟨⟩, -⟩

/-! ## Numbers of too many digits -/

/-- Whether a value may come next. -/
def Expect.TakesValue : Expect → Prop
  | .value | .itemOrEnd => True
  | _ => False

/-- The text has a whole number of that many digits, which are too many, where a value may stand, and all before it is
in order. -/
def Overlong (text : String) (digits : Nat) : Prop :=
  ∃ before number after machine, tokens text.toList = before ++ .number number :: after ∧
    before.foldlM (Machine.step (some Text.Numeral.maxDigits)) {} = .ok machine ∧ machine.expect.TakesValue ∧
    (number.fraction = [] ∧ number.exponent = none) ∧ number.whole.length = digits ∧ Text.Numeral.maxDigits < digits

theorem NumberText.value_error_iff {number : NumberText} {limit : Nat} {failure : Failure} :
    number.value (some limit) = .error failure ↔
      (number.fraction = [] ∧ number.exponent = none) ∧ limit < number.whole.length ∧
        failure = .tooManyDigits number.whole.length := by
  have hwhole : (number.fraction.isEmpty && number.exponent.isNone) = true ↔
      number.fraction = [] ∧ number.exponent = none := by
    rw [Bool.and_eq_true, List.isEmpty_iff, Option.isNone_iff_eq_none]
  unfold NumberText.value
  by_cases h : number.fraction = [] ∧ number.exponent = none
  · rw [if_pos (hwhole.2 h)]
    by_cases hlong : limit < number.whole.length
    · simp [h, hlong, eq_comm]
    · simp [hlong]
  · rw [if_neg (mt hwhole.1 h)]
    simp [h]

namespace Machine

variable {limit : Nat} {machine : Machine} {failure : Failure}

/-- A value begins with no token that is malformed there, nor with a number that has too many digits. -/
theorem begin_error {stack : List Frame} {token : Token} (h : begin (some limit) stack token = .error failure) :
    failure = .malformed ∨ ∃ number, token = .number number ∧ number.value (some limit) = .error failure := by
  cases token with
  | number text =>
      change (text.value (some limit)).map (put stack) = .error failure at h
      cases hvalue : text.value (some limit) <;> rw [hvalue] at h <;> cases h
      exact .inr ⟨text, rfl, hvalue⟩
  | stray | colon | comma | closeArray | closeObject => exact .inl (Except.error.inj h).symm
  | openArray | openObject | string | constant => cases h

/-- A step refuses a token as malformed, or it is a number that has too many digits and stands where a value may. -/
theorem step_error {token : Token} (h : machine.step (some limit) token = .error failure) :
    failure = .malformed ∨
      ∃ number, token = .number number ∧ machine.expect.TakesValue ∧ number.value (some limit) = .error failure := by
  have hbegin (htakes : machine.expect.TakesValue) (h : begin (some limit) machine.stack token = .error failure) :
      failure = .malformed ∨ ∃ number, token = .number number ∧ machine.expect.TakesValue ∧
        number.value (some limit) = .error failure :=
    (begin_error h).imp_right fun ⟨number, htoken, hvalue⟩ => ⟨number, htoken, htakes, hvalue⟩
  unfold step at h
  split at h
  case h_1 hexpect => exact hbegin (hexpect ▸ trivial) h
  case h_3 hexpect _ => exact hbegin (hexpect ▸ trivial) h
  case h_12 => exact .inl (Except.error.inj h).symm
  all_goals cases h

theorem step_number {number : NumberText} (h : machine.expect.TakesValue)
    (hvalue : number.value (some limit) = .error failure) :
    machine.step (some limit) (.number number) = .error failure := by
  obtain ⟨stack, expect⟩ := machine
  cases expect with
  | value | itemOrEnd =>
      show (number.value (some limit)).map (put stack) = .error failure
      rw [hvalue]
      rfl
  | _ => cases h

theorem run_error {toks : List Token} (h : machine.run (some limit) toks = .error failure) :
    failure = .malformed ∨ ∃ before number after next, toks = before ++ .number number :: after ∧
      before.foldlM (step (some limit)) machine = .ok next ∧ next.expect.TakesValue ∧
      number.value (some limit) = .error failure := by
  induction toks generalizing machine with
  | nil =>
      unfold run at h
      split at h
      · cases h
      · exact .inl (Except.error.inj h).symm
  | cons token rest ih =>
      -- The first token that fails is this one, or one that comes later.
      rw [run] at h
      split at h
      · rename_i next hstep
        refine (ih h).imp_right ?_
        rintro ⟨before, number, after, last, rfl, hlast, htakes, hvalue⟩
        refine ⟨token :: before, number, after, last, rfl, ?_, htakes, hvalue⟩
        rw [List.foldlM_cons, hstep]
        exact hlast
      · rename_i cause hstep
        cases h
        refine (step_error hstep).imp_right ?_
        rintro ⟨number, rfl, htakes, hvalue⟩
        exact ⟨[], number, rest, machine, rfl, rfl, htakes, hvalue⟩

theorem run_of_number {before : List Token} {number : NumberText} {next : Machine}
    (hbefore : before.foldlM (step (some limit)) machine = .ok next) (htakes : next.expect.TakesValue)
    (hvalue : number.value (some limit) = .error failure) (after : List Token) :
    machine.run (some limit) (before ++ .number number :: after) = .error failure := by
  induction before generalizing machine with
  | nil =>
      cases hbefore
      rw [List.nil_append, run, step_number htakes hvalue]
  | cons token rest ih =>
      rw [List.foldlM_cons, Result.bind_eq_ok_iff] at hbefore
      obtain ⟨second, hstep, hrest⟩ := hbefore
      rw [List.cons_append, run, hstep]
      exact ih hrest

end Machine

theorem read_eq_tooManyDigits_iff {text : String} {digits : Nat} :
    read text = .error (.tooManyDigits digits) ↔ Overlong text digits := by
  constructor
  · intro h
    obtain ⟨⟨⟩⟩ | ⟨before, number, after, machine, htokens, hbefore, htakes, hvalue⟩ := Machine.run_error h
    obtain ⟨hwhole, hlong, hdigits⟩ := NumberText.value_error_iff.1 hvalue
    cases hdigits
    exact ⟨before, number, after, machine, htokens, hbefore, htakes, hwhole, rfl, hlong⟩
  · rintro ⟨before, number, after, machine, htokens, hbefore, htakes, hwhole, rfl, hlong⟩
    show Machine.run _ _ (tokens text.toList) = _
    rw [htokens]
    exact Machine.run_of_number hbefore htakes (NumberText.value_error_iff.2 ⟨hwhole, hlong, rfl⟩) after

/-- A text that is not malformed is refused only for a number of too many digits. -/
theorem read_error {text : String} {failure : Failure} (h : read text = .error failure) :
    failure = .malformed ∨ ∃ digits, failure = .tooManyDigits digits := by
  obtain rfl | ⟨_, number, _, _, _, _, _, hvalue⟩ := Machine.run_error h
  · exact .inl rfl
  · exact .inr ⟨number.whole.length, (NumberText.value_error_iff.1 hvalue).2.2⟩

/-! ## What is read can be written -/

theorem foldl_digits_lt {digits : List Char} (h : ∀ c ∈ digits, isAsciiDigit c = true) (high : Nat) :
    digits.foldl (fun n c => 10 * n + (c.toNat - 48)) high < (high + 1) * 10 ^ digits.length := by
  induction digits generalizing high with
  | nil => simp
  | cons c rest ih =>
      obtain ⟨hdigit, hrest⟩ := List.forall_mem_cons.1 h
      have hlt : c.toNat - 48 < 10 := by
        rw [isAsciiDigit, Bool.and_eq_true, decide_eq_true_eq, decide_eq_true_eq] at hdigit
        have hlast : c.toNat ≤ '9'.toNat := Char.le_def.1 hdigit.2
        have hnine : '9'.toNat = 57 := rfl
        omega
      calc
        (c :: rest).foldl (fun n c => 10 * n + (c.toNat - 48)) high
            < (10 * high + (c.toNat - 48) + 1) * 10 ^ rest.length := ih hrest _
        _ ≤ (10 * (high + 1)) * 10 ^ rest.length := Nat.mul_le_mul_right _ (by omega)
        _ = (high + 1) * 10 ^ (c :: rest).length := by rw [List.length_cons, Nat.pow_succ]; ring

/-- What a token stands for can be written, a number as far as it has few digits. -/
def Token.Writable : Token → Prop
  | .number text => ∀ c ∈ text.whole, isAsciiDigit c = true
  | .constant value => value.Writable
  | _ => True

theorem takeNumber?_whole {text after : List Char} {number : NumberText}
    (h : takeNumber? text = some (number, after)) : ∀ c ∈ number.whole, isAsciiDigit c = true := by
  unfold takeNumber? at h
  dsimp only at h
  split at h
  · cases h
  · rename_i digits rest hdigits hsplitting
    cases h
    -- The whole part is a zero on its own, or what stands before the first character that is no digit.
    split at hsplitting
    · cases hsplitting
      exact List.forall_mem_singleton.2 rfl
    · rw [List.span_eq_takeWhile_dropWhile] at hsplitting
      cases hsplitting
      exact fun c hc => List.mem_takeWhile_imp hc

theorem NumberText.writable_value {number : NumberText} (hwhole : ∀ c ∈ number.whole, isAsciiDigit c = true)
    {value : Json} (h : number.value (some Text.Numeral.maxDigits) = .ok value) : value.Writable := by
  unfold NumberText.value at h
  split at h
  · split at h
    · cases h
    · rename_i hshort
      have hlength : number.whole.length ≤ Text.Numeral.maxDigits := by simpa using hshort
      have hlt : digitValue number.whole < 10 ^ Text.Numeral.maxDigits := by
        have hdigits := foldl_digits_lt hwhole 0
        rw [Nat.zero_add, Nat.one_mul] at hdigits
        exact hdigits.trans_le (Nat.pow_le_pow_right (by norm_num) hlength)
      cases h
      refine writable_whole_iff.2 (Text.Numeral.writable_iff_lt.2 ?_)
      split
      · rwa [Int.natAbs_neg, Int.natAbs_natCast]
      · rwa [Int.natAbs_natCast]
  · cases h
    exact ⟨_, by rw [literal]⟩

theorem nextToken_writable (text : List Char) : (nextToken text).1.Writable := by
  have hconstants : ∀ constant ∈ constants, constant.2.Writable := by
    simp only [constants, List.forall_mem_cons]
    refine ⟨?_, ?_, ?_, ?_, ?_, ?_, List.forall_mem_nil _⟩ <;> exact ⟨_, by rw [literal]⟩
  unfold nextToken
  split
  case h_7 =>
    split <;> trivial
  case h_8 =>
    split
    · exact takeNumber?_whole ‹_›
    · split
      · rename_i value _ hvalue
        obtain ⟨constant, hfound, hconstant⟩ := Option.map_eq_some_iff.1 hvalue
        cases hconstant
        exact hconstants _ (List.mem_of_find?_eq_some hfound)
      · trivial
  all_goals trivial

theorem tokensUpTo_writable (fuel : Nat) (text : List Char) : ∀ token ∈ tokensUpTo fuel text, token.Writable := by
  induction fuel generalizing text with
  | zero => exact List.forall_mem_nil _
  | succ fuel ih =>
      rw [tokensUpTo]
      split
      · exact List.forall_mem_nil _
      · exact List.forall_mem_cons.2 ⟨nextToken_writable _, ih _⟩

def Frame.Writable : Frame → Prop
  | .array items => ∀ item ∈ items, item.Writable
  | .object fields _ => ∀ field ∈ fields, field.2.Writable

def Expect.Writable : Expect → Prop
  | .key fields => ∀ field ∈ fields, field.2.Writable
  | .nothing result => result.Writable
  | _ => True

namespace Machine

/-- All values that the machine holds can be written. -/
structure Writable (machine : Machine) : Prop where
  stack : ∀ frame ∈ machine.stack, frame.Writable
  expect : machine.expect.Writable

theorem writable_put {stack : List Frame} {value : Json} (hstack : ∀ frame ∈ stack, frame.Writable)
    (hvalue : value.Writable) : (put stack value).Writable := by
  cases stack with
  | nil => exact ⟨List.forall_mem_nil _, hvalue⟩
  | cons frame rest =>
      obtain ⟨hframe, hrest⟩ := List.forall_mem_cons.1 hstack
      cases frame with
      | array items => exact ⟨List.forall_mem_cons.2 ⟨List.forall_mem_cons.2 ⟨hvalue, hframe⟩, hrest⟩, trivial⟩
      | object fields key =>
          exact ⟨List.forall_mem_cons.2 ⟨Assoc.forall_mem_put hframe hvalue, hrest⟩, trivial⟩

theorem writable_begin {stack : List Frame} {token : Token} {next : Machine}
    (hstack : ∀ frame ∈ stack, frame.Writable) (htoken : token.Writable)
    (h : begin (some Text.Numeral.maxDigits) stack token = .ok next) : next.Writable := by
  cases token with
  | openArray =>
      cases h
      exact ⟨List.forall_mem_cons.2 ⟨List.forall_mem_nil _, hstack⟩, trivial⟩
  | openObject =>
      cases h
      exact ⟨hstack, trivial⟩
  | string points =>
      cases h
      exact writable_put hstack (writable_ofPoints points)
  | constant value =>
      cases h
      exact writable_put hstack htoken
  | number number =>
      obtain ⟨value, hvalue, rfl⟩ := Result.map_eq_ok_iff.1 h
      exact writable_put hstack (number.writable_value htoken hvalue)
  | stray | colon | comma | closeArray | closeObject => cases h

theorem Writable.step {machine next : Machine} {token : Token} (h : machine.Writable) (htoken : token.Writable)
    (hstep : machine.step (some Text.Numeral.maxDigits) token = .ok next) : next.Writable := by
  obtain ⟨hstack, hexpect⟩ := h
  -- What is open on top is closed to a value, which can be written as its parts can.
  have harray : ∀ {items rest}, machine.stack = .array items :: rest →
      (array items.reverse).Writable ∧ ∀ frame ∈ rest, frame.Writable := by
    intro items rest hopen
    obtain ⟨hitems, hrest⟩ := List.forall_mem_cons.1 (hopen ▸ hstack)
    exact ⟨writable_array_iff.2 fun item hitem => hitems item (List.mem_reverse.1 hitem), hrest⟩
  have hobject : ∀ {fields key rest}, machine.stack = .object fields key :: rest →
      (∀ field ∈ fields, field.2.Writable) ∧ ∀ frame ∈ rest, frame.Writable :=
    fun hopen => List.forall_mem_cons.1 (hopen ▸ hstack)
  unfold Machine.step at hstep
  split at hstep
  case h_1 | h_3 => exact writable_begin hstack htoken hstep
  case h_12 => cases hstep
  all_goals cases hstep
  case h_2 hopen | h_9 hopen => exact writable_put (harray hopen).2 (harray hopen).1
  case h_4 => exact writable_put hstack (writable_object_iff.2 (List.forall_mem_nil _))
  case h_5 => exact ⟨List.forall_mem_cons.2 ⟨List.forall_mem_nil _, hstack⟩, trivial⟩
  case h_6 hkey =>
    rw [hkey] at hexpect
    exact ⟨List.forall_mem_cons.2 ⟨hexpect, hstack⟩, trivial⟩
  case h_7 => exact ⟨hstack, trivial⟩
  case h_8 hopen => exact ⟨hopen ▸ hstack, trivial⟩
  case h_10 hopen => exact ⟨(hobject hopen).2, (hobject hopen).1⟩
  case h_11 hopen => exact writable_put (hobject hopen).2 (writable_object_iff.2 (hobject hopen).1)

theorem Writable.run {machine : Machine} {toks : List Token} {value : Json} (h : machine.Writable)
    (htoks : ∀ token ∈ toks, token.Writable) (hrun : machine.run (some Text.Numeral.maxDigits) toks = .ok value) :
    value.Writable := by
  induction toks generalizing machine with
  | nil =>
      unfold Machine.run at hrun
      split at hrun
      · rename_i result hexpect
        cases hrun
        have hresult := h.expect
        rwa [hexpect] at hresult
      · cases hrun
  | cons token rest ih =>
      obtain ⟨hfirst, hrest⟩ := List.forall_mem_cons.1 htoks
      rw [Machine.run] at hrun
      split at hrun
      · rename_i next hstep
        exact ih (h.step hfirst hstep) hrest hrun
      · cases hrun

end Machine

/-- Only whole numbers within the limit are read, so that what is read can be written. -/
theorem writable_of_read {text : String} {value : Json} (h : read text = .ok value) : value.Writable := by
  have hempty : Machine.Writable {} := ⟨List.forall_mem_nil _, trivial⟩
  exact hempty.run (tokensUpTo_writable _ _) h

end Json

/-! ## Contents of files -/

namespace DataFile

variable {content : List UInt8}

/-- The file's content is the encoding of a text that reads as this value. -/
def Holds (file : DataFile) (value : Json) : Prop :=
  ∃ text, file = .bytes (Text.utf8Of text) ∧ Json.read (String.ofList text) = .ok value

/-- What a file holds can be written. -/
theorem writable_of_holds {file : DataFile} {value : Json} (h : file.Holds value) : value.Writable := by
  obtain ⟨_, -, hread⟩ := h
  exact Json.writable_of_read hread

theorem parse_utf8Of (text : List Char) : parse (Text.utf8Of text) = Json.read (String.ofList text) := by
  rw [parse, Text.decode_utf8Of]

theorem parse_eq_ok_iff {value : Json} : parse content = .ok value ↔ (bytes content).Holds value := by
  constructor
  · intro h
    unfold parse at h
    split at h
    · cases h
    · rename_i text htext
      exact ⟨text, congrArg bytes (Text.utf8Of_decode htext), h⟩
  · rintro ⟨text, hcontent, hvalue⟩
    cases hcontent
    rwa [parse_utf8Of]

/-- What keeps a content from being read: it is the encoding of no text, or its text is refused. -/
theorem parse_eq_error_iff {failure : Failure} :
    parse content = .error failure ↔
      failure = .undecodable ∧ (∀ text, content ≠ Text.utf8Of text) ∨
        ∃ text, content = Text.utf8Of text ∧ Json.read (String.ofList text) = .error failure := by
  constructor
  · intro h
    unfold parse at h
    split at h
    · rename_i hnone
      exact .inl ⟨(Except.error.inj h).symm, Text.decodeUtf8?_eq_none_iff.1 hnone⟩
    · rename_i text htext
      exact .inr ⟨text, Text.utf8Of_decode htext, h⟩
  · rintro (⟨rfl, hnone⟩ | ⟨text, rfl, hread⟩)
    · rw [parse, Text.decodeUtf8?_eq_none_iff.2 hnone]
    · rwa [parse_utf8Of]

end DataFile

end Crafting
