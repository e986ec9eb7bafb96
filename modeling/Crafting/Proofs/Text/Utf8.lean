import Crafting.Text.Utf8

/-!
# Bytes that are UTF-8

Bytes decode to a text just when they are the encodings of its characters, one after another. So they are refused just
when they are the encoding of no text.
-/

namespace Crafting.Text

/-- The bytes of a text. -/
def utf8Of (text : List Char) : List UInt8 :=
  text.flatMap String.utf8EncodeChar

/-! ## Pieces of a character -/

theorem tail?_eq_some_iff {b : UInt8} {n : Nat} : tail? b = some n ↔ n < 0x40 ∧ b.toNat = n + 0x80 := by
  simp only [tail?, Bool.and_eq_true, decide_eq_true_eq, Option.ite_none_right_eq_some, Option.some.injEq]
  omega

theorem toNat_char_ofNat {n : Nat} (h : n.isValidChar) : (Char.ofNat n).toNat = n := by
  rw [Char.ofNat, dif_pos h]
  rfl

theorem charFrom?_eq_some_iff {least n : Nat} {c : Char} :
    charFrom? least n = some c ↔ least ≤ n ∧ n = c.toNat := by
  simp only [charFrom?, Bool.and_eq_true, decide_eq_true_eq, Option.ite_none_right_eq_some, Option.some.injEq]
  constructor
  · rintro ⟨⟨hleast, hvalid⟩, rfl⟩
    exact ⟨hleast, (toNat_char_ofNat hvalid).symm⟩
  · rintro ⟨hleast, rfl⟩
    exact ⟨⟨hleast, c.valid⟩, Char.ofNat_toNat c⟩

theorem toNat_char_lt (c : Char) : c.toNat < 0x110000 := by
  have h : c.toNat.isValidChar := c.valid
  unfold Nat.isValidChar at h
  omega

theorem byte_eq {a : UInt8} {n : Nat} (h : a.toNat = n) : a = UInt8.ofNat n := by
  rw [← h, UInt8.ofNat_toNat]

theorem toNat_byte {n : Nat} (h : n < 0x100) : (UInt8.ofNat n).toNat = n :=
  UInt8.toNat_ofNat_of_lt' h

theorem tail?_byte {n : Nat} (h : n < 0x40) : tail? (UInt8.ofNat (n + 0x80)) = some n :=
  tail?_eq_some_iff.2 ⟨h, toNat_byte (by omega)⟩

/-! ## The four forms -/

variable {c : Char} {bytes : List UInt8}

theorem encode_one (h : c.toNat < 0x80) : String.utf8EncodeChar c = [UInt8.ofNat c.toNat] := by
  have h₁ : c.toNat ≤ 127 := by omega
  simp only [String.utf8EncodeChar, Char.toNat_val, if_pos h₁]

theorem encode_two (hleast : 0x80 ≤ c.toNat) (h : c.toNat < 0x800) :
    String.utf8EncodeChar c = [UInt8.ofNat (c.toNat / 0x40 + 0xC0), UInt8.ofNat (c.toNat % 0x40 + 0x80)] := by
  have h₁ : ¬ c.toNat ≤ 127 := by omega
  have h₂ : c.toNat ≤ 2047 := by omega
  have hhigh : c.toNat / 0x40 % 32 = c.toNat / 0x40 := by omega
  simp only [String.utf8EncodeChar, Char.toNat_val, if_neg h₁, if_pos h₂, hhigh]

theorem encode_three (hleast : 0x800 ≤ c.toNat) (h : c.toNat < 0x10000) :
    String.utf8EncodeChar c = [UInt8.ofNat (c.toNat / 0x1000 + 0xE0), UInt8.ofNat (c.toNat / 0x40 % 0x40 + 0x80),
      UInt8.ofNat (c.toNat % 0x40 + 0x80)] := by
  have h₁ : ¬ c.toNat ≤ 127 := by omega
  have h₂ : ¬ c.toNat ≤ 2047 := by omega
  have h₃ : c.toNat ≤ 65535 := by omega
  have hhigh : c.toNat / 0x1000 % 16 = c.toNat / 0x1000 := by omega
  simp only [String.utf8EncodeChar, Char.toNat_val, if_neg h₁, if_neg h₂, if_pos h₃, hhigh]

theorem encode_four (hleast : 0x10000 ≤ c.toNat) :
    String.utf8EncodeChar c = [UInt8.ofNat (c.toNat / 0x40000 + 0xF0), UInt8.ofNat (c.toNat / 0x1000 % 0x40 + 0x80),
      UInt8.ofNat (c.toNat / 0x40 % 0x40 + 0x80), UInt8.ofNat (c.toNat % 0x40 + 0x80)] := by
  have h₁ : ¬ c.toNat ≤ 127 := by omega
  have h₂ : ¬ c.toNat ≤ 2047 := by omega
  have h₃ : ¬ c.toNat ≤ 65535 := by omega
  have hhigh : c.toNat / 0x40000 % 8 = c.toNat / 0x40000 := by
    have := toNat_char_lt c
    omega
  simp only [String.utf8EncodeChar, Char.toNat_val, if_neg h₁, if_neg h₂, if_neg h₃, hhigh]

/-! ## Decoding -/

-- A rewrite by this lemma stops at the literals of a form; simp by `Option.bind_some` makes the kernel count through them.
theorem bind_of_some {α β : Type} {x : Option α} {a : α} (h : x = some a) (f : α → Option β) : (x >>= f) = f a := by
  rw [h]
  rfl

theorem decode_one {a : UInt8} (h : a.toNat < 0x80) :
    decodeUtf8? (a :: bytes) = (decodeUtf8? bytes).map (Char.ofNat a.toNat :: ·) := by
  rw [decodeUtf8?.eq_def (a :: bytes)]
  simp only [if_pos h]
  cases decodeUtf8? bytes <;> rfl

theorem decode_two {a b : UInt8} {low : Nat} (hlead : 0xC0 ≤ a.toNat ∧ a.toNat < 0xE0) (hlow : tail? b = some low)
    (hchar : charFrom? 0x80 ((a.toNat - 0xC0) * 0x40 + low) = some c) :
    decodeUtf8? (a :: b :: bytes) = (decodeUtf8? bytes).map (c :: ·) := by
  have hone : ¬ a.toNat < 0x80 := by omega
  have htwo : (decide (0xC0 ≤ a.toNat) && decide (a.toNat < 0xE0)) = true := by simpa using hlead
  rw [decodeUtf8?.eq_def (a :: b :: bytes)]
  simp only [if_neg hone, if_pos htwo]
  rw [bind_of_some hlow, bind_of_some hchar]
  cases decodeUtf8? bytes <;> rfl

theorem decode_three {a b d : UInt8} {mid low : Nat} (hlead : 0xE0 ≤ a.toNat ∧ a.toNat < 0xF0)
    (hmid : tail? b = some mid) (hlow : tail? d = some low)
    (hchar : charFrom? 0x800 ((a.toNat - 0xE0) * 0x1000 + mid * 0x40 + low) = some c) :
    decodeUtf8? (a :: b :: d :: bytes) = (decodeUtf8? bytes).map (c :: ·) := by
  have hone : ¬ a.toNat < 0x80 := by omega
  have htwo : ¬ (decide (0xC0 ≤ a.toNat) && decide (a.toNat < 0xE0)) = true := by simp; omega
  have hthree : (decide (0xE0 ≤ a.toNat) && decide (a.toNat < 0xF0)) = true := by simpa using hlead
  rw [decodeUtf8?.eq_def (a :: b :: d :: bytes)]
  simp only [if_neg hone, if_neg htwo, if_pos hthree]
  rw [bind_of_some hmid, bind_of_some hlow, bind_of_some hchar]
  cases decodeUtf8? bytes <;> rfl

theorem decode_four {a b d e : UInt8} {high mid low : Nat} (hlead : 0xF0 ≤ a.toNat ∧ a.toNat < 0xF8)
    (hhigh : tail? b = some high) (hmid : tail? d = some mid) (hlow : tail? e = some low)
    (hchar : charFrom? 0x10000 ((a.toNat - 0xF0) * 0x40000 + high * 0x1000 + mid * 0x40 + low) = some c) :
    decodeUtf8? (a :: b :: d :: e :: bytes) = (decodeUtf8? bytes).map (c :: ·) := by
  have hone : ¬ a.toNat < 0x80 := by omega
  have htwo : ¬ (decide (0xC0 ≤ a.toNat) && decide (a.toNat < 0xE0)) = true := by simp; omega
  have hthree : ¬ (decide (0xE0 ≤ a.toNat) && decide (a.toNat < 0xF0)) = true := by simp; omega
  have hfour : (decide (0xF0 ≤ a.toNat) && decide (a.toNat < 0xF8)) = true := by simpa using hlead
  rw [decodeUtf8?.eq_def (a :: b :: d :: e :: bytes)]
  simp only [if_neg hone, if_neg htwo, if_neg hthree, if_pos hfour]
  rw [bind_of_some hhigh, bind_of_some hmid, bind_of_some hlow, bind_of_some hchar]
  cases decodeUtf8? bytes <;> rfl

/-- A character's encoding is read back, whatever follows it. -/
theorem decode_encode (c : Char) (bytes : List UInt8) :
    decodeUtf8? (String.utf8EncodeChar c ++ bytes) = (decodeUtf8? bytes).map (c :: ·) := by
  have hlt := toNat_char_lt c
  by_cases h₁ : c.toNat < 0x80
  · have hlead := toNat_byte (n := c.toNat) (by omega)
    rw [encode_one h₁, List.singleton_append, decode_one (by omega), hlead, Char.ofNat_toNat]
  by_cases h₂ : c.toNat < 0x800
  · have hlead := toNat_byte (n := c.toNat / 0x40 + 0xC0) (by omega)
    rw [encode_two (by omega) h₂]
    refine decode_two (by omega) (tail?_byte (by omega)) (charFrom?_eq_some_iff.2 ?_)
    omega
  by_cases h₃ : c.toNat < 0x10000
  · have hlead := toNat_byte (n := c.toNat / 0x1000 + 0xE0) (by omega)
    rw [encode_three (by omega) h₃]
    refine decode_three (by omega) (tail?_byte (by omega)) (tail?_byte (by omega)) (charFrom?_eq_some_iff.2 ?_)
    omega
  · have hlead := toNat_byte (n := c.toNat / 0x40000 + 0xF0) (by omega)
    rw [encode_four (by omega)]
    refine decode_four (by omega) (tail?_byte (by omega)) (tail?_byte (by omega)) (tail?_byte (by omega))
      (charFrom?_eq_some_iff.2 ?_)
    omega

theorem decode_utf8Of (text : List Char) : decodeUtf8? (utf8Of text) = some text := by
  induction text with
  | nil => rfl
  | cons c rest ih =>
      show decodeUtf8? (String.utf8EncodeChar c ++ utf8Of rest) = _
      rw [decode_encode, ih, Option.map_some]

/-- What decodes is an encoding: each form that is read is the one in which its character is written. -/
theorem utf8Of_decode {text : List Char} (h : decodeUtf8? bytes = some text) : bytes = utf8Of text := by
  fun_induction decodeUtf8? bytes generalizing text with
  | case1 => exact Option.some.inj h ▸ rfl
  | case2 a rest lead hone =>
      rename_i ih
      simp only [Option.bind_eq_bind, Option.bind_eq_some_iff, Option.pure_def, Option.some.injEq] at h
      obtain ⟨text, htext, rfl⟩ := h
      have hchar : (Char.ofNat a.toNat).toNat = a.toNat := toNat_char_ofNat (.inl (by omega))
      show _ = String.utf8EncodeChar (Char.ofNat a.toNat) ++ utf8Of text
      rw [encode_one (by omega), hchar, UInt8.ofNat_toNat, ← ih htext, List.singleton_append]
  | case3 a lead hone htwo b rest =>
      rename_i ih
      simp only [Option.bind_eq_bind, Option.bind_eq_some_iff, Option.pure_def, Option.some.injEq,
        tail?_eq_some_iff, charFrom?_eq_some_iff, Bool.and_eq_true, decide_eq_true_eq] at h htwo
      obtain ⟨low, hlow, c, hc, text, htext, rfl⟩ := h
      have ha : a = UInt8.ofNat (c.toNat / 0x40 + 0xC0) := byte_eq (by omega)
      have hb : b = UInt8.ofNat (c.toNat % 0x40 + 0x80) := byte_eq (by omega)
      show _ = String.utf8EncodeChar c ++ utf8Of text
      rw [encode_two (by omega) (by omega), ← ih htext, ha, hb]
      rfl
  | case5 a lead hone htwo hthree b d rest =>
      rename_i ih
      simp only [Option.bind_eq_bind, Option.bind_eq_some_iff, Option.pure_def, Option.some.injEq,
        tail?_eq_some_iff, charFrom?_eq_some_iff, Bool.and_eq_true, decide_eq_true_eq] at h hthree
      obtain ⟨mid, hmid, low, hlow, c, hc, text, htext, rfl⟩ := h
      have ha : a = UInt8.ofNat (c.toNat / 0x1000 + 0xE0) := byte_eq (by omega)
      have hb : b = UInt8.ofNat (c.toNat / 0x40 % 0x40 + 0x80) := byte_eq (by omega)
      have hd : d = UInt8.ofNat (c.toNat % 0x40 + 0x80) := byte_eq (by omega)
      show _ = String.utf8EncodeChar c ++ utf8Of text
      rw [encode_three (by omega) (by omega), ← ih htext, ha, hb, hd]
      rfl
  | case7 a lead hone htwo hthree hfour b d e rest =>
      rename_i ih
      simp only [Option.bind_eq_bind, Option.bind_eq_some_iff, Option.pure_def, Option.some.injEq,
        tail?_eq_some_iff, charFrom?_eq_some_iff, Bool.and_eq_true, decide_eq_true_eq] at h hfour
      obtain ⟨high, hhigh, mid, hmid, low, hlow, c, hc, text, htext, rfl⟩ := h
      have ha : a = UInt8.ofNat (c.toNat / 0x40000 + 0xF0) := byte_eq (by omega)
      have hb : b = UInt8.ofNat (c.toNat / 0x1000 % 0x40 + 0x80) := byte_eq (by omega)
      have hd : d = UInt8.ofNat (c.toNat / 0x40 % 0x40 + 0x80) := byte_eq (by omega)
      have he : e = UInt8.ofNat (c.toNat % 0x40 + 0x80) := byte_eq (by omega)
      show _ = String.utf8EncodeChar c ++ utf8Of text
      rw [encode_four (by omega), ← ih htext, ha, hb, hd, he]
      rfl
  | case4 | case6 | case8 | case9 => cases h

theorem decodeUtf8?_eq_some_iff {text : List Char} : decodeUtf8? bytes = some text ↔ bytes = utf8Of text := by
  refine ⟨utf8Of_decode, ?_⟩
  rintro rfl
  exact decode_utf8Of text

/-- Bytes are refused just when they are the encoding of no text. -/
theorem decodeUtf8?_eq_none_iff : decodeUtf8? bytes = none ↔ ∀ text, bytes ≠ utf8Of text := by
  simp only [Option.eq_none_iff_forall_ne_some, ne_eq, decodeUtf8?_eq_some_iff]

end Crafting.Text
