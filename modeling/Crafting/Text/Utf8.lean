/-!
# UTF-8

Decoding bytes, one character at a time. A byte that no character begins with, a missing tail, a form longer than needed
and a code point outside of Unicode are all refused.
-/

namespace Crafting.Text

/-- The value of a byte that continues a character. -/
def tail? (b : UInt8) : Option Nat :=
  if 0x80 ≤ b.toNat && b.toNat < 0xC0 then some (b.toNat - 0x80) else none

/-- The character of that code point, if it needs the form in which it was written. -/
def charFrom? (least n : Nat) : Option Char :=
  if least ≤ n && n.isValidChar then some (Char.ofNat n) else none

/-- The text that bytes encode. -/
def decodeUtf8? : List UInt8 → Option (List Char)
  | [] => some []
  | a :: rest =>
      let lead := a.toNat
      if lead < 0x80 then do
        return Char.ofNat lead :: (← decodeUtf8? rest)
      else if 0xC0 ≤ lead && lead < 0xE0 then
        match rest with
        | b :: rest => do
            let c ← charFrom? 0x80 ((lead - 0xC0) * 0x40 + (← tail? b))
            return c :: (← decodeUtf8? rest)
        | _ => none
      else if 0xE0 ≤ lead && lead < 0xF0 then
        match rest with
        | b :: c :: rest => do
            let c ← charFrom? 0x800 ((lead - 0xE0) * 0x1000 + (← tail? b) * 0x40 + (← tail? c))
            return c :: (← decodeUtf8? rest)
        | _ => none
      else if 0xF0 ≤ lead && lead < 0xF8 then
        match rest with
        | b :: c :: d :: rest => do
            let c ← charFrom? 0x10000
              ((lead - 0xF0) * 0x40000 + (← tail? b) * 0x1000 + (← tail? c) * 0x40 + (← tail? d))
            return c :: (← decodeUtf8? rest)
        | _ => none
      else none

end Crafting.Text
