/-!
# Binary numbers

A float is a natural number times a power of two. Told by that form are the whole part of a float, how it compares with a
whole number, and which float is the nearest to a fraction, a tie going to the even one.
-/

namespace Crafting

/-- A size `mantissa * 2 ^ (power - 1075)`, the form in which a float holds it. -/
structure Binary where
  mantissa : Nat
  power : Nat

namespace Binary

/-! ## From floats -/

/-- The size of a finite float with these bits, the sign left out. -/
def ofBits (bits : Nat) : Binary :=
  let fraction := bits % Nat.pow 2 52
  let exponent := bits / Nat.pow 2 52 % Nat.pow 2 11
  if exponent = 0 then ⟨fraction, 1⟩ else ⟨Nat.pow 2 52 + fraction, exponent⟩

/-- How many units a float has in one. -/
def unitsInOne : Nat := Nat.pow 2 1075

/-- A finite float in whole units. -/
def units (x : Float) : Int :=
  let bits := x.toBits.toNat
  let b := ofBits (bits % Nat.pow 2 63)
  let size : Nat := b.mantissa * Nat.pow 2 b.power
  if bits < Nat.pow 2 63 then size else -size

/-- The whole part of a finite float. -/
def truncate (x : Float) : Int :=
  (units x).tdiv unitsInOne

/-- Whether a float is at least a whole number. -/
def isAtLeast (x : Float) (n : Int) : Bool :=
  if x.isNaN then false
  else if x.isInf then 0 < x
  else n * unitsInOne ≤ units x

/-- Whether a float is at most a whole number. -/
def isAtMost (x : Float) (n : Int) : Bool :=
  if x.isNaN then false
  else if x.isInf then x < 0
  else units x ≤ n * unitsInOne

/-! ## The nearest float -/

/-- A quotient rounded to the nearest whole number, a tie to the even one. -/
def roundEven (n d : Nat) : Nat :=
  let quotient := n / d
  let rest := n % d
  if d < 2 * rest || (d = 2 * rest && quotient % 2 = 1) then quotient + 1 else quotient

/-- The bits of infinity. -/
def infinity : Nat := 0x7FF * Nat.pow 2 52

/-- The bits of the nearest float to `n / d`. A mantissa that is rounded up to `2 ^ 53` carries into the power. -/
def nearestBits (n d : Nat) : Nat :=
  let power := max 1 ((n * unitsInOne / d).log2 - 52)
  let mantissa := roundEven (n * unitsInOne) (d * Nat.pow 2 power)
  min infinity (mantissa + (power - 1) * Nat.pow 2 52)

/-- The nearest float to `n / d`. -/
def nearest (n d : Nat) : Float :=
  Float.ofBits (UInt64.ofNat (nearestBits n d))

/-- The nearest float to a whole number, unless that would be infinite. -/
def ofInt? (n : Int) : Option Float :=
  if nearestBits n.natAbs 1 = infinity then none
  else
    let size := nearest n.natAbs 1
    some (if n < 0 then -size else size)

/-- Rounding is off by no more than half a unit. -/
theorem two_mul_roundEven_le (n d : Nat) : 2 * (roundEven n d * d) ≤ 2 * n + d := by
  have h := Nat.div_add_mod' n d
  simp only [roundEven]
  split
  · next hr =>
      simp only [Bool.or_eq_true, Bool.and_eq_true, decide_eq_true_eq] at hr
      rw [Nat.add_mul]
      omega
  · omega

/-- Rounding is off by no more than half a unit. -/
theorem le_two_mul_roundEven (n d : Nat) (h : 0 < d) : 2 * n ≤ 2 * (roundEven n d * d) + d := by
  have hn := Nat.div_add_mod' n d
  have hr := Nat.mod_lt n h
  simp only [roundEven]
  split
  · rw [Nat.add_mul]
    omega
  · next hx =>
      simp only [Bool.or_eq_true, Bool.and_eq_true, decide_eq_true_eq, not_or, Nat.not_lt] at hx
      omega

end Binary

end Crafting
