import Crafting.Binary

/-!
# The shortest decimal of a float

The fewest digits that read back as the same number, and among those the nearest to it. Positional from `1e-4` up to
below `1e16`, else with an exponent of at least two digits; a whole number keeps `.0`.
-/

namespace Crafting.Text.Shortest

/-- The size as a fraction of two naturals, both times four, so that its neighbours' midpoints are whole too. -/
def quarters (b : Binary) : Nat × Nat :=
  (4 * b.mantissa * Nat.pow 2 b.power, Binary.unitsInOne)

/-- Whether `digits * 10 ^ scale / 10 ^ 400` rounds to the number. -/
def readsBack (b : Binary) (digits scale : Nat) : Bool :=
  let (middle, unit) := quarters b
  let step := 2 * Nat.pow 2 b.power
  let below := if b.mantissa = Nat.pow 2 52 && b.power != 1 then step / 2 else step
  let point := 4 * digits * Nat.pow 10 scale * unit
  let low := (middle - below) * Nat.pow 10 400
  let high := (middle + step) * Nat.pow 10 400
  if b.mantissa % 2 = 0 then low ≤ point && point ≤ high else low < point && point < high

/-- The digits and the power of ten of the shortest decimal. -/
def digits (b : Binary) : Nat × Int :=
  let (middle, unit) := quarters b
  let lead := ((List.range 800).find? fun i => middle * Nat.pow 10 400 < 4 * Nat.pow 10 i * unit).getD 0
  let found := (List.range 17).findSome? fun count =>
    let scale := lead - (count + 1)
    let grid := 4 * Nat.pow 10 scale * unit
    let under := middle * Nat.pow 10 400 / grid
    let excess := middle * Nat.pow 10 400 % grid
    let upperIsNearer := grid < 2 * excess || (grid = 2 * excess && under % 2 = 1)
    match readsBack b under scale, readsBack b (under + 1) scale with
    | true, true => some (if upperIsNearer then under + 1 else under, scale)
    | true, false => some (under, scale)
    | false, true => some (under + 1, scale)
    | false, false => none
  let (digits, scale) := found.getD (0, 400)
  (digits, (scale : Int) - 400)

/-- Digits without the zeros at their end. -/
def stripZeros (digits : List Char) : List Char :=
  (digits.reverse.dropWhile (· == '0')).reverse

/-- The text of a positive decimal `digits * 10 ^ power`. -/
def layout (digits : Nat) (power : Int) : String :=
  let row := (toString digits).toList
  let point : Int := row.length + power
  let row := stripZeros row
  if point > 16 || point < -3 then
    let exponent := point - 1
    let size := toString exponent.natAbs
    let size := if size.length < 2 then "0" ++ size else size
    String.ofList (row.take 1) ++ (if row.length > 1 then "." ++ String.ofList (row.drop 1) else "") ++ "e" ++
      (if exponent < 0 then "-" else "+") ++ size
  else if point ≤ 0 then
    "0." ++ String.ofList (List.replicate point.natAbs '0' ++ row)
  else
    let whole := row.take point.toNat
    let whole := whole ++ List.replicate (point.toNat - whole.length) '0'
    let rest := row.drop point.toNat
    String.ofList whole ++ "." ++ (if rest.isEmpty then "0" else String.ofList rest)

/-- The text of a float. -/
def text (x : Float) : String :=
  let bits := x.toBits.toNat
  let sign := if bits < Nat.pow 2 63 then "" else "-"
  let size := bits % Nat.pow 2 63
  if size > Binary.infinity then "nan"
  else if size = Binary.infinity then sign ++ "inf"
  else if size = 0 then sign ++ "0.0"
  else
    let (row, power) := digits (.ofBits size)
    sign ++ layout row power

end Crafting.Text.Shortest
