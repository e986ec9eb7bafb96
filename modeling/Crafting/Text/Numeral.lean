import Crafting.Text.Blank
import Crafting.Text.Digit

/-!
# Numerals

Reading and writing whole numbers. What is read is an optional sign and decimal digits of any script, with single
underscores between digits and blanks around; what is written is ASCII digits. A numeral of more than 4300 digits is
refused either way, leading zeros counted.
-/

namespace Crafting.Text.Numeral

/-- The most digits that a numeral may have. -/
def maxDigits : Nat := 4300

/-- Why a text is no numeral, or a number has none. -/
inductive Fault where
  | malformed
  | tooLong (digits : Nat)
  | unwritable
  deriving DecidableEq

/-- The wording of a refusal for the limit on digits, with what is said of the numeral. -/
def limitMessage (found : String) : String :=
  "Exceeds the limit (" ++ toString maxDigits ++ " digits) for integer string conversion" ++ found ++
    "; use sys.set_int_max_str_digits() to increase the limit"

/-- The wording of the refusal to read a numeral with that many digits. -/
def tooLongMessage (digits : Nat) : String :=
  limitMessage (": value has " ++ toString digits ++ " digits")

/-- The wording of the refusal to write a number. -/
def unwritableMessage : String :=
  limitMessage ""

/-- The value of a row of digits, after the digits before it. -/
def valueFrom (high : Nat) : List Char → Nat
  | [] => high
  | c :: rest => valueFrom (10 * high + (decimalValue? c).getD 0) rest

/-- The value of a row of decimal digits. -/
def value (digits : List Char) : Nat :=
  valueFrom 0 digits

/-- Reads a row of decimal digits; `none` says that there are too many. -/
def ofDigits (digits : List Char) : Except Fault Nat :=
  if digits.length ≤ maxDigits then .ok (value digits) else .error (.tooLong digits.length)

/-- The numeral of a number, unless it would have too many digits. -/
def write (n : Nat) : Except Fault String :=
  let text := toString n
  if text.length ≤ maxDigits then .ok text else .error .unwritable

/-- The numeral of a whole number, with a sign if it is negative. -/
def writeSigned (n : Int) : Except Fault String := do
  let digits ← write n.natAbs
  return if n < 0 then "-" ++ digits else digits

/-- The digits of a row in which single underscores may stand between digits. -/
def joinGroups? (row : List Char) : Option (List Char) :=
  let groups := pieces (· == '_') row
  if groups.any List.isEmpty then none else some groups.flatten

/-- The blanks around a numeral. The four separators among the ASCII controls do not count. -/
def isMargin (c : Char) : Bool :=
  isBlank c && !(0x1C ≤ c.toNat && c.toNat ≤ 0x1F)

/-- The sign of a numeral and what follows it. -/
def takeSign : List Char → Int × List Char
  | '-' :: rest => (-1, rest)
  | '+' :: rest => (1, rest)
  | rest => (1, rest)

/-- Reads a whole number. -/
def read (text : List Char) : Except Fault Int :=
  let (sign, rest) := takeSign (text.dropWhile isMargin)
  let (row, left) := rest.span fun c => isDecimal c || c == '_'
  match joinGroups? row with
  | none => .error .malformed
  | some digits =>
      match ofDigits digits with
      | .error fault => .error fault
      | .ok n => if left.all isMargin then .ok (sign * n) else .error .malformed

example : read [' ', '-', '1', '_', '2', ' '] = .ok (-12) := rfl

example : read ['1', '_', '_', '2'] = .error .malformed := rfl

end Crafting.Text.Numeral
