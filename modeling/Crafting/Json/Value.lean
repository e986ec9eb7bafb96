import Crafting.Assoc
import Crafting.Failure
import Crafting.Text.Quoted
import Crafting.Text.Shortest

/-!
# JSON values

The values of data files. A record's name, note and parameters are kept as they were given, so a value knows how it is
shown, when it counts as nothing, and which whole number it stands for. A text may hold halves of characters, which can
be kept but not printed.
-/

namespace Crafting

/-! ## Halves of characters -/

/-- Whether a code point is half of a character. -/
def isHalf (point : Nat) : Bool :=
  0xD800 ≤ point && point < 0xE000

/-- The character of a code point; a half is replaced. -/
def charOf (point : Nat) : Char :=
  if isHalf point then '\uFFFD' else Char.ofNat point

/-- The text of code points; halves are replaced. -/
def textOfPoints (points : List Nat) : String :=
  String.ofList (points.map charOf)

/-! ## Values -/

/-- A value. Numbers without fraction and exponent are whole; an object keeps the order of its keys. -/
inductive Json where
  | null
  | bool (value : Bool)
  | whole (value : Int)
  | float (value : Float)
  | string (value : String)
  /-- A text with a half in it, as its code points. -/
  | torn (points : List Nat)
  | array (items : List Json)
  | object (fields : List (String × Json))
  deriving Inhabited

namespace Json

/-- The value of a text. -/
def ofPoints (points : List Nat) : Json :=
  if points.any isHalf then .torn points else .string (textOfPoints points)

/-- Whether a value counts as something: not null, false, zero or empty. -/
def isTruthy : Json → Bool
  | .null => false
  | .bool value => value
  | .whole value => value != 0
  | .float value => !(value == 0)
  | .string value => !value.isEmpty
  | .torn points => !points.isEmpty
  | .array items => !items.isEmpty
  | .object fields => !fields.isEmpty

/-- The text that a value is, if it is one; halves are replaced. -/
def text? : Json → Option String
  | .string value => some value
  | .torn points => some (textOfPoints points)
  | _ => none

def isTorn : Json → Bool
  | .torn _ => true
  | _ => false

/-- The parts of a text between its halves, if the value is one. -/
def parts? : Json → Option (List String)
  | .string value => some [value]
  | .torn points => some ((Text.pieces isHalf points).map textOfPoints)
  | _ => none

/-- The value of a key. -/
def get? : Json → String → Option Json
  | .object fields, key => Assoc.get? key fields
  | _, _ => none

/-- The value of a key that has to be there. -/
def require (record : Json) (key : String) : Except Failure Json :=
  match record with
  | .object fields => (Assoc.get? key fields).elim (.error .missingKey) .ok
  | _ => .error .wrongType

/-- What a value lists: an array its items, a text its characters, an object its keys. -/
def elements : Json → Except Failure (List Json)
  | .array items => .ok items
  | .string text => .ok (text.toList.map fun c => .string c.toString)
  | .torn points => .ok (points.map fun point => ofPoints [point])
  | .object fields => .ok (fields.map fun field => .string field.1)
  | .null | .bool _ | .whole _ | .float _ => .error .wrongType

/-! ## Whole numbers -/

/-- The whole number that a value stands for: a fraction is cut off and a text is read as a numeral. -/
def toInt : Json → Except Failure Int
  | .whole value => .ok value
  | .bool value => .ok (if value then 1 else 0)
  | .float value =>
      if value.isNaN then .error .unreadable
      else if value.isInf then .error .infinite
      else .ok (Binary.truncate value)
  | .string value => (Text.Numeral.read value.toList).mapError .ofNumeral
  | .torn points => (Text.Numeral.read (points.map charOf)).mapError .ofNumeral
  | .null | .array _ | .object _ => .error .wrongType

/-! ## Showing values -/

/-- Torn text between quotes: a half is escaped, as characters without a visible form are. -/
def quotedPoints (points : List Nat) : String :=
  let quote := Text.Quoted.quoteFor (points.map charOf)
  String.ofList (quote :: (points.flatMap (fun point =>
    if isHalf point then '\\' :: 'u' :: Text.Quoted.hex 4 point else Text.Quoted.escape quote (charOf point)) ++ [quote]))

mutual

/-- A value as it is shown inside another. -/
def literal : Json → Except Failure String
  | .null => .ok "None"
  | .bool value => .ok (if value then "True" else "False")
  | .whole value => writeInt value
  | .float value => .ok (Text.Shortest.text value)
  | .string value => .ok value.quoted
  | .torn points => .ok (quotedPoints points)
  | .array items => do return "[" ++ ", ".intercalate (← literals items) ++ "]"
  | .object fields => do return "\x7b" ++ ", ".intercalate (← fieldLiterals fields) ++ "\x7d"

def literals : List Json → Except Failure (List String)
  | [] => .ok []
  | item :: rest => do
      let shown ← literal item
      return shown :: (← literals rest)

def fieldLiterals : List (String × Json) → Except Failure (List String)
  | [] => .ok []
  | (key, value) :: rest => do
      let shown ← literal value
      return (key.quoted ++ ": " ++ shown) :: (← fieldLiterals rest)

end

/-- A value as it is shown on its own: a text stands without quotes. -/
def display : Json → Except Failure String
  | .string value => .ok value
  | .torn points => .ok (textOfPoints points)
  | other => other.literal

end Json

end Crafting
