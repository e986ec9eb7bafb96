import Crafting.Json.Value
import Crafting.Text.Quoted

/-!
# Writing JSON

The text of a value without spaces. Characters outside of ASCII and controls are escaped by their code units, so that the
text is one line of ASCII.
-/

namespace Crafting.Json

/-- A code unit as an escape. -/
def unitEscape (unit : Nat) : List Char :=
  '\\' :: 'u' :: Text.Quoted.hex 4 unit

/-- A character inside a string. -/
def charText (c : Char) : List Char :=
  if c = '"' || c = '\\' then ['\\', c]
  else if 0x20 ≤ c.toNat && c.toNat < 0x7F then [c]
  else if c.toNat < 0x10000 then unitEscape c.toNat
  else
    let n := c.toNat - 0x10000
    unitEscape (0xD800 + n / 0x400) ++ unitEscape (0xDC00 + n % 0x400)

def stringText (text : String) : String :=
  "\"" ++ String.ofList (text.toList.flatMap charText) ++ "\""

def tornText (points : List Nat) : String :=
  let units := points.flatMap fun point => if isHalf point then unitEscape point else charText (charOf point)
  "\"" ++ String.ofList units ++ "\""

/-- A float, with the words for those that are no numbers. -/
def floatText (x : Float) : String :=
  if x.isNaN then "NaN"
  else if x.isInf then (if x < 0 then "-Infinity" else "Infinity")
  else Text.Shortest.text x

mutual

/-- The text of a value. -/
def write : Json → String
  | .null => "null"
  | .bool value => if value then "true" else "false"
  | .whole value => toString value
  | .float value => floatText value
  | .string value => stringText value
  | .torn points => tornText points
  | .array items => "[" ++ ",".intercalate (writeItems items) ++ "]"
  | .object fields => "\x7b" ++ ",".intercalate (writeFields fields) ++ "\x7d"

def writeItems : List Json → List String
  | [] => []
  | item :: rest => write item :: writeItems rest

def writeFields : List (String × Json) → List String
  | [] => []
  | (key, value) :: rest => (stringText key ++ ":" ++ write value) :: writeFields rest

end

end Crafting.Json
