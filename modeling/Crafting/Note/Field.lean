import Crafting.Note.Fault
import Crafting.Text.Blank
import Crafting.Text.Digit

/-!
# Fields of a block

A field is a line `Key: value`. The key is ASCII letters and then decimal digits; blanks may stand before the colon and
around the value. Blank lines are passed over.
-/

namespace Crafting.Note

open Text

structure Field where
  /-- The key in lower case. -/
  key : List Char
  value : List Char
  /-- The number of the line in the block, from one. -/
  line : Nat
  deriving DecidableEq

def isAsciiLetter (c : Char) : Bool :=
  ('a' ≤ c && c ≤ 'z') || ('A' ≤ c && c ≤ 'Z')

/-- The key and the value of a line without blanks around it. -/
def splitField? (line : List Char) : Option (List Char × List Char) :=
  let (letters, rest) := line.span isAsciiLetter
  let (digits, rest) := rest.span isDecimal
  match letters, rest.dropWhile isBlank with
  | [], _ => none
  | _, ':' :: value => some ((letters ++ digits).map Char.toLower, trim value)
  | _, _ => none

/-- The fields of numbered lines, up to the first line that is neither blank nor a field. -/
def fieldsOf : List (Nat × List Char) → Except Fault (List Field)
  | [] => .ok []
  | (number, line) :: rest =>
      match trim line with
      | [] => fieldsOf rest
      | text =>
          match splitField? text with
          | none => .error ⟨.notAField (String.ofList text), some number⟩
          | some (key, value) => (fieldsOf rest).map (⟨key, value, number⟩ :: ·)

/-- The fields of a block. -/
def fields (body : List Char) : Except Fault (List Field) :=
  fieldsOf (numberedLines body)

end Crafting.Note
