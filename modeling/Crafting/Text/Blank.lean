/-!
# Blanks and line ends

Which characters separate words and which end a line, with the trimming and splitting built on them. A carriage return
directly before a line feed ends one line, not two, and a text that ends with a line end has no empty line after it.
-/

namespace Crafting.Text

/-- The blanks: the ASCII controls that separate, the spaces and the two Unicode separators. -/
def isBlank (c : Char) : Bool :=
  let n := c.toNat
  (0x09 ≤ n && n ≤ 0x0D) || (0x1C ≤ n && n ≤ 0x20) || n == 0x85 || n == 0xA0 || n == 0x1680 ||
    (0x2000 ≤ n && n ≤ 0x200A) || n == 0x2028 || n == 0x2029 || n == 0x202F || n == 0x205F || n == 0x3000

/-- The characters that end a line. -/
def isLineEnd (c : Char) : Bool :=
  let n := c.toNat
  (0x0A ≤ n && n ≤ 0x0D) || (0x1C ≤ n && n ≤ 0x1E) || n == 0x85 || n == 0x2028 || n == 0x2029

/-- A line end is a blank, so trimming a line removes what is left of its end. -/
theorem isBlank_of_isLineEnd {c : Char} (h : isLineEnd c = true) : isBlank c = true := by
  simp [isLineEnd, isBlank] at h ⊢
  omega

/-! ## Trimming -/

/-- The text without the blanks at its end. -/
def trimEnd : List Char → List Char
  | [] => []
  | c :: rest =>
      match trimEnd rest with
      | [] => if isBlank c then [] else [c]
      | kept => c :: kept

/-- The text without the blanks at both ends. -/
def trim (text : List Char) : List Char :=
  trimEnd (text.dropWhile isBlank)

/-! ## Splitting -/

/-- The pieces between the elements that `cut` accepts, empty ones included. -/
def pieces {α : Type} (cut : α → Bool) : List α → List (List α)
  | [] => [[]]
  | c :: rest =>
      if cut c then [] :: pieces cut rest
      else
        match pieces cut rest with
        | [] => [[c]]
        | piece :: others => (c :: piece) :: others

/-- The words of a text: what stands between blanks. -/
def words (text : List Char) : List (List Char) :=
  (pieces isBlank text).filter fun word => !word.isEmpty

/-- The lines of a text, without their ends. -/
def lines : List Char → List (List Char)
  | [] => []
  | '\r' :: '\n' :: rest => [] :: lines rest
  | c :: rest =>
      if isLineEnd c then [] :: lines rest
      else
        match lines rest with
        | [] => [[c]]
        | line :: others => (c :: line) :: others

/-- The lines of a text, numbered from one. -/
def numberedLines (text : List Char) : List (Nat × List Char) :=
  (lines text).zipIdx 1 |>.map fun (line, number) => (number, line)

end Crafting.Text

/-- The text without the blanks at both ends. -/
def String.trimBlanks (text : String) : String :=
  String.ofList (Crafting.Text.trim text.toList)

/-- The words of a text. -/
def String.blankWords (text : String) : List String :=
  (Crafting.Text.words text.toList).map String.ofList
