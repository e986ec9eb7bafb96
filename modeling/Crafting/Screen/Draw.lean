import Crafting.Json.Value

/-!
# Drawing

Rectangles, colours and fonts, and what is drawn with them, as a list of calls. A screen keeps its coordinates in words:
one that is too long for a word is cut, and one of more than two words is refused.
-/

namespace Crafting.Screen

/-! ## Rectangles -/

/-- How coordinates are kept: as they are, or in words of 32 bits. -/
inductive Grid where
  | exact
  | words
  deriving DecidableEq

namespace Grid

/-- Whether a coordinate can be kept at all. -/
def takes : Grid → Int → Bool
  | .exact, _ => true
  | .words, n => -0x8000000000000000 ≤ n && n < 0x8000000000000000

/-- What is kept of a coordinate. -/
def keep : Grid → Int → Int
  | .exact, n => n
  | .words, n => n.bmod 0x100000000

def coordinate (grid : Grid) (n : Int) : Except Failure Int :=
  if grid.takes n then .ok (grid.keep n) else .error .wrongType

@[simp] theorem coordinate_exact (n : Int) : exact.coordinate n = .ok n := rfl

/-- A coordinate that fits into a word is kept as it is. -/
theorem keep_of_fits {n : Int} (low : -0x80000000 ≤ n) (high : n < 0x80000000) (grid : Grid) : grid.keep n = n := by
  cases grid with
  | exact => rfl
  | words => exact Int.bmod_eq_of_le (by omega) (by omega)

end Grid

structure Rect where
  x : Int
  y : Int
  width : Int
  height : Int
  grid : Grid := .words
  deriving DecidableEq

namespace Rect

/-- A rectangle with what the grid keeps of these coordinates. -/
def keep (grid : Grid) (x y width height : Int) : Rect :=
  ⟨grid.keep x, grid.keep y, grid.keep width, grid.keep height, grid⟩

/-- A rectangle with these coordinates. -/
def make (grid : Grid) (x y width height : Int) : Except Failure Rect := do
  return ⟨← grid.coordinate x, ← grid.coordinate y, ← grid.coordinate width, ← grid.coordinate height, grid⟩

def right (rect : Rect) : Int :=
  rect.grid.keep (rect.x + rect.width)

def bottom (rect : Rect) : Int :=
  rect.grid.keep (rect.y + rect.height)

def centerX (rect : Rect) : Int :=
  rect.grid.keep (rect.x + rect.width / 2)

def centerY (rect : Rect) : Int :=
  rect.grid.keep (rect.y + rect.height / 2)

/-- Whether a point lies inside. The right and the lower edge do not. -/
def contains (rect : Rect) (px py : Int) : Bool :=
  rect.x ≤ px && px < rect.right && rect.y ≤ py && py < rect.bottom

end Rect

/-! ## Colours and fonts -/

/-- Red, green and blue. -/
structure Color where
  channels : List Int
  deriving DecidableEq

namespace Color

def white : Color := ⟨[255, 255, 255]⟩
def black : Color := ⟨[0, 0, 0]⟩
def failure : Color := ⟨[255, 0, 0]⟩
def success : Color := ⟨[0, 255, 0]⟩
def gold : Color := ⟨[255, 215, 0]⟩
def panel : Color := ⟨[20, 20, 25]⟩
def border : Color := ⟨[100, 100, 100]⟩
def cursor : Color := ⟨[60, 60, 80]⟩
def disabled : Color := ⟨[140, 140, 140]⟩
def notice : Color := ⟨[10, 10, 10]⟩

end Color

/-- A font in which all characters are equally wide. -/
structure Font where
  name : String
  charWidth : Int
  height : Int
  lineHeight : Int

def Font.width (font : Font) (text : String) : Int :=
  font.charWidth * text.length

/-! ## Calls -/

inductive DrawCall where
  | fill (color : Color)
  /-- A rectangle, filled if its line has no width. -/
  | rect (color : Color) (rect : Rect) (line : Int)
  /-- A text, or the value that stands in its place. -/
  | text (text : Json) (font : Font) (color : Color) (x y : Int)

/-- A line of text. -/
def DrawCall.line (text : String) : Font → Color → Int → Int → DrawCall :=
  .text (.string text)

/-- A text in the middle of a rectangle. -/
def centered (text : String) (font : Font) (color : Color) (rect : Rect) : DrawCall :=
  .line text font color (rect.centerX - font.width text / 2) (rect.centerY - font.height / 2)

end Crafting.Screen
