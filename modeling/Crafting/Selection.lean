import Crafting.Act

/-!
# Selections

A cursor in a list of several columns, of which some rows are on screen. Entry `i` stands in row `i / columns`. Every
move of the cursor scrolls just enough to keep its row on screen.
-/

namespace Crafting

structure Selection where
  columns : Int
  viewportHeight : Int
  rowHeight : Int
  itemCount : Int := 0
  /-- The chosen entry, none in an empty list. -/
  cursor : Option Int := none
  /-- The first row on screen. -/
  top : Int := 0
  deriving DecidableEq

namespace Selection

variable (s : Selection)

/-! ## Geometry -/

def isEmpty : Bool :=
  s.itemCount == 0

def rowOf (index : Int) : Int :=
  index / s.columns

/-- The number of rows, the last of which may be partly filled. -/
def rowCount : Int :=
  -(-s.itemCount / s.columns)

/-- The number of rows on screen, one at least. -/
def visibleRows : Int :=
  max 1 (s.viewportHeight / s.rowHeight)

/-- The lowest that the list can be scrolled. -/
def maxTop : Int :=
  max 0 (s.rowCount - s.visibleRows)

/-- The first row below the screen. -/
def bottom : Int :=
  s.top + s.visibleRows

/-- The first entry on screen. -/
def firstIndex : Int :=
  s.top * s.columns

/-- The entry after the last one on screen. -/
def endIndex : Int :=
  min s.itemCount (s.firstIndex + s.visibleRows * s.columns)

def isVisible (index : Int) : Bool :=
  s.firstIndex ≤ index && index < s.endIndex

/-! ## Scrolling -/

/-- Scrolls to a row as far as the list allows. -/
def setTop (row : Int) : Selection :=
  { s with top := min (max row 0) s.maxTop }

/-- Scrolls so that the row before `row` is the last on screen. -/
def setBottom (row : Int) : Selection :=
  s.setTop (row - s.visibleRows)

/-- Scrolls just enough to bring the cursor on screen. -/
def showCursor : Selection :=
  match s.cursor with
  | none => s
  | some cursor =>
      let row := s.rowOf cursor
      if row < s.top then s.setTop row
      else if s.bottom - 1 < row then s.setBottom (row + 1)
      else s

/-! ## Moving -/

/-- What came of a move: the selection, and the entry it reports as chosen. -/
abbrev Moved := Selection × Option Int

/-- Moves the cursor to an entry, or to the nearest there is, and reports it. -/
def select (index : Int) : Moved :=
  if s.isEmpty then (s, none)
  else
    let cursor := min (max index 0) (s.itemCount - 1)
    (({ s with cursor := some cursor } : Selection).showCursor, some cursor)

def moveDown (wrap : Bool) : Moved :=
  match s.cursor with
  | none => (s, none)
  | some cursor =>
      if cursor < s.itemCount - s.columns || wrap then s.select ((cursor + s.columns) % s.itemCount) else (s, none)

def moveUp (wrap : Bool) : Moved :=
  match s.cursor with
  | none => (s, none)
  | some cursor =>
      if s.columns ≤ cursor || wrap then s.select ((cursor - s.columns + s.itemCount) % s.itemCount) else (s, none)

def moveRight (wrap : Bool) : Moved :=
  match s.cursor with
  | none => (s, none)
  | some cursor =>
      if s.columns < 2 then (s, none)
      else if cursor < s.itemCount - 1 || wrap then s.select ((cursor + 1) % s.itemCount)
      else (s, none)

def moveLeft (wrap : Bool) : Moved :=
  match s.cursor with
  | none => (s, none)
  | some cursor =>
      if s.columns < 2 then (s, none)
      else if 0 < cursor || wrap then s.select ((cursor - 1 + s.itemCount) % s.itemCount)
      else (s, none)

/-- Scrolls a page down and takes the cursor along. -/
def pageDown : Moved :=
  match s.cursor with
  | none => (s, none)
  | some cursor =>
      if s.top + s.visibleRows < s.rowCount then
        (s.setTop (s.top + s.visibleRows)).select (min (cursor + s.visibleRows * s.columns) (s.itemCount - 1))
      else (s, none)

/-- Scrolls a page up and takes the cursor along. -/
def pageUp : Moved :=
  match s.cursor with
  | none => (s, none)
  | some cursor =>
      if 0 < s.top then
        (s.setTop (s.top - s.visibleRows)).select (max (cursor - s.visibleRows * s.columns) 0)
      else (s, none)

/-! ## Changes of the list and the screen -/

/-- Adopts another length. The cursor keeps its entry as far as the list allows. -/
def reset (count : Int) : Except Failure Selection :=
  if count < 0 then .error .negativeItemCount
  else if count = 0 then .ok { s with itemCount := 0, cursor := none, top := 0 }
  else
    let cursor := match s.cursor with
      | none => 0
      | some cursor => min cursor (count - 1)
    let s : Selection := { s with itemCount := count, cursor := some cursor }
    .ok (s.setTop s.top).showCursor

/-- Adopts another height of the screen and, if given, of the rows. The first is kept even if the second is refused. -/
def setViewport (height : Int) (rowHeight : Option Int) : Selection × Option Failure :=
  let s := { s with viewportHeight := height }
  match rowHeight with
  | none => ((s.setTop s.top).showCursor, none)
  | some rowHeight =>
      if rowHeight < 1 then (s, some .rowHeight)
      else
        let s := { s with rowHeight }
        ((s.setTop s.top).showCursor, none)

/-- A list of some entries with nothing scrolled. -/
def make (columns viewportHeight rowHeight itemCount : Int) : Except Failure Selection :=
  if columns < 1 then .error .noColumns
  else if rowHeight < 1 then .error .rowHeight
  else ({ columns, viewportHeight, rowHeight } : Selection).reset itemCount

/-! ## Operations -/

inductive Op where
  | select (index : Int)
  | down (wrap : Bool)
  | up (wrap : Bool)
  | right (wrap : Bool)
  | left (wrap : Bool)
  | pageDown
  | pageUp
  | setTop (row : Int)
  | setBottom (row : Int)
  | setViewport (height : Int) (rowHeight : Option Int)
  | showCursor
  | reset (count : Int)
  deriving DecidableEq

/-- What came of an operation. -/
structure Outcome where
  selection : Selection
  picked : Option Int := none
  failure : Option Failure := none

def Op.apply (op : Op) (s : Selection) : Outcome :=
  match op with
  | .select index => moved (s.select index)
  | .down wrap => moved (s.moveDown wrap)
  | .up wrap => moved (s.moveUp wrap)
  | .right wrap => moved (s.moveRight wrap)
  | .left wrap => moved (s.moveLeft wrap)
  | .pageDown => moved s.pageDown
  | .pageUp => moved s.pageUp
  | .setTop row => { selection := s.setTop row }
  | .setBottom row => { selection := s.setBottom row }
  | .setViewport height rowHeight =>
      let (selection, failure) := s.setViewport height rowHeight
      { selection, failure }
  | .showCursor => { selection := s.showCursor }
  | .reset count =>
      match s.reset count with
      | .ok selection => { selection }
      | .error failure => { selection := s, failure := some failure }
where
  moved (m : Moved) : Outcome := { selection := m.1, picked := m.2 }

end Selection

end Crafting
