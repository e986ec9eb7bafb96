import Crafting.Proofs.Selection.Paging

/-!
# Opposite moves

A move of the cursor is a step of so many entries, and the move the other way is the same step back. A cursor that goes
on at the other end of the list takes its steps in a circle, and one that does not takes only those steps that stay in
the list, so either way the opposite move undoes a move. A page undoes a page where neither is cut short.
-/

namespace Crafting.Selection

variable {s : Selection} {cursor : Int}

/-! ## Directions -/

inductive Direction where
  | down
  | up
  | right
  | left
  deriving DecidableEq

namespace Direction

def opposite : Direction → Direction
  | down => up
  | up => down
  | right => left
  | left => right

/-- The move in a direction. -/
def op (wrap : Bool) : Direction → Op
  | down => .down wrap
  | up => .up wrap
  | right => .right wrap
  | left => .left wrap

/-- By how many entries the cursor goes in a direction. In a single column it does not go sideways. -/
def step (s : Selection) : Direction → Int
  | down => s.columns
  | up => -s.columns
  | right => if s.columns < 2 then 0 else 1
  | left => if s.columns < 2 then 0 else -1

theorem step_opposite (direction : Direction) : direction.opposite.step s = -direction.step s := by
  cases direction with
  | down => rfl
  | up => exact (Int.neg_neg _).symm
  | right => simp only [opposite, step]; split <;> rfl
  | left => simp only [opposite, step]; split <;> rfl

end Direction

/-! ## Where a move goes -/

theorem cursor_select (hitems : s.itemCount ≠ 0) (index : Int) :
    (s.select index).1.cursor = some (min (max index 0) (s.itemCount - 1)) := by
  obtain ⟨top, hshown⟩ := exists_showCursor_eq { s with cursor := some (min (max index 0) (s.itemCount - 1)) }
  rw [select_of_some hitems, hshown]

/-- An entry that is counted round the list is the one that is chosen. -/
theorem cursor_select_emod (hcount : 0 < s.itemCount) (index : Int) :
    (s.select (index % s.itemCount)).1.cursor = some (index % s.itemCount) := by
  have hlow := Int.emod_nonneg index (show s.itemCount ≠ 0 by omega)
  have hhigh := Int.emod_lt_of_pos index hcount
  rw [cursor_select (by omega), max_eq_left hlow, min_eq_left (by omega)]

section

variable (h : s.Fits) (hcursor : s.cursor = some cursor) (direction : Direction)

include h hcursor

/-- The cursor goes round in a circle of all entries. -/
theorem Fits.cursor_wrapping :
    ((direction.op true).apply s).selection.cursor = some ((cursor + direction.step s) % s.itemCount) := by
  obtain ⟨hlow, hhigh⟩ := h.cursor_bounds cursor hcursor
  have hchosen := cursor_select_emod (s := s) (show 0 < s.itemCount by omega)
  -- In a single column the cursor does not go sideways, which is a step of no entries.
  have hstay : some cursor = some ((cursor + 0) % s.itemCount) := by
    rw [Int.add_zero, Int.emod_eq_of_lt hlow hhigh]
  cases direction with
  | down =>
      simp only [Direction.op, Op.apply, Op.apply.moved, moveDown, hcursor, Bool.or_true, if_true]
      exact hchosen _
  | up =>
      simp only [Direction.op, Op.apply, Op.apply.moved, moveUp, hcursor, Bool.or_true, if_true]
      rw [hchosen, Int.add_emod_right]
      rfl
  | right =>
      simp only [Direction.op, Op.apply, Op.apply.moved, moveRight, hcursor, Bool.or_true, if_true, Direction.step]
      split
      · exact hcursor.trans hstay
      · exact hchosen _
  | left =>
      simp only [Direction.op, Op.apply, Op.apply.moved, moveLeft, hcursor, Bool.or_true, if_true, Direction.step]
      split
      · exact hcursor.trans hstay
      · rw [hchosen, Int.add_emod_right]
        rfl

/-- Where the cursor stops at the ends, a move is the one round the list as long as its step stays in the list. -/
theorem Fits.apply_stopping :
    (direction.op false).apply s =
      if 0 ≤ cursor + direction.step s ∧ cursor + direction.step s < s.itemCount then (direction.op true).apply s
      else { selection := s } := by
  obtain ⟨hlow, hhigh⟩ := h.cursor_bounds cursor hcursor
  have hcolumns := h.columns_pos
  cases direction with
  | down =>
      simp only [Direction.op, Op.apply, moveDown, hcursor, Bool.or_false, Bool.or_true, if_true, decide_eq_true_eq,
        Direction.step]
      by_cases hbelow : cursor < s.itemCount - s.columns
      · rw [if_pos hbelow, if_pos (by omega)]
      · rw [if_neg hbelow, if_neg (by omega)]
        rfl
  | up =>
      simp only [Direction.op, Op.apply, moveUp, hcursor, Bool.or_false, Bool.or_true, if_true, decide_eq_true_eq,
        Direction.step]
      by_cases habove : s.columns ≤ cursor
      · rw [if_pos habove, if_pos (by omega)]
      · rw [if_neg habove, if_neg (by omega)]
        rfl
  | right =>
      simp only [Direction.op, Op.apply, moveRight, hcursor, Bool.or_false, Bool.or_true, if_true, decide_eq_true_eq,
        Direction.step]
      by_cases hsingle : s.columns < 2
      · simp only [if_pos hsingle, Int.add_zero, if_pos (And.intro hlow hhigh)]
      · simp only [if_neg hsingle]
        by_cases hafter : cursor < s.itemCount - 1
        · rw [if_pos hafter, if_pos (by omega)]
        · rw [if_neg hafter, if_neg (by omega)]
          rfl
  | left =>
      simp only [Direction.op, Op.apply, moveLeft, hcursor, Bool.or_false, Bool.or_true, if_true, decide_eq_true_eq,
        Direction.step]
      by_cases hsingle : s.columns < 2
      · simp only [if_pos hsingle, Int.add_zero, if_pos (And.intro hlow hhigh)]
      · simp only [if_neg hsingle]
        by_cases hbefore : 0 < cursor
        · rw [if_pos hbefore, if_pos (by omega)]
        · rw [if_neg hbefore, if_neg (by omega)]
          rfl

theorem Fits.cursor_stopping :
    ((direction.op false).apply s).selection.cursor =
      some (if 0 ≤ cursor + direction.step s ∧ cursor + direction.step s < s.itemCount then cursor + direction.step s
        else cursor) := by
  rw [h.apply_stopping hcursor]
  split
  · rename_i hstays
    rw [h.cursor_wrapping hcursor, Int.emod_eq_of_lt hstays.1 hstays.2]
  · exact hcursor

end

/-! ## There and back -/

theorem Direction.not_refits (direction : Direction) (wrap : Bool) : ¬(direction.op wrap).Refits := by
  cases direction <;> exact not_false

/-- After a move the cursor steps as far as before. -/
theorem Direction.step_apply (direction other : Direction) (wrap : Bool) (s : Selection) :
    direction.step ((other.op wrap).apply s).selection = direction.step s ∧
      ((other.op wrap).apply s).selection.itemCount = s.itemCount := by
  obtain ⟨cursor, top, hmoved⟩ := (Op.move (other.not_refits wrap) s).exists_eq
  rw [show ((other.op wrap).apply s).selection = _ from hmoved]
  exact ⟨by cases direction <;> rfl, rfl⟩

section

variable (h : s.Placed) (hcursor : s.cursor = some cursor)

include h hcursor

theorem Placed.wrapping_undone (direction : Direction) :
    (Selection.after [direction.op true, direction.opposite.op true] s).cursor = some cursor := by
  obtain ⟨hlow, hhigh⟩ := h.cursor_bounds cursor hcursor
  have hback := (h.apply (direction.op true)).cursor_wrapping (h.cursor_wrapping hcursor direction) direction.opposite
  obtain ⟨hstep, hcount⟩ := direction.opposite.step_apply direction true s
  rw [hstep, hcount, Direction.step_opposite] at hback
  refine hback.trans (congrArg some ?_)
  calc ((cursor + direction.step s) % s.itemCount + -direction.step s) % s.itemCount
      = (cursor + direction.step s + -direction.step s) % s.itemCount := Int.emod_add_emod _ _ _
    _ = cursor % s.itemCount := by rw [Int.add_neg_cancel_right]
    _ = cursor := Int.emod_eq_of_lt hlow hhigh

theorem Placed.stopping_undone {direction : Direction}
    (hmoves : ((direction.op false).apply s).selection.cursor ≠ some cursor) :
    (Selection.after [direction.op false, direction.opposite.op false] s).cursor = some cursor := by
  have hbounds := h.cursor_bounds cursor hcursor
  have hthere := h.cursor_stopping hcursor direction
  -- A move that changes the cursor took its step.
  by_cases hstays : 0 ≤ cursor + direction.step s ∧ cursor + direction.step s < s.itemCount
  · rw [if_pos hstays] at hthere
    have hback := (h.apply (direction.op false)).cursor_stopping hthere direction.opposite
    obtain ⟨hstep, hcount⟩ := direction.opposite.step_apply direction false s
    rw [hstep, hcount, Direction.step_opposite, Int.add_neg_cancel_right, if_pos hbounds] at hback
    exact hback
  · rw [if_neg hstays] at hthere
    exact absurd hthere hmoves

/-- Where a page down is not cut short, neither is the page up that follows. -/
theorem Placed.page_undone (hvisible : s.isVisible cursor = true) (htop : s.top + s.visibleRows ≤ s.maxTop)
    (hpage : cursor + s.visibleRows * s.columns < s.itemCount) : Selection.after [.pageDown, .pageUp] s = s := by
  have hnonneg := h.top_nonneg
  have hbounds := h.cursor_bounds cursor hcursor
  have hrows := visibleRows_pos s
  have hcolumns := h.columns_pos
  have hmax : s.maxTop = max 0 (s.rowCount - s.visibleRows) := rfl
  have hentries : 0 ≤ s.visibleRows * s.columns := Int.mul_nonneg (by omega) (by omega)
  have hvalid : s.Valid := { h with top_le := by omega }
  -- Neither page is cut short, so each is a shift by a whole page, and the two cancel.
  let paged : Selection := { s with cursor := some (cursor + s.visibleRows * s.columns), top := s.top + s.visibleRows }
  have hshifted : s.shifted cursor s.visibleRows = paged :=
    shifted_of_bounds (by omega) hpage (by omega) htop
  have hdown : (Op.pageDown.apply s).selection = paged :=
    (hvalid.pageDown_of_lt hcursor hvisible (by omega)).trans hshifted
  have hpaged : paged.Valid := hdown ▸ hvalid.apply rfl
  have hthere : paged.isVisible (cursor + s.visibleRows * s.columns) = true := by
    have hkept := hvalid.isVisible_shifted hvisible s.visibleRows
    rwa [hshifted, max_eq_left (by omega), min_eq_left (by omega)] at hkept
  have hentry :
      min (max (cursor + s.visibleRows * s.columns + -s.visibleRows * s.columns) 0) (s.itemCount - 1) = cursor := by
    rw [Int.neg_mul, Int.add_neg_cancel_right]
    omega
  have hrow : min (max (s.top + s.visibleRows + -s.visibleRows) 0) s.maxTop = s.top := by omega
  calc Selection.after [.pageDown, .pageUp] s
      = paged.pageUp.1 := congrArg (fun t : Selection => t.pageUp.1) hdown
    _ = paged.shifted (cursor + s.visibleRows * s.columns) (-s.visibleRows) :=
        hpaged.pageUp_of_pos rfl hthere (show 0 < s.top + s.visibleRows by omega)
    _ = { s with
          cursor := some
            (min (max (cursor + s.visibleRows * s.columns + -s.visibleRows * s.columns) 0) (s.itemCount - 1))
          top := min (max (s.top + s.visibleRows + -s.visibleRows) 0) s.maxTop } := rfl
    _ = s := by rw [hentry, hrow, ← hcursor]

end

/-- For any list with entries that was made, after any operations done to it, refused or not: a move round the list is
undone by the opposite one, and so is a move that stops at the ends, unless it left the cursor where it was. A page down
is undone by a page up, the scrolling with it, if the cursor is on screen and a whole page is left below the list and
the cursor. -/
theorem opposite_moves_undo {columns viewportHeight rowHeight itemCount : Int} {start : Selection}
    (hmake : make columns viewportHeight rowHeight itemCount = .ok start) (ops : List Op)
    (hitems : (after ops start).itemCount ≠ 0) :
    let s := after ops start
    (∀ direction : Direction, (after [direction.op true, direction.opposite.op true] s).cursor = s.cursor) ∧
      (∀ direction : Direction, (after [direction.op false] s).cursor ≠ s.cursor →
        (after [direction.op false, direction.opposite.op false] s).cursor = s.cursor) ∧
      ∀ cursor, s.cursor = some cursor → s.isVisible cursor = true → s.top + s.visibleRows ≤ s.maxTop →
        cursor + s.visibleRows * s.columns < s.itemCount → after [.pageDown, .pageUp] s = s := by
  intro s
  have hplaced : s.Placed := (Valid.of_make hmake).placed.after ops
  obtain ⟨cursor, hcursor⟩ : ∃ cursor, s.cursor = some cursor :=
    Option.ne_none_iff_exists'.1 (mt hplaced.cursor_eq_none_iff.1 hitems)
  refine ⟨fun direction => ?_, fun direction hmoves => ?_, fun cursor hcursor hvisible htop hpage => ?_⟩
  · rw [hcursor]
    exact hplaced.wrapping_undone hcursor direction
  · rw [hcursor] at hmoves ⊢
    exact hplaced.stopping_undone hcursor hmoves
  · exact hplaced.page_undone hcursor hvisible htop hpage

end Crafting.Selection

namespace Crafting.Sample

open Selection

/-- Up and down go round the ragged end of the shelf, and a page of it is turned and turned back. -/
theorem shelf_moves_undone :
    ∃ start, make 3 50 20 13 = .ok start ∧ after [.select 4] start = shelf ∧ shelf.itemCount ≠ 0 ∧
      (after [.up true] shelf).cursor = some 1 ∧ (after [.up true, .up true] shelf).cursor = some 11 ∧
      (after [.up true, .down true] shelf).cursor = some 4 ∧ (after [.left false] shelf).cursor ≠ some 4 ∧
      (after [.left false, .right false] shelf).cursor = some 4 ∧ after [.pageDown, .pageUp] shelf = shelf := by
  obtain ⟨start, hmake⟩ : ∃ start, make 3 50 20 13 = .ok start := ⟨_, rfl⟩
  have hshelf : after [.select 4] start = shelf := by
    cases hmake
    decide
  obtain ⟨hround, hstops, hpage⟩ := opposite_moves_undo hmake [.select 4] (by rw [hshelf]; decide)
  rw [hshelf] at hround hstops hpage
  have hleft : (after [.left false] shelf).cursor ≠ some 4 := by decide
  exact ⟨start, hmake, hshelf, by decide, by decide, by decide, hround .up, hleft, hstops .left hleft,
    hpage 4 rfl (by decide) (by decide) (by decide)⟩

end Crafting.Sample
