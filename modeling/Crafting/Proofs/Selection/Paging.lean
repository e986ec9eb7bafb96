import Crafting.Proofs.Selection.Scrolling

/-!
# Paging

To turn a page is to scroll by as many rows as are on screen and to take the cursor along. The two stay together: the
cursor, where it is stopped by an end of the list, never pulls the list back. So a list is paged through without a gap,
from either end to the other.
-/

namespace Crafting.Selection

variable {s : Selection} {cursor : Int}

/-! ## Scrolling with the cursor -/

theorem rowOf_mono (hcolumns : 1 ≤ s.columns) : Monotone s.rowOf :=
  fun _ _ hle => Int.ediv_le_ediv (by omega) hle

/-- The last entry stands in the last row. -/
theorem rowOf_last (hcolumns : 1 ≤ s.columns) : s.rowOf (s.itemCount - 1) = s.rowCount - 1 := by
  have hbefore : s.rowCount - 1 < s.rowCount ↔ (s.rowCount - 1) * s.columns < s.itemCount := lt_rowCount_iff hcolumns
  have hbehind : s.rowCount < s.rowCount ↔ s.rowCount * s.columns < s.itemCount := lt_rowCount_iff hcolumns
  have hlast : s.rowOf (s.itemCount - 1) < s.rowCount := (rowOf_lt_iff hcolumns).2 (by omega)
  refine le_antisymm (by omega) ((le_rowOf_iff hcolumns).2 (by omega))

/-- The row of the entry nearest to an index is the row of the list nearest to its row. -/
theorem rowOf_nearest (hcolumns : 1 ≤ s.columns) (index : Int) :
    s.rowOf (min (max index 0) (s.itemCount - 1)) = min (max (s.rowOf index) 0) (s.rowCount - 1) := by
  have hmono := rowOf_mono hcolumns
  rw [hmono.map_min, hmono.map_max, rowOf_last hcolumns, show s.rowOf 0 = 0 from Int.zero_ediv _]

theorem rowOf_add_rows (hcolumns : 1 ≤ s.columns) (index rows : Int) :
    s.rowOf (index + rows * s.columns) = s.rowOf index + rows :=
  Int.add_mul_ediv_right _ _ (by omega)

theorem showCursor_of_isVisible (hcolumns : 1 ≤ s.columns) (hcursor : s.cursor = some cursor)
    (hvisible : s.isVisible cursor = true) : s.showCursor = s := by
  obtain ⟨-, habove, hbelow⟩ := (isVisible_iff hcolumns).1 hvisible
  have hbottom : s.bottom = s.top + s.visibleRows := rfl
  rw [showCursor_eq hcursor, topFor, if_neg (by omega), if_neg (by omega)]

/-- The list scrolled by some rows, with the cursor taken along, both as far as the list goes. -/
def shifted (s : Selection) (cursor rows : Int) : Selection :=
  { s with
    cursor := some (min (max (cursor + rows * s.columns) 0) (s.itemCount - 1))
    top := min (max (s.top + rows) 0) s.maxTop }

theorem shifted_of_bounds {rows : Int} (hlow : 0 ≤ cursor + rows * s.columns)
    (hhigh : cursor + rows * s.columns < s.itemCount) (htop : 0 ≤ s.top + rows) (hle : s.top + rows ≤ s.maxTop) :
    s.shifted cursor rows = { s with cursor := some (cursor + rows * s.columns), top := s.top + rows } := by
  rw [shifted, max_eq_left hlow, max_eq_left htop, min_eq_left hle, min_eq_left (by omega)]

section

variable (h : s.Valid) (hvisible : s.isVisible cursor = true)

include h hvisible

/-- A cursor that was on screen stays there, wherever it or the list is stopped. -/
theorem Valid.isVisible_shifted (rows : Int) :
    (s.shifted cursor rows).isVisible (min (max (cursor + rows * s.columns) 0) (s.itemCount - 1)) = true := by
  obtain ⟨hitem, habove, hbelow⟩ := (isVisible_iff h.columns_pos).1 hvisible
  have htop := h.top_nonneg
  have hrows := visibleRows_pos s
  have hrow := rowOf_nearest h.columns_pos (cursor + rows * s.columns)
  have hlast := rowOf_mono h.columns_pos (show cursor ≤ s.itemCount - 1 by omega)
  rw [rowOf_add_rows h.columns_pos] at hrow
  rw [rowOf_last h.columns_pos] at hlast
  rw [isVisible_iff (s := s.shifted cursor rows) h.columns_pos]
  refine ⟨by simp only [shifted]; omega, ?_⟩
  show min (max (s.top + rows) 0) s.maxTop ≤ s.rowOf _ ∧ s.rowOf _ < min (max (s.top + rows) 0) s.maxTop + s.visibleRows
  rw [hrow]
  unfold maxTop
  omega

/-- The cursor does not pull the list back. -/
theorem Valid.select_shifted (hcursor : s.cursor = some cursor) (rows : Int) :
    ((s.setTop (s.top + rows)).select (cursor + rows * s.columns)).1 = s.shifted cursor rows := by
  have hbounds := h.cursor_bounds cursor hcursor
  rw [select_of_some (s := s.setTop _) (show s.itemCount ≠ 0 by omega)]
  exact showCursor_of_isVisible (s := s.shifted cursor rows) h.columns_pos rfl (h.isVisible_shifted hvisible rows)

end

/-! ## One page -/

/-- The same list, scrolled to a row and with its cursor on screen. -/
def ShownAt (s : Selection) (top : Int) (t : Selection) : Prop :=
  ∃ cursor, t = { s with cursor := some cursor, top } ∧ t.isVisible cursor = true

theorem shownAt_self (hcursor : s.cursor = some cursor) (hvisible : s.isVisible cursor = true) : s.ShownAt s.top s :=
  ⟨cursor, by rw [← hcursor], hvisible⟩

theorem select_min (hcount : 0 < s.itemCount) (index : Int) :
    s.select (min index (s.itemCount - 1)) = s.select index := by
  rw [select_of_some (by omega), select_of_some (by omega),
    show min (max (min index (s.itemCount - 1)) 0) (s.itemCount - 1) = min (max index 0) (s.itemCount - 1) by omega]

theorem select_max (hcount : 0 < s.itemCount) (index : Int) : s.select (max index 0) = s.select index := by
  rw [select_of_some (by omega), select_of_some (by omega), max_eq_left (le_max_right index 0)]

/-- Where the list is scrolled as far down as it goes, a page down does nothing. -/
theorem pageDown_of_top_eq (htop : s.top = s.maxTop) : s.pageDown = (s, none) := by
  have hend : ¬s.top + s.visibleRows < s.rowCount := by
    rw [htop, maxTop]
    omega
  rw [pageDown]
  split
  · rfl
  · rw [if_neg hend]

theorem pageUp_of_top_eq (htop : s.top = 0) : s.pageUp = (s, none) := by
  rw [pageUp]
  split
  · rfl
  · rw [if_neg (by omega)]

section

variable (h : s.Valid) (hcursor : s.cursor = some cursor) (hvisible : s.isVisible cursor = true)

include h hcursor hvisible

/-- As long as there are rows below, a page down scrolls a whole page, or less if the list ends before. -/
theorem Valid.pageDown_of_lt (hbelow : s.top + s.visibleRows < s.rowCount) :
    s.pageDown.1 = s.shifted cursor s.visibleRows := by
  have hbounds := h.cursor_bounds cursor hcursor
  rw [pageDown, hcursor]
  simp only [if_pos hbelow]
  -- To stop at the last entry is left to the choice of it.
  have hlast := select_min (s := s.setTop (s.top + s.visibleRows)) (show 0 < s.itemCount by omega)
    (cursor + s.visibleRows * s.columns)
  exact (congrArg Prod.fst hlast).trans (h.select_shifted hvisible hcursor s.visibleRows)

theorem Valid.pageUp_of_pos (habove : 0 < s.top) : s.pageUp.1 = s.shifted cursor (-s.visibleRows) := by
  have hbounds := h.cursor_bounds cursor hcursor
  rw [pageUp, hcursor]
  simp only [if_pos habove]
  rw [select_max (s := s.setTop _) (show 0 < s.itemCount by omega), Int.sub_eq_add_neg, Int.sub_eq_add_neg,
    ← Int.neg_mul]
  exact h.select_shifted hvisible hcursor (-s.visibleRows)

theorem Valid.shownAt_pageDown : s.ShownAt (min (s.top + s.visibleRows) s.maxTop) s.pageDown.1 := by
  have htop := h.top_nonneg
  have hle := h.top_le
  have hrows := visibleRows_pos s
  by_cases hbelow : s.top + s.visibleRows < s.rowCount
  · rw [h.pageDown_of_lt hcursor hvisible hbelow, ← max_eq_left (show 0 ≤ s.top + s.visibleRows by omega)]
    exact ⟨_, rfl, h.isVisible_shifted hvisible _⟩
  · have hend : s.top = s.maxTop := by
      unfold maxTop at hle ⊢
      omega
    rw [pageDown_of_top_eq hend, show min (s.top + s.visibleRows) s.maxTop = s.top by omega]
    exact shownAt_self hcursor hvisible

theorem Valid.shownAt_pageUp : s.ShownAt (max (s.top - s.visibleRows) 0) s.pageUp.1 := by
  have htop := h.top_nonneg
  have hle := h.top_le
  have hrows := visibleRows_pos s
  by_cases habove : 0 < s.top
  · rw [h.pageUp_of_pos hcursor hvisible habove,
      show max (s.top - s.visibleRows) 0 = min (max (s.top + -s.visibleRows) 0) s.maxTop by omega]
    exact ⟨_, rfl, h.isVisible_shifted hvisible _⟩
  · rw [pageUp_of_top_eq (by omega), show max (s.top - s.visibleRows) 0 = s.top by omega]
    exact shownAt_self hcursor hvisible

end

namespace ShownAt

variable {t : Selection} {top : Int}

theorem top_eq (h : s.ShownAt top t) : t.top = top := by
  obtain ⟨_, rfl, -⟩ := h
  rfl

theorem pageDown (h : s.ShownAt top t) (ht : t.Valid) :
    s.ShownAt (min (top + s.visibleRows) s.maxTop) t.pageDown.1 := by
  obtain ⟨_, rfl, hvisible⟩ := h
  exact ht.shownAt_pageDown rfl hvisible

theorem pageUp (h : s.ShownAt top t) (ht : t.Valid) : s.ShownAt (max (top - s.visibleRows) 0) t.pageUp.1 := by
  obtain ⟨_, rfl, hvisible⟩ := h
  exact ht.shownAt_pageUp rfl hvisible

end ShownAt

/-! ## Page by page -/

theorem after_replicate_succ (op : Op) (j : Nat) (s : Selection) :
    after (List.replicate (j + 1) op) s = (op.apply (after (List.replicate j op) s)).selection := by
  induction j generalizing s with
  | zero => rfl
  | succ j ih => exact ih (op.apply s).selection

/-- Page by page the list is scrolled to these rows, always with its cursor on screen. Every entry is on screen at some
time; in the end the list is scrolled to a last row, and there a further page changes and reports nothing. -/
structure PagesThrough (s : Selection) (page : Op) (top : Nat → Int) (last : Int) : Prop where
  shownAt : ∀ j, s.ShownAt (top j) (after (List.replicate j page) s)
  covers : ∀ index, 0 ≤ index → index < s.itemCount → ∃ j, (after (List.replicate j page) s).isVisible index = true
  arrives : ∃ j, ∀ k ≥ j, (after (List.replicate k page) s).top = last
  rests : ∀ j, (after (List.replicate j page) s).top = last →
    page.apply (after (List.replicate j page) s) = { selection := after (List.replicate j page) s }

/-- Each row stands in one of the pages that follow on one another from the first row. -/
theorem exists_page {page row : Int} (hpage : 1 ≤ page) (hrow : 0 ≤ row) :
    ∃ j : Nat, j * page ≤ row ∧ row < j * page + page := by
  refine ⟨(row / page).toNat, ?_⟩
  rw [Int.toNat_of_nonneg (Int.ediv_nonneg hrow (by omega)), ← add_one_mul]
  exact ⟨Int.ediv_mul_le row (by omega), Int.lt_ediv_add_one_mul_self row (by omega)⟩

/-- So many pages as there are rows are more rows than that. -/
theorem le_pages {page rows : Int} (hpage : 1 ≤ page) {k : Nat} (hk : k ≥ rows.toNat) : rows ≤ k * page := by
  have hpages := Int.mul_le_mul_of_nonneg_left hpage (show (0 : Int) ≤ k by omega)
  omega

section

variable {page : Op} {top : Nat → Int} (h : s.Valid) (hstart : s.ShownAt (top 0) s)
  (hpasses : ∀ t, (page.apply t).failure = none)
  (hpage : ∀ j t, t.Valid → s.ShownAt (top j) t → s.ShownAt (top (j + 1)) (page.apply t).selection)

include h hstart hpasses hpage

/-- By induction on the pages: what one page leaves is what the next one begins with. -/
theorem Valid.shownAt_after (j : Nat) :
    (after (List.replicate j page) s).Valid ∧ s.ShownAt (top j) (after (List.replicate j page) s) := by
  induction j with
  | zero => exact ⟨h, hstart⟩
  | succ j ih =>
      rw [after_replicate_succ]
      exact ⟨ih.1.apply (hpasses _), hpage j _ ih.1 ih.2⟩

/-- For pages that leave no gap between the rows they scroll to. -/
theorem Valid.pagesThrough {last : Int}
    (hcovers : ∀ row, 0 ≤ row → row < s.rowCount → ∃ j, top j ≤ row ∧ row < top j + s.visibleRows)
    (harrives : ∃ j, ∀ k ≥ j, top k = last)
    (hrests : ∀ t : Selection, s.ShownAt last t → page.apply t = { selection := t }) :
    s.PagesThrough page top last := by
  have hshown j : s.ShownAt (top j) (after (List.replicate j page) s) := (h.shownAt_after hstart hpasses hpage j).2
  refine ⟨hshown, fun index hindex hitem => ?_, ?_, fun j htop => hrests _ ?_⟩
  · have hfirst : 0 ≤ s.rowOf index := (le_rowOf_iff h.columns_pos).2 (by omega)
    have hlast : s.rowOf index < s.rowCount :=
      (lt_rowCount_iff h.columns_pos).2 (lt_of_le_of_lt ((le_rowOf_iff h.columns_pos).1 le_rfl) hitem)
    obtain ⟨j, habove, hbelow⟩ := hcovers _ hfirst hlast
    obtain ⟨cursor, hafter, -⟩ := hshown j
    refine ⟨j, ?_⟩
    rw [hafter]
    exact (isVisible_iff (s := { s with cursor := some cursor, top := top j }) h.columns_pos).2 ⟨hitem, habove, hbelow⟩
  · obtain ⟨j, hj⟩ := harrives
    exact ⟨j, fun k hk => (hshown k).top_eq.trans (hj k hk)⟩
  · rw [← htop, (hshown j).top_eq]
    exact hshown j

end

theorem Valid.pagesDown (h : s.Valid) (hshown : s.ShownAt s.top s) (htop : s.top = 0) :
    s.PagesThrough .pageDown (fun j => min (j * s.visibleRows) s.maxTop) s.maxTop := by
  have hrows := visibleRows_pos s
  have hmax : s.maxTop = max 0 (s.rowCount - s.visibleRows) := rfl
  refine h.pagesThrough ?_ (fun _ => rfl) (fun j t ht hthere => ?_) (fun row hrow hlast => ?_) ?_ fun t hthere => ?_
  · rwa [show min (((0 : Nat) : Int) * s.visibleRows) s.maxTop = s.top by simp [hmax, htop]]
  · have hnext := hthere.pageDown ht
    rwa [show min (min (j * s.visibleRows) s.maxTop + s.visibleRows) s.maxTop =
      min ((j + 1 : Nat) * s.visibleRows) s.maxTop by rw [Nat.cast_succ, add_one_mul]; omega] at hnext
  · obtain ⟨j, habove, hbelow⟩ := exists_page hrows hrow
    exact ⟨j, by omega, by omega⟩
  · exact ⟨s.maxTop.toNat, fun k hk => min_eq_right (le_pages hrows hk)⟩
  · obtain ⟨chosen, rfl, -⟩ := hthere
    have hrest := pageDown_of_top_eq (s := { s with cursor := some chosen, top := s.maxTop }) rfl
    simp only [Op.apply, Op.apply.moved, hrest]

theorem Valid.pagesUp (h : s.Valid) (hshown : s.ShownAt s.top s) (htop : s.top = s.maxTop) :
    s.PagesThrough .pageUp (fun j => max (s.maxTop - j * s.visibleRows) 0) 0 := by
  have hrows := visibleRows_pos s
  have hmax : s.maxTop = max 0 (s.rowCount - s.visibleRows) := rfl
  refine h.pagesThrough ?_ (fun _ => rfl) (fun j t ht hthere => ?_) (fun row hrow hlast => ?_) ?_ fun t hthere => ?_
  · rwa [show max (s.maxTop - ((0 : Nat) : Int) * s.visibleRows) 0 = s.top by simp [hmax, htop]]
  · have hnext := hthere.pageUp ht
    rwa [show max (max (s.maxTop - j * s.visibleRows) 0 - s.visibleRows) 0 =
      max (s.maxTop - (j + 1 : Nat) * s.visibleRows) 0 by rw [Nat.cast_succ, add_one_mul]; omega] at hnext
  · -- The pages are counted from below here, from the last row that the screen can show.
    obtain ⟨j, hbelow, habove⟩ := exists_page hrows (show 0 ≤ s.maxTop + s.visibleRows - 1 - row by omega)
    exact ⟨j, by omega, by omega⟩
  · refine ⟨s.maxTop.toNat, fun k hk => max_eq_right ?_⟩
    have hpages := le_pages hrows hk
    omega
  · obtain ⟨chosen, rfl, -⟩ := hthere
    have hrest := pageUp_of_top_eq (s := { s with cursor := some chosen, top := 0 }) rfl
    simp only [Op.apply, Op.apply.moved, hrest]

/-- For any list that was made, after any operations done to it, refused or not: if it is not scrolled and its cursor is
on screen, paging down goes through it, a whole page at a time or as far as it can be scrolled; and if it is scrolled as
far as it can be, paging up goes through it and back to its first row. -/
theorem paging_shows_all {columns viewportHeight rowHeight itemCount : Int} {start : Selection}
    (hmake : make columns viewportHeight rowHeight itemCount = .ok start) (ops : List Op) {cursor : Int}
    (hcursor : (after ops start).cursor = some cursor) (hvisible : (after ops start).isVisible cursor = true) :
    let s := after ops start
    (s.top = 0 → s.PagesThrough .pageDown (fun j => min (j * s.visibleRows) s.maxTop) s.maxTop) ∧
      (s.top = s.maxTop → s.PagesThrough .pageUp (fun j => max (s.maxTop - j * s.visibleRows) 0) 0) := by
  intro s
  have hplaced : s.Placed := (Valid.of_make hmake).placed.after ops
  have hshown : s.ShownAt s.top s := shownAt_self hcursor hvisible
  refine ⟨fun htop => ?_, fun htop => ?_⟩
  · exact Valid.pagesDown { hplaced with top_le := htop ▸ s.maxTop_nonneg } hshown htop
  · exact Valid.pagesUp { hplaced with top_le := htop.le } hshown htop

end Crafting.Selection

namespace Crafting.Sample

open Selection

/-- Thirteen entries in three columns, with two of the five rows on screen. -/
def shelf : Selection where
  columns := 3
  viewportHeight := 50
  rowHeight := 20
  itemCount := 13
  cursor := some 4

/-- Scrolled to its end, with the last entry chosen. -/
def shelfEnd : Selection :=
  { shelf with cursor := some 12, top := 3 }

/-- The last of its pages is a short one, either way. -/
theorem shelf_paged :
    ∃ start, make 3 50 20 13 = .ok start ∧ after [.select 4] start = shelf ∧ shelf.isVisible 4 = true ∧
      shelf.PagesThrough .pageDown (fun j => min (j * 2) 3) 3 ∧ after [.select 12] start = shelfEnd ∧
      shelfEnd.isVisible 12 = true ∧ shelfEnd.PagesThrough .pageUp (fun j => max (3 - j * 2) 0) 0 := by
  obtain ⟨start, hmake⟩ : ∃ start, make 3 50 20 13 = .ok start := ⟨_, rfl⟩
  have hfirst : after [.select 4] start = shelf := by
    cases hmake
    decide
  have hlast : after [.select 12] start = shelfEnd := by
    cases hmake
    decide
  have hfourth : (after [.select 4] start).cursor = some 4 := by rw [hfirst, shelf]
  have htwelfth : (after [.select 12] start).cursor = some 12 := by rw [hlast, shelfEnd]
  obtain ⟨hdown, -⟩ := paging_shows_all hmake [.select 4] hfourth (by rw [hfirst]; decide)
  obtain ⟨-, hup⟩ := paging_shows_all hmake [.select 12] htwelfth (by rw [hlast]; decide)
  rw [hfirst] at hdown
  rw [hlast] at hup
  exact ⟨start, hmake, hfirst, by decide, hdown rfl, hlast, by decide, hup (by decide)⟩

end Crafting.Sample
