import Crafting.Proofs.Selection.Refusals

/-!
# Scrolling just enough

Choosing an entry, and changing the list or the screen, brings the cursor on screen and moves the list no further than
that takes. A list that a refused change of the screen has left scrolled too far may stay so, though: a move only looks
whether the cursor is on screen.
-/

namespace Crafting.Selection

variable {s : Selection} {index cursor old : Int}

/-! ## Where a list can be scrolled to -/

/-- The list can be scrolled down to the row `top`, and shows an entry there. -/
def Shows (s : Selection) (index top : Int) : Prop :=
  0 ≤ top ∧ top ≤ s.maxTop ∧ ({ s with top } : Selection).isVisible index = true

/-- Of all the rows that the list could be scrolled to and show an entry, it is scrolled to the one nearest to `old`.
-/
structure Nearest (s : Selection) (index old : Int) : Prop where
  shows : s.Shows index s.top
  lt_of_shows : ∀ top, s.Shows index top → top ≠ s.top → (s.top - old).natAbs < (top - old).natAbs

theorem Nearest.top_eq (h : s.Nearest index old) (hold : s.Shows index old) : s.top = old := by
  by_contra hmoved
  have hlt := h.lt_of_shows old hold (Ne.symm hmoved)
  omega

theorem shows_iff (hcolumns : 1 ≤ s.columns) (hindex : index < s.itemCount) {top : Int} :
    s.Shows index top ↔ 0 ≤ top ∧ top ≤ s.maxTop ∧ top ≤ s.rowOf index ∧ s.rowOf index < top + s.visibleRows := by
  have hvisible : ({ s with top } : Selection).isVisible index = true ↔
      index < s.itemCount ∧ top ≤ s.rowOf index ∧ s.rowOf index < top + s.visibleRows :=
    isVisible_iff (s := { s with top }) hcolumns
  rw [Shows, hvisible, and_iff_right hindex]

/-- No row that the list can be scrolled to is nearer to `old` than to the end of the list on the side of `old`. -/
theorem Nearest.of_clamp (h : s.Nearest index (min (max old 0) s.maxTop)) : s.Nearest index old where
  shows := h.shows
  lt_of_shows := by
    intro top htop hmoved
    have hlt := h.lt_of_shows top htop hmoved
    obtain ⟨hnonneg, hle, -⟩ := h.shows
    obtain ⟨htopNonneg, htopLe, -⟩ := htop
    omega

/-! ## Bringing the cursor on screen -/

theorem Fits.rowOf_cursor (h : s.Fits) (hcursor : s.cursor = some cursor) :
    0 ≤ s.rowOf cursor ∧ s.rowOf cursor < s.rowCount := by
  obtain ⟨hlow, hhigh⟩ := h.cursor_bounds cursor hcursor
  constructor
  · rw [le_rowOf_iff h.columns_pos]
    omega
  · rw [lt_rowCount_iff h.columns_pos]
    exact lt_of_le_of_lt ((le_rowOf_iff h.columns_pos).1 le_rfl) hhigh

/-- The row that the list is scrolled to when an entry is to be on screen. -/
def topFor (s : Selection) (index : Int) : Int :=
  if s.rowOf index < s.top then min (max (s.rowOf index) 0) s.maxTop
  else if s.bottom - 1 < s.rowOf index then min (max (s.rowOf index + 1 - s.visibleRows) 0) s.maxTop
  else s.top

theorem showCursor_eq (hcursor : s.cursor = some cursor) : s.showCursor = { s with top := s.topFor cursor } := by
  have hshow : s.showCursor =
      if s.rowOf cursor < s.top then s.setTop (s.rowOf cursor)
      else if s.bottom - 1 < s.rowOf cursor then s.setBottom (s.rowOf cursor + 1)
      else s := by
    rw [showCursor, hcursor]
  rw [hshow, topFor]
  split
  · rfl
  · split
    · rfl
    · rfl

/-- The cursor is on screen, wherever the list was scrolled. -/
theorem Placed.isVisible_showCursor (h : s.Placed) (hcursor : s.cursor = some cursor) :
    s.showCursor.isVisible cursor = true := by
  have hrow := h.rowOf_cursor hcursor
  have hrows := visibleRows_pos s
  have hnonneg := h.top_nonneg
  rw [showCursor_eq hcursor, isVisible_iff (s := { s with top := s.topFor cursor }) h.columns_pos]
  refine ⟨(h.cursor_bounds cursor hcursor).2, ?_⟩
  show s.topFor cursor ≤ s.rowOf cursor ∧ s.rowOf cursor < s.topFor cursor + s.visibleRows
  unfold topFor maxTop bottom
  omega

/-- The list is moved no further than it takes, unless it was scrolled too far and the cursor was on screen there. -/
theorem Placed.nearest_showCursor_iff (h : s.Placed) (hcursor : s.cursor = some cursor) :
    s.showCursor.Nearest cursor s.top ↔ s.top ≤ s.maxTop ∨ s.rowOf cursor < s.top := by
  have hrow := h.rowOf_cursor hcursor
  have hrows := visibleRows_pos s
  have hnonneg := h.top_nonneg
  have hshows : ∀ top, s.showCursor.Shows cursor top ↔
      0 ≤ top ∧ top ≤ s.maxTop ∧ top ≤ s.rowOf cursor ∧ s.rowOf cursor < top + s.visibleRows := by
    intro top
    rw [showCursor_eq hcursor]
    exact shows_iff h.columns_pos (h.cursor_bounds cursor hcursor).2
  have htop : s.showCursor.top = s.topFor cursor := by
    rw [showCursor_eq hcursor]
  -- Beyond the last row the list can be scrolled to, the screen reaches below the list, and so below the cursor.
  have hmax : s.maxTop = max 0 (s.rowCount - s.visibleRows) := rfl
  have hbottom : s.bottom = s.top + s.visibleRows := rfl
  unfold topFor at htop
  constructor
  · intro hnearest
    have hshown := (hshows _).1 hnearest.shows
    omega
  · intro hscrolled
    refine ⟨(hshows _).2 (by omega), fun top hother hmoved => ?_⟩
    have hthere := (hshows top).1 hother
    omega

/-! ## Operations that scroll -/

/-- The operations that bring the cursor of a list with entries on screen. -/
inductive Op.Reveals (s : Selection) : Op → Prop where
  | select (index : Int) (hitems : s.itemCount ≠ 0) : Reveals s (.select index)
  | showCursor (hitems : s.itemCount ≠ 0) : Reveals s .showCursor
  | setViewport (height : Int) {rowHeight : Option Int} (hrow : ∀ height ∈ rowHeight, 1 ≤ height)
      (hitems : s.itemCount ≠ 0) : Reveals s (.setViewport height rowHeight)
  | reset {count : Int} (hcount : 0 < count) : Reveals s (.reset count)

/-- Each of them brings the cursor on screen in the end. Before that, one that is given another list or another screen
scrolls the list to where it can be, and the others leave the scrolling as it is. -/
theorem Op.Reveals.exists_showCursor {op : Op} (hop : op.Reveals s) (h : s.Placed) :
    (op.apply s).failure = none ∧ ∃ (t : Selection) (cursor : Int), t.Placed ∧ t.cursor = some cursor ∧
      (op.apply s).selection = t.showCursor ∧
        (op.Refits ∧ t.top = min (max s.top 0) t.maxTop ∨ ¬op.Refits ∧ t.top = s.top ∧ t.maxTop = s.maxTop) := by
  cases hop with
  | select index hitems =>
      refine ⟨rfl, { s with cursor := some (min (max index 0) (s.itemCount - 1)) }, _,
        { h.choose hitems index with top_nonneg := h.top_nonneg }, rfl, ?_, .inr ⟨not_false, rfl, rfl⟩⟩
      show (s.select index).1 = _
      rw [select_of_some hitems]
  | showCursor hitems =>
      obtain ⟨cursor, hcursor⟩ : ∃ cursor, s.cursor = some cursor :=
        Option.ne_none_iff_exists'.1 (mt h.cursor_eq_none_iff.1 hitems)
      exact ⟨rfl, s, cursor, h, hcursor, rfl, .inr ⟨not_false, rfl, rfl⟩⟩
  | @setViewport height rowHeight hrow hitems =>
      obtain ⟨cursor, hcursor⟩ : ∃ cursor, s.cursor = some cursor :=
        Option.ne_none_iff_exists'.1 (mt h.cursor_eq_none_iff.1 hitems)
      have hpos : 1 ≤ rowHeight.getD s.rowHeight := by
        cases rowHeight with
        | none => exact h.rowHeight_pos
        | some rowHeight => exact hrow rowHeight rfl
      have hrefit := (h.resize height hpos).setTop s.top
      simp only [Op.apply, setViewport_of_pos height hpos]
      exact ⟨trivial, _, cursor, hrefit.valid.placed, hcursor, rfl, .inl ⟨trivial, rfl⟩⟩
  | @reset count hcount =>
      have hkept := h.keptCursor hcount
      have hrefit := (h.relist hkept.1 hkept.2).setTop s.top
      simp only [Op.apply, reset_of_pos hcount]
      exact ⟨trivial, _, s.keptCursor count, hrefit.valid.placed, rfl, rfl, .inl ⟨trivial, rfl⟩⟩

/-- One of them, done to a list however it is scrolled. -/
theorem Op.Reveals.scrolls {op : Op} (hop : op.Reveals s) (h : s.Placed) :
    let t := (op.apply s).selection
    (op.apply s).failure = none ∧ ∃ cursor, t.cursor = some cursor ∧ t.isVisible cursor = true ∧
      (t.Nearest cursor s.top ↔ op.Refits ∨ s.top ≤ t.maxTop ∨ t.rowOf cursor < s.top) ∧
        (s.top ≤ s.maxTop → t.Nearest cursor s.top) := by
  obtain ⟨hpassed, u, cursor, hu, hcursor, hselection, hscroll⟩ := hop.exists_showCursor h
  -- Bringing the cursor on screen changes the scrolling alone.
  have hshown : u.showCursor = { u with top := u.topFor cursor } := showCursor_eq hcursor
  have hmax : u.showCursor.maxTop = u.maxTop := by rw [hshown]; rfl
  have hrow : u.showCursor.rowOf cursor = u.rowOf cursor := by rw [hshown]; rfl
  have hiff : u.showCursor.Nearest cursor s.top ↔
      op.Refits ∨ s.top ≤ u.showCursor.maxTop ∨ u.showCursor.rowOf cursor < s.top := by
    rw [hmax, hrow]
    rcases hscroll with ⟨hrefits, htop⟩ | ⟨hmoves, htop, -⟩
    · refine iff_of_true (.of_clamp ?_) (.inl hrefits)
      rw [hmax, ← htop, hu.nearest_showCursor_iff hcursor, htop]
      exact .inl (min_le_right _ _)
    · rw [← htop, hu.nearest_showCursor_iff hcursor, or_iff_right hmoves]
  refine ⟨hpassed, cursor, ?_⟩
  simp only [hselection]
  refine ⟨by rw [hshown, hcursor], hu.isVisible_showCursor hcursor, hiff, fun hle => hiff.2 ?_⟩
  rcases hscroll with ⟨hrefits, -⟩ | ⟨-, -, hsame⟩
  · exact .inl hrefits
  · refine .inr (.inl ?_)
    rw [hmax, hsame]
    exact hle

/-- For any list that was made, after any operations done to it, refused or not: choosing an entry, bringing the cursor
on screen, another screen and another length are not refused and leave the cursor on screen. The list is then scrolled
to the row nearest to where it was, of all those it can be scrolled to with the cursor on screen, just when the list or
the screen is another one, or the list was not scrolled too far, or else the cursor was above the screen; so the list
stays where it is if it can and shows the cursor there. If no refused operation before has changed the height of the
screen, the list is scrolled to the nearest row in any case. -/
theorem scrolls_just_enough {columns viewportHeight rowHeight itemCount : Int} {start : Selection}
    (hmake : make columns viewportHeight rowHeight itemCount = .ok start) (ops : List Op) {op : Op}
    (hop : op.Reveals (after ops start)) :
    let s := after ops start
    let t := (op.apply s).selection
    (op.apply s).failure = none ∧ ∃ cursor, t.cursor = some cursor ∧ t.isVisible cursor = true ∧
      (t.Nearest cursor s.top ↔ op.Refits ∨ s.top ≤ t.maxTop ∨ t.rowOf cursor < s.top) ∧
        (t.Shows cursor s.top → t.top = s.top) ∧ (Harmless ops start → t.Nearest cursor s.top) := by
  have hstart : start.Valid := .of_make hmake
  obtain ⟨hpassed, cursor, hcursor, hvisible, hiff, hnearest⟩ := hop.scrolls (hstart.placed.after ops)
  refine ⟨hpassed, cursor, hcursor, hvisible, hiff, fun hshows => ?_, fun hharmless => ?_⟩
  · exact (hiff.2 (.inr (.inl hshows.2.1))).top_eq hshows
  · exact hnearest (hstart.run (run_accepted hharmless)).top_le

end Crafting.Selection

namespace Crafting.Sample

open Selection

/-- The last of five entries is on screen. After a screen for all five was refused, bringing the cursor on screen
leaves the list where it is, past its end; choosing the first entry takes it there and no further. -/
theorem overscrolled_stays :
    ∃ start, make 1 10 10 5 = .ok start ∧
      let s := after [.select 4, .setViewport 50 (some 0)] start
      s.maxTop < s.top ∧ ¬(Op.showCursor.apply s).selection.Nearest 4 s.top ∧
        ((Op.select 0).apply s).selection.Nearest 0 s.top := by
  obtain ⟨start, hmake⟩ : ∃ start, make 1 10 10 5 = .ok start := ⟨_, rfl⟩
  have hleft : after [.select 4, .setViewport 50 (some 0)] start = { lastOfFive with viewportHeight := 50 } := by
    cases hmake
    decide
  have hshow : Op.Reveals (after [.select 4, .setViewport 50 (some 0)] start) .showCursor := by
    rw [hleft]
    exact .showCursor (by decide)
  have hselect : Op.Reveals (after [.select 4, .setViewport 50 (some 0)] start) (.select 0) := by
    rw [hleft]
    exact .select 0 (by decide)
  obtain ⟨-, cursor, hcursor, -, hnear, -⟩ := scrolls_just_enough hmake _ hshow
  obtain ⟨-, first, hfirst, -, hnearest, -⟩ := scrolls_just_enough hmake _ hselect
  rw [hleft] at hcursor hnear hfirst hnearest
  refine ⟨start, hmake, ?_⟩
  rw [hleft]
  cases hcursor
  cases hfirst
  refine ⟨by decide, fun h => absurd (hnear.1 h) ?_, hnearest.2 ?_⟩
  · simp only [Op.Refits]
    decide
  · exact .inr (.inr (by decide))

end Crafting.Sample
