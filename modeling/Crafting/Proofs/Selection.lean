import Mathlib
import Crafting.Selection

/-!
# Selections stay in bounds

Whatever is done to a selection, its cursor is an entry of the list, if there is any, and the list is not scrolled
further than it goes. What is on screen is then a run of rows, each with all its entries.
-/

namespace Crafting.Selection

variable {s : Selection}

/-! ## Rows -/

theorem le_rowOf_iff (hcolumns : 1 ≤ s.columns) {row index : Int} :
    row ≤ s.rowOf index ↔ row * s.columns ≤ index :=
  Int.le_ediv_iff_mul_le (by omega)

theorem rowOf_lt_iff (hcolumns : 1 ≤ s.columns) {row index : Int} :
    s.rowOf index < row ↔ index < row * s.columns :=
  Int.ediv_lt_iff_lt_mul (by omega)

/-- A row is one of the list's just when its first entry is. -/
theorem lt_rowCount_iff (hcolumns : 1 ≤ s.columns) {row : Int} :
    row < s.rowCount ↔ row * s.columns < s.itemCount := by
  have hrow : -s.itemCount / s.columns < -row ↔ -s.itemCount < -row * s.columns :=
    Int.ediv_lt_iff_lt_mul (by omega)
  rw [Int.neg_mul] at hrow
  unfold rowCount
  omega

theorem visibleRows_pos (s : Selection) : 1 ≤ s.visibleRows :=
  le_max_left _ _

theorem maxTop_nonneg (s : Selection) : 0 ≤ s.maxTop :=
  le_max_left _ _

/-! ## Selections in bounds -/

/-- The cursor is an entry of the list, and there is one unless the list is empty. -/
structure Fits (s : Selection) : Prop where
  columns_pos : 1 ≤ s.columns
  rowHeight_pos : 1 ≤ s.rowHeight
  itemCount_nonneg : 0 ≤ s.itemCount
  cursor_eq_none_iff : s.cursor = none ↔ s.itemCount = 0
  cursor_bounds : ∀ cursor, s.cursor = some cursor → 0 ≤ cursor ∧ cursor < s.itemCount

/-- And the list is scrolled no further than it goes. -/
structure Valid (s : Selection) : Prop extends Fits s where
  top_nonneg : 0 ≤ s.top
  top_le : s.top ≤ s.maxTop

/-- After a move the list is as long as before, and the cursor is where the move reports, or else where it was. -/
structure Follows (s : Selection) (m : Moved) : Prop where
  valid : m.1.Valid
  itemCount_eq : m.1.itemCount = s.itemCount
  cursor_eq : m.1.cursor = m.2.or s.cursor

theorem Follows.trans {t : Selection} {m : Moved} (h : Follows s (t, none)) (hnext : Follows t m) : Follows s m where
  valid := hnext.valid
  itemCount_eq := hnext.itemCount_eq.trans h.itemCount_eq
  cursor_eq := by
    have hcursor : t.cursor = s.cursor := h.cursor_eq
    rw [hnext.cursor_eq, hcursor]

/-! ## Scrolling and moving -/

theorem Fits.setTop (h : s.Fits) (row : Int) : Follows s (s.setTop row, none) where
  valid := {
    columns_pos := h.columns_pos
    rowHeight_pos := h.rowHeight_pos
    itemCount_nonneg := h.itemCount_nonneg
    cursor_eq_none_iff := h.cursor_eq_none_iff
    cursor_bounds := h.cursor_bounds
    top_nonneg := le_min (le_max_right _ _) s.maxTop_nonneg
    top_le := min_le_right _ _ }
  itemCount_eq := rfl
  cursor_eq := rfl

theorem Valid.stay (h : s.Valid) : Follows s (s, none) :=
  ⟨h, rfl, rfl⟩

theorem Valid.showCursor (h : s.Valid) : Follows s (s.showCursor, none) := by
  unfold Selection.showCursor
  split
  · exact h.stay
  · -- Wherever the cursor stands, it is at most the scrolling that changes.
    simp only
    split
    · exact h.toFits.setTop _
    · split
      · exact h.toFits.setTop _
      · exact h.stay

/-- Scrolled to where it can be, with the cursor on screen. -/
theorem Fits.refit (h : s.Fits) : Follows s ((s.setTop s.top).showCursor, none) :=
  (h.setTop s.top).trans (h.setTop s.top).valid.showCursor

/-- In a list of another length, with a cursor in it. -/
theorem Fits.relist (h : s.Fits) {count cursor : Int} (hlow : 0 ≤ cursor) (hhigh : cursor < count) :
    ({ s with itemCount := count, cursor := some cursor } : Selection).Fits where
  columns_pos := h.columns_pos
  rowHeight_pos := h.rowHeight_pos
  itemCount_nonneg := by
    show 0 ≤ count
    omega
  cursor_eq_none_iff := by
    refine ⟨(fun hnone => nomatch hnone), fun hcount => ?_⟩
    change count = 0 at hcount
    omega
  cursor_bounds := by
    rintro _ ⟨⟩
    exact ⟨hlow, hhigh⟩

/-- Any entry can be chosen, or else the nearest one that there is. -/
theorem Fits.choose (h : s.Fits) (hsome : s.itemCount ≠ 0) (index : Int) :
    ({ s with cursor := some (min (max index 0) (s.itemCount - 1)) } : Selection).Fits := by
  have hpos := h.itemCount_nonneg
  exact h.relist (by omega) (by omega)

theorem select_of_empty (hempty : s.itemCount = 0) (index : Int) : s.select index = (s, none) := by
  rw [Selection.select, if_pos (by simpa [isEmpty] using hempty)]

theorem select_of_some (hsome : s.itemCount ≠ 0) (index : Int) :
    s.select index =
      (({ s with cursor := some (min (max index 0) (s.itemCount - 1)) } : Selection).showCursor,
        some (min (max index 0) (s.itemCount - 1))) := by
  rw [Selection.select, if_neg (by simpa [isEmpty] using hsome)]

theorem Valid.select (h : s.Valid) (index : Int) : Follows s (s.select index) := by
  by_cases hempty : s.itemCount = 0
  · rw [select_of_empty hempty]
    exact h.stay
  · rw [select_of_some hempty]
    have hchosen : ({ s with cursor := some (min (max index 0) (s.itemCount - 1)) } : Selection).Valid :=
      { h.toFits.choose hempty index with top_nonneg := h.top_nonneg, top_le := h.top_le }
    have hshown := hchosen.showCursor
    exact ⟨hshown.valid, hshown.itemCount_eq, hshown.cursor_eq⟩

/-! ## What a move can come to -/

/-- Whatever a move depends on, it comes to nothing, to a scroll, to the choice of an entry or to both. -/
inductive Move (s : Selection) : Moved → Prop where
  | stay : Move s (s, none)
  | showCursor : Move s (s.showCursor, none)
  | setTop (row : Int) : Move s (s.setTop row, none)
  | select (index : Int) : Move s (s.select index)
  | scrollAndSelect (row index : Int) : Move s ((s.setTop row).select index)

theorem Move.ite {p : Prop} [Decidable p] {yes no : Moved} (hyes : Move s yes) (hno : Move s no) :
    Move s (if p then yes else no) := by
  split
  · exact hyes
  · exact hno

/-- A move that depends on the cursor; without one there is none. -/
theorem Move.of_cursor {next : Int → Moved} (hnext : ∀ cursor, Move s (next cursor)) :
    Move s (match s.cursor with
      | none => (s, none)
      | some cursor => next cursor) := by
  split
  · exact .stay
  · exact hnext _

/-- The operations that are given another list or another screen; all others are moves. -/
def Op.Refits : Op → Prop
  | .setViewport _ _ => True
  | .reset _ => True
  | _ => False

theorem Op.move {op : Op} (hop : ¬op.Refits) (s : Selection) :
    Move s ((op.apply s).selection, (op.apply s).picked) := by
  cases op with
  | select index => exact .select index
  | down wrap => exact .of_cursor fun _ => .ite (.select _) .stay
  | up wrap => exact .of_cursor fun _ => .ite (.select _) .stay
  | right wrap => exact .of_cursor fun _ => .ite .stay (.ite (.select _) .stay)
  | left wrap => exact .of_cursor fun _ => .ite .stay (.ite (.select _) .stay)
  | pageDown => exact .of_cursor fun _ => .ite (.scrollAndSelect _ _) .stay
  | pageUp => exact .of_cursor fun _ => .ite (.scrollAndSelect _ _) .stay
  | setTop row => exact .setTop row
  | setBottom row => exact .setTop _
  | setViewport height rowHeight => exact absurd trivial hop
  | showCursor => exact .showCursor
  | reset count => exact absurd trivial hop

theorem Op.passes {op : Op} (hop : ¬op.Refits) (s : Selection) : (op.apply s).failure = none := by
  cases op with
  | setViewport height rowHeight => exact absurd trivial hop
  | reset count => exact absurd trivial hop
  | _ => rfl

theorem exists_showCursor_eq (s : Selection) : ∃ top, s.showCursor = { s with top } := by
  unfold showCursor
  split
  · exact ⟨s.top, rfl⟩
  · simp only
    split
    · exact ⟨_, rfl⟩
    · split
      · exact ⟨_, rfl⟩
      · exact ⟨s.top, rfl⟩

theorem exists_select_eq (s : Selection) (index : Int) : ∃ cursor top, (s.select index).1 = { s with cursor, top } := by
  by_cases hempty : s.itemCount = 0
  · rw [select_of_empty hempty]
    exact ⟨s.cursor, s.top, rfl⟩
  · obtain ⟨top, hshown⟩ :=
      exists_showCursor_eq { s with cursor := some (min (max index 0) (s.itemCount - 1)) }
    rw [select_of_some hempty, hshown]
    exact ⟨_, _, rfl⟩

/-- All that a move changes are the cursor and the scrolling. -/
theorem Move.exists_eq {m : Moved} (h : Move s m) : ∃ cursor top, m.1 = { s with cursor, top } := by
  cases h with
  | stay => exact ⟨s.cursor, s.top, rfl⟩
  | showCursor =>
      obtain ⟨top, hshown⟩ := exists_showCursor_eq s
      exact ⟨s.cursor, top, hshown⟩
  | setTop row => exact ⟨s.cursor, _, rfl⟩
  | select index => exact exists_select_eq s index
  | scrollAndSelect row index => exact exists_select_eq (s.setTop row) index

theorem Valid.move (h : s.Valid) {m : Moved} (hmove : Move s m) : Follows s m := by
  cases hmove with
  | stay => exact h.stay
  | showCursor => exact h.showCursor
  | setTop row => exact h.toFits.setTop row
  | select index => exact h.select index
  | scrollAndSelect row index => exact (h.toFits.setTop row).trans ((h.toFits.setTop row).valid.select index)

/-! ## Operations -/

/-- The cursor in a list of another length: it keeps its entry, or takes the last one of the new list, or the first if
there was no entry. -/
def keptCursor (s : Selection) (count : Int) : Int :=
  match s.cursor with
  | none => 0
  | some cursor => min cursor (count - 1)

theorem Fits.keptCursor (h : s.Fits) {count : Int} (hcount : 0 < count) :
    0 ≤ s.keptCursor count ∧ s.keptCursor count < count := by
  unfold Selection.keptCursor
  split
  · omega
  · rename_i cursor hcursor
    have hbounds := h.cursor_bounds cursor hcursor
    omega

theorem reset_of_pos {count : Int} (hcount : 0 < count) :
    s.reset count =
      .ok (({ s with itemCount := count, cursor := some (s.keptCursor count) } : Selection).setTop s.top).showCursor := by
  rw [reset, if_neg (by omega), if_neg (by omega)]
  rfl

theorem exists_reset_eq {count : Int} {t : Selection} (hreset : s.reset count = .ok t) :
    ∃ cursor top, t = { s with itemCount := count, cursor, top } := by
  rcases lt_trichotomy count 0 with hneg | hzero | hpos
  · rw [reset, if_pos hneg] at hreset
    cases hreset
  · rw [reset, if_neg (by omega), if_pos hzero] at hreset
    cases hreset
    exact ⟨none, 0, by rw [hzero]⟩
  · rw [reset_of_pos hpos] at hreset
    cases hreset
    obtain ⟨top, hshown⟩ := exists_showCursor_eq
      (({ s with itemCount := count, cursor := some (s.keptCursor count) } : Selection).setTop s.top)
    exact ⟨_, top, hshown⟩

/-- Whatever is done but a change of the screen, the list keeps its columns and its screen. -/
theorem exists_apply_eq {op : Op} (hscreen : ∀ height rowHeight, op ≠ .setViewport height rowHeight) (s : Selection) :
    ∃ itemCount cursor top, (op.apply s).selection = { s with itemCount, cursor, top } := by
  by_cases hrefits : op.Refits
  · cases op with
    | setViewport height rowHeight => exact absurd rfl (hscreen height rowHeight)
    | reset count =>
        cases hreset : s.reset count with
        | ok t =>
            obtain ⟨cursor, top, hset⟩ := exists_reset_eq hreset
            exact ⟨count, cursor, top, by simpa only [Op.apply, hreset] using hset⟩
        | error failure => exact ⟨s.itemCount, s.cursor, s.top, by simp only [Op.apply, hreset]⟩
    | _ => exact hrefits.elim
  · obtain ⟨cursor, top, hmoved⟩ := (Op.move hrefits s).exists_eq
    exact ⟨s.itemCount, cursor, top, hmoved⟩

theorem reset_eq_ok {count : Int} {t : Selection} (h : s.Fits) (hreset : s.reset count = .ok t) :
    t.Valid ∧ t.itemCount = count := by
  rcases lt_trichotomy count 0 with hneg | hzero | hpos
  · rw [reset, if_pos hneg] at hreset
    cases hreset
  · rw [reset, if_neg (by omega), if_pos hzero] at hreset
    cases hreset
    subst hzero
    exact ⟨{ h with
      itemCount_nonneg := le_rfl
      cursor_eq_none_iff := iff_of_true rfl rfl
      cursor_bounds := fun _ hcursor => nomatch hcursor
      top_nonneg := le_rfl
      top_le := maxTop_nonneg _ }, rfl⟩
  · rw [reset_of_pos hpos] at hreset
    cases hreset
    have hkept := h.keptCursor hpos
    have hrefit := (h.relist hkept.1 hkept.2).refit
    exact ⟨hrefit.valid, hrefit.itemCount_eq⟩

/-- With another screen. -/
theorem Fits.resize (h : s.Fits) (height : Int) {rowHeight : Int} (hrow : 1 ≤ rowHeight) :
    ({ s with viewportHeight := height, rowHeight } : Selection).Fits where
  columns_pos := h.columns_pos
  rowHeight_pos := hrow
  itemCount_nonneg := h.itemCount_nonneg
  cursor_eq_none_iff := h.cursor_eq_none_iff
  cursor_bounds := h.cursor_bounds

/-- Rows that are given no height keep the one they have. -/
theorem setViewport_of_pos (height : Int) {rowHeight : Option Int} (hrow : 1 ≤ rowHeight.getD s.rowHeight) :
    s.setViewport height rowHeight =
      ((({ s with viewportHeight := height, rowHeight := rowHeight.getD s.rowHeight } : Selection).setTop
        s.top).showCursor, none) := by
  cases rowHeight with
  | none => rfl
  | some rowHeight =>
      rw [Option.getD_some] at hrow
      simp only [Selection.setViewport, if_neg (show ¬rowHeight < 1 by omega), Option.getD_some]

theorem Fits.setViewport (h : s.Fits) {height : Int} {rowHeight : Option Int}
    (hpassed : (s.setViewport height rowHeight).2 = none) :
    Follows s ((s.setViewport height rowHeight).1, none) := by
  have hrow : 1 ≤ rowHeight.getD s.rowHeight := by
    cases rowHeight with
    | none => exact h.rowHeight_pos
    | some rowHeight =>
        by_contra hlow
        simp [Selection.setViewport, show rowHeight < 1 by simpa using hlow] at hpassed
  rw [setViewport_of_pos height hrow]
  have hrefit := (h.resize height hrow).refit
  exact ⟨hrefit.valid, hrefit.itemCount_eq, hrefit.cursor_eq⟩

/-- An operation that passes and does not change the length of the list. -/
theorem Valid.follows (h : s.Valid) {op : Op} (hop : ∀ count, op ≠ .reset count)
    (hpassed : (op.apply s).failure = none) : Follows s ((op.apply s).selection, (op.apply s).picked) := by
  by_cases hrefits : op.Refits
  · cases op with
    | setViewport height rowHeight => exact h.toFits.setViewport hpassed
    | reset count => exact absurd rfl (hop count)
    | _ => exact hrefits.elim
  · exact h.move (Op.move hrefits s)

theorem Valid.apply (h : s.Valid) {op : Op} (hpassed : (op.apply s).failure = none) : (op.apply s).selection.Valid := by
  cases op with
  | reset count =>
      cases hreset : s.reset count with
      | ok t =>
          simp only [Op.apply, hreset]
          exact (reset_eq_ok h.toFits hreset).1
      | error failure => simp [Op.apply, hreset] at hpassed
  | _ => exact (h.follows (by simp) hpassed).valid

/-! ## Runs -/

/-- What operations in a row come to, unless one of them fails. -/
def run : List Op → Selection → Except Failure Selection
  | [], s => .ok s
  | op :: rest, s =>
      match (op.apply s).failure with
      | none => run rest (op.apply s).selection
      | some failure => .error failure

theorem Valid.run (h : s.Valid) {ops : List Op} {t : Selection} (hrun : Selection.run ops s = .ok t) : t.Valid := by
  induction ops generalizing s with
  | nil =>
      cases hrun
      exact h
  | cons op rest ih =>
      rw [Selection.run] at hrun
      cases hpassed : (op.apply s).failure with
      | none =>
          rw [hpassed] at hrun
          exact ih (h.apply hpassed) hrun
      | some failure =>
          rw [hpassed] at hrun
          cases hrun

theorem exists_reset (h : s.Valid) {count : Int} (hcount : 0 ≤ count) :
    ∃ t, s.reset count = .ok t ∧ t.Valid ∧ t.itemCount = count := by
  cases hreset : s.reset count with
  | ok t => exact ⟨t, rfl, reset_eq_ok h.toFits hreset⟩
  | error failure =>
      unfold reset at hreset
      rw [if_neg (by omega)] at hreset
      split at hreset <;> cases hreset

theorem valid_empty {columns rowHeight : Int} (viewportHeight : Int) (hcolumns : 1 ≤ columns) (hrow : 1 ≤ rowHeight) :
    ({ columns, viewportHeight, rowHeight } : Selection).Valid where
  columns_pos := hcolumns
  rowHeight_pos := hrow
  itemCount_nonneg := le_rfl
  cursor_eq_none_iff := iff_of_true rfl rfl
  cursor_bounds := fun _ hcursor => nomatch hcursor
  top_nonneg := le_rfl
  top_le := maxTop_nonneg _

/-- A list can be made of any length, with any number of columns and any height of its rows. -/
theorem exists_make {columns rowHeight itemCount : Int} (viewportHeight : Int) (hcolumns : 1 ≤ columns)
    (hrow : 1 ≤ rowHeight) (hcount : 0 ≤ itemCount) :
    ∃ s, make columns viewportHeight rowHeight itemCount = .ok s ∧ s.Valid := by
  obtain ⟨s, hreset, hvalid, -⟩ := exists_reset (valid_empty viewportHeight hcolumns hrow) hcount
  refine ⟨s, ?_, hvalid⟩
  rw [make, if_neg (by omega), if_neg (by omega), hreset]

theorem Valid.of_make {columns viewportHeight rowHeight itemCount : Int}
    (hmake : make columns viewportHeight rowHeight itemCount = .ok s) : s.Valid := by
  unfold make at hmake
  split at hmake
  · cases hmake
  · split at hmake
    · cases hmake
    · exact (reset_eq_ok (valid_empty viewportHeight (by omega) (by omega)).toFits hmake).1

theorem exists_make_eq {columns viewportHeight rowHeight itemCount : Int}
    (hmake : make columns viewportHeight rowHeight itemCount = .ok s) :
    ∃ cursor top, s = { columns, viewportHeight, rowHeight, itemCount, cursor, top } := by
  unfold make at hmake
  split at hmake
  · cases hmake
  · split at hmake
    · cases hmake
    · exact exists_reset_eq hmake

/-! ## What is on screen -/

/-- The rows on screen: the list is scrolled no further than leaves the screen full, if there are rows enough. -/
theorem Valid.top_add (h : s.Valid) :
    s.top + min s.rowCount s.visibleRows = min s.rowCount (s.top + s.visibleRows) := by
  have hnonneg := h.top_nonneg
  have hle := h.top_le
  unfold maxTop at hle
  omega

theorem isVisible_iff (hcolumns : 1 ≤ s.columns) {index : Int} :
    s.isVisible index = true ↔
      index < s.itemCount ∧ s.top ≤ s.rowOf index ∧ s.rowOf index < s.top + s.visibleRows := by
  rw [le_rowOf_iff hcolumns, rowOf_lt_iff hcolumns, Int.add_mul, isVisible, Bool.and_eq_true, decide_eq_true_iff,
    decide_eq_true_iff]
  unfold endIndex firstIndex
  omega

/-- An entry is on screen just when its row is one of those that fit. -/
theorem Valid.isVisible_iff_row (h : s.Valid) {index : Int} (hindex : index < s.itemCount) :
    s.isVisible index = true ↔
      s.top ≤ s.rowOf index ∧ s.rowOf index < s.top + min s.rowCount s.visibleRows := by
  have hrow : s.rowOf index < s.rowCount :=
    (lt_rowCount_iff h.columns_pos).2 (lt_of_le_of_lt ((le_rowOf_iff h.columns_pos).1 le_rfl) hindex)
  rw [isVisible_iff h.columns_pos, h.top_add]
  omega

/-- What is on screen lies in the list, and makes up as many rows as there are or fit, each with all its entries. -/
structure ShowsRows (s : Selection) : Prop where
  nonempty : s.firstIndex < s.endIndex
  firstIndex_nonneg : 0 ≤ s.firstIndex
  endIndex_le : s.endIndex ≤ s.itemCount
  rows_eq : (Finset.Ico s.firstIndex s.endIndex).image s.rowOf =
    Finset.Ico s.top (s.top + min s.rowCount s.visibleRows)
  isVisible : ∀ index, 0 ≤ index → index < s.itemCount → s.top ≤ s.rowOf index →
    s.rowOf index < s.top + min s.rowCount s.visibleRows → s.isVisible index = true

theorem mem_shown_iff {index : Int} : index ∈ Finset.Ico s.firstIndex s.endIndex ↔ s.isVisible index = true := by
  rw [Finset.mem_Ico, isVisible, Bool.and_eq_true, decide_eq_true_iff, decide_eq_true_iff]

theorem Valid.showsRows (h : s.Valid) (hitems : s.itemCount ≠ 0) : s.ShowsRows := by
  have hend : s.endIndex ≤ s.itemCount := min_le_left _ _
  -- The first entry of a row on screen is on screen itself, so no row is missing.
  have hfirst : ∀ row, s.top ≤ row → row < s.top + min s.rowCount s.visibleRows →
      s.isVisible (row * s.columns) = true ∧ s.rowOf (row * s.columns) = row := by
    intro row hlow hhigh
    have hrow : s.rowOf (row * s.columns) = row :=
      Int.mul_ediv_cancel row (by have := h.columns_pos; omega)
    have hindex : row * s.columns < s.itemCount := by
      rw [h.top_add] at hhigh
      exact (lt_rowCount_iff h.columns_pos).1 (by omega)
    exact ⟨(h.isVisible_iff_row hindex).2 (by omega), hrow⟩
  have hrows : 0 < s.rowCount := by
    have hcount := h.itemCount_nonneg
    exact (lt_rowCount_iff h.columns_pos).2 (by omega)
  have htop := visibleRows_pos s
  refine ⟨?_, Int.mul_nonneg h.top_nonneg (by have := h.columns_pos; omega), hend, ?_, ?_⟩
  · have hmem := Finset.mem_Ico.1 (mem_shown_iff.2 (hfirst s.top le_rfl (by omega)).1)
    exact lt_of_le_of_lt hmem.1 hmem.2
  · ext row
    rw [Finset.mem_image, Finset.mem_Ico]
    constructor
    · rintro ⟨index, hindex, rfl⟩
      have hlt := (Finset.mem_Ico.1 hindex).2
      exact (h.isVisible_iff_row (by omega)).1 (mem_shown_iff.1 hindex)
    · rintro ⟨hlow, hhigh⟩
      obtain ⟨hvisible, hrow⟩ := hfirst row hlow hhigh
      exact ⟨_, mem_shown_iff.2 hvisible, hrow⟩
  · exact fun index _ hindex hlow hhigh => (h.isVisible_iff_row hindex).2 ⟨hlow, hhigh⟩

/-! ## Any run of operations -/

/-- A list can be made with any number of columns, any height of its rows and any length. Whatever is then done to it,
as long as nothing is refused, the cursor is an entry of the list, if there is one, the list is scrolled no further than
it goes, and what is on screen are as many whole rows as there are or fit. -/
theorem run_in_bounds (columns viewportHeight rowHeight itemCount : Int) (hcolumns : 1 ≤ columns) (hrow : 1 ≤ rowHeight)
    (hcount : 0 ≤ itemCount) :
    ∃ start, make columns viewportHeight rowHeight itemCount = .ok start ∧ ∀ ops s, run ops start = .ok s →
      (s.cursor = none ↔ s.itemCount = 0) ∧ (∀ cursor, s.cursor = some cursor → 0 ≤ cursor ∧ cursor < s.itemCount) ∧
        0 ≤ s.top ∧ s.top ≤ s.maxTop ∧ (s.itemCount ≠ 0 → s.ShowsRows) := by
  obtain ⟨start, hmake, hstart⟩ := exists_make viewportHeight hcolumns hrow hcount
  refine ⟨start, hmake, fun ops s hrun => ?_⟩
  have hvalid := hstart.run hrun
  exact ⟨hvalid.cursor_eq_none_iff, hvalid.cursor_bounds, hvalid.top_nonneg, hvalid.top_le, hvalid.showsRows⟩

end Crafting.Selection

namespace Crafting.Sample

open Selection

/-- A list of eleven entries in three columns is paged through, shrinks, and loses all but one line of its screen. -/
def turns : List Op :=
  [.pageDown, .down true, .left true, .reset 8, .up true, .setBottom 9, .setViewport (-7) (some 5), .showCursor]

def turned : Selection where
  columns := 3
  viewportHeight := -7
  rowHeight := 5
  itemCount := 8
  cursor := some 4
  top := 1

theorem turns_in_bounds :
    (1 : Int) ≤ 3 ∧ (1 : Int) ≤ 20 ∧ (0 : Int) ≤ 11 ∧
      ∃ start, make 3 50 20 11 = .ok start ∧ run turns start = .ok turned ∧ 0 ≤ turned.top ∧
        turned.top ≤ turned.maxTop ∧ turned.ShowsRows := by
  refine ⟨by decide, by decide, by decide, ?_⟩
  obtain ⟨start, hmake, hbounds⟩ := run_in_bounds 3 50 20 11 (by decide) (by decide) (by decide)
  have hrun : run turns start = .ok turned := by
    cases hmake
    decide
  obtain ⟨-, -, htop, hle, hshows⟩ := hbounds turns turned hrun
  exact ⟨start, hmake, hrun, htop, hle, hshows (by decide)⟩

-- A refused change of the screen keeps the new height all the same, so the list can stay scrolled too far.
example :
    let outcome := (Op.setViewport 80 (some 0)).apply { turned with viewportHeight := 5, cursor := some 7, top := 2 }
    outcome.failure = some .rowHeight ∧ outcome.selection.maxTop < outcome.selection.top := by
  decide

end Crafting.Sample
