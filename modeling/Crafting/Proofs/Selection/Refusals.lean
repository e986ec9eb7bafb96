import Crafting.Proofs.Selection

/-!
# Refused operations

An operation on a selection can be refused: a negative length, or rows without a height. What a refusal leaves behind
is the selection as it was but for the height of the screen, which a refused change of the screen keeps. So a list can
stay scrolled further than it goes, though never above its first row.
-/

namespace Crafting.Selection

variable {s : Selection}

/-! ## What is refused -/

inductive Op.Refused : Op → Prop where
  | reset {count : Int} (hcount : count < 0) : Refused (.reset count)
  | setViewport (height : Int) {rowHeight : Int} (hrow : rowHeight < 1) : Refused (.setViewport height (some rowHeight))

/-- Whether an operation is refused does not depend on what it is done to. -/
theorem Op.failure_ne_none_iff {op : Op} : (op.apply s).failure ≠ none ↔ op.Refused := by
  constructor
  · intro hfailed
    cases op with
    | reset count =>
        rcases lt_trichotomy count 0 with hneg | hzero | hpos
        · exact .reset hneg
        · simp [Op.apply, Selection.reset, hzero] at hfailed
        · simp [Op.apply, reset_of_pos hpos] at hfailed
    | setViewport height rowHeight =>
        cases rowHeight with
        | none => exact absurd rfl hfailed
        | some rowHeight =>
            by_cases hrow : rowHeight < 1
            · exact .setViewport height hrow
            · simp [Op.apply, Selection.setViewport, hrow] at hfailed
    | _ => exact absurd rfl hfailed
  · intro hrefused
    cases hrefused with
    | reset hcount => simp [Op.apply, Selection.reset, hcount]
    | setViewport height hrow => simp [Op.apply, Selection.setViewport, hrow]

/-! ## What a refusal leaves behind -/

/-- The height of the screen after an operation, refused or not. -/
def Op.heightAfter (s : Selection) : Op → Int
  | .setViewport height _ => height
  | _ => s.viewportHeight

theorem Op.Refused.selection {op : Op} (h : op.Refused) (s : Selection) :
    (op.apply s).selection = { s with viewportHeight := op.heightAfter s } := by
  cases h with
  | reset hcount => simp [Op.apply, Selection.reset, hcount, Op.heightAfter]
  | setViewport height hrow => simp [Op.apply, Selection.setViewport, hrow, Op.heightAfter]

theorem Op.Refused.selection_eq_iff {op : Op} (h : op.Refused) :
    (op.apply s).selection = s ↔ op.heightAfter s = s.viewportHeight := by
  rw [h.selection]
  constructor
  · intro hsame
    exact congrArg Selection.viewportHeight hsame
  · intro hheight
    rw [hheight]

/-! ## Runs that go on after a refusal -/

/-- The selection after operations in a row, where the next one is done even if the one before it was refused. -/
def after : List Op → Selection → Selection
  | [], s => s
  | op :: rest, s => after rest (op.apply s).selection

/-- The operations of a run that are not refused. -/
def accepted : List Op → Selection → List Op
  | [], _ => []
  | op :: rest, s =>
      match (op.apply s).failure with
      | none => op :: accepted rest (op.apply s).selection
      | some _ => accepted rest (op.apply s).selection

/-- Each refused change of the screen names the height that the screen has already. -/
def Harmless : List Op → Selection → Prop
  | [], _ => True
  | op :: rest, s => (op.Refused → op.heightAfter s = s.viewportHeight) ∧ Harmless rest (op.apply s).selection

/-- Harmless refusals might as well not have been tried. -/
theorem run_accepted {ops : List Op} (h : Harmless ops s) : run (accepted ops s) s = .ok (after ops s) := by
  induction ops generalizing s with
  | nil => rfl
  | cons op rest ih =>
      obtain ⟨hop, hrest⟩ := h
      cases hpassed : (op.apply s).failure with
      | none =>
          simp only [accepted, hpassed, run]
          exact ih hrest
      | some failure =>
          have hrefused : op.Refused := Op.failure_ne_none_iff.1 (by rw [hpassed]; exact Option.some_ne_none failure)
          have hsame : (op.apply s).selection = s := hrefused.selection_eq_iff.2 (hop hrefused)
          rw [hsame] at hrest
          simp only [accepted, hpassed, after, hsame]
          exact ih hrest

/-! ## What holds after any refusals -/

/-- A selection in bounds, but for that it may be scrolled too far down. -/
structure Placed (s : Selection) : Prop extends Fits s where
  top_nonneg : 0 ≤ s.top

theorem Valid.placed (h : s.Valid) : s.Placed :=
  { h with }

theorem Placed.showCursor (h : s.Placed) : s.showCursor.Placed := by
  unfold Selection.showCursor
  split
  · exact h
  · simp only
    split
    · exact (h.toFits.setTop _).valid.placed
    · split
      · exact (h.toFits.setTop _).valid.placed
      · exact h

theorem Placed.select (h : s.Placed) (index : Int) : (s.select index).1.Placed := by
  by_cases hempty : s.itemCount = 0
  · rw [select_of_empty hempty]
    exact h
  · rw [select_of_some hempty]
    have hchosen : ({ s with cursor := some (min (max index 0) (s.itemCount - 1)) } : Selection).Placed :=
      { h.toFits.choose hempty index with top_nonneg := h.top_nonneg }
    exact hchosen.showCursor

theorem Placed.move (h : s.Placed) {m : Moved} (hmove : Move s m) : m.1.Placed := by
  cases hmove with
  | stay => exact h
  | showCursor => exact h.showCursor
  | setTop row => exact (h.toFits.setTop row).valid.placed
  | select index => exact h.select index
  | scrollAndSelect row index => exact (h.toFits.setTop row).valid.placed.select index

/-- Each operation keeps a selection placed, whether it is refused or not. -/
theorem Placed.apply (h : s.Placed) (op : Op) : (op.apply s).selection.Placed := by
  -- Only a new length or a new screen can be refused; all other operations are moves.
  by_cases hrefits : op.Refits
  · by_cases hrefused : op.Refused
    · rw [hrefused.selection]
      exact { h with }
    · have hpassed : (op.apply s).failure = none := by
        by_contra hfailed
        exact hrefused (Op.failure_ne_none_iff.1 hfailed)
      cases op with
      | setViewport height rowHeight => exact (h.toFits.setViewport hpassed).valid.placed
      | reset count =>
          cases hreset : s.reset count with
          | ok t =>
              simp only [Op.apply, hreset]
              exact (reset_eq_ok h.toFits hreset).1.placed
          | error failure => simp [Op.apply, hreset] at hpassed
      | _ => exact hrefits.elim
  · exact h.move (Op.move hrefits s)

theorem Placed.after (h : s.Placed) (ops : List Op) : (after ops s).Placed := by
  induction ops generalizing s with
  | nil => exact h
  | cons op rest ih => exact ih (h.apply op)

/-- A refusal leaves the list scrolled too far unless so much of it is left below that the screen stays full. -/
theorem Placed.top_le_maxTop_iff (h : s.Placed) :
    s.top ≤ s.maxTop ↔ s.top = 0 ∨ s.top + s.visibleRows ≤ s.rowCount := by
  have hnonneg := h.top_nonneg
  unfold maxTop
  omega

/-- What is refused, and what a refusal changes, for any list that was made and any operations done to it before,
refused or not. A negative length and a height of rows below one are refused, and nothing else. All that the refusal
can change is the height of the screen: the selection stays as it was just when the refused operation names the height
that the screen has, or none. The list stays scrolled no further than it goes just when it is not scrolled, or there
are rows enough for the new height. And as long as each refused operation before has left the height alone, the
selection is the one that the accepted operations lead to, and in bounds. -/
theorem refused_keeps_iff {columns viewportHeight rowHeight itemCount : Int} {start : Selection}
    (hmake : make columns viewportHeight rowHeight itemCount = .ok start) (ops : List Op) :
    (∀ op : Op, (op.apply (after ops start)).failure ≠ none ↔ op.Refused) ∧
      (∀ op : Op, op.Refused →
        let s := after ops start
        let t := (op.apply s).selection
        t = { s with viewportHeight := op.heightAfter s } ∧ (t = s ↔ op.heightAfter s = s.viewportHeight) ∧
          0 ≤ t.top ∧ (t.top ≤ t.maxTop ↔ s.top = 0 ∨ s.top + t.visibleRows ≤ s.rowCount)) ∧
      (Harmless ops start →
        run (accepted ops start) start = .ok (after ops start) ∧
          0 ≤ (after ops start).top ∧ (after ops start).top ≤ (after ops start).maxTop) := by
  have hstart : start.Valid := .of_make hmake
  refine ⟨fun op => Op.failure_ne_none_iff, fun op hop => ?_, fun hharmless => ?_⟩
  · have hplaced := (hstart.placed.after ops).apply op
    refine ⟨hop.selection _, hop.selection_eq_iff, hplaced.top_nonneg, ?_⟩
    -- Neither the first row on screen nor the number of rows depends on the height of the screen.
    have hbound := hplaced.top_le_maxTop_iff
    rw [hop.selection] at hbound ⊢
    exact hbound
  · have hrun := run_accepted hharmless
    have hvalid := hstart.run hrun
    exact ⟨hrun, hvalid.top_nonneg, hvalid.top_le⟩

end Crafting.Selection

namespace Crafting.Sample

open Selection

/-- A list of five entries, of which one is on screen, with the last one chosen. -/
def lastOfFive : Selection where
  columns := 1
  viewportHeight := 10
  rowHeight := 10
  itemCount := 5
  cursor := some 4
  top := 4

/-- A screen for all five entries is refused for its rows, and the list is left scrolled past its end. -/
theorem refusal_overscrolls :
    ∃ start, make 1 10 10 5 = .ok start ∧ after [.select 4] start = lastOfFive ∧
      (Op.setViewport 50 (some 0)).Refused ∧
      let t := ((Op.setViewport 50 (some 0)).apply lastOfFive).selection
      t = { lastOfFive with viewportHeight := 50 } ∧ t ≠ lastOfFive ∧ t.maxTop < t.top := by
  obtain ⟨start, hmake⟩ : ∃ start, make 1 10 10 5 = .ok start := ⟨_, rfl⟩
  have hrefused : (Op.setViewport 50 (some 0)).Refused := .setViewport 50 (by decide)
  have hlast : after [.select 4] start = lastOfFive := by
    cases hmake
    decide
  obtain ⟨-, hkeeps, -⟩ := refused_keeps_iff hmake [.select 4]
  obtain ⟨hleft, hsame, -, hbound⟩ := hkeeps _ hrefused
  rw [hlast] at hleft hsame hbound
  refine ⟨start, hmake, hlast, hrefused, hleft, fun heq => ?_, ?_⟩
  · exact absurd (hsame.1 heq) (by decide)
  · exact not_le.1 fun hle => absurd (hbound.1 hle) (by decide)

end Crafting.Sample
