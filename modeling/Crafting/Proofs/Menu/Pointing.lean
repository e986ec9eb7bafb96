import Crafting.Proofs.Delivery
import Crafting.Proofs.Menu.InStep

/-!
# Pointing at the menu

Where coordinates are kept as they are, the entries on screen lie in cells of one size, which keep clear of one another
and inside the list. So a point shows at most one entry, and a click there hits that one, however the list is moved and
filled.
-/

namespace Crafting

theorem Screen.Rect.contains_iff {rect : Screen.Rect} (hgrid : rect.grid = .exact) {px py : Int} :
    rect.contains px py = true ↔
      (rect.x ≤ px ∧ px < rect.x + rect.width) ∧ rect.y ≤ py ∧ py < rect.y + rect.height := by
  have hright : rect.right = rect.x + rect.width := by rw [Screen.Rect.right, hgrid, Screen.Grid.keep]
  have hbottom : rect.bottom = rect.y + rect.height := by rw [Screen.Rect.bottom, hgrid, Screen.Grid.keep]
  rw [Screen.Rect.contains, hright, hbottom]
  simp only [Bool.and_eq_true, decide_eq_true_eq, and_assoc]

namespace Menu

variable {menu : Menu} {index x y : Int}

/-! ## Strips -/

/-- The offset lies in that strip, of strips side by side and of one size. -/
def InStrip (size strip offset : Int) : Prop :=
  strip * size ≤ offset ∧ offset < strip * size + size

namespace InStrip

variable {size strip offset : Int}

theorem size_pos (h : InStrip size strip offset) : 0 < size := by
  obtain ⟨hlow, hhigh⟩ := h
  omega

/-- The strip is found by division. -/
theorem ediv_eq (h : InStrip size strip offset) : offset / size = strip := by
  have hnext : offset / size < strip + 1 :=
    (Int.ediv_lt_iff_lt_mul h.size_pos).2 (by rw [Int.add_mul, Int.one_mul]; exact h.2)
  exact le_antisymm (by omega) ((Int.le_ediv_iff_mul_le h.size_pos).2 h.1)

/-- What lies in one of the first strips lies within whatever has room for them. -/
theorem bounds (h : InStrip size strip offset) (hlow : 0 ≤ strip) {count room : Int} (hhigh : strip < count)
    (hroom : count * size ≤ room) : 0 ≤ offset ∧ offset < room := by
  have hbefore := Int.mul_nonneg hlow h.size_pos.le
  have hnext : (strip + 1) * size ≤ count * size := Int.mul_le_mul_of_nonneg_right (by omega) h.size_pos.le
  rw [Int.add_mul, Int.one_mul] at hnext
  exact ⟨hbefore.trans h.1, h.2.trans_le (hnext.trans hroom)⟩

end InStrip

/-! ## Cells -/

def columnWidth (menu : Menu) : Int :=
  menu.listRect.width / menu.selection.columns

/-- The row of an entry, counted from the first one on screen. -/
def rowShown (menu : Menu) (index : Int) : Int :=
  menu.selection.rowOf index - menu.selection.top

/-- The cell of an entry, with its coordinates as they are. -/
def cell (menu : Menu) (index : Int) : Screen.Rect where
  x := menu.listRect.x + index % menu.selection.columns * menu.columnWidth
  y := menu.listRect.y + menu.rowShown index * menu.rowHeight
  width := menu.columnWidth
  height := menu.rowHeight
  grid := .exact

theorem itemRect_of_exact (hgrid : menu.rect.grid = .exact) (index : Int) :
    menu.itemRect index = .ok (menu.cell index) := by
  simp only [itemRect, Screen.Rect.make, hgrid, Screen.Grid.coordinate_exact]
  rfl

theorem contains_cell_iff :
    (menu.cell index).contains x y = true ↔
      InStrip menu.columnWidth (index % menu.selection.columns) (x - menu.listRect.x) ∧
        InStrip menu.rowHeight (menu.rowShown index) (y - menu.listRect.y) := by
  rw [Screen.Rect.contains_iff rfl]
  simp only [InStrip, cell]
  omega

/-- The entry is on screen, and the point lies in its cell. -/
def DrawnAt (menu : Menu) (index x y : Int) : Prop :=
  menu.selection.firstIndex ≤ index ∧ index < menu.selection.endIndex ∧
    ∃ cell, menu.itemRect index = .ok cell ∧ cell.contains x y = true

theorem drawnAt_iff (hgrid : menu.rect.grid = .exact) :
    menu.DrawnAt index x y ↔ index ∈ menu.shown ∧ (menu.cell index).contains x y = true := by
  simp only [DrawnAt, itemRect_of_exact hgrid, Except.ok.injEq, exists_eq_left', mem_shown_iff, and_assoc]

/-! ## Menus in frame -/

/-- The menu has its coordinates as they are, and its selection is for its own rows and the screen that it has. -/
structure Framed (menu : Menu) : Prop where
  grid_eq : menu.rect.grid = .exact
  columns_pos : 1 ≤ menu.selection.columns
  rowHeight_pos : 1 ≤ menu.rowHeight
  rowHeight_eq : menu.selection.rowHeight = menu.rowHeight
  viewportHeight_eq : menu.selection.viewportHeight = listHeight menu.rect menu.rowHeight

namespace Framed

theorem listRect_eq (h : menu.Framed) :
    menu.listRect =
      ⟨menu.rect.x + padding, menu.rect.y + headerHeight, menu.rect.width - padding * 2,
        listHeight menu.rect menu.rowHeight, .exact⟩ := by
  rw [listRect, h.grid_eq]
  rfl

/-- All rows on screen fit into the list, which is at least one row high. -/
theorem visibleRows_mul_le (h : menu.Framed) : menu.selection.visibleRows * menu.rowHeight ≤ menu.listRect.height := by
  have hheight : menu.listRect.height = listHeight menu.rect menu.rowHeight := by rw [h.listRect_eq]
  have hrow : menu.rowHeight ≤ listHeight menu.rect menu.rowHeight := le_max_left _ _
  have hpos := h.rowHeight_pos
  rw [Selection.visibleRows, h.viewportHeight_eq, h.rowHeight_eq, hheight]
  -- A screen lower than a row shows one all the same, for which the list has room.
  rcases max_choice 1 (listHeight menu.rect menu.rowHeight / menu.rowHeight) with hone | hmany
  · rw [hone]
    omega
  · rw [hmany]
    exact Int.ediv_mul_le _ (by omega)

/-- The entry drawn at a point can be told from the point. -/
theorem index_eq (h : menu.Framed) (hdrawn : menu.DrawnAt index x y) :
    index = ((y - menu.listRect.y) / menu.rowHeight + menu.selection.top) * menu.selection.columns +
      (x - menu.listRect.x) / menu.columnWidth := by
  obtain ⟨hcolumn, hrow⟩ := contains_cell_iff.1 ((drawnAt_iff h.grid_eq).1 hdrawn).2
  -- The point has the row and the column of the entry, and these two make up its index.
  rw [hrow.ediv_eq, hcolumn.ediv_eq, rowShown, Int.sub_add_cancel, Selection.rowOf, Int.ediv_mul_add_emod]

/-- What is drawn stays inside the list. -/
theorem contains_of_drawnAt (h : menu.Framed) (hdrawn : menu.DrawnAt index x y) :
    menu.listRect.contains x y = true := by
  obtain ⟨hshown, hcell⟩ := (drawnAt_iff h.grid_eq).1 hdrawn
  obtain ⟨hcolumn, hrow⟩ := contains_cell_iff.1 hcell
  have hcolumns := h.columns_pos
  have hvisible : menu.selection.isVisible index = true :=
    Selection.mem_shown_iff.1 (Finset.mem_Ico.2 (mem_shown_iff.1 hshown))
  obtain ⟨-, htop, hbottom⟩ := (Selection.isVisible_iff hcolumns).1 hvisible
  -- The columns are cut from the width of the list, and no more rows are on screen than have room in it.
  have hacross := hcolumn.bounds (Int.emod_nonneg index (by omega)) (Int.emod_lt_of_pos index (by omega))
    (Int.mul_ediv_self_le (by omega))
  have hdown := hrow.bounds (by rw [rowShown]; omega) (by rw [rowShown]; omega) h.visibleRows_mul_le
  rw [Screen.Rect.contains_iff (by rw [h.listRect_eq])]
  omega

end Framed

/-! ## Clicks -/

theorem firstAt_of_exact (hgrid : menu.rect.grid = .exact) (x y : Int) (items : List Int) :
    menu.firstAt x y items = .ok (items.find? fun index => (menu.cell index).contains x y) := by
  induction items with
  | nil => rfl
  | cons index rest ih =>
      rw [firstAt, itemRect_of_exact hgrid, List.find?_cons]
      cases hpoint : (menu.cell index).contains x y with
      | true => simp [bind, Except.bind, hpoint, pure, Except.pure]
      | false => simp [bind, Except.bind, hpoint, ih]

theorem hitTest_of_exact (hgrid : menu.rect.grid = .exact) (x y : Int) :
    menu.hitTest x y =
      .ok (if menu.listRect.contains x y then menu.shown.find? fun index => (menu.cell index).contains x y
        else none) := by
  simp only [hitTest, hgrid, Screen.Grid.coordinate_exact, firstAt_of_exact hgrid]
  change (if menu.listRect.contains x y then _ else _) = _
  split <;> rfl

theorem drawnAt_of_found (hgrid : menu.rect.grid = .exact)
    (hfound : menu.shown.find? (fun index => (menu.cell index).contains x y) = some index) :
    menu.DrawnAt index x y := by
  have hcell := List.find?_some (p := fun index => (menu.cell index).contains x y) hfound
  exact (drawnAt_iff hgrid).2 ⟨List.mem_of_find?_eq_some hfound, hcell⟩

/-- A click hits an entry just where it is drawn. -/
theorem Framed.hitTest_eq_iff (h : menu.Framed) : menu.hitTest x y = .ok (some index) ↔ menu.DrawnAt index x y := by
  rw [hitTest_of_exact h.grid_eq, Except.ok.injEq]
  constructor
  · intro hhit
    exact drawnAt_of_found h.grid_eq (Option.ite_none_right_eq_some.1 hhit).2
  · intro hdrawn
    -- Some entry is found at the point, and no other one is drawn there.
    have hsome : (menu.shown.find? fun index => (menu.cell index).contains x y).isSome :=
      List.find?_isSome.2 ⟨index, (drawnAt_iff h.grid_eq).1 hdrawn⟩
    obtain ⟨found, hfound⟩ := Option.isSome_iff_exists.1 hsome
    rw [if_pos (h.contains_of_drawnAt hdrawn), hfound, h.index_eq (drawnAt_of_found h.grid_eq hfound),
      ← h.index_eq hdrawn]

/-! ## Menus that a menu can become -/

/-- What can become of a menu: its list is moved and filled, whether that is refused or not, and its notification
changes. It keeps its place and the screen that its list was made for. -/
inductive Reached (start : Menu) : Menu → Prop where
  | start : Reached start start
  | operated {menu : Menu} (h : Reached start menu) (op : Selection.Op)
      (hscreen : ∀ height rowHeight, op ≠ .setViewport height rowHeight) :
      Reached start { menu with selection := (op.apply menu.selection).selection }
  | notified {menu : Menu} (h : Reached start menu) (notification : Screen.Notification) :
      Reached start { menu with notification }

theorem make_framed {rect : Screen.Rect} (hgrid : rect.grid = .exact) {columns rowHeight : Int} {wrap : Bool}
    {font titleFont : Screen.Font} (hmade : make rect columns rowHeight wrap font titleFont = .ok menu) :
    menu.Framed := by
  rw [make, hgrid, Screen.Grid.coordinate_exact, Result.bind_eq_ok_iff] at hmade
  obtain ⟨_, ⟨⟩, hmade⟩ := hmade
  obtain ⟨selection, hselection, hmade⟩ := Result.bind_eq_ok_iff.1 hmade
  cases hmade
  have hvalid := Selection.Valid.of_make hselection
  obtain ⟨cursor, top, rfl⟩ := Selection.exists_make_eq hselection
  exact ⟨hgrid, hvalid.columns_pos, hvalid.rowHeight_pos, rfl, rfl⟩

/-- Whatever becomes of a menu, its columns, its rows and the screen of its list stay what they are. -/
theorem Framed.reached {start : Menu} (h : start.Framed) (hreached : start.Reached menu) : menu.Framed := by
  induction hreached with
  | start => exact h
  | @operated menu _ op hscreen ih =>
      obtain ⟨itemCount, cursor, top, hmoved⟩ := Selection.exists_apply_eq hscreen menu.selection
      rw [hmoved]
      exact { ih with }
  | notified _ notification ih => exact { ih with }

/-! ## Menus at work -/

section

variable {σ κ : Type} {start : Menu}

theorem Reached.adopt (h : start.Reached menu) (recipes : List Recipe) : start.Reached (menu.adopt recipes) := by
  have hoperated : start.Reached { menu with
      selection := ((Selection.Op.reset recipes.length).apply menu.selection).selection } := h.operated _ nofun
  unfold Menu.adopt
  cases hreset : menu.selection.reset recipes.length with
  | ok selection => simpa only [Selection.Op.apply, hreset] using hoperated
  | error failure => exact h

variable [DecidableEq κ] [Observer κ]

omit [DecidableEq κ] in
theorem Reached.react (h : start.Reached menu) (who : Listener κ) (topic : String) (notice : Notice) :
    start.Reached (Audience.react who topic notice menu).world := by
  cases who with
  | list =>
      cases notice with
      | refreshed recipes => exact h.adopt recipes
      | _ => exact h
  | notification =>
      cases notice with
      | succeeded outcome | blocked outcome => exact h.notified _
      | _ => exact h
  | guest who => exact h

/-- Nothing that is announced makes another menu of it. -/
theorem reached_steady (start : Menu) (room : Nat) :
    EventBus.Steady room (fun bus : Board κ => start.Reached bus.world) where
  subscribe topic who bus h := (EventBus.subscribe_same topic who bus).1 ▸ h
  unsubscribe topic who bus h := (EventBus.unsubscribe_same topic who bus).1 ▸ h
  clear _ _ h := h
  opened _ _ _ _ _ h := h
  calling _ _ topic notice who _ h := h.react who topic notice

theorem publish_reached (topic : String) (notice : Notice) :
    Act.Keeps (fun bus : Board κ => start.Reached bus.world) (EventBus.publish topic notice) :=
  (reached_steady start _).publishWithin topic notice

theorem announce_reached (notice : Notice) :
    Act.Keeps (fun w : Shop σ κ => start.Reached w.bus.world) (Workshop.announce notice) :=
  fun w h => publish_reached notice.topic notice w.bus h

theorem operate_reached {op : Selection.Op} (hop : ¬op.Refits) :
    Act.Keeps (fun w : Shop σ κ => start.Reached w.bus.world) (operate op) := by
  intro w h
  have hmoved : start.Reached (moved op w).bus.world :=
    h.operated op fun height rowHeight hscreen => hop (by rw [hscreen]; trivial)
  rw [(operate_run (Selection.Op.passes hop _)).2]
  split
  · exact hmoved
  · exact announce_reached _ _ hmoved

variable [Inventory σ]

theorem refresh_reached : Act.Keeps (fun w : Shop σ κ => start.Reached w.bus.world) Workshop.refresh :=
  Act.Keeps.bind (fun _ h => h) fun _ => Act.Keeps.bind (fun _ h => h) fun _ =>
    Act.Keeps.bind (fun _ h => h) fun _ => (announce_reached _).bind fun _ => .pure _

theorem craft_reached (recipe : Option Recipe) :
    Act.Keeps (fun w : Shop σ κ => start.Reached w.bus.world) (Workshop.craft recipe) :=
  Workshop.craft_keeps_of (fun _ h => h) (fun _ h => h)
    (fun _ => Workshop.announceOutcome_keeps_of (announce_reached _) (announce_reached _)) refresh_reached

theorem step_reached (step : Step σ κ) : Act.Keeps (fun w : Shop σ κ => start.Reached w.bus.world) step.act := by
  cases step with
  | receive input => exact (handle_keeps_of (fun _ => operate_reached) craft_reached input).bind fun _ => .pure ()
  | work act => exact fun w h => h
  | arrange registry visibility => exact fun w h => h
  | refresh => exact refresh_reached.bind fun _ => .pure ()
  | craft recipe => exact (craft_reached recipe).bind fun _ => .pure ()
  | join topic guest => exact fun w h => (reached_steady start 0).subscribe topic (.guest guest) w.bus h
  | leave topic guest => exact fun w h => (reached_steady start 0).unsubscribe topic (.guest guest) w.bus h
  | announce topic notice _ _ => exact fun w h => publish_reached topic notice w.bus h

/-- Whatever happens at a shop, its menu is one that the menu with which it opened can become. -/
theorem after_reached (start : Menu) (before : Shop σ κ) (steps : List (Step σ κ)) :
    start.Reached (after steps (openUp (createdOn start before)).state).bus.world := by
  have hopened : start.Reached (openUp (createdOn start before)).state.bus.world := by
    have hworld : (createdOn start before).bus.world = start := by
      simp only [createdOn, attach, (EventBus.subscribe_same _ _ _).1]
    have hcreated : start.Reached (createdOn start before).bus.world := hworld.symm ▸ Reached.start
    exact (refresh_reached.bind fun _ => operate_reached (by exact not_false)) _ hcreated
  -- By induction on the steps, whatever shop they begin with.
  generalize (openUp (createdOn start before)).state = w at hopened
  induction steps generalizing w with
  | nil => exact hopened
  | cons step rest ih => exact ih _ (step_reached step w hopened)

end

/-- For any place, any columns and any height of the rows, where coordinates are kept as they are: a menu can be made,
and whatever becomes of it, a click hits an entry just where that entry is drawn. At any point at most one entry is
drawn, and what is drawn stays inside the list. -/
theorem hit_iff_drawn {rect : Screen.Rect} (hgrid : rect.grid = .exact) {columns rowHeight : Int}
    (hcolumns : 1 ≤ columns) (hrow : 1 ≤ rowHeight) (wrap : Bool) (font titleFont : Screen.Font) :
    ∃ start, make rect columns rowHeight wrap font titleFont = .ok start ∧
      ∀ menu, start.Reached menu → ∀ x y,
        (∃ hit, menu.hitTest x y = .ok hit) ∧
          (∀ index, menu.hitTest x y = .ok (some index) ↔ menu.DrawnAt index x y) ∧
          (∀ index other, menu.DrawnAt index x y → menu.DrawnAt other x y → index = other) ∧
          ∀ index, menu.DrawnAt index x y → menu.listRect.contains x y = true := by
  obtain ⟨selection, hselection, -⟩ := Selection.exists_make (listHeight rect rowHeight) hcolumns hrow le_rfl
  have hmade : make rect columns rowHeight wrap font titleFont =
      .ok { rect, rowHeight, wrap, selection, font, titleFont } := by
    rw [make, hgrid, Screen.Grid.coordinate_exact]
    simp only [bind, Except.bind, hselection]
    rfl
  refine ⟨_, hmade, fun menu hreached x y => ?_⟩
  have h : menu.Framed := (make_framed hgrid hmade).reached hreached
  refine ⟨⟨_, hitTest_of_exact h.grid_eq x y⟩, fun index => h.hitTest_eq_iff, fun index other hindex hother => ?_,
    fun index => h.contains_of_drawnAt⟩
  rw [h.index_eq hindex, ← h.index_eq hother]

end Menu

end Crafting

namespace Crafting.Sample

open Menu

/-- A menu with room for two rows of its list, and some more pixels below them. -/
def counter : Menu where
  rect := ⟨0, 0, 320, 470, .exact⟩
  rowHeight := 36
  wrap := true
  selection := { columns := 3, viewportHeight := 80, rowHeight := 36 }
  font := plain
  titleFont := plain

/-- The counter with thirteen entries, scrolled to the last of them. -/
def fullCounter : Menu :=
  { counter with selection := { counter.selection with itemCount := 13, cursor := some 0, top := 3 } }

/-- An entry is hit where it is drawn, and nothing is hit beside the last one and below the last row. -/
theorem counter_pointed :
    make ⟨0, 0, 320, 470, .exact⟩ 3 36 true plain plain = .ok counter ∧ counter.Reached fullCounter ∧
      fullCounter.DrawnAt 10 115 60 ∧ fullCounter.hitTest 115 60 = .ok (some 10) ∧
      fullCounter.hitTest 115 80 = .ok none ∧ fullCounter.listRect.contains 15 115 = true ∧
      ¬∃ index, fullCounter.DrawnAt index 15 115 := by
  have hgrid : (⟨0, 0, 320, 470, .exact⟩ : Screen.Rect).grid = .exact := rfl
  have hcolumns : (1 : Int) ≤ 3 := by decide
  have hrow : (1 : Int) ≤ 36 := by decide
  obtain ⟨start, hmade, hpoints⟩ := hit_iff_drawn hgrid hcolumns hrow true plain plain
  have hcounter : make ⟨0, 0, 320, 470, .exact⟩ 3 36 true plain plain = .ok counter := rfl
  rw [hcounter] at hmade
  cases hmade
  have hreached : counter.Reached fullCounter :=
    (Reached.start.operated (.reset 13) nofun).operated (.setTop 9) nofun
  have hdrawn : fullCounter.DrawnAt 10 115 60 := ⟨by decide, by decide, _, rfl, by decide⟩
  refine ⟨hcounter, hreached, hdrawn, ?_, rfl, by decide, ?_⟩
  · exact ((hpoints fullCounter hreached 115 60).2.1 10).2 hdrawn
  · rintro ⟨index, hindex⟩
    have hnone : fullCounter.hitTest 15 115 = .ok none := rfl
    have hhit := ((hpoints fullCounter hreached 15 115).2.1 index).2 hindex
    cases hnone.symm.trans hhit

end Crafting.Sample
