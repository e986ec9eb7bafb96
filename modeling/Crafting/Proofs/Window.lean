import Crafting.Proofs.Menu.InStep
import Crafting.Proofs.Offer
import Crafting.Window

/-!
# Closing the window

The window takes the events of a frame in turn, all of them, and looks only then whether one of them asked to close it.
No frame is taken after such a one. But the events that stand behind the closing one in its own frame are answered like
any others, and may still move the list or craft.
-/

namespace Crafting.Window

variable {σ κ : Type} [Inventory σ] [DecidableEq κ] [Observer κ]

/-! ## Turns -/

/-- An event with the shop that it meets. -/
structure Turn (σ κ : Type) where
  event : Event
  shop : Menu.Shop σ κ

namespace Turn

variable (turn : Turn σ κ)

/-- The turn asks to close the window. -/
def Closes : Prop :=
  (handle turn.event turn.shop).value = .ok true

/-- The turn leaves the inventory and the selection as they are. -/
def Idle : Prop :=
  let after := (handle turn.event turn.shop).state
  after.inventory = turn.shop.inventory ∧ after.bus.world.selection = turn.shop.bus.world.selection

end Turn

/-- The turns of the events of a frame, up to the first that fails. -/
def turnsIn : List Event → Menu.Shop σ κ → List (Turn σ κ)
  | [], _ => []
  | event :: rest, s =>
      ⟨event, s⟩ ::
        match (handle event s).value with
        | .ok _ => turnsIn rest (handle event s).state
        | .error _ => []

/-- Sets the clock of a frame. -/
def setClock (clock : Option Screen.Seconds) (s : Menu.Shop σ κ) : Menu.Shop σ κ :=
  match clock with
  | none => s
  | some clock => { s with bus := { s.bus with
      world := { s.bus.world with notification := { s.bus.world.notification with clock } } } }

/-- The turns of each frame that the window takes, up to the one after which it closes, or in which something fails. -/
def turnsFrom : List Frame → Menu.Shop σ κ → List (List (Turn σ κ))
  | [], _ => []
  | frame :: rest, s =>
      let start := setClock frame.clock s
      let answered := handleAll frame.events start
      turnsIn frame.events start ::
        match answered.value, (draw answered.state).value with
        | .ok false, .ok _ => turnsFrom rest (draw answered.state).state
        | _, _ => []

/-- The turns from the opening on. -/
def turns (frames : List Frame) (w : Menu.Shop σ κ) : List (List (Turn σ κ)) :=
  match (Menu.openUp w).value with
  | .ok _ => turnsFrom frames (Menu.openUp w).state
  | .error _ => []

/-! ## The events of a frame -/

/-- What asks to close the window. -/
def Event.Closes (event : Event) : Prop :=
  event = .quit ∨ event = .input (.key .escape)

/-- What never does anything: what asks to close the window, and what has no meaning in it. -/
def Event.Inert (event : Event) : Prop :=
  event.Closes ∨ event = .input (.key .other) ∨ event = .input .other ∨
    ∃ x y button, button ≠ 1 ∧ event = .input (.click x y button)

omit [Inventory σ] [DecidableEq κ] [Observer κ] in
theorem value_ne_true_of_false {α : Type} (act : Act (Menu.Shop σ κ) α) (s : Menu.Shop σ κ) :
    ((act >>= fun _ => (pure false : Act (Menu.Shop σ κ) Bool)) s).value ≠ .ok true := by
  intro h
  obtain ⟨_, -, hlast⟩ := Act.bind_eq_ok_iff.1 h
  cases hlast

/-- Of the inputs the menu is closed by one only. -/
theorem handle_ne_true {input : Menu.Input} (h : input ≠ .key .escape) (s : Menu.Shop σ κ) :
    (Menu.handle input s).value ≠ .ok true := by
  intro hvalue
  obtain ⟨menu, -, hvalue⟩ := Act.bind_eq_ok_iff.1 hvalue
  cases input with
  | key key =>
      cases key with
      | escape => exact h rfl
      | other => cases hvalue
      | _ => exact value_ne_true_of_false _ _ hvalue
  | click x y button =>
      dsimp only at hvalue
      split at hvalue
      · -- What is clicked at is looked up first, and whatever is done then, nothing is closed.
        obtain ⟨hit, -, hvalue⟩ := Act.bind_eq_ok_iff.1 hvalue
        cases hit with
        | none => cases hvalue
        | some index =>
            dsimp only at hvalue
            split at hvalue
            · exact value_ne_true_of_false _ _ hvalue
            · exact value_ne_true_of_false _ _ hvalue
      · cases hvalue
  | wheel turns => exact value_ne_true_of_false _ _ hvalue
  | other => cases hvalue

/-- Whatever the shop, these two ask to close it, and nothing else does. -/
theorem closes_iff (turn : Turn σ κ) : turn.Closes ↔ turn.event.Closes := by
  obtain ⟨event, s⟩ := turn
  cases event with
  | quit => exact iff_of_true rfl (.inl rfl)
  | input input =>
      by_cases hescape : input = .key .escape
      · subst hescape
        exact iff_of_true rfl (.inr rfl)
      · exact iff_of_false (handle_ne_true hescape s) fun hcloses => hescape (by simpa [Event.Closes] using hcloses)

theorem handle_of_inert {event : Event} (h : event.Inert) (s : Menu.Shop σ κ) : (handle event s).state = s := by
  rcases h with (rfl | rfl) | rfl | rfl | ⟨x, y, button, hbutton, rfl⟩
  · rfl
  · rfl
  · rfl
  · rfl
  · show ((Menu.current >>= fun menu => if button = 1 then _ else pure false : Act (Menu.Shop σ κ) Bool) s).state = s
    simp only [if_neg hbutton]
    rfl

theorem idle_of_inert {turn : Turn σ κ} (h : turn.event.Inert) : turn.Idle := by
  rw [Turn.Idle, handle_of_inert h]
  exact ⟨rfl, rfl⟩

omit [Inventory σ] [DecidableEq κ] [Observer κ] in
theorem state_of_last {α β : Type} (act : Act (Menu.Shop σ κ) α) (f : α → β) (s : Menu.Shop σ κ) :
    ((act >>= fun a => pure (f a)) s).state = (act s).state := by
  rw [Act.run_bind]
  cases (act s).value <;> rfl

/-- The shop that a frame leaves is what its last turn left. -/
theorem handleAll_state (events : List Event) (s : Menu.Shop σ κ) :
    (handleAll events s).state =
      ((turnsIn events s).getLast?.map fun turn => (handle turn.event turn.shop).state).getD s := by
  induction events generalizing s with
  | nil => rfl
  | cons event rest ih =>
      rw [handleAll, turnsIn]
      cases hvalue : (handle event s).value with
      | error failure =>
          rw [Act.run_bind_of_error hvalue]
          rfl
      | ok closing =>
          rw [Act.run_bind_of_ok hvalue]
          dsimp only
          rw [state_of_last, ih, List.getLast?_cons, Option.map_some, Option.getD_some]
          cases (turnsIn rest (handle event s).state).getLast? <;> rfl

/-- The turns of a frame are those of its first events. -/
theorem prefix_turnsIn (events : List Event) (s : Menu.Shop σ κ) : (turnsIn events s).map Turn.event <+: events := by
  induction events generalizing s with
  | nil => exact List.nil_prefix
  | cons event rest ih =>
      rw [turnsIn, List.map_cons, List.prefix_cons_inj]
      split
      · exact ih _
      · exact List.nil_prefix

/-- They are those of all its events, unless the last of them fails. -/
theorem turnsIn_complete (events : List Event) (s : Menu.Shop σ κ) :
    (turnsIn events s).map Turn.event = events ∨
      ∃ turn ∈ (turnsIn events s).getLast?, ∃ failure, (handle turn.event turn.shop).value = .error failure := by
  induction events generalizing s with
  | nil => exact .inl rfl
  | cons event rest ih =>
      rw [turnsIn]
      cases hvalue : (handle event s).value with
      | error failure => exact .inr ⟨⟨event, s⟩, rfl, failure, hvalue⟩
      | ok closing =>
          rcases ih (handle event s).state with hall | ⟨turn, hturn, hfails⟩
          · exact .inl (congrArg (event :: ·) hall)
          · refine .inr ⟨turn, ?_, hfails⟩
            dsimp only
            rw [List.getLast?_cons, Option.mem_def.1 hturn]
            rfl

/-- What asks to close the window stands in nobody's way: the others are answered as if it were not there. -/
theorem handleAll_of_closing {event : Event} (h : event.Closes) (before after : List Event) (s : Menu.Shop σ κ) :
    (handleAll (before ++ event :: after) s).state = (handleAll (before ++ after) s).state := by
  -- By induction on what stands before: when it comes to the event itself, that changes nothing and fails never.
  induction before generalizing s with
  | nil =>
      have hvalue : (handle event s).value = .ok true := (closes_iff ⟨event, s⟩).2 h
      rw [List.nil_append, List.nil_append, handleAll, Act.run_bind_of_ok hvalue]
      dsimp only
      rw [state_of_last, handle_of_inert (.inl h)]
  | cons first rest ih =>
      rw [List.cons_append, List.cons_append, handleAll, handleAll]
      cases hvalue : (handle first s).value with
      | error failure => rw [Act.run_bind_of_error hvalue, Act.run_bind_of_error hvalue]
      | ok closing =>
          rw [Act.run_bind_of_ok hvalue, Act.run_bind_of_ok hvalue]
          dsimp only
          rw [state_of_last, state_of_last, ih]

/-- Where none fails, the events of a frame ask to close the window just when the turn of one of them does. -/
theorem handleAll_closes_iff {events : List Event} {s : Menu.Shop σ κ} {closing : Bool}
    (h : (handleAll events s).value = .ok closing) :
    closing = true ↔ ∃ turn ∈ turnsIn events s, turn.Closes := by
  induction events generalizing s closing with
  | nil =>
      cases h
      exact iff_of_false Bool.false_ne_true fun ⟨_, hturn, _⟩ => nomatch hturn
  | cons event rest ih =>
      rw [handleAll] at h
      obtain ⟨first, hfirst, h⟩ := Act.bind_eq_ok_iff.1 h
      obtain ⟨later, hlater, h⟩ := Act.bind_eq_ok_iff.1 h
      cases h
      have hown : first = true ↔ Turn.Closes ⟨event, s⟩ := by
        rw [Turn.Closes, hfirst, Except.ok.injEq]
      rw [turnsIn, hfirst, Bool.or_eq_true, hown, ih hlater]
      simp only [List.mem_cons, exists_eq_or_imp]

/-! ## The frames that are taken -/

/-- A frame begins with its clock, if it has one. -/
theorem runFrames_cons (frame : Frame) (rest : List Frame) (s : Menu.Shop σ κ) :
    runFrames (frame :: rest) s =
      (handleAll frame.events >>= fun closing => draw >>= fun calls =>
        if closing then pure [calls] else runFrames rest >>= fun later => pure (calls :: later))
          (setClock frame.clock s) := by
  obtain ⟨events, clock⟩ := frame
  cases clock <;> rfl

theorem runFrames_take (frames : List Frame) (s : Menu.Shop σ κ) :
    runFrames (frames.take (turnsFrom frames s).length) s = runFrames frames s := by
  induction frames generalizing s with
  | nil => rfl
  | cons frame rest ih =>
      rw [turnsFrom, List.length_cons, List.take_succ_cons, runFrames_cons, runFrames_cons]
      generalize setClock frame.clock s = start
      -- Where something fails or the window closes, the rest of the frames is not looked at.
      cases hanswered : (handleAll frame.events start).value with
      | error failure => rw [Act.run_bind_of_error hanswered, Act.run_bind_of_error hanswered]
      | ok closing =>
          rw [Act.run_bind_of_ok hanswered, Act.run_bind_of_ok hanswered]
          cases hdrawn : (draw (handleAll frame.events start).state).value with
          | error failure => rw [Act.run_bind_of_error hdrawn, Act.run_bind_of_error hdrawn]
          | ok calls =>
              rw [Act.run_bind_of_ok hdrawn, Act.run_bind_of_ok hdrawn]
              cases closing with
              | true => rfl
              | false =>
                  simp only [Bool.false_eq_true, if_false]
                  rw [Act.run_bind, Act.run_bind, ih]

/-- A turn that asks to close the window is one of the last frame that is taken. -/
theorem closes_last_from (frames : List Frame) (s : Menu.Shop σ κ) :
    ∀ row ∈ (turnsFrom frames s).dropLast, ∀ turn ∈ row, ¬turn.Closes := by
  induction frames generalizing s with
  | nil => exact List.forall_mem_nil _
  | cons frame rest ih =>
      have hnext := ih (draw (handleAll frame.events (setClock frame.clock s)).state).state
      rw [turnsFrom]
      split
      · rename_i calls hanswered hdrawn
        -- The window went on, so no turn of this frame asked it to close.
        have hopen : ∀ turn ∈ turnsIn frame.events (setClock frame.clock s), ¬turn.Closes := by
          intro turn hturn hcloses
          exact Bool.false_ne_true ((handleAll_closes_iff hanswered).2 ⟨turn, hturn, hcloses⟩)
        generalize turnsFrom rest (draw (handleAll frame.events (setClock frame.clock s)).state).state = later
          at hnext ⊢
        cases later with
        | nil => exact List.forall_mem_nil _
        | cons row rows =>
            rw [List.dropLast_cons_cons]
            exact List.forall_mem_cons.2 ⟨hopen, hnext⟩
      · exact List.forall_mem_nil _

/-- The turns that are taken are those of the frames in their order. -/
theorem getElem?_turnsFrom {frames : List Frame} {s : Menu.Shop σ κ} {place : Nat} {row : List (Turn σ κ)}
    (h : (turnsFrom frames s)[place]? = some row) :
    ∃ frame start, frames[place]? = some frame ∧ row = turnsIn frame.events start := by
  induction frames generalizing s place with
  | nil => cases h
  | cons frame rest ih =>
      rw [turnsFrom] at h
      cases place with
      | zero =>
          cases h
          exact ⟨frame, _, rfl, rfl⟩
      | succ place =>
          rw [List.getElem?_cons_succ] at h
          split at h
          · exact ih h
          · cases h

/-! ## From the opening on -/

/-- The frames that are not taken make no difference. -/
theorem run_take (frames : List Frame) (w : Menu.Shop σ κ) :
    run (frames.take (turns frames w).length) w = run frames w := by
  unfold run turns
  cases hopened : (Menu.openUp w).value with
  | error failure => rw [Act.run_bind_of_error hopened, Act.run_bind_of_error hopened]
  | ok opened =>
      rw [Act.run_bind_of_ok hopened, Act.run_bind_of_ok hopened]
      dsimp only
      rw [runFrames_take]

theorem closes_last (frames : List Frame) (w : Menu.Shop σ κ) :
    ∀ row ∈ (turns frames w).dropLast, ∀ turn ∈ row, ¬turn.Closes := by
  unfold turns
  split
  · exact closes_last_from frames _
  · exact List.forall_mem_nil _

theorem getElem?_turns {frames : List Frame} {w : Menu.Shop σ κ} {place : Nat} {row : List (Turn σ κ)}
    (h : (turns frames w)[place]? = some row) :
    ∃ frame start, frames[place]? = some frame ∧ row = turnsIn frame.events start := by
  unfold turns at h
  split at h
  · exact getElem?_turnsFrom h
  · cases h

/-! ## What stands behind what closes -/

/-- What comes after a turn that asks to close the window is idle. -/
def Ends (turn later : Turn σ κ) : Prop :=
  turn.Closes → later.Idle

/-- The turns are those of these events, all of them unless the last one fails. -/
def Covers (row : List (Turn σ κ)) (events : List Event) : Prop :=
  row.map Turn.event <+: events ∧
    (row.map Turn.event = events ∨
      ∃ turn ∈ row.getLast?, ∃ failure, (handle turn.event turn.shop).value = .error failure)

theorem pairwise_ends_iff {rows : List (List (Turn σ κ))} (h : ∀ row ∈ rows.dropLast, ∀ turn ∈ row, ¬turn.Closes) :
    rows.flatten.Pairwise Ends ↔ ∀ last ∈ rows.getLast?, last.Pairwise Ends := by
  rcases List.eq_nil_or_concat rows with rfl | ⟨front, last, rfl⟩
  · simp
  · rw [List.concat_eq_append, List.dropLast_concat] at h
    have hopen : ∀ turn ∈ front.flatten, ∀ later, Ends turn later := by
      intro turn hturn later hcloses
      obtain ⟨row, hrow, hmem⟩ := List.mem_flatten.1 hturn
      exact absurd hcloses (h row hrow turn hmem)
    have hfront : front.flatten.Pairwise Ends :=
      List.pairwise_of_forall_mem_list fun turn hturn later _ => hopen turn hturn later
    rw [List.concat_eq_append, List.flatten_append, List.flatten_singleton, List.pairwise_append, and_iff_right hfront,
      and_iff_left fun turn hturn later _ => hopen turn hturn later, List.getLast?_concat]
    simp only [Option.mem_some_iff, forall_eq']

/-- A row of inert turns behind what closes the window ends all input. -/
theorem pairwise_ends_of_inert {row : List (Turn σ κ)} {events : List Event} (hinitial : row.map Turn.event <+: events)
    (h : events.Pairwise fun event later => event.Closes → later.Inert) : row.Pairwise Ends := by
  have hrow := List.pairwise_map.1 (h.sublist hinitial.sublist)
  exact hrow.imp fun hinert hcloses => idle_of_inert (hinert ((closes_iff _).1 hcloses))

/-- The window takes no frame after one in which an event asked to close it. In that last frame it takes the events
behind that one as well, so that closing ends all input just when each of those leaves the inventory and the selection
as they are. It does whatever the shop if behind what closes the window stands only what never does anything. -/
theorem closing_ends_input_iff (frames : List Frame) (w : Menu.Shop σ κ) :
    let taken := turns frames w
    run (frames.take taken.length) w = run frames w ∧
      (∀ (place : Nat) (row : List (Turn σ κ)), taken[place]? = some row →
        ∃ frame : Frame, frames[place]? = some frame ∧ Covers row frame.events) ∧
      (∀ row ∈ taken.dropLast, ∀ turn ∈ row, ¬turn.Closes) ∧
      (taken.flatten.Pairwise Ends ↔ ∀ last ∈ taken.getLast?, last.Pairwise Ends) ∧
      ((∀ frame ∈ frames, frame.events.Pairwise fun event later => event.Closes → later.Inert) →
        taken.flatten.Pairwise Ends) := by
  intro taken
  have hcovers : ∀ (place : Nat) (row : List (Turn σ κ)), taken[place]? = some row →
      ∃ frame : Frame, frames[place]? = some frame ∧ Covers row frame.events := by
    intro place row hrow
    obtain ⟨frame, start, hframe, rfl⟩ := getElem?_turns hrow
    exact ⟨frame, hframe, prefix_turnsIn _ _, turnsIn_complete _ _⟩
  have hiff := pairwise_ends_iff (closes_last frames w)
  refine ⟨run_take frames w, hcovers, closes_last frames w, hiff, fun hinert => hiff.2 fun last hmem => ?_⟩
  · obtain ⟨place, hplace, rfl⟩ := List.getElem_of_mem (List.mem_of_getLast? hmem)
    obtain ⟨frame, hframe, hinitial, -⟩ := hcovers place _ (List.getElem?_eq_getElem hplace)
    exact pairwise_ends_of_inert hinitial (hinert frame (List.mem_of_getElem? hframe))

end Crafting.Window

namespace Crafting.Sample

open Window

/-- The grove with a window. -/
def groveWindow : Menu.Shop (Faulty Party) Game.Speaker :=
  Menu.createdOn signboard
    { registry := grove.registry, inventory := grove.inventory, bus := { world := signboard } }

/-- The window is closed, and the twig is made behind that. -/
example :
    (run [⟨[.input (.key .escape)], none⟩] groveWindow).state.inventory.store.held = [(herb, 3), (blade, 1)] ∧
      (run [⟨[.input (.key .escape), .input (.key .confirm)], none⟩] groveWindow).state.inventory.store.held =
        [(herb, 1), (blade, 2)] := by
  decide +kernel

end Crafting.Sample
