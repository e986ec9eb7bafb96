import Crafting.Menu.Control
import Crafting.Proofs.EventBus
import Crafting.Proofs.Selection

/-!
# The menu on its bus

Of all that is announced, only a rebuilt catalog touches the list. Then the list adopts the recipes, and its choice is
announced inside that announcement, whoever else listens and observes.
-/

namespace Crafting.Menu

/-- A bus at which a menu and observers listen. -/
abbrev Board (κ : Type) : Type := EventBus (Listener κ) Notice Menu

variable {κ : Type}

/-- What of a bus the list has to do with. -/
structure Mark (κ : Type) where
  selection : Selection
  subscribers : List (String × List (Listener κ))
  history : List (String × Notice)

def mark (bus : Board κ) : Mark κ :=
  ⟨bus.world.selection, bus.subscribers, bus.history⟩

/-! ## Boards in order -/

/-- The list listens for rebuilt catalogs and for nothing else, and its selection is in order. -/
structure Attends (bus : Board κ) : Prop where
  list_iff : ∀ topic, .list ∈ bus.subscribersOf topic ↔ topic = Topic.catalogRefreshed
  valid : bus.world.selection.Valid

/-- The list is as long as the catalog, and the recipe last announced as chosen is the one that is. -/
structure Agrees (recipes : List Recipe) (bus : Board κ) : Prop extends Attends bus where
  itemCount_eq : bus.world.selection.itemCount = recipes.length
  last_eq : bus.last? Topic.recipeSelected = some (.selected (bus.world.chosen recipes))

theorem Attends.of_mark {bus other : Board κ} (h : Attends bus) (hsubscribers : other.subscribers = bus.subscribers)
    (hselection : other.world.selection = bus.world.selection) : Attends other where
  list_iff topic := by
    rw [← h.list_iff topic, EventBus.subscribersOf, hsubscribers]
    rfl
  valid := hselection ▸ h.valid

theorem Agrees.of_mark {recipes : List Recipe} {bus other : Board κ} (h : Agrees recipes bus)
    (hmark : mark other = mark bus) : Agrees recipes other := by
  obtain ⟨hselection, hsubscribers, hhistory⟩ := Mark.mk.inj hmark
  refine ⟨h.toAttends.of_mark hsubscribers hselection, hselection ▸ h.itemCount_eq, ?_⟩
  rw [EventBus.last?, hhistory, chosen, hselection]
  exact h.last_eq

/-! ## Calls that leave the list alone -/

/-- The listener makes nothing of the notice, or at most shows an outcome. -/
def Quiet (who : Listener κ) (notice : Notice) : Prop :=
  who = .list → ∀ recipes, notice ≠ .refreshed recipes

theorem quiet_selected (who : Listener κ) (recipe : Option Recipe) : Quiet who (.selected recipe) :=
  fun _ _ => nofun

variable [DecidableEq κ] [Observer κ]

omit [DecidableEq κ] in
theorem react_quiet {who : Listener κ} {notice : Notice} (h : Quiet who notice) (topic : String) (menu : Menu) :
    (Audience.react who topic notice menu).world.selection = menu.selection ∧
      (Audience.react who topic notice menu).steps = [] := by
  cases who with
  | list =>
      cases notice with
      | refreshed recipes => exact absurd rfl (h rfl recipes)
      | selected _ | succeeded _ | blocked _ | cue _ => exact ⟨rfl, rfl⟩
  | notification => cases notice <;> exact ⟨rfl, rfl⟩
  | guest who => exact ⟨rfl, rfl⟩

omit [DecidableEq κ] in
theorem tellable_of_observer {refusal : Option String} {failure : Failure}
    (h : Observer.ending refusal = .error failure) : failure.Tellable := by
  cases refusal <;> cases h
  trivial

/-- Observers fail in words, and the menu does not fail. -/
instance : Audience.Candid (Listener κ) Notice Menu where
  ending who topic notice menu failure h := by
    cases who with
    | guest guest => exact tellable_of_observer h
    | list | notification => cases notice <;> cases h

theorem deliver_quiet {who : Listener κ} {notice : Notice} (h : Quiet who notice) (room : Nat)
    (publish : String → Notice → Act (Board κ) Unit) (topic : String) (m : Mark κ) :
    Act.Keeps (fun bus => mark bus = m) (EventBus.deliver room publish topic notice who) := by
  refine EventBus.deliver_keeps_of (EventBus.call_keeps_of fun bus hbus => ?_)
  obtain ⟨hselection, hsteps⟩ := react_quiet h topic bus.world
  rw [hsteps]
  refine ⟨?_, List.forall_mem_nil _⟩
  rw [← hbus, mark, hselection]
  rfl

/-- An announcement of which nobody makes anything is kept in the history, and that is all. -/
theorem publishWithin_quiet {topic : String} {notice : Notice} {bus : Board κ}
    (h : ∀ who ∈ bus.subscribersOf topic, Quiet who notice) (room : Nat) :
    mark (EventBus.publishWithin (room + 1) topic notice bus).state =
      { mark bus with history := Assoc.put topic notice bus.history } :=
  Act.Keeps.forM_of_mem (fun who hwho => deliver_quiet (h who hwho) room _ topic _) _ rfl

theorem publish_quiet {topic : String} {notice : Notice} {bus : Board κ}
    (h : ∀ who ∈ bus.subscribersOf topic, Quiet who notice) :
    mark (EventBus.publish topic notice bus).state =
      { mark bus with history := Assoc.put topic notice bus.history } :=
  publishWithin_quiet h _

/-! ## A rebuilt catalog -/

theorem adopt_valid {menu : Menu} (h : menu.selection.Valid) (recipes : List Recipe) :
    (menu.adopt recipes).selection.Valid ∧ (menu.adopt recipes).selection.itemCount = recipes.length := by
  obtain ⟨selection, hreset, hselection⟩ := Selection.exists_reset h (Int.natCast_nonneg recipes.length)
  rw [adopt, hreset]
  exact hselection

/-- Whatever the list was like, it adopts the rebuilt catalog and announces its choice. -/
theorem deliver_list {bus : Board κ} (h : Attends bus) (room : Nat) (topic : String) (recipes : List Recipe) :
    Agrees recipes
      (EventBus.deliver (room + 1) (EventBus.publishWithin (room + 1)) topic (.refreshed recipes) .list bus).state := by
  obtain ⟨hvalid, hcount⟩ := adopt_valid h.valid recipes
  let adopted : Board κ := { bus with
    world := bus.world.adopt recipes
    journal := bus.journal ++ [.called (room + 1) .list topic (.refreshed recipes)] }
  let choice : Notice := .selected ((bus.world.adopt recipes).chosen recipes)
  have hstate : (EventBus.deliver (room + 1) (EventBus.publishWithin (room + 1)) topic (.refreshed recipes) .list
      bus).state = (EventBus.publishWithin (room + 1) Topic.recipeSelected choice adopted).state :=
    EventBus.deliver_of_publish rfl
  have hmark : mark (EventBus.publishWithin (room + 1) Topic.recipeSelected choice adopted).state =
      { mark adopted with history := Assoc.put Topic.recipeSelected choice adopted.history } :=
    publishWithin_quiet (fun who _ => quiet_selected who _) room
  obtain ⟨hselection, hsubscribers, hhistory⟩ := Mark.mk.inj hmark
  rw [hstate]
  have hadopted : Attends adopted := ⟨h.list_iff, hvalid⟩
  refine ⟨hadopted.of_mark hsubscribers hselection, hselection ▸ hcount, ?_⟩
  rw [EventBus.last?, hhistory, Assoc.get?_put_self, chosen, hselection]
  rfl

theorem deliver_attends {who : Listener κ} {notice : Notice} (h : Quiet who notice) (room : Nat)
    (publish : String → Notice → Act (Board κ) Unit) (topic : String) :
    Act.Keeps Attends (EventBus.deliver room publish topic notice who) := by
  intro bus hbus
  obtain ⟨hselection, hsubscribers, -⟩ := Mark.mk.inj (deliver_quiet h room publish topic (mark bus) bus rfl)
  exact hbus.of_mark hsubscribers hselection

/-- Once the list has adopted the catalog, further calls about it change nothing that counts. -/
theorem deliver_agrees (who : Listener κ) (room : Nat) (topic : String) (recipes : List Recipe) :
    Act.Keeps (Agrees recipes)
      (EventBus.deliver (room + 1) (EventBus.publishWithin (room + 1)) topic (.refreshed recipes) who) := by
  intro bus hbus
  by_cases hlist : who = .list
  · rw [hlist]
    exact deliver_list hbus.toAttends room topic recipes
  · exact hbus.of_mark (deliver_quiet (fun h => absurd h hlist) _ _ topic (mark bus) bus rfl)

/-- Among those called about a rebuilt catalog is the list. -/
theorem forM_deliver_list {listeners : List (Listener κ)} (hlist : .list ∈ listeners) (room : Nat) (topic : String)
    (recipes : List Recipe) {bus : Board κ} (h : Attends bus) :
    Agrees recipes (listeners.forM
      (EventBus.deliver (room + 1) (EventBus.publishWithin (room + 1)) topic (.refreshed recipes)) bus).state := by
  induction listeners generalizing bus with
  | nil => cases hlist
  | cons who rest ih =>
      have hpublish (topic : String) (notice : Notice) :
          Act.Candid (EventBus.publishWithin (room + 1) topic notice : Act (Board κ) Unit) :=
        (EventBus.publishWithin_candid (room + 1) topic notice).1
      obtain ⟨_, hvalue⟩ := EventBus.deliver_answers (room + 1) hpublish topic (.refreshed recipes) who bus
      rw [Act.forM_cons_state hvalue]
      by_cases hfirst : who = .list
      · subst hfirst
        exact Act.Keeps.forM (fun other => deliver_agrees other room topic recipes) rest _
          (deliver_list h room topic recipes)
      · refine ih ((List.mem_cons.1 hlist).resolve_left (Ne.symm hfirst)) ?_
        exact deliver_attends (fun h => absurd h hfirst) _ _ topic bus h

/-- A rebuilt catalog that is announced is adopted. -/
theorem publish_refreshed {bus : Board κ} (h : Attends bus) (recipes : List Recipe) :
    Agrees recipes (EventBus.publish Topic.catalogRefreshed (.refreshed recipes) bus).state :=
  forM_deliver_list ((h.list_iff _).2 rfl) _ _ recipes (h.of_mark rfl rfl)

/-! ## Other announcements -/

/-- What is announced on another topic is not heard by the list. -/
theorem publish_other {topic : String} (hcatalog : topic ≠ Topic.catalogRefreshed)
    (hselected : topic ≠ Topic.recipeSelected) (notice : Notice) (recipes : List Recipe) :
    Act.Keeps (Agrees recipes) (EventBus.publish topic notice : Act (Board κ) Unit) := by
  intro bus h
  have hquiet : ∀ who ∈ bus.subscribersOf topic, Quiet who notice := by
    rintro _ hwho rfl
    exact absurd ((h.list_iff topic).1 hwho) hcatalog
  obtain ⟨hselection, hsubscribers, hhistory⟩ := Mark.mk.inj (publish_quiet hquiet)
  refine ⟨h.toAttends.of_mark hsubscribers hselection, hselection ▸ h.itemCount_eq, ?_⟩
  rw [EventBus.last?, hhistory, Assoc.get?_put_of_ne hselected.symm, chosen, hselection]
  exact h.last_eq

/-- The choice that is announced is the last one announced. -/
theorem publish_selected {bus : Board κ} (h : Attends bus) {recipes : List Recipe}
    (hcount : bus.world.selection.itemCount = recipes.length) :
    Agrees recipes (EventBus.publish Topic.recipeSelected (.selected (bus.world.chosen recipes)) bus).state := by
  have hquiet : ∀ who ∈ bus.subscribersOf Topic.recipeSelected, Quiet who (.selected (bus.world.chosen recipes)) :=
    fun who _ => quiet_selected who _
  obtain ⟨hselection, hsubscribers, hhistory⟩ := Mark.mk.inj (publish_quiet hquiet)
  refine ⟨h.of_mark hsubscribers hselection, hselection ▸ hcount, ?_⟩
  have hchosen : _ = bus.world.chosen recipes :=
    congrArg (fun selection : Selection => Catalog.get? recipes selection.cursor) hselection
  rw [EventBus.last?, hhistory, Assoc.get?_put_self]
  exact congrArg (fun recipe => some (Notice.selected recipe)) hchosen.symm

/-! ## Who listens -/

omit [Observer κ] in
theorem list_mem_subscribe {who : Listener κ} {topic other : String} {bus : Board κ} :
    .list ∈ (bus.subscribe topic who).subscribersOf other ↔
      .list ∈ bus.subscribersOf other ∨ other = topic ∧ who = .list := by
  rw [EventBus.subscribersOf_subscribe]
  split
  · rename_i h
    rw [h.1, List.mem_append, List.mem_singleton, and_iff_right rfl, eq_comm]
  · rename_i h
    refine ⟨.inl, ?_⟩
    rintro (hlist | ⟨rfl, rfl⟩)
    · exact hlist
    · by_contra hnone
      exact h ⟨rfl, hnone⟩

omit [Observer κ] in
/-- A menu that is attached where no other is listens for rebuilt catalogs. -/
theorem attach_attends {bus : Board κ} (hvalid : bus.world.selection.Valid)
    (halone : ∀ topic, .list ∉ bus.subscribersOf topic) : Attends (attach bus) where
  list_iff topic := by
    simp only [attach, list_mem_subscribe, halone topic, reduceCtorEq, and_false, or_false, false_or, and_true]
  valid := by
    rw [attach, (EventBus.subscribe_same _ _ _).1, (EventBus.subscribe_same _ _ _).1, (EventBus.subscribe_same _ _ _).1]
    exact hvalid

omit [DecidableEq κ] [Observer κ] in
theorem Agrees.of_subscribers {recipes : List Recipe} {bus other : Board κ} (h : Agrees recipes bus)
    (hsame : other.world = bus.world ∧ other.history = bus.history ∧ other.journal = bus.journal)
    (hlist : ∀ topic, .list ∈ other.subscribersOf topic ↔ .list ∈ bus.subscribersOf topic) : Agrees recipes other := by
  obtain ⟨hworld, hhistory, -⟩ := hsame
  refine ⟨⟨fun topic => (hlist topic).trans (h.list_iff topic), hworld ▸ h.valid⟩, hworld ▸ h.itemCount_eq, ?_⟩
  rw [EventBus.last?, hhistory, hworld]
  exact h.last_eq

omit [Observer κ] in
theorem subscribe_agrees (topic : String) (guest : κ) {recipes : List Recipe} {bus : Board κ}
    (h : Agrees recipes bus) : Agrees recipes (bus.subscribe topic (.guest guest)) := by
  refine h.of_subscribers (EventBus.subscribe_same _ _ _) fun other => ?_
  simp only [list_mem_subscribe, reduceCtorEq, and_false, or_false]

omit [Observer κ] in
theorem unsubscribe_agrees (topic : String) (guest : κ) {recipes : List Recipe} {bus : Board κ}
    (h : Agrees recipes bus) : Agrees recipes (bus.unsubscribe topic (.guest guest)) := by
  refine h.of_subscribers (EventBus.unsubscribe_same _ _ _) fun other => ?_
  rw [EventBus.subscribersOf_unsubscribe]
  split
  · rename_i hsame
    have hne : (.list : Listener κ) ≠ .guest guest := nofun
    rw [hsame, List.mem_erase_of_ne hne]
  · exact Iff.rfl

end Crafting.Menu
