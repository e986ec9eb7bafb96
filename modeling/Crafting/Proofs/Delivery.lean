import Mathlib.Data.List.Nodup
import Crafting.Proofs.Assoc
import Crafting.Proofs.EventBus

/-!
# Moments of a bus

What holds on a bus at every moment, also in the midst of announcements that nest: no topic lists a subscriber twice or
is kept without one, and the history tells of the last announcement on each topic. An announcement that is begun at any
moment, by the host or by a subscriber, calls those who are subscribed at that moment, and each of them does what it does
when called. It does not fail unless one of them leaves.
-/

namespace Crafting

variable {ι δ ω : Type}

namespace BusEvent

/-- An event that lies deeper than an announcement with that much room left inside. -/
def Below (room : Nat) : BusEvent ι δ → Prop
  | .published inner _ _ | .called inner _ _ _ => inner < room
  | .cleared _ => True

/-- The last announcement on a topic once this has happened too. -/
def lastAfter (topic : String) (last : Option δ) : BusEvent ι δ → Option δ
  | .published _ other data => if topic = other then some data else last
  | .called _ _ _ _ => last
  | .cleared none => none
  | .cleared (some topics) => if topic ∈ topics then none else last

end BusEvent

namespace EventBus

/-- The last announcement on a topic that was begun since the topic was last cleared. -/
def lastOf (topic : String) (journal : List (BusEvent ι δ)) : Option δ :=
  journal.foldl (BusEvent.lastAfter topic) none

/-- No topic is kept twice, or without a subscriber, or lists a subscriber twice. -/
structure Tidy (bus : EventBus ι δ ω) : Prop where
  distinct : Assoc.Distinct bus.subscribers
  listed : ∀ entry ∈ bus.subscribers, entry.2 ≠ [] ∧ entry.2.Nodup

/-- The history holds what was last announced on each topic. -/
def Recalls (bus : EventBus ι δ ω) : Prop :=
  ∀ topic, bus.last? topic = lastOf topic bus.journal

theorem Tidy.nodup {bus : EventBus ι δ ω} (h : bus.Tidy) (topic : String) : (bus.subscribersOf topic).Nodup := by
  unfold subscribersOf
  cases hget : Assoc.get? topic bus.subscribers with
  | none => exact List.nodup_nil
  | some present => exact (h.listed (topic, present) (Assoc.mem_of_get?_eq_some hget)).2

theorem lastOf_append (topic : String) (journal : List (BusEvent ι δ)) (event : BusEvent ι δ) :
    lastOf topic (journal ++ [event]) = event.lastAfter topic (lastOf topic journal) :=
  List.foldl_append

/-- The bus when an announcement is put down and nobody is called yet. -/
def opened (room : Nat) (topic : String) (data : δ) (bus : EventBus ι δ ω) : EventBus ι δ ω :=
  { bus with
    history := Assoc.put topic data bus.history
    journal := bus.journal ++ [.published room topic data] }

variable [DecidableEq ι] [Audience ι δ ω]

/-- The bus when a subscriber is called and has taken no step yet. -/
def calling (room : Nat) (topic : String) (data : δ) (who : ι) (bus : EventBus ι δ ω) : EventBus ι δ ω :=
  { bus with
    world := (Audience.react who topic data bus.world).world
    journal := bus.journal ++ [.called room who topic data] }

/-- What comes of a subscriber that is called: it takes its steps, and then it ends. -/
def reacting (room : Nat) (topic : String) (data : δ) (who : ι) (bus : EventBus ι δ ω) : Run (EventBus ι δ ω) Unit :=
  let reaction := Audience.react who topic data bus.world
  (reaction.steps.forM (take (publishWithin room)) >>= fun _ => Act.ofExcept reaction.ending)
    (bus.calling room topic data who)

/-- The word in the log on how a subscriber ended. -/
def complaint (topic : String) : Except Failure Unit → List Log.Entry
  | .ok () => []
  | .error failure => (failedText topic failure).toOption.toList.map (Log.error logSource)

/-- Whoever ends so is not kept by the announcement. -/
def Leaves (topic : String) (ending : Except Failure Unit) (next : Failure) : Prop :=
  ∃ failure, ending = .error failure ∧ failedText topic failure = .error next

/-- The bus once these subscribers were called one after another, and what was reported meanwhile. -/
def served (room : Nat) (topic : String) (data : δ) : List ι → EventBus ι δ ω → EventBus ι δ ω × List Log.Entry
  | [], bus => (bus, [])
  | who :: rest, bus =>
      let run := bus.reacting room topic data who
      let said := (Audience.react who topic data bus.world).log ++ run.log ++ complaint topic run.value
      ((served room topic data rest run.state).1, said ++ (served room topic data rest run.state).2)

/-- The bus amid an announcement, when these subscribers were called. -/
def amid (room : Nat) (topic : String) (data : δ) (called : List ι) (bus : EventBus ι δ ω) : EventBus ι δ ω :=
  (served room topic data called (bus.opened room topic data)).1

/-! ## Moments -/

/-- A moment: the bus, the steps that are left to whoever is at work there, and how deep their announcements may nest. -/
structure Moment (ι δ ω : Type) where
  room : Nat
  steps : List (BusStep ι δ)
  bus : EventBus ι δ ω

/-- The moments that come while steps are taken: each step may be the next, and within an announcement each of the
subscribers that are called takes its own, if none before it left. -/
inductive Moment.Reaches : Moment ι δ ω → Moment ι δ ω → Prop where
  | here (m : Moment ι δ ω) : Reaches m m
  | later {room : Nat} {step : BusStep ι δ} {rest : List (BusStep ι δ)} {bus : EventBus ι δ ω} {m : Moment ι δ ω}
      (htaken : (take (publishWithin room) step bus).value = .ok ())
      (h : Reaches ⟨room, rest, (take (publishWithin room) step bus).state⟩ m) : Reaches ⟨room, step :: rest, bus⟩ m
  | inside {room : Nat} {topic : String} {data : δ} {rest : List (BusStep ι δ)} {bus : EventBus ι δ ω}
      {called left : List ι} {who : ι} {m : Moment ι δ ω} (hwho : bus.subscribersOf topic = called ++ who :: left)
      (hkept : (called.forM (deliver room (publishWithin room) topic data) (bus.opened room topic data)).value = .ok ())
      (h : Reaches ⟨room, (Audience.react who topic data (bus.amid room topic data called).world).steps,
        (bus.amid room topic data called).calling room topic data who⟩ m) :
      Reaches ⟨room + 1, .publish topic data :: rest, bus⟩ m

/-! ## Deliveries -/

/-- Such events are the calls of these subscribers in order, each with what nests in it. -/
inductive Calls (room : Nat) (topic : String) (data : δ) : List ι → List (BusEvent ι δ) → Prop where
  | nil : Calls room topic data [] []
  | cons {who : ι} {rest : List ι} {nested events : List (BusEvent ι δ)}
      (hnested : ∀ event ∈ nested, event.Below room) (hrest : Calls room topic data rest events) :
      Calls room topic data (who :: rest) (.called room who topic data :: (nested ++ events))

/-- What comes of calling these subscribers on this bus: they are called in order, each does what it does when it is
called, and whatever it does is told in the journal behind its call. All of them are called, or all up to one that
leaves. -/
def Serves (room : Nat) (topic : String) (data : δ) (subscribers : List ι) (bus : EventBus ι δ ω)
    (run : Run (EventBus ι δ ω) Unit) : Prop :=
  ∃ called left events, subscribers = called ++ left ∧
    bus.served room topic data called = (run.state, run.log) ∧
    Calls room topic data called events ∧ run.state.journal = bus.journal ++ events ∧
    (run.value = .ok () ∧ left = [] ∨
      ∃ front who next, called = front ++ [who] ∧ run.value = .error next ∧
        Leaves topic ((bus.served room topic data front).1.reacting room topic data who).value next)

/-- To announce here is to put the announcement down and to call those who are subscribed to the topic on this bus. It
does not fail if no subscriber ever leaves. -/
def Delivers (room : Nat) (topic : String) (data : δ) (bus : EventBus ι δ ω) : Prop :=
  let run := publishWithin (room + 1) topic data bus
  Serves room topic data (bus.subscribersOf topic) (bus.opened room topic data) run ∧
    (Audience.Candid ι δ ω → run.value = .ok ())

/-- What a step does to a bus. -/
def Does (room : Nat) (bus : EventBus ι δ ω) (step : BusStep ι δ) : Prop :=
  let after := (take (publishWithin room) step bus).state
  match step with
  | .subscribe topic who =>
      (∀ other, after.subscribersOf other =
        if other = topic ∧ who ∉ bus.subscribersOf topic then bus.subscribersOf topic ++ [who]
        else bus.subscribersOf other) ∧
      ∀ other, after.last? other = bus.last? other
  | .unsubscribe topic who =>
      (∀ other, after.subscribersOf other =
        if other = topic then (bus.subscribersOf topic).erase who else bus.subscribersOf other) ∧
      ∀ other, after.last? other = bus.last? other
  | .clear topics =>
      (∀ other, after.subscribersOf other = bus.subscribersOf other) ∧
      ∀ other, after.last? other = if topics.all (other ∈ ·) then none else bus.last? other
  | .publish topic data =>
      ∀ inner, room = inner + 1 → (bus.subscribersOf topic).Nodup ∧ bus.Delivers inner topic data

/-! ## What nothing breaks that happens on a bus -/

/-- Nothing that happens on a bus breaks the property, where announcements nest as deep as `room`. -/
structure Steady (room : Nat) (holds : EventBus ι δ ω → Prop) : Prop where
  subscribe : ∀ topic who bus, holds bus → holds (bus.subscribe topic who)
  unsubscribe : ∀ topic who bus, holds bus → holds (bus.unsubscribe topic who)
  clear : ∀ topics bus, holds bus → holds (bus.clear topics)
  opened : ∀ inner < room, ∀ topic data bus, holds bus → holds (bus.opened inner topic data)
  calling : ∀ inner < room, ∀ topic data who bus, holds bus → holds (bus.calling inner topic data who)

namespace Steady

variable {room : Nat} {holds : EventBus ι δ ω → Prop}

theorem mono (h : Steady room holds) {inner : Nat} (hinner : inner ≤ room) : Steady inner holds where
  subscribe := h.subscribe
  unsubscribe := h.unsubscribe
  clear := h.clear
  opened deeper hdeeper := h.opened deeper (by omega)
  calling deeper hdeeper := h.calling deeper (by omega)

theorem take (h : Steady room holds) {publish : String → δ → Act (EventBus ι δ ω) Unit}
    (hpublish : ∀ topic data, Act.Keeps holds (publish topic data)) (step : BusStep ι δ) :
    Act.Keeps holds (EventBus.take publish step) := by
  cases step with
  | subscribe topic who => exact fun bus hbus => h.subscribe topic who bus hbus
  | unsubscribe topic who => exact fun bus hbus => h.unsubscribe topic who bus hbus
  | publish topic data => exact hpublish topic data
  | clear topics => exact fun bus hbus => h.clear topics bus hbus

theorem deliver (h : Steady room holds) {inner : Nat} (hinner : inner < room)
    {publish : String → δ → Act (EventBus ι δ ω) Unit} (hpublish : ∀ topic data, Act.Keeps holds (publish topic data))
    (topic : String) (data : δ) (who : ι) : Act.Keeps holds (EventBus.deliver inner publish topic data who) :=
  deliver_keeps_of (call_keeps_of fun bus hbus =>
    ⟨h.calling inner hinner topic data who bus hbus, fun step _ => h.take hpublish step⟩)

theorem publishWithin (h : Steady room holds) (topic : String) (data : δ) :
    Act.Keeps holds (EventBus.publishWithin room topic data) := by
  -- The subscribers that are called announce with less room, and the property is steady there too.
  induction room generalizing topic data with
  | zero => exact .fail _
  | succ room ih =>
      intro bus hbus
      have hinner : ∀ topic data, Act.Keeps holds (EventBus.publishWithin room topic data) :=
        ih (h.mono (Nat.le_succ room))
      exact Act.Keeps.forM (h.deliver (Nat.lt_succ_self room) hinner topic data) _ _
        (h.opened room (Nat.lt_succ_self room) topic data bus hbus)

theorem reacting (h : Steady (room + 1) holds) {topic : String} {data : δ} {who : ι} {bus : EventBus ι δ ω}
    (hbus : holds bus) : holds (bus.reacting room topic data who).state :=
  (Act.Keeps.forM (h.take (h.mono (Nat.le_succ room)).publishWithin) _ |>.bind fun _ => .ofExcept _) _
    (h.calling room (Nat.lt_succ_self room) topic data who bus hbus)

theorem served (h : Steady (room + 1) holds) {topic : String} {data : δ} (called : List ι) {bus : EventBus ι δ ω}
    (hbus : holds bus) : holds (bus.served room topic data called).1 := by
  induction called generalizing bus with
  | nil => exact hbus
  | cons who rest ih => exact ih (h.reacting hbus)

theorem amid (h : Steady (room + 1) holds) {topic : String} {data : δ} {bus : EventBus ι δ ω} (hbus : holds bus)
    (called : List ι) : holds (bus.amid room topic data called) :=
  h.served called (h.opened room (Nat.lt_succ_self room) topic data bus hbus)

/-- What nothing breaks holds at every moment to come. -/
theorem reaches {m n : Moment ι δ ω} (h : Steady m.room holds) (hreach : m.Reaches n) (hm : holds m.bus) :
    holds n.bus := by
  induction hreach with
  | here m => exact hm
  | later htaken _ ih => exact ih h (h.take h.publishWithin _ _ hm)
  | inside hwho _ _ ih =>
      exact ih (h.mono (Nat.le_succ _)) (h.calling _ (Nat.lt_succ_self _) _ _ _ _ (h.amid hm _))

end Steady

/-! ## Subscribers and history -/

theorem tidy_steady (room : Nat) : Steady room (Tidy : EventBus ι δ ω → Prop) where
  subscribe topic who bus h := by
    unfold EventBus.subscribe
    by_cases hpresent : who ∈ bus.subscribersOf topic
    · simp only [if_pos hpresent]
      exact h
    · simp only [if_neg hpresent]
      have hnodup : (bus.subscribersOf topic ++ [who]).Nodup :=
        (h.nodup topic).append (List.nodup_singleton who) (List.disjoint_singleton.2 hpresent)
      exact ⟨Assoc.distinct_put _ _ h.distinct,
        Assoc.forall_mem_put h.listed ⟨List.append_ne_nil_of_right_ne_nil _ (List.cons_ne_nil _ _), hnodup⟩⟩
  unsubscribe topic who bus h := by
    unfold EventBus.unsubscribe
    by_cases hpresent : who ∈ bus.subscribersOf topic
    · simp only [if_pos hpresent]
      have hnodup : ((bus.subscribersOf topic).erase who).Nodup := (h.nodup topic).erase who
      -- The topic goes with its last subscriber.
      split
      · exact ⟨Assoc.distinct_remove _ h.distinct, Assoc.forall_mem_remove h.listed topic⟩
      · rename_i hothers
        exact ⟨Assoc.distinct_put _ _ h.distinct, Assoc.forall_mem_put h.listed ⟨hothers, hnodup⟩⟩
    · simp only [if_neg hpresent]
      exact h
  clear _ _ h := ⟨h.distinct, h.listed⟩
  opened _ _ _ _ _ h := ⟨h.distinct, h.listed⟩
  calling _ _ _ _ _ _ h := ⟨h.distinct, h.listed⟩

theorem recalls_steady (room : Nat) : Steady room (Recalls : EventBus ι δ ω → Prop) where
  subscribe topic who bus h := by
    obtain ⟨-, hhistory, hjournal⟩ := subscribe_same topic who bus
    unfold Recalls last?
    rw [hhistory, hjournal]
    exact h
  unsubscribe topic who bus h := by
    obtain ⟨-, hhistory, hjournal⟩ := unsubscribe_same topic who bus
    unfold Recalls last?
    rw [hhistory, hjournal]
    exact h
  clear topics bus h topic := by
    simp only [EventBus.clear, last?, lastOf_append, ← h topic]
    cases topics with
    | none => rfl
    | some topics => exact Assoc.get?_removeAll topics topic bus.history
  opened inner _ topic data bus h other := by
    simp only [EventBus.opened, last?, lastOf_append, ← h other, BusEvent.lastAfter]
    split
    · rename_i hother
      rw [hother, Assoc.get?_put_self]
    · rename_i hother
      rw [Assoc.get?_put_of_ne hother]
  calling inner _ topic data who bus h other := by
    rw [EventBus.calling, lastOf_append]
    exact h other

/-! ## What is told of an announcement -/

theorem call_run (room : Nat) (topic : String) (data : δ) (who : ι) (bus : EventBus ι δ ω) :
    let run := bus.reacting room topic data who
    call room (publishWithin room) topic data who bus =
      ⟨run.value, run.state, (Audience.react who topic data bus.world).log ++ run.log⟩ := by
  intro run
  rw [call, Act.run_bind_of_ok rfl]
  simp only [Act.run_get]
  rw [Act.run_bind_of_ok rfl]
  simp only [Act.run_set]
  rw [Act.run_bind_of_ok (congrArg Run.value (Act.run_forM_log _ _)), Act.run_forM_log]
  rfl

/-- A subscriber that is called does what it does; how it ends is reported, unless it leaves. -/
theorem deliver_run (room : Nat) (topic : String) (data : δ) (who : ι) (bus : EventBus ι δ ω) :
    let run := bus.reacting room topic data who
    deliver room (publishWithin room) topic data who bus =
      ⟨match run.value with
        | .ok () => .ok ()
        | .error failure => (failedText topic failure).map fun _ => (),
        run.state, (Audience.react who topic data bus.world).log ++ run.log ++ complaint topic run.value⟩ := by
  intro run
  rw [deliver, Act.run_bind_of_ok rfl]
  simp only [Act.run_attempt, call_run]
  cases run.value with
  | ok u =>
      simp only [Act.run_pure, complaint]
      rfl
  | error failure =>
      simp only [complaint]
      cases failedText topic failure <;> rfl

/-- What happens on a bus is added to its journal, and lies below the room that there is. -/
theorem adds_steady (room : Nat) (before : List (BusEvent ι δ)) :
    Steady room fun bus : EventBus ι δ ω =>
      ∃ nested, bus.journal = before ++ nested ∧ ∀ event ∈ nested, event.Below room := by
  have hadd : ∀ (bus after : EventBus ι δ ω) (event : BusEvent ι δ), after.journal = bus.journal ++ [event] →
      event.Below room → (∃ nested, bus.journal = before ++ nested ∧ ∀ event ∈ nested, event.Below room) →
      ∃ nested, after.journal = before ++ nested ∧ ∀ event ∈ nested, event.Below room := by
    rintro bus after event hafter hbelow ⟨nested, hjournal, hnested⟩
    refine ⟨nested ++ [event], ?_, List.forall_mem_append.2 ⟨hnested, List.forall_mem_singleton.2 hbelow⟩⟩
    rw [hafter, hjournal, List.append_assoc]
  refine ⟨fun topic who bus h => ?_, fun topic who bus h => ?_, fun topics bus h => hadd bus _ _ rfl trivial h,
    fun inner hinner topic data bus h => hadd bus _ _ rfl hinner h,
    fun inner hinner topic data who bus h => hadd bus _ _ rfl hinner h⟩
  · rwa [(subscribe_same topic who bus).2.2]
  · rwa [(unsubscribe_same topic who bus).2.2]

/-- To call subscribers one after another is to serve them, up to one that leaves. -/
theorem serves_of_forM (room : Nat) (topic : String) (data : δ) (subscribers : List ι) (bus : EventBus ι δ ω) :
    Serves room topic data subscribers bus (subscribers.forM (deliver room (publishWithin room) topic data) bus) := by
  induction subscribers generalizing bus with
  | nil => exact ⟨[], [], [], rfl, rfl, .nil, (List.append_nil _).symm, .inl ⟨rfl, rfl⟩⟩
  | cons who rest ih =>
      -- What the first one does is told behind its call.
      obtain ⟨nested, hfirst, hnested⟩ : ∃ nested,
          (bus.reacting room topic data who).state.journal = (bus.calling room topic data who).journal ++ nested ∧
            ∀ event ∈ nested, event.Below room :=
        (Act.Keeps.forM ((adds_steady room _).take (adds_steady room _).publishWithin) _ |>.bind fun _ =>
          .ofExcept _) (bus.calling room topic data who) ⟨[], (List.append_nil _).symm, List.forall_mem_nil _⟩
      have hrun := deliver_run room topic data who bus
      cases hkept : (deliver room (publishWithin room) topic data who bus).value with
      | ok u =>
          obtain ⟨called, left, events, rfl, hserved, hcalls, hjournal, hending⟩ :=
            ih (bus.reacting room topic data who).state
          have hstate : (deliver room (publishWithin room) topic data who bus).state =
              (bus.reacting room topic data who).state := by rw [hrun]
          have hlog : (deliver room (publishWithin room) topic data who bus).log =
              (Audience.react who topic data bus.world).log ++ (bus.reacting room topic data who).log ++
                complaint topic (bus.reacting room topic data who).value := by rw [hrun]
          have hall : (who :: (called ++ left)).forM (deliver room (publishWithin room) topic data) bus = _ :=
            Act.run_bind_of_ok hkept fun _ => (called ++ left).forM _
          rw [hall, hstate]
          refine ⟨who :: called, left, .called room who topic data :: (nested ++ events), rfl, ?_,
            .cons hnested hcalls, ?_, ?_⟩
          · rw [served, hserved, hlog]
          · rw [hjournal, hfirst]
            simp [calling]
          · refine hending.imp id ?_
            rintro ⟨front, last, next, rfl, hvalue, hleaves⟩
            exact ⟨who :: front, last, next, rfl, hvalue, hleaves⟩
      | error next =>
          have hstop : (who :: rest).forM (deliver room (publishWithin room) topic data) bus = _ :=
            Act.run_bind_of_error hkept fun _ => rest.forM _
          rw [hstop]
          refine ⟨[who], rest, .called room who topic data :: (nested ++ []), rfl, ?_, .cons hnested .nil, ?_,
            .inr ⟨[], who, next, rfl, rfl, ?_⟩⟩
          · rw [hrun]
            simp only [served, List.append_nil]
          · rw [hrun, List.append_nil, hfirst]
            simp [calling]
          · rw [hrun] at hkept
            simp only [served]
            cases hvalue : (bus.reacting room topic data who).value with
            | ok u => rw [hvalue] at hkept; cases hkept
            | error failure =>
                rw [hvalue] at hkept
                exact ⟨failure, rfl, Result.map_eq_error_iff.1 hkept⟩

theorem delivers (room : Nat) (topic : String) (data : δ) (bus : EventBus ι δ ω) : bus.Delivers room topic data :=
  ⟨serves_of_forM room topic data (bus.subscribersOf topic) (bus.opened room topic data),
    fun _ => publishWithin_value room topic data bus⟩

theorem does (room : Nat) (step : BusStep ι δ) {bus : EventBus ι δ ω} (h : bus.Tidy) : bus.Does room step := by
  cases step with
  | subscribe topic who =>
      refine ⟨subscribersOf_subscribe topic who bus, fun other => ?_⟩
      show (bus.subscribe topic who).last? other = _
      rw [last?, (subscribe_same topic who bus).2.1, last?]
  | unsubscribe topic who =>
      refine ⟨subscribersOf_unsubscribe topic who bus, fun other => ?_⟩
      show (bus.unsubscribe topic who).last? other = _
      rw [last?, (unsubscribe_same topic who bus).2.1, last?]
  | publish topic data => exact fun inner _ => ⟨h.nodup topic, delivers inner topic data bus⟩
  | clear topics =>
      refine ⟨fun other => rfl, fun other => ?_⟩
      cases topics with
      | none => rfl
      | some topics =>
          have hremoved := Assoc.get?_removeAll topics other bus.history
          simpa [last?, take, clear] using hremoved

/-! ## Every moment -/

/-- With room left, and no subscriber that leaves, no step fails, so taking them one after another leads to the end. -/
theorem Moment.reaches_end [Audience.Candid ι δ ω] (room : Nat) (steps : List (BusStep ι δ)) (bus : EventBus ι δ ω) :
    Reaches ⟨room + 1, steps, bus⟩
      ⟨room + 1, [], (steps.forM (EventBus.take (publishWithin (room + 1))) bus).state⟩ := by
  induction steps generalizing bus with
  | nil => exact .here _
  | cons step rest ih =>
      have htaken : (EventBus.take (publishWithin (room + 1)) step bus).value = .ok () := by
        cases step with
        | subscribe topic who => rfl
        | unsubscribe topic who => rfl
        | publish topic data => exact publishWithin_value room topic data bus
        | clear topics => rfl
      rw [Act.forM_cons_state htaken]
      exact .later htaken (ih _)

end EventBus

end Crafting

namespace Crafting.Sample

open EventBus

/-- Those who live in a house. The porter goes when the door bell rings, and sends for the cook first. -/
inductive Servant where
  | porter
  | cook
  | grump
  deriving DecidableEq

instance : Audience Servant Nat Unit where
  react
    | .porter, _, ring, world =>
        { world, steps := [.unsubscribe "door" .porter, .subscribe "kitchen" .cook, .publish "kitchen" ring] }
    | .cook, _, _, world => { world, steps := [.clear (some ["door"])] }
    | .grump, _, _, world => { world, ending := .error (.refused "not today") }

def evening : List (BusStep Servant Nat) :=
  [.subscribe "door" .porter, .subscribe "door" .grump, .publish "door" 7]

/-- The moment at which the porter rings for the cook. -/
def ringing : Moment Servant Nat Unit where
  room := 1
  steps := [.publish "kitchen" 7]
  bus := {
    world := (), subscribers := [("door", [.grump]), ("kitchen", [.cook])], history := [("door", 7)]
    journal := [.published 1 "door" 7, .called 1 .porter "door" 7] }

instance : Audience.Candid Servant Nat Unit where
  ending who topic data world failure h := by
    cases who with
    | grump =>
        cases h
        trivial
    | porter | cook => cases h

end Crafting.Sample
