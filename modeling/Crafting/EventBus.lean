import Crafting.Act
import Crafting.Assoc

/-!
# The event bus

Announcements go by topic to whoever has subscribed to it. Those called are the subscribers at the moment of the
announcement, each once and in order of subscription, whatever they do meanwhile; one that fails and says why is logged
and stops nobody else. One that leaves, or cannot say why it fails, ends the announcement. The last announcement on every
topic is kept. The bus keeps a journal of what happened on it.

A subscriber answers a call by a reaction: it changes the world that the subscribers share, reports, takes steps on the
bus, and may fail at the end.
-/

namespace Crafting

/-- A step of a subscriber on the bus. -/
inductive BusStep (ι δ : Type) where
  | subscribe (topic : String) (who : ι)
  | unsubscribe (topic : String) (who : ι)
  | publish (topic : String) (data : δ)
  /-- Forgets the last announcements, of all topics unless some are given. -/
  | clear (topics : Option (List String))

structure Reaction (ι δ ω : Type) where
  world : ω
  log : List Log.Entry := []
  steps : List (BusStep ι δ) := []
  /-- How the subscriber ends. -/
  ending : Except Failure Unit := .ok ()

class Audience (ι δ ω : Type) where
  react : ι → String → δ → ω → Reaction ι δ ω

/-- What happened on a bus; `room` is how deep announcements could still nest. -/
inductive BusEvent (ι δ : Type) where
  | published (room : Nat) (topic : String) (data : δ)
  | called (room : Nat) (who : ι) (topic : String) (data : δ)
  | cleared (topics : Option (List String))

structure EventBus (ι δ ω : Type) where
  world : ω
  subscribers : List (String × List ι) := []
  history : List (String × δ) := []
  journal : List (BusEvent ι δ) := []

namespace EventBus

variable {ι δ ω : Type} [DecidableEq ι]

/-- The subscribers to a topic, in order of subscription. -/
def subscribersOf (bus : EventBus ι δ ω) (topic : String) : List ι :=
  (Assoc.get? topic bus.subscribers).getD []

/-- The last announcement on a topic, unless it was cleared. -/
def last? (bus : EventBus ι δ ω) (topic : String) : Option δ :=
  Assoc.get? topic bus.history

def subscribe (topic : String) (who : ι) (bus : EventBus ι δ ω) : EventBus ι δ ω :=
  let present := bus.subscribersOf topic
  if who ∈ present then bus else { bus with subscribers := Assoc.put topic (present ++ [who]) bus.subscribers }

/-- A topic whose last subscriber goes is dropped. -/
def unsubscribe (topic : String) (who : ι) (bus : EventBus ι δ ω) : EventBus ι δ ω :=
  let present := bus.subscribersOf topic
  if who ∈ present then
    match present.erase who with
    | [] => { bus with subscribers := Assoc.remove topic bus.subscribers }
    | others => { bus with subscribers := Assoc.put topic others bus.subscribers }
  else bus

def clear (topics : Option (List String)) (bus : EventBus ι δ ω) : EventBus ι δ ω :=
  let history := match topics with
    | none => []
    | some topics => topics.foldl (fun history topic => Assoc.remove topic history) bus.history
  { bus with history, journal := bus.journal ++ [.cleared topics] }

/-! ## Announcing -/

variable [Audience ι δ ω]

def logSource : String := "EventSystem"

/-- Takes a step, announcing by `publish`. -/
def take (publish : String → δ → Act (EventBus ι δ ω) Unit) : BusStep ι δ → Act (EventBus ι δ ω) Unit
  | .subscribe topic who => .modify (subscribe topic who)
  | .unsubscribe topic who => .modify (unsubscribe topic who)
  | .publish topic data => publish topic data
  | .clear topics => .modify (clear topics)

/-- Calls one subscriber. -/
def call (room : Nat) (publish : String → δ → Act (EventBus ι δ ω) Unit) (topic : String) (data : δ) (who : ι) :
    Act (EventBus ι δ ω) Unit := do
  let bus ← Act.get
  let reaction := Audience.react who topic data bus.world
  .set { bus with world := reaction.world, journal := bus.journal ++ [.called room who topic data] }
  reaction.log.forM .log
  reaction.steps.forM (take publish)
  .ofExcept reaction.ending

/-- The report on the failure of a subscriber, if it can be told. -/
def failedText (topic : String) (failure : Failure) : Except Failure String :=
  failure.toldAfter (.ok ("Error in event callback for " ++ topic ++ ": "))

/-- Calls one subscriber and logs its failure. -/
def deliver (room : Nat) (publish : String → δ → Act (EventBus ι δ ω) Unit) (topic : String) (data : δ) (who : ι) :
    Act (EventBus ι δ ω) Unit := do
  match ← Act.attempt (call room publish topic data who) with
  | .ok () => pure ()
  | .error failure => .report (Log.error logSource) (failedText topic failure)

/-- Announces on a topic, where announcements may nest as deep as `room`. -/
def publishWithin : (room : Nat) → (topic : String) → (data : δ) → Act (EventBus ι δ ω) Unit
  | 0, _, _ => .fail .tooDeep
  | room + 1, topic, data => do
      let bus ← Act.get
      .set { bus with
        history := Assoc.put topic data bus.history, journal := bus.journal ++ [.published room topic data] }
      (bus.subscribersOf topic).forM (deliver room (publishWithin room) topic data)

/-- How deep announcements may nest. -/
def nesting : Nat := 1000

/-- Announces on a topic. -/
def publish (topic : String) (data : δ) : Act (EventBus ι δ ω) Unit :=
  publishWithin nesting topic data

end EventBus

end Crafting
