import Crafting.EventBus
import Crafting.Proofs.Act

/-!
# Announcements

A bus never fails whoever announces on it, unless a subscriber leaves, and announces each time exactly what it was given:
what its subscribers announce while they are called nests inside, and is no announcement of the bus's own. On topics of
which they keep clear nothing else is heard either.
-/

namespace Crafting

variable {ι δ ω : Type}

/-- An announcement on the bus itself, outside any call of a subscriber. -/
def BusEvent.announcement? : BusEvent ι δ → Option (String × δ)
  | .published room topic data => if room + 1 = EventBus.nesting then some (topic, data) else none
  | .called _ _ _ _ | .cleared _ => none

/-- An announcement that is picked by the room that it had and its topic. -/
def BusEvent.picked? (picks : Nat → String → Bool) : BusEvent ι δ → Option (String × δ)
  | .published room topic data => if picks room topic then some (topic, data) else none
  | .called _ _ _ _ | .cleared _ => none

/-- Whatever a subscriber does when it is called, it announces nothing on these topics. -/
def Audience.Abstains (ι δ ω : Type) [Audience ι δ ω] (topics : List String) : Prop :=
  ∀ (who : ι) (topic : String) (data : δ) (world : ω), ∀ step ∈ (Audience.react who topic data world).steps,
    ∀ other word, step = .publish other word → other ∉ topics

/-- Whatever makes a subscriber fail can be told: none leaves. -/
class Audience.Candid (ι δ ω : Type) [Audience ι δ ω] : Prop where
  ending : ∀ (who : ι) (topic : String) (data : δ) (world : ω) (failure : Failure),
    (Audience.react who topic data world).ending = .error failure → failure.Tellable

namespace EventBus

def announced (bus : EventBus ι δ ω) : List (String × δ) :=
  bus.journal.filterMap BusEvent.announcement?

def picked (picks : Nat → String → Bool) (bus : EventBus ι δ ω) : List (String × δ) :=
  bus.journal.filterMap (BusEvent.picked? picks)

/-- What was announced on these topics, by whomever. -/
def heard (topics : List String) (bus : EventBus ι δ ω) : List (String × δ) :=
  bus.picked fun _ topic => topic ∈ topics

variable [DecidableEq ι]

/-! ## Subscribing -/

theorem subscribersOf_subscribe (topic : String) (who : ι) (bus : EventBus ι δ ω) (other : String) :
    (bus.subscribe topic who).subscribersOf other =
      if other = topic ∧ who ∉ bus.subscribersOf topic then bus.subscribersOf topic ++ [who]
      else bus.subscribersOf other := by
  unfold subscribe
  by_cases hpresent : who ∈ bus.subscribersOf topic
  · rw [if_pos hpresent, if_neg fun h => h.2 hpresent]
  · simp only [if_neg hpresent]
    by_cases hother : other = topic
    · subst hother
      rw [if_pos ⟨rfl, hpresent⟩]
      simp only [subscribersOf, Assoc.get?_put_self, Option.getD_some]
    · rw [if_neg fun h => hother h.1]
      simp only [subscribersOf, Assoc.get?_put_of_ne hother]

theorem subscribersOf_unsubscribe (topic : String) (who : ι) (bus : EventBus ι δ ω) (other : String) :
    (bus.unsubscribe topic who).subscribersOf other =
      if other = topic then (bus.subscribersOf topic).erase who else bus.subscribersOf other := by
  unfold unsubscribe
  by_cases hpresent : who ∈ bus.subscribersOf topic
  · simp only [if_pos hpresent]
    by_cases hother : other = topic
    · subst hother
      rw [if_pos rfl]
      split
      · rename_i hothers
        rw [hothers, subscribersOf, Assoc.get?_remove_self, Option.getD_none]
      · rename_i hothers
        simp only [subscribersOf, Assoc.get?_put_self, Option.getD_some] at hothers ⊢
    · rw [if_neg hother]
      split <;> simp only [subscribersOf, Assoc.get?_put_of_ne hother, Assoc.get?_remove_of_ne hother]
  · simp only [if_neg hpresent]
    split
    · rename_i hother
      rw [List.erase_of_not_mem hpresent, hother]
    · rfl

/-- Who listens is all that subscribing changes. -/
theorem subscribe_same (topic : String) (who : ι) (bus : EventBus ι δ ω) :
    (bus.subscribe topic who).world = bus.world ∧ (bus.subscribe topic who).history = bus.history ∧
      (bus.subscribe topic who).journal = bus.journal := by
  unfold subscribe
  simp only
  split <;> exact ⟨rfl, rfl, rfl⟩

theorem unsubscribe_same (topic : String) (who : ι) (bus : EventBus ι δ ω) :
    (bus.unsubscribe topic who).world = bus.world ∧ (bus.unsubscribe topic who).history = bus.history ∧
      (bus.unsubscribe topic who).journal = bus.journal := by
  unfold unsubscribe
  simp only
  split
  · split <;> exact ⟨rfl, rfl, rfl⟩
  · exact ⟨rfl, rfl, rfl⟩

variable [Audience ι δ ω]

/-! ## What a call keeps -/

/-- A call keeps what the subscriber's change of the world and each of its steps keeps. -/
theorem call_keeps_of {holds : EventBus ι δ ω → Prop} {room : Nat} {publish : String → δ → Act (EventBus ι δ ω) Unit}
    {topic : String} {data : δ} {who : ι}
    (h : ∀ bus, holds bus →
      holds { bus with
        world := (Audience.react who topic data bus.world).world
        journal := bus.journal ++ [BusEvent.called room who topic data] } ∧
      ∀ step ∈ (Audience.react who topic data bus.world).steps, Act.Keeps holds (take publish step)) :
    Act.Keeps holds (call room publish topic data who) := by
  intro bus hbus
  obtain ⟨hcalled, hsteps⟩ := h bus hbus
  exact (Act.Keeps.forM (fun entry => .log entry) _ |>.bind fun _ =>
    (Act.Keeps.forM_of_mem hsteps).bind fun _ => .ofExcept _) _ hcalled

/-- What a subscriber's failure adds is a word in the log. -/
theorem deliver_state (room : Nat) (publish : String → δ → Act (EventBus ι δ ω) Unit) (topic : String) (data : δ)
    (who : ι) (bus : EventBus ι δ ω) :
    (deliver room publish topic data who bus).state = (call room publish topic data who bus).state := by
  rw [deliver, Act.run_bind_of_ok rfl]
  cases (call room publish topic data who bus).value with
  | ok u => rfl
  | error failure => exact Act.report_state _ _ _

theorem deliver_keeps_of {holds : EventBus ι δ ω → Prop} {room : Nat}
    {publish : String → δ → Act (EventBus ι δ ω) Unit} {topic : String} {data : δ} {who : ι}
    (h : Act.Keeps holds (call room publish topic data who)) :
    Act.Keeps holds (deliver room publish topic data who) := by
  intro bus hbus
  rw [deliver_state]
  exact h bus hbus

/-- A subscriber that does nothing but announce leaves what that announcement leaves. -/
theorem deliver_of_publish {room : Nat} {publish : String → δ → Act (EventBus ι δ ω) Unit} {topic next : String}
    {data word : δ} {who : ι} {bus : EventBus ι δ ω} {world : ω}
    (h : Audience.react who topic data bus.world = { world, steps := [.publish next word] }) :
    (deliver room publish topic data who bus).state =
      (publish next word { bus with world, journal := bus.journal ++ [.called room who topic data] }).state := by
  have hsteps : ∀ s, (([.publish next word] : List (BusStep ι δ)).forM (take publish) s).state =
      (publish next word s).state := by
    intro s
    show ((publish next word >>= fun _ => pure ()) s).state = _
    rw [Act.run_bind]
    split <;> rfl
  -- Before its step the subscriber is called and reports nothing; behind it, it does not fail.
  rw [deliver_state, ← hsteps, call, Act.run_bind_of_ok rfl]
  simp only [Act.run_get, h]
  rw [Act.run_bind_of_ok rfl]
  simp only [Act.run_set]
  rw [Act.run_bind_of_ok rfl, Act.run_bind]
  split <;> rfl

/-! ## Nested announcements -/

omit [DecidableEq ι] [Audience ι δ ω] in
theorem announced_eq_picked (bus : EventBus ι δ ω) :
    bus.announced = bus.picked fun room _ => room + 1 = nesting := by
  unfold announced picked
  congr 1
  funext event
  cases event with
  | published room topic data => simp only [BusEvent.announcement?, BusEvent.picked?, decide_eq_true_eq]
  | called room who topic data => rfl
  | cleared topics => rfl

section Nested

variable {topics : List String} (habstains : Audience.Abstains ι δ ω topics) {picks : Nat → String → Bool}
  {before : List (String × δ)} {publish : String → δ → Act (EventBus ι δ ω) Unit}
  (hpublish : ∀ topic ∉ topics, ∀ data,
    Act.Keeps (fun bus : EventBus ι δ ω => bus.picked picks = before) (publish topic data))

section

include hpublish

omit [Audience ι δ ω] in
theorem take_keeps {step : BusStep ι δ} (hstep : ∀ topic data, step = .publish topic data → topic ∉ topics) :
    Act.Keeps (fun bus : EventBus ι δ ω => bus.picked picks = before) (take publish step) := by
  cases step with
  | subscribe topic who =>
      intro bus hbus
      rw [← hbus]
      show (subscribe topic who bus).picked picks = bus.picked picks
      rw [picked, (subscribe_same topic who bus).2.2, picked]
  | unsubscribe topic who =>
      intro bus hbus
      rw [← hbus]
      show (unsubscribe topic who bus).picked picks = bus.picked picks
      rw [picked, (unsubscribe_same topic who bus).2.2, picked]
  | publish topic data =>
      -- The one step of a subscriber that runs further subscribers.
      exact hpublish topic (hstep topic data rfl) data
  | clear topics =>
      intro bus hbus
      rw [← hbus]
      show (clear topics bus).picked picks = bus.picked picks
      simp [clear, picked, BusEvent.picked?]

include habstains

theorem deliver_keeps (room : Nat) (topic : String) (data : δ) (who : ι) :
    Act.Keeps (fun bus : EventBus ι δ ω => bus.picked picks = before) (deliver room publish topic data who) := by
  refine deliver_keeps_of (call_keeps_of fun bus hbus => ⟨?_, fun step hstep => ?_⟩)
  · rw [← hbus]
    simp [picked, BusEvent.picked?]
  · exact take_keeps hpublish (habstains who topic data bus.world step hstep)

end

include habstains

/-- Where neither an announcement nor any that nests in it is picked, what was picked stays as it is. -/
theorem publishWithin_keeps {room : Nat} (hnested : ∀ inner < room, ∀ topic ∉ topics, picks inner topic = false)
    {topic : String} (htopic : topic ∉ topics) (data : δ) :
    Act.Keeps (fun bus : EventBus ι δ ω => bus.picked picks = before) (publishWithin room topic data) := by
  -- Each call of a subscriber announces with less room than the announcement that called it.
  induction room generalizing topic data with
  | zero => exact .fail _
  | succ room ih =>
      intro bus hbus
      have hpublished : { bus with
          history := Assoc.put topic data bus.history
          journal := bus.journal ++ [BusEvent.published room topic data] }.picked picks = before := by
        rw [← hbus]
        simp [picked, BusEvent.picked?, hnested room (Nat.lt_succ_self room) topic htopic]
      have hinner : ∀ other ∉ topics, ∀ word, Act.Keeps (fun bus : EventBus ι δ ω => bus.picked picks = before)
          (publishWithin room other word) :=
        fun other hother word => ih (fun inner hinner => hnested inner (by omega)) hother word
      exact Act.Keeps.forM (deliver_keeps habstains hinner room topic data) _ _ hpublished

/-- An announcement that is picked, with none that nests in it, adds itself to what was picked. -/
theorem publishWithin_picked (room : Nat) (hnested : ∀ inner < room, ∀ topic ∉ topics, picks inner topic = false)
    {topic : String} (htopic : picks room topic = true) (data : δ) (bus : EventBus ι δ ω) :
    (publishWithin (room + 1) topic data bus).state.picked picks = bus.picked picks ++ [(topic, data)] := by
  have hpublished : { bus with
      history := Assoc.put topic data bus.history
      journal := bus.journal ++ [BusEvent.published room topic data] }.picked picks =
        bus.picked picks ++ [(topic, data)] := by
    simp [picked, BusEvent.picked?, htopic]
  -- The subscribers called announce with less room, so what is picked stays as it is from here on.
  exact Act.Keeps.forM (deliver_keeps habstains
    (fun other hother word => publishWithin_keeps habstains hnested hother word) room topic data)
    (bus.subscribersOf topic) _ hpublished

end Nested

/-! ## Announcing -/

section Candid

variable [Audience.Candid ι δ ω]

theorem call_candid (room : Nat) {publish : String → δ → Act (EventBus ι δ ω) Unit}
    (hpublish : ∀ topic data, Act.Candid (publish topic data)) (topic : String) (data : δ) (who : ι) :
    Act.Candid (call room publish topic data who) := by
  have htake (step : BusStep ι δ) : Act.Candid (take publish step) := by
    cases step with
    | publish topic data => exact hpublish topic data
    | subscribe topic who | unsubscribe topic who | clear topics => exact .of_answers fun bus => ⟨(), rfl⟩
  refine (Act.Candid.of_answers fun bus => ⟨bus, rfl⟩).bind fun bus =>
    (Act.Candid.of_answers fun _ => ⟨(), rfl⟩).bind fun _ => ?_
  exact (Act.Candid.of_answers (.forM (fun entry => .log entry) _)).bind fun _ =>
    (Act.Candid.forM htake _).bind fun _ => .ofExcept (Audience.Candid.ending who topic data bus.world)

theorem deliver_answers (room : Nat) {publish : String → δ → Act (EventBus ι δ ω) Unit}
    (hpublish : ∀ topic data, Act.Candid (publish topic data)) (topic : String) (data : δ) (who : ι) :
    Act.Answers (deliver room publish topic data who) := by
  intro bus
  have hcandid := call_candid room hpublish topic data who bus
  rw [deliver, Act.run_bind_of_ok rfl]
  cases hcall : (call room publish topic data who bus).value with
  | ok u => exact ⟨(), by simp only [Act.run_attempt, hcall]; rfl⟩
  | error failure =>
      have htold : ∃ words, failedText topic failure = .ok words := (hcandid failure hcall).exists_toldAfter ⟨_, rfl⟩
      obtain ⟨u, hvalue⟩ := Act.Answers.report (Log.error logSource) htold (call room publish topic data who bus).state
      exact ⟨u, by simp only [Act.run_attempt, hcall]; exact hvalue⟩

/-- With room left an announcement answers; without, it fails for that. -/
theorem publishWithin_candid (room : Nat) (topic : String) (data : δ) :
    Act.Candid (publishWithin room topic data : Act (EventBus ι δ ω) Unit) ∧
      Act.Answers (publishWithin (room + 1) topic data : Act (EventBus ι δ ω) Unit) := by
  have hanswers (room : Nat) (hinner : ∀ topic data, Act.Candid (publishWithin room topic data : Act (EventBus ι δ ω) _))
      (topic : String) (data : δ) : Act.Answers (publishWithin (room + 1) topic data : Act (EventBus ι δ ω) Unit) := by
    intro bus
    obtain ⟨u, hvalue⟩ := Act.Answers.forM (deliver_answers room hinner topic data)
      (bus.subscribersOf topic) { bus with
        history := Assoc.put topic data bus.history
        journal := bus.journal ++ [BusEvent.published room topic data] }
    exact ⟨u, hvalue⟩
  have hcandid (topic : String) (data : δ) : Act.Candid (publishWithin room topic data : Act (EventBus ι δ ω) Unit) := by
    induction room generalizing topic data with
    | zero =>
        rintro bus failure ⟨⟩
        trivial
    | succ room ih => exact .of_answers (hanswers room ih topic data)
  exact ⟨hcandid topic data, hanswers room hcandid topic data⟩

theorem publishWithin_value (room : Nat) (topic : String) (data : δ) (bus : EventBus ι δ ω) :
    (publishWithin (room + 1) topic data bus).value = .ok () := by
  obtain ⟨_, hvalue⟩ := (publishWithin_candid room topic data).2 bus
  exact hvalue

/-- To announce never fails where no subscriber leaves. -/
theorem publish_value (topic : String) (data : δ) (bus : EventBus ι δ ω) :
    (publish topic data bus).value = .ok () :=
  publishWithin_value (nesting - 1) topic data bus

end Candid

/-- To announce adds one announcement, whatever the subscribers do. -/
theorem publish_announced (topic : String) (data : δ) (bus : EventBus ι δ ω) :
    (publish topic data bus).state.announced = bus.announced ++ [(topic, data)] := by
  have habstains : Audience.Abstains ι δ ω [] := fun _ _ _ _ _ _ _ _ _ => List.not_mem_nil
  rw [announced_eq_picked, announced_eq_picked]
  refine publishWithin_picked habstains (nesting - 1) (fun inner hinner _ _ => ?_) rfl data bus
  exact decide_eq_false (by unfold nesting at hinner ⊢; omega)

/-- On topics of which the subscribers keep clear nothing else is heard meanwhile. -/
theorem publish_heard {topics : List String} (habstains : Audience.Abstains ι δ ω topics) {topic : String}
    (htopic : topic ∈ topics) (data : δ) (bus : EventBus ι δ ω) :
    (publish topic data bus).state.heard topics = bus.heard topics ++ [(topic, data)] :=
  publishWithin_picked habstains (nesting - 1) (fun _ _ _ hother => decide_eq_false hother)
    (decide_eq_true htopic) data bus

/-! ## Announcing in a row -/

/-- The bus once these were announced on it, one after another. -/
def told (bus : EventBus ι δ ω) (notices : List (String × δ)) : EventBus ι δ ω :=
  notices.foldl (fun bus notice => (publish notice.1 notice.2 bus).state) bus

theorem told_append (bus : EventBus ι δ ω) (first rest : List (String × δ)) :
    bus.told (first ++ rest) = (bus.told first).told rest :=
  List.foldl_append

theorem told_announced (bus : EventBus ι δ ω) (notices : List (String × δ)) :
    (bus.told notices).announced = bus.announced ++ notices := by
  induction notices generalizing bus with
  | nil => exact (List.append_nil _).symm
  | cons notice rest ih =>
      show (told _ rest).announced = _
      rw [ih, publish_announced notice.1 notice.2 bus, List.append_assoc]
      rfl

theorem told_heard {topics : List String} (habstains : Audience.Abstains ι δ ω topics) (bus : EventBus ι δ ω)
    {notices : List (String × δ)} (hnotices : ∀ notice ∈ notices, notice.1 ∈ topics) :
    (bus.told notices).heard topics = bus.heard topics ++ notices := by
  induction notices generalizing bus with
  | nil => exact (List.append_nil _).symm
  | cons notice rest ih =>
      obtain ⟨hfirst, hrest⟩ := List.forall_mem_cons.1 hnotices
      show (told _ rest).heard topics = _
      rw [ih _ hrest, publish_heard habstains hfirst notice.2 bus, List.append_assoc]
      rfl

end EventBus

end Crafting
