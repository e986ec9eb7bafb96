import Crafting.Act
import Crafting.Proofs.Wording

/-!
# Reasoning about acts

Ways to speak of an act without running it by hand: what it goes on with after a part that ended, that it never fails
or only looks, the properties of the state that it keeps, also over many turns, and other acts that run alike on states
that are alike.
-/

namespace Crafting.Act

variable {σ τ α β : Type}

/-! ## Running in a row -/

theorem run_bind_of_ok {act : Act σ α} {s : σ} {a : α} (h : (act s).value = .ok a) (next : α → Act σ β) :
    (act >>= next) s =
      ⟨(next a (act s).state).value, (next a (act s).state).state, (act s).log ++ (next a (act s).state).log⟩ := by
  rw [run_bind, h]

theorem run_bind_of_error {act : Act σ α} {s : σ} {failure : Failure} (h : (act s).value = .error failure)
    (next : α → Act σ β) : (act >>= next) s = ⟨.error failure, (act s).state, (act s).log⟩ := by
  rw [run_bind, h]

theorem bind_eq_ok_iff {act : Act σ α} {next : α → Act σ β} {s : σ} {b : β} :
    ((act >>= next) s).value = .ok b ↔ ∃ a, (act s).value = .ok a ∧ (next a (act s).state).value = .ok b := by
  rw [run_bind]
  cases (act s).value with
  | error failure => exact ⟨nofun, fun ⟨_, h, _⟩ => nomatch h⟩
  | ok a => exact ⟨fun h => ⟨a, rfl, h⟩, fun ⟨_, h, hnext⟩ => Except.ok.inj h ▸ hnext⟩

@[simp] theorem run_map_ofExcept (f : α → β) (result : Except Failure α) (s : σ) :
    (f <$> ofExcept result : Act σ β) s = ⟨result.map f, s, []⟩ := by
  show (ofExcept result >>= fun a => pure (f a) : Act σ β) s = _
  cases result <;> rfl

theorem forM_cons_state {act : α → Act σ Unit} {a : α} {s : σ} {u : Unit} (h : (act a s).value = .ok u)
    (rest : List α) : ((a :: rest).forM act s).state = (rest.forM act (act a s).state).state := by
  show ((act a >>= fun _ => rest.forM act) s).state = _
  rw [run_bind_of_ok h]

/-! ## Reports -/

/-- A report leaves the state as it is, and fails just as the writing of its text does. -/
theorem report_value (entry : String → Log.Entry) (text : Except Failure String) (s : σ) :
    (report entry text s).value = text.map fun _ => () := by
  cases text <;> rfl

@[simp] theorem report_state (entry : String → Log.Entry) (text : Except Failure String) (s : σ) :
    (report entry text s).state = s := by
  cases text <;> rfl

theorem run_bind_report {text : Except Failure String} {words : String} (h : text = .ok words)
    (entry : String → Log.Entry) (next : Unit → Act σ β) (s : σ) :
    (report entry text >>= next) s = ⟨(next () s).value, (next () s).state, entry words :: (next () s).log⟩ := by
  rw [h]
  rfl

theorem run_forM_log (entries : List Log.Entry) (s : σ) : entries.forM Act.log s = ⟨.ok (), s, entries⟩ := by
  induction entries with
  | nil => rfl
  | cons entry rest ih =>
      show (Act.log entry >>= fun _ => rest.forM Act.log) s = _
      rw [run_bind_of_ok rfl]
      simp only [run_log, ih, List.singleton_append]

/-! ## Acts that never fail -/

def Answers (act : Act σ α) : Prop :=
  ∀ s, ∃ a, (act s).value = .ok a

namespace Answers

theorem pure (a : α) : Answers (pure a : Act σ α) :=
  fun _ => ⟨a, rfl⟩

theorem log (entry : Log.Entry) : Answers (Act.log entry : Act σ Unit) :=
  fun _ => ⟨(), rfl⟩

theorem report (entry : String → Log.Entry) {text : Except Failure String} (h : ∃ words, text = .ok words) :
    Answers (Act.report entry text : Act σ Unit) := by
  obtain ⟨words, rfl⟩ := h
  exact fun _ => ⟨(), rfl⟩

theorem bind {act : Act σ α} {next : α → Act σ β} (hact : Answers act) (hnext : ∀ a, Answers (next a)) :
    Answers (act >>= next) := by
  intro s
  obtain ⟨a, ha⟩ := hact s
  rw [run_bind_of_ok ha]
  exact hnext a _

theorem attempt (act : Act σ α) : Answers (Act.attempt act) :=
  fun s => ⟨(act s).value, rfl⟩

theorem forM {act : α → Act σ Unit} (hact : ∀ a, Answers (act a)) (items : List α) : Answers (items.forM act) := by
  induction items with
  | nil => exact pure ()
  | cons a rest ih => exact bind (hact a) fun _ => ih

end Answers

/-! ## Acts whose failures can be told -/

def Candid (act : Act σ α) : Prop :=
  ∀ s failure, (act s).value = .error failure → failure.Tellable

namespace Candid

theorem of_answers {act : Act σ α} (h : Answers act) : Candid act := by
  intro s failure hfails
  obtain ⟨a, hvalue⟩ := h s
  cases hvalue.symm.trans hfails

theorem pure (a : α) : Candid (pure a : Act σ α) :=
  of_answers (.pure a)

theorem ofExcept {result : Except Failure α} (h : ∀ failure, result = .error failure → failure.Tellable) :
    Candid (Act.ofExcept result : Act σ α) :=
  fun _ => h

theorem bind {act : Act σ α} {next : α → Act σ β} (hact : Candid act) (hnext : ∀ a, Candid (next a)) :
    Candid (act >>= next) := by
  intro s failure hfails
  cases hvalue : (act s).value with
  | ok a =>
      rw [run_bind_of_ok hvalue] at hfails
      exact hnext a _ failure hfails
  | error other =>
      rw [run_bind_of_error hvalue] at hfails
      cases hfails
      exact hact s failure hvalue

theorem forM {act : α → Act σ Unit} (hact : ∀ a, Candid (act a)) (items : List α) : Candid (items.forM act) := by
  induction items with
  | nil => exact pure ()
  | cons a rest ih => exact bind (hact a) fun _ => ih

theorem ite {p : Prop} [Decidable p] {yes no : Act σ α} (hyes : Candid yes) (hno : Candid no) :
    Candid (if p then yes else no) := by
  split
  · exact hyes
  · exact hno

end Candid

/-! ## Acts that only look -/

/-- Begun in that state, the act ends well and leaves the state as it is. -/
def Looks (s : σ) (act : Act σ α) : Prop :=
  (∃ a, (act s).value = .ok a) ∧ (act s).state = s

namespace Looks

variable {s : σ}

theorem pure (a : α) : Looks s (pure a : Act σ α) :=
  ⟨⟨a, rfl⟩, rfl⟩

theorem log (entry : Log.Entry) : Looks s (Act.log entry) :=
  ⟨⟨(), rfl⟩, rfl⟩

theorem report (entry : String → Log.Entry) {text : Except Failure String} (h : ∃ words, text = .ok words) :
    Looks s (Act.report entry text) := by
  obtain ⟨words, rfl⟩ := h
  exact ⟨⟨(), rfl⟩, rfl⟩

theorem ofExcept {result : Except Failure α} (h : ∃ a, result = .ok a) : Looks s (Act.ofExcept result) :=
  ⟨h, rfl⟩

theorem of_run {act : Act σ α} {result : Except Failure α} (hrun : act s = ⟨result, s, []⟩)
    (h : ∃ a, result = .ok a) : Looks s act := by
  unfold Looks
  rw [hrun]
  exact ⟨h, rfl⟩

theorem bind {act : Act σ α} {next : α → Act σ β} (hact : Looks s act) (hnext : ∀ a, Looks s (next a)) :
    Looks s (act >>= next) := by
  obtain ⟨⟨a, hvalue⟩, hstate⟩ := hact
  have hlast := hnext a
  unfold Looks
  rw [run_bind_of_ok hvalue, hstate]
  exact hlast

theorem bind_of_ok {act : Act σ α} {next : α → Act σ β} {a : α} (hvalue : (act s).value = .ok a)
    (hstate : (act s).state = s) (hnext : Looks s (next a)) : Looks s (act >>= next) := by
  unfold Looks
  rw [run_bind_of_ok hvalue, hstate]
  exact hnext

end Looks

/-- Begun in that state, the act fails and leaves the state as it is. -/
def Stops (s : σ) (act : Act σ α) : Prop :=
  (∃ failure, (act s).value = .error failure) ∧ (act s).state = s

namespace Stops

variable {s : σ} {act : Act σ α} {next : α → Act σ β}

theorem bind (hact : Stops s act) (next : α → Act σ β) : Stops s (act >>= next) := by
  obtain ⟨⟨failure, hvalue⟩, hstate⟩ := hact
  unfold Stops
  rw [run_bind_of_error hvalue]
  exact ⟨⟨failure, rfl⟩, hstate⟩

theorem of_run {result : Except Failure α} (hrun : act s = ⟨result, s, []⟩) (h : ¬∃ a, result = .ok a) :
    Stops s act := by
  unfold Stops
  rw [hrun]
  cases result with
  | ok a => exact absurd ⟨a, rfl⟩ h
  | error failure => exact ⟨⟨failure, rfl⟩, rfl⟩

theorem not_ok (hact : Stops s act) : ¬∃ a, (act s).value = .ok a := by
  rintro ⟨a, hvalue⟩
  obtain ⟨⟨failure, hfailure⟩, -⟩ := hact
  rw [hfailure] at hvalue
  cases hvalue

theorem report (entry : String → Log.Entry) {text : Except Failure String} (h : ¬∃ words, text = .ok words) :
    Stops s (Act.report entry text) := by
  cases text with
  | ok words => exact absurd ⟨words, rfl⟩ h
  | error failure => exact ⟨⟨failure, rfl⟩, rfl⟩

theorem after_ok {a : α} (hvalue : (act s).value = .ok a) (hstate : (act s).state = s) (hnext : Stops s (next a)) :
    Stops s (act >>= next) := by
  unfold Stops
  rw [run_bind_of_ok hvalue, hstate]
  exact hnext

theorem after (hact : Looks s act) (hnext : ∀ a, Stops s (next a)) : Stops s (act >>= next) := by
  obtain ⟨⟨a, hvalue⟩, hstate⟩ := hact
  exact after_ok hvalue hstate (hnext a)

end Stops

/-! ## What an act keeps -/

/-- Whatever comes of the act, the property still holds after it. -/
def Keeps (holds : σ → Prop) (act : Act σ α) : Prop :=
  ∀ s, holds s → holds (act s).state

namespace Keeps

variable {holds : σ → Prop}

theorem pure (a : α) : Keeps holds (pure a : Act σ α) :=
  fun _ h => h

theorem fail (failure : Failure) : Keeps holds (Act.fail failure : Act σ α) :=
  fun _ h => h

theorem log (entry : Log.Entry) : Keeps holds (Act.log entry) :=
  fun _ h => h

theorem report (entry : String → Log.Entry) (text : Except Failure String) : Keeps holds (Act.report entry text) := by
  intro s hs
  rwa [report_state]

theorem ofExcept (result : Except Failure α) : Keeps holds (Act.ofExcept result) :=
  fun _ h => h

theorem bind {act : Act σ α} {next : α → Act σ β} (hact : Keeps holds act) (hnext : ∀ a, Keeps holds (next a)) :
    Keeps holds (act >>= next) := by
  intro s hs
  -- A first part that fails ends the row, and what it kept is kept.
  have hfirst := hact s hs
  cases hv : (act s).value with
  | ok a =>
      rw [run_bind_of_ok hv]
      exact hnext a _ hfirst
  | error failure =>
      rw [run_bind_of_error hv]
      exact hfirst

theorem attempt {act : Act σ α} (hact : Keeps holds act) : Keeps holds (Act.attempt act) :=
  hact

theorem ite {p : Prop} [Decidable p] {yes no : Act σ α} (hyes : Keeps holds yes) (hno : Keeps holds no) :
    Keeps holds (if p then yes else no) := by
  split
  · exact hyes
  · exact hno

theorem forM_of_mem {act : α → Act σ Unit} {items : List α} (hact : ∀ a ∈ items, Keeps holds (act a)) :
    Keeps holds (items.forM act) := by
  induction items with
  | nil => exact pure ()
  | cons a rest ih =>
      exact bind (hact a List.mem_cons_self) fun _ => ih fun other hother => hact other (List.mem_cons_of_mem _ hother)

theorem forM {act : α → Act σ Unit} (hact : ∀ a, Keeps holds (act a)) (items : List α) :
    Keeps holds (items.forM act) :=
  forM_of_mem fun a _ => hact a

end Keeps

/-! ## What a failure leaves -/

/-- If the act fails, the property still holds after it. -/
def KeepsOnFailure (holds : σ → Prop) (act : Act σ α) : Prop :=
  ∀ s, holds s → ∀ failure, (act s).value = .error failure → holds (act s).state

namespace KeepsOnFailure

variable {holds : σ → Prop}

theorem of_answers {act : Act σ α} (hact : Answers act) : KeepsOnFailure holds act := by
  intro s _ failure hfails
  obtain ⟨a, hvalue⟩ := hact s
  cases hvalue.symm.trans hfails

theorem ite {p : Prop} [Decidable p] {yes no : Act σ α} (hyes : KeepsOnFailure holds yes)
    (hno : KeepsOnFailure holds no) : KeepsOnFailure holds (if p then yes else no) := by
  split
  · exact hyes
  · exact hno

/-- What comes first may only do what the failure of the rest may leave. -/
theorem bind {act : Act σ α} {next : α → Act σ β} (hact : Keeps holds act)
    (hnext : ∀ a, KeepsOnFailure holds (next a)) : KeepsOnFailure holds (act >>= next) := by
  intro s hs failure hfails
  have hfirst := hact s hs
  cases hvalue : (act s).value with
  | ok a =>
      rw [run_bind_of_ok hvalue] at hfails ⊢
      exact hnext a _ hfirst failure hfails
  | error other =>
      rw [run_bind_of_error hvalue]
      exact hfirst

/-- Or else nothing behind it may fail. -/
theorem bind_of_answers {act : Act σ α} {next : α → Act σ β} (hact : KeepsOnFailure holds act)
    (hnext : ∀ a, Answers (next a)) : KeepsOnFailure holds (act >>= next) := by
  intro s hs failure hfails
  cases hvalue : (act s).value with
  | ok a =>
      obtain ⟨b, hlast⟩ := hnext a (act s).state
      rw [run_bind_of_ok hvalue, hlast] at hfails
      cases hfails
  | error other =>
      rw [run_bind_of_error hvalue]
      exact hact s hs other hvalue

end KeepsOnFailure

/-! ## Acts in turn -/

/-- What is left once the items had their turns. A turn that fails leaves what it did until then, and the next one
follows. -/
def after (act : α → Act σ β) : List α → σ → σ
  | [], s => s
  | a :: rest, s => after act rest (act a s).state

/-- The turns of the items, each with the state that it meets. -/
def turns (act : α → Act σ β) : List α → σ → List (α × σ)
  | [], _ => []
  | a :: rest, s => (a, s) :: turns act rest (act a s).state

theorem mem_of_mem_turns {act : α → Act σ β} {items : List α} {s : σ} {turn : α × σ}
    (h : turn ∈ turns act items s) : turn.1 ∈ items := by
  induction items generalizing s with
  | nil => cases h
  | cons a rest ih =>
      rcases List.mem_cons.1 h with rfl | hlater
      · exact List.mem_cons_self
      · exact List.mem_cons_of_mem _ (ih hlater)

namespace Keeps

variable {holds : σ → Prop} {act : α → Act σ β}

theorem after_turns {items : List α} (h : ∀ a ∈ items, Keeps holds (act a)) {s : σ} (hs : holds s) :
    holds (after act items s) := by
  induction items generalizing s with
  | nil => exact hs
  | cons a rest ih =>
      exact ih (fun other hother => h other (List.mem_cons_of_mem _ hother)) (h a List.mem_cons_self s hs)

theorem of_mem_turns {items : List α} (h : ∀ a ∈ items, Keeps holds (act a)) {s : σ} (hs : holds s) {turn : α × σ}
    (hturn : turn ∈ turns act items s) : holds turn.2 := by
  induction items generalizing s with
  | nil => cases hturn
  | cons a rest ih =>
      rcases List.mem_cons.1 hturn with rfl | hlater
      · exact hs
      · exact ih (fun other hother => h other (List.mem_cons_of_mem _ hother)) (h a List.mem_cons_self s hs) hlater

end Keeps

/-! ## Acts that run alike -/

/-- Begun in related states, the two acts end alike and report alike, and leave related states. -/
def Related (rel : σ → τ → Prop) (act : Act σ α) (other : Act τ α) : Prop :=
  ∀ s t, rel s t →
    (act s).value = (other t).value ∧ (act s).log = (other t).log ∧ rel (act s).state (other t).state

namespace Related

variable {rel : σ → τ → Prop}

theorem pure (a : α) : Related rel (pure a : Act σ α) (pure a) :=
  fun _ _ h => ⟨rfl, rfl, h⟩

theorem fail (failure : Failure) : Related rel (Act.fail failure : Act σ α) (Act.fail failure) :=
  fun _ _ h => ⟨rfl, rfl, h⟩

theorem log (entry : Log.Entry) : Related rel (Act.log entry) (Act.log entry) :=
  fun _ _ h => ⟨rfl, rfl, h⟩

theorem report (entry : String → Log.Entry) (text : Except Failure String) :
    Related rel (Act.report entry text) (Act.report entry text) := by
  intro s t h
  cases text <;> exact ⟨rfl, rfl, h⟩

theorem bind {act : Act σ α} {other : Act τ α} {next : α → Act σ β} {after : α → Act τ β}
    (hact : Related rel act other) (hnext : ∀ a, Related rel (next a) (after a)) :
    Related rel (act >>= next) (other >>= after) := by
  intro s t h
  obtain ⟨hvalue, hlog, hstate⟩ := hact s t h
  cases hv : (act s).value with
  | ok a =>
      obtain ⟨hvalue', hlog', hstate'⟩ := hnext a _ _ hstate
      rw [run_bind_of_ok hv, run_bind_of_ok (hvalue ▸ hv)]
      exact ⟨hvalue', by rw [hlog, hlog'], hstate'⟩
  | error failure =>
      rw [run_bind_of_error hv, run_bind_of_error (hvalue ▸ hv)]
      exact ⟨rfl, hlog, hstate⟩

theorem attempt {act : Act σ α} {other : Act τ α} (hact : Related rel act other) :
    Related rel (Act.attempt act) (Act.attempt other) := by
  intro s t h
  obtain ⟨hvalue, hlog, hstate⟩ := hact s t h
  exact ⟨congrArg Except.ok hvalue, hlog, hstate⟩

theorem ite {p : Prop} [Decidable p] {yes no : Act σ α} {yes' no' : Act τ α} (hyes : Related rel yes yes')
    (hno : Related rel no no') : Related rel (if p then yes else no) (if p then yes' else no') := by
  split
  · exact hyes
  · exact hno

end Related

/-- An act keeps a property just when it runs alike with itself wherever the property holds. -/
theorem keeps_iff_related {holds : σ → Prop} {act : Act σ α} :
    Keeps holds act ↔ Related (fun s t => s = t ∧ holds s) act act := by
  constructor
  · rintro h s _ ⟨rfl, hs⟩
    exact ⟨rfl, rfl, rfl, h s hs⟩
  · intro h s hs
    exact (h s s ⟨rfl, hs⟩).2.2.2

end Crafting.Act
