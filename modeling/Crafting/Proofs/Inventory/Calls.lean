import Crafting.Inventory.Basic
import Crafting.Proofs.Act

/-!
# Calls of an inventory

What the calls of an inventory keep, when those of two inventories run alike, whether their failures can be told, which
of the coming calls fail, and stores with and without faults to come. A watched inventory works as before and notes each
call that is to change it.
-/

namespace Crafting

variable {σ τ α : Type}

/-! ## Inventories whose calls run alike -/

namespace Inventory

structure ReadsRelated [Inventory σ] [Inventory τ] (rel : σ → τ → Prop) : Prop where
  quantityOf : ∀ ref, Act.Related rel (Inventory.quantityOf ref) (Inventory.quantityOf ref)
  has : ∀ ref, Act.Related rel (Inventory.has ref) (Inventory.has ref)
  currency : Act.Related rel (Inventory.currency : Act σ Int) Inventory.currency

/-- Every call of the one inventory runs like that call of the other. -/
structure CallsRelated [Inventory σ] [Inventory τ] (rel : σ → τ → Prop) : Prop extends ReadsRelated rel where
  consume : ∀ ref quantity, Act.Related rel (Inventory.consume ref quantity) (Inventory.consume ref quantity)
  add : ∀ ref quantity, Act.Related rel (Inventory.add ref quantity) (Inventory.add ref quantity)
  spend : ∀ amount, Act.Related rel (Inventory.spend amount) (Inventory.spend amount)
  gain : ∀ amount, Act.Related rel (Inventory.gain amount) (Inventory.gain amount)

structure ReadsKeep [Inventory σ] (holds : σ → Prop) : Prop where
  quantityOf : ∀ ref, Act.Keeps holds (Inventory.quantityOf ref)
  has : ∀ ref, Act.Keeps holds (Inventory.has ref)
  currency : Act.Keeps holds (Inventory.currency : Act σ Int)

structure CallsKeep [Inventory σ] (holds : σ → Prop) : Prop extends ReadsKeep holds where
  consume : ∀ ref quantity, Act.Keeps holds (Inventory.consume ref quantity)
  add : ∀ ref quantity, Act.Keeps holds (Inventory.add ref quantity)
  spend : ∀ amount, Act.Keeps holds (Inventory.spend amount)
  gain : ∀ amount, Act.Keeps holds (Inventory.gain amount)

theorem ReadsKeep.related [Inventory σ] {holds : σ → Prop} (h : ReadsKeep holds) :
    ReadsRelated fun s t => s = t ∧ holds s where
  quantityOf ref := Act.keeps_iff_related.1 (h.quantityOf ref)
  has ref := Act.keeps_iff_related.1 (h.has ref)
  currency := Act.keeps_iff_related.1 h.currency

theorem CallsKeep.related [Inventory σ] {holds : σ → Prop} (h : CallsKeep holds) :
    CallsRelated fun s t => s = t ∧ holds s where
  toReadsRelated := h.toReadsKeep.related
  consume ref quantity := Act.keeps_iff_related.1 (h.consume ref quantity)
  add ref quantity := Act.keeps_iff_related.1 (h.add ref quantity)
  spend amount := Act.keeps_iff_related.1 (h.spend amount)
  gain amount := Act.keeps_iff_related.1 (h.gain amount)

/-- Whatever makes a call fail can be told. -/
class Candid (σ : Type) [Inventory σ] : Prop where
  quantityOf : ∀ ref, Act.Candid (Inventory.quantityOf ref : Act σ Int)
  has : ∀ ref, Act.Candid (Inventory.has ref : Act σ Bool)
  currency : Act.Candid (Inventory.currency : Act σ Int)
  consume : ∀ ref quantity, Act.Candid (Inventory.consume ref quantity : Act σ Unit)
  add : ∀ ref quantity, Act.Candid (Inventory.add ref quantity : Act σ Unit)
  spend : ∀ amount, Act.Candid (Inventory.spend amount : Act σ Unit)
  gain : ∀ amount, Act.Candid (Inventory.gain amount : Act σ Unit)

end Inventory

/-- Whatever a store refuses can be told why. -/
class Store.Candid (τ : Type) [Store τ] : Prop where
  quantityOf : ∀ (store : τ) ref failure, Store.quantityOf store ref = .error failure → failure.Tellable
  currency : ∀ (store : τ) failure, Store.currency store = .error failure → failure.Tellable
  consume : ∀ ref quantity (store : τ) failure, Store.consume ref quantity store = .error failure → failure.Tellable
  add : ∀ ref quantity (store : τ) failure, Store.add ref quantity store = .error failure → failure.Tellable
  spend : ∀ amount (store : τ) failure, Store.spend amount store = .error failure → failure.Tellable
  gain : ∀ amount (store : τ) failure, Store.gain amount store = .error failure → failure.Tellable

/-! ## Coming calls -/

namespace Schedule

/-- How the call of a method goes that has `n` others of that method before it. -/
def fate (schedule : Schedule) (call : Call) (n : Nat) : Option String :=
  (schedule.course call).fate n

/-- The schedule behind these calls. -/
def behind (schedule : Schedule) (calls : List Call) : Schedule :=
  calls.foldl (fun schedule call => (schedule.next call).2) schedule

variable (schedule : Schedule)

theorem next_fst (call : Call) : (schedule.next call).1 = schedule.fate call 0 := by
  unfold next fate
  split
  · rename_i hcourse
    rw [hcourse]
    rfl
  · rename_i hcourse
    rw [hcourse]
    rfl

/-- A call that was made comes before the others of its method. -/
theorem fate_next (call other : Call) (n : Nat) :
    (schedule.next call).2.fate other n = schedule.fate other (if other = call then n + 1 else n) := by
  by_cases hother : other = call
  · subst hother
    rw [if_pos rfl]
    unfold next fate
    split
    · rename_i hcourse
      rw [hcourse, Course.fate_nil, Course.fate_nil]
    · rename_i hcourse
      rw [hcourse, course, Assoc.get?_put_self]
      rfl
  · rw [if_neg hother]
    unfold next fate
    split
    · rfl
    · rw [course, Assoc.get?_put_of_ne hother]
      rfl

theorem fate_behind (calls : List Call) (call : Call) (n : Nat) :
    (schedule.behind calls).fate call n = schedule.fate call (calls.count call + n) := by
  induction calls generalizing schedule with
  | nil => rw [List.count_nil, Nat.zero_add]; rfl
  | cons first rest ih =>
      show ((schedule.next first).2.behind rest).fate call n = _
      rw [ih, fate_next, List.count_cons]
      by_cases hfirst : call = first
      · rw [if_pos hfirst, if_pos (by simpa using hfirst.symm)]
        congr 1
        omega
      · rw [if_neg hfirst, if_neg (by simpa using Ne.symm hfirst), Nat.add_zero]

theorem behind_append (calls others : List Call) :
    schedule.behind (calls ++ others) = (schedule.behind calls).behind others :=
  List.foldl_append

end Schedule

/-! ## Stores with faults to come -/

namespace Faulty

theorem enter_store (call : Call) (s : Faulty τ) : (enter call s).state.store = s.store := by
  unfold enter
  split <;> rfl

theorem enter_value (call : Call) (s : Faulty τ) :
    (enter call s).value = (s.faults.next call).1.elim (.ok ()) fun message => .error (.refused message) := by
  unfold enter
  split <;> simp only [*, Option.elim_none, Option.elim_some]

/-- A call that begins comes up in the schedule. -/
theorem enter_run (call : Call) (store : τ) (faults : Schedule) :
    enter call ⟨store, faults⟩ =
      ⟨(faults.fate call 0).elim (.ok ()) fun message => .error (.refused message),
        ⟨store, faults.behind [call]⟩, []⟩ := by
  rw [← Schedule.next_fst]
  show enter call ⟨store, faults⟩ = ⟨_, ⟨store, (faults.next call).2⟩, []⟩
  unfold enter
  split <;> simp only [*, Option.elim_none, Option.elim_some]

theorem enter_keeps (holds : τ → Prop) (call : Call) : Act.Keeps (fun s => holds s.store) (enter call) := by
  intro s hs
  rwa [enter_store]

theorem read_keeps (holds : τ → Prop) (f : τ → Except Failure α) :
    Act.Keeps (fun s => holds s.store) (read f) :=
  fun _ hs => hs

/-- A call that is to change the store changes it, or fails and leaves it as it is. -/
theorem run_change (call : Call) (f : τ → Except Failure τ) (s : Faulty τ) :
    let run := (do enter call; change f : Act (Faulty τ) Unit) s
    (run.value = .ok () ∧ f s.store = .ok run.state.store) ∨
      ∃ failure, run.value = .error failure ∧ run.state.store = s.store := by
  intro run
  have hstore := enter_store call s
  cases henter : (enter call s).value with
  | error failure =>
      have hrun : run = _ := Act.run_bind_of_error henter fun _ => change f
      exact .inr ⟨failure, by rw [hrun], by rw [hrun]; exact hstore⟩
  | ok a =>
      have hrun : run = _ := Act.run_bind_of_ok henter fun _ => change f
      rw [hrun]
      unfold change
      cases hf : f (enter call s).state.store with
      | ok store => exact .inl ⟨rfl, by rw [← hstore, hf]⟩
      | error failure => exact .inr ⟨failure, rfl, hstore⟩

theorem change_keeps {holds : τ → Prop} {f : τ → Except Failure τ}
    (hf : ∀ store after, holds store → f store = .ok after → holds after) (call : Call) :
    Act.Keeps (fun s => holds s.store) (do enter call; change f) := by
  intro s hs
  rcases run_change call f s with ⟨-, hafter⟩ | ⟨failure, -, hsame⟩
  · exact hf s.store _ hs hafter
  · exact hsame ▸ hs

theorem eq_of_clear {s : Faulty τ} (h : s.faults = .clear) : s = ⟨s.store, .clear⟩ := by
  rw [← h]

/-- Where no fault is to come, a call that is to change the store does just that. -/
theorem run_change_clear (call : Call) (f : τ → Except Failure τ) (store : τ) :
    (do enter call; change f : Act (Faulty τ) Unit) ⟨store, .clear⟩ =
      match f store with
      | .ok after => ⟨.ok (), ⟨after, .clear⟩, []⟩
      | .error failure => ⟨.error failure, ⟨store, .clear⟩, []⟩ := by
  have henter : enter call (⟨store, .clear⟩ : Faulty τ) = ⟨.ok (), ⟨store, .clear⟩, []⟩ := rfl
  rw [Act.run_bind, henter]
  show (⟨(change f ⟨store, .clear⟩).value, (change f ⟨store, .clear⟩).state, _⟩ : Run _ _) = _
  unfold change
  cases f store <;> rfl

theorem enter_keeps_clear (call : Call) : Act.Keeps (fun s : Faulty τ => s.faults = .clear) (enter call) := by
  intro s hs
  unfold enter
  rw [hs]
  exact rfl

theorem change_keeps_clear (f : τ → Except Failure τ) : Act.Keeps (fun s : Faulty τ => s.faults = .clear) (change f) := by
  intro s hs
  unfold change
  split <;> exact hs

theorem enter_candid (call : Call) : Act.Candid (enter call : Act (Faulty τ) Unit) := by
  intro s failure hfails
  rw [enter_value] at hfails
  cases hnext : (s.faults.next call).1 with
  | none => rw [hnext] at hfails; cases hfails
  | some message => rw [hnext] at hfails; cases hfails; trivial

theorem read_candid {f : τ → Except Failure α} (h : ∀ store failure, f store = .error failure → failure.Tellable) :
    Act.Candid (read f) :=
  fun s => h s.store

theorem change_candid {f : τ → Except Failure τ} (h : ∀ store failure, f store = .error failure → failure.Tellable) :
    Act.Candid (change f) := by
  intro s failure hfails
  unfold change at hfails
  split at hfails
  · cases hfails
  · rename_i other hother
    cases hfails
    exact h s.store failure hother

variable [Store τ]

instance [Store.Candid τ] : Inventory.Candid (Faulty τ) where
  quantityOf ref := (enter_candid _).bind fun _ => read_candid (Store.Candid.quantityOf · ref)
  has ref := (enter_candid _).bind fun _ =>
    ((enter_candid _).bind fun _ => read_candid (Store.Candid.quantityOf · ref)).bind fun _ =>
      .ite (.pure _) (read_candid fun _ _ => by rintro ⟨⟩)
  currency := (enter_candid _).bind fun _ => read_candid Store.Candid.currency
  consume ref quantity := (enter_candid _).bind fun _ => change_candid (Store.Candid.consume ref quantity)
  add ref quantity := (enter_candid _).bind fun _ => change_candid (Store.Candid.add ref quantity)
  spend amount := (enter_candid _).bind fun _ => change_candid (Store.Candid.spend amount)
  gain amount := (enter_candid _).bind fun _ => change_candid (Store.Candid.gain amount)

theorem reads_keep (holds : τ → Prop) : Inventory.ReadsKeep fun s : Faulty τ => holds s.store where
  quantityOf _ := (enter_keeps holds _).bind fun _ => read_keeps holds _
  has _ := (enter_keeps holds _).bind fun _ =>
    ((enter_keeps holds _).bind fun _ => read_keeps holds _).bind fun _ =>
      Act.Keeps.ite (Act.Keeps.pure _) (read_keeps holds _)
  currency := (enter_keeps holds _).bind fun _ => read_keeps holds _

/-- No call brings faults about. -/
theorem calls_keep_clear : Inventory.CallsKeep fun s : Faulty τ => s.faults = .clear where
  quantityOf _ := (enter_keeps_clear _).bind fun _ _ hs => hs
  has _ := (enter_keeps_clear _).bind fun _ => ((enter_keeps_clear _).bind fun _ _ hs => hs).bind fun _ =>
    Act.Keeps.ite (Act.Keeps.pure _) fun _ hs => hs
  currency := (enter_keeps_clear _).bind fun _ _ hs => hs
  consume _ _ := (enter_keeps_clear _).bind fun _ => change_keeps_clear _
  add _ _ := (enter_keeps_clear _).bind fun _ => change_keeps_clear _
  spend _ := (enter_keeps_clear _).bind fun _ => change_keeps_clear _
  gain _ := (enter_keeps_clear _).bind fun _ => change_keeps_clear _

end Faulty

/-! ## Changes -/

/-- A call that is to change an inventory. -/
inductive Change where
  | consume (ref : EntityRef) (quantity : Int)
  | add (ref : EntityRef) (quantity : Int)
  | spend (amount : Int)
  | gain (amount : Int)
  deriving DecidableEq

def Change.call [Inventory σ] : Change → Act σ Unit
  | consume ref quantity => Inventory.consume ref quantity
  | add ref quantity => Inventory.add ref quantity
  | spend amount => Inventory.spend amount
  | gain amount => Inventory.gain amount

theorem Inventory.CallsRelated.call [Inventory σ] [Inventory τ] {rel : σ → τ → Prop} (h : CallsRelated rel)
    (change : Change) : Act.Related rel change.call change.call := by
  cases change with
  | consume ref quantity => exact h.consume ref quantity
  | add ref quantity => exact h.add ref quantity
  | spend amount => exact h.spend amount
  | gain amount => exact h.gain amount

theorem Inventory.Candid.call [Inventory σ] [Inventory.Candid σ] (change : Change) :
    Act.Candid (change.call : Act σ Unit) := by
  cases change with
  | consume ref quantity => exact consume ref quantity
  | add ref quantity => exact add ref quantity
  | spend amount => exact spend amount
  | gain amount => exact gain amount

theorem Inventory.CallsKeep.call [Inventory σ] {holds : σ → Prop} (h : CallsKeep holds) (change : Change) :
    Act.Keeps holds change.call :=
  Act.keeps_iff_related.2 (h.related.call change)

/-! ## Watched inventories -/

/-- An inventory and the changes tried on it, in order, each with whether the call passed. -/
structure Watched (σ : Type) where
  inventory : σ
  tried : List (Change × Bool) := []

namespace Watched

def reading (act : Act σ α) : Act (Watched σ) α :=
  .zoom (·.inventory) (fun inventory w => { w with inventory }) act

def trying (change : Change) (act : Act σ Unit) : Act (Watched σ) Unit := fun w =>
  let run := act w.inventory
  ⟨run.value, ⟨run.state, w.tried ++ [(change, run.value.isOk)]⟩, run.log⟩

variable [Inventory σ]

instance : Inventory (Watched σ) where
  quantityOf ref := reading (Inventory.quantityOf ref)
  has ref := reading (Inventory.has ref)
  currency := reading Inventory.currency
  consume ref quantity := trying (.consume ref quantity) (Inventory.consume ref quantity)
  add ref quantity := trying (.add ref quantity) (Inventory.add ref quantity)
  spend amount := trying (.spend amount) (Inventory.spend amount)
  gain amount := trying (.gain amount) (Inventory.gain amount)

instance [Inventory.Candid σ] : Inventory.Candid (Watched σ) where
  quantityOf ref w := Inventory.Candid.quantityOf ref w.inventory
  has ref w := Inventory.Candid.has ref w.inventory
  currency w := Inventory.Candid.currency w.inventory
  consume ref quantity w := Inventory.Candid.consume ref quantity w.inventory
  add ref quantity w := Inventory.Candid.add ref quantity w.inventory
  spend amount w := Inventory.Candid.spend amount w.inventory
  gain amount w := Inventory.Candid.gain amount w.inventory

/-- Watching an inventory changes nothing of how it works. -/
theorem calls_related : Inventory.CallsRelated fun (w : Watched σ) s => w.inventory = s where
  quantityOf _ _ _ h := h ▸ ⟨rfl, rfl, rfl⟩
  has _ _ _ h := h ▸ ⟨rfl, rfl, rfl⟩
  currency _ _ h := h ▸ ⟨rfl, rfl, rfl⟩
  consume _ _ _ _ h := h ▸ ⟨rfl, rfl, rfl⟩
  add _ _ _ _ h := h ▸ ⟨rfl, rfl, rfl⟩
  spend _ _ _ h := h ▸ ⟨rfl, rfl, rfl⟩
  gain _ _ _ h := h ▸ ⟨rfl, rfl, rfl⟩

theorem reads_keep_tried (holds : List (Change × Bool) → Prop) :
    Inventory.ReadsKeep fun w : Watched σ => holds w.tried :=
  ⟨fun _ _ h => h, fun _ _ h => h, fun _ h => h⟩

/-- Reading tries no change, and keeps what the inventory's own reading keeps. -/
theorem reads_keep {holds : List (Change × Bool) → σ → Prop} (hreads : ∀ tried, Inventory.ReadsKeep (holds tried)) :
    Inventory.ReadsKeep fun w : Watched σ => holds w.tried w.inventory where
  quantityOf ref w hw := (hreads w.tried).quantityOf ref w.inventory hw
  has ref w hw := (hreads w.tried).has ref w.inventory hw
  currency w hw := (hreads w.tried).currency w.inventory hw

end Watched

end Crafting
