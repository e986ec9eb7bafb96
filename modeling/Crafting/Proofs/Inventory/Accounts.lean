import Mathlib.Algebra.Ring.Int.Defs
import Crafting.Proofs.Inventory.Party

/-!
# Accounts of a watched party

A watched party differs from what it was by the changes that passed, and by nothing else.
-/

namespace Crafting

/-- What the changes that passed add to the held count of an entity. -/
def passedOnHeld (ref : EntityRef) (tried : List (Change × Bool)) : Int :=
  (tried.map fun entry => if entry.2 then entry.1.onHeld ref else 0).sum

def passedOnGold (tried : List (Change × Bool)) : Int :=
  (tried.map fun entry => if entry.2 then entry.1.onGold else 0).sum

theorem passedOnHeld_append (ref : EntityRef) (before after : List (Change × Bool)) :
    passedOnHeld ref (before ++ after) = passedOnHeld ref before + passedOnHeld ref after := by
  simp only [passedOnHeld, List.map_append, List.sum_append]

theorem passedOnGold_append (before after : List (Change × Bool)) :
    passedOnGold (before ++ after) = passedOnGold before + passedOnGold after := by
  simp only [passedOnGold, List.map_append, List.sum_append]

namespace Party

/-- How a party stands after changes were tried on it. -/
structure Accounts (party : Party) (tried : List (Change × Bool)) (after : Party) : Prop where
  held : ∀ ref, after.held.count ref = party.held.count ref + passedOnHeld ref tried
  gold : (∀ entry ∈ tried, entry.1.isGain = false) → after.gold = party.gold + passedOnGold tried
  equipped : after.equipped = party.equipped
  maxGold : after.maxGold = party.maxGold
  positive : party.held.Positive → after.held.Positive
  untouched : (∀ entry ∈ tried, entry.2 = false) → after = party

namespace Accounts

variable {party after : Party} {tried : List (Change × Bool)} {change : Change}

theorem start (party : Party) : Accounts party [] party where
  held _ := (Int.add_zero _).symm
  gold _ := (Int.add_zero _).symm
  equipped := rfl
  maxGold := rfl
  positive h := h
  untouched _ := rfl

theorem passed (h : Accounts party tried after) {later : Party} (hmoved : Moved change after later) :
    Accounts party (tried ++ [(change, true)]) later where
  held ref := by
    rw [hmoved.held, h.held, passedOnHeld_append]
    simp [passedOnHeld, Int.add_assoc]
  gold hgain := by
    simp only [List.forall_mem_append, List.forall_mem_singleton] at hgain
    rw [hmoved.gold hgain.2, h.gold hgain.1, passedOnGold_append]
    simp [passedOnGold, Int.add_assoc]
  equipped := hmoved.equipped.trans h.equipped
  maxGold := hmoved.maxGold.trans h.maxGold
  positive hp := hmoved.positive (h.positive hp)
  untouched hnone := by cases hnone (change, true) (List.mem_append_right _ List.mem_cons_self)

theorem failed (h : Accounts party tried after) (change : Change) : Accounts party (tried ++ [(change, false)]) after where
  held ref := by
    rw [h.held, passedOnHeld_append]
    simp [passedOnHeld]
  gold hgain := by
    simp only [List.forall_mem_append, List.forall_mem_singleton] at hgain
    rw [h.gold hgain.1, passedOnGold_append]
    simp [passedOnGold]
  equipped := h.equipped
  maxGold := h.maxGold
  positive := h.positive
  untouched hnone := h.untouched fun entry hentry => hnone entry (List.mem_append_left _ hentry)

theorem trying (party : Party) (change : Change) (call : Call) :
    Act.Keeps (fun w => Accounts party w.tried w.inventory.store)
      (Watched.trying change (do Faulty.enter call; Faulty.change (Party.apply · change))) := by
  intro w hw
  unfold Watched.trying
  rcases Faulty.run_change call (Party.apply · change) w.inventory with ⟨hvalue, hafter⟩ | ⟨failure, hvalue, hsame⟩
  · simp only [hvalue, Except.isOk, Except.toBool]
    exact hw.passed (moved_of_apply hafter)
  · simp only [hvalue, Except.isOk, Except.toBool]
    rw [hsame]
    exact hw.failed change

end Accounts

theorem calls_keep_accounts (party : Party) :
    Inventory.CallsKeep fun w : Watched (Faulty Party) => Accounts party w.tried w.inventory.store where
  toReadsKeep := Watched.reads_keep fun tried => Faulty.reads_keep (Accounts party tried)
  consume ref quantity := Accounts.trying party (.consume ref quantity) .consume
  add ref quantity := Accounts.trying party (.add ref quantity) .add
  spend amount := Accounts.trying party (.spend amount) .spend
  gain amount := Accounts.trying party (.gain amount) .gain

end Party

end Crafting
