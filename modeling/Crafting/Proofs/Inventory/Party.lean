import Crafting.Inventory.Party
import Crafting.Proofs.Assoc
import Crafting.Proofs.Inventory.Calls

/-!
# What becomes of a party

Each change moves one count, or the gold, by its amount. A party that comes about by the calls of its inventory has no
entry that is zero or less and wears nothing but gear, whatever calls failed on the way. Where no call fails, wearing
gear only moves it from what is held to what is worn, and back.
-/

namespace Crafting

/-! ## Entries and counts -/

namespace Counts

theorem count_put (ref other : EntityRef) (n : Int) (counts : Counts) :
    (counts.put ref n).count other = if ref = other then n else counts.count other := by
  split
  · rename_i h
    rw [← h, count_put_self]
  · rename_i h
    exact count_put_of_ne (fun e => h e.symm) n counts

theorem count_remove (ref other : EntityRef) (counts : Counts) :
    (counts.remove ref).count other = if ref = other then 0 else counts.count other := by
  split
  · rename_i h
    rw [← h, count_remove_self]
  · rename_i h
    exact count_remove_of_ne (fun e => h e.symm) counts

/-- To take so many away from an entry is to remove it if it comes to nothing, and to lower it otherwise. -/
theorem count_less (ref other : EntityRef) (n : Int) (counts : Counts) :
    (if counts.count ref = n then counts.remove ref else counts.put ref (counts.count ref - n)).count other =
      counts.count other - if ref = other then n else 0 := by
  by_cases hother : ref = other
  · subst hother
    rw [if_pos rfl]
    split
    · rw [count_remove_self]
      omega
    · rw [count_put_self]
  · rw [if_neg hother, Int.sub_zero]
    split
    · rw [count_remove, if_neg hother]
    · rw [count_put, if_neg hother]

/-- Every entry is at least one. -/
def Positive (counts : Counts) : Prop :=
  ∀ ref n, Assoc.get? ref counts = some n → 1 ≤ n

theorem Positive.put {counts : Counts} (h : counts.Positive) (ref : EntityRef) {n : Int} (hn : 1 ≤ n) :
    (counts.put ref n).Positive := by
  intro other m hm
  rcases Assoc.eq_or_get?_of_put hm with ⟨-, rfl⟩ | hold
  · exact hn
  · exact h other m hold

theorem Positive.remove {counts : Counts} (h : counts.Positive) (ref : EntityRef) : (counts.remove ref).Positive :=
  fun other m hm => h other m (Assoc.get?_of_remove hm)

theorem positive_of_entries {counts : Counts} (h : ∀ entry ∈ counts, 1 ≤ entry.2) : counts.Positive :=
  fun ref n hn => h (ref, n) (Assoc.mem_of_get?_eq_some hn)

/-- With positive entries, what is found of an entity is its count, unless that is zero. -/
theorem Positive.get?_eq {counts : Counts} (h : counts.Positive) (ref : EntityRef) :
    Assoc.get? ref counts = if counts.count ref = 0 then none else some (counts.count ref) := by
  unfold count
  cases hget : Assoc.get? ref counts with
  | none => rfl
  | some n =>
      have hn := h ref n hget
      rw [Option.getD_some, if_neg (by omega)]

theorem Positive.count_nonneg {counts : Counts} (h : counts.Positive) (ref : EntityRef) : 0 ≤ counts.count ref := by
  unfold count
  cases hget : Assoc.get? ref counts with
  | none => exact Int.le_refl 0
  | some n =>
      have hn := h ref n hget
      rw [Option.getD_some]
      omega

end Counts

/-! ## Changes -/

/-- What a change adds to the held count of an entity. -/
def Change.onHeld (ref : EntityRef) : Change → Int
  | consume other quantity => if other = ref then -quantity else 0
  | add other quantity => if other = ref then quantity else 0
  | spend _ | gain _ => 0

/-- What a change adds to the gold, were the purse without a cap. -/
def Change.onGold : Change → Int
  | consume _ _ | add _ _ => 0
  | spend amount => -amount
  | gain amount => amount

/-- Only what is gained can be lost to the cap of a purse. -/
def Change.isGain : Change → Bool
  | gain _ => true
  | consume _ _ | add _ _ | spend _ => false

namespace Party

def apply (party : Party) : Change → Except Failure Party
  | .consume ref quantity => consume ref quantity party
  | .add ref quantity => add ref quantity party
  | .spend amount => spend amount party
  | .gain amount => gain amount party

/-- The bounds that a change asks for, and what it makes of a party that meets them. -/
def Changed (party : Party) : Change → Party → Prop
  | .consume ref quantity, after =>
      let held := party.held.count ref
      1 ≤ quantity ∧ quantity ≤ held ∧ after = { party with
        held := if held = quantity then party.held.remove ref else party.held.put ref (held - quantity) }
  | .add ref quantity, after =>
      1 ≤ quantity ∧ after = { party with held := party.held.put ref (party.held.count ref + quantity) }
  | .spend amount, after => 0 ≤ amount ∧ amount ≤ party.gold ∧ after = { party with gold := party.gold - amount }
  | .gain amount, after => 0 ≤ amount ∧ after = { party with gold := min party.maxGold (party.gold + amount) }

/-- A change passes just when its bounds are met. -/
theorem apply_eq_ok_iff {party after : Party} {change : Change} :
    party.apply change = .ok after ↔ party.Changed change after := by
  cases change with
  | consume ref quantity =>
      simp only [apply, consume, Changed]
      split
      · simp only [reduceCtorEq, false_iff]
        omega
      · split
        · simp only [reduceCtorEq, false_iff]
          omega
        · -- The last of a stack goes with its entry; of a larger one the rest stays.
          split
          · rw [Except.ok.injEq, eq_comm, and_iff_right (by omega), and_iff_right (by omega)]
          · rw [Except.ok.injEq, eq_comm, and_iff_right (by omega), and_iff_right (by omega)]
  | add ref quantity =>
      simp only [apply, add, Changed]
      split
      · simp only [reduceCtorEq, false_iff]
        omega
      · rw [Except.ok.injEq, eq_comm, and_iff_right (by omega)]
  | spend amount =>
      simp only [apply, spend, Changed]
      split
      · simp only [reduceCtorEq, false_iff]
        omega
      · split
        · simp only [reduceCtorEq, false_iff]
          omega
        · rw [Except.ok.injEq, eq_comm, and_iff_right (by omega), and_iff_right (by omega)]
  | gain amount =>
      simp only [apply, gain, Changed]
      split
      · simp only [reduceCtorEq, false_iff]
        omega
      · rw [Except.ok.injEq, eq_comm, and_iff_right (by omega)]

theorem tellable_of_apply {party : Party} {change : Change} {failure : Failure} (h : party.apply change = .error failure) :
    failure.Tellable := by
  cases change with
  | consume ref quantity =>
      simp only [apply, consume] at h
      split at h
      · cases h; trivial
      · split at h
        · cases h; trivial
        · split at h <;> cases h
  | add ref quantity =>
      simp only [apply, add] at h
      split at h <;> cases h
      trivial
  | spend amount =>
      simp only [apply, spend] at h
      split at h
      · cases h; trivial
      · split at h <;> cases h
        trivial
  | gain amount =>
      simp only [apply, gain] at h
      split at h <;> cases h
      trivial

instance : Store.Candid Party where
  quantityOf _ _ _ := by rintro ⟨⟩
  currency _ _ := by rintro ⟨⟩
  consume ref quantity party failure h := by
    have happly : party.apply (.consume ref quantity) = .error failure := h
    exact tellable_of_apply happly
  add ref quantity party failure h := by
    have happly : party.apply (.add ref quantity) = .error failure := h
    exact tellable_of_apply happly
  spend amount party failure h := by
    have happly : party.apply (.spend amount) = .error failure := h
    exact tellable_of_apply happly
  gain amount party failure h := by
    have happly : party.apply (.gain amount) = .error failure := h
    exact tellable_of_apply happly

/-- What a change does to a party, and what it leaves alone. -/
structure Moved (change : Change) (party after : Party) : Prop where
  held : ∀ ref, after.held.count ref = party.held.count ref + change.onHeld ref
  gold : change.isGain = false → after.gold = party.gold + change.onGold
  equipped : after.equipped = party.equipped
  maxGold : after.maxGold = party.maxGold
  positive : party.held.Positive → after.held.Positive

theorem moved_of_apply {party after : Party} {change : Change} (h : party.apply change = .ok after) :
    Moved change party after := by
  have hchanged := apply_eq_ok_iff.1 h
  cases change with
  | consume ref quantity =>
      obtain ⟨hone, hheld, rfl⟩ := hchanged
      refine ⟨fun other => ?_, fun _ => (Int.add_zero _).symm, rfl, rfl, fun hp => ?_⟩
      · rw [Counts.count_less, Change.onHeld]
        split <;> omega
      · split
        · exact hp.remove ref
        · exact hp.put ref (by omega)
  | add ref quantity =>
      obtain ⟨hone, rfl⟩ := hchanged
      refine ⟨fun other => ?_, fun _ => (Int.add_zero _).symm, rfl, rfl, fun hp => hp.put ref ?_⟩
      · rw [Counts.count_put, Change.onHeld]
        split
        · rename_i hother
          subst hother
          rfl
        · omega
      · have hcount := hp.count_nonneg ref
        omega
  | spend amount =>
      obtain ⟨-, -, rfl⟩ := hchanged
      exact ⟨fun _ => (Int.add_zero _).symm, fun _ => Int.sub_eq_add_neg, rfl, rfl, fun hp => hp⟩
  | gain amount =>
      obtain ⟨-, rfl⟩ := hchanged
      exact ⟨fun _ => (Int.add_zero _).symm, fun hgain => Bool.noConfusion hgain, rfl, rfl, fun hp => hp⟩

/-! ## Stock -/

/-- No entry of what is held or worn is below one, and only gear is worn. -/
structure Stocked (party : Party) : Prop where
  held : ∀ entry ∈ party.held, 1 ≤ entry.2
  equipped : ∀ entry ∈ party.equipped, 1 ≤ entry.2
  gear : ∀ entry ∈ party.equipped, entry.1.kind.isGear = true

namespace Stocked

variable {party after : Party} {ref : EntityRef}

theorem held_positive (h : party.Stocked) : party.held.Positive :=
  Counts.positive_of_entries h.held

theorem equipped_positive (h : party.Stocked) : party.equipped.Positive :=
  Counts.positive_of_entries h.equipped

theorem apply {change : Change} (h : party.Stocked) (happly : party.apply change = .ok after) : after.Stocked := by
  have hchanged := apply_eq_ok_iff.1 happly
  cases change with
  | consume ref quantity =>
      obtain ⟨-, hheld, rfl⟩ := hchanged
      refine ⟨?_, h.equipped, h.gear⟩
      dsimp only
      split
      · exact Assoc.forall_mem_remove h.held ref
      · exact Assoc.forall_mem_put h.held (by dsimp only; omega)
  | add ref quantity =>
      obtain ⟨hone, rfl⟩ := hchanged
      have hcount := h.held_positive.count_nonneg ref
      exact ⟨Assoc.forall_mem_put h.held (by dsimp only; omega), h.equipped, h.gear⟩
  | spend amount =>
      obtain ⟨-, -, rfl⟩ := hchanged
      exact ⟨h.held, h.equipped, h.gear⟩
  | gain amount =>
      obtain ⟨-, rfl⟩ := hchanged
      exact ⟨h.held, h.equipped, h.gear⟩

theorem putOn (h : party.Stocked) (hgear : ref.kind.isGear = true) : (putOn ref party).Stocked := by
  have hworn := h.equipped_positive.count_nonneg ref
  exact ⟨h.held, Assoc.forall_mem_put h.equipped (by dsimp only; omega), Assoc.forall_mem_put h.gear hgear⟩

theorem takeOff (h : party.Stocked) (hworn : 1 ≤ party.equipped.count ref) : (takeOff ref party).Stocked := by
  have hentry : Assoc.get? ref party.equipped = some (party.equipped.count ref) := by
    rw [h.equipped_positive.get?_eq, if_neg (by omega)]
  have hgear := h.gear _ (Assoc.mem_of_get?_eq_some hentry)
  simp only [Party.takeOff]
  -- The last piece goes with its entry; of several the rest stays worn.
  split
  · exact ⟨h.held, Assoc.forall_mem_remove h.equipped ref, Assoc.forall_mem_remove h.gear ref⟩
  · exact ⟨h.held, Assoc.forall_mem_put h.equipped (by dsimp only; omega), Assoc.forall_mem_put h.gear hgear⟩

end Stocked

theorem calls_keep (holds : Party → Prop)
    (happly : ∀ party change after, holds party → party.apply change = .ok after → holds after) :
    Inventory.CallsKeep fun s : Faulty Party => holds s.store where
  toReadsKeep := Faulty.reads_keep holds
  consume ref quantity := Faulty.change_keeps (fun party after => happly party (.consume ref quantity) after) _
  add ref quantity := Faulty.change_keeps (fun party after => happly party (.add ref quantity) after) _
  spend amount := Faulty.change_keeps (fun party after => happly party (.spend amount) after) _
  gain amount := Faulty.change_keeps (fun party after => happly party (.gain amount) after) _

/-! ## Wearing gear -/

/-- What changes keep and putting a piece of gear on keeps, wearing keeps, whatever calls fail. -/
theorem equip_keeps {holds : Party → Prop}
    (happly : ∀ party change after, holds party → party.apply change = .ok after → holds after) {ref : EntityRef}
    (hputOn : ref.kind.isGear = true → ∀ party, holds party → holds (putOn ref party)) :
    Act.Keeps (fun s : Faulty Party => holds s.store) (equip ref) := by
  have hcalls := calls_keep holds happly
  unfold equip
  cases hgear : ref.kind.isGear with
  | false => exact .pure _
  | true =>
      refine Act.Keeps.bind (hcalls.quantityOf ref) fun held => .ite (.pure _) ?_
      refine (hcalls.consume ref 1).bind fun _ => .bind ?_ fun _ => .pure _
      exact fun s hs => hputOn hgear s.store hs

/-- Taking off is done in two steps, and the piece is off whether or not it can be held then. -/
theorem unequip_run (ref : EntityRef) (s : Faulty Party) :
    unequip ref s = if s.store.equipped.count ref < 1 then ⟨.ok false, s, []⟩
      else (do Inventory.add ref 1; return true : Act (Faulty Party) Bool) { s with store := takeOff ref s.store } := by
  have hread : Faulty.read (fun party : Party => .ok (party.equipped.count ref)) s =
      ⟨.ok (s.store.equipped.count ref), s, []⟩ := rfl
  have hchange : Faulty.change (fun party : Party => .ok (takeOff ref party)) s =
      ⟨.ok (), { s with store := takeOff ref s.store }, []⟩ := rfl
  rw [unequip, Act.run_bind, hread]
  by_cases hworn : s.store.equipped.count ref < 1
  · simp only [if_pos hworn, Act.run_pure, List.append_nil]
  · simp only [if_neg hworn, List.nil_append]
    rw [Act.run_bind, hchange]
    simp only [List.nil_append]

theorem unequip_keeps {holds : Party → Prop}
    (happly : ∀ party change after, holds party → party.apply change = .ok after → holds after) {ref : EntityRef}
    (htakeOff : ∀ party, 1 ≤ party.equipped.count ref → holds party → holds (takeOff ref party)) :
    Act.Keeps (fun s : Faulty Party => holds s.store) (unequip ref) := by
  intro s hs
  rw [unequip_run]
  split
  · exact hs
  · rename_i hworn
    exact ((calls_keep holds happly).add ref 1).bind (fun _ => .pure _) _ (htakeOff s.store (by omega) hs)

/-! ## Reachable parties -/

/-- The parties that come about by the calls of an inventory, whatever calls are made to fail. -/
inductive Reachable : Party → Prop where
  | made {gold maxGold : Int} {party : Party} (h : make gold maxGold = .ok party) : Reachable party
  | changed {party after : Party} {change : Change} (hparty : Reachable party) (h : party.apply change = .ok after) :
      Reachable after
  | equipped {party : Party} (ref : EntityRef) (faults : Schedule) (hparty : Reachable party) :
      Reachable (equip ref ⟨party, faults⟩).state.store
  | unequipped {party : Party} (ref : EntityRef) (faults : Schedule) (hparty : Reachable party) :
      Reachable (unequip ref ⟨party, faults⟩).state.store

theorem stocked_of_make {gold maxGold : Int} {party : Party} (h : make gold maxGold = .ok party) : party.Stocked := by
  unfold make at h
  split at h
  · cases h
  · cases h
    exact ⟨List.forall_mem_nil _, List.forall_mem_nil _, List.forall_mem_nil _⟩

theorem Reachable.stocked {party : Party} (h : Reachable party) : party.Stocked := by
  have happly : ∀ party change after, Stocked party → party.apply change = .ok after → after.Stocked :=
    fun _ _ _ hparty happly => hparty.apply happly
  induction h with
  | made hmake => exact stocked_of_make hmake
  | changed _ hchange ih => exact ih.apply hchange
  | equipped ref faults _ ih => exact equip_keeps happly (fun hgear _ hparty => hparty.putOn hgear) ⟨_, faults⟩ ih
  | unequipped ref faults _ ih => exact unequip_keeps happly (fun _ hworn hparty => hparty.takeOff hworn) ⟨_, faults⟩ ih

theorem Reachable.positive {party : Party} (h : Reachable party) : party.held.Positive :=
  h.stocked.held_positive

/-! ## Parties whose calls all pass -/

/-- What is held or worn is owned. -/
def Owns (party : Party) (ref : EntityRef) : Prop :=
  0 < party.held.count ref ∨ 0 < party.equipped.count ref

instance (party : Party) (ref : EntityRef) : Decidable (party.Owns ref) :=
  inferInstanceAs (Decidable (_ ∨ _))

@[simp] theorem run_quantityOf (party : Party) (ref : EntityRef) :
    Inventory.quantityOf ref (⟨party, .clear⟩ : Faulty Party) = ⟨.ok (party.held.count ref), ⟨party, .clear⟩, []⟩ :=
  rfl

@[simp] theorem run_currency (party : Party) :
    (Inventory.currency : Act (Faulty Party) Int) ⟨party, .clear⟩ = ⟨.ok party.gold, ⟨party, .clear⟩, []⟩ :=
  rfl

theorem call_eq (change : Change) :
    ∃ call, (change.call : Act (Faulty Party) Unit) = (do Faulty.enter call; Faulty.change (apply · change)) := by
  cases change with
  | consume ref quantity => exact ⟨.consume, rfl⟩
  | add ref quantity => exact ⟨.add, rfl⟩
  | spend amount => exact ⟨.spend, rfl⟩
  | gain amount => exact ⟨.gain, rfl⟩

section

variable {party : Party} {change : Change}

theorem run_call_of_ok {after : Party} (h : party.apply change = .ok after) :
    change.call (⟨party, .clear⟩ : Faulty Party) = ⟨.ok (), ⟨after, .clear⟩, []⟩ := by
  obtain ⟨call, hcall⟩ := call_eq change
  rw [hcall, Faulty.run_change_clear, h]

theorem run_call_of_error {failure : Failure} (h : party.apply change = .error failure) :
    change.call (⟨party, .clear⟩ : Faulty Party) = ⟨.error failure, ⟨party, .clear⟩, []⟩ := by
  obtain ⟨call, hcall⟩ := call_eq change
  rw [hcall, Faulty.run_change_clear, h]

end

@[simp] theorem run_has (party : Party) (ref : EntityRef) :
    Inventory.has ref (⟨party, .clear⟩ : Faulty Party) = ⟨.ok (decide (party.Owns ref)), ⟨party, .clear⟩, []⟩ := by
  show Faulty.hasCounting true ref _ = _
  -- To ask what is owned is to ask first what is held, on the same schedule.
  have henter : Faulty.enter .has (⟨party, .clear⟩ : Faulty Party) = ⟨.ok (), ⟨party, .clear⟩, []⟩ := rfl
  have hquantity : Faulty.quantityOf ref (⟨party, .clear⟩ : Faulty Party) =
      ⟨.ok (party.held.count ref), ⟨party, .clear⟩, []⟩ := rfl
  simp only [Faulty.hasCounting, Act.run_bind, henter, hquantity, Owns]
  by_cases hheld : 0 < party.held.count ref
  · simp only [hheld, if_true, Act.run_pure, true_or, decide_true]
    rfl
  · simp only [hheld, if_false, Faulty.read, false_or, Bool.true_and]
    rfl

/-- All of one entity, held or worn. -/
def owned (party : Party) (ref : EntityRef) : Int :=
  party.held.count ref + party.equipped.count ref

theorem Stocked.owns_iff {party : Party} (h : party.Stocked) (ref : EntityRef) :
    party.Owns ref ↔ 0 < party.owned ref := by
  have hheld := h.held_positive.count_nonneg ref
  have hworn := h.equipped_positive.count_nonneg ref
  unfold Owns owned
  omega

/-- So many pieces went from what is held to what is worn. -/
structure Shifted (ref : EntityRef) (n : Int) (party after : Party) : Prop where
  held : ∀ other, after.held.count other = party.held.count other - if ref = other then n else 0
  equipped : ∀ other, after.equipped.count other = party.equipped.count other + if ref = other then n else 0
  gold : after.gold = party.gold
  maxGold : after.maxGold = party.maxGold

theorem Shifted.owned {ref : EntityRef} {n : Int} {party after : Party} (h : Shifted ref n party after)
    (other : EntityRef) : after.owned other = party.owned other := by
  have hheld := h.held other
  have hworn := h.equipped other
  unfold Party.owned
  omega

theorem equip_clear (ref : EntityRef) (party : Party) :
    equip ref ⟨party, .clear⟩ = ⟨.ok false, ⟨party, .clear⟩, []⟩ ∨
      ∃ after, Shifted ref 1 party after ∧ equip ref ⟨party, .clear⟩ = ⟨.ok true, ⟨after, .clear⟩, []⟩ := by
  by_cases hgear : ref.kind.isGear = true
  · by_cases hheld : party.held.count ref < 1
    · left
      simp [equip, hgear, Act.run_bind, hheld]
    · -- What is held can be consumed, and putting it on does not fail.
      obtain ⟨consumed, happly⟩ : ∃ consumed, party.apply (.consume ref 1) = .ok consumed :=
        ⟨_, apply_eq_ok_iff.2 ⟨by omega, by omega, rfl⟩⟩
      have hmoved := moved_of_apply happly
      have hconsume : Inventory.consume ref 1 (⟨party, .clear⟩ : Faulty Party) = ⟨.ok (), ⟨consumed, .clear⟩, []⟩ :=
        run_call_of_ok happly
      refine .inr ⟨putOn ref consumed, ⟨fun other => ?_, fun other => ?_, ?_, hmoved.maxGold⟩, ?_⟩
      · rw [show (putOn ref consumed).held = consumed.held from rfl, hmoved.held, Change.onHeld]
        split <;> omega
      · rw [putOn, hmoved.equipped, Counts.count_put]
        split
        · rename_i hother
          rw [hother]
        · omega
      · exact (hmoved.gold rfl).trans (Int.add_zero _)
      · simp only [equip, hgear, Bool.not_true, Bool.false_eq_true, if_false, Act.run_bind, run_quantityOf, hheld,
          hconsume]
        rfl
  · left
    simp [equip, hgear]

theorem unequip_clear (ref : EntityRef) (party : Party) :
    unequip ref ⟨party, .clear⟩ = ⟨.ok false, ⟨party, .clear⟩, []⟩ ∨
      ∃ after, Shifted ref (-1) party after ∧ unequip ref ⟨party, .clear⟩ = ⟨.ok true, ⟨after, .clear⟩, []⟩ := by
  rw [unequip_run]
  split
  · exact .inl rfl
  · rename_i hworn
    -- One more can always be held.
    obtain ⟨after, happly⟩ : ∃ after, (takeOff ref party).apply (.add ref 1) = .ok after := ⟨_, rfl⟩
    have hmoved := moved_of_apply happly
    have hadd : Inventory.add ref 1 (⟨takeOff ref party, .clear⟩ : Faulty Party) = ⟨.ok (), ⟨after, .clear⟩, []⟩ :=
      run_call_of_ok happly
    refine .inr ⟨after, ⟨fun other => ?_, fun other => ?_, ?_, hmoved.maxGold⟩, ?_⟩
    · rw [hmoved.held, Change.onHeld, show (takeOff ref party).held = party.held from rfl]
      split <;> omega
    · rw [hmoved.equipped, takeOff, Counts.count_less]
      split <;> omega
    · exact (hmoved.gold rfl).trans (Int.add_zero _)
    · simp [Act.run_bind, hadd]

end Party

end Crafting
