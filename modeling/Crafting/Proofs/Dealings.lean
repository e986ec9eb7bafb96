import Crafting.Proofs.Availability
import Crafting.Proofs.Judging

/-!
# Dealings with a party

What is asked of a party, one thing after another: a change of what it holds or of its gold, a piece of gear to wear or
to take off, a whole exchange. Where no call is made to fail, each dealing is done or leaves the party as it is, and no
row of dealings brings the party out of order. Only an exchange can be done and fail all the same, where it cannot be
reported. Whatever calls fail, a purse stays between its cap and zero, so that it falls below zero just when the cap lies
there.
-/

namespace Crafting.Party

inductive Dealing where
  | apply (change : Change)
  | equip (ref : EntityRef)
  | unequip (ref : EntityRef)
  | exchange (recipe : Option Recipe)

namespace Dealing

/-- Deals; answers whether it was done. -/
def act : Dealing → Act (Faulty Party) Bool
  | apply change => do
      change.call
      return true
  | equip ref => Party.equip ref
  | unequip ref => Party.unequip ref
  | exchange recipe => do return (← Exchange.run recipe) = .applied

/-- What a dealing makes of a party when it is done. -/
def Does (party : Party) : Dealing → Party → Prop
  | apply change, after => party.apply change = .ok after
  | equip ref, after => party.Shifted ref 1 after
  | unequip ref, after => party.Shifted ref (-1) after
  | exchange recipe, after => ∃ made, recipe = some made ∧ party.Exchanged made after

/-- If the dealing is an exchange, it can be reported. -/
def Reports (dealing : Dealing) : Prop :=
  ∀ made, dealing = exchange (some made) → made.Reportable

/-! ## One dealing -/

/-- Where no call is made to fail, a dealing is done or the party stays as it is. One that is done says so if it can be
reported. -/
theorem act_clear (dealing : Dealing) (party : Party) :
    (∃ after, dealing.Does party after ∧ (dealing.act ⟨party, .clear⟩).state = ⟨after, .clear⟩ ∧
        ((dealing.act ⟨party, .clear⟩).value = .ok true ∨
          ¬dealing.Reports ∧ ∃ failure, (dealing.act ⟨party, .clear⟩).value = .error failure)) ∨
      (dealing.act ⟨party, .clear⟩).value ≠ .ok true ∧ (dealing.act ⟨party, .clear⟩).state = ⟨party, .clear⟩ := by
  cases dealing with
  | apply change =>
      cases happly : party.apply change with
      | ok after =>
          have hcall := run_call_of_ok happly
          rw [act, Act.run_bind_of_ok (congrArg Run.value hcall), hcall]
          exact .inl ⟨after, happly, rfl, .inl rfl⟩
      | error failure =>
          have hcall := run_call_of_error happly
          rw [act, Act.run_bind_of_error (congrArg Run.value hcall), hcall]
          exact .inr ⟨nofun, rfl⟩
  | equip ref =>
      rcases equip_clear ref party with hrefused | ⟨after, hshifted, hdone⟩
      · rw [act, hrefused]
        exact .inr ⟨nofun, rfl⟩
      · rw [act, hdone]
        exact .inl ⟨after, hshifted, rfl, .inl rfl⟩
  | unequip ref =>
      rcases unequip_clear ref party with hrefused | ⟨after, hshifted, hdone⟩
      · rw [act, hrefused]
        exact .inr ⟨nofun, rfl⟩
      · rw [act, hdone]
        exact .inl ⟨after, hshifted, rfl, .inl rfl⟩
  | exchange recipe =>
      -- Without faults a whole exchange is done or not begun: nothing is ever taken back.
      have hstate : (act (exchange recipe) ⟨party, .clear⟩).state =
          (Exchange.run recipe (⟨party, .clear⟩ : Faulty Party)).state := by
        rw [act, Act.run_bind]
        split <;> rfl
      rcases Exchange.run_clear recipe party with ⟨made, after, rfl, hexchanged, hvalue, hafter⟩ | ⟨hending, hsame⟩
      · refine .inl ⟨after, ⟨made, rfl, hexchanged⟩, hstate.trans hafter, ?_⟩
        cases htext : Exchange.appliedText made with
        | ok words =>
            rw [htext] at hvalue
            exact .inl (congrArg Run.value (Act.run_bind_of_ok hvalue _))
        | error failure =>
            rw [htext] at hvalue
            refine .inr ⟨fun hreports => ?_, failure, congrArg Run.value (Act.run_bind_of_error hvalue _)⟩
            obtain ⟨words, hwords⟩ := Exchange.exists_appliedText_iff.2 (hreports made rfl)
            cases htext.symm.trans hwords
      · refine .inr ⟨fun hdone => ?_, hstate.trans hsame⟩
        obtain ⟨ending, hvalue, happlied⟩ := Act.bind_eq_ok_iff.1 hdone
        exact hending (hvalue.trans (congrArg Except.ok (of_decide_eq_true (Except.ok.inj happlied))))

theorem act_keeps_clear (dealing : Dealing) : Act.Keeps (fun s : Faulty Party => s.faults = .clear) dealing.act := by
  intro s hs
  rw [Faulty.eq_of_clear hs]
  rcases dealing.act_clear s.store with ⟨after, -, hstate, -⟩ | ⟨-, hstate⟩
  · exact congrArg Faulty.faults hstate
  · exact congrArg Faulty.faults hstate

/-- What changes keep and gear put on and taken off keeps, every dealing keeps, whatever calls fail. -/
theorem act_keeps (holds : Party → Prop)
    (happly : ∀ party change after, holds party → party.apply change = .ok after → holds after)
    (hputOn : ∀ ref party, ref.kind.isGear = true → holds party → holds (putOn ref party))
    (htakeOff : ∀ ref party, 1 ≤ party.equipped.count ref → holds party → holds (takeOff ref party))
    (dealing : Dealing) : Act.Keeps (fun s : Faulty Party => holds s.store) dealing.act := by
  have hcalls := calls_keep holds happly
  cases dealing with
  | apply change => exact (hcalls.call change).bind fun _ => .pure _
  | equip ref => exact equip_keeps happly fun hgear party => hputOn ref party hgear
  | unequip ref => exact unequip_keeps happly (htakeOff ref)
  | exchange recipe => exact (Exchange.run_keeps hcalls recipe).bind fun _ => .pure _

theorem act_keeps_stocked (dealing : Dealing) : Act.Keeps (fun s : Faulty Party => s.store.Stocked) dealing.act :=
  dealing.act_keeps Stocked (fun _ _ _ h happly => h.apply happly) (fun _ _ hgear h => h.putOn hgear)
    fun _ _ hworn h => h.takeOff hworn

end Dealing

/-! ## Purses -/

/-- The purse has that cap and holds no more; nor does it hold less than nothing, unless the cap lies lower. -/
structure Capped (party : Party) (cap : Int) : Prop where
  maxGold : party.maxGold = cap
  le_gold : min 0 cap ≤ party.gold
  gold_le : party.gold ≤ cap

namespace Capped

variable {party : Party} {cap : Int}

theorem of_make {gold : Int} (h : make gold cap = .ok party) : party.Capped cap := by
  unfold make at h
  split at h
  · cases h
  · cases h
    exact ⟨rfl, by dsimp only; omega, by dsimp only; omega⟩

theorem apply {after : Party} {change : Change} (h : party.Capped cap) (happly : party.apply change = .ok after) :
    after.Capped cap := by
  obtain ⟨hcap, hleast, hmost⟩ := h
  have hchanged := apply_eq_ok_iff.1 happly
  cases change with
  | consume ref quantity =>
      obtain ⟨-, -, rfl⟩ := hchanged
      exact ⟨hcap, hleast, hmost⟩
  | add ref quantity =>
      obtain ⟨-, rfl⟩ := hchanged
      exact ⟨hcap, hleast, hmost⟩
  | spend amount =>
      -- What is spent is there, so nothing at all is spent from a purse below zero.
      obtain ⟨hamount, hpaid, rfl⟩ := hchanged
      exact ⟨hcap, by dsimp only; omega, by dsimp only; omega⟩
  | gain amount =>
      -- What is gained is lost again as far as it exceeds the cap, be it all of it.
      obtain ⟨hamount, rfl⟩ := hchanged
      exact ⟨hcap, by dsimp only; omega, by dsimp only; omega⟩

theorem act (dealing : Dealing) : Act.Keeps (fun s : Faulty Party => s.store.Capped cap) dealing.act :=
  dealing.act_keeps (Capped · cap) (fun _ _ _ h happly => h.apply happly)
    (fun _ _ _ h => ⟨h.maxGold, h.le_gold, h.gold_le⟩) fun _ _ _ h => ⟨h.maxGold, h.le_gold, h.gold_le⟩

theorem gold_nonneg_iff (h : party.Capped cap) : 0 ≤ party.gold ↔ 0 ≤ cap := by
  obtain ⟨-, hleast, hmost⟩ := h
  omega

theorem gold_eq (h : party.Capped cap) (hcap : cap < 0) : party.gold = cap := by
  obtain ⟨-, hleast, hmost⟩ := h
  omega

end Capped

/-- Through every row of dealings with a party that is made, whatever calls fail, the currency that is answered is the
gold in the purse. It never exceeds the cap, and it is not below zero, then or at any time, just when the cap is not:
under a cap below zero the purse holds the cap itself, from the beginning on. -/
theorem purse_nonneg_iff {gold cap : Int} {party : Party} (hmade : make gold cap = .ok party) (faults : Schedule)
    (dealings : List Dealing) :
    let s := Act.after Dealing.act dealings ⟨party, faults⟩
    (Inventory.currency s).value =
        (s.faults.fate .currency 0).elim (.ok s.store.gold) (fun message => .error (.refused message)) ∧
      s.store.gold ≤ cap ∧ (0 ≤ s.store.gold ↔ 0 ≤ cap) ∧ (cap < 0 → s.store.gold = cap) := by
  intro s
  have hcapped : s.store.Capped cap :=
    Act.Keeps.after_turns (fun dealing _ => Capped.act dealing) (s := ⟨party, faults⟩) (.of_make hmade)
  have hcurrency := Verdict.currency_run s.store s.faults
  exact ⟨congrArg Run.value hcurrency, hcapped.gold_le, hcapped.gold_nonneg_iff, hcapped.gold_eq⟩

/-! ## Order -/

/-- The party is stocked, and its gold is neither below zero nor above the cap. -/
structure Orderly (party : Party) (cap : Int) : Prop extends Stocked party where
  maxGold : party.maxGold = cap
  gold_nonneg : 0 ≤ party.gold
  gold_le : party.gold ≤ cap

namespace Orderly

variable {party : Party} {cap : Int} {ref : EntityRef}

theorem of_make {gold : Int} (h : make gold cap = .ok party) (hcap : 0 ≤ cap) : party.Orderly cap := by
  have hcapped := Capped.of_make h
  exact ⟨stocked_of_make h, hcapped.maxGold, hcapped.gold_nonneg_iff.2 hcap, hcapped.gold_le⟩

theorem capped (h : party.Orderly cap) : party.Capped cap := by
  have hnonneg := h.gold_nonneg
  exact ⟨h.maxGold, by omega, h.gold_le⟩

theorem apply {after : Party} {change : Change} (h : party.Orderly cap) (happly : party.apply change = .ok after) :
    after.Orderly cap := by
  have hcapped := h.capped.apply happly
  have hcap : 0 ≤ cap := h.capped.gold_nonneg_iff.1 h.gold_nonneg
  exact ⟨h.toStocked.apply happly, hcapped.maxGold, hcapped.gold_nonneg_iff.2 hcap, hcapped.gold_le⟩

theorem act (dealing : Dealing) : Act.Keeps (fun s : Faulty Party => s.store.Orderly cap) dealing.act :=
  dealing.act_keeps (Orderly · cap) (fun _ _ _ h happly => h.apply happly)
    (fun _ _ hgear h => ⟨h.toStocked.putOn hgear, h.maxGold, h.gold_nonneg, h.gold_le⟩)
    fun _ _ hworn h => ⟨h.toStocked.takeOff hworn, h.maxGold, h.gold_nonneg, h.gold_le⟩

end Orderly

end Crafting.Party

namespace Crafting.Sample

open Party

/-- Of a purse whose cap lies below zero nothing can be spent, and nothing that it gains stays in it. -/
theorem debt_stays :
    make 0 (-5) = .ok { gold := -5, maxGold := -5 } ∧
      let s := Act.after Dealing.act [.apply (.gain 3), .apply (.spend 0), .exchange none]
        ⟨{ gold := -5, maxGold := -5 }, .clear⟩
      (Inventory.currency s).value = .ok (-5) ∧ ¬0 ≤ s.store.gold := by
  have hmade : make 0 (-5) = .ok { gold := -5, maxGold := -5 } := rfl
  obtain ⟨hcurrency, -, hnonneg, hdebt⟩ :=
    purse_nonneg_iff hmade .clear [.apply (.gain 3), .apply (.spend 0), .exchange none]
  refine ⟨hmade, ?_, fun h => absurd (hnonneg.1 h) (by decide)⟩
  rw [hcurrency, hdebt (by decide)]
  rfl

def blade : EntityRef := ⟨.weapon, 1, Nat.one_pos⟩

/-- Herbs and a blade are got, the blade is put on, too much is spent, nothing is made, and the blade is taken off. -/
def errands : List Dealing :=
  [.apply (.add herb 2), .apply (.add blade 1), .equip blade, .apply (.spend 61), .exchange none, .unequip blade]

end Crafting.Sample
