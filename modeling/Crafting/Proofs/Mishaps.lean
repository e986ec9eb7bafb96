import Crafting.Proofs.Dealings

/-!
# Dealings that fail

Calls of a party's inventory can fail. To put a piece of gear on is to take it from what is held first, so a failure of
that call leaves all as it was. To take a piece off is to change what is worn first and to add the piece to what is held
then, and where that call fails the piece is lost.
-/

namespace Crafting.Party

/-! ## Failures that leave the party as it was -/

theorem call_keepsOnFailure (party : Party) (change : Change) :
    Act.KeepsOnFailure (fun s : Faulty Party => s.store = party) change.call := by
  intro s hs failure hfails
  obtain ⟨call, hcall⟩ := call_eq change
  rw [hcall] at hfails ⊢
  rcases Faulty.run_change call (apply · change) s with ⟨hpassed, -⟩ | ⟨_, -, hsame⟩
  · cases hpassed.symm.trans hfails
  · exact hsame.trans hs

theorem equip_keepsOnFailure (party : Party) (ref : EntityRef) :
    Act.KeepsOnFailure (fun s : Faulty Party => s.store = party) (equip ref) := by
  have hlook : Act.Keeps (fun s : Faulty Party => s.store = party) (Inventory.quantityOf ref) :=
    (Faulty.reads_keep (· = party)).quantityOf ref
  have hputOn : Act.Answers (do Faulty.change fun party => .ok (putOn ref party); return true) := fun _ => ⟨true, rfl⟩
  -- The piece is taken from what is held before anything else is changed, and behind that no call is made.
  unfold equip
  refine .ite (.of_answers (.pure _)) (.bind hlook fun held => .ite (.of_answers (.pure _)) ?_)
  exact (call_keepsOnFailure party (.consume ref 1)).bind_of_answers fun _ => hputOn

/-- An exchange that can be reported fails only while it looks: a step of it that fails is answered for. -/
theorem exchange_keepsOnFailure (party : Party) {recipe : Option Recipe}
    (hreports : ∀ made, recipe = some made → made.Reportable) :
    Act.KeepsOnFailure (fun s : Faulty Party => s.store = party) (Exchange.run recipe) := by
  have hinvalid : Act.KeepsOnFailure (fun s : Faulty Party => s.store = party) (Exchange.run none) :=
    .of_answers ((Act.Answers.log _).bind fun _ => .pure _)
  cases recipe with
  | none => exact hinvalid
  | some made =>
      intro s hs failure hfails
      by_cases hmaterials : made.materials = []
      · rw [Exchange.run_hollow hmaterials] at hfails ⊢
        exact hinvalid s hs failure hfails
      · obtain hlooking | ⟨-, hunreported⟩ := (Exchange.run_eq_error_iff hmaterials).1 hfails
        · rw [(Exchange.run_of_error hmaterials hlooking).2]
          exact Exchange.isAvailable_keeps (Faulty.reads_keep (· = party)) made s hs
        · exact absurd hunreported (Exchange.not_unreported (hreports made rfl) s)

/-! ## Pieces that are lost -/

section

variable {ref : EntityRef} {s : Faulty Party}

theorem unequip_of_not_worn (hworn : ¬1 ≤ s.store.equipped.count ref) : unequip ref s = ⟨.ok false, s, []⟩ := by
  rw [unequip_run, if_pos (by omega)]

/-- The piece is off by the time that it cannot be held. -/
theorem unequip_of_refused (hworn : 1 ≤ s.store.equipped.count ref) {message : String}
    (hadd : (s.faults.next .add).1 = some message) :
    (unequip ref s).value = .error (.refused message) ∧ (unequip ref s).state.store = takeOff ref s.store := by
  let off : Faulty Party := { s with store := takeOff ref s.store }
  have henter : (Faulty.enter .add off).value = .error (.refused message) := by
    rw [Faulty.enter_value, hadd, Option.elim_some]
  have hcall : (Inventory.add ref 1 off).value = .error (.refused message) :=
    congrArg Run.value (Act.run_bind_of_error henter _)
  have hstore : (Inventory.add ref 1 off).state.store = takeOff ref s.store :=
    call_keepsOnFailure _ (.add ref 1) off rfl _ hcall
  rw [unequip_run, if_neg (by omega), Act.run_bind_of_error hcall]
  exact ⟨rfl, hstore⟩

theorem unequip_of_passing (hworn : 1 ≤ s.store.equipped.count ref) (hadd : (s.faults.next .add).1 = none) :
    (unequip ref s).value = .ok true := by
  let off : Faulty Party := { s with store := takeOff ref s.store }
  have henter : (Faulty.enter .add off).value = .ok () := by rw [Faulty.enter_value, hadd, Option.elim_none]
  -- One piece more is no quantity that is refused.
  have hcall : (Inventory.add ref 1 off).value = .ok () := congrArg Run.value (Act.run_bind_of_ok henter _)
  rw [unequip_run, if_neg (by omega), Act.run_bind_of_ok hcall]
  rfl

end

theorem owned_takeOff (ref other : EntityRef) (party : Party) :
    (takeOff ref party).owned other = party.owned other - if ref = other then 1 else 0 := by
  rw [owned, owned, takeOff, Counts.count_less]
  dsimp only
  omega

theorem takeOff_ne (ref : EntityRef) (party : Party) : takeOff ref party ≠ party := by
  intro hsame
  have howned := owned_takeOff ref ref party
  rw [hsame, if_pos rfl] at howned
  omega

namespace Dealing

/-- A piece that is worn is to be taken off, and the call that is to add it to what is held is due to fail. -/
def Drops (s : Faulty Party) (dealing : Dealing) (ref : EntityRef) : Prop :=
  dealing = unequip ref ∧ 1 ≤ s.store.equipped.count ref ∧ ∃ message, (s.faults.next .add).1 = some message

theorem act_keepsOnFailure (party : Party) {dealing : Dealing} (hreports : dealing.Reports)
    (hdealing : ∀ ref, dealing ≠ unequip ref) :
    Act.KeepsOnFailure (fun s : Faulty Party => s.store = party) dealing.act := by
  cases dealing with
  | apply change => exact (call_keepsOnFailure party change).bind_of_answers fun _ => .pure _
  | equip ref => exact equip_keepsOnFailure party ref
  | unequip ref => exact absurd rfl (hdealing ref)
  | exchange recipe =>
      have hrecipe : ∀ made, recipe = some made → made.Reportable := fun made hmade => hreports made (hmade ▸ rfl)
      exact (exchange_keepsOnFailure party hrecipe).bind_of_answers fun _ => .pure _

theorem Drops.run {s : Faulty Party} {dealing : Dealing} {ref : EntityRef} (h : dealing.Drops s ref) :
    (∃ failure, (dealing.act s).value = .error failure) ∧ (dealing.act s).state.store = takeOff ref s.store := by
  obtain ⟨rfl, hworn, message, hadd⟩ := h
  obtain ⟨hvalue, hstore⟩ := unequip_of_refused hworn hadd
  exact ⟨⟨_, hvalue⟩, hstore⟩

/-- Of the dealings that fail, only those that drop a piece change the party. -/
theorem exists_drops {s : Faulty Party} {dealing : Dealing} (hreports : dealing.Reports) {failure : Failure}
    (hfails : (dealing.act s).value = .error failure) (hchanged : (dealing.act s).state.store ≠ s.store) :
    ∃ ref, dealing.Drops s ref := by
  -- Nothing but taking off changes anything before a call that may fail.
  by_cases hdealing : ∀ ref, dealing ≠ unequip ref
  · exact absurd (act_keepsOnFailure s.store hreports hdealing s rfl failure hfails) hchanged
  · obtain ⟨ref, hunequip⟩ := not_forall_not.1 hdealing
    subst hunequip
    change (Party.unequip ref s).value = _ at hfails
    by_cases hworn : 1 ≤ s.store.equipped.count ref
    · cases hadd : (s.faults.next .add).1 with
      | none =>
          rw [unequip_of_passing hworn hadd] at hfails
          cases hfails
      | some message => exact ⟨ref, rfl, hworn, message, hadd⟩
    · rw [unequip_of_not_worn hworn] at hfails
      cases hfails

/-- For any party, any dealing and any calls that are to fail: a dealing that fails leaves the party as it was, unless
it was to take off a piece that is worn and could not add it to what is held. Then that piece is lost, and nothing else
is changed. A whole exchange counts here as far as it can be reported. -/
theorem failure_changes_iff (dealing : Dealing) (hreports : dealing.Reports) (s : Faulty Party) :
    let run := dealing.act s
    ((∃ failure, run.value = .error failure) ∧ run.state.store ≠ s.store ↔ ∃ ref, dealing.Drops s ref) ∧
      ∀ ref, dealing.Drops s ref → run.state.store = takeOff ref s.store ∧
        ∀ other, run.state.store.owned other = s.store.owned other - if ref = other then 1 else 0 := by
  intro run
  refine ⟨⟨fun ⟨⟨failure, hfails⟩, hchanged⟩ => exists_drops hreports hfails hchanged, ?_⟩, fun ref hdrops => ?_⟩
  · rintro ⟨ref, hdrops⟩
    obtain ⟨hfails, hstore⟩ := hdrops.run
    exact ⟨hfails, hstore.trans_ne (takeOff_ne ref s.store)⟩
  · have hstore : run.state.store = takeOff ref s.store := hdrops.run.2
    exact ⟨hstore, fun other => by rw [hstore, owned_takeOff]⟩

end Dealing

end Crafting.Party

namespace Crafting.Sample

open Party

/-- A party that wears its one blade, whose bag is full when it takes it off. -/
def fullBag : Faulty Party :=
  ⟨{ equipped := [(blade, 1)] }, [(.add, [(1, some "bag full")])]⟩

/-- The blade is worn before and nowhere after. -/
theorem blade_dropped :
    (Dealing.act (.unequip blade) fullBag).value = .error (.refused "bag full") ∧
      (Dealing.act (.unequip blade) fullBag).state.store = {} ∧ fullBag.store.owned blade = 1 ∧
      (Dealing.act (.unequip blade) fullBag).state.store.owned blade = 0 := by
  have hreports : (Dealing.unequip blade).Reports := by
    rintro _ ⟨⟩
  have hdrops : (Dealing.unequip blade).Drops fullBag blade := ⟨rfl, by decide, "bag full", rfl⟩
  obtain ⟨hstore, howned⟩ := (Dealing.failure_changes_iff (.unequip blade) hreports fullBag).2 blade hdrops
  exact ⟨rfl, hstore, by decide, howned blade⟩

end Crafting.Sample
