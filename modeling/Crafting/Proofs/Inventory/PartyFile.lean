import Mathlib.Algebra.Ring.Int.Defs
import Crafting.Inventory.PartyFile
import Crafting.Proofs.Inventory.Party
import Crafting.Proofs.Loading

/-!
# The party that a file describes

A party file gives the party that it describes, or an empty one if it describes none. Three failures get past this: a
value that is no object and, if all that is read before it is in order, an infinite number or a kind whose name holds
half a character, which cannot be printed.
-/

namespace Crafting

theorem EntityRef.ofName_eq_ok_iff {name : String} {id : Int} {ref : EntityRef} :
    ofName name id = .ok ref ↔ name = ref.kind.name ∧ id = ref.id := by
  unfold ofName
  split
  · rename_i hnone
    refine ⟨nofun, fun h => ?_⟩
    rw [h.1, Kind.ofName?_name] at hnone
    cases hnone
  · rename_i kind hkind
    rw [Kind.ofName?_eq_some_iff] at hkind
    rw [ofKind_eq_ok, hkind, eq_comm (a := id)]
    exact and_congr_left fun _ => ⟨fun h => by rw [h], fun h => Kind.name_injective h.symm⟩

namespace Party

/-! ## Descriptions -/

/-- What a party file says: gold, held items with their quantities, and what is worn. -/
structure Description where
  gold : Int
  items : List (EntityRef × Int)
  worn : List EntityRef

/-- The value from which the gold is read. -/
def goldIn (data : Json) : Json :=
  (data.get? "gold").getD (.whole 0)

/-- The value from which an entry's quantity is read. -/
def quantityIn (entry : Json) : Json :=
  (entry.get? "quantity").getD (.whole 1)

/-- The entry names this entity by kind and number. -/
def Names (entry : Json) (ref : EntityRef) : Prop :=
  ∃ kind id, entry.get? "kind" = some kind ∧ entry.get? "id" = some id ∧
    (kind.display = .ok ref.kind.name ∧ kind.isTorn = false) ∧ id.toInt = .ok (ref.id : Int)

/-- The entry says that so many of an entity are held. -/
def Lists (entry : Json) (item : EntityRef × Int) : Prop :=
  Names entry item.1 ∧ (quantityIn entry).toInt = .ok item.2 ∧ 1 ≤ item.2

/-- The value is a description of a party. -/
structure Describes (data : Json) (described : Description) : Prop where
  object : ∃ fields, data = .object fields
  gold : (goldIn data).toInt = .ok described.gold
  gold_nonneg : 0 ≤ described.gold
  items : ∃ list, entries data "items" = .ok list ∧ List.Forall₂ Lists list described.items
  worn : ∃ list, entries data "equipped" = .ok list ∧ List.Forall₂ Names list described.worn

/-- The party is the one described: its gold is cut off at the cap, gear among what is worn is worn, and all else is held. -/
structure Matches (described : Description) (party : Party) : Prop where
  gold : party.gold = min described.gold purseCap
  maxGold : party.maxGold = purseCap
  held : ∀ ref, party.held.count ref = (described.items.map fun item => if item.1 = ref then item.2 else 0).sum +
    if ref.kind.isGear then 0 else (described.worn.count ref : Int)
  equipped : ∀ ref, party.equipped.count ref = if ref.kind.isGear then (described.worn.count ref : Int) else 0
  stocked : party.Stocked

/-! ## What is let through -/

/-- What a description holds that is let through, besides what is no object at all. -/
inductive Escape where
  /-- an infinite number -/
  | infinite
  /-- a torn kind -/
  | torn

namespace Escape

/-- The failures that tell of it. -/
def Tells : Escape → Failure → Prop
  | infinite, failure => failure = .infinite
  | torn, failure => ∃ name, failure = .tornKind name

/-- It is in a value that is read as a whole number. -/
def InNumber : Escape → Json → Prop
  | infinite, value => value.IsInfinite
  | torn, _ => False

/-- It is in an entry's reference: the number is infinite, and the kind before it is there; or the kind is torn, and the
number beside it can be read. -/
def InRef : Escape → Json → Prop
  | infinite, entry => (∃ kind, entry.get? "kind" = some kind) ∧ ∃ id, entry.get? "id" = some id ∧ id.IsInfinite
  | torn, entry => (∃ kind, entry.get? "kind" = some kind ∧ kind.isTorn = true) ∧
      ∃ id, entry.get? "id" = some id ∧ ∃ n, id.toInt = .ok n

/-- It is in an item's reference or, after a reference that is in order, in its quantity. -/
def InItem (escape : Escape) (entry : Json) : Prop :=
  escape.InRef entry ∨ (∃ ref, Names entry ref) ∧ escape.InNumber (quantityIn entry)

end Escape

/-- Among the entries there is one of the one sort, and those before it are all in order. -/
def MeetsFirst (stops orderly : Json → Prop) (entries : List Json) : Prop :=
  ∃ before entry after, entries = before ++ entry :: after ∧ (∀ other ∈ before, orderly other) ∧ stops entry

/-- In a description it comes before anything else that is out of order. -/
inductive Escape.Meets (escape : Escape) (data : Json) : Prop where
  | gold (h : escape.InNumber (goldIn data))
  | item {gold : Int} {items : List Json} (hgold : (goldIn data).toInt = .ok gold) (hpos : 0 ≤ gold)
      (hitems : entries data "items" = .ok items)
      (h : MeetsFirst escape.InItem (fun entry => ∃ item, Lists entry item) items)
  | worn {gold : Int} {items worn : List Json} (hgold : (goldIn data).toInt = .ok gold) (hpos : 0 ≤ gold)
      (hitems : entries data "items" = .ok items) (horderly : ∀ entry ∈ items, ∃ item, Lists entry item)
      (hworn : entries data "equipped" = .ok worn)
      (h : MeetsFirst escape.InRef (fun entry => ∃ ref, Names entry ref) worn)

/-- The failures that loading a party lets through. -/
inductive LetsThrough : DataFile → Failure → Prop where
  | noObject {file : DataFile} {data : Json} (hfile : file.Holds data) (h : ∀ fields, data ≠ .object fields) :
      LetsThrough file .missingField
  | infinite {file : DataFile} {fields : List (String × Json)} (hfile : file.Holds (.object fields))
      (h : Escape.infinite.Meets (.object fields)) : LetsThrough file .infinite
  /-- The report names the kind, and half a character cannot be printed. -/
  | torn {file : DataFile} {fields : List (String × Json)} (hfile : file.Holds (.object fields))
      (h : Escape.torn.Meets (.object fields)) : LetsThrough file .unencodable

/-- What is let through of a failure to read a description. -/
def letThrough? : Failure → Option Failure
  | .missingField => some .missingField
  | .infinite => some .infinite
  | .tornKind _ => some .unencodable
  | _ => none

theorem letThrough?_eq_some_iff {cause failure : Failure} :
    letThrough? cause = some failure ↔ cause = .missingField ∧ failure = .missingField ∨
      Escape.infinite.Tells cause ∧ failure = .infinite ∨ Escape.torn.Tells cause ∧ failure = .unencodable := by
  cases cause <;> simp [letThrough?, Escape.Tells, eq_comm]

/-- A result tells of what is let through just when the cause holds, and it never fails for want of an object. -/
structure StopsWhen {α : Type} (result : Except Failure α) (cause : Escape → Prop) : Prop where
  tells : ∀ escape : Escape, (∃ failure, result = .error failure ∧ escape.Tells failure) ↔ cause escape
  noField : result ≠ .error .missingField

namespace StopsWhen

variable {α β : Type} {result : Except Failure α} {next : α → Except Failure β} {cause : Escape → Prop}

theorem congr (h : StopsWhen result cause) {other : Escape → Prop} (hcause : ∀ escape, cause escape ↔ other escape) :
    StopsWhen result other :=
  ⟨fun escape => (h.tells escape).trans (hcause escape), h.noField⟩

/-- Nothing else is let through. -/
theorem never (h : ∀ failure, result = .error failure → letThrough? failure = none) :
    StopsWhen result fun _ => False := by
  have hsome : ∀ failure other, result = .error failure → letThrough? failure ≠ some other := by
    intro failure other hfailure hthrough
    cases (h failure hfailure).symm.trans hthrough
  refine ⟨fun escape => iff_false_intro ?_, fun hfailure => hsome _ _ hfailure rfl⟩
  rintro ⟨failure, hfailure, htells⟩
  cases escape with
  | infinite => exact hsome _ _ hfailure (letThrough?_eq_some_iff.2 (.inr (.inl ⟨htells, rfl⟩)))
  | torn => exact hsome _ _ hfailure (letThrough?_eq_some_iff.2 (.inr (.inr ⟨htells, rfl⟩)))

theorem ok (a : α) : StopsWhen (.ok a) fun _ => False :=
  never (by rintro _ ⟨⟩)

theorem bind {after : α → Escape → Prop} (h : StopsWhen result cause)
    (hnext : ∀ a, result = .ok a → StopsWhen (next a) (after a)) :
    StopsWhen (result >>= next) fun escape => cause escape ∨ ∃ a, result = .ok a ∧ after a escape where
  tells escape := by
    rw [← h.tells escape]
    constructor
    · rintro ⟨failure, hfailure, htells⟩
      obtain hfirst | ⟨a, hok, hlast⟩ := Result.bind_eq_error_iff.1 hfailure
      · exact .inl ⟨failure, hfirst, htells⟩
      · exact .inr ⟨a, hok, ((hnext a hok).tells escape).1 ⟨failure, hlast, htells⟩⟩
    · rintro (⟨failure, hfirst, htells⟩ | ⟨a, hok, hafter⟩)
      · exact ⟨failure, Result.bind_eq_error_iff.2 (.inl hfirst), htells⟩
      · obtain ⟨failure, hlast, htells⟩ := ((hnext a hok).tells escape).2 hafter
        exact ⟨failure, Result.bind_eq_error_iff.2 (.inr ⟨a, hok, hlast⟩), htells⟩
  noField := by
    intro hfield
    obtain hfirst | ⟨a, hok, hlast⟩ := Result.bind_eq_error_iff.1 hfield
    · exact h.noField hfirst
    · exact (hnext a hok).noField hlast

theorem require (record : Json) (key : String) : StopsWhen (record.require key) fun _ => False := by
  refine never fun failure h => ?_
  obtain rfl | rfl := Json.require_error h <;> rfl

theorem elements (value : Json) : StopsWhen value.elements fun _ => False := by
  refine never fun failure h => ?_
  rw [Json.elements_error h]
  rfl

theorem entries (data : Json) (key : String) : StopsWhen (entries data key) fun _ => False := by
  unfold Party.entries
  split
  · exact elements _
  · exact ok _

theorem display (value : Json) : StopsWhen value.display fun _ => False := by
  refine never fun failure h => ?_
  rw [Json.display_eq_error h]
  rfl

theorem ofName (name : String) (id : Int) : StopsWhen (EntityRef.ofName name id) fun _ => False := by
  refine never fun failure h => ?_
  unfold EntityRef.ofName at h
  split at h
  · cases h
    rfl
  · rw [EntityRef.ofKind_error h]
    rfl

theorem toInt (value : Json) : StopsWhen value.toInt (Escape.InNumber · value) := by
  by_cases hinfinite : value.IsInfinite
  · have hvalue := Json.toInt_eq_infinite_iff.2 hinfinite
    refine ⟨fun escape => ?_, by rw [hvalue]; rintro ⟨⟩⟩
    cases escape with
    | infinite => exact iff_of_true ⟨_, hvalue, rfl⟩ hinfinite
    | torn =>
        refine iff_false_intro ?_
        rintro ⟨_, h, _, rfl⟩
        cases hvalue.symm.trans h
  · refine (never fun failure h => ?_).congr fun escape => ?_
    · cases value with
      | whole _ | bool _ => cases h
      | null | array _ | object _ =>
          cases h
          rfl
      | float x =>
          have hfinite : failure ≠ .infinite := fun heq => hinfinite (Json.toInt_eq_infinite_iff.1 (heq ▸ h))
          rw [Json.toInt] at h
          split at h
          · cases h
            rfl
          · split at h
            · cases h
              exact absurd rfl hfinite
            · cases h
      | string _ | torn _ =>
          obtain ⟨_ | _ | _, -, rfl⟩ := Result.mapError_eq_error_iff.1 h <;> rfl
    · cases escape with
      | infinite => exact iff_of_false not_false hinfinite
      | torn => exact Iff.rfl

end StopsWhen

/-! ## Entries -/

theorem entryRef_eq_ok_iff {entry : Json} {ref : EntityRef} : entryRef entry = .ok ref ↔ Names entry ref := by
  simp only [entryRef, Result.bind_eq_ok_iff, Json.require_eq_ok_iff]
  constructor
  · rintro ⟨kind, hkind, id, hid, n, hn, name, hname, href⟩
    cases htorn : kind.isTorn with
    | true =>
        rw [htorn] at href
        cases href
    | false =>
        rw [htorn, if_neg Bool.false_ne_true, EntityRef.ofName_eq_ok_iff] at href
        obtain ⟨rfl, rfl⟩ := href
        exact ⟨kind, id, hkind, hid, ⟨hname, htorn⟩, hn⟩
  · rintro ⟨kind, id, hkind, hid, ⟨hname, htorn⟩, hn⟩
    refine ⟨kind, hkind, id, hid, _, hn, _, hname, ?_⟩
    rw [htorn, if_neg Bool.false_ne_true]
    exact EntityRef.ofName_eq_ok_iff.2 ⟨rfl, rfl⟩

theorem exists_display_of_torn {value : Json} (h : value.isTorn = true) : ∃ words, value.display = .ok words := by
  cases value with
  | torn points => exact ⟨_, rfl⟩
  | null | bool _ | whole _ | float _ | string _ | array _ | object _ => cases h

theorem entryRef_stops (entry : Json) : StopsWhen (entryRef entry) (Escape.InRef · entry) := by
  have hkinds (kind : Json) (name : String) (n : Int) :
      StopsWhen (if kind.isTorn then .error (.tornKind name) else EntityRef.ofName name n)
        fun escape => escape.Tells (.tornKind name) ∧ kind.isTorn = true := by
    cases kind.isTorn with
    | true =>
        refine ⟨fun escape => ⟨?_, fun h => ⟨_, rfl, h.1⟩⟩, by rintro ⟨⟩⟩
        rintro ⟨_, ⟨⟩, htells⟩
        exact ⟨htells, rfl⟩
    | false => exact (StopsWhen.ofName name n).congr fun escape => by simp
  refine ((StopsWhen.require entry "kind").bind fun kind _ => (StopsWhen.require entry "id").bind fun id _ =>
    (StopsWhen.toInt id).bind fun n _ => (StopsWhen.display kind).bind fun name _ => hkinds kind name n).congr ?_
  -- An infinite number stops before the kind is looked at, a torn kind only behind a number.
  rintro (_ | _)
  · simp only [Json.require_eq_ok_iff, Escape.InNumber, Escape.Tells, reduceCtorEq, false_and, and_false, exists_false,
      or_false, false_or, Escape.InRef, exists_and_right]
  · simp only [Json.require_eq_ok_iff, Escape.InNumber, Escape.Tells, false_or, Escape.InRef]
    constructor
    · rintro ⟨kind, hkind, id, hid, n, hn, name, -, -, htorn⟩
      exact ⟨⟨kind, hkind, htorn⟩, id, hid, n, hn⟩
    · rintro ⟨⟨kind, hkind, htorn⟩, id, hid, n, hn⟩
      obtain ⟨name, hname⟩ := exists_display_of_torn htorn
      exact ⟨kind, hkind, id, hid, n, hn, name, hname, ⟨name, rfl⟩, htorn⟩

/-- The party has come to hold and to wear so many more of each entity, and nothing else has changed. -/
structure Gained (held worn : EntityRef → Int) (party after : Party) : Prop where
  held : ∀ ref, after.held.count ref = party.held.count ref + held ref
  equipped : ∀ ref, after.equipped.count ref = party.equipped.count ref + worn ref
  gold : after.gold = party.gold
  maxGold : after.maxGold = party.maxGold
  stocked : party.Stocked → after.Stocked

theorem Gained.refl (party : Party) : Gained (fun _ => 0) (fun _ => 0) party party :=
  ⟨fun _ => (Int.add_zero _).symm, fun _ => (Int.add_zero _).symm, rfl, rfl, id⟩

theorem Gained.trans {held held' worn worn' : EntityRef → Int} {party middle after : Party}
    (h : Gained held worn party middle) (h' : Gained held' worn' middle after) :
    Gained (fun ref => held ref + held' ref) (fun ref => worn ref + worn' ref) party after where
  held ref := by rw [h'.held, h.held, Int.add_assoc]
  equipped ref := by rw [h'.equipped, h.equipped, Int.add_assoc]
  gold := h'.gold.trans h.gold
  maxGold := h'.maxGold.trans h.maxGold
  stocked hparty := h'.stocked (h.stocked hparty)

theorem Gained.congr {held held' worn worn' : EntityRef → Int} {party after : Party} (h : Gained held worn party after)
    (hheld : ∀ ref, held ref = held' ref) (hworn : ∀ ref, worn ref = worn' ref) : Gained held' worn' party after := by
  rwa [← funext hheld, ← funext hworn]

theorem gained_of_add {ref : EntityRef} {quantity : Int} {party after : Party}
    (h : party.apply (.add ref quantity) = .ok after) :
    Gained (fun other => if ref = other then quantity else 0) (fun _ => 0) party after := by
  have hmoved := moved_of_apply h
  refine ⟨hmoved.held, fun other => ?_, ?_, hmoved.maxGold, fun hparty => hparty.apply h⟩
  · rw [hmoved.equipped, Int.add_zero]
  · exact (hmoved.gold rfl).trans (Int.add_zero _)

/-- What is put on is held no more. -/
theorem gained_of_putOn {ref : EntityRef} {party consumed : Party} (h : party.apply (.consume ref 1) = .ok consumed)
    (hgear : ref.kind.isGear = true) :
    Gained (fun other => if ref = other then -1 else 0) (fun other => if ref = other then 1 else 0) party
      (putOn ref consumed) := by
  have hmoved := moved_of_apply h
  refine ⟨hmoved.held, fun other => ?_, ?_, hmoved.maxGold, fun hparty => (hparty.apply h).putOn hgear⟩
  · show (consumed.equipped.put ref _).count other = _
    rw [Counts.count_put, hmoved.equipped]
    split
    · rename_i hother
      rw [hother]
    · exact (Int.add_zero _).symm
  · exact (hmoved.gold rfl).trans (Int.add_zero _)

/-- A way to take in entries: it succeeds on those that can be read, with what they bring, and stops for what is let
through at these. -/
structure TakesIn {α : Type} (take : Party → Json → Except Failure Party) (reads : Json → α → Prop)
    (stops : Escape → Json → Prop) (held worn : α → EntityRef → Int) : Prop where
  gained : ∀ {party entry after}, party.Stocked → take party entry = .ok after →
    ∃ a, reads entry a ∧ Gained (held a) (worn a) party after
  succeeds : ∀ {party entry a}, party.Stocked → reads entry a → ∃ after, take party entry = .ok after
  stops : ∀ {party}, party.Stocked → ∀ entry, StopsWhen (take party entry) (stops · entry)

theorem addItem_takesIn :
    TakesIn addItem Lists Escape.InItem (fun item ref => if item.1 = ref then item.2 else 0) (fun _ _ => 0) where
  gained := by
    intro party entry after _ h
    simp only [addItem, Result.bind_eq_ok_iff, entryRef_eq_ok_iff] at h
    obtain ⟨ref, href, quantity, hquantity, hadd⟩ := h
    have happly : party.apply (.add ref quantity) = .ok after := hadd
    exact ⟨(ref, quantity), ⟨href, hquantity, (apply_eq_ok_iff.1 happly).1⟩, gained_of_add happly⟩
  succeeds := by
    rintro party entry ⟨ref, quantity⟩ - ⟨href, hquantity, hpos⟩
    obtain ⟨after, hadd⟩ : ∃ after, party.apply (.add ref quantity) = .ok after := ⟨_, apply_eq_ok_iff.2 ⟨hpos, rfl⟩⟩
    refine ⟨after, ?_⟩
    simp only [addItem, Result.bind_eq_ok_iff, entryRef_eq_ok_iff]
    exact ⟨ref, href, quantity, hquantity, hadd⟩
  stops := by
    intro party _ entry
    refine ((entryRef_stops entry).bind fun ref _ => (StopsWhen.toInt (quantityIn entry)).bind fun quantity _ =>
      (?_ : StopsWhen (party.add ref quantity) fun _ => False)).congr ?_
    · unfold add
      split
      · refine StopsWhen.never ?_
        rintro _ ⟨⟩
        rfl
      · exact StopsWhen.ok _
    · simp only [entryRef_eq_ok_iff, and_false, exists_false, or_false, Escape.InItem, exists_and_right, implies_true]

/-- One more of an entity: gear is worn at once and anything else is held. -/
def wear (ref : EntityRef) (party : Party) : Except Failure Party := do
  let party ← party.add ref 1
  if ref.kind.isGear then return (← party.consume ref 1).putOn ref else return party

theorem addEquipped_eq (party : Party) (entry : Json) :
    addEquipped party entry = entryRef entry >>= fun ref => wear ref party := rfl

theorem wear_gained (ref : EntityRef) {party : Party} (hparty : party.Stocked) :
    ∃ after, wear ref party = .ok after ∧
      Gained (fun other => if ref = other ∧ ref.kind.isGear = false then 1 else 0)
        (fun other => if ref = other ∧ ref.kind.isGear = true then 1 else 0) party after := by
  obtain ⟨added, hadd⟩ : ∃ added, party.apply (.add ref 1) = .ok added := ⟨_, apply_eq_ok_iff.2 ⟨Int.le_refl 1, rfl⟩⟩
  have hwear : wear ref party = if ref.kind.isGear then (added.consume ref 1).map (putOn ref) else .ok added := by
    show (party.apply (.add ref 1) >>= _) = _
    rw [hadd]
    cases ref.kind.isGear <;> rfl
  rw [hwear]
  cases hgear : ref.kind.isGear with
  | false => exact ⟨added, rfl, (gained_of_add hadd).congr (fun other => by simp) fun other => by simp⟩
  | true =>
      -- What was just added can be consumed.
      have hone : added.held.count ref = party.held.count ref + 1 := by
        rw [(moved_of_apply hadd).held, Change.onHeld, if_pos rfl]
      have hnonneg := hparty.held_positive.count_nonneg ref
      obtain ⟨consumed, hconsume⟩ : ∃ consumed, added.apply (.consume ref 1) = .ok consumed :=
        ⟨_, apply_eq_ok_iff.2 ⟨Int.le_refl 1, by omega, rfl⟩⟩
      refine ⟨putOn ref consumed, congrArg (Except.map (putOn ref)) hconsume, ?_⟩
      refine ((gained_of_add hadd).trans (gained_of_putOn hconsume hgear)).congr (fun other => ?_) fun other => ?_
      · by_cases hother : ref = other <;> simp [hother]
      · by_cases hother : ref = other <;> simp [hother]

theorem addEquipped_takesIn :
    TakesIn addEquipped Names Escape.InRef (fun ref other => if ref = other ∧ ref.kind.isGear = false then 1 else 0)
      (fun ref other => if ref = other ∧ ref.kind.isGear = true then 1 else 0) where
  gained := by
    intro party entry after hparty h
    rw [addEquipped_eq, Result.bind_eq_ok_iff] at h
    obtain ⟨ref, href, hwear⟩ := h
    obtain ⟨worn, hworn, hgained⟩ := wear_gained ref hparty
    rw [hworn] at hwear
    cases hwear
    exact ⟨ref, entryRef_eq_ok_iff.1 href, hgained⟩
  succeeds := by
    intro party entry ref hparty href
    obtain ⟨after, hwear, -⟩ := wear_gained ref hparty
    exact ⟨after, Result.bind_eq_ok_iff.2 ⟨ref, entryRef_eq_ok_iff.2 href, hwear⟩⟩
  stops := by
    intro party hparty entry
    have hwear (ref : EntityRef) : StopsWhen (wear ref party) fun _ => False := by
      obtain ⟨after, hwear, -⟩ := wear_gained ref hparty
      exact hwear ▸ StopsWhen.ok after
    exact ((entryRef_stops entry).bind fun ref _ => hwear ref).congr fun _ => by simp only [and_false, exists_false, or_false]

/-! ## Lists of entries -/

theorem meetsFirst_cons {stops orderly : Json → Prop} {entry : Json} {rest : List Json} :
    MeetsFirst stops orderly (entry :: rest) ↔ stops entry ∨ orderly entry ∧ MeetsFirst stops orderly rest := by
  constructor
  · rintro ⟨before, other, after, hlist, hbefore, hstops⟩
    cases before with
    | nil =>
        cases hlist
        exact .inl hstops
    | cons first before =>
        cases hlist
        obtain ⟨hfirst, hbefore⟩ := List.forall_mem_cons.1 hbefore
        exact .inr ⟨hfirst, before, other, after, rfl, hbefore, hstops⟩
  · rintro (hstops | ⟨horderly, before, other, after, rfl, hbefore, hstops⟩)
    · exact ⟨[], entry, rest, rfl, List.forall_mem_nil _, hstops⟩
    · exact ⟨entry :: before, other, after, rfl, List.forall_mem_cons.2 ⟨horderly, hbefore⟩, hstops⟩

namespace TakesIn

variable {α : Type} {take : Party → Json → Except Failure Party} {reads : Json → α → Prop}
  {stops : Escape → Json → Prop} {held worn : α → EntityRef → Int} {list : List Json} {party : Party}

/-- What all entries bring is the sum of what each brings. -/
theorem gained_all (h : TakesIn take reads stops held worn) {after : Party} (hparty : party.Stocked)
    (hlist : list.foldlM take party = .ok after) :
    ∃ all, List.Forall₂ reads list all ∧
      Gained (fun ref => (all.map (held · ref)).sum) (fun ref => (all.map (worn · ref)).sum) party after := by
  induction list generalizing party with
  | nil =>
      cases hlist
      exact ⟨[], .nil, .refl _⟩
  | cons entry rest ih =>
      rw [List.foldlM_cons, Result.bind_eq_ok_iff] at hlist
      obtain ⟨middle, hentry, hrest⟩ := hlist
      obtain ⟨a, ha, hfirst⟩ := h.gained hparty hentry
      obtain ⟨all, hall, hlast⟩ := ih (hfirst.stocked hparty) hrest
      exact ⟨a :: all, .cons ha hall, hfirst.trans hlast⟩

theorem succeeds_all (h : TakesIn take reads stops held worn) (hparty : party.Stocked)
    (hlist : ∀ entry ∈ list, ∃ a, reads entry a) : ∃ after, list.foldlM take party = .ok after := by
  induction list generalizing party with
  | nil => exact ⟨party, rfl⟩
  | cons entry rest ih =>
      obtain ⟨⟨a, ha⟩, hrest⟩ := List.forall_mem_cons.1 hlist
      obtain ⟨middle, hmiddle⟩ := h.succeeds hparty ha
      obtain ⟨_, -, hgained⟩ := h.gained hparty hmiddle
      obtain ⟨after, hafter⟩ := ih (hgained.stocked hparty) hrest
      exact ⟨after, by rw [List.foldlM_cons, hmiddle]; exact hafter⟩

/-- Taking in entries stops for what is let through just when the first entry that is not in order has it. -/
theorem stops_all (h : TakesIn take reads stops held worn) (hparty : party.Stocked) (list : List Json) :
    StopsWhen (list.foldlM take party) fun escape => MeetsFirst (stops escape) (fun entry => ∃ a, reads entry a) list := by
  induction list generalizing party with
  | nil =>
      refine (StopsWhen.ok party).congr fun escape => ⟨False.elim, ?_⟩
      rintro ⟨before, _, _, hlist, -⟩
      cases before <;> cases hlist
  | cons entry rest ih =>
      have hrest (middle : Party) (hmiddle : take party entry = .ok middle) :
          StopsWhen (rest.foldlM take middle)
            fun escape => MeetsFirst (stops escape) (fun entry => ∃ a, reads entry a) rest := by
        obtain ⟨_, -, hgained⟩ := h.gained hparty hmiddle
        exact ih (hgained.stocked hparty)
      rw [List.foldlM_cons]
      refine ((h.stops hparty entry).bind hrest).congr fun escape => ?_
      rw [meetsFirst_cons]
      -- An entry is taken in just when it is in order, whatever the party was.
      refine or_congr_right ⟨?_, ?_⟩
      · rintro ⟨middle, hmiddle, hmeets⟩
        obtain ⟨a, ha, -⟩ := h.gained hparty hmiddle
        exact ⟨⟨a, ha⟩, hmeets⟩
      · rintro ⟨⟨a, ha⟩, hmeets⟩
        obtain ⟨middle, hmiddle⟩ := h.succeeds hparty ha
        exact ⟨middle, hmiddle, hmeets⟩

end TakesIn

/-! ## The whole description -/

/-- To count the entities of a list that are an entity of one sort is to count that entity, if it is of the sort. -/
theorem sum_eq_count (list : List EntityRef) (ref : EntityRef) (gear : Bool) :
    (list.map fun other => if other = ref ∧ other.kind.isGear = gear then (1 : Int) else 0).sum =
      if ref.kind.isGear = gear then (list.count ref : Int) else 0 := by
  induction list with
  | nil => simp
  | cons other rest ih =>
      rw [List.map_cons, List.sum_cons, ih, List.count_cons]
      by_cases hother : other = ref
      · subst hother
        by_cases hgear : other.kind.isGear = gear
        · simp [hgear, Int.add_comm]
        · simp [hgear]
      · simp [hother]

theorem make_eq_ok_iff {gold maxGold : Int} {party : Party} :
    make gold maxGold = .ok party ↔ 0 ≤ gold ∧ party = { gold := min gold maxGold, maxGold } := by
  unfold make
  split
  · simp only [reduceCtorEq, false_iff]
    omega
  · rw [Except.ok.injEq, eq_comm, and_iff_right (by omega)]

/-- A description is read from its gold, then its items, then what is worn. -/
theorem ofJson_object (fields : List (String × Json)) :
    let data := Json.object fields
    ofJson data = (goldIn data).toInt >>= fun gold => make gold purseCap >>= fun party =>
      entries data "items" >>= fun items => items.foldlM addItem party >>= fun party =>
        entries data "equipped" >>= fun worn => worn.foldlM addEquipped party :=
  rfl

/-- A party comes of a value that describes it. -/
theorem describes_of_ofJson {data : Json} {party : Party} (h : ofJson data = .ok party) :
    ∃ described, Describes data described ∧ Matches described party := by
  cases data with
  | object fields =>
      rw [ofJson_object] at h
      simp only [Result.bind_eq_ok_iff, make_eq_ok_iff] at h
      obtain ⟨gold, hgold, start, ⟨hpos, hstart⟩, items, hitems, laden, hladen, worn, hworn, hlast⟩ := h
      have hstocked : start.Stocked := stocked_of_make (make_eq_ok_iff.2 ⟨hpos, hstart⟩)
      obtain ⟨allItems, hallItems, hheld⟩ := addItem_takesIn.gained_all hstocked hladen
      obtain ⟨allWorn, hallWorn, hdone⟩ := addEquipped_takesIn.gained_all (hheld.stocked hstocked) hlast
      have hall := hheld.trans hdone
      refine ⟨⟨gold, allItems, allWorn⟩, ⟨⟨fields, rfl⟩, hgold, hpos, ⟨items, hitems, hallItems⟩, ⟨worn, hworn, hallWorn⟩⟩,
        ?_, ?_, fun ref => ?_, fun ref => ?_, hall.stocked hstocked⟩
      · rw [hall.gold, hstart]
      · rw [hall.maxGold, hstart]
      · show party.held.count ref = (allItems.map _).sum + _
        rw [hall.held, hstart, sum_eq_count]
        show 0 + (_ + _) = _
        rw [Int.zero_add]
        cases ref.kind.isGear <;> rfl
      · rw [hall.equipped, hstart, sum_eq_count]
        simp [Counts.count, Assoc.get?]
  | _ => cases h

theorem forall_of_forall₂ {α β : Type} {r : α → β → Prop} {list : List α} {all : List β} (h : List.Forall₂ r list all) :
    ∀ a ∈ list, ∃ b, r a b := by
  induction h with
  | nil => exact List.forall_mem_nil _
  | cons hfirst _ ih => exact List.forall_mem_cons.2 ⟨⟨_, hfirst⟩, ih⟩

theorem ofJson_of_describes {data : Json} {described : Description} (h : Describes data described) :
    ∃ party, ofJson data = .ok party := by
  obtain ⟨⟨fields, rfl⟩, hgold, hpos, ⟨items, hitems, hallItems⟩, ⟨worn, hworn, hallWorn⟩⟩ := h
  obtain ⟨start, hstart⟩ : ∃ start, make described.gold purseCap = .ok start := ⟨_, make_eq_ok_iff.2 ⟨hpos, rfl⟩⟩
  have hstocked := stocked_of_make hstart
  obtain ⟨laden, hladen⟩ := addItem_takesIn.succeeds_all hstocked (forall_of_forall₂ hallItems)
  obtain ⟨_, -, hgained⟩ := addItem_takesIn.gained_all hstocked hladen
  obtain ⟨party, hlast⟩ := addEquipped_takesIn.succeeds_all (hgained.stocked hstocked) (forall_of_forall₂ hallWorn)
  refine ⟨party, ?_⟩
  rw [ofJson_object]
  simp only [Result.bind_eq_ok_iff]
  exact ⟨_, hgold, start, hstart, items, hitems, laden, hladen, worn, hworn, hlast⟩

theorem make_stops (gold maxGold : Int) : StopsWhen (make gold maxGold) fun _ => False := by
  unfold make
  split
  · refine StopsWhen.never ?_
    rintro _ ⟨⟩
    rfl
  · exact StopsWhen.ok _

/-- An object fails by what is let through just when it meets that first. -/
theorem ofJson_stops (fields : List (String × Json)) :
    StopsWhen (ofJson (.object fields)) (Escape.Meets · (.object fields)) := by
  rw [ofJson_object]
  -- The gold, what is carried and what is worn are read in this order, each on the party made so far.
  refine ((StopsWhen.toInt _).bind fun gold _ => (make_stops gold purseCap).bind fun start hstart =>
    (StopsWhen.entries _ "items").bind fun items _ =>
      (addItem_takesIn.stops_all (stocked_of_make hstart) items).bind fun laden hladen =>
        (StopsWhen.entries _ "equipped").bind fun worn _ =>
          addEquipped_takesIn.stops_all (?_ : laden.Stocked) worn).congr ?_
  · obtain ⟨_, -, hgained⟩ := addItem_takesIn.gained_all (stocked_of_make hstart) hladen
    exact hgained.stocked (stocked_of_make hstart)
  · intro escape
    simp only [false_or, make_eq_ok_iff]
    constructor
    · rintro (h | ⟨gold, hgold, start, ⟨hpos, hstart⟩, items, hitems, h | ⟨laden, hladen, worn, hworn, h⟩⟩)
      · exact .gold h
      · exact .item hgold hpos hitems h
      · have hstocked := stocked_of_make (make_eq_ok_iff.2 ⟨hpos, hstart⟩)
        obtain ⟨_, hall, -⟩ := addItem_takesIn.gained_all hstocked hladen
        exact .worn hgold hpos hitems (forall_of_forall₂ hall) hworn h
    · rintro (h | ⟨hgold, hpos, hitems, h⟩ | ⟨hgold, hpos, hitems, horderly, hworn, h⟩)
      · exact .inl h
      · exact .inr ⟨_, hgold, _, ⟨hpos, rfl⟩, _, hitems, .inl h⟩
      · have hmade : make _ purseCap = .ok _ := make_eq_ok_iff.2 ⟨hpos, rfl⟩
        obtain ⟨laden, hladen⟩ := addItem_takesIn.succeeds_all (stocked_of_make hmade) horderly
        exact .inr ⟨_, hgold, _, ⟨hpos, rfl⟩, _, hitems, .inr ⟨laden, hladen, _, hworn, h⟩⟩

/-! ## The file -/

theorem letThrough?_of_parse_error {content : List UInt8} {failure : Failure}
    (h : DataFile.parse content = .error failure) : letThrough? failure = none := by
  obtain ⟨rfl, -⟩ | ⟨text, -, hread⟩ := DataFile.parse_eq_error_iff.1 h
  · rfl
  · obtain rfl | ⟨digits, rfl⟩ := Json.read_error hread <;> rfl

theorem ofJson_of_not_object {data : Json} (h : ∀ fields, data ≠ .object fields) :
    ofJson data = .error .missingField := by
  cases data with
  | object fields => exact absurd rfl (h fields)
  | _ => rfl

/-- What is let through comes of a failure to read the description. -/
theorem letsThrough_iff {content : List UInt8} {failure : Failure} :
    LetsThrough (.bytes content) failure ↔
      ∃ cause, (DataFile.parse content >>= ofJson) = .error cause ∧ letThrough? cause = some failure := by
  simp only [Result.bind_eq_error_iff, letThrough?_eq_some_iff]
  constructor
  · rintro (⟨hfile, hnone⟩ | ⟨hfile, hmeets⟩ | ⟨hfile, hmeets⟩)
    · exact ⟨_, .inr ⟨_, DataFile.parse_eq_ok_iff.2 hfile, ofJson_of_not_object hnone⟩, .inl ⟨rfl, rfl⟩⟩
    · obtain ⟨cause, hcause, htells⟩ := ((ofJson_stops _).tells .infinite).2 hmeets
      exact ⟨cause, .inr ⟨_, DataFile.parse_eq_ok_iff.2 hfile, hcause⟩, .inr (.inl ⟨htells, rfl⟩)⟩
    · obtain ⟨cause, hcause, htells⟩ := ((ofJson_stops _).tells .torn).2 hmeets
      exact ⟨cause, .inr ⟨_, DataFile.parse_eq_ok_iff.2 hfile, hcause⟩, .inr (.inr ⟨htells, rfl⟩)⟩
  · rintro ⟨cause, hparse | ⟨data, hparse, hdata⟩, hthrough⟩
    · rw [← letThrough?_eq_some_iff, letThrough?_of_parse_error hparse] at hthrough
      cases hthrough
    · have hfile := DataFile.parse_eq_ok_iff.1 hparse
      by_cases hobject : ∃ fields, data = .object fields
      · obtain ⟨fields, rfl⟩ := hobject
        rcases hthrough with ⟨rfl, rfl⟩ | ⟨htells, rfl⟩ | ⟨htells, rfl⟩
        · exact absurd hdata (ofJson_stops fields).noField
        · exact .infinite hfile (((ofJson_stops fields).tells .infinite).1 ⟨cause, hdata, htells⟩)
        · exact .torn hfile (((ofJson_stops fields).tells .torn).1 ⟨cause, hdata, htells⟩)
      · have hnone := not_exists.1 hobject
        rw [ofJson_of_not_object hnone] at hdata
        cases hdata
        rcases hthrough with ⟨-, rfl⟩ | ⟨⟨⟩, -⟩ | ⟨⟨_, ⟨⟩⟩, -⟩
        exact .noObject hfile hnone

section

variable {σ : Type} (path : String) (s : σ)

theorem load_bytes_value (content : List UInt8) :
    (load path (.bytes content) s).value =
      match DataFile.parse content >>= ofJson with
      | .ok party => .ok party
      | .error cause => match letThrough? cause with
          | some failure => .error failure
          | none => .ok {} := by
  rw [load]
  cases DataFile.parse content >>= ofJson with
  | ok party => rfl
  | error cause => cases cause <;> rfl

theorem load_error_iff {file : DataFile} {failure : Failure} :
    (load path file s).value = .error failure ↔ LetsThrough file failure := by
  cases file with
  | absent => exact ⟨nofun, nofun⟩
  | unreadable => exact ⟨nofun, nofun⟩
  | bytes content =>
      rw [load_bytes_value, letsThrough_iff]
      cases DataFile.parse content >>= ofJson with
      | ok party => exact iff_of_false (by rintro ⟨⟩) (by rintro ⟨_, ⟨⟩, -⟩)
      | error cause =>
          simp only [Except.error.injEq, exists_eq_left']
          cases letThrough? cause with
          | some other => simp only [Except.error.injEq, Option.some.injEq]
          | none => exact iff_of_false (by rintro ⟨⟩) (by rintro ⟨⟩)

/-- The party that loading gives is the one described, or an empty one if none is described. -/
theorem load_gives {file : DataFile} {party : Party} (h : (load path file s).value = .ok party) :
    (∃ data described, file.Holds data ∧ Describes data described ∧ Matches described party) ∨
      party = {} ∧ ∀ data, file.Holds data → ∀ described, ¬ Describes data described := by
  cases file with
  | absent => exact .inr ⟨(Except.ok.inj h).symm, nofun⟩
  | unreadable => exact .inr ⟨(Except.ok.inj h).symm, nofun⟩
  | bytes content =>
      rw [load_bytes_value] at h
      cases hread : DataFile.parse content >>= ofJson with
      | ok other =>
          rw [hread] at h
          cases h
          obtain ⟨data, hparse, hdata⟩ := Result.bind_eq_ok_iff.1 hread
          obtain ⟨described, hdescribes, hmatches⟩ := describes_of_ofJson hdata
          exact .inl ⟨data, described, DataFile.parse_eq_ok_iff.1 hparse, hdescribes, hmatches⟩
      | error cause =>
          rw [hread] at h
          have hparty : party = {} := by
            cases hthrough : letThrough? cause <;> simp only [hthrough] at h <;> cases h
            rfl
          refine .inr ⟨hparty, fun data hfile described hdescribes => ?_⟩
          -- What describes a party is read without a failure.
          obtain ⟨other, hother⟩ := ofJson_of_describes hdescribes
          rw [Result.bind_eq_ok_iff.2 ⟨data, DataFile.parse_eq_ok_iff.2 hfile, hother⟩] at hread
          cases hread

/-- A party file always gives a party, unless one of three failures is let through: the party that the file describes, or
an empty one if it describes none. -/
theorem load_outcome (file : DataFile) :
    let run := load path file s
    ((∃ party, run.value = .ok party) ↔ ∀ failure, ¬ LetsThrough file failure) ∧
      (∀ party, run.value = .ok party →
        (∃ data described, file.Holds data ∧ Describes data described ∧ Matches described party) ∨
          party = {} ∧ ∀ data, file.Holds data → ∀ described, ¬ Describes data described) ∧
      ∀ failure, run.value = .error failure ↔ LetsThrough file failure := by
  intro run
  refine ⟨?_, fun party hparty => load_gives path s hparty, fun failure => load_error_iff path s⟩
  simp only [← load_error_iff path s]
  cases run.value with
  | ok party => exact ⟨fun _ => nofun, fun _ => ⟨party, rfl⟩⟩
  | error failure => exact ⟨nofun, fun h => absurd rfl (h failure)⟩

end

end Party

namespace Sample

/-- A party file that lists nothing, where an object belongs. -/
def listFile : DataFile :=
  .bytes (Text.utf8Of ['[', ']'])

theorem listFile_holds : listFile.Holds (.array []) := by
  refine ⟨['[', ']'], rfl, ?_⟩
  rw [Json.read, Json.readWithin, String.toList_ofList]
  rfl

theorem list_is_no_party : (Party.load "party.json" listFile ()).value = .error .missingField :=
  ((Party.load_outcome "party.json" () listFile).2.2 .missingField).2 (.noObject listFile_holds nofun)

end Sample

end Crafting
