import Mathlib.Algebra.BigOperators.Group.List.Basic
import Mathlib.Data.List.Perm.Basic
import Crafting.Proofs.Inventory.PartyFile

/-!
# The entries of a description

What a party starts with depends on how much is listed of each entity in all. The entries may stand in any order, and an
item may be split into several that make up its quantity: the party is the same.
-/

namespace Crafting

/-! ## The same counts -/

namespace Counts

variable {counts others : Counts}

/-- Counts with positive entries, one for each entity, have the entries that the numbers call for. -/
theorem Positive.mem_iff (h : counts.Positive) (hdistinct : Assoc.Distinct counts) {ref : EntityRef} {n : Int} :
    (ref, n) ∈ counts ↔ n ≠ 0 ∧ counts.count ref = n := by
  rw [Assoc.mem_iff_get? hdistinct, h.get?_eq]
  split
  · rename_i hzero
    rw [hzero]
    exact ⟨nofun, fun ⟨hne, hn⟩ => absurd hn.symm hne⟩
  · rename_i hcount
    rw [Option.some.injEq]
    exact ⟨fun hn => ⟨hn ▸ hcount, hn⟩, And.right⟩

theorem perm_of_count_eq (h : counts.Positive) (hothers : others.Positive) (hdistinct : Assoc.Distinct counts)
    (hdistinct' : Assoc.Distinct others) (hcount : ∀ ref, counts.count ref = others.count ref) :
    counts.Perm others := by
  refine (List.perm_ext_iff_of_nodup hdistinct.of_map hdistinct'.of_map).2 fun entry => ?_
  obtain ⟨ref, n⟩ := entry
  rw [h.mem_iff hdistinct, hothers.mem_iff hdistinct', hcount]

end Counts

namespace Party

/-- Of each entity there is one entry at most. -/
structure Filed (party : Party) : Prop where
  held : Assoc.Distinct party.held
  equipped : Assoc.Distinct party.equipped

theorem filed_of_make {gold maxGold : Int} {party : Party} (h : make gold maxGold = .ok party) : party.Filed := by
  obtain ⟨-, rfl⟩ := make_eq_ok_iff.1 h
  exact ⟨List.nodup_nil, List.nodup_nil⟩

namespace Filed

variable {party after : Party}

theorem apply {change : Change} (h : party.Filed) (happly : party.apply change = .ok after) : after.Filed := by
  have hchanged := apply_eq_ok_iff.1 happly
  cases change with
  | consume ref quantity =>
      obtain ⟨-, -, rfl⟩ := hchanged
      refine ⟨?_, h.equipped⟩
      dsimp only
      split
      · exact Assoc.distinct_remove ref h.held
      · exact Assoc.distinct_put ref _ h.held
  | add ref quantity =>
      obtain ⟨-, rfl⟩ := hchanged
      exact ⟨Assoc.distinct_put ref _ h.held, h.equipped⟩
  | spend amount =>
      obtain ⟨-, -, rfl⟩ := hchanged
      exact ⟨h.held, h.equipped⟩
  | gain amount =>
      obtain ⟨-, rfl⟩ := hchanged
      exact ⟨h.held, h.equipped⟩

theorem putOn (h : party.Filed) (ref : EntityRef) : (putOn ref party).Filed :=
  ⟨h.held, Assoc.distinct_put ref _ h.equipped⟩

theorem addItem {entry : Json} (h : party.Filed) (htaken : addItem party entry = .ok after) : after.Filed := by
  simp only [Party.addItem, Result.bind_eq_ok_iff] at htaken
  obtain ⟨ref, -, quantity, -, hadd⟩ := htaken
  exact h.apply (show party.apply (.add ref quantity) = .ok after from hadd)

theorem addEquipped {entry : Json} (h : party.Filed) (htaken : addEquipped party entry = .ok after) : after.Filed := by
  rw [addEquipped_eq, Result.bind_eq_ok_iff] at htaken
  obtain ⟨ref, -, hwear⟩ := htaken
  rw [wear, Result.bind_eq_ok_iff] at hwear
  obtain ⟨added, hadd, hworn⟩ := hwear
  have hadded : added.Filed := h.apply (show party.apply (.add ref 1) = .ok added from hadd)
  split at hworn
  · -- Gear goes on from what was just added.
    obtain ⟨consumed, hconsume, hput⟩ := Result.bind_eq_ok_iff.1 hworn
    cases hput
    exact (hadded.apply (show added.apply (.consume ref 1) = .ok consumed from hconsume)).putOn ref
  · cases hworn
    exact hadded

theorem foldlM {take : Party → Json → Except Failure Party}
    (htake : ∀ {party entry after}, party.Filed → take party entry = .ok after → after.Filed) {list : List Json}
    {party : Party} (h : party.Filed) {after : Party} (htaken : list.foldlM take party = .ok after) : after.Filed := by
  induction list generalizing party with
  | nil =>
      cases htaken
      exact h
  | cons entry rest ih =>
      rw [List.foldlM_cons, Result.bind_eq_ok_iff] at htaken
      obtain ⟨middle, hentry, hrest⟩ := htaken
      exact ih (htake h hentry) hrest

end Filed

theorem filed_of_ofJson {data : Json} {party : Party} (h : ofJson data = .ok party) : party.Filed := by
  cases data with
  | object fields =>
      rw [ofJson_object] at h
      simp only [Result.bind_eq_ok_iff] at h
      obtain ⟨gold, -, start, hstart, items, -, laden, hladen, worn, -, hlast⟩ := h
      exact ((filed_of_make hstart).foldlM Filed.addItem hladen).foldlM Filed.addEquipped hlast
  | _ => cases h

/-- The same party: the same entries, in whatever order they came, and the same purse. -/
structure Alike (party other : Party) : Prop where
  held : party.held.Perm other.held
  equipped : party.equipped.Perm other.equipped
  gold : party.gold = other.gold
  maxGold : party.maxGold = other.maxGold

/-! ## What a description lists in all -/

/-- How many of an entity the items of a description come to. -/
def listed (items : List (EntityRef × Int)) (ref : EntityRef) : Int :=
  (items.map fun item => if item.1 = ref then item.2 else 0).sum

theorem listed_append (items others : List (EntityRef × Int)) (ref : EntityRef) :
    listed (items ++ others) ref = listed items ref + listed others ref := by
  rw [listed, List.map_append, List.sum_append]
  rfl

theorem listed_parts (ref other : EntityRef) (quantities : List Int) :
    listed (quantities.map fun n => (ref, n)) other = if ref = other then quantities.sum else 0 := by
  induction quantities with
  | nil => exact (ite_self 0).symm
  | cons n rest ih =>
      rw [List.map_cons, listed, List.map_cons, List.sum_cons, ← listed, ih, List.sum_cons]
      split
      · rfl
      · exact Int.zero_add 0

theorem names_unique : Relator.RightUnique Names := by
  intro entry ref other h h'
  exact Except.ok.inj ((entryRef_eq_ok_iff.2 h).symm.trans (entryRef_eq_ok_iff.2 h'))

/-- An entry lists one thing only. -/
theorem lists_unique : Relator.RightUnique Lists := by
  rintro entry item other ⟨hnames, hquantity, -⟩ ⟨hnames', hquantity', -⟩
  exact Prod.ext (names_unique hnames hnames') (Except.ok.inj (hquantity.symm.trans hquantity'))

theorem describes_unique : Relator.RightUnique Describes := by
  rintro data ⟨gold, items, worn⟩ ⟨gold', items', worn'⟩ h h'
  obtain ⟨list, hlist, hitems⟩ := h.items
  obtain ⟨list', hlist', hitems'⟩ := h'.items
  obtain rfl : list = list' := Except.ok.inj (hlist.symm.trans hlist')
  obtain ⟨wornList, hwornList, hworn⟩ := h.worn
  obtain ⟨wornList', hwornList', hworn'⟩ := h'.worn
  obtain rfl : wornList = wornList' := Except.ok.inj (hwornList.symm.trans hwornList')
  obtain rfl : gold = gold' := Except.ok.inj (h.gold.symm.trans h'.gold)
  obtain rfl : items = items' := lists_unique.forall₂ hitems hitems'
  obtain rfl : worn = worn' := names_unique.forall₂ hworn hworn'
  rfl

/-! ## Rearranging -/

/-- The second list of items comes of the first by putting the entries in another order and by splitting an entry into
several that make up its quantity. -/
inductive Regrouped : List Json → List Json → Prop where
  | reordered {items others : List Json} (h : items.Perm others) : Regrouped items others
  | split {before after parts : List Json} {entry : Json} {ref : EntityRef} {quantities : List Int}
      (hentry : Lists entry (ref, quantities.sum))
      (hparts : List.Forall₂ Lists parts (quantities.map fun n => (ref, n))) :
      Regrouped (before ++ entry :: after) (before ++ (parts ++ after))
  | trans {items others last : List Json} (h : Regrouped items others) (h' : Regrouped others last) :
      Regrouped items last

/-- Another value with the same gold, the items regrouped, and what is worn in any order. -/
structure Rearranged (data other : Json) : Prop where
  object : ∃ fields, other = .object fields
  gold : goldIn other = goldIn data
  items : ∃ list list', entries data "items" = .ok list ∧ entries other "items" = .ok list' ∧ Regrouped list list'
  worn : ∃ list list', entries data "equipped" = .ok list ∧ entries other "equipped" = .ok list' ∧ list.Perm list'

theorem forall₂_append {α β : Type} {r : α → β → Prop} {before after : List α} {all : List β}
    (h : List.Forall₂ r (before ++ after) all) :
    ∃ first second, all = first ++ second ∧ List.Forall₂ r before first ∧ List.Forall₂ r after second := by
  induction before generalizing all with
  | nil => exact ⟨[], all, rfl, .nil, h⟩
  | cons a rest ih =>
      cases h with
      | cons hhead htail =>
          obtain ⟨first, second, rfl, hfirst, hsecond⟩ := ih htail
          exact ⟨_ :: first, second, rfl, .cons hhead hfirst, hsecond⟩

/-- However items are regrouped, they list as much of each entity. -/
theorem Regrouped.listed {list others : List Json} (h : Regrouped list others) {items : List (EntityRef × Int)}
    (hitems : List.Forall₂ Lists list items) :
    ∃ items', List.Forall₂ Lists others items' ∧ ∀ ref, Party.listed items' ref = Party.listed items ref := by
  induction h generalizing items with
  | reordered hperm =>
      obtain ⟨items', hitems', hperm'⟩ := List.perm_comp_forall₂ hperm.symm hitems
      exact ⟨items', hitems', fun ref => (hperm'.map _).sum_eq⟩
  | @split before after parts entry ref quantities hentry hparts =>
      obtain ⟨first, rest, rfl, hfirst, hrest⟩ := forall₂_append hitems
      obtain _ | ⟨hitem, hlast⟩ := hrest
      -- The entry is split into parts of its own quantity.
      rename_i item last
      obtain rfl := lists_unique hentry hitem
      refine ⟨first ++ (quantities.map (fun n => (ref, n)) ++ last),
        List.rel_append hfirst (List.rel_append hparts hlast), fun other => ?_⟩
      rw [listed_append, listed_append, listed_append, listed_parts]
      rfl
  | trans _ _ ih ih' =>
      obtain ⟨middle, hmiddle, hsame⟩ := ih hitems
      obtain ⟨last, hlast, hsame'⟩ := ih' hmiddle
      exact ⟨last, hlast, fun ref => (hsame' ref).trans (hsame ref)⟩

theorem Rearranged.describes {data other : Json} (h : Rearranged data other) {described : Description}
    (hdescribes : Describes data described) :
    ∃ items worn, Describes other ⟨described.gold, items, worn⟩ ∧
      (∀ ref, listed items ref = listed described.items ref) ∧ described.worn.Perm worn := by
  obtain ⟨list, list', hlist, hlist', hregrouped⟩ := h.items
  obtain ⟨all, hall, hitems⟩ := hdescribes.items
  obtain rfl : all = list := Except.ok.inj (hall.symm.trans hlist)
  obtain ⟨items, hitems', hsame⟩ := hregrouped.listed hitems
  obtain ⟨wornList, wornList', hworn, hworn', hperm⟩ := h.worn
  obtain ⟨all, hall, hallWorn⟩ := hdescribes.worn
  obtain rfl : all = wornList := Except.ok.inj (hall.symm.trans hworn)
  obtain ⟨worn, hnames, hperm'⟩ := List.perm_comp_forall₂ hperm.symm hallWorn
  refine ⟨items, worn, ⟨h.object, ?_, hdescribes.gold_nonneg, ⟨list', hlist', hitems'⟩, ⟨wornList', hworn', hnames⟩⟩,
    hsame, hperm'.symm⟩
  rw [h.gold]
  exact hdescribes.gold

/-! ## The party -/

/-- The party that comes of a description is the one described. -/
theorem exists_matching {data : Json} {described : Description} (h : Describes data described) :
    ∃ party, ofJson data = .ok party ∧ Matches described party := by
  obtain ⟨party, hparty⟩ := ofJson_of_describes h
  obtain ⟨other, hother, hmatches⟩ := describes_of_ofJson hparty
  exact ⟨party, hparty, describes_unique hother h ▸ hmatches⟩

theorem Matches.held_eq {described : Description} {party : Party} (h : Matches described party) (ref : EntityRef) :
    party.held.count ref = listed described.items ref +
      if ref.kind.isGear then 0 else (described.worn.count ref : Int) :=
  h.held ref

/-- Two descriptions that list as much of each entity, and the same gold, give the same party. -/
theorem alike_of_listed {data other : Json} {described described' : Description} {party party' : Party}
    (hparty : ofJson data = .ok party) (hparty' : ofJson other = .ok party') (h : Matches described party)
    (h' : Matches described' party') (hgold : described.gold = described'.gold)
    (hitems : ∀ ref, listed described.items ref = listed described'.items ref)
    (hworn : ∀ ref, described.worn.count ref = described'.worn.count ref) : party.Alike party' := by
  have hfiled := filed_of_ofJson hparty
  have hfiled' := filed_of_ofJson hparty'
  refine ⟨?_, ?_, by rw [h.gold, h'.gold, hgold], h.maxGold.trans h'.maxGold.symm⟩
  · refine Counts.perm_of_count_eq h.stocked.held_positive h'.stocked.held_positive hfiled.held hfiled'.held
      fun ref => ?_
    rw [h.held_eq, h'.held_eq, hitems, hworn]
  · refine Counts.perm_of_count_eq h.stocked.equipped_positive h'.stocked.equipped_positive hfiled.equipped
      hfiled'.equipped fun ref => ?_
    rw [h.equipped, h'.equipped, hworn]

/-- A value that describes a party gives one. It holds as much of an entity as the items that name it come to, and one
more for each time that it is among what is worn without being gear; gear is worn as often as it is listed there; and
the gold is cut off at the cap. Putting the entries in another order and splitting items gives the same party. -/
theorem party_of_entries {data : Json} {described : Description} (h : Describes data described) :
    ∃ party, ofJson data = .ok party ∧
      (∀ ref, party.held.count ref =
        (described.items.map fun item => if item.1 = ref then item.2 else 0).sum +
          if ref.kind.isGear then 0 else (described.worn.count ref : Int)) ∧
      (∀ ref, party.equipped.count ref = if ref.kind.isGear then (described.worn.count ref : Int) else 0) ∧
      party.gold = min described.gold 99999999 ∧
      ∀ other, Rearranged data other → ∃ same, ofJson other = .ok same ∧ same.Alike party := by
  obtain ⟨party, hparty, hmatches⟩ := exists_matching h
  refine ⟨party, hparty, hmatches.held, hmatches.equipped, hmatches.gold, fun other hother => ?_⟩
  obtain ⟨items, worn, hdescribes, hsame, hperm⟩ := hother.describes h
  obtain ⟨same, hsameParty, hmatches'⟩ := exists_matching hdescribes
  exact ⟨same, hsameParty, alike_of_listed hsameParty hparty hmatches' hmatches rfl hsame fun ref =>
    (hperm.count_eq ref).symm⟩

end Party

namespace Sample

open Party

def staff : EntityRef := ⟨.weapon, 2, Nat.two_pos⟩

def mint : EntityRef := ⟨.item, 24, by decide⟩

def entryOf (ref : EntityRef) (more : List (String × Json)) : Json :=
  .object ([("kind", .string ref.kind.name), ("id", .whole ref.id)] ++ more)

/-- A start with more gold than a purse holds, where staffs are held and worn and mint is listed as worn. -/
def stash : Json :=
  .object [("gold", .whole 120000000),
    ("items", .array [entryOf staff [("quantity", .whole 3)], entryOf mint []]),
    ("equipped", .array [entryOf staff [], entryOf mint []])]

/-- The same start with the staffs in two entries and everything in another order. -/
def stashMixed : Json :=
  .object [("equipped", .array [entryOf mint [], entryOf staff []]),
    ("items", .array [entryOf mint [], entryOf staff [], entryOf staff [("quantity", .whole 2)]]),
    ("gold", .whole 120000000)]

def stashDescription : Description where
  gold := 120000000
  items := [(staff, 3), (mint, 1)]
  worn := [staff, mint]

theorem names_entryOf (ref : EntityRef) (more : List (String × Json)) : Names (entryOf ref more) ref :=
  ⟨.string ref.kind.name, .whole ref.id, rfl, rfl, ⟨rfl, rfl⟩, rfl⟩

theorem stash_taken_in :
    Describes stash stashDescription ∧ Rearranged stash stashMixed ∧
      ∃ party same, ofJson stash = .ok party ∧ party.held.count staff = 3 ∧ party.held.count mint = 2 ∧
        party.equipped.count staff = 1 ∧ party.equipped.count mint = 0 ∧ party.gold = 99999999 ∧
        ofJson stashMixed = .ok same ∧ same.Alike party := by
  have hlists (ref : EntityRef) (more : List (String × Json)) (n : Int) (hn : 1 ≤ n)
      (hquantity : (quantityIn (entryOf ref more)).toInt = .ok n) : Lists (entryOf ref more) (ref, n) :=
    ⟨names_entryOf ref more, hquantity, hn⟩
  have hdescribes : Describes stash stashDescription :=
    ⟨⟨_, rfl⟩, rfl, by decide,
      ⟨_, rfl, .cons (hlists staff _ 3 (by decide) rfl) (.cons (hlists mint _ 1 (by decide) rfl) .nil)⟩,
      ⟨_, rfl, .cons (names_entryOf _ _) (.cons (names_entryOf _ _) .nil)⟩⟩
  have hthree : Lists (entryOf staff [("quantity", .whole 3)]) (staff, [1, 2].sum) := hlists staff _ 3 (by decide) rfl
  have htwo : Lists (entryOf staff [("quantity", .whole 2)]) (staff, 2) := hlists staff _ 2 (by decide) rfl
  have hregrouped : Regrouped [entryOf staff [("quantity", .whole 3)], entryOf mint []]
      [entryOf mint [], entryOf staff [], entryOf staff [("quantity", .whole 2)]] := by
    have hsplit := @Regrouped.split [] [entryOf mint []] [entryOf staff [], entryOf staff [("quantity", .whole 2)]]
      _ _ _ hthree (.cons (hlists staff [] 1 (by decide) rfl) (.cons htwo .nil))
    exact hsplit.trans (.reordered (@List.perm_append_comm _ [_, _] [_]))
  have hrearranged : Rearranged stash stashMixed :=
    ⟨⟨_, rfl⟩, rfl, ⟨_, _, rfl, rfl, hregrouped⟩, ⟨_, _, rfl, rfl, .swap _ _ []⟩⟩
  obtain ⟨party, hparty, hheld, hequipped, hgold, hsame⟩ := party_of_entries hdescribes
  obtain ⟨same, hsameParty, halike⟩ := hsame stashMixed hrearranged
  exact ⟨hdescribes, hrearranged, party, same, hparty, hheld staff, hheld mint, hequipped staff, hequipped mint, hgold,
    hsameParty, halike⟩

end Sample

end Crafting
