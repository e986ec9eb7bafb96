import Crafting.Proofs.Verdict

/-!
# The checks of a judge one by one

A judge makes its checks in their order, each with the calls it needs, and any of these calls may be made to fail. The
first check that decides gives the answer: the party fails the check, or one of its calls fails. There is an answer
unless a failure is to be reported of a recipe that cannot be written.
-/

namespace Crafting

namespace Verdict

/-! ## Checks -/

/-- A check of a judge. -/
inductive Check where
  /-- There is a recipe, and it has materials. -/
  | form (recipe : Option Recipe)
  | material (material : Material)
  | requirement (ref : EntityRef)
  | cost (amount : Nat)

/-- The checks of a recipe in their order. What costs nothing is not checked for its cost. -/
def checksOf : Option Recipe → List Check
  | none => [.form none]
  | some recipe =>
      .form (some recipe) :: (recipe.materials.map .material ++
        (recipe.requirement.toList.map .requirement ++ if recipe.cost = 0 then [] else [.cost recipe.cost]))

namespace Check

/-- The calls that a check makes, in their order. -/
def calls : Check → List Call
  | form _ => []
  | material _ => [.quantityOf]
  | requirement _ => [.has, .quantityOf]
  | cost _ => [.currency]

/-- An objection with the name of an entity. Where the name cannot be shown, the matter is left undecided. -/
def naming (registry : Option Registry) (objection : String → Verdict) (ref : EntityRef) : Verdict :=
  ((shownName registry ref).map objection).toOption.getD .undecided

/-- The verdict on a party that fails the check. -/
def objection? (registry : Option Registry) (party : Party) : Check → Option Verdict
  | form recipe => if (recipe.elim [] Recipe.materials).isEmpty then some .invalid else none
  | material m => if party.held.count m.ref < m.quantity then some (naming registry .notEnough m.ref) else none
  | requirement ref => if party.Owns ref then none else some (naming registry .requires ref)
  | cost amount => if (amount : Int) ≤ party.gold then none else some .notEnoughCurrency

/-- One of the calls that the check makes behind the earlier ones is made to fail. -/
def isRefused (faults : Schedule) (earlier : List Call) (check : Check) : Bool :=
  check.calls.any fun call => (faults.fate call (earlier.count call)).isSome

/-- How a check decides behind the calls of earlier ones, if it decides: a call that fails leaves the matter undecided,
and else the party may fail the check. -/
def decision? (registry : Option Registry) (s : Faulty Party) (earlier : List Call) (check : Check) : Option Verdict :=
  if check.isRefused s.faults earlier then some .undecided else check.objection? registry s.store

variable {σ : Type} [Inventory σ]

/-- To object with the name of an entity. -/
def object (registry : Option Registry) (objection : String → Verdict) (ref : EntityRef) : Act σ (Option Verdict) := do
  return some (objection (← .ofExcept (shownName registry ref)))

/-- To make one check. -/
def find (registry : Option Registry) : Check → Act σ (Option Verdict)
  | form recipe => pure (if (recipe.elim [] Recipe.materials).isEmpty then some .invalid else none)
  | material m => do
      if (← Inventory.quantityOf m.ref) < m.quantity then object registry .notEnough m.ref else return none
  | requirement ref => do
      if ← Inventory.has ref then return none
      object registry .requires ref
  | cost amount => do return if (amount : Int) ≤ (← Inventory.currency) then none else some .notEnoughCurrency

/-- To make checks up to the first that finds something. -/
def findFirst (registry : Option Registry) : List Check → Act σ (Option Verdict)
  | [] => pure none
  | check :: rest => do
      match ← check.find registry with
      | some verdict => return some verdict
      | none => findFirst registry rest

end Check

open Check

variable {σ : Type} [Inventory σ] (registry : Option Registry)

theorem findFirst_materials (materials : List Material) (rest : List Check) :
    (findFirst registry (materials.map .material ++ rest) : Act σ (Option Verdict)) =
      (do
        match ← shortage materials with
        | some ref => object registry .notEnough ref
        | none => findFirst registry rest) := by
  induction materials with
  | nil => simp only [List.map_nil, List.nil_append, shortage, pure_bind]
  | cons material others ih =>
      simp only [List.map_cons, List.cons_append, findFirst, find, shortage, bind_assoc, ih]
      refine bind_congr fun held => ?_
      by_cases hshort : held < material.quantity
      · simp only [hshort, if_true, object, bind_assoc, pure_bind]
      · simp only [hshort, if_false, pure_bind]

theorem findFirst_requirement (requirement : Option EntityRef) (rest : List Check) :
    (findFirst registry (requirement.toList.map .requirement ++ rest) : Act σ (Option Verdict)) =
      (do
        match ← lacking requirement with
        | some ref => object registry .requires ref
        | none => findFirst registry rest) := by
  cases requirement with
  | none => simp only [Option.toList_none, List.map_nil, List.nil_append, lacking, pure_bind]
  | some ref =>
      simp only [Option.toList_some, List.map_cons, List.map_nil, List.cons_append, List.nil_append, findFirst, find,
        lacking, bind_assoc]
      refine bind_congr fun owned => ?_
      cases owned with
      | true => simp only [if_true, pure_bind]
      | false => simp only [Bool.false_eq_true, if_false, object, bind_assoc, pure_bind]

theorem findFirst_cost (recipe : Recipe) :
    (findFirst registry (if recipe.cost = 0 then [] else [.cost recipe.cost]) : Act σ (Option Verdict)) =
      (do return if ← affords recipe then none else some .notEnoughCurrency) := by
  unfold affords
  by_cases hfree : recipe.cost = 0
  · simp only [hfree, if_true, findFirst, pure_bind]
  · simp only [hfree, if_false, findFirst, find, bind_assoc, pure_bind]
    refine bind_congr fun gold => ?_
    by_cases hcost : (recipe.cost : Int) ≤ gold
    · simp only [hcost, if_true, decide_true]
    · simp only [hcost, if_false, decide_false, Bool.false_eq_true]

/-- A judge makes its checks up to the first that finds something. -/
theorem check_eq_findFirst (recipe : Option Recipe) :
    (check registry recipe : Act σ Verdict) = (do return (← findFirst registry (checksOf recipe)).getD .ready) := by
  cases recipe with
  | none =>
      simp only [check, checksOf, findFirst, find, Option.elim_none, List.isEmpty_nil, if_true, pure_bind,
        Option.getD_some]
  | some recipe =>
      simp only [check, checksOf, findFirst, find, Option.elim_some, pure_bind]
      by_cases hnone : recipe.materials.isEmpty = true
      · simp only [hnone, if_true, pure_bind, Option.getD_some]
      · simp only [hnone, Bool.false_eq_true, if_false, findFirst_materials, findFirst_requirement, findFirst_cost,
          bind_assoc]
        -- From here on each check is made only where the one before it found nothing.
        refine bind_congr fun short => ?_
        cases short with
        | some ref => simp only [object, bind_assoc, pure_bind, Option.getD_some]
        | none =>
            simp only [bind_assoc]
            refine bind_congr fun lacks => ?_
            cases lacks with
            | some ref => simp only [object, bind_assoc, pure_bind, Option.getD_some]
            | none =>
                simp only [bind_assoc, pure_bind]
                refine bind_congr fun affordable => ?_
                cases affordable <;> rfl

/-! ## On a party some of whose calls are made to fail -/

section

variable (party : Party) (faults : Schedule)

theorem quantityOf_run (ref : EntityRef) :
    Inventory.quantityOf ref (⟨party, faults⟩ : Faulty Party) =
      ⟨(faults.fate .quantityOf 0).elim (.ok (party.held.count ref)) fun message => .error (.refused message),
        ⟨party, faults.behind [.quantityOf]⟩, []⟩ := by
  show (do Faulty.enter .quantityOf; Faulty.read (Store.quantityOf · ref) : Act (Faulty Party) Int) _ = _
  rw [Act.run_bind, Faulty.enter_run]
  cases faults.fate .quantityOf 0 <;> rfl

theorem currency_run :
    (Inventory.currency : Act (Faulty Party) Int) ⟨party, faults⟩ =
      ⟨(faults.fate .currency 0).elim (.ok party.gold) fun message => .error (.refused message),
        ⟨party, faults.behind [.currency]⟩, []⟩ := by
  show (do Faulty.enter .currency; Faulty.read Store.currency : Act (Faulty Party) Int) _ = _
  rw [Act.run_bind, Faulty.enter_run]
  cases faults.fate .currency 0 <;> rfl

/-- To ask what is owned is to ask first what is held. -/
theorem has_run (ref : EntityRef) :
    ((faults.fate .has 0).isSome ∨ (faults.fate .quantityOf 0).isSome →
        ∃ failure, (Inventory.has ref (⟨party, faults⟩ : Faulty Party)).value = .error failure) ∧
      (faults.fate .has 0 = none → faults.fate .quantityOf 0 = none →
        Inventory.has ref (⟨party, faults⟩ : Faulty Party) =
          ⟨.ok (decide (party.Owns ref)), ⟨party, faults.behind [.has, .quantityOf]⟩, []⟩) := by
  have hhas : Inventory.has ref (⟨party, faults⟩ : Faulty Party) = (do
      Faulty.enter .has
      if 0 < (← Inventory.quantityOf ref) then return true
      Faulty.read fun store => .ok (true && Store.wears store ref) : Act (Faulty Party) Bool) ⟨party, faults⟩ := rfl
  rw [hhas, Act.run_bind, Faulty.enter_run]
  cases hfirst : faults.fate .has 0 with
  | some message => exact ⟨fun _ => ⟨_, rfl⟩, nofun⟩
  | none =>
      have hlater : (faults.behind [.has]).fate .quantityOf 0 = faults.fate .quantityOf 0 :=
        Schedule.fate_behind faults [.has] .quantityOf 0
      simp only [Option.elim_none, Act.run_bind, quantityOf_run, hlater]
      cases hsecond : faults.fate .quantityOf 0 with
      | some message => exact ⟨fun _ => ⟨_, rfl⟩, nofun⟩
      | none =>
          refine ⟨fun h => ?_, fun _ _ => ?_⟩
          · rcases h with h | h <;> cases h
          · simp only [Option.elim_none, Party.Owns]
            by_cases hheld : 0 < party.held.count ref
            · simp only [hheld, if_true, true_or, decide_true]
              rfl
            · simp only [hheld, if_false, false_or, Bool.true_and]
              rfl

/-- To object with the name of an entity that the party lacks is to come to that objection, with a failure where it
leaves the matter undecided. -/
theorem object_run (objection : String → Verdict) (hobjects : ∀ name, objection name ≠ .undecided) (ref : EntityRef)
    (s : Faulty Party) :
    let decided := naming registry objection ref
    (decided = .undecided → ∃ failure, (object registry objection ref s).value = .error failure) ∧
      (decided ≠ .undecided → object registry objection ref s = ⟨.ok (some decided), s, []⟩) := by
  simp only [object, naming]
  cases hname : shownName registry ref with
  | ok name => exact ⟨fun h => absurd h (hobjects name), fun _ => rfl⟩
  | error failure => exact ⟨fun _ => ⟨failure, rfl⟩, fun h => absurd rfl h⟩

/-- A check that is behind no other fails where it leaves the matter undecided; else it decides as the party has it, and
makes its calls. -/
theorem find_run (check : Check) :
    let s : Faulty Party := ⟨party, faults⟩
    (check.decision? registry s [] = some .undecided → ∃ failure, (check.find registry s).value = .error failure) ∧
      (check.decision? registry s [] ≠ some .undecided →
        check.find registry s =
          ⟨.ok (check.decision? registry s []), ⟨party, faults.behind check.calls⟩, []⟩) := by
  intro s
  cases check with
  | form recipe =>
      have hdecision : (form recipe).decision? registry s [] = (form recipe).objection? registry party := rfl
      rw [hdecision]
      refine ⟨fun h => ?_, fun _ => rfl⟩
      rw [objection?] at h
      split at h <;> cases h
  | material m =>
      -- The one call is refused, or it passes and the count decides.
      rw [find, Act.run_bind, quantityOf_run]
      simp only [decision?, isRefused, calls, List.any_cons, List.any_nil, Bool.or_false, List.count_nil, s]
      cases faults.fate .quantityOf 0 with
      | some message => exact ⟨fun _ => ⟨_, rfl⟩, fun h => absurd rfl h⟩
      | none =>
          by_cases hshort : party.held.count m.ref < m.quantity
          · obtain ⟨hfails, hdecides⟩ := object_run registry .notEnough (by rintro _ ⟨⟩) m.ref
              (⟨party, faults.behind [.quantityOf]⟩ : Faulty Party)
            simp only [Option.elim_none, Option.isSome_none, Bool.false_eq_true, if_false, objection?, hshort, if_true,
              List.nil_append, Option.some.injEq, ne_eq]
            exact ⟨hfails, fun h => by rw [hdecides h]⟩
          · simp only [Option.elim_none, Option.isSome_none, Bool.false_eq_true, if_false, objection?, hshort,
              reduceCtorEq, false_imp_iff, Act.run_pure, List.append_nil, implies_true, and_self]
  | requirement ref =>
      -- Two calls are made here, and either may be refused.
      obtain ⟨hfails, hpasses⟩ := has_run party faults ref
      simp only [decision?, isRefused, calls, List.any_cons, List.any_nil, Bool.or_false, List.count_nil, s]
      by_cases hrefused : (faults.fate .has 0).isSome ∨ (faults.fate .quantityOf 0).isSome
      · obtain ⟨failure, hfailure⟩ := hfails hrefused
        rw [if_pos (by rwa [Bool.or_eq_true])]
        exact ⟨fun _ => ⟨failure, by rw [find, Act.run_bind_of_error hfailure]⟩, fun h => absurd rfl h⟩
      · rw [if_neg (by rwa [Bool.or_eq_true])]
        simp only [not_or, Bool.not_eq_true, Option.isSome_eq_false_iff, Option.isNone_iff_eq_none] at hrefused
        rw [find, Act.run_bind, hpasses hrefused.1 hrefused.2]
        by_cases howned : party.Owns ref
        · simp only [objection?, howned, if_true, reduceCtorEq, false_imp_iff, decide_true, Act.run_pure,
            List.append_nil, implies_true, and_self]
        · obtain ⟨hfails, hdecides⟩ := object_run registry .requires (by rintro _ ⟨⟩) ref
            (⟨party, faults.behind [.has, .quantityOf]⟩ : Faulty Party)
          simp only [objection?, howned, if_false, decide_false, Bool.false_eq_true, List.nil_append,
            Option.some.injEq, ne_eq]
          exact ⟨hfails, fun h => by rw [hdecides h]⟩
  | cost amount =>
      rw [find, Act.run_bind, currency_run]
      simp only [decision?, isRefused, calls, List.any_cons, List.any_nil, Bool.or_false, List.count_nil, s]
      cases faults.fate .currency 0 with
      | some message => exact ⟨fun _ => ⟨_, rfl⟩, fun h => absurd rfl h⟩
      | none =>
          refine ⟨fun h => ?_, fun _ => rfl⟩
          simp only [Option.isSome_none, Bool.false_eq_true, if_false, objection?] at h
          split at h <;> cases h

end

/-! ## The first check that decides -/

/-- Behind the calls of earlier ones, none of these checks decides. -/
def NoneDecides (registry : Option Registry) (s : Faulty Party) (earlier : List Call) (checks : List Check) : Prop :=
  ∀ before check after, checks = before ++ check :: after →
    check.decision? registry s (earlier ++ before.flatMap calls) = none

/-- The decision of the first of the checks that decides. -/
def firstDecision? (registry : Option Registry) (s : Faulty Party) (earlier : List Call) : List Check → Option Verdict
  | [] => none
  | check :: rest => (check.decision? registry s earlier).or (firstDecision? registry s (earlier ++ check.calls) rest)

/-- The answer that a verdict stands for: whether the recipe can be crafted, and what is said of it. -/
def answer (currencyName : String) (verdict : Verdict) : Bool × String :=
  (verdict.isReady, verdict.reason currencyName)

section

variable {registry : Option Registry} {s : Faulty Party} {earlier : List Call}

/-- What a check decides behind earlier calls is what it decides on a party behind them. -/
theorem decision?_behind (check : Check) :
    check.decision? registry ⟨s.store, s.faults.behind earlier⟩ [] = check.decision? registry s earlier := by
  have hrefused : check.isRefused (s.faults.behind earlier) [] = check.isRefused s.faults earlier := by
    simp only [isRefused, List.count_nil, Schedule.fate_behind, Nat.add_zero]
  rw [decision?, decision?, hrefused]

theorem noneDecides_cons {check : Check} {rest : List Check} :
    NoneDecides registry s earlier (check :: rest) ↔
      check.decision? registry s earlier = none ∧ NoneDecides registry s (earlier ++ check.calls) rest := by
  constructor
  · intro h
    refine ⟨?_, fun before other after heq => ?_⟩
    · have hfirst := h [] check rest rfl
      rwa [List.flatMap_nil, List.append_nil] at hfirst
    · have hlater := h (check :: before) other after (congrArg (check :: ·) heq)
      rwa [List.flatMap_cons, ← List.append_assoc] at hlater
  · rintro ⟨hfirst, hrest⟩ (_ | ⟨head, before⟩) other after heq
    · cases heq
      rwa [List.flatMap_nil, List.append_nil]
    · cases heq
      rw [List.flatMap_cons, ← List.append_assoc]
      exact hrest before other after rfl

theorem firstDecision?_eq_none_iff {checks : List Check} :
    firstDecision? registry s earlier checks = none ↔ NoneDecides registry s earlier checks := by
  induction checks generalizing earlier with
  | nil => exact iff_of_true rfl fun before check after heq => by cases before <;> cases heq
  | cons check rest ih => rw [firstDecision?, Option.or_eq_none_iff, ih, noneDecides_cons]

/-- Where none of the checks before it decides, a check that decides gives the first decision. -/
theorem firstDecision?_append {before after : List Check} {check : Check} {verdict : Verdict}
    (hbefore : NoneDecides registry s earlier before)
    (hdecides : check.decision? registry s (earlier ++ before.flatMap calls) = some verdict) :
    firstDecision? registry s earlier (before ++ check :: after) = some verdict := by
  induction before generalizing earlier with
  | nil =>
      rw [List.flatMap_nil, List.append_nil] at hdecides
      rw [List.nil_append, firstDecision?, hdecides, Option.some_or]
  | cons first rest ih =>
      obtain ⟨hfirst, hrest⟩ := noneDecides_cons.1 hbefore
      rw [List.flatMap_cons, ← List.append_assoc] at hdecides
      rw [List.cons_append, firstDecision?, hfirst, Option.none_or, ih hrest hdecides]

theorem naming_ne_ready {objection : String → Verdict} (hobjects : ∀ name, objection name ≠ .ready) (ref : EntityRef) :
    naming registry objection ref ≠ .ready := by
  unfold naming
  cases shownName registry ref with
  | ok name => exact hobjects name
  | error failure => rintro ⟨⟩

theorem decision?_ne_ready (check : Check) : check.decision? registry s earlier ≠ some .ready := by
  unfold decision? objection?
  split
  · rintro ⟨⟩
  · cases check with
    | form recipe => dsimp only; split <;> rintro ⟨⟩
    | material m =>
        dsimp only
        split
        · exact fun h => naming_ne_ready (by rintro _ ⟨⟩) m.ref (Option.some.inj h)
        · rintro ⟨⟩
    | requirement ref =>
        dsimp only
        split
        · rintro ⟨⟩
        · exact fun h => naming_ne_ready (by rintro _ ⟨⟩) ref (Option.some.inj h)
    | cost amount => dsimp only; split <;> rintro ⟨⟩

theorem firstDecision?_ne_ready (checks : List Check) : firstDecision? registry s earlier checks ≠ some .ready := by
  induction checks generalizing earlier with
  | nil => rintro ⟨⟩
  | cons check rest ih =>
      rw [firstDecision?]
      cases hdecides : check.decision? registry s earlier with
      | none => exact ih
      | some verdict =>
          intro hready
          exact decision?_ne_ready check (hdecides.trans hready)

/-- To make checks behind earlier ones is to come to their first decision, with a failure for what is left undecided. -/
theorem findFirst_run (registry : Option Registry) (s : Faulty Party) (earlier : List Call) (checks : List Check) :
    let run := findFirst registry checks (⟨s.store, s.faults.behind earlier⟩ : Faulty Party)
    (∃ failure, run.value = .error failure) ∧ firstDecision? registry s earlier checks = some .undecided ∨
      run.value = .ok (firstDecision? registry s earlier checks) ∧
        firstDecision? registry s earlier checks ≠ some .undecided := by
  intro run
  induction checks generalizing earlier with
  | nil => exact .inr ⟨rfl, by rintro ⟨⟩⟩
  | cons check rest ih =>
      obtain ⟨hfails, hpasses⟩ := find_run registry s.store (s.faults.behind earlier) check
      rw [decision?_behind] at hfails hpasses
      have hrun : run = (check.find registry >>= fun found => match found with
        | some verdict => pure (some verdict)
        | none => findFirst registry rest) ⟨s.store, s.faults.behind earlier⟩ := rfl
      -- What the first check decides, those behind it never come to.
      by_cases hundecided : check.decision? registry s earlier = some .undecided
      · obtain ⟨failure, hfailure⟩ := hfails hundecided
        refine .inl ⟨⟨failure, by rw [hrun, Act.run_bind_of_error hfailure]⟩, ?_⟩
        rw [firstDecision?, hundecided, Option.some_or]
      · rw [hrun, Act.run_bind, hpasses hundecided, firstDecision?]
        cases hdecision : check.decision? registry s earlier with
        | some verdict =>
            rw [hdecision] at hundecided
            exact .inr ⟨rfl, hundecided⟩
        | none =>
            rw [← Schedule.behind_append]
            exact ih _

/-- The verdict is the first decision. Only to leave the matter undecided takes a report, which can fail. -/
theorem judge_value (registry : Option Registry) (recipe : Option Recipe) (s : Faulty Party) :
    let run := judge registry recipe s
    let decision := firstDecision? registry s [] (checksOf recipe)
    (decision = some .undecided ∧ ¬(∀ made, recipe = some made → made.result.Writable) ∧
        ∃ failure, run.value = .error failure) ∨
      ((decision = some .undecided → ∀ made, recipe = some made → made.result.Writable) ∧
        run.value = .ok (decision.getD .ready)) := by
  intro run decision
  have hcheck := congrFun (check_eq_findFirst (σ := Faulty Party) registry recipe) s
  obtain ⟨⟨failure, hfailure⟩, hundecided⟩ | ⟨hvalue, hdecided⟩ := findFirst_run registry s [] (checksOf recipe)
  · have herror : (check registry recipe s).value = .error failure := by
      rw [hcheck]
      exact congrArg Run.value (Act.run_bind_of_error hfailure _)
    obtain ⟨hjudged, -⟩ := judge_of_error herror
    have hreport : (∃ words, failedText recipe failure = .ok words) ↔ _ :=
      exists_failedText_iff (check_candid registry recipe s failure herror)
    cases htext : failedText recipe failure with
    | ok words =>
        rw [htext] at hjudged hreport
        exact .inr ⟨fun _ => hreport.1 ⟨words, rfl⟩, by rw [show decision = _ from hundecided]; exact hjudged⟩
    | error other =>
        rw [htext] at hjudged hreport
        refine .inl ⟨hundecided, fun h => ?_, other, hjudged⟩
        obtain ⟨words, hwords⟩ := hreport.2 h
        cases hwords
  · have hok : (check registry recipe s).value = .ok (decision.getD .ready) := by
      rw [hcheck]
      exact congrArg Run.value (Act.run_bind_of_ok hvalue _)
    exact .inr ⟨fun h => absurd h hdecided, (judge_of_ok hok).1⟩

end

end Verdict

namespace Sample

def feather : EntityRef := ⟨.item, 21, by decide⟩

def pearl : EntityRef := ⟨.item, 22, by decide⟩

def charm : Recipe where
  result := ⟨.armor, 5, by decide⟩
  materials := [⟨feather, 1, Nat.one_pos⟩, ⟨pearl, 2, Nat.two_pos⟩]
  requirement := some ⟨.item, 23, by decide⟩
  cost := 5

/-- A party too poor for the charm, without a pearl or a mirror, whose bag tears when it is asked the second time. -/
def torn : Faulty Party where
  store := { held := [(feather, 1)], gold := 3 }
  faults := [(.quantityOf, [(1, none), (1, some "bag torn")])]

end Sample

end Crafting
