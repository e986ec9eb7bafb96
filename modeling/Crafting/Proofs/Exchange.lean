import Crafting.Exchange
import Crafting.Proofs.Inventory.Calls
import Crafting.Proofs.Wording

/-!
# Exchanges on any inventory

An exchange makes calls of the inventory and nothing else, so it keeps what the calls keep and respects the views that
they respect. Watched, it shows which changes it tries: all steps in order, or those up to one that fails and then the
undoing of each step before it, the last one first.
-/

namespace Crafting.Exchange

variable {σ τ : Type} [Inventory σ] [Inventory τ]

/-! ## Steps as changes -/

def Step.change : Step → Change
  | consume ref quantity => .consume ref quantity
  | add ref quantity => .add ref quantity
  | spend amount => .spend amount
  | gain amount => .gain amount

theorem Step.run_eq_call (step : Step) : (step.run : Act σ Unit) = step.change.call := by
  cases step <;> rfl

/-! ## Exchanges run alike -/

section Related

variable {rel : σ → τ → Prop}

theorem Step.run_related (h : Inventory.CallsRelated rel) (step : Step) : Act.Related rel step.run step.run := by
  rw [run_eq_call, run_eq_call]
  exact h.call step.change

theorem applyFrom_related (h : Inventory.CallsRelated rel) (done steps : List Step) :
    Act.Related rel (applyFrom done steps) (applyFrom done steps) := by
  induction steps generalizing done with
  | nil => exact .pure _
  | cons step rest ih =>
      refine (Step.run_related h step).attempt.bind fun result => ?_
      cases result with
      | ok _ => exact ih (step :: done)
      | error failure => exact .pure _

theorem rollBack_related (h : Inventory.CallsRelated rel) (steps : List Step) :
    Act.Related rel (rollBack steps) (rollBack steps) := by
  induction steps with
  | nil => exact .pure _
  | cons step rest ih =>
      refine (Step.run_related h step.undo).attempt.bind fun result => ?_
      cases result with
      | ok _ => exact ih
      | error failure => exact (Act.Related.report _ _).bind fun _ => ih.bind fun _ => .pure _

theorem allHeld_related (h : Inventory.ReadsRelated rel) (totals : List (EntityRef × Nat)) :
    Act.Related rel (allHeld totals) (allHeld totals) := by
  induction totals with
  | nil => exact .pure _
  | cons total rest ih => exact (h.quantityOf total.1).bind fun _ => .ite (.pure _) ih

theorem isAvailable_related (h : Inventory.ReadsRelated rel) (recipe : Recipe) :
    Act.Related rel (isAvailable recipe) (isAvailable recipe) :=
  (allHeld_related h _).bind fun _ => .ite (.pure _) (.ite (.pure _) (h.currency.bind fun _ => .pure _))

/-- On inventories whose calls run alike, exchanges do. -/
theorem run_related (h : Inventory.CallsRelated rel) (recipe : Option Recipe) :
    Act.Related rel (run recipe) (run recipe) := by
  have hinvalid : Act.Related rel run.invalid run.invalid := (Act.Related.log _).bind fun _ => .pure _
  cases recipe with
  | none => exact hinvalid
  | some recipe =>
      refine .ite hinvalid ((isAvailable_related h.toReadsRelated recipe).bind fun available => .ite ?_ ?_)
      · exact (Act.Related.report _ _).bind fun _ => .pure _
      · refine (applyFrom_related h [] _).bind fun result => ?_
        cases result with
        | none => exact (Act.Related.report _ _).bind fun _ => .pure _
        | some stop => exact (Act.Related.report _ _).bind fun _ => (rollBack_related h stop.2).bind fun _ => .pure _

end Related

theorem run_keeps {holds : σ → Prop} (h : Inventory.CallsKeep holds) (recipe : Option Recipe) :
    Act.Keeps holds (run recipe) :=
  Act.keeps_iff_related.2 (run_related h.related recipe)

theorem applyFrom_keeps {holds : σ → Prop} (h : Inventory.CallsKeep holds) (done steps : List Step) :
    Act.Keeps holds (applyFrom done steps) :=
  Act.keeps_iff_related.2 (applyFrom_related h.related done steps)

theorem isAvailable_keeps {holds : σ → Prop} (h : Inventory.ReadsKeep holds) (recipe : Recipe) :
    Act.Keeps holds (isAvailable recipe) :=
  Act.keeps_iff_related.2 (isAvailable_related h.related recipe)

/-! ## What an exchange lets through -/

theorem Step.run_candid [Inventory.Candid σ] (step : Step) : Act.Candid (step.run : Act σ Unit) := by
  rw [run_eq_call]
  exact Inventory.Candid.call step.change

theorem applyFrom_answers (done steps : List Step) : Act.Answers (applyFrom done steps : Act σ _) := by
  induction steps generalizing done with
  | nil => exact .pure _
  | cons step rest ih =>
      refine (Act.Answers.attempt step.run).bind fun result => ?_
      cases result with
      | ok _ => exact ih (step :: done)
      | error failure => exact .pure _

/-! ## The changes that an exchange tries -/

def passedAll (steps : List Step) : List (Change × Bool) :=
  steps.map fun step => (step.change, true)

/-- The tries to undo steps, each with whether its step could be undone. -/
def undoings (undone : List (Step × Bool)) : List (Change × Bool) :=
  undone.map fun entry => (entry.1.undo.change, entry.2)

/-- The steps that could not be undone. -/
def standingOf (undone : List (Step × Bool)) : List Step :=
  (undone.filter fun entry => !entry.2).map Prod.fst

theorem Step.run_tried (step : Step) (w : Watched σ) :
    (step.run w).state.tried = w.tried ++ [(step.change, (step.run w).value.isOk)] := by
  cases step <;> rfl

theorem applyFrom_cons_of_ok {step : Step} {s : σ} (h : (step.run s).value = .ok ()) (done rest : List Step) :
    (applyFrom done (step :: rest) s).value = (applyFrom (step :: done) rest (step.run s).state).value ∧
      (applyFrom done (step :: rest) s).state = (applyFrom (step :: done) rest (step.run s).state).state := by
  simp only [applyFrom, Act.run_bind, Act.run_attempt, h, and_self]

theorem applyFrom_cons_of_error {step : Step} {s : σ} {failure : Failure} (h : (step.run s).value = .error failure)
    (done rest : List Step) :
    (applyFrom done (step :: rest) s).value = .ok (some (failure, done)) ∧
      (applyFrom done (step :: rest) s).state = (step.run s).state := by
  simp only [applyFrom, Act.run_bind, Act.run_attempt, h, Act.run_pure, and_self]

theorem applyFrom_tried (done steps : List Step) (w : Watched σ) :
    ((applyFrom done steps w).value = .ok none ∧ (applyFrom done steps w).state.tried = w.tried ++ passedAll steps) ∨
      ∃ applied step rest failure, steps = applied ++ step :: rest ∧
        (applyFrom done steps w).value = .ok (some (failure, applied.reverse ++ done)) ∧
        (applyFrom done steps w).state.tried = w.tried ++ passedAll applied ++ [(step.change, false)] := by
  -- By induction on the steps, whatever is done already: each step that passes joins both lists.
  induction steps generalizing done w with
  | nil => exact .inl ⟨rfl, (List.append_nil _).symm⟩
  | cons step rest ih =>
      have htried := Step.run_tried step w
      cases hvalue : (step.run w).value with
      | error failure =>
          obtain ⟨hval, hstate⟩ := applyFrom_cons_of_error hvalue done rest
          rw [hvalue] at htried
          -- The step that fails is tried too, and nothing behind it is.
          refine .inr ⟨[], step, rest, failure, rfl, hval, ?_⟩
          rw [hstate, htried]
          simp [passedAll, Except.isOk, Except.toBool]
      | ok u =>
          obtain ⟨hval, hstate⟩ := applyFrom_cons_of_ok hvalue done rest
          rw [hvalue] at htried
          have hfirst : (step.run w).state.tried = w.tried ++ [(step.change, true)] := htried
          rw [hval, hstate]
          rcases ih (step :: done) (step.run w).state with
            ⟨hall, hafter⟩ | ⟨applied, stop, later, failure, rfl, hstop, hafter⟩
          · exact .inl ⟨hall, by rw [hafter, hfirst, List.append_assoc]; rfl⟩
          · refine .inr ⟨step :: applied, stop, later, failure, rfl, ?_, ?_⟩
            · rw [hstop, List.reverse_cons, List.append_assoc]; rfl
            · rw [hafter, hfirst]
              simp [passedAll]

theorem applyFrom_tellable [Inventory.Candid σ] {done steps left : List Step} {failure : Failure} {s : σ}
    (h : (applyFrom done steps s).value = .ok (some (failure, left))) : failure.Tellable := by
  induction steps generalizing done s with
  | nil => cases h
  | cons step rest ih =>
      cases hvalue : (step.run s).value with
      | error other =>
          rw [(applyFrom_cons_of_error hvalue done rest).1] at h
          cases h
          exact Step.run_candid step s failure hvalue
      | ok u =>
          rw [(applyFrom_cons_of_ok hvalue done rest).1] at h
          exact ih h

theorem rollBack_cons_of_ok {step : Step} {s : σ} (h : (step.undo.run s).value = .ok ()) (rest : List Step) :
    (rollBack (step :: rest) s).value = (rollBack rest (step.undo.run s).state).value ∧
      (rollBack (step :: rest) s).state = (rollBack rest (step.undo.run s).state).state := by
  simp only [rollBack, Act.run_bind, Act.run_attempt, h, and_self]

theorem rollBack_cons_of_error {step : Step} {s : σ} {failure : Failure} (h : (step.undo.run s).value = .error failure)
    (htell : failure.Tellable) {rest standing : List Step}
    (hrest : (rollBack rest (step.undo.run s).state).value = .ok standing) :
    (rollBack (step :: rest) s).value = .ok (step :: standing) ∧
      (rollBack (step :: rest) s).state = (rollBack rest (step.undo.run s).state).state := by
  obtain ⟨words, hwords⟩ : ∃ words, undoFailedText failure = .ok words := htell.exists_toldAfter ⟨_, rfl⟩
  simp only [rollBack, Act.run_bind, Act.run_attempt, Act.run_report_ok, Act.run_pure, h, hwords, hrest, and_self]

/-- Where steps fail only as can be told, each of them gets its undoing. -/
theorem rollBack_answers [Inventory.Candid σ] (steps : List Step) : Act.Answers (rollBack steps : Act σ _) := by
  induction steps with
  | nil => exact .pure _
  | cons step rest ih =>
      intro s
      have hcandid := Step.run_candid step.undo s
      obtain ⟨standing, hrest⟩ := ih (step.undo.run s).state
      cases hundo : (step.undo.run s).value with
      | ok u => exact ⟨standing, (rollBack_cons_of_ok hundo rest).1.trans hrest⟩
      | error failure => exact ⟨step :: standing, (rollBack_cons_of_error hundo (hcandid failure hundo) hrest).1⟩

/-- A rollback tries to undo every step it is given, in that order, and answers those that it could not undo. -/
theorem rollBack_tried [Inventory.Candid σ] (steps : List Step) (w : Watched σ) :
    ∃ undone : List (Step × Bool), undone.map Prod.fst = steps ∧
      (rollBack steps w).value = .ok (standingOf undone) ∧
      (rollBack steps w).state.tried = w.tried ++ undoings undone := by
  induction steps generalizing w with
  | nil => exact ⟨[], rfl, rfl, (List.append_nil _).symm⟩
  | cons step rest ih =>
      -- However this undoing goes, the rest is undone from the state that it leaves.
      have htried := Step.run_tried step.undo w
      obtain ⟨undone, hsteps, hvalue, hafter⟩ := ih (step.undo.run w).state
      cases hundo : (step.undo.run w).value with
      | error failure =>
          obtain ⟨hval, hstate⟩ := rollBack_cons_of_error hundo (Step.run_candid step.undo w failure hundo) hvalue
          refine ⟨(step, false) :: undone, by rw [List.map_cons, hsteps], hval, ?_⟩
          rw [hstate, hafter, htried, hundo, List.append_assoc]
          rfl
      | ok u =>
          obtain ⟨hval, hstate⟩ := rollBack_cons_of_ok hundo rest
          refine ⟨(step, true) :: undone, by rw [List.map_cons, hsteps], hval.trans hvalue, ?_⟩
          rw [hstate, hafter, htried, hundo, List.append_assoc]
          rfl

/-! ## The endings -/

/-- An exchange can be reported just when its numbers can be written. -/
theorem exists_appliedText_iff {recipe : Recipe} : (∃ words, appliedText recipe = .ok words) ↔ recipe.Reportable := by
  simp only [appliedText, Result.bind_eq_ok_iff, Result.pure_eq_ok_iff]
  constructor
  · rintro ⟨_, result, hresult, cost, hcost, -⟩
    exact ⟨EntityRef.exists_text_iff.1 ⟨result, hresult⟩, exists_writeNumber_iff.1 ⟨cost, hcost⟩⟩
  · intro h
    obtain ⟨cost, hcost⟩ := exists_writeNumber_iff.2 h.cost
    exact ⟨_, _, h.result.text_eq, cost, hcost, rfl⟩

theorem exists_unavailableText_iff {recipe : Recipe} :
    (∃ words, unavailableText recipe = .ok words) ↔ recipe.result.Writable := by
  rw [← EntityRef.exists_text_iff, unavailableText]
  cases recipe.result.text with
  | ok words => exact iff_of_true ⟨_, rfl⟩ ⟨words, rfl⟩
  | error failure => exact iff_of_false (by rintro ⟨_, ⟨⟩⟩) (by rintro ⟨_, ⟨⟩⟩)

theorem exists_failedText_iff {recipe : Recipe} {failure : Failure} (htell : failure.Tellable) :
    (∃ words, failedText recipe failure = .ok words) ↔ recipe.result.Writable := by
  rw [← EntityRef.exists_text_iff, failedText, htell.toldAfter_eq, Result.exists_map_iff]
  cases recipe.result.text with
  | ok words => exact iff_of_true ⟨_, rfl⟩ ⟨words, rfl⟩
  | error failure => exact iff_of_false (by rintro ⟨_, ⟨⟩⟩) (by rintro ⟨_, ⟨⟩⟩)

theorem unavailableText_eq_error {recipe : Recipe} {failure : Failure} (h : unavailableText recipe = .error failure) :
    failure = .unwritable := by
  obtain hresult | ⟨_, -, hdone⟩ := Result.bind_eq_error_iff.1 h
  · exact EntityRef.text_eq_error hresult
  · cases hdone

theorem appliedText_eq_error {recipe : Recipe} {failure : Failure} (h : appliedText recipe = .error failure) :
    failure = .unwritable := by
  obtain hresult | ⟨_, -, hrest⟩ := Result.bind_eq_error_iff.1 h
  · exact EntityRef.text_eq_error hresult
  · obtain hcost | ⟨_, -, hdone⟩ := Result.bind_eq_error_iff.1 hrest
    · exact writeNumber_eq_error hcost
    · cases hdone

theorem failedText_eq_error {recipe : Recipe} {cause failure : Failure} (htell : cause.Tellable)
    (h : failedText recipe cause = .error failure) : failure = .unwritable := by
  rw [failedText, htell.toldAfter_eq, Result.map_eq_error_iff] at h
  obtain hresult | ⟨_, -, hdone⟩ := Result.bind_eq_error_iff.1 h
  · exact EntityRef.text_eq_error hresult
  · cases hdone

/-- The exchange comes to a report with a number that cannot be written: that of the result or, once every step is
applied, the cost. -/
def Unreported (recipe : Recipe) (s : σ) : Prop :=
  ∃ available, (isAvailable recipe s).value = .ok available ∧
    (¬recipe.result.Writable ∨ available = true ∧
      (applyFrom [] (stepsOf recipe) (isAvailable recipe s).state).value = .ok none ∧
        ¬Text.Numeral.Writable recipe.cost)

theorem not_unreported {recipe : Recipe} (h : recipe.Reportable) (s : σ) : ¬Unreported recipe s := by
  rintro ⟨available, -, hresult | ⟨-, -, hcost⟩⟩
  · exact hresult h.result
  · exact hcost h.cost

section Endings

variable {recipe : Recipe} (hrecipe : recipe.materials ≠ []) {s : σ}

include hrecipe

theorem run_eq_looking : run (some recipe) s = (do
    if !(← isAvailable recipe) then
      .report (Log.warning logSource) (unavailableText recipe)
      return .unavailable
    else
      match ← applyFrom [] (stepsOf recipe) with
      | none =>
          .report (Log.info logSource) (appliedText recipe)
          return .applied
      | some (failure, done) =>
          .report (Log.error logSource) (failedText recipe failure)
          return .rolledBack (← rollBack done) : Act σ Ending) s := by
  have hnonempty : recipe.materials.isEmpty = false := List.isEmpty_eq_false_iff.2 hrecipe
  rw [run, hnonempty]
  rfl

theorem run_of_error {failure : Failure} (h : (isAvailable recipe s).value = .error failure) :
    (run (some recipe) s).value = .error failure ∧ (run (some recipe) s).state = (isAvailable recipe s).state := by
  rw [run_eq_looking hrecipe, Act.run_bind_of_error h]
  exact ⟨rfl, rfl⟩

/-- Where too little is there nothing changes any more, whether or not that can be reported. -/
theorem run_of_unavailable (h : (isAvailable recipe s).value = .ok false) :
    (run (some recipe) s).value = (unavailableText recipe).map (fun _ => .unavailable) ∧
      (run (some recipe) s).state = (isAvailable recipe s).state := by
  rw [run_eq_looking hrecipe, Act.run_bind_of_ok h]
  cases htext : unavailableText recipe <;> exact ⟨rfl, rfl⟩

/-- Once every step is applied nothing changes any more, whether or not that can be reported. -/
theorem run_of_applied (h : (isAvailable recipe s).value = .ok true)
    (happly : (applyFrom [] (stepsOf recipe) (isAvailable recipe s).state).value = .ok none) :
    (run (some recipe) s).value = (appliedText recipe).map (fun _ => .applied) ∧
      (run (some recipe) s).state = (applyFrom [] (stepsOf recipe) (isAvailable recipe s).state).state := by
  rw [run_eq_looking hrecipe, Act.run_bind_of_ok h]
  simp only [Bool.not_true, Bool.false_eq_true, if_false, Act.run_bind, happly]
  cases htext : appliedText recipe <;> exact ⟨rfl, rfl⟩

theorem run_of_rolledBack (h : (isAvailable recipe s).value = .ok true) {failure : Failure} {done standing : List Step}
    (happly : (applyFrom [] (stepsOf recipe) (isAvailable recipe s).state).value = .ok (some (failure, done)))
    (hreport : ∃ words, failedText recipe failure = .ok words)
    (hback : (rollBack done (applyFrom [] (stepsOf recipe) (isAvailable recipe s).state).state).value = .ok standing) :
    (run (some recipe) s).value = .ok (.rolledBack standing) ∧
      (run (some recipe) s).state =
        (rollBack done (applyFrom [] (stepsOf recipe) (isAvailable recipe s).state).state).state := by
  obtain ⟨words, hwords⟩ := hreport
  rw [run_eq_looking hrecipe, Act.run_bind_of_ok h]
  simp only [Bool.not_true, Bool.false_eq_true, if_false, Act.run_bind, happly, hwords, hback, Act.run_report_ok,
    Act.run_pure, and_self]

/-- A failed step that cannot be reported is not followed by any undoing. -/
theorem run_of_unreported (h : (isAvailable recipe s).value = .ok true) {failure other : Failure} {done : List Step}
    (happly : (applyFrom [] (stepsOf recipe) (isAvailable recipe s).state).value = .ok (some (failure, done)))
    (hreport : failedText recipe failure = .error other) :
    (run (some recipe) s).value = .error other ∧
      (run (some recipe) s).state = (applyFrom [] (stepsOf recipe) (isAvailable recipe s).state).state := by
  rw [run_eq_looking hrecipe, Act.run_bind_of_ok h]
  simp only [Bool.not_true, Bool.false_eq_true, if_false, Act.run_bind, happly, hreport, Act.run_report_error, and_self]

/-- Only while it looks, or of a report that cannot be written, does an exchange fail. -/
theorem run_eq_error_iff [Inventory.Candid σ] {failure : Failure} :
    (run (some recipe) s).value = .error failure ↔
      (isAvailable recipe s).value = .error failure ∨ failure = .unwritable ∧ Unreported recipe s := by
  cases havailable : (isAvailable recipe s).value with
  | error other =>
      have hlooking : ¬Unreported recipe s := by
        rintro ⟨available, hlooked, -⟩
        cases havailable.symm.trans hlooked
      rw [(run_of_error hrecipe havailable).1, or_iff_left fun h => hlooking h.2, Except.error.injEq, Except.error.injEq]
  | ok available =>
      have hunreported : Unreported recipe s ↔ ¬recipe.result.Writable ∨ available = true ∧
          (applyFrom [] (stepsOf recipe) (isAvailable recipe s).state).value = .ok none ∧
            ¬Text.Numeral.Writable recipe.cost := by
        simp only [Unreported, havailable, Except.ok.injEq, exists_eq_left']
      rw [hunreported, or_iff_right (by rintro ⟨⟩)]
      cases available with
      | false =>
          rw [(run_of_unavailable hrecipe havailable).1, Result.map_eq_error_iff,
            Result.eq_error_iff_of_only fun _ => unavailableText_eq_error, exists_unavailableText_iff]
          simp only [Bool.false_eq_true, false_and, or_false]
      | true =>
          -- From here on every failure is caught: by the steps themselves, or by the undoing.
          obtain ⟨result, happly⟩ := applyFrom_answers [] (stepsOf recipe) (isAvailable recipe s).state
          cases result with
          | none =>
              rw [(run_of_applied hrecipe havailable happly).1, Result.map_eq_error_iff,
                Result.eq_error_iff_of_only fun _ => appliedText_eq_error, exists_appliedText_iff,
                Recipe.not_reportable_iff]
              simp only [happly, true_and]
          | some stop =>
              have htell := applyFrom_tellable happly
              simp only [happly, Except.ok.injEq, reduceCtorEq, false_and, and_false, or_false]
              rw [← exists_failedText_iff htell, ← Result.eq_error_iff_of_only fun _ => failedText_eq_error htell]
              cases hreport : failedText recipe stop.1 with
              | error other =>
                  rw [(run_of_unreported hrecipe havailable happly hreport).1, Except.error.injEq, Except.error.injEq]
              | ok words =>
                  obtain ⟨standing, hback⟩ :=
                    rollBack_answers stop.2 (applyFrom [] (stepsOf recipe) (isAvailable recipe s).state).state
                  rw [(run_of_rolledBack hrecipe havailable happly ⟨words, hreport⟩ hback).1]
                  exact iff_of_false (by rintro ⟨⟩) (by rintro ⟨⟩)

end Endings

/-- The changes that an exchange tries, by how it ends. Where it cannot report, it fails behind its steps, or behind the
one that failed before any undoing. -/
theorem run_tried [Inventory.Candid σ] {recipe : Recipe} (hrecipe : recipe.materials ≠ []) (w : Watched σ) :
    match (run (some recipe) w).value with
    | .error _ => (run (some recipe) w).state.tried = w.tried ∨ ¬recipe.Reportable ∧
        ((run (some recipe) w).state.tried = w.tried ++ passedAll (stepsOf recipe) ∨
          ∃ applied step rest, stepsOf recipe = applied ++ step :: rest ∧
            (run (some recipe) w).state.tried = w.tried ++ passedAll applied ++ [(step.change, false)])
    | .ok .unavailable => (run (some recipe) w).state.tried = w.tried
    | .ok .invalid => False
    | .ok .applied => (run (some recipe) w).state.tried = w.tried ++ passedAll (stepsOf recipe)
    | .ok (.rolledBack standing) =>
        ∃ applied step rest undone, stepsOf recipe = applied ++ step :: rest ∧
          undone.map Prod.fst = applied.reverse ∧ standing = standingOf undone ∧
          (run (some recipe) w).state.tried = w.tried ++ passedAll applied ++ [(step.change, false)] ++ undoings undone := by
  have hlooked : (isAvailable recipe w).state.tried = w.tried :=
    isAvailable_keeps (Watched.reads_keep_tried (· = w.tried)) recipe w rfl
  have hsilent {text : Except Failure String} {failure : Failure} (htext : text = .error failure)
      (hreport : recipe.Reportable → ∃ words, text = .ok words) : ¬recipe.Reportable := by
    intro h
    obtain ⟨words, hwords⟩ := hreport h
    cases htext.symm.trans hwords
  cases havailable : (isAvailable recipe w).value with
  | error failure =>
      obtain ⟨hvalue, hstate⟩ := run_of_error hrecipe havailable
      simp only [hvalue, hstate]
      exact .inl hlooked
  | ok available =>
      cases available with
      | false =>
          -- Too little is left: whether or not that can be reported, nothing was tried.
          obtain ⟨hvalue, hstate⟩ := run_of_unavailable hrecipe havailable
          simp only [hvalue, hstate]
          cases unavailableText recipe with
          | error failure => exact .inl hlooked
          | ok words => exact hlooked
      | true =>
          rcases applyFrom_tried [] (stepsOf recipe) (isAvailable recipe w).state with
            ⟨happly, htried⟩ | ⟨applied, step, rest, failure, hsplit, happly, htried⟩
          · obtain ⟨hvalue, hstate⟩ := run_of_applied hrecipe havailable happly
            simp only [hvalue, hstate]
            rw [hlooked] at htried
            -- All steps passed. Without a word for it the exchange fails behind them.
            cases htext : appliedText recipe with
            | error failure => exact .inr ⟨hsilent htext exists_appliedText_iff.2, .inl htried⟩
            | ok words => exact htried
          · cases htext : failedText recipe failure with
            | error other =>
                -- The report comes before the undoing, so what was applied stands.
                obtain ⟨hvalue, hstate⟩ := run_of_unreported hrecipe havailable happly htext
                simp only [hvalue, hstate]
                rw [hlooked] at htried
                exact .inr ⟨hsilent htext fun h => (exists_failedText_iff (applyFrom_tellable happly)).2 h.result,
                  .inr ⟨applied, step, rest, hsplit, htried⟩⟩
            | ok words =>
                obtain ⟨undone, hundone, hback, hundoings⟩ := rollBack_tried (applied.reverse ++ [])
                  (applyFrom [] (stepsOf recipe) (isAvailable recipe w).state).state
                obtain ⟨hvalue, hstate⟩ := run_of_rolledBack hrecipe havailable happly ⟨words, htext⟩ hback
                rw [List.append_nil] at hundone
                simp only [hvalue, hstate]
                exact ⟨applied, step, rest, undone, hsplit, hundone, rfl, by rw [hundoings, htried, hlooked]⟩

end Crafting.Exchange
