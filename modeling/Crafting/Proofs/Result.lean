/-!
# Results that may be errors

When a computation in several steps ends well or with a given error, read off its steps.
-/

namespace Crafting.Result

variable {ε ε' α β γ : Type}

theorem bind_eq_ok_iff {result : Except ε α} {next : α → Except ε β} {b : β} :
    (result >>= next) = .ok b ↔ ∃ a, result = .ok a ∧ next a = .ok b := by
  cases result with
  | error failure => simp [bind, Except.bind]
  | ok a => simp [bind, Except.bind]

theorem map_bind (result : Except ε α) (next : α → Except ε β) (f : β → γ) :
    (result >>= next).map f = result >>= fun a => (next a).map f := by
  cases result <;> rfl

theorem map_eq_ok_iff {result : Except ε α} {f : α → β} {b : β} :
    result.map f = .ok b ↔ ∃ a, result = .ok a ∧ f a = b := by
  cases result with
  | error failure => simp [Except.map]
  | ok a => simp [Except.map]

theorem map_eq_error_iff {result : Except ε α} {f : α → β} {failure : ε} :
    result.map f = .error failure ↔ result = .error failure := by
  cases result with
  | error other => simp [Except.map]
  | ok a => simp [Except.map]

theorem exists_map_iff {result : Except ε α} {f : α → β} : (∃ b, result.map f = .ok b) ↔ ∃ a, result = .ok a := by
  cases result with
  | error failure => exact iff_of_false (fun ⟨_, h⟩ => nomatch h) fun ⟨_, h⟩ => nomatch h
  | ok a => exact iff_of_true ⟨f a, rfl⟩ ⟨a, rfl⟩

theorem mapError_eq_ok_iff {result : Except ε α} {f : ε → ε'} {a : α} :
    result.mapError f = .ok a ↔ result = .ok a := by
  cases result with
  | error failure => exact ⟨(fun h => nomatch h), fun h => nomatch h⟩
  | ok b => exact ⟨fun h => congrArg _ (Except.ok.inj h), fun h => congrArg _ (Except.ok.inj h)⟩

theorem bind_eq_error_iff {result : Except ε α} {next : α → Except ε β} {failure : ε} :
    (result >>= next) = .error failure ↔ result = .error failure ∨ ∃ a, result = .ok a ∧ next a = .error failure := by
  cases result with
  | error other => simp [bind, Except.bind]
  | ok a => simp [bind, Except.bind]

theorem mapError_eq_error_iff {result : Except ε α} {f : ε → ε'} {failure : ε'} :
    result.mapError f = .error failure ↔ ∃ cause, result = .error cause ∧ f cause = failure := by
  cases result with
  | error cause =>
      constructor
      · exact fun h => ⟨cause, rfl, Except.error.inj h⟩
      · rintro ⟨_, ⟨⟩, hcause⟩
        exact congrArg _ hcause
  | ok a =>
      constructor
      · exact fun h => nomatch h
      · rintro ⟨_, ⟨⟩, -⟩

/-- A computation with one error alone fails of it just when it does not end well. -/
theorem eq_error_iff_of_only {result : Except ε α} {only failure : ε}
    (h : ∀ failure, result = .error failure → failure = only) :
    result = .error failure ↔ failure = only ∧ ¬∃ a, result = .ok a := by
  cases result with
  | ok a => exact iff_of_false (fun h => nomatch h) fun h => h.2 ⟨a, rfl⟩
  | error other =>
      rw [h other rfl]
      exact ⟨fun h => ⟨(Except.error.inj h).symm, fun ⟨_, h⟩ => nomatch h⟩, fun h => congrArg Except.error h.1.symm⟩

theorem pure_eq_ok_iff {a b : α} : (pure a : Except ε α) = .ok b ↔ a = b := by
  simp [pure, Except.pure]

/-- Steps over a list end well just when each of them does. -/
theorem exists_mapM_iff {step : α → Except ε β} {items : List α} :
    (∃ results, items.mapM step = .ok results) ↔ ∀ a ∈ items, ∃ b, step a = .ok b := by
  induction items with
  | nil => exact iff_of_true ⟨[], rfl⟩ fun _ hmem => nomatch hmem
  | cons a rest ih =>
      rw [List.mapM_cons]
      simp only [bind_eq_ok_iff, pure_eq_ok_iff]
      constructor
      · rintro ⟨_, b, hb, results, hresults, -⟩ other hother
        rcases List.mem_cons.1 hother with rfl | hother
        · exact ⟨b, hb⟩
        · exact ih.1 ⟨results, hresults⟩ other hother
      · intro h
        obtain ⟨b, hb⟩ := h a List.mem_cons_self
        obtain ⟨results, hresults⟩ := ih.2 fun other hother => h other (List.mem_cons_of_mem _ hother)
        exact ⟨_, b, hb, results, hresults, rfl⟩

theorem mapM_eq_ok {step : α → Except ε β} {f : α → β} {items : List α} (h : ∀ a ∈ items, step a = .ok (f a)) :
    items.mapM step = .ok (items.map f) := by
  induction items with
  | nil => rfl
  | cons a rest ih =>
      rw [List.mapM_cons, h a List.mem_cons_self, ih fun other hother => h other (List.mem_cons_of_mem _ hother)]
      rfl

end Crafting.Result
