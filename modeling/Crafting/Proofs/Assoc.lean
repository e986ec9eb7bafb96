import Crafting.Assoc

/-!
# Keys of association lists

Putting a value keeps the keys distinct, and with distinct keys an entry is in the list just when it is found. What is
found after putting or removing is the value put, or was found before; and so it is with what is in the list.
-/

namespace Crafting.Assoc

variable {κ α : Type} [DecidableEq κ]

def Distinct (entries : List (κ × α)) : Prop :=
  (entries.map Prod.fst).Nodup

theorem keys_put (key : κ) (value : α) (entries : List (κ × α)) :
    (put key value entries).map Prod.fst =
      if key ∈ entries.map Prod.fst then entries.map Prod.fst else entries.map Prod.fst ++ [key] := by
  induction entries with
  | nil => rfl
  | cons entry rest ih =>
      by_cases h : entry.1 = key
      · simp [put, h]
      · have hne : key ≠ entry.1 := fun e => h e.symm
        simp only [put, h, if_false, List.map_cons, ih, List.mem_cons, hne, false_or]
        split <;> rfl

theorem distinct_put (key : κ) (value : α) {entries : List (κ × α)} (h : Distinct entries) :
    Distinct (put key value entries) := by
  unfold Distinct at *
  rw [keys_put]
  split
  · exact h
  · rename_i hnew
    exact List.nodup_append.2 ⟨h, by simp, by
      rintro a ha b hb rfl
      exact hnew (List.mem_singleton.1 hb ▸ ha)⟩

theorem distinct_remove (key : κ) {entries : List (κ × α)} (h : Distinct entries) : Distinct (remove key entries) :=
  h.sublist (List.filter_sublist.map Prod.fst)

theorem get?_map {β : Type} (f : α → β) (key : κ) (entries : List (κ × α)) :
    get? key (entries.map fun entry => (entry.1, f entry.2)) = (get? key entries).map f := by
  induction entries with
  | nil => rfl
  | cons entry rest ih => by_cases h : entry.1 = key <;> simp [get?, h, ih]

theorem mem_of_get?_eq_some {key : κ} {value : α} {entries : List (κ × α)} (h : get? key entries = some value) :
    (key, value) ∈ entries := by
  induction entries with
  | nil => cases h
  | cons entry rest ih =>
      by_cases hkey : entry.1 = key
      · rw [get?, if_pos hkey] at h
        cases h
        exact hkey ▸ List.mem_cons_self
      · rw [get?, if_neg hkey] at h
        exact List.mem_cons_of_mem _ (ih h)

theorem eq_or_get?_of_put {key other : κ} {value found : α} {entries : List (κ × α)}
    (h : get? other (put key value entries) = some found) :
    other = key ∧ found = value ∨ get? other entries = some found := by
  by_cases hother : other = key
  · subst hother
    rw [get?_put_self, Option.some.injEq] at h
    exact .inl ⟨rfl, h.symm⟩
  · rw [get?_put_of_ne hother] at h
    exact .inr h

theorem get?_of_remove {key other : κ} {found : α} {entries : List (κ × α)}
    (h : get? other (remove key entries) = some found) : get? other entries = some found := by
  by_cases hother : other = key
  · subst hother
    rw [get?_remove_self] at h
    cases h
  · rwa [get?_remove_of_ne hother] at h

theorem get?_removeAll (keys : List κ) (other : κ) (entries : List (κ × α)) :
    get? other (keys.foldl (fun entries key => remove key entries) entries) =
      if other ∈ keys then none else get? other entries := by
  induction keys generalizing entries with
  | nil => rfl
  | cons key rest ih =>
      rw [List.foldl_cons, ih]
      by_cases hother : other = key
      · subst hother
        rw [get?_remove_self, ite_self, if_pos List.mem_cons_self]
      · simp only [get?_remove_of_ne hother, List.mem_cons, hother, false_or]

theorem get?_putAll (keys : List κ) (value : α) (other : κ) (entries : List (κ × α)) :
    get? other (keys.foldl (fun entries key => put key value entries) entries) =
      if other ∈ keys then some value else get? other entries := by
  induction keys generalizing entries with
  | nil => rfl
  | cons key rest ih =>
      rw [List.foldl_cons, ih]
      by_cases hother : other = key
      · subst hother
        rw [get?_put_self, ite_self, if_pos List.mem_cons_self]
      · simp only [get?_put_of_ne hother, List.mem_cons, hother, false_or]

theorem forall_mem_put {holds : κ × α → Prop} {key : κ} {value : α} {entries : List (κ × α)}
    (h : ∀ entry ∈ entries, holds entry) (hnew : holds (key, value)) :
    ∀ entry ∈ put key value entries, holds entry := by
  induction entries with
  | nil => exact List.forall_mem_singleton.2 hnew
  | cons first rest ih =>
      obtain ⟨hfirst, hrest⟩ := List.forall_mem_cons.1 h
      rw [put]
      split
      · exact List.forall_mem_cons.2 ⟨hnew, hrest⟩
      · exact List.forall_mem_cons.2 ⟨hfirst, ih hrest⟩

theorem forall_mem_remove {holds : κ × α → Prop} {entries : List (κ × α)} (h : ∀ entry ∈ entries, holds entry)
    (key : κ) : ∀ entry ∈ remove key entries, holds entry :=
  fun entry hentry => h entry (List.mem_filter.1 hentry).1

/-- With distinct keys an entry of the list is what is found under its key. -/
theorem mem_iff_get? {entries : List (κ × α)} (hdistinct : Distinct entries) {key : κ} {value : α} :
    (key, value) ∈ entries ↔ get? key entries = some value := by
  refine ⟨fun h => ?_, mem_of_get?_eq_some⟩
  induction entries with
  | nil => cases h
  | cons entry rest ih =>
      obtain ⟨hfresh, hrest⟩ := List.nodup_cons.1 hdistinct
      rcases List.mem_cons.1 h with rfl | hmem
      · exact if_pos rfl
      · have hkey : entry.1 ≠ key := fun e => hfresh (e ▸ List.mem_map_of_mem hmem)
        rw [get?, if_neg hkey]
        exact ih hrest hmem

end Crafting.Assoc
