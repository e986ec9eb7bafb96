/-!
# Association lists

Values under keys, in the order in which the keys first came. What was put under a key is what is found there, and
putting or removing touches one key only.
-/

namespace Crafting.Assoc

variable {κ α : Type} [DecidableEq κ]

def get? (key : κ) : List (κ × α) → Option α
  | [] => none
  | entry :: rest => if entry.1 = key then some entry.2 else get? key rest

/-- Puts a value under a key. A key that is there keeps its place, and a new one goes to the end. -/
def put (key : κ) (value : α) : List (κ × α) → List (κ × α)
  | [] => [(key, value)]
  | entry :: rest => if entry.1 = key then (key, value) :: rest else entry :: put key value rest

def remove (key : κ) (entries : List (κ × α)) : List (κ × α) :=
  entries.filter fun entry => entry.1 ≠ key

@[simp] theorem get?_put_self (key : κ) (value : α) (entries : List (κ × α)) :
    get? key (put key value entries) = some value := by
  induction entries with
  | nil => simp [put, get?]
  | cons entry rest ih => by_cases h : entry.1 = key <;> simp [put, get?, h, ih]

theorem get?_put_of_ne {key other : κ} (h : other ≠ key) (value : α) (entries : List (κ × α)) :
    get? other (put key value entries) = get? other entries := by
  induction entries with
  | nil => simp [put, get?, h.symm]
  | cons entry rest ih =>
      by_cases hk : entry.1 = key
      · simp [put, get?, hk, h.symm]
      · by_cases ho : entry.1 = other
        · simp [put, get?, ho, h]
        · simp [put, get?, hk, ho, ih]

@[simp] theorem get?_remove_self (key : κ) (entries : List (κ × α)) : get? key (remove key entries) = none := by
  induction entries with
  | nil => rfl
  | cons entry rest ih =>
      by_cases h : entry.1 = key
      · simpa [remove, h] using ih
      · simpa [remove, get?, h] using ih

theorem get?_remove_of_ne {key other : κ} (h : other ≠ key) (entries : List (κ × α)) :
    get? other (remove key entries) = get? other entries := by
  induction entries with
  | nil => rfl
  | cons entry rest ih =>
      by_cases hk : entry.1 = key
      · simpa [remove, get?, hk, h.symm] using ih
      · by_cases ho : entry.1 = other
        · simp [remove, get?, ho, h]
        · simpa [remove, get?, hk, ho] using ih

end Crafting.Assoc
