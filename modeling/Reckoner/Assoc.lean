/-!
# Association lists

Names with their values, in order. A name that is given again keeps its place and gets the new
value, so that every name stands there once and the order is that of first mention.
-/
namespace Reckoner.Assoc

variable {κ α : Type} [DecidableEq κ]

/-- Gives a name its value: in its place if it has one, and at the end otherwise. -/
def insert (key : κ) (value : α) : List (κ × α) → List (κ × α)
  | [] => [(key, value)]
  | entry :: rest =>
    if entry.1 = key then (key, value) :: rest else entry :: insert key value rest

/-- The entries in order of first mention, each with the value that was given last. -/
def ofList (entries : List (κ × α)) : List (κ × α) :=
  entries.foldl (fun table entry => insert entry.1 entry.2 table) []

/-- The entries without those of one name. -/
def erase (key : κ) (entries : List (κ × α)) : List (κ × α) :=
  entries.filter (·.1 ≠ key)

/-- The value of a name. -/
def get? (key : κ) : List (κ × α) → Option α
  | [] => none
  | entry :: rest => if entry.1 = key then some entry.2 else get? key rest

theorem get?_insert (key other : κ) (value : α) (entries : List (κ × α)) :
    get? other (insert key value entries) =
      if key = other then some value else get? other entries := by
  induction entries with
  | nil => simp [insert, get?]
  | cons entry rest ih =>
    by_cases same : entry.1 = key <;> by_cases here : key = other <;> simp_all [insert, get?]

theorem mem_of_get? {key : κ} {value : α} {entries : List (κ × α)}
    (h : get? key entries = some value) : (key, value) ∈ entries := by
  induction entries with
  | nil => simp [get?] at h
  | cons entry rest ih =>
    by_cases same : entry.1 = key
    · rw [get?, if_pos same, Option.some.injEq] at h
      exact List.mem_cons.mpr (.inl (Prod.ext same.symm h.symm))
    · rw [get?, if_neg same] at h
      exact List.mem_cons.mpr (.inr (ih h))

end Reckoner.Assoc
