/-!
# Tables in order of first insertion

A table keeps its keys in the order in which they first came. Putting a value under a key that is
there already changes the value and leaves the key where it stands.
-/

namespace ShaderSurface

/-- A table of values by key, in order of first insertion. -/
abbrev Keyed (α β : Type) := List (α × β)

namespace Keyed

variable {α β : Type} [DecidableEq α]

/-- Put a value under a key: in the place of its old value, or at the end. -/
def put (key : α) (value : β) : Keyed α β → Keyed α β
  | [] => [(key, value)]
  | (other, old) :: rest =>
    if other = key then (key, value) :: rest else (other, old) :: put key value rest

def ofPairs (pairs : List (α × β)) : Keyed α β :=
  pairs.foldl (fun table (key, value) => put key value table) []

def get? (table : Keyed α β) (key : α) : Option β :=
  (table.find? (·.1 = key)).map (·.2)

def keys (table : Keyed α β) : List α :=
  table.map (·.1)

theorem get?_put (key : α) (value : β) (table : Keyed α β) (sought : α) :
    (put key value table).get? sought = if key = sought then some value else table.get? sought := by
  induction table with
  | nil => by_cases h : key = sought <;> simp [put, get?, h]
  | cons entry rest ih =>
    obtain ⟨other, old⟩ := entry
    simp only [get?] at ih
    by_cases same : other = key
    · subst same
      by_cases h : other = sought <;> simp [put, get?, h]
    · by_cases h : other = sought
      · subst h
        simp [put, get?, same, Ne.symm same]
      · simp [put, get?, same, h, ih]

theorem keys_put (key : α) (value : β) (table : Keyed α β) :
    (put key value table).keys = if key ∈ table.keys then table.keys else table.keys ++ [key] := by
  induction table with
  | nil => simp [put, keys]
  | cons entry rest ih =>
    obtain ⟨other, old⟩ := entry
    simp only [keys] at ih
    by_cases same : other = key
    · simp [put, keys, same]
    · by_cases present : key ∈ rest.map (·.1) <;>
        simp [put, keys, same, Ne.symm same, ih, present]

theorem put_of_not_mem {key : α} {table : Keyed α β} (h : key ∉ table.keys) (value : β) :
    put key value table = table ++ [(key, value)] := by
  induction table with
  | nil => rfl
  | cons entry rest ih =>
    obtain ⟨other, old⟩ := entry
    simp only [keys, List.map_cons, List.mem_cons, not_or] at h ih
    simp [put, Ne.symm h.1, ih h.2]

theorem foldl_put_of_nodup {pairs : List (α × β)} {table : Keyed α β}
    (distinct : ((table ++ pairs).map (·.1)).Nodup) :
    pairs.foldl (fun table (key, value) => put key value table) table = table ++ pairs := by
  induction pairs generalizing table with
  | nil => simp
  | cons pair rest ih =>
    obtain ⟨key, value⟩ := pair
    have fresh : key ∉ table.keys := by
      rw [List.map_append, List.nodup_append] at distinct
      exact fun mem => distinct.2.2 key mem key List.mem_cons_self rfl
    simp only [List.foldl_cons, put_of_not_mem fresh]
    rw [ih (by simpa using distinct)]
    simp

theorem ofPairs_of_nodup {pairs : List (α × β)} (h : (pairs.map (·.1)).Nodup) :
    ofPairs pairs = pairs := by
  have start : ((([] : Keyed α β) ++ pairs).map (·.1)).Nodup := by simpa using h
  exact foldl_put_of_nodup start

end Keyed

end ShaderSurface
