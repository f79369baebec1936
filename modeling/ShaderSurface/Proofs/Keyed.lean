import Mathlib.Data.List.Basic
import Mathlib.Data.List.Induction
import ShaderSurface.Keyed

/-!
# Tables of pairs

The table of a list of pairs has each key where it comes first, with the value that comes last
(`Keyed.ofPairs_eq_entriesOf`). So the later of two lists decides what is found under a key.
-/

namespace ShaderSurface.Keyed

variable {α β : Type} [DecidableEq α] {key : α} {value : β}

/-- What pairs leave in a table: each key where it comes first, with the value that comes last. -/
def entriesOf (pairs : List (α × β)) : Keyed α β :=
  (pairs.map (·.1)).eraseDups.filterMap fun key => pairs.reverse.find? (·.1 = key)

theorem ofPairs_append_singleton (pairs : List (α × β)) (key : α) (value : β) :
    ofPairs (pairs ++ [(key, value)]) = put key value (ofPairs pairs) := by
  rw [ofPairs, List.foldl_append]
  rfl

theorem keys_ofPairs (pairs : List (α × β)) :
    (ofPairs pairs).keys = (pairs.map (·.1)).eraseDups ∧ (ofPairs pairs).keys.Nodup := by
  induction pairs using List.reverseRecOn with
  | nil => exact ⟨rfl, List.nodup_nil⟩
  | append_singleton pairs pair ih =>
    obtain ⟨key, value⟩ := pair
    obtain ⟨keys, distinct⟩ := ih
    have inPairs : key ∈ (ofPairs pairs).keys ↔ key ∈ pairs.map (·.1) := by
      rw [keys, List.mem_eraseDups]
    rw [ofPairs_append_singleton, keys_put, List.map_append, List.map_singleton,
      List.eraseDups_append, ← keys]
    by_cases present : key ∈ (ofPairs pairs).keys
    · rw [if_pos present]
      refine ⟨?_, distinct⟩
      simp [List.removeAll, inPairs.1 present]
    · rw [if_neg present]
      refine ⟨?_, List.nodup_append.2 ⟨distinct, List.pairwise_singleton _ key, ?_⟩⟩
      · simp [List.removeAll, mt inPairs.2 present, List.eraseDups_cons]
      · intro other mem last here same
        rw [same, List.mem_singleton.1 here] at mem
        exact present mem

theorem get?_ofPairs (pairs : List (α × β)) (key : α) :
    (ofPairs pairs).get? key = Keyed.get? pairs.reverse key := by
  induction pairs using List.reverseRecOn with
  | nil => rfl
  | append_singleton pairs pair ih =>
    obtain ⟨last, value⟩ := pair
    rw [ofPairs_append_singleton, get?_put, ih, List.reverse_append, List.reverse_singleton,
      List.singleton_append]
    by_cases same : last = key <;> simp [get?, same]

theorem get?_ofPairs_append (pairs later : List (α × β)) (key : α) :
    (ofPairs (pairs ++ later)).get? key =
      ((ofPairs later).get? key).or ((ofPairs pairs).get? key) := by
  rw [get?_ofPairs, get?_ofPairs, get?_ofPairs, List.reverse_append, get?, List.find?_append,
    Option.map_or]
  rfl

theorem find?_eq_map_get? (table : Keyed α β) (key : α) :
    table.find? (·.1 = key) = (table.get? key).map (key, ·) := by
  rw [get?, Option.map_map]
  cases found : table.find? (·.1 = key) with
  | none => rfl
  | some entry =>
    have same : entry.1 = key := by simpa using List.find?_some found
    rw [Option.map_some, ← same]
    rfl

theorem mem_of_get? {table : Keyed α β} (h : table.get? key = some value) :
    (key, value) ∈ table := by
  have found : table.find? (·.1 = key) = some (key, value) := by
    rw [find?_eq_map_get?, h, Option.map_some]
  exact List.mem_of_find?_eq_some found

theorem mem_of_get?_ofPairs {pairs : List (α × β)} (h : (ofPairs pairs).get? key = some value) :
    (key, value) ∈ pairs := by
  rw [get?_ofPairs] at h
  exact List.mem_reverse.1 (mem_of_get? h)

theorem isSome_get?_ofPairs {pairs : List (α × β)} (mem : (key, value) ∈ pairs) :
    ((ofPairs pairs).get? key).isSome := by
  rw [get?_ofPairs, get?, Option.isSome_map, List.find?_isSome]
  exact ⟨(key, value), List.mem_reverse.2 mem, decide_eq_true rfl⟩

/-- A table with keys of their own is made of what is found under its keys. -/
theorem eq_filterMap_find? {table : Keyed α β} (distinct : table.keys.Nodup) :
    table = table.keys.filterMap fun key => table.find? (·.1 = key) := by
  induction table with
  | nil => rfl
  | cons entry rest ih =>
    obtain ⟨key, value⟩ := entry
    have split : keys ((key, value) :: rest) = key :: keys rest := rfl
    rw [split, List.nodup_cons] at distinct
    have here : ((key, value) :: rest).find? (·.1 = key) = some (key, value) := by simp
    have others : (keys rest).filterMap (fun other => ((key, value) :: rest).find? (·.1 = other)) =
        (keys rest).filterMap fun other => rest.find? (·.1 = other) := by
      apply List.filterMap_congr
      intro other mem
      have differs : key ≠ other := fun same => distinct.1 (same ▸ mem)
      simp [differs]
    rw [split, List.filterMap_cons, here, others, ← ih distinct.2]

theorem ofPairs_eq_entriesOf (pairs : List (α × β)) : ofPairs pairs = entriesOf pairs := by
  obtain ⟨keys, distinct⟩ := keys_ofPairs pairs
  rw [eq_filterMap_find? distinct, keys, entriesOf]
  congr 1
  funext key
  rw [find?_eq_map_get?, find?_eq_map_get?, get?_ofPairs]

theorem mem_of_mem_ofPairs {pairs : List (α × β)} {entry : α × β} (mem : entry ∈ ofPairs pairs) :
    entry ∈ pairs := by
  rw [ofPairs_eq_entriesOf, entriesOf, List.mem_filterMap] at mem
  obtain ⟨key, -, found⟩ := mem
  exact List.mem_reverse.1 (List.mem_of_find?_eq_some found)

theorem get?_ofPairs_eq_iff (pairs : List (α × β)) :
    (∀ pair ∈ pairs, (ofPairs pairs).get? pair.1 = some pair.2) ↔
      ∀ pair ∈ pairs, ∀ other ∈ pairs, pair.1 = other.1 → pair.2 = other.2 := by
  constructor
  · intro kept pair mem other mem' same
    have value := kept pair mem
    rw [same, kept other mem'] at value
    exact (Option.some.inj value).symm
  · rintro agree ⟨key, value⟩ mem
    obtain ⟨last, found⟩ := Option.isSome_iff_exists.1 (isSome_get?_ofPairs mem)
    rw [found, agree _ mem _ (mem_of_get?_ofPairs found) rfl]

end ShaderSurface.Keyed
