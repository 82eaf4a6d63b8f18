/-!
# Ordered entries

Values under distinct keys in the order in which the keys were first written. Writing a key again
replaces its value and keeps its place: the keys of `put` are the old keys, with a new key at the
end (`keys_put`), so distinct keys stay distinct (`nodup_keys_put`).
-/
namespace SchemaBeans

/-- Keys with their values, in the order of the first writing. -/
abbrev Entries (α : Type) := List (String × α)

namespace Entries

variable {α : Type}

/-- The keys in order. -/
def keys (entries : Entries α) : List String := entries.map Prod.fst

/-- The value under a key. -/
def get? (entries : Entries α) (key : String) : Option α := List.lookup key entries

/-- Write a value under a key. -/
def put (key : String) (value : α) : Entries α → Entries α
  | [] => [(key, value)]
  | entry :: rest =>
    if entry.1 = key then (entry.1, value) :: rest else entry :: put key value rest

/-- Write pairs one after the other. -/
def ofPairs (pairs : List (String × α)) : Entries α :=
  pairs.foldl (fun entries pair => put pair.1 pair.2 entries) []

/-- The written key has the written value. -/
@[simp] theorem get?_put_self (key : String) (value : α) (entries : Entries α) :
    (put key value entries).get? key = some value := by
  induction entries with
  | nil => simp [put, get?]
  | cons entry rest ih =>
    obtain ⟨first, old⟩ := entry
    simp only [get?] at ih
    by_cases same : first = key
    · simp [put, get?, same]
    · have apart : (key == first) = false := by simpa using fun h => same h.symm
      simp only [put, get?, same, if_false, List.lookup_cons, apart, ih]

/-- The other keys keep their values. -/
theorem get?_put_of_ne {key other : String} (distinct : other ≠ key) (value : α)
    (entries : Entries α) : (put key value entries).get? other = entries.get? other := by
  have apart : (other == key) = false := by simpa using distinct
  induction entries with
  | nil => simp [put, get?, List.lookup_cons, apart]
  | cons entry rest ih =>
    obtain ⟨first, old⟩ := entry
    simp only [get?] at ih
    by_cases same : first = key
    · simp [put, get?, List.lookup_cons, same, apart]
    · simp only [put, get?, same, if_false, List.lookup_cons, ih]

/-- A new key goes to the end; a key that is there keeps its place. -/
theorem keys_put (key : String) (value : α) (entries : Entries α) :
    (put key value entries).keys =
      if key ∈ entries.keys then entries.keys else entries.keys ++ [key] := by
  induction entries with
  | nil => simp [put, keys]
  | cons entry rest ih =>
    by_cases same : entry.1 = key
    · simp [put, keys, same]
    · have other : ¬key = entry.1 := fun h => same h.symm
      simp only [keys] at ih
      simp only [put, same, if_false, keys, List.map_cons, List.mem_cons, other, false_or, ih]
      by_cases known : key ∈ rest.map Prod.fst <;> simp [known]

/-- Distinct keys stay distinct. -/
theorem nodup_keys_put {entries : Entries α} (distinct : entries.keys.Nodup) (key : String)
    (value : α) : (put key value entries).keys.Nodup := by
  rw [keys_put]
  split
  · exact distinct
  · rename_i fresh
    simp only [List.nodup_append, distinct, true_and]
    exact ⟨by simp, fun a member b single => by
      rintro rfl
      exact fresh (List.mem_singleton.mp single ▸ member)⟩

end Entries

end SchemaBeans
