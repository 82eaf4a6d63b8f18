import Mathlib.Data.List.Induction
import SchemaBeans.Entries

/-!
# Entries by their keys

What entries hold is said by the value of each key. `Hold` says it for entries that are written one
after the other: under each of some keys they have the value that belongs to it, and nothing under
other keys. Entries that are written pair by pair have their keys in the order of the first writing
(`keys_ofPairs`), each with the value of the last (`get?_ofPairs`).
-/
namespace SchemaBeans.Entries

variable {α : Type}

/-- Writing one value twice is writing it once. -/
theorem put_idem (key : String) (value : α) (entries : Entries α) :
    put key value (put key value entries) = put key value entries := by
  induction entries with
  | nil => simp [put]
  | cons entry rest ih =>
    by_cases same : entry.1 = key
    · simp [put, same]
    · simp [put, same, ih]

/-- A key has a value exactly if it is among the keys. -/
theorem isSome_get?_iff {entries : Entries α} {key : String} :
    (entries.get? key).isSome = true ↔ key ∈ entries.keys := by
  rw [get?, List.lookup_isSome_iff, keys, List.mem_map]
  exact exists_congr fun entry => and_congr_right fun _ => by rw [beq_iff_eq, eq_comm]

/-- The value of each key after one was written. -/
theorem get?_put (key other : String) (value : α) (entries : Entries α) :
    (put key value entries).get? other =
      if other = key then some value else entries.get? other := by
  by_cases same : other = key
  · rw [if_pos same, same, get?_put_self]
  · rw [if_neg same, get?_put_of_ne same]

/-- Entries that are chosen by their keys have the values of the chosen keys. -/
theorem get?_filterMap (chosen : String → Option α) (keys : List String) (key : String) :
    get? (keys.filterMap fun known => (chosen known).map (known, ·)) key =
      if key ∈ keys then chosen key else none := by
  induction keys with
  | nil => rfl
  | cons first rest ih =>
    unfold get? at ih ⊢
    have apart (other : key ≠ first) : (key == first) = false := beq_eq_false_iff_ne.mpr other
    cases found : chosen first with
    | none =>
      rw [List.filterMap_cons, found, Option.map_none]
      simp only [ih, List.mem_cons]
      by_cases same : key = first
      · simp only [same, found, ite_self]
      · simp only [same, false_or]
    | some value =>
      rw [List.filterMap_cons, found, Option.map_some, List.lookup_cons]
      by_cases same : key = first
      · simp only [same, beq_self_eq_true, List.mem_cons, true_or, if_true, found]
      · simp only [apart same, ih, List.mem_cons, same, false_or]

/-- Entries that are chosen by their keys stand under the keys that have one, in their order. -/
theorem keys_filterMap (chosen : String → Option α) (known : List String) :
    keys (known.filterMap fun key => (chosen key).map (key, ·)) =
      known.filter fun key => (chosen key).isSome := by
  induction known with
  | nil => rfl
  | cons first rest ih =>
    unfold keys at ih ⊢
    cases found : chosen first <;> simp [found, ih]

/-- Values that are changed under their keys are found changed. -/
theorem get?_map_value {β : Type} (change : String → α → β) (entries : Entries α) (key : String) :
    get? (entries.map fun entry => (entry.1, change entry.1 entry.2)) key =
      (entries.get? key).map (change key) := by
  induction entries with
  | nil => rfl
  | cons entry rest ih =>
    obtain ⟨first, value⟩ := entry
    unfold get? at ih ⊢
    by_cases same : key = first
    · simp [same]
    · have apart : (key == first) = false := beq_eq_false_iff_ne.mpr same
      simp only [List.map_cons, List.lookup_cons, apart, ih]

/-- A key is found as before if entries are dropped whose values are rejected, unless its own is. -/
theorem get?_filter_value {rejects : α → Bool} {entries : Entries α} {key : String}
    (spared : (entries.get? key).any rejects = false) :
    get? (entries.filter fun entry => !rejects entry.2) key = entries.get? key := by
  induction entries with
  | nil => rfl
  | cons entry rest ih =>
    obtain ⟨first, value⟩ := entry
    unfold get? at ih spared ⊢
    by_cases same : key = first
    · have stays : rejects value = false := by simpa [same] using spared
      simp [same, stays]
    · have apart : (key == first) = false := beq_eq_false_iff_ne.mpr same
      rw [List.lookup_cons, apart] at spared ⊢
      rw [List.filter_cons]
      split
      · rw [List.lookup_cons, apart, ih spared]
      · exact ih spared

/-- The value of a key that is there once is the value that stands there. -/
theorem get?_append_cons {before later : Entries α} {entry : String × α}
    (distinct : (keys (before ++ entry :: later)).Nodup) :
    get? (before ++ entry :: later) entry.1 = some entry.2 := by
  rw [get?, List.lookup_eq_some_iff]
  refine ⟨before, later, rfl, fun earlier member => ?_⟩
  rw [keys, List.map_append, List.nodup_append] at distinct
  have apart := distinct.2.2 earlier.1 (List.mem_map_of_mem member) entry.1 (by simp)
  simpa using apart.symm

/-- Among entries with distinct keys a key has the value that it stands with. -/
theorem get?_eq_some_iff {entries : Entries α} (distinct : entries.keys.Nodup) {key : String}
    {value : α} : entries.get? key = some value ↔ (key, value) ∈ entries := by
  constructor
  · intro found
    obtain ⟨before, later, rfl, _⟩ := List.lookup_eq_some_iff.mp found
    exact List.mem_append_right before List.mem_cons_self
  · intro member
    obtain ⟨before, later, rfl⟩ := List.append_of_mem member
    exact get?_append_cons distinct

/-- Entries with distinct keys have their values in any order. -/
theorem get?_perm {first second : Entries α} (order : first.Perm second)
    (distinct : first.keys.Nodup) (key : String) : first.get? key = second.get? key := by
  have distinctOther : second.keys.Nodup := (order.map Prod.fst).nodup_iff.mp distinct
  refine Option.ext fun value => ?_
  rw [get?_eq_some_iff distinct, get?_eq_some_iff distinctOther, order.mem_iff]

/-- Entries hold the values that some keys have, and nothing under other keys. -/
def Hold (entries : Entries α) (value? : String → Option α) (keys : List String) : Prop :=
  ∀ key, entries.get? key = if key ∈ keys then value? key else none

/-- The entry of one of the keys is its value. -/
theorem Hold.get?_eq {entries : Entries α} {value? : String → Option α} {keys : List String}
    (known : Hold entries value? keys) {key : String} (member : key ∈ keys) :
    entries.get? key = value? key := by
  rw [known key, if_pos member]

/-- There are entries under the keys that have a value. -/
theorem Hold.mem_keys_iff {entries : Entries α} {value? : String → Option α} {keys : List String}
    (known : Hold entries value? keys) {key : String} :
    key ∈ entries.keys ↔ key ∈ keys ∧ (value? key).isSome = true := by
  rw [← isSome_get?_iff, known key]
  split
  · simp [*]
  · simp [*]

/-- No entries hold the values of no keys. -/
theorem hold_nil (value? : String → Option α) : Hold [] value? [] := by
  intro key
  rw [if_neg (by simp), get?, List.lookup_nil]

/-- Writing the value of one more key holds it too. -/
theorem Hold.put {entries : Entries α} {value? : String → Option α} {keys : List String}
    (known : Hold entries value? keys) {key : String} {value : α}
    (written : value? key = some value) : Hold (entries.put key value) value? (keys ++ [key]) := by
  intro other
  rw [get?_put, known other]
  by_cases same : other = key
  · simp [same, written]
  · simp [same]

/-- One more key without a value changes nothing. -/
theorem Hold.skip {entries : Entries α} {value? : String → Option α} {keys : List String}
    (known : Hold entries value? keys) {key : String} (missing : value? key = none) :
    Hold entries value? (keys ++ [key]) := by
  intro other
  rw [known other]
  by_cases same : other = key
  · simp [same, missing]
  · simp [same]

/-- Pairs that come after others are written to what the others left. -/
theorem ofPairs_append (first second : List (String × α)) :
    ofPairs (first ++ second) =
      second.foldl (fun entries pair => put pair.1 pair.2 entries) (ofPairs first) :=
  List.foldl_append

/-- An entry after a write is the written one or was there. -/
theorem mem_of_mem_put {entry : String × α} {key : String} {value : α} {entries : Entries α}
    (member : entry ∈ put key value entries) : entry = (key, value) ∨ entry ∈ entries := by
  induction entries with
  | nil => exact .inl (List.mem_singleton.mp member)
  | cons first rest ih =>
    unfold put at member
    split at member
    · rename_i same
      rw [same] at member
      exact (List.mem_cons.mp member).imp_right (List.mem_cons_of_mem first)
    · rcases List.mem_cons.mp member with rfl | later
      · exact .inr List.mem_cons_self
      · exact (ih later).imp_right (List.mem_cons_of_mem first)

/-- An entry that pairs leave is one of them. -/
theorem mem_of_mem_ofPairs {entry : String × α} {pairs : List (String × α)}
    (member : entry ∈ ofPairs pairs) : entry ∈ pairs := by
  induction pairs using List.reverseRecOn with
  | nil => exact member
  | append_singleton pairs pair ih =>
    rw [ofPairs_append, List.foldl_cons, List.foldl_nil] at member
    rcases mem_of_mem_put member with rfl | earlier
    · exact List.mem_append_right pairs List.mem_cons_self
    · exact List.mem_append_left [pair] (ih earlier)

/-- Keys stand in the order in which they are first written. -/
theorem keys_ofPairs (pairs : List (String × α)) :
    (ofPairs pairs).keys = (pairs.map Prod.fst).eraseDups := by
  induction pairs using List.reverseRecOn with
  | nil => rfl
  | append_singleton pairs pair ih =>
    rw [ofPairs_append, List.foldl_cons, List.foldl_nil, keys_put, ih, List.map_append,
      List.eraseDups_append, List.map_singleton]
    by_cases known : pair.1 ∈ pairs.map Prod.fst
    · have again : pair.1 ∈ (pairs.map Prod.fst).eraseDups := List.mem_eraseDups.mpr known
      have nothing : [pair.1].removeAll (pairs.map Prod.fst) = [] := by
        simpa [List.removeAll] using known
      rw [if_pos again, nothing, List.eraseDups_nil, List.append_nil]
    · have fresh : pair.1 ∉ (pairs.map Prod.fst).eraseDups := mt List.mem_eraseDups.mp known
      have alone : [pair.1].removeAll (pairs.map Prod.fst) = [pair.1] := by
        simpa [List.removeAll] using known
      rw [if_neg fresh, alone]
      rfl

/-- A key has the value that is last written under it. -/
theorem get?_ofPairs (pairs : List (String × α)) (key : String) :
    (ofPairs pairs).get? key = pairs.reverse.lookup key := by
  induction pairs using List.reverseRecOn with
  | nil => rfl
  | append_singleton pairs pair ih =>
    rw [ofPairs_append, List.foldl_cons, List.foldl_nil, get?_put, ih, List.reverse_append,
      List.reverse_singleton, List.singleton_append, List.lookup_cons]
    by_cases same : key = pair.1
    · simp [same]
    · simp [same, beq_eq_false_iff_ne.mpr same]

/-- Distinct keys stay distinct when pairs are written. -/
theorem nodup_keys_foldl_put {entries : Entries α} (distinct : entries.keys.Nodup)
    (pairs : List (String × α)) :
    (keys (pairs.foldl (fun entries pair => put pair.1 pair.2 entries) entries)).Nodup := by
  induction pairs generalizing entries with
  | nil => exact distinct
  | cons pair rest ih => exact ih (nodup_keys_put distinct pair.1 pair.2)

/-- The first occurrences of keys are distinct. -/
theorem nodup_eraseDups (known : List String) : known.eraseDups.Nodup := by
  have same : (known.map fun key => (key, ())).map Prod.fst = known := by
    rw [List.map_map]
    exact List.map_id known
  have written := keys_ofPairs (known.map fun key => (key, ()))
  rw [same] at written
  rw [← written]
  have empty : keys ([] : Entries Unit) |>.Nodup := List.nodup_nil
  exact nodup_keys_foldl_put empty _

/-- A key that is not there is written at the end. -/
theorem put_of_not_mem {entries : Entries α} {key : String} (fresh : key ∉ entries.keys)
    (value : α) : put key value entries = entries ++ [(key, value)] := by
  induction entries with
  | nil => rfl
  | cons entry rest ih =>
    obtain ⟨apart, later⟩ := not_or.mp (mt List.mem_cons.mpr fresh)
    rw [put, if_neg (Ne.symm apart), ih later, List.cons_append]

/-- Pairs with distinct keys are written as they stand. -/
theorem ofPairs_of_nodup {pairs : List (String × α)} (distinct : (keys pairs).Nodup) :
    ofPairs pairs = pairs := by
  induction pairs using List.reverseRecOn with
  | nil => rfl
  | append_singleton pairs pair ih =>
    rw [keys, List.map_append, List.nodup_append] at distinct
    have fresh : pair.1 ∉ keys pairs := fun known =>
      distinct.2.2 pair.1 known pair.1 (by simp) rfl
    rw [ofPairs_append, ih distinct.1]
    exact put_of_not_mem fresh pair.2

end SchemaBeans.Entries
