/-!
# Keyed lists

Ordered maps kept as lists of pairs. A key that is written twice keeps the place of its first
writing and the value of its last.

* `Keyed.get?`: the value under a key;
* `Keyed.put`: writes a value under a key;
* `Keyed.ofPairs`: the map that a sequence of writings leaves;
* `Keyed.get?_put`, `Keyed.keys_put`: what a writing does to the values and to the keys;
* `Keyed.ofPairs_of_nodup`: nothing is lost when no key is written twice;
* `Keyed.get?_ofPairs`, `Keyed.keys_ofPairs`: the last value under each key, at its first place.
-/

namespace OrmMapping

/-- Pairs of key and value in order. -/
abbrev Keyed (α : Type) := List (String × α)

namespace Keyed

variable {α : Type}

/-- The value under `key`. -/
def get? (entries : Keyed α) (key : String) : Option α :=
  entries.lookup key

/-- Whether `key` has a value. -/
def has (entries : Keyed α) (key : String) : Bool :=
  (entries.get? key).isSome

/-- The keys in order. -/
def keys (entries : Keyed α) : List String :=
  entries.map (·.1)

/-- Writes `value` under `key`: in the key's place if it has one, else at the end. -/
def put : Keyed α → String → α → Keyed α
  | [], key, value => [(key, value)]
  | (k, v) :: rest, key, value =>
    if k == key then (k, value) :: rest else (k, v) :: put rest key value

/-- Writes the pairs in turn. -/
def putAll (entries : Keyed α) (pairs : List (String × α)) : Keyed α :=
  pairs.foldl (fun acc pair => acc.put pair.1 pair.2) entries

/-- The map that writing the pairs in turn leaves. -/
def ofPairs (pairs : List (String × α)) : Keyed α :=
  putAll [] pairs

/-! ## Laws -/

@[simp] theorem get?_nil (key : String) : get? ([] : Keyed α) key = none := rfl

/-- The first pair counts before the rest. -/
theorem get?_cons (k : String) (v : α) (rest : Keyed α) (key : String) :
    get? ((k, v) :: rest) key = if key = k then some v else get? rest key := by
  by_cases h : key = k
  · simp [get?, h]
  · simp [get?, List.lookup_cons, beq_eq_false_iff_ne.mpr h, h]

/-- Writing under `key` changes the value under `key` and no other. -/
theorem get?_put (entries : Keyed α) (key : String) (value : α) (other : String) :
    (put entries key value).get? other =
      if other = key then some value else entries.get? other := by
  induction entries with
  | nil => simp [put, get?_cons]
  | cons entry rest ih =>
    obtain ⟨k, v⟩ := entry
    by_cases hk : k = key
    · subst hk
      by_cases ho : other = k <;> simp [put, get?_cons, ho]
    · by_cases ho : other = k
      · subst ho
        simp [put, get?_cons, hk]
      · simp [put, get?_cons, hk, ho, ih]

/-- Writing under `key` adds it at the end, or leaves the keys as they are when it is there. -/
theorem keys_put (entries : Keyed α) (key : String) (value : α) :
    (put entries key value).keys =
      if key ∈ entries.keys then entries.keys else entries.keys ++ [key] := by
  induction entries with
  | nil => simp [put, keys]
  | cons entry rest ih =>
    obtain ⟨k, v⟩ := entry
    by_cases hk : k = key
    · simp [put, keys, hk]
    · have hk' : ¬ key = k := fun h => hk h.symm
      simp only [keys] at ih
      by_cases hm : key ∈ rest.map (·.1)
      · simp [put, keys, hk, hk', ih, hm]
      · simp [put, keys, hk, hk', ih, hm]

/-- A key that is not there (`h`) is written at the end. -/
theorem put_of_not_mem {entries : Keyed α} {key : String} (value : α) (h : key ∉ entries.keys) :
    put entries key value = entries ++ [(key, value)] := by
  induction entries with
  | nil => rfl
  | cons entry rest ih =>
    obtain ⟨k, v⟩ := entry
    have hk : ¬ k = key := fun heq => h (heq ▸ List.mem_cons_self)
    have hrest : key ∉ keys rest := fun hmem => h (List.mem_cons_of_mem k hmem)
    simp [put, hk, ih hrest]

/-- When no key is written twice, and none is there before, the pairs come after the entries as they
are. -/
theorem putAll_of_nodup {entries : Keyed α} {pairs : List (String × α)}
    (h : (keys (entries ++ pairs)).Nodup) : putAll entries pairs = entries ++ pairs := by
  induction pairs generalizing entries with
  | nil => simp [putAll]
  | cons pair rest ih =>
    obtain ⟨k, v⟩ := pair
    have hnew : k ∉ keys entries := by
      intro hmem
      have hsplit := List.nodup_append.mp (by simpa [keys] using h)
      exact hsplit.2.2 k (by simpa [keys] using hmem) k (by simp) rfl
    have hmoved : (keys ((entries ++ [(k, v)]) ++ rest)).Nodup := by simpa using h
    rw [putAll, List.foldl_cons, put_of_not_mem v hnew]
    simpa [putAll] using ih hmoved

/-- When no key is written twice, the pairs stay as they are. -/
theorem ofPairs_of_nodup {pairs : List (String × α)} (h : (keys pairs).Nodup) :
    ofPairs pairs = pairs := by
  have hbare : (keys ([] ++ pairs)).Nodup := by simpa using h
  simpa [ofPairs] using putAll_of_nodup hbare

/-- The last writing under `key` decides, and what stood there before when there is none. -/
theorem get?_putAll (entries : Keyed α) (pairs : List (String × α)) (key : String) :
    (putAll entries pairs).get? key = (pairs.reverse.lookup key).or (entries.get? key) := by
  induction pairs generalizing entries with
  | nil => rfl
  | cons pair rest ih =>
    obtain ⟨k, v⟩ := pair
    have hstep : putAll entries ((k, v) :: rest) = putAll (entries.put k v) rest := rfl
    rw [hstep, ih, get?_put, List.reverse_cons, List.lookup_append, Option.or_assoc]
    -- the first pair counts only where no later one has its key
    congr 1
    by_cases hk : key = k
    · simp [hk]
    · simp [hk, List.lookup_cons, beq_eq_false_iff_ne.mpr hk]

/-- Keys that are new come after the others, in the order of their first writing. -/
theorem keys_putAll (entries : Keyed α) (pairs : List (String × α)) :
    (putAll entries pairs).keys =
      entries.keys ++ ((pairs.map (·.1)).removeAll entries.keys).eraseDups := by
  induction pairs generalizing entries with
  | nil => simp [putAll, List.removeAll]
  | cons pair rest ih =>
    obtain ⟨k, v⟩ := pair
    have hstep : putAll entries ((k, v) :: rest) = putAll (entries.put k v) rest := rfl
    rw [hstep, ih, keys_put, List.map_cons]
    by_cases hk : k ∈ entries.keys
    · simp [hk, List.removeAll]
    · -- what is new to the rest is what was new before, without `k`
      have hlater : (rest.map (·.1)).removeAll (entries.keys ++ [k]) =
          ((rest.map (·.1)).removeAll entries.keys).filter fun other => !other == k := by
        rw [List.removeAll, List.removeAll, List.filter_filter]
        refine List.filter_congr fun other _ => ?_
        by_cases hother : other = k <;> simp [hother]
      have hfirst : (k :: rest.map (·.1)).removeAll entries.keys =
          k :: (rest.map (·.1)).removeAll entries.keys := by
        simp [List.removeAll, hk]
      rw [if_neg hk, hlater, hfirst, List.eraseDups_cons, List.append_assoc, List.singleton_append]

/-- Changing values and writing one may be done in either order. -/
theorem map_put {β : Type} (f : α → β) (entries : Keyed α) (key : String) (value : α) :
    (put entries key value).map (fun entry => (entry.1, f entry.2)) =
      put (entries.map fun entry => (entry.1, f entry.2)) key (f value) := by
  induction entries with
  | nil => rfl
  | cons entry rest ih =>
    obtain ⟨k, v⟩ := entry
    by_cases hk : k = key <;> simp [put, hk, ih]

/-- Changing all values with `f` may be done before or after the pairs are written. -/
theorem ofPairs_map {β : Type} (f : α → β) (pairs : List (String × α)) :
    ofPairs (pairs.map fun pair => (pair.1, f pair.2)) =
      (ofPairs pairs).map fun entry => (entry.1, f entry.2) := by
  -- stated for any entries to begin with, so that the induction goes through
  have hfold : ∀ entries : Keyed α,
      putAll (entries.map fun entry => (entry.1, f entry.2))
          (pairs.map fun pair => (pair.1, f pair.2)) =
        (putAll entries pairs).map fun entry => (entry.1, f entry.2) := by
    induction pairs with
    | nil => exact fun _ => rfl
    | cons pair rest ih =>
      intro entries
      have hrest := ih (entries.put pair.1 pair.2)
      rw [map_put] at hrest
      exact hrest
  exact hfold []

/-- Under each key stands the last value that was written. -/
theorem get?_ofPairs (pairs : List (String × α)) (key : String) :
    (ofPairs pairs).get? key = pairs.reverse.lookup key := by
  simp [ofPairs, get?_putAll]

/-- The keys stand in the order of their first writing. -/
theorem keys_ofPairs (pairs : List (String × α)) :
    (ofPairs pairs).keys = (pairs.map (·.1)).eraseDups := by
  have hnone : (pairs.map (·.1)).removeAll [] = pairs.map (·.1) := by simp [List.removeAll]
  rw [ofPairs, keys_putAll]
  simp only [keys, List.map_nil, List.nil_append, hnone]

end Keyed

end OrmMapping
