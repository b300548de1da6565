/-
# Maps in insertion order

A finite map that remembers the order in which its keys came in. Putting a value under a key that
is already there replaces the value and keeps the key's place. Two maps are equal under `==` when
they have the same keys with the same values, whatever the order of the keys.
-/

namespace QuietSource

/-- The entries of a map, one for each key, in the order in which the keys came in. -/
structure OrderedMap (κ ν : Type) where
  toList : List (κ × ν)
  nodup : (toList.map Prod.fst).Nodup

namespace OrderedMap

variable {κ ν : Type}

/-- The map without entries. -/
def empty : OrderedMap κ ν := ⟨[], List.nodup_nil⟩

instance : EmptyCollection (OrderedMap κ ν) := ⟨empty⟩

instance : Inhabited (OrderedMap κ ν) := ⟨empty⟩

@[simp] theorem toList_empty : (empty : OrderedMap κ ν).toList = [] := rfl

/-- The number of entries. -/
def size (map : OrderedMap κ ν) : Nat :=
  map.toList.length

variable [DecidableEq κ]

/-- The entries with the value under a key replaced, or with a new entry at the end. -/
def putEntry (key : κ) (value : ν) : List (κ × ν) → List (κ × ν)
  | [] => [(key, value)]
  | (k, v) :: rest => if k = key then (k, value) :: rest else (k, v) :: putEntry key value rest

/-- Replacing keeps the keys, and a new key goes last. -/
theorem map_fst_putEntry (key : κ) (value : ν) (entries : List (κ × ν)) :
    (putEntry key value entries).map Prod.fst =
      if key ∈ entries.map Prod.fst then entries.map Prod.fst
      else entries.map Prod.fst ++ [key] := by
  induction entries with
  | nil => simp [putEntry]
  | cons entry rest ih =>
    obtain ⟨k, v⟩ := entry
    by_cases h : k = key
    · simp [putEntry, h]
    · have h' : ¬ key = k := fun e => h e.symm
      simp only [putEntry, h, if_false, List.map_cons, ih, List.mem_cons, h', false_or]
      split <;> simp

/-- Putting an entry in never gives a key twice. -/
theorem nodup_putEntry {key : κ} {value : ν} {entries : List (κ × ν)}
    (distinct : (entries.map Prod.fst).Nodup) :
    ((putEntry key value entries).map Prod.fst).Nodup := by
  rw [map_fst_putEntry]
  split
  · exact distinct
  · rename_i h
    rw [List.nodup_append]
    refine ⟨distinct, by simp, ?_⟩
    intro x hx y hy
    rw [List.mem_singleton] at hy
    exact fun hxy => h (hy ▸ hxy ▸ hx)

/-- The map with a value under a key, in place of the value it had there before. -/
def insert (map : OrderedMap κ ν) (key : κ) (value : ν) : OrderedMap κ ν :=
  ⟨putEntry key value map.toList, nodup_putEntry map.nodup⟩

/-- The map with the entries of a list inserted one by one. -/
def insertMany (map : OrderedMap κ ν) (entries : List (κ × ν)) : OrderedMap κ ν :=
  entries.foldl (fun map entry => map.insert entry.1 entry.2) map

/-- The value under a key, if there is one. -/
def get? (map : OrderedMap κ ν) (key : κ) : Option ν :=
  map.toList.lookup key

/-- Equality of maps: as many entries, and those of the first are in the second. -/
instance [DecidableEq ν] : BEq (OrderedMap κ ν) where
  beq first second :=
    first.size == second.size &&
      first.toList.all fun entry => second.get? entry.1 == some entry.2

/-- What is read after an insertion: the new value under its key, the old ones elsewhere. -/
theorem get?_insert (map : OrderedMap κ ν) (key wanted : κ) (value : ν) :
    (map.insert key value).get? wanted = if wanted = key then some value else map.get? wanted := by
  simp only [get?, insert]
  induction map.toList with
  | nil =>
    by_cases h : wanted = key
    · simp [putEntry, h]
    · have h' : (wanted == key) = false := by simpa using h
      simp [putEntry, h, h', List.lookup_cons]
  | cons entry rest ih =>
    obtain ⟨k, v⟩ := entry
    by_cases hk : k = key <;> by_cases hw : wanted = k
    · subst hk; subst hw; simp [putEntry]
    · have hw' : (wanted == k) = false := by simpa using hw
      subst hk
      simp [putEntry, hw, hw', List.lookup_cons]
    · subst hw
      simp [putEntry, hk]
    · have hw' : (wanted == k) = false := by simpa using hw
      simp only [putEntry, hk, if_false, List.lookup_cons, hw', ih]

@[simp] theorem get?_empty (key : κ) : (empty : OrderedMap κ ν).get? key = none := rfl

/-- What is read after several insertions: the last value that was put under the key, or what was
there before. -/
theorem get?_insertMany (map : OrderedMap κ ν) (entries : List (κ × ν)) (wanted : κ) :
    (map.insertMany entries).get? wanted =
      (entries.reverse.lookup wanted).or (map.get? wanted) := by
  induction entries generalizing map with
  | nil => rfl
  | cons entry rest ih =>
    obtain ⟨key, value⟩ := entry
    have step : map.insertMany ((key, value) :: rest) = (map.insert key value).insertMany rest :=
      rfl
    rw [step, ih, get?_insert, List.reverse_cons, List.lookup_append, Option.or_assoc]
    by_cases same : wanted = key
    · simp [same]
    · have other : (wanted == key) = false := by simpa using same
      rw [if_neg same, List.lookup_cons, other, List.lookup_nil, Option.none_or]

end OrderedMap

end QuietSource
