/-
# Sets in insertion order

A finite set that remembers the order in which its elements came in. Inserting an element that is
already there changes nothing, not even its place. Two sets are equal under `==` when they have
the same elements, whatever their order; equality as Lean values sees the order too.
-/

namespace QuietSource

/-- The elements of a set, each once, in the order of their first insertion. -/
structure OrderedSet (α : Type) where
  toList : List α
  nodup : toList.Nodup

namespace OrderedSet

variable {α : Type}

/-- The set without elements. -/
def empty : OrderedSet α := ⟨[], List.nodup_nil⟩

instance : EmptyCollection (OrderedSet α) := ⟨empty⟩

instance : Inhabited (OrderedSet α) := ⟨empty⟩

@[simp] theorem toList_empty : (empty : OrderedSet α).toList = [] := rfl

/-- The number of elements. -/
def size (set : OrderedSet α) : Nat :=
  set.toList.length

/-- Whether the set has no elements. -/
def isEmpty (set : OrderedSet α) : Bool :=
  set.toList.isEmpty

variable [DecidableEq α]

/-- The set with one more element, which goes last if it is new. -/
def insert (set : OrderedSet α) (a : α) : OrderedSet α :=
  if h : a ∈ set.toList then set
  else ⟨set.toList ++ [a], by
    rw [List.nodup_append]
    exact ⟨set.nodup, by simp, by
      intro x hx y hy
      rw [List.mem_singleton] at hy
      exact fun hxy => h (hy ▸ hxy ▸ hx)⟩⟩

/-- The set with the elements of a list inserted one by one. -/
def insertMany (set : OrderedSet α) (list : List α) : OrderedSet α :=
  list.foldl insert set

/-- The elements of a list, in the order of their first occurrence. -/
def ofList (list : List α) : OrderedSet α :=
  empty.insertMany list

/-- Whether an element is in the set. -/
def contains (set : OrderedSet α) (a : α) : Bool :=
  decide (a ∈ set.toList)

/-- Equality of sets: as many elements, and those of the first are in the second. -/
instance : BEq (OrderedSet α) where
  beq first second := first.size == second.size && first.toList.all second.contains

/-- Inserting appends what is new and nothing else. -/
theorem toList_insert (set : OrderedSet α) (a : α) :
    (set.insert a).toList = if a ∈ set.toList then set.toList else set.toList ++ [a] := by
  unfold insert
  split <;> simp_all

/-- After an insertion the set holds what it held and the new element. -/
theorem mem_toList_insert {set : OrderedSet α} {a b : α} :
    b ∈ (set.insert a).toList ↔ b ∈ set.toList ∨ b = a := by
  rw [toList_insert]
  split
  · constructor
    · exact Or.inl
    · rintro (h | rfl)
      · exact h
      · assumption
  · simp

@[simp] theorem insertMany_nil (set : OrderedSet α) : set.insertMany [] = set := rfl

@[simp] theorem insertMany_cons (set : OrderedSet α) (a : α) (rest : List α) :
    set.insertMany (a :: rest) = (set.insert a).insertMany rest := rfl

/-- Inserting one list and then another is inserting both together. -/
theorem insertMany_append (set : OrderedSet α) (first second : List α) :
    set.insertMany (first ++ second) = (set.insertMany first).insertMany second :=
  List.foldl_append

/-- After inserting a list, the set holds what it held and what is in the list. -/
theorem mem_toList_insertMany {set : OrderedSet α} {list : List α} {a : α} :
    a ∈ (set.insertMany list).toList ↔ a ∈ set.toList ∨ a ∈ list := by
  induction list generalizing set with
  | nil => simp
  | cons b rest ih => rw [insertMany_cons, ih, mem_toList_insert, List.mem_cons, or_assoc]

/-- Inserting what is there already changes nothing. -/
theorem insertMany_eq_self {set : OrderedSet α} {list : List α}
    (present : ∀ a ∈ list, a ∈ set.toList) : set.insertMany list = set := by
  induction list with
  | nil => rfl
  | cons a rest ih =>
    have unchanged : set.insert a = set := dif_pos (present a List.mem_cons_self)
    rw [insertMany_cons, unchanged]
    exact ih fun b member => present b (List.mem_cons_of_mem a member)

/-- Inserting a list appends what the set lacks, each element where it first occurs. -/
theorem toList_insertMany (set : OrderedSet α) (list : List α) :
    (set.insertMany list).toList = set.toList ++ (list.removeAll set.toList).eraseDups := by
  induction list generalizing set with
  | nil => simp [List.removeAll]
  | cons a rest ih =>
    rw [insertMany_cons, ih, toList_insert, List.cons_removeAll]
    by_cases present : a ∈ set.toList
    · rw [if_pos present, if_neg (by simpa using present)]
    · have later : rest.removeAll (set.toList ++ [a]) =
          (rest.removeAll set.toList).filter fun b => !b == a := by
        simp only [List.removeAll, List.filter_filter, List.elem_eq_contains]
        congr 1
        funext b
        by_cases same : b = a <;> simp [same]
      rw [if_neg present, if_pos (by simpa using present), List.append_assoc, later,
        List.eraseDups_cons]
      rfl

/-- The elements of a list, each where it first occurs. -/
theorem toList_ofList (list : List α) : (ofList list).toList = list.eraseDups := by
  simp [ofList, toList_insertMany]

end OrderedSet

end QuietSource
