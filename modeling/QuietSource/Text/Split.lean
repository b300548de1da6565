/-
# Splitting a text at a separator

A text cut at every occurrence of a separator character has one part more than it has
separators; empty parts are kept. Cutting at the last occurrence gives the part before it, if
there is one, and the part behind it.
-/

namespace QuietSource.Text

/-- The parts of a text between the occurrences of `separator`. -/
def splitChars (separator : Char) : List Char → List (List Char)
  | [] => [[]]
  | c :: rest =>
    if c = separator then [] :: splitChars separator rest
    else
      match splitChars separator rest with
      | [] => [[c]]
      | part :: parts => (c :: part) :: parts

/-- The parts of a text between the occurrences of `separator`, as texts. -/
def split (separator : Char) (text : String) : List String :=
  (splitChars separator text.toList).map String.ofList

/-- What follows the last occurrence of `separator`, or everything if there is none. -/
def afterLastChars (separator : Char) (chars : List Char) : List Char :=
  (chars.reverse.takeWhile (· != separator)).reverse

/-- What precedes the last occurrence of `separator`, if there is one. -/
def beforeLastChars? (separator : Char) (chars : List Char) : Option (List Char) :=
  match chars.reverse.dropWhile (· != separator) with
  | [] => none
  | _ :: before => some before.reverse

/-- The text behind the last `separator`, or the whole text if it has none. -/
def afterLast (separator : Char) (text : String) : String :=
  String.ofList (afterLastChars separator text.toList)

/-- The text before the last `separator`, if it has one. -/
def beforeLast? (separator : Char) (text : String) : Option String :=
  (beforeLastChars? separator text.toList).map String.ofList

/-- There is always at least one part. -/
theorem splitChars_ne_nil (separator : Char) (chars : List Char) :
    splitChars separator chars ≠ [] := by
  cases chars with
  | nil => simp [splitChars]
  | cons c rest =>
    unfold splitChars
    split
    · simp
    · split <;> simp

/-- A separator parts what stands before it from what stands behind it. -/
theorem splitChars_append (separator : Char) (first second : List Char) :
    splitChars separator (first ++ separator :: second) =
      splitChars separator first ++ splitChars separator second := by
  induction first with
  | nil => simp [splitChars]
  | cons c rest ih =>
    obtain ⟨part, parts, parted⟩ :=
      List.exists_cons_of_ne_nil (splitChars_ne_nil separator rest)
    rw [parted] at ih
    by_cases same : c = separator <;> simp [splitChars, same, ih, parted]

theorem splitChars_of_not_mem {separator : Char} {chars : List Char} (h : separator ∉ chars) :
    splitChars separator chars = [chars] := by
  induction chars with
  | nil => rfl
  | cons c rest ih =>
    rw [List.mem_cons, not_or] at h
    rw [splitChars, if_neg (Ne.symm h.1), ih h.2]

/-- The characters of a part are characters of the whole, and none of them is the separator. -/
theorem mem_of_mem_splitChars {separator : Char} {chars part : List Char}
    (h : part ∈ splitChars separator chars) : ∀ c ∈ part, c ∈ chars ∧ c ≠ separator := by
  induction chars generalizing part with
  | nil =>
    rw [splitChars, List.mem_singleton] at h
    rw [h]
    exact List.forall_mem_nil _
  | cons d rest ih =>
    have later {part : List Char} (h : part ∈ splitChars separator rest) :
        ∀ c ∈ part, c ∈ d :: rest ∧ c ≠ separator :=
      fun c member => ⟨List.mem_cons_of_mem d (ih h c member).1, (ih h c member).2⟩
    obtain ⟨first, parts, parted⟩ :=
      List.exists_cons_of_ne_nil (splitChars_ne_nil separator rest)
    rw [splitChars, parted] at h
    split at h
    · rcases List.mem_cons.mp h with rfl | inRest
      · exact List.forall_mem_nil _
      · exact later (parted ▸ inRest)
    · next other =>
      rcases List.mem_cons.mp h with rfl | inRest
      · exact List.forall_mem_cons.mpr
          ⟨⟨List.mem_cons_self, other⟩, later (parted ▸ List.mem_cons_self)⟩
      · exact later (parted ▸ List.mem_cons_of_mem first inRest)

theorem mem_of_mem_split {separator : Char} {text part : String} (h : part ∈ split separator text) :
    ∀ c ∈ part.toList, c ∈ text.toList ∧ c ≠ separator := by
  obtain ⟨chars, listed, rfl⟩ := List.mem_map.mp h
  rw [String.toList_ofList]
  exact mem_of_mem_splitChars listed

theorem split_append (separator : Char) (first second : String) :
    split separator (first ++ String.singleton separator ++ second) =
      split separator first ++ split separator second := by
  have parts : (first ++ String.singleton separator ++ second).toList =
      first.toList ++ separator :: second.toList := by
    simp
  rw [split, parts, splitChars_append, List.map_append]
  rfl

theorem split_of_not_mem {separator : Char} {text : String} (h : separator ∉ text.toList) :
    split separator text = [text] := by
  rw [split, splitChars_of_not_mem h, List.map_singleton, String.ofList_toList]

/-- Splitting undoes joining, if no part has the separator in it. -/
theorem split_intercalate {separator : Char} {parts : List String} (nonempty : parts ≠ [])
    (h : ∀ part ∈ parts, separator ∉ part.toList) :
    split separator (String.intercalate (String.singleton separator) parts) = parts := by
  induction parts with
  | nil => exact absurd rfl nonempty
  | cons part rest ih =>
    rw [List.forall_mem_cons] at h
    cases rest with
    | nil => rw [String.intercalate_singleton, split_of_not_mem h.1]
    | cons next rest =>
      rw [String.intercalate_cons_cons, split_append, split_of_not_mem h.1,
        ih (List.cons_ne_nil next rest) h.2]
      rfl

end QuietSource.Text
