/-
# What a history of changes leaves

Declarations and files are put together by changes, of which most either set a part or add to one.
A part that changes set holds what the last of them set. A part that changes add to holds what all
of them added, in order. Both are read off a change by itself, so a step lemma for one change gives
the whole history.
-/

namespace QuietSource

variable {σ ε α : Type}

/-- What the last of some changes to set a part has set. -/
def lastSet? (sets : ε → Option α) (changes : List ε) : Option α :=
  changes.reverse.findSome? sets

@[simp]
theorem lastSet?_nil (sets : ε → Option α) : lastSet? sets [] = none := rfl

@[simp]
theorem lastSet?_cons (sets : ε → Option α) (change : ε) (rest : List ε) :
    lastSet? sets (change :: rest) = (lastSet? sets rest).or (sets change) := by
  rw [lastSet?, List.reverse_cons, List.findSome?_append, List.findSome?_singleton]
  rfl

/-- A part that each change sets or leaves holds what was set last. -/
theorem foldl_eq_lastSet (step : σ → ε → σ) (part : σ → Option α) (sets : ε → Option α)
    (stepped : ∀ state change, part (step state change) = (sets change).or (part state))
    (state : σ) (changes : List ε) :
    part (changes.foldl step state) = (lastSet? sets changes).or (part state) := by
  induction changes generalizing state with
  | nil => rfl
  | cons change rest ih =>
    rw [List.foldl_cons, ih, stepped, lastSet?_cons, Option.or_assoc]

/-- A part to which each change adds holds everything that was added. -/
theorem foldl_eq_append (step : σ → ε → σ) (part : σ → List α) (adds : ε → List α)
    (stepped : ∀ state change, part (step state change) = part state ++ adds change)
    (state : σ) (changes : List ε) :
    part (changes.foldl step state) = part state ++ changes.flatMap adds := by
  induction changes generalizing state with
  | nil => exact (List.append_nil _).symm
  | cons change rest ih =>
    rw [List.foldl_cons, ih, stepped, List.flatMap_cons, List.append_assoc]

/-- Changes that each add a single value add all their values together. -/
theorem foldl_map_eq_add {step : σ → ε → σ} {change : α → ε} (add : σ → List α → σ)
    (added_nil : ∀ state, add state [] = state)
    (added_cons : ∀ state value more,
      add (step state (change value)) more = add state (value :: more))
    (state : σ) (values : List α) : (values.map change).foldl step state = add state values := by
  induction values generalizing state with
  | nil => exact (added_nil state).symm
  | cons value rest ih => rw [List.map_cons, List.foldl_cons, ih, added_cons]

end QuietSource
