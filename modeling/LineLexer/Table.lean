/-!
**Tables.**

A table holds one value at most for a key. The entry that was put last stands first:

* `Table.get?`, `Table.put`, `Table.erase`, `Table.keys`: look-up, changes and the keys;
* `get?_put`, `get?_erase`: a change is seen at its key and nowhere else;
* `mem_keys_iff`: the keys are those that have a value.
-/

namespace LineLexer

/-- Values by key. -/
structure Table (Key Value : Type) where
  entries : List (Key × Value) := []
  deriving Repr, Inhabited

namespace Table

variable {Key Value : Type} [DecidableEq Key]

/-- The value for a key. -/
def get? (table : Table Key Value) (key : Key) : Option Value := table.entries.lookup key

/-- Removes the value for a key. -/
def erase (table : Table Key Value) (key : Key) : Table Key Value where
  entries := table.entries.filter fun entry => entry.1 != key

/-- Sets the value for a key. -/
def put (table : Table Key Value) (key : Key) (value : Value) : Table Key Value where
  entries := (key, value) :: (table.erase key).entries

/-- The keys. -/
def keys (table : Table Key Value) : List Key := table.entries.map (·.1)

theorem get?_erase (table : Table Key Value) (key other : Key) :
    (table.erase key).get? other = if other = key then none else table.get? other := by
  obtain ⟨entries⟩ := table
  simp only [get?, erase]
  induction entries with
  | nil => simp
  | cons entry rest step =>
    obtain ⟨first, value⟩ := entry
    by_cases dropped : first = key
    · subst dropped
      rw [List.filter_cons_of_neg (by simp), step, List.lookup_cons]
      by_cases same : other = first
      · simp [same]
      · simp [same, beq_false_of_ne same]
    · rw [List.filter_cons_of_pos (by simpa using dropped), List.lookup_cons, List.lookup_cons,
        step]
      by_cases same : other = first
      · subst same
        simp [dropped]
      · simp [beq_false_of_ne same]

theorem get?_put (table : Table Key Value) (key other : Key) (value : Value) :
    (table.put key value).get? other = if other = key then some value else table.get? other := by
  have without := get?_erase table key other
  simp only [get?] at without ⊢
  simp only [put, List.lookup_cons, without]
  by_cases same : other = key
  · simp [same]
  · simp [same, beq_false_of_ne same]

/-- The keys are those that have a value. -/
theorem mem_keys_iff (table : Table Key Value) (key : Key) :
    key ∈ table.keys ↔ (table.get? key).isSome := by
  obtain ⟨entries⟩ := table
  simp only [keys, get?]
  induction entries with
  | nil => simp
  | cons entry rest step =>
    obtain ⟨first, value⟩ := entry
    rw [List.lookup_cons, List.map_cons, List.mem_cons]
    by_cases same : key = first
    · simp [same]
    · simp [same, beq_false_of_ne same, step]

end Table

end LineLexer
