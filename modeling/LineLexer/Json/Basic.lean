/-!
**Data descriptions.**

A description is a tree of values as JSON texts write them. The members of an object keep the order
in which their names first appeared:

* `Json`: the values, and `Json.Number`: the three ways in which a number is kept;
* `Json.Members`: the members of an object, with look-up `get?` and `put`;
* `Members.get?_put`, `Members.names_put_of_mem`: a member that is put again keeps its place and
  takes the new value.
-/

namespace LineLexer

/-- A number: an integer that fits 64 bits, by sign, or else `±significand · 10 ^ exponent`. -/
inductive Json.Number where
  | natural (value : Nat)
  | negative (magnitude : Nat)
  | decimal (negative : Bool) (significand : Nat) (exponent : Int)
  deriving DecidableEq, Repr, Inhabited

/-- A value of a description. -/
inductive Json where
  | null
  | bool (value : Bool)
  | number (value : Json.Number)
  | string (value : String)
  | array (items : List Json)
  | object (members : List (String × Json))
  deriving Repr, Inhabited

namespace Json

/-- The members of an object in the order of their names' first appearance. -/
abbrev Members := List (String × Json)

namespace Members

/-- The value of the member with a given name. -/
def get? (members : Members) (name : String) : Option Json :=
  members.lookup name

/-- Whether there is a member with a given name. -/
def contains (members : Members) (name : String) : Bool :=
  (members.get? name).isSome

/-- The names of the members in order. -/
def names (members : Members) : List String := members.map (·.1)

/-- Sets a member. A name that is there already keeps its place, a new one goes to the end. -/
def put : Members → String → Json → Members
  | [], name, value => [(name, value)]
  | (first, old) :: rest, name, value =>
    if first = name then (first, value) :: rest
    else (first, old) :: put rest name value

/-- The member that was put has the new value, and the others keep theirs. -/
theorem get?_put (members : Members) (name : String) (value : Json) (asked : String) :
    (members.put name value).get? asked =
      if asked = name then some value else members.get? asked := by
  induction members with
  | nil =>
    by_cases same : asked = name
    · simp [put, get?, same]
    · simp [put, get?, List.lookup_cons, same, beq_eq_false_iff_ne.2 same]
  | cons member rest step =>
    obtain ⟨first, old⟩ := member
    simp only [get?] at step ⊢
    by_cases head : first = name
    · subst head
      by_cases same : asked = first
      · simp [put, same]
      · simp [put, List.lookup_cons, same, beq_eq_false_iff_ne.2 same]
    · by_cases same : asked = first
      · subst same
        simp [put, head]
      · simp [put, List.lookup_cons, head, beq_eq_false_iff_ne.2 same, step]

/-- Putting a member that is there changes no name. -/
theorem names_put_of_mem {members : Members} {name : String} (value : Json)
    (present : name ∈ members.names) : (members.put name value).names = members.names := by
  induction members with
  | nil => simp [names] at present
  | cons member rest step =>
    obtain ⟨first, old⟩ := member
    by_cases head : first = name
    · simp [put, head, names]
    · have later : name ∈ names rest := by
        simpa [names, Ne.symm head] using present
      simp only [put, head, if_false, names, List.map_cons, List.cons.injEq, true_and]
      exact step later

end Members

/-! ### Views of a value -/

/-- The text of a string. -/
def asString? : Json → Option String
  | string value => some value
  | _ => none

/-- The value of a truth value. -/
def asBool? : Json → Option Bool
  | bool value => some value
  | _ => none

/-- The items of an array. -/
def asArray? : Json → Option (List Json)
  | array items => some items
  | _ => none

/-- The members of an object. -/
def asObject? : Json → Option Members
  | object members => some members
  | _ => none

/-- The value of a number that was written as a plain natural number below `2 ^ 64`. -/
def asNatural? : Json → Option Nat
  | number (.natural value) => some value
  | _ => none

/-! ### Nesting -/

mutual

/-- How deep the arrays and objects of a value nest. -/
def height : Json → Nat
  | array items => heightOfItems items + 1
  | object members => heightOfMembers members + 1
  | _ => 0

/-- The greatest height among items. -/
def heightOfItems : List Json → Nat
  | [] => 0
  | item :: rest => max item.height (heightOfItems rest)

/-- The greatest height among members. -/
def heightOfMembers : List (String × Json) → Nat
  | [] => 0
  | (_, value) :: rest => max value.height (heightOfMembers rest)

end

/-- An item nests less deep than its array. -/
theorem height_lt_of_mem_array {items : List Json} {item : Json} (present : item ∈ items) :
    item.height < (array items).height := by
  suffices item.height ≤ heightOfItems items by simp only [height]; omega
  induction items with
  | nil => simp at present
  | cons first rest step =>
    rcases List.mem_cons.1 present with rfl | later
    · simp only [heightOfItems]; omega
    · have := step later
      simp only [heightOfItems]; omega

/-- The value of a member nests less deep than its object. -/
theorem height_lt_of_mem_object {members : Members} {name : String} {value : Json}
    (present : (name, value) ∈ members) : value.height < (object members).height := by
  suffices value.height ≤ heightOfMembers members by simp only [height]; omega
  induction members with
  | nil => simp at present
  | cons first rest step =>
    rcases List.mem_cons.1 present with rfl | later
    · simp only [heightOfMembers]; omega
    · obtain ⟨head, old⟩ := first
      have := step later
      simp only [heightOfMembers]; omega

end Json

end LineLexer
