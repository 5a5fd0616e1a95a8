import LineLexer.Text.Quoted

/-!
**Stacks of states.**

A stack holds the names of states, one at least. Each of its levels is a node with an identity, so
that two stacks can be told to be the same object and not only equal:

* `Stack.names`: the names from the top to the bottom, and `Stack.chain`, the other way round;
* `Stack.pop?`, `Stack.toRoot`: the stacks below;
* `Stack.same`: whether two stacks are one object, while `==` compares their names;
* `Stack.agrees`: a comparison that looks at no more levels than it has to;
* `length_names`, `beq_iff`: the depth counts the names, and equality is that of the names.
-/

namespace LineLexer

/-- The identity of an object: the cache that made it, and as which of its objects. -/
structure Identity where
  cache : Nat
  serial : Nat
  deriving DecidableEq, Repr, Inhabited

/-- A stack of state names. -/
inductive Stack where
  /-- The bottom state alone. -/
  | root (identity : Identity) (state : String)
  /-- A state on top of others. -/
  | push (identity : Identity) (below : Stack) (state : String)
  deriving Repr, Inhabited

namespace Stack

/-- The identity of the level on top. -/
def identity : Stack → Identity
  | root identity _ => identity
  | push identity _ _ => identity

/-- The state on top. -/
def state : Stack → String
  | root _ state => state
  | push _ _ state => state

/-- The number of states. -/
def depth : Stack → Nat
  | root _ _ => 1
  | push _ below _ => below.depth + 1

/-- The stack without the state on top, unless that is the bottom. -/
def pop? : Stack → Option Stack
  | root _ _ => none
  | push _ below _ => some below

/-- The bottom state alone. -/
def toRoot : Stack → Stack
  | root identity state => root identity state
  | push _ below _ => below.toRoot

/-- Whether only the bottom state is there. -/
def isRoot (stack : Stack) : Bool := stack.pop?.isNone

/-- The names from the top to the bottom. -/
def names : Stack → List String
  | root _ state => [state]
  | push _ below state => state :: below.names

/-- The names from the bottom to the top. -/
def chain (stack : Stack) : List String := stack.names.reverse

/-- Whether two stacks are one object. -/
def same (left right : Stack) : Bool := left.identity == right.identity

/-- Stacks are equal if their names are. -/
instance : BEq Stack where
  beq left right := left.names == right.names

/-- Whether two stacks agree, looked at from the top down. One object agrees with itself, and what is
below a difference in depth or in the state on top is not looked at. -/
def agrees (left right : Stack) : Bool :=
  left.same right ||
    (left.depth == right.depth && left.state == right.state &&
      match left, right with
      | root _ _, root _ _ => true
      | push _ below _, push _ other _ => below.agrees other
      | _, _ => false)

/-- What a hash of a stack is computed from. -/
def fingerprint (stack : Stack) : Nat × List String := (stack.depth, stack.names)

/-- A stack for the reader of a log. -/
def describe (stack : Stack) : String :=
  "StateStack([" ++ ", ".intercalate (stack.chain.map Quoted.literal) ++ "])"

@[simp] theorem length_names (stack : Stack) : stack.names.length = stack.depth := by
  induction stack with
  | root identity state => rfl
  | push identity below state step => simp [names, depth, step]

theorem depth_pos (stack : Stack) : 0 < stack.depth := by
  cases stack <;> simp [depth]

theorem names_ne_nil (stack : Stack) : stack.names ≠ [] := by
  cases stack <;> simp [names]

theorem depth_eq_of_names {left right : Stack} (same : left.names = right.names) :
    left.depth = right.depth := by
  rw [← length_names, same, length_names]

theorem beq_iff {left right : Stack} : (left == right) = true ↔ left.names = right.names := by
  show (left.names == right.names) = true ↔ left.names = right.names
  exact beq_iff_eq

@[simp] theorem head?_names (stack : Stack) : stack.names.head? = some stack.state := by
  cases stack <;> rfl

end Stack

end LineLexer
