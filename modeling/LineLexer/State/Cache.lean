import LineLexer.State.LineState

/-!
**Shared stacks and line states.**

A cache hands out one and the same object for equal shallow stacks, and for equal line states on
shallow stacks without an embedded language. Everything else is a new object each time.

* `StateCache.root`, `StateCache.push`, `StateCache.switchTo`: stacks made through a cache;
* `StateCache.lineState`: line states made through a cache;
* `names_root`, `names_push`, `names_switchTo`, `content_lineState`: what is handed out has the
  asked content, whatever the cache holds.
-/

namespace LineLexer

/-- The objects that one cache shares, and how many it has made. -/
structure StateCache where
  /-- What tells this cache from others. -/
  owner : Nat
  /-- The number of objects made so far. -/
  made : Nat := 0
  /-- The shared stacks, the newest first. -/
  sharedStacks : List Stack := []
  /-- The shared line states, the newest first. -/
  sharedStates : List LineState := []
  deriving Repr, Inhabited

namespace StateCache

/-- A stack at least this deep is not built on by shared stacks, nor are line states on it shared.
-/
def sharedDepth : Nat := 5

/-- The identity of the next object. -/
def nextIdentity (cache : StateCache) : Identity := ⟨cache.owner, cache.made⟩

/-- The shared stack with given names from the top, if there is one. -/
def findStack? (cache : StateCache) (names : List String) : Option Stack :=
  cache.sharedStacks.find? fun stack => stack.names = names

/-- The shared line state on a stack with given names from the top, if there is one. -/
def findLineState? (cache : StateCache) (names : List String) : Option LineState :=
  cache.sharedStates.find? fun state => state.stack.names = names && state.embedded?.isNone

/-- A new stack from a stack below it, if any, and the state on top. -/
def build (cache : StateCache) (below : Option Stack) (state : String) : Stack :=
  match below with
  | none => .root cache.nextIdentity state
  | some below => .push cache.nextIdentity below state

/-- A stack from a stack below it, if any, and the state on top. It is shared unless the stack below
is deep. -/
def create (cache : StateCache) (below : Option Stack) (state : String) : Stack × StateCache :=
  let stack := cache.build below state
  if sharedDepth ≤ (below.map Stack.depth).getD 0 then
    (stack, { cache with made := cache.made + 1 })
  else
    match cache.findStack? stack.names with
    | some shared => (shared, cache)
    | none =>
      (stack, { cache with made := cache.made + 1, sharedStacks := stack :: cache.sharedStacks })

/-- The stack of one state. -/
def root (cache : StateCache) (state : String) : Stack × StateCache := cache.create none state

/-- A stack with one more state. -/
def push (cache : StateCache) (below : Stack) (state : String) : Stack × StateCache :=
  cache.create (some below) state

/-- A stack with another state in place of the one on top. The same state changes nothing. -/
def switchTo (cache : StateCache) (stack : Stack) (state : String) : Stack × StateCache :=
  if stack.state = state then (stack, cache) else cache.create stack.pop? state

/-- The line state of a stack and an embedded language. It is shared unless a language is embedded
or the stack is deep. -/
def lineState (cache : StateCache) (stack : Stack) (embedded : Option Embedded) :
    LineState × StateCache :=
  let state := LineState.make cache.nextIdentity stack embedded
  if embedded.isSome ∨ sharedDepth ≤ stack.depth then
    (state, { cache with made := cache.made + 1 })
  else
    match cache.findLineState? stack.names with
    | some shared => (shared, cache)
    | none =>
      (state, { cache with made := cache.made + 1, sharedStates := state :: cache.sharedStates })

/-! ### What is handed out -/

/-- What is found has the names that were asked for. -/
theorem names_of_findStack? {cache : StateCache} {names : List String} {stack : Stack}
    (found : cache.findStack? names = some stack) : stack.names = names := by
  simpa using List.find?_some found

/-- Whatever the cache holds, the stack has the asked names. -/
theorem names_create (cache : StateCache) (below : Option Stack) (state : String) :
    (cache.create below state).1.names = state :: (below.map Stack.names).getD [] := by
  have built : (cache.build below state).names = state :: (below.map Stack.names).getD [] := by
    cases below <;> rfl
  simp only [create]
  split
  · exact built
  · split
    · next shared found => rw [names_of_findStack? found, built]
    · exact built

theorem names_root (cache : StateCache) (state : String) :
    (cache.root state).1.names = [state] := by
  simp [root, names_create]

theorem names_push (cache : StateCache) (below : Stack) (state : String) :
    (cache.push below state).1.names = state :: below.names := by
  simp [push, names_create]

theorem names_switchTo (cache : StateCache) (stack : Stack) (state : String) :
    (cache.switchTo stack state).1.names = state :: stack.names.tail := by
  simp only [switchTo]
  split
  · next same => cases stack <;> simp_all [Stack.names, Stack.state]
  · rw [names_create]
    cases stack <;> rfl

/-- Whatever the cache holds, the line state has the asked content. -/
theorem content_lineState (cache : StateCache) (stack : Stack) (embedded : Option Embedded) :
    (cache.lineState stack embedded).1.stack.names = stack.names ∧
      (cache.lineState stack embedded).1.embedded? = embedded := by
  simp only [lineState]
  split
  · simp
  · next shallow =>
    split
    · next shared found =>
      have fits := List.find?_some found
      simp only [Bool.and_eq_true, decide_eq_true_eq, Option.isNone_iff_eq_none] at fits
      have plain : embedded = none := by
        simpa using fun present => shallow (Or.inl present)
      exact ⟨fits.1, by rw [fits.2, plain]⟩
    · simp

end StateCache

end LineLexer
