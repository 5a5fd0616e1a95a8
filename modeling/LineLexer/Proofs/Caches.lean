import LineLexer.Proofs.Interning
import Mathlib.Data.List.Induction
import Mathlib.Data.List.Pairwise

/-!
**Several caches, and the line states they share.**

Caches hand out stacks and line states, each built on what any of them has handed out before. A
shallow stack is one object for each cache, and so is a line state on a stack that is shallower by
one. A line state with an embedded language, or on a deeper stack, is an object of its own.

* `CacheRequest`, `Caches`: requests to caches, and the caches with what they have handed out;
* `StateCache.lineState_cases`: all that a request for a line state can do;
* `StatesShared`: what holds of the line states handed out, and `Caches.sound_serve`: every request
  keeps it, and what holds of the stacks;
* `Caches.lineStates_same_iff`: which line states are one object.
-/

namespace LineLexer

/-! ### Requests to caches -/

/-- Something that one of several caches is asked for. A stack is named by the place of the request
that it answered, and a line state by its place among the line states handed out. -/
inductive CacheRequest where
  /-- A stack, or a look at one. -/
  | stack (owner : Nat) (request : StackRequest)
  /-- A line state on a stack, perhaps with a language embedded, in an earlier line state if that is
  known. -/
  | lineState (owner place : Nat) (embedded : Option (String × Option Nat))
  deriving DecidableEq, Repr

/-- The cache that is asked. -/
def CacheRequest.owner : CacheRequest → Nat
  | stack owner _ => owner
  | lineState owner _ _ => owner

/-- A line state that was asked for, with the answer. -/
structure LineStateCall where
  /-- The cache that was asked. -/
  owner : Nat
  stack : Stack
  embedded : Option Embedded
  /-- The line state handed out. -/
  state : LineState
  deriving Repr

/-- Caches with all that they have handed out. -/
structure Caches where
  cache : Nat → StateCache := fun owner => { owner }
  /-- The answers to the requests for stacks. -/
  answers : List (Option Stack) := []
  calls : List LineStateCall := []

namespace LineStateCall

/-- Whether the line state is shared: no language is embedded and the stack is shallow. -/
def Shares (call : LineStateCall) : Prop :=
  call.embedded = none ∧ call.stack.depth < StateCache.sharedDepth

/-- Whether a cache shares one line state between two calls. -/
def Coincides (earlier later : LineStateCall) : Prop :=
  earlier.owner = later.owner ∧ earlier.Shares ∧ later.Shares ∧
    earlier.stack.names = later.stack.names

/-- Whether two line states are one object exactly where they are shared. -/
def Separates (earlier later : LineStateCall) : Prop :=
  earlier.state.identity = later.state.identity ↔ earlier.Coincides later

theorem Coincides.symm {earlier later : LineStateCall} (coincides : earlier.Coincides later) :
    later.Coincides earlier := by
  obtain ⟨one, shares, sharesToo, names⟩ := coincides
  exact ⟨one.symm, sharesToo, shares, names.symm⟩

instance : Std.Symm Separates where
  symm earlier later separates := by
    constructor
    · exact fun same => (separates.1 same.symm).symm
    · exact fun coincides => (separates.2 coincides.symm).symm

end LineStateCall

namespace Caches

/-- The stacks among the answers. -/
def given (caches : Caches) : List Stack := caches.answers.filterMap id

/-- The line states handed out. -/
def states (caches : Caches) : List LineState := caches.calls.map LineStateCall.state

/-- One of the caches with the answers of all. -/
def served (caches : Caches) (owner : Nat) : Served where
  cache := caches.cache owner
  answers := caches.answers

/-- The embedded language that a request names, unless it names a line state that there is not. -/
def embedded? (caches : Caches) : Option (String × Option Nat) → Option (Option Embedded)
  | none => some none
  | some (language, none) => some (some { language, state := none })
  | some (language, some place) =>
    caches.states[place]?.map fun state => some { language, state := some state }

/-- Answers one more request. A line state is handed out only where all that it is built on was. -/
def serve (caches : Caches) : CacheRequest → Caches
  | .stack owner request =>
    let served := (caches.served owner).serve request
    { caches with
      cache := Function.update caches.cache owner served.cache
      answers := served.answers }
  | .lineState owner place named =>
    match (caches.served owner).stack? place, caches.embedded? named with
    | some stack, some embedded =>
      let (state, after) := (caches.cache owner).lineState stack embedded
      { caches with
        cache := Function.update caches.cache owner after
        calls := caches.calls ++ [{ owner, stack, embedded, state }] }
    | _, _ => caches

/-- New caches behind requests. -/
def ofRequests (requests : List CacheRequest) : Caches := requests.foldl serve {}

end Caches

/-! ### What one request can do -/

namespace StateCache

variable {cache after : StateCache} {below : Option Stack} {stack : Stack}

/-- A line state that a cache hands out is the one that it shares, or a new one. A new one is shared
from then on if no language is embedded and the stack is shallow. -/
theorem lineState_cases {embedded : Option Embedded} {state : LineState}
    (makes : cache.lineState stack embedded = (state, after)) :
    (embedded = none ∧ stack.depth < sharedDepth ∧
        cache.findLineState? stack.names = some state ∧ after = cache) ∨
      (state = LineState.make cache.nextIdentity stack embedded ∧ ∃ shares,
        after = { cache with
          made := cache.made + 1, sharedStates := shares ++ cache.sharedStates } ∧
        (embedded = none ∧ stack.depth < sharedDepth →
          shares = [state] ∧ cache.findLineState? stack.names = none) ∧
        (¬ (embedded = none ∧ stack.depth < sharedDepth) → shares = [])) := by
  unfold lineState at makes
  dsimp only at makes
  split at makes
  · next apart =>
    cases makes
    refine .inr ⟨rfl, [], rfl, fun shares => ?_, fun _ => rfl⟩
    rcases apart with present | deep
    · rw [shares.1] at present
      cases present
    · omega
  · next together =>
    have plain : embedded = none := by
      simpa using fun present => together (.inl present)
    have shallow : stack.depth < sharedDepth := by
      by_contra deep
      exact together (.inr (Nat.le_of_not_lt deep))
    split at makes
    · next shared found =>
      cases makes
      exact .inl ⟨plain, shallow, found, rfl⟩
    · next absent =>
      cases makes
      refine .inr ⟨rfl, [LineState.make cache.nextIdentity stack embedded], rfl, ?_, ?_⟩
      · exact fun _ => ⟨rfl, absent⟩
      · exact fun apart => absurd ⟨plain, shallow⟩ apart

/-- A cache that hands out a line state makes no stack. -/
theorem grows_lineState {embedded : Option Embedded} {state : LineState}
    (makes : cache.lineState stack embedded = (state, after)) :
    after.owner = cache.owner ∧ cache.made ≤ after.made ∧
      after.sharedStacks = cache.sharedStacks := by
  rcases lineState_cases makes with ⟨-, -, -, rfl⟩ | ⟨-, shares, rfl, -⟩
  · exact ⟨rfl, Nat.le_refl _, rfl⟩
  · exact ⟨rfl, Nat.le_succ _, rfl⟩

end StateCache

/-- A request for a stack makes no line state. -/
theorem Served.grows_serve (served : Served) (request : StackRequest) :
    served.cache.made ≤ (served.serve request).cache.made ∧
      (served.serve request).cache.sharedStates = served.cache.sharedStates := by
  unfold serve
  cases answers : served.answer request with
  | none => exact ⟨Nat.le_refl _, rfl⟩
  | some made =>
    obtain ⟨stack, after⟩ := made
    show served.cache.made ≤ after.made ∧ after.sharedStates = served.cache.sharedStates
    rcases answer_cases answers with ⟨-, rfl⟩ | ⟨below, name, -, makes⟩
    · exact ⟨Nat.le_refl _, rfl⟩
    · rcases StateCache.create_cases makes with ⟨-, rfl⟩ | ⟨-, shares, rfl, -⟩
      · exact ⟨Nat.le_refl _, rfl⟩
      · exact ⟨Nat.le_succ _, rfl⟩

/-! ### Line states -/

/-- What holds of several caches and of all the line states that they have handed out. -/
structure StatesShared (cache : Nat → StateCache) (given : List Stack)
    (calls : List LineStateCall) : Prop where
  /-- Every line state was made by the cache that was asked. -/
  made : ∀ {call}, call ∈ calls → call.state.identity.cache = call.owner ∧
    call.state.identity.serial < (cache call.owner).made
  /-- A line state has what was asked for. -/
  content : ∀ {call}, call ∈ calls →
    call.state.stack.names = call.stack.names ∧ call.state.embedded? = call.embedded
  /-- All that was asked for was handed out before. -/
  known : ∀ {call}, call ∈ calls → call.stack ∈ given ∧ call.state.stack ∈ given
  inner : ∀ {call}, call ∈ calls → ∀ embedded ∈ call.embedded, ∀ state ∈ embedded.state,
    ∃ other ∈ calls, other.state = state
  /-- A shared line state is found when it is asked for again. -/
  found : ∀ {call}, call ∈ calls → call.Shares →
    (cache call.owner).findLineState? call.stack.names = some call.state
  /-- A cache only shares line states that it has handed out to be shared. -/
  held : ∀ {owner state}, state ∈ (cache owner).sharedStates →
    ∃ call ∈ calls, call.owner = owner ∧ call.Shares ∧ call.state = state
  /-- Line states are one object exactly where they are shared. -/
  apart : calls.Pairwise LineStateCall.Separates

namespace StateCache

variable {cache : StateCache} {names : List String} {state : LineState}

/-- A look-up that finds nothing new finds what was there before. -/
theorem findLineState?_of_shares {shares : List LineState} {made : Nat}
    (silent : ∀ state ∈ shares, state.stack.names ≠ names) :
    findLineState? { cache with made, sharedStates := shares ++ cache.sharedStates } names =
      cache.findLineState? names := by
  unfold findLineState?
  rw [List.find?_append, List.find?_eq_none.2, Option.none_or]
  intro state held
  simp [silent state held]

/-- A new line state without an embedded language is found by its names. -/
theorem findLineState?_cons (named : state.stack.names = names) (plain : state.embedded? = none)
    {made : Nat} :
    findLineState? { cache with made, sharedStates := state :: cache.sharedStates } names =
      some state := by
  unfold findLineState?
  rw [List.find?_cons_of_pos]
  simp [named, plain]

/-- What is found has the names that were asked for, and no language is embedded in it. -/
theorem content_of_findLineState? (found : cache.findLineState? names = some state) :
    state ∈ cache.sharedStates ∧ state.stack.names = names ∧ state.embedded? = none := by
  have fits := List.find?_some found
  simp only [Bool.and_eq_true, decide_eq_true_eq, Option.isNone_iff_eq_none] at fits
  exact ⟨List.mem_of_find?_eq_some found, fits⟩

theorem identity_make (identity : Identity) (stack : Stack) (embedded : Option Embedded) :
    (LineState.make identity stack embedded).identity = identity := by
  rcases embedded with _ | ⟨language, _ | inner⟩ <;> rfl

end StateCache

namespace StatesShared

variable {cache : Nat → StateCache} {given more : List Stack} {calls : List LineStateCall}
variable {owner : Nat} {after : StateCache} {earlier later : LineStateCall}

theorem empty : StatesShared (fun owner => { owner }) [] [] where
  made := nofun
  content := nofun
  known := nofun
  inner := nofun
  found := nofun
  held := nofun
  apart := .nil

/-- A cache may make objects other than line states, and stacks may be handed out. -/
theorem grown (shared : StatesShared cache given calls)
    (grows : (cache owner).made ≤ after.made)
    (states : after.sharedStates = (cache owner).sharedStates) :
    StatesShared (Function.update cache owner after) (given ++ more) calls := by
  have same := StateCache.field_update StateCache.sharedStates states
  constructor
  · intro call inside
    obtain ⟨own, less⟩ := shared.made inside
    exact ⟨own, Nat.lt_of_lt_of_le less (StateCache.made_le_update grows _)⟩
  · exact shared.content
  · intro call inside
    obtain ⟨first, second⟩ := shared.known inside
    exact ⟨List.mem_append_left _ first, List.mem_append_left _ second⟩
  · exact shared.inner
  · intro call inside shares
    unfold StateCache.findLineState?
    rw [same]
    exact shared.found inside shares
  · intro other state held
    rw [same] at held
    exact shared.held held
  · exact shared.apart

/-- Two calls for line states that are one object coincide if one of them is shared. -/
theorem coincides_of_same (shared : StatesShared cache given calls) (first : earlier ∈ calls)
    (second : later ∈ calls) (shares : later.Shares)
    (same : earlier.state.identity = later.state.identity) : earlier.Coincides later := by
  by_cases one : earlier = later
  · rw [one]
    exact ⟨rfl, shares, shares, rfl⟩
  · exact (shared.apart.forall first second one).1 same

/-- Line states of calls that coincide are the same in all their parts. -/
theorem eq_of_coincides (shared : StatesShared cache given calls) (first : earlier ∈ calls)
    (second : later ∈ calls) (coincides : earlier.Coincides later) :
    earlier.state = later.state := by
  obtain ⟨one, shares, sharesToo, names⟩ := coincides
  have found := shared.found first shares
  rw [one, names, shared.found second sharesToo] at found
  exact (Option.some.inj found).symm

/-- A cache may hand out the line state that it shares. -/
theorem again (shared : StatesShared cache given calls) {stack : Stack} {state : LineState}
    (listed : stack ∈ given) (shallow : stack.depth < StateCache.sharedDepth)
    (found : (cache owner).findLineState? stack.names = some state) :
    StatesShared cache given (calls ++ [⟨owner, stack, none, state⟩]) := by
  obtain ⟨held, names, plain⟩ := StateCache.content_of_findLineState? found
  obtain ⟨first, inside, one, shares, rfl⟩ := shared.held held
  constructor
  · intro call among
    rcases List.mem_append.1 among with before | new
    · exact shared.made before
    · have known := shared.made inside
      rw [List.mem_singleton.1 new, ← one]
      exact known
  · intro call among
    rcases List.mem_append.1 among with before | new
    · exact shared.content before
    · rw [List.mem_singleton.1 new]
      exact ⟨names, plain⟩
  · intro call among
    rcases List.mem_append.1 among with before | new
    · exact shared.known before
    · rw [List.mem_singleton.1 new]
      exact ⟨listed, (shared.known inside).2⟩
  · intro call among embedded present inner state
    rcases List.mem_append.1 among with before | new
    · obtain ⟨other, within, same⟩ := shared.inner before embedded present inner state
      exact ⟨other, List.mem_append_left _ within, same⟩
    · rw [List.mem_singleton.1 new] at present
      cases present
  · intro call among callShares
    rcases List.mem_append.1 among with before | new
    · exact shared.found before callShares
    · rw [List.mem_singleton.1 new]
      exact found
  · intro other state holds
    obtain ⟨call, within, rest⟩ := shared.held holds
    exact ⟨call, List.mem_append_left _ within, rest⟩
  · refine List.pairwise_append.2 ⟨shared.apart, List.pairwise_singleton _ _, ?_⟩
    intro earlier before later new
    rw [List.mem_singleton.1 new]
    constructor
    · intro same
      obtain ⟨oneToo, earlierShares, -, namesToo⟩ :=
        shared.coincides_of_same before inside shares same
      refine ⟨oneToo.trans one, earlierShares, ⟨rfl, shallow⟩, ?_⟩
      rw [namesToo, ← (shared.content inside).1, names]
    · rintro ⟨oneToo, earlierShares, -, namesToo⟩
      have foundToo := shared.found before earlierShares
      rw [oneToo, namesToo, found] at foundToo
      rw [Option.some.inj foundToo]

/-- A cache may hand out a new line state, if it shares it exactly where no language is embedded and
the stack is shallow, and then none was found by its names. -/
theorem built (shared : StatesShared cache given calls) {stack : Stack} {state : LineState}
    {embedded : Option Embedded} {shares : List LineState}
    (owned : (cache owner).owner = owner) (listed : stack ∈ given)
    (inner : ∀ guest ∈ embedded, ∀ state ∈ guest.state, ∃ other ∈ calls, other.state = state)
    (new : state = LineState.make (cache owner).nextIdentity stack embedded)
    (makes : after = { cache owner with
      made := (cache owner).made + 1, sharedStates := shares ++ (cache owner).sharedStates })
    (shallow : embedded = none ∧ stack.depth < StateCache.sharedDepth →
      shares = [state] ∧ (cache owner).findLineState? stack.names = none)
    (deep : ¬ (embedded = none ∧ stack.depth < StateCache.sharedDepth) → shares = []) :
    StatesShared (Function.update cache owner after) given
      (calls ++ [⟨owner, stack, embedded, state⟩]) := by
  have identity : state.identity = ⟨owner, (cache owner).made⟩ := by
    rw [new, StateCache.identity_make, StateCache.nextIdentity, owned]
  have stackIs : state.stack = stack := by
    rw [new, LineState.stack_make]
  have embeddedIs : state.embedded? = embedded := by
    rw [new, LineState.embedded?_make]
  have unseen : ∀ {call : LineStateCall}, call ∈ calls → call.owner = owner → call.Shares →
      embedded = none ∧ stack.depth < StateCache.sharedDepth →
        stack.names ≠ call.stack.names := by
    intro call before one callShares isShared names
    have found := shared.found before callShares
    rw [one, ← names, (shallow isShared).2] at found
    cases found
  constructor
  · intro call among
    rcases List.mem_append.1 among with before | added
    · obtain ⟨own, less⟩ := shared.made before
      have grows : (cache owner).made ≤ after.made := by
        rw [makes]
        exact Nat.le_succ _
      exact ⟨own, Nat.lt_of_lt_of_le less (StateCache.made_le_update grows _)⟩
    · rw [List.mem_singleton.1 added, identity, Function.update_self, makes]
      exact ⟨rfl, Nat.lt_succ_self _⟩
  · intro call among
    rcases List.mem_append.1 among with before | added
    · exact shared.content before
    · rw [List.mem_singleton.1 added]
      exact ⟨by rw [stackIs], embeddedIs⟩
  · intro call among
    rcases List.mem_append.1 among with before | added
    · exact shared.known before
    · rw [List.mem_singleton.1 added, stackIs]
      exact ⟨listed, listed⟩
  · intro call among guest present state within
    rcases List.mem_append.1 among with before | added
    · obtain ⟨other, there, same⟩ := shared.inner before guest present state within
      exact ⟨other, List.mem_append_left _ there, same⟩
    · rw [List.mem_singleton.1 added] at present
      obtain ⟨other, there, same⟩ := inner guest present state within
      exact ⟨other, List.mem_append_left _ there, same⟩
  · intro call among callShares
    rcases List.mem_append.1 among with before | added
    · have found := shared.found before callShares
      by_cases one : call.owner = owner
      · rw [one] at found ⊢
        rw [Function.update_self, makes, StateCache.findLineState?_of_shares, found]
        intro other held
        by_cases isShared : embedded = none ∧ stack.depth < StateCache.sharedDepth
        · rw [(shallow isShared).1, List.mem_singleton] at held
          rw [held, stackIs]
          exact unseen before one callShares isShared
        · rw [deep isShared] at held
          cases held
      · rw [Function.update_of_ne one]
        exact found
    · rw [List.mem_singleton.1 added] at callShares ⊢
      rw [Function.update_self, makes, (shallow callShares).1]
      exact StateCache.findLineState?_cons (by rw [stackIs]) (embeddedIs.trans callShares.1)
  · intro other kept held
    have older : kept ∈ (cache other).sharedStates →
        ∃ call ∈ calls ++ [⟨owner, stack, embedded, state⟩],
          call.owner = other ∧ call.Shares ∧ call.state = kept := by
      intro before
      obtain ⟨call, there, rest⟩ := shared.held before
      exact ⟨call, List.mem_append_left _ there, rest⟩
    by_cases one : other = owner
    · rw [one, Function.update_self, makes] at held
      rcases List.mem_append.1 held with added | before
      · by_cases isShared : embedded = none ∧ stack.depth < StateCache.sharedDepth
        · rw [(shallow isShared).1, List.mem_singleton] at added
          exact ⟨_, List.mem_append_right _ (List.mem_singleton_self _), one.symm, isShared,
            added.symm⟩
        · rw [deep isShared] at added
          cases added
      · exact older (one ▸ before)
    · rw [Function.update_of_ne one] at held
      exact older held
  · refine List.pairwise_append.2 ⟨shared.apart, List.pairwise_singleton _ _, ?_⟩
    intro earlier before later added
    rw [List.mem_singleton.1 added]
    refine iff_of_false ?_ ?_
    · intro same
      obtain ⟨own, less⟩ := shared.made before
      rw [← own, same, identity] at less
      exact Nat.lt_irrefl _ less
    · rintro ⟨one, earlierShares, isShared, names⟩
      exact unseen before one earlierShares isShared names.symm

/-- A cache may be asked for a line state on a stack that was handed out. -/
theorem lineState (shared : StatesShared cache given calls) {stack : Stack} {state : LineState}
    {embedded : Option Embedded} (owned : (cache owner).owner = owner) (listed : stack ∈ given)
    (inner : ∀ guest ∈ embedded, ∀ state ∈ guest.state, ∃ other ∈ calls, other.state = state)
    (makes : (cache owner).lineState stack embedded = (state, after)) :
    StatesShared (Function.update cache owner after) given
      (calls ++ [⟨owner, stack, embedded, state⟩]) := by
  rcases StateCache.lineState_cases makes with
    ⟨rfl, shallow, found, rfl⟩ | ⟨new, shares, grows, shallow, deep⟩
  · rw [Function.update_eq_self]
    exact shared.again listed shallow found
  · exact shared.built owned listed inner new grows shallow deep

end StatesShared

/-! ### Requests that are answered -/

namespace Caches

variable {caches : Caches}

/-- What holds of caches and of all that they have handed out. -/
structure Sound (caches : Caches) : Prop where
  nodes : NodesShared caches.cache caches.given
  lineStates : StatesShared caches.cache caches.given caches.calls

theorem sound_empty : Sound {} where
  nodes := NodesShared.empty
  lineStates := StatesShared.empty

/-- A request for a stack keeps what holds of caches and of all that they have handed out. -/
theorem sound_stack (sound : caches.Sound) (owner : Nat) (request : StackRequest) :
    (caches.serve (.stack owner request)).Sound := by
  constructor
  · have nodes : NodesShared caches.cache (caches.served owner).given := sound.nodes
    exact nodes.serve rfl request
  · obtain ⟨grows, sharing⟩ := Served.grows_serve (caches.served owner) request
    show StatesShared (Function.update caches.cache owner _)
      ((caches.served owner).serve request).given caches.calls
    rw [Served.given_serve]
    exact sound.lineStates.grown grows sharing

/-- A language that a request names is in a line state that was handed out. -/
theorem inner_of_embedded? {named : Option (String × Option Nat)} {embedded : Option Embedded}
    (names : caches.embedded? named = some embedded) :
    ∀ guest ∈ embedded, ∀ state ∈ guest.state, ∃ other ∈ caches.calls, other.state = state := by
  intro guest present state within
  rcases named with _ | ⟨language, _ | place⟩
  · cases names
    cases present
  · cases names
    cases present
    cases within
  · obtain ⟨held, listed, same⟩ := Option.map_eq_some_iff.1 names
    cases same
    cases present
    cases within
    exact List.mem_map.1 (List.mem_of_getElem? listed)

/-- A request for a line state keeps it, too. -/
theorem sound_lineState (sound : caches.Sound) (owner place : Nat)
    (named : Option (String × Option Nat)) :
    (caches.serve (.lineState owner place named)).Sound := by
  unfold serve
  dsimp only
  split
  · next stack embedded names tells =>
    have listed := Served.mem_stacks_of_stack? names
    rcases makes : (caches.cache owner).lineState stack embedded with ⟨state, after⟩
    constructor
    · obtain ⟨own, grows, sharing⟩ := StateCache.grows_lineState makes
      exact sound.nodes.grown own grows sharing
    · exact sound.lineStates.lineState (sound.nodes.owned owner) listed
        (inner_of_embedded? tells) makes
  · exact sound

/-- Every request keeps what holds of caches and of all that they have handed out. -/
theorem sound_serve (sound : caches.Sound) (request : CacheRequest) :
    (caches.serve request).Sound := by
  cases request with
  | stack owner request => exact sound_stack sound owner request
  | lineState owner place named => exact sound_lineState sound owner place named

/-- So it holds after any requests. -/
theorem sound_ofRequests (requests : List CacheRequest) : (ofRequests requests).Sound := by
  induction requests using List.reverseRecOn with
  | nil => exact sound_empty
  | append_singleton requests request step =>
    unfold ofRequests
    rw [List.foldl_append]
    exact sound_serve step request

/-- Which line states are one object. Among all that caches hand out, on stacks that any of them
have handed out, two line states are one object exactly if they were asked of one cache without an
embedded language, on stacks with equal names that are less deep than shared stacks may be. The
stacks themselves, where one cache has made them, are one object even at that depth. And a line
state has the names and the embedded language that were asked for. -/
theorem lineStates_same_iff (requests : List CacheRequest) :
    (ofRequests requests).calls.Pairwise (fun earlier later =>
        (earlier.state.same later.state = true ↔
          earlier.owner = later.owner ∧ earlier.embedded = none ∧ later.embedded = none ∧
            earlier.stack.names = later.stack.names ∧
            earlier.stack.names.length < StateCache.sharedDepth) ∧
          (earlier.stack.identity.cache = later.stack.identity.cache →
            earlier.stack.names = later.stack.names →
            earlier.stack.names.length ≤ StateCache.sharedDepth →
              earlier.stack.same later.stack = true)) ∧
      ∀ call ∈ (ofRequests requests).calls,
        call.state.stack.names = call.stack.names ∧ call.state.embedded? = call.embedded := by
  obtain ⟨nodes, lineStates⟩ := sound_ofRequests requests
  refine ⟨?_, fun call inside => lineStates.content inside⟩
  refine lineStates.apart.imp_of_mem ?_
  intro earlier later first second separates
  constructor
  · rw [LineState.same, beq_iff_eq, Stack.length_names]
    refine separates.trans ⟨?_, ?_⟩
    · rintro ⟨one, ⟨plain, shallow⟩, ⟨plainToo, -⟩, names⟩
      exact ⟨one, plain, plainToo, names, shallow⟩
    · rintro ⟨one, plain, plainToo, names, shallow⟩
      have depth := Stack.depth_eq_of_names names
      exact ⟨one, ⟨plain, shallow⟩, ⟨plainToo, depth ▸ shallow⟩, names⟩
  · intro one names shallow
    rw [Stack.length_names] at shallow
    exact nodes.same_of_names (occurs_of_mem (lineStates.known first).1)
      (occurs_of_mem (lineStates.known second).1) one names shallow

/-- Requests to one cache: a stack of five states, and two line states on one of its levels. -/
def twiceOn (place : Nat) : List CacheRequest :=
  [.stack 0 (.root "a"), .stack 0 (.push 0 "b"), .stack 0 (.push 1 "c"), .stack 0 (.push 2 "d"),
    .stack 0 (.push 3 "e"), .lineState 0 place none, .lineState 0 place none]

/-- Two line states on four states are one object. On five states the stacks are one object, and the
line states are two. -/
theorem lineStates_same_iff_boundary :
    (∃ first second, (ofRequests (twiceOn 3)).calls = [first, second] ∧
      first.stack.names = ["d", "c", "b", "a"] ∧ first.state.same second.state = true) ∧
    ∃ first second, (ofRequests (twiceOn 4)).calls = [first, second] ∧
      first.stack.names = ["e", "d", "c", "b", "a"] ∧ first.stack.same second.stack = true ∧
      first.state.same second.state = false := by
  have shared := (lineStates_same_iff (twiceOn 3)).1
  have apart := (lineStates_same_iff (twiceOn 4)).1
  constructor
  · obtain ⟨first, second, calls⟩ :=
      List.length_eq_two.1 (show (ofRequests (twiceOn 3)).calls.length = 2 by decide +kernel)
    have asked : (ofRequests (twiceOn 3)).calls.all fun call =>
        decide (call.owner = 0 ∧ call.embedded = none ∧
          call.stack.names = ["d", "c", "b", "a"]) := by decide +kernel
    rw [calls] at shared asked
    simp only [List.all_cons, List.all_nil, Bool.and_true, Bool.and_eq_true,
      decide_eq_true_eq] at asked
    obtain ⟨⟨owner, plain, names⟩, ownerToo, plainToo, namesToo⟩ := asked
    refine ⟨first, second, calls, names, ?_⟩
    refine (List.pairwise_pair.1 shared).1.2 ⟨owner.trans ownerToo.symm, plain, plainToo,
      names.trans namesToo.symm, ?_⟩
    rw [names]
    decide
  · obtain ⟨first, second, calls⟩ :=
      List.length_eq_two.1 (show (ofRequests (twiceOn 4)).calls.length = 2 by decide +kernel)
    have asked : (ofRequests (twiceOn 4)).calls.all fun call =>
        decide (call.stack.identity.cache = 0 ∧
          call.stack.names = ["e", "d", "c", "b", "a"]) := by decide +kernel
    rw [calls] at apart asked
    simp only [List.all_cons, List.all_nil, Bool.and_true, Bool.and_eq_true,
      decide_eq_true_eq] at asked
    obtain ⟨⟨cache, names⟩, cacheToo, namesToo⟩ := asked
    obtain ⟨differ, same⟩ := List.pairwise_pair.1 apart
    refine ⟨first, second, calls, names, ?_, ?_⟩
    · refine same (cache.trans cacheToo.symm) (names.trans namesToo.symm) ?_
      rw [names]
      decide
    · rw [Bool.eq_false_iff]
      intro one
      have shallow := (differ.1 one).2.2.2.2
      rw [names] at shallow
      exact absurd shallow (by decide)

/-- A cache need not share a line state on a stack that it shares. -/
theorem not_forall_lineStates_shared :
    ¬ ∀ (owner : Nat) (requests : List CacheRequest),
      (∀ request ∈ requests, request.owner = owner) →
        (ofRequests requests).calls.Pairwise fun earlier later =>
          earlier.embedded = none → later.embedded = none →
            earlier.stack.names = later.stack.names →
              earlier.stack.names.length ≤ StateCache.sharedDepth →
                earlier.state.same later.state = true := by
  intro shares
  exact absurd (shares 0 (twiceOn 4) (by decide)) (by decide +kernel)

end Caches

end LineLexer
