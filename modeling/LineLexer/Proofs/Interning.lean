import LineLexer.State.Cache
import Mathlib.Data.List.Dedup
import Mathlib.Logic.Function.Basic

/-!
**Which stacks are one object.**

A cache is asked for stacks again and again, each built on ones that it has handed out before.
Whatever was asked before, the stacks are those that plain lists of names would give, two shallow
ones with the same names are one object, and the cache holds each of them once.

* `StackRequest`, `Served`: requests, and a cache with the answers that it has given;
* `StackRequest.plainAll`: the answers that plain lists of names give;
* `Stack.levels`: a stack and the stacks below it, all of which are nodes that may be handed out;
* `StateCache.create_cases`, `Served.answer_cases`: all that one request can do;
* `NodesShared`: what holds of several caches and of the stacks that they have handed out, and
  `NodesShared.serve`: every request keeps it;
* `Interned`: what holds of a single cache;
* `Served.stacks_interned`: what holds after any requests to it.
-/

namespace LineLexer

/-! ### Requests -/

/-- Something that a cache is asked for. A stack is named by the place of the request that it
answered. -/
inductive StackRequest where
  /-- The stack of one state. -/
  | root (state : String)
  /-- A stack with one more state. -/
  | push (place : Nat) (state : String)
  /-- A stack with another state on top. -/
  | switchTo (place : Nat) (state : String)
  /-- A stack whose top is dropped. -/
  | pop (place : Nat)
  /-- The stack below the top, which is only looked at. -/
  | parent (place : Nat)
  /-- The bottom of a stack. -/
  | toRoot (place : Nat)
  deriving DecidableEq, Repr

namespace StackRequest

/-- The names, from the top, that answer a request where stacks are plain lists of names. What is
below a single name, and what no earlier answer is named for, is no stack. -/
def plain (answers : List (Option (List String))) : StackRequest → Option (List String)
  | root state => some [state]
  | push place state => answers[place]?.join.map (state :: ·)
  | switchTo place state => answers[place]?.join.map fun names => state :: names.tail
  | pop place | parent place =>
    answers[place]?.join.bind fun names => if names.tail = [] then none else some names.tail
  | toRoot place => answers[place]?.join.map fun names => names.drop (names.length - 1)

/-- The answers to requests, in order, where stacks are plain lists of names. -/
def plainAll (requests : List StackRequest) : List (Option (List String)) :=
  requests.foldl (fun answers request => answers ++ [request.plain answers]) []

end StackRequest

/-- The different chains of names among answers that are not longer than a shared stack is deep. -/
def shallowNames (answers : List (Option (List String))) : List (List String) :=
  ((answers.filterMap id).filter fun names => names.length ≤ StateCache.sharedDepth).dedup

/-- A cache with the answers that it has given, in order. -/
structure Served where
  cache : StateCache
  answers : List (Option Stack) := []
  deriving Repr

namespace Served

/-- The stack that answered an earlier request. -/
def stack? (served : Served) (place : Nat) : Option Stack := served.answers[place]?.join

/-- The stacks among the answers. -/
def given (served : Served) : List Stack := served.answers.filterMap id

/-- The stack that answers a request, and what becomes of the cache. Where there is none, nothing
becomes of the cache. -/
def answer (served : Served) : StackRequest → Option (Stack × StateCache)
  | .root state => some (served.cache.root state)
  | .push place state => (served.stack? place).map (served.cache.push · state)
  | .switchTo place state => (served.stack? place).map (served.cache.switchTo · state)
  | .pop place | .parent place =>
    ((served.stack? place).bind Stack.pop?).map (·, served.cache)
  | .toRoot place => ((served.stack? place).map Stack.toRoot).map (·, served.cache)

/-- Answers one more request. -/
def serve (served : Served) (request : StackRequest) : Served where
  cache := ((served.answer request).map Prod.snd).getD served.cache
  answers := served.answers ++ [(served.answer request).map Prod.fst]

/-- Answers requests in order. -/
def serveAll (served : Served) (requests : List StackRequest) : Served :=
  requests.foldl serve served

/-- A new cache behind requests. -/
def ofRequests (owner : Nat) (requests : List StackRequest) : Served :=
  serveAll { cache := { owner } } requests

end Served

/-! ### Nodes -/

namespace Stack

variable {stack level lower left right : Stack}

/-- Where no two of some stacks have the same names, those with the same names are one object. -/
theorem same_of_names_of_nodup {shares : List Stack} (distinct : (shares.map names).Nodup)
    (first : left ∈ shares) (second : right ∈ shares) (equal : left.names = right.names) :
    left.same right = true := by
  rw [List.inj_on_of_nodup_map distinct first second equal]
  exact beq_self_eq_true _

/-- A stack and the stacks below it, from the top. -/
def levels : Stack → List Stack
  | root identity state => [root identity state]
  | push identity below state => push identity below state :: below.levels

theorem mem_levels_self (stack : Stack) : stack ∈ stack.levels := by
  cases stack <;> simp [levels]

/-- What is below a level of a stack is below the stack. -/
theorem levels_trans (inside : level ∈ stack.levels) (below : lower ∈ level.levels) :
    lower ∈ stack.levels := by
  induction stack with
  | root identity state =>
    rw [levels, List.mem_singleton] at inside
    rw [inside] at below
    exact below
  | push identity below' state step =>
    rw [levels, List.mem_cons] at inside
    rcases inside with rfl | inside
    · exact below
    · exact List.mem_cons_of_mem _ (step inside)

theorem mem_levels_of_pop? (pops : stack.pop? = some level) : level ∈ stack.levels := by
  cases stack with
  | root identity state => cases pops
  | push identity below state =>
    cases pops
    exact List.mem_cons_of_mem _ (mem_levels_self _)

theorem toRoot_mem_levels (stack : Stack) : stack.toRoot ∈ stack.levels := by
  induction stack with
  | root identity state => exact mem_levels_self _
  | push identity below state step => exact List.mem_cons_of_mem _ step

/-- The names below the top, of which there are none at a root. -/
theorem pop?_map_names (stack : Stack) :
    stack.pop?.map names = if stack.names.tail = [] then none else some stack.names.tail := by
  cases stack with
  | root identity state => rfl
  | push identity below state =>
    simp [pop?, names, names_ne_nil]

theorem names_toRoot_eq_drop (stack : Stack) :
    stack.toRoot.names = stack.names.drop (stack.names.length - 1) := by
  induction stack with
  | root identity state => rfl
  | push identity below state step =>
    obtain ⟨more, deeper⟩ := Nat.exists_eq_add_of_lt below.depth_pos
    rw [toRoot, step, length_names, length_names, names, depth, deeper]
    simp

end Stack

/-! ### What a cache keeps -/

namespace StateCache

variable {cache after : StateCache} {below : Option Stack} {stack : Stack}

theorem identity_build (cache : StateCache) (below : Option Stack) (state : String) :
    (cache.build below state).identity = cache.nextIdentity := by
  cases below <;> rfl

theorem levels_build (cache : StateCache) (below : Option Stack) (state : String) :
    (cache.build below state).levels =
      cache.build below state :: (below.map Stack.levels).getD [] := by
  cases below <;> rfl

theorem depth_build (cache : StateCache) (below : Option Stack) (state : String) :
    (cache.build below state).depth = (below.map Stack.depth).getD 0 + 1 := by
  cases below <;> rfl

/-- A stack that a cache hands out is one that it shares, or a new one. A new one is shared from
then on if it is shallow, and then no shared stack had its names. -/
theorem create_cases {name : String} (makes : cache.create below name = (stack, after)) :
    (stack ∈ cache.sharedStacks ∧ after = cache) ∨
      (stack = cache.build below name ∧ ∃ shares,
        after = { cache with
          made := cache.made + 1, sharedStacks := shares ++ cache.sharedStacks } ∧
        (stack.depth ≤ sharedDepth →
          shares = [stack] ∧ stack.names ∉ cache.sharedStacks.map Stack.names) ∧
        (sharedDepth < stack.depth → shares = [])) := by
  have depth := depth_build cache below name
  unfold create at makes
  dsimp only at makes
  split at makes
  · next deep =>
    cases makes
    refine .inr ⟨rfl, [], rfl, fun shallow => ?_, fun _ => rfl⟩
    omega
  · next notDeep =>
    split at makes
    · next shared found =>
      cases makes
      exact .inl ⟨List.mem_of_find?_eq_some found, rfl⟩
    · next absent =>
      cases makes
      refine .inr ⟨rfl, [cache.build below name], rfl, fun _ => ⟨rfl, ?_⟩, fun deep => ?_⟩
      · intro listed
        obtain ⟨shared, held, same⟩ := List.mem_map.1 listed
        have differs := List.find?_eq_none.1 absent shared held
        exact differs (by simpa using same)
      · omega

end StateCache

section Update

variable {cache : Nat → StateCache} {owner : Nat} {after : StateCache}

/-- Where one of several caches changes but for a part of it, this part of each cache stays. -/
theorem StateCache.field_update {Field : Type} (field : StateCache → Field)
    (same : field after = field (cache owner)) (other : Nat) :
    field (Function.update cache owner after other) = field (cache other) := by
  by_cases one : other = owner
  · rw [one, Function.update_self, same]
  · rw [Function.update_of_ne one]

/-- Where one of several caches makes more objects, no cache has made fewer. -/
theorem StateCache.made_le_update (more : (cache owner).made ≤ after.made) (other : Nat) :
    (cache other).made ≤ (Function.update cache owner after other).made := by
  by_cases one : other = owner
  · rw [one, Function.update_self]
    exact more
  · exact Nat.le_of_eq (by rw [Function.update_of_ne one])

end Update

/-- A node that the holder of stacks can come to. -/
def Occurs (given : List Stack) (level : Stack) : Prop := ∃ stack ∈ given, level ∈ stack.levels

/-- A stack that has just been handed out is a node, and so is everything below it. -/
theorem occurs_append_iff {given : List Stack} {added level : Stack} :
    Occurs (given ++ [added]) level ↔ Occurs given level ∨ level ∈ added.levels := by
  simp [Occurs, or_and_right, exists_or]

theorem occurs_of_mem {given : List Stack} {stack : Stack} (listed : stack ∈ given) :
    Occurs given stack :=
  ⟨stack, listed, Stack.mem_levels_self stack⟩

/-- What is put on a node is a new node, and all below it could be come to before. -/
theorem occurs_build {given : List Stack} {cache : StateCache} {below : Option Stack}
    {name : String} {level : Stack} (occurs : ∀ stack ∈ below, Occurs given stack)
    (here : Occurs (given ++ [cache.build below name]) level) :
    Occurs given level ∨ level = cache.build below name := by
  rcases occurs_append_iff.1 here with before | inside
  · exact .inl before
  · rw [StateCache.levels_build, List.mem_cons] at inside
    rcases inside with same | lower
    · exact .inr same
    · cases below with
      | none => cases lower
      | some below =>
        obtain ⟨holder, listed, within⟩ := occurs below rfl
        exact .inl ⟨holder, listed, Stack.levels_trans within lower⟩

/-- What holds of several caches and of all the stacks that they have handed out. -/
structure NodesShared (cache : Nat → StateCache) (given : List Stack) : Prop where
  /-- Each cache is told from the others. -/
  owned : ∀ owner, (cache owner).owner = owner
  /-- Every node was made by the cache that its identity tells. -/
  made : ∀ {level}, Occurs given level →
    level.identity.serial < (cache level.identity.cache).made
  /-- An identity belongs to one node. -/
  unique : ∀ {left right}, Occurs given left → Occurs given right →
    left.identity = right.identity → left = right
  /-- Every shallow node is shared by the cache that made it. -/
  shared : ∀ {level}, Occurs given level → level.depth ≤ StateCache.sharedDepth →
    level ∈ (cache level.identity.cache).sharedStacks
  /-- A cache only shares shallow stacks that it has made and handed out. -/
  handed : ∀ {owner stack}, stack ∈ (cache owner).sharedStacks →
    stack ∈ given ∧ stack.depth ≤ StateCache.sharedDepth ∧ stack.identity.cache = owner
  /-- No two stacks that a cache shares have the same names. -/
  distinct : ∀ owner, ((cache owner).sharedStacks.map Stack.names).Nodup

namespace NodesShared

variable {cache : Nat → StateCache} {given : List Stack} {level left right stack : Stack}
variable {owner : Nat} {after : StateCache}

theorem empty : NodesShared (fun owner => { owner }) [] where
  owned _ := rfl
  made := by simp [Occurs]
  unique := by simp [Occurs]
  shared := by simp [Occurs]
  handed := by simp
  distinct := by simp

/-- A node that could be come to before may be handed out. -/
theorem again (shared : NodesShared cache given) (occurs : Occurs given level) :
    NodesShared cache (given ++ [level]) := by
  have earlier : ∀ {node}, Occurs (given ++ [level]) node → Occurs given node := by
    intro node here
    rcases occurs_append_iff.1 here with before | inside
    · exact before
    · obtain ⟨stack, listed, within⟩ := occurs
      exact ⟨stack, listed, Stack.levels_trans within inside⟩
  constructor
  · exact shared.owned
  · exact fun here => shared.made (earlier here)
  · exact fun here there same => shared.unique (earlier here) (earlier there) same
  · exact fun here shallow => shared.shared (earlier here) shallow
  · intro owner stack held
    obtain ⟨before, rest⟩ := shared.handed held
    exact ⟨List.mem_append_left _ before, rest⟩
  · exact shared.distinct

/-- A cache may make objects other than stacks. -/
theorem grown (shared : NodesShared cache given) (own : after.owner = (cache owner).owner)
    (more : (cache owner).made ≤ after.made)
    (sharing : after.sharedStacks = (cache owner).sharedStacks) :
    NodesShared (Function.update cache owner after) given := by
  have same := StateCache.field_update StateCache.sharedStacks sharing
  constructor
  · intro other
    rw [StateCache.field_update StateCache.owner own, shared.owned]
  · exact fun occurs =>
      Nat.lt_of_lt_of_le (shared.made occurs) (StateCache.made_le_update more _)
  · exact shared.unique
  · intro level occurs shallow
    rw [same]
    exact shared.shared occurs shallow
  · intro other stack held
    rw [same] at held
    exact shared.handed held
  · intro other
    rw [same]
    exact shared.distinct other

/-- A cache may make a new node on one that can be come to, if it shares the new one exactly where
it is shallow, and then no shared stack had its names. -/
theorem built (shared : NodesShared cache given) {below : Option Stack} {name : String}
    {shares : List Stack} (occurs : ∀ level ∈ below, Occurs given level)
    (new : stack = (cache owner).build below name)
    (makes : after = { cache owner with
      made := (cache owner).made + 1, sharedStacks := shares ++ (cache owner).sharedStacks })
    (shallow : stack.depth ≤ StateCache.sharedDepth →
      shares = [stack] ∧ stack.names ∉ (cache owner).sharedStacks.map Stack.names)
    (deep : StateCache.sharedDepth < stack.depth → shares = []) :
    NodesShared (Function.update cache owner after) (given ++ [stack]) := by
  have identity : stack.identity = ⟨owner, (cache owner).made⟩ := by
    rw [new, StateCache.identity_build, StateCache.nextIdentity, shared.owned]
  have fresh : ∀ {node}, Occurs given node → node.identity ≠ stack.identity := by
    intro node before equal
    have less := shared.made before
    rw [equal, identity] at less
    exact Nat.lt_irrefl _ less
  have either : ∀ {node}, Occurs (given ++ [stack]) node → Occurs given node ∨ node = stack :=
    fun here => new ▸ occurs_build occurs (new ▸ here)
  have listed : ∀ other node, node ∈ (Function.update cache owner after other).sharedStacks ↔
      (other = owner ∧ node ∈ shares) ∨ node ∈ (cache other).sharedStacks := by
    intro other node
    by_cases one : other = owner
    · rw [one, Function.update_self, makes]
      simp
    · rw [Function.update_of_ne one]
      simp [one]
  have newest : ∀ {node}, node ∈ shares →
      node = stack ∧ stack.depth ≤ StateCache.sharedDepth := by
    intro node held
    rcases Nat.lt_or_ge StateCache.sharedDepth stack.depth with low | high
    · rw [deep low] at held
      cases held
    · rw [(shallow high).1] at held
      exact ⟨List.mem_singleton.1 held, high⟩
  constructor
  · intro other
    have own : after.owner = (cache owner).owner := by rw [makes]
    rw [StateCache.field_update StateCache.owner own, shared.owned]
  · intro node here
    rcases either here with before | rfl
    · have grows : (cache owner).made ≤ after.made := by
        rw [makes]
        exact Nat.le_succ _
      exact Nat.lt_of_lt_of_le (shared.made before) (StateCache.made_le_update grows _)
    · rw [identity, Function.update_self, makes]
      exact Nat.lt_succ_self _
  · intro node other here there equal
    rcases either here with before | rfl
    · rcases either there with beforeToo | rfl
      · exact shared.unique before beforeToo equal
      · exact absurd equal (fresh before)
    · rcases either there with beforeToo | rfl
      · exact absurd equal.symm (fresh beforeToo)
      · rfl
  · intro node here low
    rw [listed]
    rcases either here with before | rfl
    · exact .inr (shared.shared before low)
    · rw [identity, (shallow low).1]
      exact .inl ⟨rfl, List.mem_singleton_self _⟩
  · intro other node held
    rcases (listed other node).1 held with ⟨rfl, added⟩ | old
    · obtain ⟨rfl, high⟩ := newest added
      rw [identity]
      exact ⟨List.mem_append_right _ (List.mem_singleton_self _), high, rfl⟩
    · obtain ⟨before, rest⟩ := shared.handed old
      exact ⟨List.mem_append_left _ before, rest⟩
  · intro other
    by_cases one : other = owner
    · rw [one, Function.update_self, makes]
      rcases Nat.lt_or_ge StateCache.sharedDepth stack.depth with low | high
      · rw [deep low]
        exact shared.distinct owner
      · obtain ⟨alone, absent⟩ := shallow high
        rw [alone, List.singleton_append, List.map_cons]
        exact List.nodup_cons.2 ⟨absent, shared.distinct owner⟩
    · rw [Function.update_of_ne one]
      exact shared.distinct other

/-- A cache may put a stack on a node that can be come to. -/
theorem create (shared : NodesShared cache given) {below : Option Stack} {name : String}
    (occurs : ∀ level ∈ below, Occurs given level)
    (makes : (cache owner).create below name = (stack, after)) :
    NodesShared (Function.update cache owner after) (given ++ [stack]) := by
  rcases StateCache.create_cases makes with ⟨held, rfl⟩ | ⟨new, shares, grows, shallow, deep⟩
  · rw [Function.update_eq_self]
    exact shared.again (occurs_of_mem (shared.handed held).1)
  · exact shared.built occurs new grows shallow deep

/-- Shallow stacks of one cache with the same names are one object. -/
theorem same_of_names (shared : NodesShared cache given) (first : Occurs given left)
    (second : Occurs given right) (one : left.identity.cache = right.identity.cache)
    (names : left.names = right.names) (shallow : left.depth ≤ StateCache.sharedDepth) :
    left.same right = true := by
  have held := shared.shared first shallow
  have heldToo := shared.shared second (Stack.depth_eq_of_names names ▸ shallow)
  rw [← one] at heldToo
  exact Stack.same_of_names_of_nodup (shared.distinct _) held heldToo names

end NodesShared

/-! ### Requests that are answered -/

namespace Served

variable {served : Served} {stack left right : Stack} {place : Nat}

theorem mem_stacks_of_stack? (named : served.stack? place = some stack) :
    stack ∈ served.given := by
  unfold stack? at named
  rw [Option.join_eq_some_iff] at named
  exact List.mem_filterMap.2 ⟨some stack, List.mem_of_getElem? named, rfl⟩

theorem occurs_of_stack? (named : served.stack? place = some stack) :
    Occurs served.given stack :=
  occurs_of_mem (mem_stacks_of_stack? named)

theorem given_serve (served : Served) (request : StackRequest) :
    (served.serve request).given =
      served.given ++ ((served.answer request).map Prod.fst).toList := by
  unfold serve given
  rw [List.filterMap_append]
  cases served.answer request <;> rfl

/-- A request for a stack is answered with a node that can be come to already, and nothing becomes
of the cache, or with one that the cache puts on such a node. -/
theorem answer_cases {request : StackRequest} {after : StateCache}
    (answers : served.answer request = some (stack, after)) :
    (Occurs served.given stack ∧ after = served.cache) ∨
      ∃ below name, (∀ level ∈ below, Occurs served.given level) ∧
        served.cache.create below name = (stack, after) := by
  cases request with
  | root name => exact .inr ⟨none, name, nofun, Option.some.inj answers⟩
  | push place name =>
    obtain ⟨below, named, makes⟩ := Option.map_eq_some_iff.1 answers
    refine .inr ⟨some below, name, fun level same => ?_, makes⟩
    cases same
    exact occurs_of_stack? named
  | switchTo place name =>
    obtain ⟨top, named, makes⟩ := Option.map_eq_some_iff.1 answers
    unfold StateCache.switchTo at makes
    split at makes
    · cases makes
      exact .inl ⟨occurs_of_stack? named, rfl⟩
    · refine .inr ⟨top.pop?, name, fun below pops => ?_, makes⟩
      exact ⟨top, mem_stacks_of_stack? named, Stack.mem_levels_of_pop? pops⟩
  | pop place | parent place =>
    obtain ⟨below, popped, same⟩ := Option.map_eq_some_iff.1 answers
    cases same
    obtain ⟨top, named, pops⟩ := Option.bind_eq_some_iff.1 popped
    exact .inl ⟨⟨top, mem_stacks_of_stack? named, Stack.mem_levels_of_pop? pops⟩, rfl⟩
  | toRoot place =>
    obtain ⟨bottom, rooted, same⟩ := Option.map_eq_some_iff.1 answers
    cases same
    obtain ⟨top, named, rfl⟩ := Option.map_eq_some_iff.1 rooted
    exact .inl ⟨⟨top, mem_stacks_of_stack? named, Stack.toRoot_mem_levels top⟩, rfl⟩

end Served

namespace NodesShared

variable {cache : Nat → StateCache} {served : Served} {owner : Nat}

/-- Every request to one of the caches keeps what holds of them and of the stacks handed out. -/
theorem serve (shared : NodesShared cache served.given) (own : served.cache = cache owner)
    (request : StackRequest) :
    NodesShared (Function.update cache owner (served.serve request).cache)
      (served.serve request).given := by
  rw [Served.given_serve]
  unfold Served.serve
  cases answers : served.answer request with
  | none =>
    show NodesShared (Function.update cache owner served.cache) (served.given ++ [])
    rw [own, Function.update_eq_self, List.append_nil]
    exact shared
  | some made =>
    obtain ⟨stack, after⟩ := made
    show NodesShared (Function.update cache owner after) (served.given ++ [stack])
    rcases Served.answer_cases answers with ⟨occurs, rfl⟩ | ⟨below, name, occurs, makes⟩
    · rw [own, Function.update_eq_self]
      exact shared.again occurs
    · rw [own] at makes
      exact shared.create occurs makes

/-- So do any requests in order. -/
theorem serveAll (shared : NodesShared (Function.update cache owner served.cache) served.given)
    (requests : List StackRequest) :
    NodesShared (Function.update cache owner (served.serveAll requests).cache)
      (served.serveAll requests).given := by
  induction requests generalizing served with
  | nil => exact shared
  | cons request rest step =>
    have served := shared.serve (Function.update_self owner served.cache cache).symm request
    rw [Function.update_idem] at served
    exact step served

end NodesShared

/-- What holds of a cache and of all the stacks that it has handed out. -/
structure Interned (cache : StateCache) (given : List Stack) : Prop where
  /-- Every node was made by the cache. -/
  made : ∀ {level}, Occurs given level →
    level.identity.cache = cache.owner ∧ level.identity.serial < cache.made
  /-- An identity belongs to one node. -/
  unique : ∀ {left right}, Occurs given left → Occurs given right →
    left.identity = right.identity → left = right
  /-- Every shallow node is shared, wherever it stands. -/
  shared : ∀ {level}, Occurs given level → level.depth ≤ StateCache.sharedDepth →
    level ∈ cache.sharedStacks
  /-- Only shallow stacks that were handed out are shared. -/
  handed : ∀ {stack}, stack ∈ cache.sharedStacks →
    stack ∈ given ∧ stack.depth ≤ StateCache.sharedDepth
  /-- No two shared stacks have the same names. -/
  distinct : (cache.sharedStacks.map Stack.names).Nodup

/-- Where the other caches are new, all nodes are those of one cache. -/
theorem NodesShared.interned {cache : StateCache} {given : List Stack} {owner : Nat}
    (shared : NodesShared (Function.update (fun owner => { owner }) owner cache) given) :
    Interned cache given := by
  have alone : ∀ {level}, Occurs given level → level.identity.cache = owner := by
    intro level occurs
    by_contra other
    have less := shared.made occurs
    rw [Function.update_of_ne other] at less
    exact Nat.not_lt_zero _ less
  have held : Function.update (fun owner => ({ owner } : StateCache)) owner cache owner = cache :=
    Function.update_self ..
  constructor
  · intro level occurs
    have less := shared.made occurs
    have own := shared.owned owner
    rw [alone occurs, held] at less
    rw [held] at own
    exact ⟨(alone occurs).trans own.symm, less⟩
  · exact shared.unique
  · intro level occurs shallow
    have listed := shared.shared occurs shallow
    rw [alone occurs, held] at listed
    exact listed
  · intro stack listed
    rw [← held] at listed
    obtain ⟨handed, shallow, -⟩ := shared.handed listed
    exact ⟨handed, shallow⟩
  · have distinct := shared.distinct owner
    rw [held] at distinct
    exact distinct

namespace Served

/-! ### What the answers are -/

/-- The names in the answers. -/
def names (served : Served) : List (Option (List String)) :=
  served.answers.map (Option.map Stack.names)

theorem map_names_stack? (served : Served) (place : Nat) :
    (served.stack? place).map Stack.names = served.names[place]?.join := by
  unfold stack? names
  rw [List.getElem?_map]
  rcases served.answers[place]? with _ | _ | stack <;> rfl

/-- The names of an answer are those that plain lists of names give. -/
theorem names_answer (served : Served) (request : StackRequest) :
    (served.answer request).map (fun made => made.1.names) = request.plain served.names := by
  have known := map_names_stack? served
  cases request with
  | root state => exact congrArg some (StateCache.names_root _ _)
  | push place state =>
    rw [StackRequest.plain, ← known]
    cases named : served.stack? place <;> simp [answer, named, StateCache.names_push]
  | switchTo place state =>
    rw [StackRequest.plain, ← known]
    cases named : served.stack? place <;> simp [answer, named, StateCache.names_switchTo]
  | pop place | parent place =>
    rw [StackRequest.plain, ← known]
    cases named : served.stack? place with
    | none => simp [answer, named]
    | some stack =>
      have below := Stack.pop?_map_names stack
      cases pops : stack.pop? <;> simp_all [answer]
  | toRoot place =>
    rw [StackRequest.plain, ← known]
    cases named : served.stack? place <;>
      simp [answer, named, Stack.names_toRoot_eq_drop]

theorem names_serve (served : Served) (request : StackRequest) :
    (served.serve request).names = served.names ++ [request.plain served.names] := by
  rw [← names_answer]
  simp [names, serve, Function.comp_def]

theorem names_serveAll (served : Served) (requests : List StackRequest) :
    (served.serveAll requests).names =
      requests.foldl (fun answers request => answers ++ [request.plain answers]) served.names := by
  induction requests generalizing served with
  | nil => rfl
  | cons request rest step =>
    rw [List.foldl_cons, ← names_serve]
    exact step (served.serve request)

/-- Later requests leave the answers to earlier ones as they are. -/
theorem answers_serveAll (served : Served) (requests : List StackRequest) :
    served.answers <+: (served.serveAll requests).answers := by
  induction requests generalizing served with
  | nil => exact List.prefix_refl _
  | cons request rest step =>
    exact (List.prefix_append _ _).trans (step (served.serve request))

theorem filterMap_names (served : Served) :
    served.names.filterMap id = served.given.map Stack.names := by
  unfold names given
  rw [List.filterMap_map, List.map_filterMap]
  exact congrArg (List.filterMap · served.answers) (funext fun answer => by cases answer <;> rfl)

theorem names_ofRequests (owner : Nat) (requests : List StackRequest) :
    (ofRequests owner requests).names = StackRequest.plainAll requests :=
  names_serveAll _ requests

theorem interned_ofRequests (owner : Nat) (requests : List StackRequest) :
    Interned (ofRequests owner requests).cache (ofRequests owner requests).given := by
  let start : Served := { cache := { owner } }
  have new : NodesShared (Function.update (fun owner => { owner }) owner start.cache)
      start.given := by
    rw [Function.update_eq_self]
    exact NodesShared.empty
  exact (new.serveAll requests).interned

end Served

namespace Interned

variable {cache : StateCache} {given : List Stack} {left right : Stack}

/-- Stacks that are one object are the same at every level. -/
theorem eq_of_same (interned : Interned cache given) (first : left ∈ given)
    (second : right ∈ given) (same : left.same right = true) : left = right :=
  interned.unique (occurs_of_mem first) (occurs_of_mem second) (beq_iff_eq.1 same)

/-- Shallow stacks with the same names are one object. -/
theorem same_of_names (interned : Interned cache given) (first : left ∈ given)
    (second : right ∈ given) (names : left.names = right.names)
    (shallow : left.depth ≤ StateCache.sharedDepth) : left.same right = true := by
  have held := interned.shared (occurs_of_mem first) shallow
  have heldToo := interned.shared (occurs_of_mem second)
    (Stack.depth_eq_of_names names ▸ shallow)
  exact Stack.same_of_names_of_nodup interned.distinct held heldToo names

/-- The cache holds each shallow chain of names once. -/
theorem names_shared (interned : Interned cache given) :
    (cache.sharedStacks.map Stack.names).Perm
      ((given.map Stack.names).filter fun names =>
        names.length ≤ StateCache.sharedDepth).dedup := by
  refine (List.perm_ext_iff_of_nodup interned.distinct (List.nodup_dedup _)).2 fun names => ?_
  rw [List.mem_dedup, List.mem_filter, decide_eq_true_eq]
  constructor
  · intro listed
    obtain ⟨stack, held, rfl⟩ := List.mem_map.1 listed
    obtain ⟨handed, shallow⟩ := interned.handed held
    rw [Stack.length_names]
    exact ⟨List.mem_map_of_mem handed, shallow⟩
  · rintro ⟨listed, short⟩
    obtain ⟨stack, handed, rfl⟩ := List.mem_map.1 listed
    rw [Stack.length_names] at short
    exact List.mem_map_of_mem (interned.shared (occurs_of_mem handed) short)

end Interned

/-- What holds of a new cache behind any requests. The answers have the names that plain lists of
names would give, and as many levels as names. Answers that are one object are equal at each level,
and shallow answers with equal names are one object. The cache holds as many stacks as there are
different shallow chains of names among the answers, and no later request changes an answer. -/
theorem Served.stacks_interned (owner : Nat) (requests more : List StackRequest) :
    (ofRequests owner requests).names = StackRequest.plainAll requests ∧
      (∀ stack ∈ (ofRequests owner requests).given, stack.depth = stack.names.length) ∧
      (∀ left ∈ (ofRequests owner requests).given, ∀ right ∈ (ofRequests owner requests).given,
        (left.same right = true → left = right) ∧
          (left.names = right.names → left.depth ≤ StateCache.sharedDepth →
            left.same right = true)) ∧
      (ofRequests owner requests).cache.sharedStacks.length =
        (shallowNames (StackRequest.plainAll requests)).length ∧
      (ofRequests owner requests).answers <+: (ofRequests owner (requests ++ more)).answers := by
  have interned := interned_ofRequests owner requests
  refine ⟨names_ofRequests owner requests, fun stack _ => stack.length_names.symm, ?_, ?_, ?_⟩
  · intro left first right second
    exact ⟨interned.eq_of_same first second, interned.same_of_names first second⟩
  · have counted := interned.names_shared.length_eq
    rw [List.length_map] at counted
    rw [counted, ← names_ofRequests owner, shallowNames, filterMap_names]
  · have further := answers_serveAll (ofRequests owner requests) more
    unfold ofRequests serveAll at further ⊢
    rw [List.foldl_append]
    exact further

/-- Requests for a stack of six states, for what is below its top in three ways, and for the bottom
of one of these. -/
def towerRequests : List StackRequest :=
  [.root "a", .push 0 "b", .push 1 "c", .push 2 "d", .push 3 "e", .push 4 "f", .pop 5,
    .switchTo 6 "g", .switchTo 7 "e", .toRoot 7, .pop 9]

theorem Served.stacks_interned_tower :
    (ofRequests 0 towerRequests).names = StackRequest.plainAll towerRequests ∧
      (ofRequests 0 towerRequests).cache.sharedStacks.length = 6 ∧
      ∃ left ∈ (ofRequests 0 towerRequests).given, ∃ right ∈ (ofRequests 0 towerRequests).given,
        (ofRequests 0 towerRequests).stack? 4 = some left ∧
        (ofRequests 0 towerRequests).stack? 8 = some right ∧
        left.names = right.names ∧ left.depth ≤ StateCache.sharedDepth ∧ left.same right = true ∧
        left = right := by
  obtain ⟨names, -, objects, count, -⟩ := stacks_interned 0 towerRequests []
  obtain ⟨left, first⟩ : ∃ left, (ofRequests 0 towerRequests).stack? 4 = some left :=
    Option.isSome_iff_exists.1 (by decide)
  obtain ⟨right, second⟩ : ∃ right, (ofRequests 0 towerRequests).stack? 8 = some right :=
    Option.isSome_iff_exists.1 (by decide)
  have inside := mem_stacks_of_stack? first
  have insideToo := mem_stacks_of_stack? second
  have equal : left.names = right.names := by
    have known := map_names_stack? (ofRequests 0 towerRequests)
    have same : (ofRequests 0 towerRequests).names[4]?.join =
        (ofRequests 0 towerRequests).names[8]?.join := by
      rw [names]
      decide
    rw [← known, ← known, first, second] at same
    exact Option.some.inj same
  have shallow : left.depth ≤ StateCache.sharedDepth := by
    have bound : ((ofRequests 0 towerRequests).stack? 4).all fun stack =>
      decide (stack.depth ≤ StateCache.sharedDepth) := by decide
    rw [first] at bound
    exact of_decide_eq_true bound
  obtain ⟨sound, complete⟩ := objects left inside right insideToo
  have one := complete equal shallow
  exact ⟨names, by rw [count]; decide, left, inside, right, insideToo, first, second, equal,
    shallow, one, sound one⟩

end LineLexer
