import LineLexer.Proofs.Caches

/-!
**Equal stacks and equal line states.**

A comparison that stops at objects it finds on both sides is right only where an identity belongs to
one object. This holds of all that caches hand out, however their stacks are built on each other. So
there the comparison is that of the names, and of the languages and states embedded.

* `Stack.agrees_iff_names`, `LineState.agrees_iff_content`: the comparisons, where an identity
  stands for one content;
* `LineState.agrees_iff_step`: one step of the comparison of line states;
* `Caches.Structural`, `Caches.structural_ofRequests`: what equality is for all that caches hand
  out.
-/

namespace LineLexer

/-! ### Stacks -/

namespace Stack

variable {left right : Stack}

theorem agrees_refl (stack : Stack) : stack.agrees stack = true := by
  cases stack <;> simp [agrees, same]

/-- Stacks agree if they are one object. Otherwise their depths and top states are equal, and so are
the stacks below, if there are any. -/
theorem agrees_iff_step :
    left.agrees right = true ↔ left.identity = right.identity ∨
      (left.depth = right.depth ∧ left.state = right.state ∧
        Option.Rel (fun below other => below.agrees other = true) left.pop? right.pop?) := by
  rw [agrees.eq_def, Bool.or_eq_true, Bool.and_eq_true, Bool.and_eq_true, same, beq_iff_eq,
    beq_iff_eq, beq_iff_eq, and_assoc]
  cases left <;> cases right <;> simp [pop?]

/-- Names are equal if there are as many, the top states are equal, and so are the names below. -/
theorem names_eq_iff :
    left.names = right.names ↔ left.depth = right.depth ∧ left.state = right.state ∧
      Option.Rel (fun below other => below.names = other.names) left.pop? right.pop? := by
  rw [← and_iff_right_of_imp depth_eq_of_names]
  refine and_congr_right fun _ => ?_
  cases left <;> cases right <;> simp [names, state, pop?, names_ne_nil, (names_ne_nil _).symm]

/-- Stacks agree exactly if their names are equal, if this holds of the stacks below and of the
stacks where they are one object. -/
theorem agrees_iff_names_of_below
    (whole : left.identity = right.identity → left.names = right.names)
    (below : Option.Rel (fun below other => below.agrees other = true) left.pop? right.pop? ↔
      Option.Rel (fun below other => below.names = other.names) left.pop? right.pop?) :
    left.agrees right = true ↔ left.names = right.names := by
  rw [agrees_iff_step, below, ← names_eq_iff]
  exact or_iff_right_of_imp whole

/-- Where levels that are one object have the same names, stacks agree exactly if their names are
equal. -/
theorem agrees_iff_names (one : ∀ upper ∈ left.levels, ∀ lower ∈ right.levels,
    upper.identity = lower.identity → upper.names = lower.names) :
    left.agrees right = true ↔ left.names = right.names := by
  have whole := one left left.mem_levels_self right right.mem_levels_self
  induction left generalizing right with
  | root identity name =>
    refine agrees_iff_names_of_below whole ?_
    cases right <;> simp [pop?]
  | push identity below name step =>
    refine agrees_iff_names_of_below whole ?_
    cases right with
    | root other nameToo => simp [pop?]
    | push other belowToo nameToo =>
      simp only [pop?, Option.rel_some_some]
      have lower : ∀ upper ∈ below.levels, ∀ lower ∈ belowToo.levels,
          upper.identity = lower.identity → upper.names = lower.names :=
        fun upper inside lower insideToo =>
          one upper (List.mem_cons_of_mem _ inside) lower (List.mem_cons_of_mem _ insideToo)
      exact step lower (lower below below.mem_levels_self belowToo belowToo.mem_levels_self)

/-- The hash of a stack is computed from its names. -/
theorem fingerprint_eq_iff : left.fingerprint = right.fingerprint ↔ left.names = right.names := by
  unfold fingerprint
  rw [Prod.mk.injEq, ← length_names, ← length_names]
  exact ⟨And.right, fun names => ⟨congrArg List.length names, names⟩⟩

end Stack

/-! ### Line states -/

/-- Whether two embedded languages are one language in states that agree. -/
def Embedded.Agrees (left right : Embedded) : Prop :=
  left.language = right.language ∧
    Option.Rel (fun state other => state.agrees other = true) left.state right.state

namespace LineState

variable {left right : LineState}

/-- A line state and those embedded in it. -/
def nested : LineState → List LineState
  | host identity stack => [host identity stack]
  | unknown identity stack language => [unknown identity stack language]
  | embedding identity stack language inner =>
    embedding identity stack language inner :: inner.nested

theorem mem_nested_self (state : LineState) : state ∈ state.nested := by
  cases state <;> simp [nested]

theorem agrees_refl (state : LineState) : state.agrees state = true := by
  cases state <;> simp [agrees, same]

/-- Line states agree if they are one object. Otherwise their stacks agree, and so do the languages
embedded, if there are any. -/
theorem agrees_iff_step :
    left.agrees right = true ↔ left.identity = right.identity ∨
      (left.stack.agrees right.stack = true ∧
        Option.Rel Embedded.Agrees left.embedded? right.embedded?) := by
  rw [agrees.eq_def, Bool.or_eq_true, Bool.and_eq_true, same, beq_iff_eq]
  cases left <;> cases right <;> simp [embedded?, Embedded.Agrees]

/-- The parts of a line state agree with themselves. -/
theorem agrees_parts_refl (state : LineState) : state.stack.agrees state.stack = true ∧
    Option.Rel Embedded.Agrees state.embedded? state.embedded? := by
  refine ⟨Stack.agrees_refl _, ?_⟩
  cases state <;> simp [embedded?, Embedded.Agrees, agrees_refl]

/-- Contents are equal if the names are, and so are the languages embedded and their contents. -/
theorem content_eq_iff_parts :
    left.content = right.content ↔ left.stack.names = right.stack.names ∧
      Option.Rel (fun guest other => guest.language = other.language ∧
        Option.Rel (fun state inner => state.content = inner.content) guest.state other.state)
          left.embedded? right.embedded? := by
  cases left <;> cases right <;>
    simp [content, stack, embedded?, content_ne_nil, and_assoc]

/-- Line states agree exactly if their contents are equal, if this holds of the languages embedded,
of the stacks, and of the line states where they are one object. -/
theorem agrees_iff_content_of_guests
    (whole : left.identity = right.identity → left.content = right.content)
    (hosts : left.stack.agrees right.stack = true ↔ left.stack.names = right.stack.names)
    (guests : Option.Rel Embedded.Agrees left.embedded? right.embedded? ↔
      Option.Rel (fun guest other => guest.language = other.language ∧
        Option.Rel (fun state inner => state.content = inner.content) guest.state other.state)
          left.embedded? right.embedded?) :
    left.agrees right = true ↔ left.content = right.content := by
  rw [agrees_iff_step, hosts, guests, ← content_eq_iff_parts]
  exact or_iff_right_of_imp whole

/-- Where line states that are one object have the same content, and their stacks agree exactly if
the names are equal, line states agree exactly if their contents are equal. -/
theorem agrees_iff_content
    (one : ∀ upper ∈ left.nested, ∀ lower ∈ right.nested,
      (upper.identity = lower.identity → upper.content = lower.content) ∧
        (upper.stack.agrees lower.stack = true ↔ upper.stack.names = lower.stack.names)) :
    left.agrees right = true ↔ left.content = right.content := by
  obtain ⟨whole, hosts⟩ := one left left.mem_nested_self right right.mem_nested_self
  induction left generalizing right with
  | host identity stack | unknown identity stack language =>
    refine agrees_iff_content_of_guests whole hosts ?_
    cases right <;> simp [embedded?, Embedded.Agrees]
  | embedding identity stack language inner step =>
    refine agrees_iff_content_of_guests whole hosts ?_
    cases right with
    | host | unknown => simp [embedded?, Embedded.Agrees]
    | embedding other stackToo languageToo innerToo =>
      have lower : ∀ upper ∈ inner.nested, ∀ lower ∈ innerToo.nested,
          (upper.identity = lower.identity → upper.content = lower.content) ∧
            (upper.stack.agrees lower.stack = true ↔ upper.stack.names = lower.stack.names) :=
        fun upper inside lower insideToo =>
          one upper (List.mem_cons_of_mem _ inside) lower (List.mem_cons_of_mem _ insideToo)
      obtain ⟨wholeInner, hostsInner⟩ :=
        lower inner inner.mem_nested_self innerToo innerToo.mem_nested_self
      simp only [embedded?, Embedded.Agrees, Option.rel_some_some]
      exact and_congr_right fun _ => step lower wholeInner hostsInner

/-- The hash of a line state is computed from its content. -/
theorem fingerprint_eq_iff :
    left.fingerprint = right.fingerprint ↔ left.content = right.content := by
  induction left generalizing right with
  | host identity stack =>
    cases right <;> simp [fingerprint, content, Stack.fingerprint_eq_iff]
  | unknown identity stack language =>
    cases right <;> simp [fingerprint, content, Stack.fingerprint_eq_iff, content_ne_nil]
  | embedding identity stack language inner step =>
    cases right <;> simp [fingerprint, content, Stack.fingerprint_eq_iff, content_ne_nil, step]

end LineState

/-! ### All that caches hand out -/

namespace StatesShared

variable {cache : Nat → StateCache} {given : List Stack} {calls : List LineStateCall}
variable {left right : LineState}

/-- An identity belongs to one line state. -/
theorem unique (shared : StatesShared cache given calls)
    (first : left ∈ calls.map LineStateCall.state) (second : right ∈ calls.map LineStateCall.state)
    (same : left.identity = right.identity) : left = right := by
  obtain ⟨earlier, inside, rfl⟩ := List.mem_map.1 first
  obtain ⟨later, insideToo, rfl⟩ := List.mem_map.1 second
  by_cases one : earlier = later
  · rw [one]
  · have separates := shared.apart.forall inside insideToo one
    exact shared.eq_of_coincides inside insideToo (separates.1 same)

/-- The stack of a line state was handed out. -/
theorem occurs_stack (shared : StatesShared cache given calls)
    (inside : left ∈ calls.map LineStateCall.state) : Occurs given left.stack := by
  obtain ⟨call, called, rfl⟩ := List.mem_map.1 inside
  exact occurs_of_mem (shared.known called).2

/-- What is embedded in a line state was handed out. -/
theorem mem_of_nested (shared : StatesShared cache given calls)
    (inside : right ∈ calls.map LineStateCall.state) (nested : left ∈ right.nested) :
    left ∈ calls.map LineStateCall.state := by
  induction right with
  | host | unknown =>
    rw [LineState.nested, List.mem_singleton] at nested
    exact nested ▸ inside
  | embedding identity stack language inner step =>
    rw [LineState.nested, List.mem_cons] at nested
    rcases nested with whole | nested
    · exact whole ▸ inside
    · obtain ⟨call, called, same⟩ := List.mem_map.1 inside
      have embeds : call.embedded = some ⟨language, some inner⟩ := by
        rw [← (shared.content called).2, same]
        rfl
      obtain ⟨other, calledToo, rfl⟩ := shared.inner called _ embeds inner rfl
      exact step (List.mem_map_of_mem calledToo) nested

end StatesShared

namespace Caches

variable {caches : Caches}

/-- A stack that one can come to from what caches have handed out. -/
abbrev StackAt (caches : Caches) : Type := { stack : Stack // Occurs caches.given stack }

/-- A line state that caches have handed out. -/
abbrev StateAt (caches : Caches) : Type := { state : LineState // state ∈ caches.states }

/-- Equality of stacks and line states is that of their parts. -/
structure Structural (caches : Caches) : Prop where
  /-- Stacks are equal if their names are. -/
  names_stacks : ∀ left right : caches.StackAt,
    left.1.agrees right.1 = true ↔ left.1.names = right.1.names
  /-- Line states are equal if their stacks are, and both embed no language, or the same one in
  states that are both unknown or equal. -/
  parts_states : ∀ left right : caches.StateAt,
    left.1.agrees right.1 = true ↔ left.1.stack.agrees right.1.stack = true ∧
      Option.Rel Embedded.Agrees left.1.embedded? right.1.embedded?
  equivalence_stacks : Equivalence fun left right : caches.StackAt =>
    left.1.agrees right.1 = true
  equivalence_states : Equivalence fun left right : caches.StateAt =>
    left.1.agrees right.1 = true
  /-- Stacks that are equal have the same hash. -/
  hash_stacks : ∀ left right : caches.StackAt,
    left.1.agrees right.1 = true → left.1.fingerprint = right.1.fingerprint
  /-- Line states that are equal have the same hash. -/
  hash_states : ∀ left right : caches.StateAt,
    left.1.agrees right.1 = true → left.1.fingerprint = right.1.fingerprint

theorem Sound.agrees_iff_names (sound : caches.Sound) (left right : caches.StackAt) :
    left.1.agrees right.1 = true ↔ left.1.names = right.1.names := by
  refine Stack.agrees_iff_names fun upper inside lower insideToo same => ?_
  obtain ⟨first, listed, within⟩ := left.2
  obtain ⟨second, listedToo, withinToo⟩ := right.2
  rw [sound.nodes.unique ⟨first, listed, Stack.levels_trans within inside⟩
    ⟨second, listedToo, Stack.levels_trans withinToo insideToo⟩ same]

theorem Sound.agrees_iff_content (sound : caches.Sound) (left right : caches.StateAt) :
    left.1.agrees right.1 = true ↔ left.1.content = right.1.content := by
  refine LineState.agrees_iff_content fun upper inside lower insideToo => ?_
  have held := sound.lineStates.mem_of_nested left.2 inside
  have heldToo := sound.lineStates.mem_of_nested right.2 insideToo
  constructor
  · intro same
    rw [sound.lineStates.unique held heldToo same]
  · exact sound.agrees_iff_names ⟨_, sound.lineStates.occurs_stack held⟩
      ⟨_, sound.lineStates.occurs_stack heldToo⟩

/-- Line states agree if their parts do, also where they are one object. -/
theorem Sound.agrees_iff_parts (sound : caches.Sound) (left right : caches.StateAt) :
    left.1.agrees right.1 = true ↔ left.1.stack.agrees right.1.stack = true ∧
      Option.Rel Embedded.Agrees left.1.embedded? right.1.embedded? := by
  rw [LineState.agrees_iff_step]
  refine or_iff_right_of_imp fun same => ?_
  have one : left = right := Subtype.ext (sound.lineStates.unique left.2 right.2 same)
  rw [one]
  exact right.1.agrees_parts_refl

/-- A comparison that comes to an equality is an equivalence. -/
theorem equivalence_of_iff {Item Key : Type} {related : Item → Item → Prop} {key : Item → Key}
    (means : ∀ left right, related left right ↔ key left = key right) : Equivalence related where
  refl item := (means item item).2 rfl
  symm same := (means _ _).2 ((means _ _).1 same).symm
  trans first second := (means _ _).2 (((means _ _).1 first).trans ((means _ _).1 second))

/-- Whatever any caches are asked for, equality of what they hand out is structural: that of the
names of stacks, and for line states that of the stacks and of the languages embedded, at every
depth. It is an equivalence, and equal values have the same hash. -/
theorem structural_ofRequests (requests : List CacheRequest) :
    (ofRequests requests).Structural := by
  have sound := sound_ofRequests requests
  have names := sound.agrees_iff_names
  have content := sound.agrees_iff_content
  refine ⟨names, sound.agrees_iff_parts, equivalence_of_iff names, equivalence_of_iff content,
    ?_, ?_⟩
  · intro left right agrees
    exact Stack.fingerprint_eq_iff.2 ((names left right).1 agrees)
  · intro left right agrees
    exact LineState.fingerprint_eq_iff.2 ((content left right).1 agrees)

/-- So the comparison comes to the same as that of the whole contents. -/
theorem agrees_eq_beq (requests : List CacheRequest) :
    (∀ left right : (ofRequests requests).StackAt,
      left.1.agrees right.1 = (left.1 == right.1)) ∧
    ∀ left right : (ofRequests requests).StateAt,
      left.1.agrees right.1 = (left.1 == right.1) := by
  have sound := sound_ofRequests requests
  constructor
  · intro left right
    exact Bool.eq_iff_iff.2 ((sound.agrees_iff_names left right).trans Stack.beq_iff.symm)
  · intro left right
    exact Bool.eq_iff_iff.2 ((sound.agrees_iff_content left right).trans LineState.beq_iff.symm)

/-- Requests to two caches: each makes a stack of two states, the second one on the bottom that the
first one made, and a line state that embeds the same language in a state of its own. -/
def besideRequests : List CacheRequest :=
  [.stack 0 (.root "a"), .stack 0 (.push 0 "b"), .stack 1 (.push 0 "b"), .lineState 0 0 none,
    .lineState 1 0 none, .lineState 0 1 (some ("js", some 0)), .lineState 1 2 (some ("js", some 1))]

/-- The stacks are two objects, the line states and the states embedded in them are two, and they
are equal. -/
theorem structural_ofRequests_beside :
    ∃ (left right : (ofRequests besideRequests).StackAt)
      (state other : (ofRequests besideRequests).StateAt),
      left.1.same right.1 = false ∧ left.1.agrees right.1 = true ∧
        state.1.same other.1 = false ∧ state.1.embedded?.isSome ∧ state.1.agrees other.1 = true ∧
        state.1.fingerprint = other.1.fingerprint := by
  obtain ⟨names, parts, -, -, -, hash⟩ := structural_ofRequests besideRequests
  let bottom : Stack := .root ⟨0, 0⟩ "a"
  have given : (ofRequests besideRequests).given =
      [bottom, .push ⟨0, 1⟩ bottom "b", .push ⟨1, 0⟩ bottom "b"] := rfl
  have handed : (ofRequests besideRequests).states =
      [.host ⟨0, 2⟩ bottom, .host ⟨1, 1⟩ bottom,
        .embedding ⟨0, 3⟩ (.push ⟨0, 1⟩ bottom "b") "js" (.host ⟨0, 2⟩ bottom),
        .embedding ⟨1, 2⟩ (.push ⟨1, 0⟩ bottom "b") "js" (.host ⟨1, 1⟩ bottom)] := rfl
  obtain ⟨left, leftIs⟩ : ∃ left : (ofRequests besideRequests).StackAt,
      left.1 = .push ⟨0, 1⟩ bottom "b" :=
    ⟨⟨_, occurs_of_mem (by rw [given]; simp)⟩, rfl⟩
  obtain ⟨right, rightIs⟩ : ∃ right : (ofRequests besideRequests).StackAt,
      right.1 = .push ⟨1, 0⟩ bottom "b" :=
    ⟨⟨_, occurs_of_mem (by rw [given]; simp)⟩, rfl⟩
  obtain ⟨inner, innerIs⟩ : ∃ inner : (ofRequests besideRequests).StateAt,
      inner.1 = .host ⟨0, 2⟩ bottom := ⟨⟨_, by rw [handed]; simp⟩, rfl⟩
  obtain ⟨innerToo, innerTooIs⟩ : ∃ inner : (ofRequests besideRequests).StateAt,
      inner.1 = .host ⟨1, 1⟩ bottom := ⟨⟨_, by rw [handed]; simp⟩, rfl⟩
  obtain ⟨state, stateIs⟩ : ∃ state : (ofRequests besideRequests).StateAt,
      state.1 = .embedding ⟨0, 3⟩ left.1 "js" inner.1 :=
    ⟨⟨_, by rw [leftIs, innerIs, handed]; simp⟩, rfl⟩
  obtain ⟨other, otherIs⟩ : ∃ state : (ofRequests besideRequests).StateAt,
      state.1 = .embedding ⟨1, 2⟩ right.1 "js" innerToo.1 :=
    ⟨⟨_, by rw [rightIs, innerTooIs, handed]; simp⟩, rfl⟩
  have agrees : left.1.agrees right.1 = true :=
    (names left right).2 (by rw [leftIs, rightIs]; rfl)
  have agreesInner : inner.1.agrees innerToo.1 = true := by
    refine (parts inner innerToo).2 ?_
    rw [innerIs, innerTooIs]
    exact ⟨bottom.agrees_refl, .none⟩
  have agreesOuter : state.1.agrees other.1 = true := by
    refine (parts state other).2 ?_
    rw [stateIs, otherIs]
    exact ⟨agrees, .some ⟨rfl, .some agreesInner⟩⟩
  refine ⟨left, right, state, other, ?_, agrees, ?_, ?_, agreesOuter, hash state other agreesOuter⟩
  · rw [leftIs, rightIs]
    rfl
  · rw [stateIs, otherIs]
    rfl
  · rw [stateIs]
    rfl

end Caches

end LineLexer
