import LineLexer.Proofs.Guards
import Mathlib.Data.Set.Function

/-!
**What memories do not change.**

A tokenizer remembers the stacks and line states that it shares and the patterns that it compiled
last. None of that changes what a scan comes to: from memories that hold what would be compiled
afresh, computations on stacks with the same names agree.

* `Memories.Sound`: memories hold what would be compiled afresh;
* `Agree`: two computations tell the same and come to related results or to the same stop;
* `agree_bind` and its like: agreement of the operations;
* `agree_findAt`: what the rules find depends on no memory;
* `Scan.Alike`, `agree_stepWith`, `agree_step`: a step leads scans that are alike to scans that are
  alike.

Agreement is either `strict`, or a stop for want of progress is allowed on one side only; and it is
of the events and notes that are `told` or leaves them aside.
-/

namespace LineLexer

open Scanning

/-! ### Sound memories -/

/-- What is remembered of patterns is what they are compiled to. -/
def Memories.Sound (tokenizers : Set Tokenizer) (memories : Memories) : Prop :=
  ∀ tokenizer ∈ tokenizers, ∀ source state regex,
    (memories.read tokenizer.identity).memos.get? source = some (state, regex) →
      Regex.compile tokenizer.grammar.settings.ignoreCase
        (Pattern.anchor (Pattern.substituteState tokenizer.grammar.settings source state)) =
          .ok regex

/-- A memory in which nothing is remembered is sound. -/
theorem Memories.sound_empty (tokenizers : Set Tokenizer) : Memories.Sound tokenizers {} := by
  intro tokenizer _ source state regex found
  cases found

/-- A pattern as it is compiled afresh. -/
def Pattern.fresh (pattern : Pattern) (settings : Settings) (state : String) :
    Except Regex.Rejection Regex := (pattern.anchored settings state none).1

/-- Whether what is remembered of a pattern is what it is compiled to. -/
def Pattern.MemoSound (settings : Settings) (source : String) (memo : Pattern.Memo) : Prop :=
  ∀ state regex, memo = some (state, regex) →
    Regex.compile settings.ignoreCase
      (Pattern.anchor (Pattern.substituteState settings source state)) = .ok regex

/-- From a sound memo a pattern is compiled as it is afresh, and the memo that is kept is sound. -/
theorem Pattern.anchored_of_memoSound {pattern : Pattern} {settings : Settings} {state : String}
    {memo : Pattern.Memo} (sound : Pattern.MemoSound settings pattern.source memo) :
    (pattern.anchored settings state memo).1 = pattern.fresh settings state ∧
      Pattern.MemoSound settings pattern.source (pattern.anchored settings state memo).2 := by
  unfold Pattern.fresh Pattern.anchored
  cases pattern.form with
  | fixed regex search => exact ⟨rfl, sound⟩
  | perState =>
    have kept : ∀ {regex}, Regex.compile settings.ignoreCase
        (Pattern.anchor (Pattern.substituteState settings pattern.source state)) = .ok regex →
        Pattern.MemoSound settings pattern.source (some (state, regex)) := by
      intro regex built other found same
      cases same
      exact built
    rcases built : Regex.compile settings.ignoreCase
        (Pattern.anchor (Pattern.substituteState settings pattern.source state)) with
      rejection | regex
    · rcases memo with _ | ⟨before, remembered⟩
      · exact ⟨rfl, sound⟩
      · dsimp only
        split
        · next same =>
          have compiled := sound before remembered rfl
          rw [same, built] at compiled
          cases compiled
        · exact ⟨rfl, sound⟩
    · rcases memo with _ | ⟨before, remembered⟩
      · exact ⟨rfl, kept built⟩
      · dsimp only
        split
        · next same =>
          have compiled := sound before remembered rfl
          rw [same, built] at compiled
          cases compiled
          exact ⟨rfl, sound⟩
        · exact ⟨rfl, kept built⟩

/-- What is kept of one pattern leaves the others alone. -/
theorem Memory.get?_keep (memory : Memory) (source other : String) (memo : Pattern.Memo) :
    (memory.keep source memo).memos.get? other =
      if other = source then memo.or (memory.memos.get? source) else memory.memos.get? other := by
  cases memo with
  | none =>
    show memory.memos.get? other = _
    split
    · next same => rw [same, Option.none_or]
    · rfl
  | some memo =>
    show (memory.memos.put source memo).get? other = _
    rw [Table.get?_put]
    rfl

/-- Memories stay sound where one tokenizer keeps sound memos. -/
theorem Memories.Sound.store {tokenizers : Set Tokenizer} {memories : Memories}
    (injective : tokenizers.InjOn Tokenizer.identity) (sound : memories.Sound tokenizers)
    {tokenizer : Tokenizer} (known : tokenizer ∈ tokenizers) {memory : Memory}
    (kept : ∀ source, Pattern.MemoSound tokenizer.grammar.settings source
      (memory.memos.get? source)) :
    (memories.store tokenizer.identity memory).Sound tokenizers := by
  intro other otherKnown source state regex found
  rw [Memories.read_store] at found
  split at found
  · next same =>
    rw [injective otherKnown known same]
    exact kept source state regex found
  · exact sound other otherKnown source state regex found

/-! ### Agreement -/

namespace Scanning

section

variable (tokenizers : Set Tokenizer) (strict told : Prop)

/-- Two traces have sound memories and, if it matters what is `told`, the same events and notes. -/
structure Alike (trace other : Trace) : Prop where
  sound : trace.memories.Sound tokenizers
  soundOther : other.memories.Sound tokenizers
  events : told → trace.events = other.events
  notes : told → trace.notes = other.notes

/-- Whether a computation stops for want of progress. -/
def Stalls : Stop → Prop
  | .fault ⟨_, .noProgress _⟩ => True
  | _ => False

/-- Two computations end with related results or with the same stop. Unless agreement is `strict`,
one of them may stop for want of progress. -/
inductive SameEnd {Result Other : Type} (related : Result → Other → Prop) :
    Except Stop Result × Trace → Except Stop Other × Trace → Prop where
  | result {left : Result} {right : Other} {trace other : Trace} (same : related left right)
      (alike : Alike tokenizers told trace other) :
      SameEnd related (.ok left, trace) (.ok right, other)
  | stop {stop : Stop} {trace other : Trace} (alike : Alike tokenizers told trace other) :
      SameEnd related (.error stop, trace) (.error stop, other)
  | stallsLeft {stop : Stop} {trace : Trace} {ending : Except Stop Other × Trace} (lax : ¬ strict)
      (stalls : Stalls stop) : SameEnd related (.error stop, trace) ending
  | stallsRight {stop : Stop} {trace : Trace} {ending : Except Stop Result × Trace} (lax : ¬ strict)
      (stalls : Stalls stop) : SameEnd related ending (.error stop, trace)

/-- From traces that are alike two computations end alike. -/
def Agree {Result Other : Type} (related : Result → Other → Prop) (left : Scanning Result)
    (right : Scanning Other) : Prop :=
  ∀ trace other, Alike tokenizers told trace other →
    SameEnd tokenizers strict told related (outcome left trace) (outcome right other)

end

variable {tokenizers : Set Tokenizer} {strict told : Prop}
  {Result Other More Rest : Type} {related : Result → Other → Prop}
  {relatedMore : More → Rest → Prop}

theorem agree_pure {left : Result} {right : Other} (same : related left right) :
    Agree tokenizers strict told related (pure left) (pure right) :=
  fun _ _ alike => .result same alike

theorem agree_throw (stop : Stop) :
    Agree tokenizers strict told related (throw stop) (throw stop) :=
  fun _ _ alike => .stop alike

/-- Computations agree if their parts do. -/
theorem agree_bind {left : Scanning Result} {right : Scanning Other} {next : Result → Scanning More}
    {follow : Other → Scanning Rest} (first : Agree tokenizers strict told related left right)
    (second : ∀ {value other}, related value other →
      Agree tokenizers strict told relatedMore (next value) (follow other)) :
    Agree tokenizers strict told relatedMore (left >>= next) (right >>= follow) := by
  intro trace other alike
  have ends := first trace other alike
  rw [outcome_bind, outcome_bind]
  generalize outcome left trace = ending, outcome right other = endingOther at ends ⊢
  cases ends with
  | result same alike => exact second same _ _ alike
  | stop alike => exact .stop alike
  | stallsLeft lax stalls => exact .stallsLeft lax stalls
  | @stallsRight stop trace ending lax stalls => exact .stallsRight lax stalls

/-- Where the first parts agree on one result, the second parts start with it. -/
theorem agree_bind_eq {left right : Scanning Result} {next : Result → Scanning More}
    {follow : Result → Scanning Rest} (first : Agree tokenizers strict told Eq left right)
    (second : ∀ value, Agree tokenizers strict told relatedMore (next value) (follow value)) :
    Agree tokenizers strict told relatedMore (left >>= next) (right >>= follow) :=
  agree_bind first fun same => same ▸ second _

theorem agree_map {left : Scanning Result} {right : Scanning Other} {change : Result → More}
    {changeOther : Other → Rest} (first : Agree tokenizers strict told related left right)
    (second : ∀ {value other}, related value other →
      relatedMore (change value) (changeOther other)) :
    Agree tokenizers strict told relatedMore (change <$> left) (changeOther <$> right) := by
  rw [map_eq_pure_bind, map_eq_pure_bind]
  exact agree_bind first fun same => agree_pure (second same)

/-- Unless agreement is strict, one computation may stop for want of progress. -/
theorem agree_stallsLeft (lax : ¬ strict) {stop : Stop} (stalls : Stalls stop)
    {right : Scanning Other} : Agree tokenizers strict told related (throw stop) right :=
  fun _ _ _ => .stallsLeft lax stalls

theorem agree_stallsRight (lax : ¬ strict) {stop : Stop} (stalls : Stalls stop)
    {left : Scanning Result} : Agree tokenizers strict told related left (throw stop) :=
  fun _ _ _ => .stallsRight lax stalls

/-- Agreement is kept where more results are related. -/
theorem Agree.mono {left : Scanning Result} {right : Scanning Other}
    {weaker : Result → Other → Prop} (agree : Agree tokenizers strict told related left right)
    (implies : ∀ {value other}, related value other → weaker value other) :
    Agree tokenizers strict told weaker left right := by
  intro trace other alike
  have ends := agree trace other alike
  generalize outcome left trace = ending, outcome right other = endingOther at ends ⊢
  cases ends with
  | result same alike => exact .result (implies same) alike
  | stop alike => exact .stop alike
  | stallsLeft lax stalls => exact .stallsLeft lax stalls
  | stallsRight lax stalls => exact .stallsRight lax stalls

/-- A computation that agrees with itself keeps memories sound. -/
theorem Agree.sound {related : Result → Result → Prop} {scanning : Scanning Result}
    {trace later : Trace}
    (agree : Agree tokenizers True told related scanning scanning)
    (sound : trace.memories.Sound tokenizers) {ending : Except Stop Result}
    (ends : outcome scanning trace = (ending, later)) : later.memories.Sound tokenizers := by
  have same := agree trace trace ⟨sound, sound, fun _ => rfl, fun _ => rfl⟩
  rw [ends] at same
  cases same with
  | result same alike => exact alike.sound
  | stop alike => exact alike.sound
  | stallsLeft lax stalls => exact absurd trivial lax
  | stallsRight lax stalls => exact absurd trivial lax

theorem agree_tell (event : Event) : Agree tokenizers strict told Eq (tell event) (tell event) := by
  intro trace other alike
  refine .result rfl ⟨alike.sound, alike.soundOther, fun holds => ?_, alike.notes⟩
  show trace.events.push event = other.events.push event
  rw [alike.events holds]

theorem agree_note (entry : Note) : Agree tokenizers strict told Eq (note entry) (note entry) := by
  intro trace other alike
  refine .result rfl ⟨alike.sound, alike.soundOther, alike.events, fun holds => ?_⟩
  show trace.notes.push entry = other.notes.push entry
  rw [alike.notes holds]

theorem agree_cut (part : Option Result) :
    Agree tokenizers strict told Eq (cut part) (cut part) := by
  cases part with
  | none => exact agree_throw .cut
  | some part => exact agree_pure rfl

/-- Two checks end with related results or with the same fault. -/
inductive SameCheck (related : Result → Other → Prop) :
    Except Fault Result → Except Fault Other → Prop
  | ok {left : Result} {right : Other} (same : related left right) :
      SameCheck related (.ok left) (.ok right)
  | error (fault : Fault) : SameCheck related (.error fault) (.error fault)

theorem agree_settle (tokenizer : Tokenizer) {left : Except Fault Result}
    {right : Except Fault Other} (same : SameCheck related left right) :
    Agree tokenizers strict told related (settle tokenizer left) (settle tokenizer right) := by
  cases same with
  | ok same => exact agree_pure same
  | error fault => exact agree_throw _

theorem agree_settle_self (tokenizer : Tokenizer) (result : Except Fault Result) :
    Agree tokenizers strict told Eq (settle tokenizer result) (settle tokenizer result) := by
  cases result with
  | ok result => exact agree_pure rfl
  | error fault => exact agree_throw _

/-- What caches hand out agrees if it is related whatever they hold. -/
theorem agree_share (injective : tokenizers.InjOn Tokenizer.identity) {tokenizer : Tokenizer}
    (known : tokenizer ∈ tokenizers) {operation : StateCache → Result × StateCache}
    {operationOther : StateCache → Other × StateCache}
    (same : ∀ cache other, related (operation cache).1 (operationOther other).1) :
    Agree tokenizers strict told related (share tokenizer operation)
      (share tokenizer operationOther) := by
  intro trace other alike
  rw [outcome_share, outcome_share]
  exact .result (same _ _)
    ⟨alike.sound.store injective known fun source state regex found =>
        alike.sound tokenizer known source state regex found,
      alike.soundOther.store injective known fun source state regex found =>
        alike.soundOther tokenizer known source state regex found, alike.events, alike.notes⟩

end Scanning

/-! ### What the rules find -/

namespace Tokenizer

variable {tokenizers : Set Tokenizer} {strict told : Prop} {tokenizer : Tokenizer}

/-- A pattern is compiled to the same regular expression from all sound memories. -/
theorem agree_anchored (injective : tokenizers.InjOn identity) (known : tokenizer ∈ tokenizers)
    (state : String) (rule : Rule) :
    Agree tokenizers strict told Eq (tokenizer.anchored state rule)
      (tokenizer.anchored state rule) := by
  unfold anchored
  refine agree_bind_eq ?_ fun result => agree_settle_self _ _
  · intro trace other alike
    have compiled : ∀ {trace : Trace}, trace.memories.Sound tokenizers →
        Pattern.MemoSound tokenizer.grammar.settings rule.pattern.source
          ((trace.memories.read tokenizer.identity).memos.get? rule.pattern.source) :=
      fun sound state regex found => sound tokenizer known _ state regex found
    have kept : ∀ {trace : Trace}, trace.memories.Sound tokenizers → ∀ source,
        Pattern.MemoSound tokenizer.grammar.settings source
          (((trace.memories.read tokenizer.identity).keep rule.pattern.source
            (rule.pattern.anchored tokenizer.grammar.settings state
              ((trace.memories.read tokenizer.identity).memos.get?
                rule.pattern.source)).2).memos.get? source) := by
      intro trace sound source
      rw [Memory.get?_keep]
      split
      · next same =>
        rw [same]
        intro other regex found
        rcases Option.or_eq_some_iff.1 found with fresh | ⟨-, before⟩
        · exact (Pattern.anchored_of_memoSound (compiled sound)).2 other regex fresh
        · exact compiled sound other regex before
      · exact fun other regex found => sound tokenizer known source other regex found
    rw [outcome_remember, outcome_remember]
    refine .result ?_ ⟨alike.sound.store injective known (kept alike.sound),
      alike.soundOther.store injective known (kept alike.soundOther), alike.events, alike.notes⟩
    exact (Pattern.anchored_of_memoSound (compiled alike.sound)).1.trans
      (Pattern.anchored_of_memoSound (compiled alike.soundOther)).1.symm

theorem agree_firstMatch (injective : tokenizers.InjOn identity) (known : tokenizer ∈ tokenizers)
    (state : String) (atStart : Bool) (rest : Text) (rules : List Rule) :
    Agree tokenizers strict told Eq (tokenizer.firstMatch state atStart rest rules)
      (tokenizer.firstMatch state atStart rest rules) := by
  induction rules with
  | nil => exact agree_pure rfl
  | cons rule rules step =>
    unfold firstMatch
    split
    · exact step
    · refine agree_bind_eq (agree_anchored injective known state rule) fun regex => ?_
      split
      · exact agree_pure rfl
      · exact step

/-- What the rules find depends on no memory. -/
theorem agree_findAt (injective : tokenizers.InjOn identity) (known : tokenizer ∈ tokenizers)
    (text : Text) (position : Nat) (state : String) :
    Agree tokenizers strict told Eq (tokenizer.findAt text position state)
      (tokenizer.findAt text position state) := by
  unfold findAt
  split
  · exact agree_settle_self _ _
  · refine agree_bind_eq (agree_cut _) fun rest => ?_
    exact agree_bind_eq (agree_firstMatch injective known _ _ _ _) fun found => agree_pure rfl

end Tokenizer

/-! ### Stacks with the same names -/

namespace Stack

variable {stack other : Stack}

theorem state_eq_of_names (same : stack.names = other.names) : stack.state = other.state := by
  have heads := congrArg List.head? same
  rw [head?_names, head?_names, Option.some.injEq] at heads
  exact heads

/-- The stacks below stacks with the same names have the same names. -/
theorem pop?_names (same : stack.names = other.names) :
    stack.pop?.map names = other.pop?.map names := by
  cases stack with
  | root _ state =>
    cases other with
    | root _ otherState => rfl
    | push _ below otherState => exact absurd (List.cons.inj same).2.symm (names_ne_nil below)
  | push _ below state =>
    cases other with
    | root _ otherState => exact absurd (List.cons.inj same).2 (names_ne_nil below)
    | push _ otherBelow otherState => exact congrArg some (List.cons.inj same).2

theorem isRoot_eq_of_names (same : stack.names = other.names) : stack.isRoot = other.isRoot := by
  have below := congrArg Option.isNone (pop?_names same)
  rw [Option.isNone_map, Option.isNone_map] at below
  exact below

theorem getD_pop?_names (same : stack.names = other.names) :
    (stack.pop?.getD stack).names = (other.pop?.getD other).names := by
  have below := pop?_names same
  revert below
  cases stack.pop? <;> cases other.pop? <;> simp [same]

/-- The bottom of a stack is the last of its names. -/
theorem names_toRoot (stack : Stack) :
    stack.toRoot.names = [stack.names.getLast (names_ne_nil stack)] := by
  induction stack with
  | root identity state => rfl
  | push identity below state step =>
    show below.toRoot.names = [(state :: below.names).getLast _]
    rw [step, List.getLast_cons (names_ne_nil below)]

theorem toRoot_names (same : stack.names = other.names) :
    stack.toRoot.names = other.toRoot.names := by
  rw [names_toRoot, names_toRoot]
  simp only [same]

end Stack

/-- What happens to a stack depends on its names. -/
theorem TokenAction.stackChange_of_names {stack other : Stack} (same : stack.names = other.names)
    (action : TokenAction) (tokenizer : Tokenizer) (context : MatchContext) (rule : String) :
    action.stackChange tokenizer context rule stack =
      action.stackChange tokenizer context rule other := by
  have depth : tokenizer.checkDepth stack = tokenizer.checkDepth other := by
    unfold Tokenizer.checkDepth
    rw [Stack.depth_eq_of_names same, same]
  unfold stackChange
  rw [depth, Stack.state_eq_of_names same, Stack.isRoot_eq_of_names same]

/-! ### Scans that are alike -/

/-- The content of an embedded language. -/
def Embedded.content (embedded : Embedded) :
    String × Option (List (List String × Option String)) :=
  (embedded.language, embedded.state.map LineState.content)

/-- Two scans stand at one place, with stacks of the same names and embedded languages of the same
content. If agreement is `strict`, they have seen the same empty groups last; if it matters, steps
are due in both or in neither. -/
structure Scan.Alike (strict dues : Prop) (scan other : Scan) : Prop where
  position : scan.position = other.position
  stack : scan.stack.names = other.stack.names
  embedded : scan.embedded.map Embedded.content = other.embedded.map Embedded.content
  replay : scan.replay = other.replay
  emptyGroup : strict → scan.emptyGroup.map (fun seen => (seen.1, seen.2.names)) =
    other.emptyGroup.map (fun seen => (seen.1, seen.2.names))
  due : dues → scan.due = other.due

theorem Scan.Alike.refl {strict dues : Prop} (scan : Scan) : scan.Alike strict dues scan :=
  ⟨rfl, rfl, rfl, rfl, fun _ => rfl, fun _ => rfl⟩

theorem Scan.Alike.mono {strict dues fewer : Prop} {scan other : Scan}
    (alike : scan.Alike strict dues other) (implies : fewer → dues) :
    scan.Alike strict fewer other :=
  { alike with due := fun holds => alike.due (implies holds) }

/-- Two steps lead to scans that are alike, or to the same language at the same position. -/
inductive Next.Alike (strict : Prop) : Next → Next → Prop where
  | goOn {scan other : Scan} (alike : scan.Alike strict True other) :
      Next.Alike strict (.goOn scan) (.goOn other)
  | enter {name : String} {position : Nat} {stack other : Stack}
      (same : stack.names = other.names) :
      Next.Alike strict (.enter name position stack) (.enter name position other)

/-- Two steps take the same match, or none where groups are pending. -/
inductive SameTaken (strict pending : Prop) :
    Option (Scan × Found) → Option (Scan × Found) → Prop where
  | none (holds : pending) : SameTaken strict pending none none
  | some {after other : Scan} {found : Found} (alike : after.Alike strict True other) :
      SameTaken strict pending (some (after, found)) (some (other, found))

namespace HostLine

variable {tokenizers : Set Tokenizer} {strict told : Prop} {host : HostLine}
  {scan other after behind : Scan} {found : Found}

/-- Scans that are alike take the same match. -/
theorem agree_take (injective : tokenizers.InjOn Tokenizer.identity)
    (known : host.tokenizer ∈ tokenizers)
    (alike : scan.Alike strict (scan.replay ≠ none) other) :
    Agree tokenizers strict told (SameTaken strict (scan.replay ≠ none)) (host.take scan)
      (host.take other) := by
  unfold take
  rw [← alike.replay]
  split
  · next replay first =>
    have pending : scan.replay ≠ none := by rw [first]; exact Option.some_ne_none _
    have due := alike.due pending
    split
    · exact agree_pure (.none pending)
    · exact agree_pure (.some ⟨alike.position, alike.stack, alike.embedded, rfl, alike.emptyGroup,
        fun _ => due⟩)
  · rw [← alike.position, ← Stack.state_eq_of_names alike.stack]
    refine agree_map (Tokenizer.agree_findAt injective known _ _ _) fun same => ?_
    rw [same]
    exact .some ⟨rfl, alike.stack, alike.embedded, rfl, alike.emptyGroup, fun _ => rfl⟩

/-- Changes of stacks with the same names lead to stacks with the same names. -/
theorem agree_changeStack (injective : tokenizers.InjOn Tokenizer.identity) {tokenizer : Tokenizer}
    (known : tokenizer ∈ tokenizers) {stack below : Stack} (same : stack.names = below.names)
    (change : StackChange) :
    Agree tokenizers strict told (fun left right => left.names = right.names)
      (changeStack tokenizer stack change) (changeStack tokenizer below change) := by
  unfold changeStack
  cases change with
  | keep => exact agree_pure same
  | push state =>
    refine agree_share injective known fun cache other => ?_
    rw [StateCache.names_push, StateCache.names_push, same]
  | pop => exact agree_pure (Stack.getD_pop?_names same)
  | toRoot => exact agree_pure (Stack.toRoot_names same)
  | switchTo state =>
    refine agree_share injective known fun cache other => ?_
    rw [StateCache.names_switchTo, StateCache.names_switchTo, same]

/-- Changes of embedded languages with the same content agree. -/
theorem sameCheck_changeEmbedded (action : TokenAction) (settings : Settings)
    (context : MatchContext) {embedded inner : Option Embedded}
    (same : embedded.map Embedded.content = inner.map Embedded.content) :
    SameCheck (fun left right => left.1.map Embedded.content = right.1.map Embedded.content ∧
        left.2 = right.2)
      (action.changeEmbedded settings context embedded)
      (action.changeEmbedded settings context inner) := by
  have absent : embedded.isNone = inner.isNone := by
    have shapes := congrArg Option.isNone same
    rwa [Option.isNone_map, Option.isNone_map] at shapes
  have present : embedded.isSome = inner.isSome := by
    have shapes := congrArg Option.isSome same
    rwa [Option.isSome_map, Option.isSome_map] at shapes
  unfold TokenAction.changeEmbedded
  split
  · exact .ok ⟨same, rfl⟩
  · rw [absent]
    split
    · exact .error _
    · exact .ok ⟨rfl, rfl⟩
  · rw [present]
    split
    · exact .error _
    · exact .ok ⟨rfl, rfl⟩

/-- The changes that come with a token lead scans that are alike to scans that are alike. -/
theorem agree_transit (injective : tokenizers.InjOn Tokenizer.identity)
    (known : host.tokenizer ∈ tokenizers) (alike : after.Alike strict True behind)
    (context : MatchContext) (action : TokenAction) :
    Agree tokenizers strict told
      (fun left right => left.1.Alike strict True right.1 ∧ left.2 = right.2)
      (host.transit after found context action) (host.transit behind found context action) := by
  unfold transit
  rw [← alike.position, ← TokenAction.stackChange_of_names alike.stack]
  refine agree_bind (agree_settle _ (sameCheck_changeEmbedded action _ _ alike.embedded))
    fun {embedding embeddingOther} sameEmbedding => ?_
  refine agree_bind_eq (agree_cut _) fun position => ?_
  refine agree_bind_eq (agree_settle_self _ _) fun change => ?_
  refine agree_bind (agree_changeStack injective known alike.stack change)
    fun {stack stackOther} sameStack => ?_
  have changed : Scan.Alike strict True
      { after with position, stack, embedded := embedding.1 }
      { behind with position, stack := stackOther, embedded := embeddingOther.1 } :=
    ⟨rfl, sameStack, sameEmbedding.1, alike.replay, alike.emptyGroup, alike.due⟩
  cases action.log with
  | none => exact agree_pure ⟨changed, sameEmbedding.2⟩
  | some template =>
    exact agree_bind_eq (agree_note _) fun _ => agree_pure ⟨changed, sameEmbedding.2⟩

/-- Whether a step has changed anything is the same for scans that are alike. -/
theorem progressed_of_alike {dues : Prop} (alike : scan.Alike strict dues other)
    (alikeAfter : after.Alike strict dues behind) :
    host.progressed scan after = host.progressed other behind := by
  unfold progressed Scan.pending
  rw [Stack.depth_eq_of_names alike.stack, Stack.depth_eq_of_names alikeAfter.stack,
    Stack.state_eq_of_names alike.stack, Stack.state_eq_of_names alikeAfter.stack, alike.replay,
    alikeAfter.replay]

/-- Behind a token, scans that are alike stay alike, or the same language starts at the same
position. -/
theorem alike_ofScan (alike : after.Alike strict True behind) (token : String)
    (entering : Option String) :
    Next.Alike strict (.ofScan (HostLine.behind found token after) entering)
      (.ofScan (HostLine.behind found token behind) entering) := by
  have alikeBehind : (HostLine.behind found token after).Alike strict True
      (HostLine.behind found token behind) := by
    unfold HostLine.behind
    split
    · exact { alike with position := by rw [alike.position] }
    · exact alike
  cases entering with
  | none => exact .goOn alikeBehind
  | some name =>
    show Next.Alike strict (.enter name _ _) (.enter name _ _)
    rw [alikeBehind.position]
    exact .enter alikeBehind.stack

theorem agree_tellToken (offset : Nat) (classification : String) (side : Option Side) :
    Agree tokenizers strict told Eq (host.tellToken offset classification side)
      (host.tellToken offset classification side) := by
  unfold tellToken
  split
  · exact agree_tell _
  · exact agree_pure rfl

/-- The end of a step is the same for scans that are alike. -/
theorem agree_concludeWith (guarded : Bool) (alike : scan.Alike strict False other)
    (alikeAfter : after.Alike strict True behind) (action : TokenAction) (token : String)
    (entering : Option String) :
    Agree tokenizers strict told (Next.Alike strict)
      (host.concludeWith guarded scan found action token after entering)
      (host.concludeWith guarded other found action token behind entering) := by
  have ends : Next.Alike strict (.ofScan (HostLine.behind found token after) entering)
      (.ofScan (HostLine.behind found token behind) entering) := alike_ofScan alikeAfter _ _
  have same : host.progressed scan (HostLine.behind found token after) =
      host.progressed other (HostLine.behind found token behind) := by
    refine progressed_of_alike alike ?_
    cases alike_ofScan alikeAfter token none with
    | goOn alikeBehind => exact alikeBehind.mono fun holds => holds.elim
  unfold concludeWith
  split
  · rw [same]
    split
    · exact agree_pure ends
    · exact agree_throw _
  · refine agree_bind_eq (agree_settle_self _ _) fun classified => ?_
    rw [alike.position]
    exact agree_bind_eq (agree_tellToken _ _ _) fun _ => agree_pure ends

theorem seenEmptyGroup_of_alike (holds : strict) {dues : Prop}
    (alike : scan.Alike strict dues other) : seenEmptyGroup scan = seenEmptyGroup other := by
  have names : ∀ scan : Scan, seenEmptyGroup scan =
      (scan.emptyGroup.map fun seen => (seen.1, seen.2.names)).any fun seen =>
        seen.1 == scan.position && seen.2 == scan.stack.names := by
    intro scan
    rw [Option.any_map]
    rfl
  rw [names scan, names other, alike.emptyGroup holds, alike.position, alike.stack]

/-- Groups are taken next in both scans or in neither, except that a scan may find that it has seen
the same empty groups before. -/
theorem agree_splitGroupsWith (guarded : Bool) (alike : scan.Alike strict False other)
    (tokenizer : Tokenizer) (members : List Action) :
    Agree tokenizers strict told (Scan.Alike strict True)
      (settle tokenizer (splitGroupsWith guarded scan found members))
      (settle tokenizer (splitGroupsWith guarded other found members)) := by
  have next : ∀ {emptyGroup emptyGroupOther : Option (Nat × Stack)} {replay : Option Replay},
      (strict → emptyGroup.map (fun seen => (seen.1, seen.2.names)) =
        emptyGroupOther.map (fun seen => (seen.1, seen.2.names))) →
      Scan.Alike strict True { scan with replay, emptyGroup, due := false }
        { other with replay, emptyGroup := emptyGroupOther, due := false } := fun seen =>
    ⟨alike.position, alike.stack, alike.embedded, rfl, seen, fun _ => rfl⟩
  unfold splitGroupsWith
  dsimp only
  rw [← alike.replay]
  split
  · exact agree_throw _
  · split
    · exact agree_throw _
    · split
      · exact agree_throw _
      · split
        · have place : strict → (some (scan.position, scan.stack)).map
              (fun seen => (seen.1, seen.2.names)) =
              (some (other.position, other.stack)).map (fun seen => (seen.1, seen.2.names)) :=
            fun _ => by rw [Option.map_some, Option.map_some, alike.position, alike.stack]
          by_cases holds : strict
          · rw [seenEmptyGroup_of_alike holds alike]
            split
            · exact agree_throw _
            · exact agree_pure (next place)
          · split
            · refine agree_stallsLeft holds ?_
              exact trivial
            · split
              · refine agree_stallsRight holds ?_
                exact trivial
              · exact agree_pure (next place)
        · exact agree_pure (next alike.emptyGroup)

/-- What a match leads to is the same for scans that are alike. -/
theorem agree_applyWith (guarded : Bool) (injective : tokenizers.InjOn Tokenizer.identity)
    (known : host.tokenizer ∈ tokenizers) (alike : scan.Alike strict False other)
    (alikeAfter : after.Alike strict True behind) :
    Agree tokenizers strict told (Next.Alike strict) (host.applyWith guarded scan after found)
      (host.applyWith guarded other behind found) := by
  unfold applyWith context
  dsimp only
  rw [alikeAfter.position, Stack.state_eq_of_names alike.stack]
  refine agree_bind_eq (agree_settle_self _ _) fun resolved => ?_
  cases resolved with
  | group members => exact agree_map (agree_splitGroupsWith guarded alike _ members) .goOn
  | token action =>
    have moved : Scan.Alike strict True
        { after with position := behind.position + found.matched.size }
        { behind with position := behind.position + found.matched.size } :=
      { alikeAfter with position := rfl }
    refine agree_bind (agree_transit injective known moved _ _) fun {changed other} same => ?_
    rw [same.2]
    exact agree_concludeWith guarded alike same.1 _ _ _

/-- With the guards or without them, a step leads scans that are alike to scans that are alike, or
to the same stop. -/
theorem agree_stepWith (guarded : Bool) (injective : tokenizers.InjOn Tokenizer.identity)
    (known : host.tokenizer ∈ tokenizers)
    (alike : scan.Alike strict (scan.replay ≠ none) other) :
    Agree tokenizers strict told (Next.Alike strict) (host.stepWith guarded scan)
      (host.stepWith guarded other) := by
  have alikeBefore : scan.Alike strict False other := alike.mono fun holds => holds.elim
  refine agree_bind (agree_take injective known alike) fun {taken takenOther} same => ?_
  cases same with
  | none pending =>
    exact agree_pure (.goOn ⟨alike.position, alike.stack, alike.embedded, rfl, alike.emptyGroup,
      fun _ => alike.due pending⟩)
  | some alikeAfter => exact agree_applyWith guarded injective known alikeBefore alikeAfter

theorem agree_step (injective : tokenizers.InjOn Tokenizer.identity)
    (known : host.tokenizer ∈ tokenizers)
    (alike : scan.Alike strict (scan.replay ≠ none) other) :
    Agree tokenizers strict told (Next.Alike strict) (host.step scan) (host.step other) := by
  rw [← stepWith_true, ← stepWith_true]
  exact agree_stepWith true injective known alike

end HostLine

end LineLexer
