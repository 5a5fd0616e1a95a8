import LineLexer.Proofs.Delegation

/-!
**Lines that start further on.**

Offsets count from a number that a line is given, and a part of the line is given the number of the
place where it starts. So a line that is given a greater number tells the same events in the same
order, and each offset is greater by as much as the number is, whatever the line comes to.

* `Event.moved`, `Trace.moved`, `HostLine.moved`, `Job.moved`: the same further on;
* `Scanning.Moves`: a computation that is another one further on, with rules for its parts;
* `HostLine.moves_step`, `HostLine.moves_run`: a step and a scan;
* `Job.MovesOn`, `Job.movesOn_tokenizeWithin`: work on lines that moves with them;
* `Workspace.tokenize_moved`: a line that is given two numbers.
-/

namespace LineLexer

/-- An event of a line that starts further on. -/
def Event.moved (distance : Nat) : Event → Event
  | language name => language name
  | token offset classification side => token (offset + distance) classification side

/-- What a line leaves behind that starts further on. -/
def Trace.moved (distance : Nat) (trace : Trace) : Trace :=
  { trace with events := trace.events.map (Event.moved distance) }

namespace Scanning

variable {Result Other : Type} {distance : Nat}

/-- A computation does the same as another one, and tells it further on. -/
def Moves (distance : Nat) (here there : Scanning Result) : Prop :=
  ∀ trace : Trace, outcome there (trace.moved distance) =
    ((outcome here trace).1, (outcome here trace).2.moved distance)

theorem moves_pure (result : Result) : Moves distance (pure result) (pure result) := fun _ => rfl

theorem moves_throw (stop : Stop) :
    Moves distance (throw stop : Scanning Result) (throw stop) := fun _ => rfl

theorem moves_note (entry : Note) : Moves distance (note entry) (note entry) := fun _ => rfl

theorem moves_share (tokenizer : Tokenizer) (operation : StateCache → Result × StateCache) :
    Moves distance (share tokenizer operation) (share tokenizer operation) := fun _ => rfl

theorem moves_tell (event : Event) :
    Moves distance (tell event) (tell (event.moved distance)) := by
  intro trace
  rw [outcome_tell, outcome_tell]
  unfold Trace.moved
  rw [Array.map_push]

theorem moves_settle (tokenizer : Tokenizer) (result : Except Fault Result) :
    Moves distance (settle tokenizer result) (settle tokenizer result) := by
  cases result with
  | ok result => exact moves_pure result
  | error fault => exact moves_throw _

theorem moves_cut (part : Option Result) : Moves distance (cut part) (cut part) := by
  cases part with
  | some part => exact moves_pure part
  | none => exact moves_throw .cut

/-- What follows a result that is told further on is told further on. -/
theorem moves_bind {first firstThere : Scanning Other} {next nextThere : Other → Scanning Result}
    (moves : Moves distance first firstThere)
    (onwards : ∀ value, Moves distance (next value) (nextThere value)) :
    Moves distance (first >>= next) (firstThere >>= nextThere) := by
  intro trace
  rw [outcome_bind, outcome_bind, moves trace]
  rcases outcome first trace with ⟨_ | value, middle⟩
  · rfl
  · exact onwards value middle

theorem moves_map {here there : Scanning Other} (moves : Moves distance here there)
    (change : Other → Result) : Moves distance (change <$> here) (change <$> there) := by
  intro trace
  rw [outcome_map, outcome_map, moves trace]

theorem moves_ite {condition : Prop} [Decidable condition]
    {here there otherHere otherThere : Scanning Result} (moves : Moves distance here there)
    (movesOther : Moves distance otherHere otherThere) :
    Moves distance (if condition then here else otherHere)
      (if condition then there else otherThere) := by
  split
  · exact moves
  · exact movesOther

end Scanning

open Scanning

/-! ### What tells nothing -/

namespace Tokenizer

variable {distance : Nat} (tokenizer : Tokenizer)

theorem moves_anchored (state : String) (rule : Rule) :
    Moves distance (tokenizer.anchored state rule) (tokenizer.anchored state rule) :=
  moves_bind (fun _ => rfl) fun _ => moves_settle _ _

theorem moves_firstMatch (state : String) (atStart : Bool) (rest : Text) (rules : List Rule) :
    Moves distance (tokenizer.firstMatch state atStart rest rules)
      (tokenizer.firstMatch state atStart rest rules) := by
  induction rules with
  | nil => exact moves_pure none
  | cons rule rules step =>
    unfold firstMatch
    refine moves_ite step (moves_bind (tokenizer.moves_anchored state rule) fun regex => ?_)
    split
    · exact moves_pure _
    · exact step

theorem moves_findAt (text : Text) (position : Nat) (state : String) :
    Moves distance (tokenizer.findAt text position state)
      (tokenizer.findAt text position state) := by
  unfold findAt
  split
  · exact moves_settle _ _
  · exact moves_bind (moves_cut _) fun rest =>
      moves_bind (tokenizer.moves_firstMatch _ _ rest _) fun _ => moves_pure _

theorem moves_initialState :
    Moves distance tokenizer.initialState tokenizer.initialState :=
  moves_bind (moves_share _ _) fun _ => moves_share _ _

theorem moves_embed (registry : Option Registry) (name : String) :
    Moves distance (tokenizer.embed registry name) (tokenizer.embed registry name) := by
  unfold embed
  dsimp only
  split
  · exact moves_bind (moves_initialState _) fun _ => moves_pure _
  · exact moves_pure _

end Tokenizer

/-! ### A scan -/

namespace HostLine

variable {distance : Nat} (host : HostLine)

/-- A line that starts further on. -/
def moved (distance : Nat) : HostLine := { host with shift := host.shift + distance }

theorem moves_take (scan : Scan) :
    Moves distance (host.take scan) ((host.moved distance).take scan) := by
  show Moves distance (host.take scan) (host.take scan)
  unfold take
  split
  · split
    · exact moves_pure _
    · exact moves_pure _
  · exact moves_map (host.tokenizer.moves_findAt _ _ _) _

theorem moves_changeStack (tokenizer : Tokenizer) (stack : Stack) (change : StackChange) :
    Moves distance (changeStack tokenizer stack change) (changeStack tokenizer stack change) := by
  unfold changeStack
  cases change with
  | push state => exact moves_share tokenizer _
  | switchTo state => exact moves_share tokenizer _
  | keep => exact moves_pure _
  | pop => exact moves_pure _
  | toRoot => exact moves_pure _

theorem moves_transit (after : Scan) (found : Found) (context : MatchContext)
    (action : TokenAction) :
    Moves distance (host.transit after found context action)
      ((host.moved distance).transit after found context action) := by
  show Moves distance (host.transit after found context action)
    (host.transit after found context action)
  unfold transit
  refine moves_bind (moves_settle _ _) fun embedding => ?_
  refine moves_bind (moves_cut _) fun position => ?_
  refine moves_bind (moves_settle _ _) fun change => ?_
  refine moves_bind (moves_changeStack _ _ _) fun stack => ?_
  split
  · exact moves_bind (moves_note _) fun _ => moves_pure _
  · exact moves_pure _

/-- The one place where a scan tells an offset. -/
theorem moves_tellToken (offset : Nat) (classification : String) (side : Option Side) :
    Moves distance (host.tellToken offset classification side)
      ((host.moved distance).tellToken offset classification side) := by
  unfold tellToken
  refine moves_ite ?_ (moves_pure ())
  have place : offset + (host.moved distance).shift = offset + host.shift + distance :=
    (Nat.add_assoc offset host.shift distance).symm
  rw [place]
  exact moves_tell (.token (offset + host.shift) classification side)

theorem moves_conclude (before : Scan) (found : Found) (action : TokenAction) (token : String)
    (changed : Scan) (entering : Option String) :
    Moves distance (host.conclude before found action token changed entering)
      ((host.moved distance).conclude before found action token changed entering) := by
  unfold conclude
  refine moves_ite (moves_ite (moves_pure _) (moves_settle _ _)) ?_
  exact moves_bind (moves_settle _ _) fun _ =>
    moves_bind (host.moves_tellToken _ _ _) fun _ => moves_pure _

theorem moves_apply (before after : Scan) (found : Found) :
    Moves distance (host.apply before after found)
      ((host.moved distance).apply before after found) := by
  unfold apply
  refine moves_bind (moves_settle _ _) fun resolved => ?_
  cases resolved with
  | group members => exact moves_map (moves_settle _ _) _
  | token action =>
    dsimp only
    rw [applyToken_eq, applyToken_eq]
    exact moves_bind (host.moves_transit _ _ _ _) fun _ => host.moves_conclude _ _ _ _ _ _

/-- A step of a line that starts further on is the same step. -/
theorem moves_step (scan : Scan) :
    Moves distance (host.step scan) ((host.moved distance).step scan) := by
  rw [step_eq, step_eq]
  refine moves_bind (host.moves_take scan) fun taken => ?_
  cases taken with
  | none => exact moves_pure _
  | some taken => exact host.moves_apply scan taken.1 taken.2

/-- A scan takes the same steps further on. -/
theorem moves_run (steps : Nat) (scan : Scan) :
    Moves distance (host.run steps scan) ((host.moved distance).run steps scan) := by
  induction steps generalizing scan with
  | zero => exact moves_throw .exhausted
  | succ steps step =>
    unfold run
    refine moves_ite (moves_bind (host.moves_step scan) fun next => ?_) (moves_pure _)
    cases next with
    | goOn scan => exact step scan
    | enter name position stack => exact moves_pure _

end HostLine

/-! ### A line and its parts -/

namespace Job

variable {registry : Option Registry} {steps distance : Nat}
  {tokenizeLine : Job → Scanning LineState}

/-- A line that starts further on. -/
def moved (distance : Nat) (job : Job) : Job := { job with shift := job.shift + distance }

/-- Work on lines that moves with them. -/
def MovesOn (distance : Nat) (tokenizeLine : Job → Scanning LineState) : Prop :=
  ∀ job : Job, Moves distance (tokenizeLine job) (tokenizeLine (job.moved distance))

theorem moves_skip (language : String) (shift : Nat) :
    Moves distance (skip language shift) (skip language (shift + distance)) :=
  moves_bind (moves_tell (.language language)) fun _ => moves_tell (.token shift "" none)

theorem movesOn_unlessLong (moves : MovesOn distance tokenizeLine) :
    MovesOn distance (unlessLong tokenizeLine) := by
  intro job
  unfold unlessLong
  exact moves_ite (moves_bind (moves_skip _ _) fun _ => moves_pure _) (moves job)

/-- A guest gets a line further on where the host does. -/
theorem guestJob?_moved (job : Job) (embedded : Embedded) :
    (job.moved distance).guestJob? registry embedded =
      (job.guestJob? registry embedded).map (moved distance) := by
  unfold guestJob?
  cases embedded.state with
  | none => rfl
  | some state =>
    dsimp only [moved]
    cases (job.tokenizer.languages? registry).bind (·.tokenizer? embedded.language) <;> rfl

theorem moves_delegate (moves : MovesOn distance tokenizeLine) (job : Job) (embedded : Embedded) :
    Moves distance (job.delegate registry tokenizeLine embedded)
      ((job.moved distance).delegate registry tokenizeLine embedded) := by
  rw [delegate_eq, delegate_eq, guestJob?_moved]
  cases job.guestJob? registry embedded with
  | none => exact moves_bind (moves_skip _ _) fun _ => moves_pure _
  | some guest => exact moves_map (movesOn_unlessLong moves guest) some

/-- The rest of a line that starts further on starts further on. -/
theorem moved_rest (job : Job) (rest : Text) (state : LineState) (position : Nat) :
    ({ job.moved distance with
        line := rest, state, shift := (job.moved distance).shift + position } : Job) =
      moved distance { job with line := rest, state, shift := job.shift + position } := by
  unfold moved
  rw [Nat.add_right_comm]

theorem movesOn_scanHost (moves : MovesOn distance tokenizeLine) :
    MovesOn distance (scanHost registry steps tokenizeLine) := by
  intro job
  unfold scanHost
  refine moves_bind (moves_tell _) fun _ => ?_
  refine moves_bind (job.host.moves_run steps job.start) fun departure => ?_
  cases departure with
  | lineEnd stack embedded => exact moves_share _ _
  | enter name position stack =>
    refine moves_bind (Tokenizer.moves_embed _ _ _) fun embedded => ?_
    refine moves_bind (moves_share _ _) fun state => ?_
    refine moves_ite (moves_bind (moves_cut _) fun rest => ?_) (moves_pure _)
    rw [moved_rest]
    exact moves _

theorem movesOn_advance (moves : MovesOn distance tokenizeLine) :
    MovesOn distance (advance registry steps tokenizeLine) := by
  intro job
  unfold advance
  dsimp only [moved]
  cases inside : job.state.embedded? with
  | none => exact movesOn_scanHost moves job
  | some embedded =>
    refine moves_bind (moves_settle _ _) fun leaving => ?_
    cases leaving with
    | none =>
      exact moves_bind (moves_delegate moves job embedded) fun state => moves_share _ _
    | some offset =>
      have rests : Moves distance
          (do
            let rest ← cut (job.line.drop? offset)
            scanHost registry steps tokenizeLine (job.hostPart rest offset))
          (do
            let rest ← cut (job.line.drop? offset)
            scanHost registry steps tokenizeLine ((job.moved distance).hostPart rest offset)) := by
        refine moves_bind (moves_cut _) fun rest => ?_
        have same : (job.moved distance).hostPart rest offset =
            (job.hostPart rest offset).moved distance := job.moved_rest rest job.state offset
        rw [same]
        exact movesOn_scanHost moves _
      refine moves_ite (moves_bind (moves_cut _) fun line => ?_) rests
      exact moves_bind (moves_delegate moves (job.guestPart line) embedded) fun _ => rests

theorem movesOn_tokenizeWithin (depth : Nat) :
    MovesOn distance (tokenizeWithin registry steps depth) := by
  induction depth with
  | zero => exact fun _ => moves_throw .exhausted
  | succ depth step => exact movesOn_advance step

theorem movesOn_tokenize : MovesOn distance fun job => job.tokenize registry := by
  intro job
  exact movesOn_unlessLong (movesOn_tokenizeWithin nestingLimit) job

end Job

/-- A report of a line that starts further on. -/
def Report.moved (distance : Nat) (report : Report) : Report :=
  { report with events := report.events.map (Event.moved distance) }

namespace Workspace

/-- A line that starts further on makes the same report further on, and leaves the same behind. -/
theorem tokenize_job_moved (workspace : Workspace) (job : Job) (distance : Nat) :
    workspace.tokenize (job.moved distance) =
      ((workspace.tokenize job).1.moved distance, (workspace.tokenize job).2) := by
  have line : Scanning.Moves distance (job.tokenize workspace.registry)
      ((job.moved distance).tokenize workspace.registry) := Job.movesOn_tokenize job
  have moves := line { memories := workspace.memories }
  have start : Trace.moved distance { memories := workspace.memories } =
      { memories := workspace.memories } := by
    unfold Trace.moved
    rw [Array.map_empty]
  rw [start] at moves
  unfold tokenize perform
  rw [moves]
  rfl

/-- A line makes the report that it makes at the start, further on. -/
theorem tokenize_eq_moved (workspace : Workspace) (job : Job) :
    (workspace.tokenize job).1 =
      (workspace.tokenize { job with shift := 0 }).1.moved job.shift := by
  have moved := workspace.tokenize_job_moved { job with shift := 0 } job.shift
  have same : ({ job with shift := 0 } : Job).moved job.shift = job := by
    unfold Job.moved
    rw [Nat.zero_add]
  rw [same] at moved
  rw [moved]

/-- Offset shift equivariance. A line makes the same events in the same order whatever number its
offsets count from: there is one list of events, and the offsets in it are increased by the number
that the line is given. The notes are the same, and so is the stop, or the states are equal. The
two may be tokenized after different calls, and in states that are equal. -/
theorem tokenize_shifted {tokenizers : Set Tokenizer}
    (injective : tokenizers.InjOn Tokenizer.identity) {calls others : List Call}
    (known : ∀ call ∈ calls ++ others, Known tokenizers call.registry call.tokenizer)
    {workspace other : Workspace} (remembers : workspace.memories = .after calls)
    (remembersOther : other.memories = .after others)
    (registry : workspace.registry = other.registry) {tokenizer : Tokenizer}
    (takesPart : Known tokenizers workspace.registry tokenizer) {state stateOther : LineState}
    (same : (state == stateOther) = true) (line : Text) (ended : Bool) (shift shiftOther : Nat) :
    let report := (workspace.tokenize { tokenizer, line, ended, state, shift }).1
    let reportOther := (other.tokenize
      { tokenizer, line, ended, state := stateOther, shift := shiftOther }).1
    ∃ events : Array Event, report.events = events.map (Event.moved shift) ∧
      reportOther.events = events.map (Event.moved shiftOther) ∧
      report.notes = reportOther.notes ∧ SameResult report.result reportOther.result := by
  have alike := alike_of_calls injective known remembers remembersOther registry
  obtain ⟨⟨events, notes, results⟩, -⟩ :=
    tokenize_of_alike injective alike takesPart line ended 0 same
  dsimp only
  rw [tokenize_eq_moved workspace { tokenizer, line, ended, state, shift },
    tokenize_eq_moved other { tokenizer, line, ended, state := stateOther, shift := shiftOther }]
  refine ⟨_, rfl, ?_, notes, results⟩
  exact congrArg (Array.map _) events.symm

/-- A line that starts in one part of a language and ends in another one. -/
def twoPartsJob (outer : Grammar) (shift : Nat) : Job where
  tokenizer := stayingHost outer
  line := ['b', 'é', '>', 'a', '<', 'b']
  ended := false
  state := .embedding default (.root default outer.start) "inner" (rootState ⟨0, 0⟩)
  shift

/-- The parts in the other language count on where they start. -/
theorem tokenize_shifted_two_parts :
    ∃ outer inner : Grammar,
      let workspace : Workspace := { registry := some (registryOf inner) }
      let report := (workspace.tokenize (twoPartsJob outer 2)).1
      let reportOther := (workspace.tokenize (twoPartsJob outer 40)).1
      report.events =
        #[.language "inner", .token 2 "x.inner" none, .token 3 "source.inner" none,
          .language "outer", .token 5 "tag.outer" none, .token 6 "text.outer" none,
          .token 7 "tag.outer" none, .language "inner", .token 8 "x.inner" none] ∧
      ∃ events : Array Event, report.events = events.map (Event.moved 2) ∧
        reportOther.events = events.map (Event.moved 40) ∧
        report.notes = reportOther.notes ∧ SameResult report.result reportOther.result := by
  obtain ⟨outer, -, passes⟩ := Grammar.exists_of_compiles
    (Grammar.compileText "outer" "\x7b\"tokenizer\": \x7b\"main\": [
      [\"<\", \x7b\"token\": \"tag\", \"nextEmbedded\": \"inner\"\x7d],
      [\">\", \x7b\"token\": \"tag\", \"nextEmbedded\": \"@pop\"\x7d],
      [\"a\", \"text\"]]\x7d\x7d" false)
    (fun outer => (Grammar.compileText "inner"
      "\x7b\"tokenizer\": \x7b\"main\": [[\"b\", \"x\"]]\x7d\x7d"
      false).result.toOption.any fun inner =>
        (({ registry := some (registryOf inner) } : Workspace).tokenize
          (twoPartsJob outer 2)).1.events ==
            #[.language "inner", .token 2 "x.inner" none, .token 3 "source.inner" none,
              .language "outer", .token 5 "tag.outer" none, .token 6 "text.outer" none,
              .token 7 "tag.outer" none, .language "inner", .token 8 "x.inner" none])
    (by decide +kernel)
  obtain ⟨inner, -, passes⟩ := Grammar.exists_of_compiles _ _ passes
  have uncalled : ∀ call ∈ ([] : List Call) ++ [],
      Known {stayingHost outer, { identity := 1, grammar := inner }} call.registry call.tokenizer :=
    List.forall_mem_nil _
  exact ⟨outer, inner, beq_iff_eq.1 passes, tokenize_shifted (injOn_stayingHost outer inner)
    uncalled rfl rfl rfl (known_stayingHost outer inner) (LineState.beq_iff.2 rfl) _ _ 2 40⟩

end Workspace

end LineLexer
