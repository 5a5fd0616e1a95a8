import LineLexer.Proofs.Delegation

/-!
**Classifications without markup.**

What a classification is made of comes from templates, the line, the state, the brackets of the
grammar and its settings. It is told in one place for each way in which text is classified, and
there it is either empty or all of it has been sanitized. So no event has a classification with a
character to which markup gives a meaning, whatever the line comes to and in whatever language.

* `Event.Clean`: an event whose classification has no such character;
* `Scanning.Tells`: all events that a computation tells have a property, with rules for its parts;
* `HostLine.clean_step`, `HostLine.clean_run`: a step and a scan;
* `Job.TellsClean`, `Job.clean_tokenizeWithin`: a line and its parts;
* `Workspace.classifications_clean`: all that is told about a line.
-/

namespace LineLexer

/-- An event can stand in markup: its classification, if it has one, has none of the characters to
which markup gives a meaning. -/
def Event.Clean : Event → Prop
  | language _ => True
  | token _ classification _ =>
    ∀ letter ∈ ['&', '<', '>', '\'', '"', '_'], letter ∉ classification.toList

/-- What is sanitized as a whole can stand in markup. -/
theorem Event.clean_sanitize (offset : Nat) (token : String) (side : Option Side) :
    (Event.token offset (Classification.sanitize token) side).Clean := by
  intro letter markup present
  have known : ['&', '<', '>', '\'', '"', '_'].all Classification.isMarkup = true := by decide
  have plain := Classification.isMarkup_of_mem_sanitize present
  rw [List.all_eq_true.1 known letter markup] at plain
  cases plain

theorem Event.clean_empty (offset : Nat) (side : Option Side) :
    (Event.token offset "" side).Clean := fun _ _ => List.not_mem_nil

namespace Scanning

variable {Result Other : Type} {holds : Event → Prop}

/-- All events that a computation tells have a property, also where it stops. -/
def Tells (holds : Event → Prop) (scanning : Scanning Result) : Prop :=
  ∀ trace : Trace, ∃ told, trace.Adds told (outcome scanning trace).2 ∧ ∀ event ∈ told, holds event

theorem Quiet.tells {scanning : Scanning Result} (quiet : Quiet scanning) : Tells holds scanning :=
  fun trace => ⟨[], quiet trace, List.forall_mem_nil _⟩

theorem tells_tell {event : Event} (here : holds event) : Tells holds (tell event) :=
  fun trace => ⟨[event], .tell trace event, List.forall_mem_singleton.2 here⟩

/-- What two parts tell is what the first one tells, and then what the second one does. -/
theorem tells_bind {first : Scanning Other} {next : Other → Scanning Result}
    (tells : Tells holds first) (onwards : ∀ value, Tells holds (next value)) :
    Tells holds (first >>= next) := by
  intro trace
  obtain ⟨told, adds, early⟩ := tells trace
  rw [outcome_bind]
  rcases ends : outcome first trace with ⟨_ | value, middle⟩
  · rw [ends] at adds
    exact ⟨told, adds, early⟩
  · rw [ends] at adds
    obtain ⟨later, addsLater, late⟩ := onwards value middle
    exact ⟨told ++ later, adds.trans addsLater, List.forall_mem_append.2 ⟨early, late⟩⟩

theorem tells_map {scanning : Scanning Other} (tells : Tells holds scanning)
    (change : Other → Result) : Tells holds (change <$> scanning) := by
  rw [map_eq_pure_bind]
  exact tells_bind tells fun _ => (quiet_pure _).tells

/-- What follows a check is told about a result that has passed it. -/
theorem tells_settle_bind {tokenizer : Tokenizer} {result : Except Fault Other}
    {next : Other → Scanning Result}
    (onwards : ∀ value, result = .ok value → Tells holds (next value)) :
    Tells holds (settle tokenizer result >>= next) := by
  cases passes : result with
  | ok value => exact onwards value passes
  | error fault => exact (quiet_throw _).tells

theorem tells_ite {condition : Prop} [Decidable condition] {one other : Scanning Result}
    (tells : Tells holds one) (tellsOther : Tells holds other) :
    Tells holds (if condition then one else other) := by
  split
  · exact tells
  · exact tellsOther

end Scanning

open Scanning

/-- Each way to classify a matched text gives nothing, or something that is sanitized as a whole. -/
theorem TokenAction.clean_classify {action : TokenAction} {grammar : Grammar} {token : String}
    {matched : Text} {classification : String} {side : Option Side}
    (classifies : action.classify grammar token matched = .ok (classification, side))
    (offset : Nat) : (Event.token offset classification side).Clean := by
  unfold classify at classifies
  split at classifies
  · split at classifies
    · cases classifies
      exact Event.clean_sanitize _ _ _
    · cases classifies
  · split at classifies
    · cases classifies
      exact Event.clean_empty _ _
    · cases classifies
      exact Event.clean_sanitize _ _ _

/-! ### A scan -/

namespace HostLine

variable (host : HostLine)

theorem clean_tellToken {offset : Nat} {classification : String} {side : Option Side}
    (clean : ∀ place, (Event.token place classification side).Clean) :
    Tells Event.Clean (host.tellToken offset classification side) := by
  unfold tellToken
  exact tells_ite (tells_tell (clean _)) (quiet_pure ()).tells

/-- The end of a step tells a token that has just been classified, or nothing. -/
theorem clean_conclude (before : Scan) (found : Found) (action : TokenAction) (token : String)
    (changed : Scan) (entering : Option String) :
    Tells Event.Clean (host.conclude before found action token changed entering) := by
  unfold conclude
  refine tells_ite (tells_ite (quiet_pure _).tells (quiet_settle _ _).tells) ?_
  refine tells_settle_bind fun classified classifies => ?_
  exact tells_bind (host.clean_tellToken fun place => TokenAction.clean_classify classifies place)
    fun _ => (quiet_pure _).tells

theorem clean_apply (before after : Scan) (found : Found) :
    Tells Event.Clean (host.apply before after found) := by
  unfold apply
  refine tells_bind (quiet_settle _ _).tells fun resolved => ?_
  cases resolved with
  | group members => exact tells_map (quiet_settle _ _).tells _
  | token action =>
    dsimp only
    rw [applyToken_eq]
    exact tells_bind (quiet_transit _ _ _ _ _).tells fun _ => host.clean_conclude _ _ _ _ _ _

theorem clean_step (scan : Scan) : Tells Event.Clean (host.step scan) := by
  rw [step_eq]
  refine tells_bind (quiet_take host scan).tells fun taken => ?_
  cases taken with
  | none => exact (quiet_pure _).tells
  | some taken => exact host.clean_apply scan taken.1 taken.2

/-- A scan tells what its steps tell. -/
theorem clean_run (steps : Nat) (scan : Scan) : Tells Event.Clean (host.run steps scan) := by
  induction steps generalizing scan with
  | zero => exact (quiet_throw .exhausted).tells
  | succ steps step =>
    unfold run
    refine tells_ite (tells_bind (host.clean_step scan) fun next => ?_) (quiet_pure _).tells
    cases next with
    | goOn scan => exact step scan
    | enter name position stack => exact (quiet_pure _).tells

end HostLine

/-! ### A line and its parts -/

namespace Job

variable {registry : Option Registry} {steps : Nat} {tokenizeLine : Job → Scanning LineState}

/-- Work on lines that tells no markup. -/
def TellsClean (tokenizeLine : Job → Scanning LineState) : Prop :=
  ∀ job : Job, Tells Event.Clean (tokenizeLine job)

/-- A line that stays unclassified has the empty classification. -/
theorem clean_skip (language : String) (shift : Nat) :
    Tells Event.Clean (skip language shift) :=
  tells_bind (tells_tell trivial) fun _ => tells_tell (Event.clean_empty _ _)

theorem clean_unlessLong (clean : TellsClean tokenizeLine) :
    TellsClean (unlessLong tokenizeLine) := by
  intro job
  unfold unlessLong
  exact tells_ite (tells_bind (clean_skip _ _) fun _ => (quiet_pure _).tells) (clean job)

theorem clean_delegate (clean : TellsClean tokenizeLine) (job : Job) (embedded : Embedded) :
    Tells Event.Clean (job.delegate registry tokenizeLine embedded) := by
  rw [delegate_eq]
  cases job.guestJob? registry embedded with
  | none => exact tells_bind (clean_skip _ _) fun _ => (quiet_pure _).tells
  | some guest => exact tells_map (clean_unlessLong clean guest) some

theorem clean_scanHost (clean : TellsClean tokenizeLine) :
    TellsClean (scanHost registry steps tokenizeLine) := by
  intro job
  rw [scanHost_eq]
  refine tells_bind (tells_bind (tells_tell trivial) fun _ => job.host.clean_run _ _) ?_
  intro departure
  refine tells_bind (quiet_handOver _ _ _).tells fun behind => ?_
  obtain ⟨state, _ | rest⟩ := behind
  · exact (quiet_pure state).tells
  · exact clean rest

/-- What comes before the scan of a line is told by the embedded language. -/
theorem clean_openWith (clean : TellsClean tokenizeLine) (job : Job) :
    Tells Event.Clean (job.openWith registry tokenizeLine) := by
  unfold openWith
  cases job.state.embedded? with
  | none => exact (quiet_pure _).tells
  | some embedded =>
    refine tells_bind (quiet_settle _ _).tells fun leaving => ?_
    cases leaving with
    | none =>
      exact tells_bind (clean_delegate clean job embedded) fun _ =>
        tells_map (quiet_share _ _).tells _
    | some offset =>
      have rests : Tells Event.Clean (do
          let rest ← cut (job.line.drop? offset)
          pure (.inr (job.hostPart rest offset)) : Scanning (LineState ⊕ Job)) :=
        (quiet_bind (quiet_cut _) fun _ => quiet_pure _).tells
      refine tells_ite (tells_bind (quiet_cut _).tells fun line => ?_) rests
      exact tells_bind (clean_delegate clean (job.guestPart line) embedded) fun _ => rests

/-- A line tells no markup if its parts tell none. -/
theorem clean_advance (clean : TellsClean tokenizeLine) :
    TellsClean (advance registry steps tokenizeLine) := by
  intro job
  rw [advance_eq]
  refine tells_bind (clean_openWith clean job) fun opened => ?_
  cases opened with
  | inl state => exact (quiet_pure state).tells
  | inr part => exact clean_scanHost clean part

theorem clean_tokenizeWithin (depth : Nat) :
    TellsClean (tokenizeWithin registry steps depth) := by
  induction depth with
  | zero => exact fun _ => (quiet_throw .exhausted).tells
  | succ depth step => exact clean_advance step

end Job

namespace Workspace

/-- What is told by work that tells no markup. -/
theorem clean_perform (workspace : Workspace) {work : Scanning LineState}
    (tells : Tells Event.Clean work) :
    ∀ event ∈ (workspace.perform work).1.events, event.Clean := by
  obtain ⟨told, adds, clean⟩ := tells { memories := workspace.memories }
  have all : (workspace.perform work).1.events.toList = told := adds
  intro event inside
  rw [← Array.mem_toList_iff, all] at inside
  exact clean event inside

/-- Classifications have no characters of markup. Whatever tokenizers are known, and whatever the
line, its end, the state it starts in and the number its offsets count from are: no classification
that is told about it has one of the six characters, in the line's own language or in an embedded
one, and also where the line comes to a stop. Nor has one that is told within any other bounds, so
this is true of each beginning of work that does not come to an end. -/
theorem classifications_clean (workspace : Workspace) (job : Job) :
    (∀ event ∈ (workspace.tokenize job).1.events, event.Clean) ∧
      ∀ steps depth : Nat, ∀ event ∈ (workspace.perform
        (job.unlessLong (Job.tokenizeWithin workspace.registry steps depth))).1.events,
          event.Clean := by
  have within : ∀ steps depth : Nat, ∀ event ∈ (workspace.perform
      (job.unlessLong (Job.tokenizeWithin workspace.registry steps depth))).1.events,
        event.Clean := fun steps depth =>
    workspace.clean_perform (Job.clean_unlessLong (Job.clean_tokenizeWithin depth) job)
  exact ⟨within (Job.stepLimit job.line) Job.nestingLimit, within⟩

/-- A line full of markup, in a state whose name has some, too. -/
def markedJob (outer : Grammar) : Job where
  tokenizer := stayingHost outer
  line := ['_', '\'', '"', '(', 'é', '<', '&', '!']
  ended := false
  state := .host default (.root default "main.s_1")
  shift := 2

/-- Markup in the line, the name of the state, a bracket's token, the default token and what every
token ends with, told in two languages up to a stop in the second one. -/
theorem classifications_clean_marked :
    ∃ outer inner : Grammar,
      let workspace : Workspace := { registry := some (registryOf inner) }
      let report := (workspace.tokenize (markedJob outer)).1
      report.events =
        #[.language "outer", .token 2 "n.---.main.s-1-o" none,
          .token 5 "p-q-o" (some .opening), .token 6 "a-b-o" none, .token 8 "t.--o" none,
          .language "inner", .token 9 "amp.-.inner" none] ∧
      report.result.toBool = false ∧ ∀ event ∈ report.events, event.Clean := by
  obtain ⟨outer, -, passes⟩ := Grammar.exists_of_compiles
    (Grammar.compileText "outer" "\x7b\"tokenPostfix\": \"_o\", \"defaultToken\": \"a<b\",
      \"brackets\": [[\"(\", \")\", \"p&q\"]], \"tokenizer\": \x7b\"main\": [
      [\"[_'\\\"]+\", \"n.$#.$S0\"], [\"[(]\", \"@brackets\"],
      [\"<\", \x7b\"token\": \"t.$0\", \"nextEmbedded\": \"inner\"\x7d],
      [\">\", \x7b\"token\": \"t.$0\", \"nextEmbedded\": \"@pop\"\x7d]]\x7d\x7d" false)
    (fun outer => (Grammar.compileText "inner"
      "\x7b\"tokenizer\": \x7b\"main\": [[\"&\", \"amp.$#\"], [\"!\", \"x\", \"@pop\"]]\x7d\x7d"
      false).result.toOption.any fun inner =>
        let report := (({ registry := some (registryOf inner) } : Workspace).tokenize
          (markedJob outer)).1
        report.events ==
          #[.language "outer", .token 2 "n.---.main.s-1-o" none,
            .token 5 "p-q-o" (some .opening), .token 6 "a-b-o" none, .token 8 "t.--o" none,
            .language "inner", .token 9 "amp.-.inner" none] &&
        !report.result.toBool)
    (by decide +kernel)
  obtain ⟨inner, -, passes⟩ := Grammar.exists_of_compiles _ _ passes
  simp only [Bool.and_eq_true, Bool.not_eq_true', beq_iff_eq] at passes
  exact ⟨outer, inner, passes.1, passes.2, (classifications_clean _ _).1⟩

end Workspace

end LineLexer
