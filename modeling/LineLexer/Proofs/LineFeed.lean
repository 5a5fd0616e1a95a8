import LineLexer.Proofs.Delegation

/-!
**Line feeds.**

Whether a line feed ends a line is passed on from a line to its parts, and the rules of a grammar
only see it where the grammar asks for that. So if no grammar does, a line comes to the same with
and without a line feed.

* `NoneSeesEnds`: no tokenizer that may work on a line has rules that see its end;
* `Job.IgnoresEnds`: work on lines that is the same with and without a line feed;
* `Job.ignoresEnds_delegate`, `Job.ignoresEnds_scanHost`, `Job.ignoresEnds_advance`: a line is such
  work if its parts are;
* `Workspace.tokenize_line_feed`: a line makes the same report with and without a line feed.
-/

namespace LineLexer

open Scanning

/-- No grammar that may work on a line asks for line feeds. -/
def NoneSeesEnds (registry : Option Registry) (tokenizer : Tokenizer) : Prop :=
  ∀ other, TakesPart registry tokenizer other → other.grammar.includeLineFeed = false

theorem NoneSeesEnds.guest {registry : Option Registry} {tokenizer guest : Tokenizer}
    {language : String} (blind : NoneSeesEnds registry tokenizer)
    (found : (tokenizer.languages? registry).bind (·.tokenizer? language) = some guest) :
    NoneSeesEnds registry guest := fun other takes => blind other (.of_guest found takes)

/-- A grammar that does not ask for line feeds scans a line as if none ended it. -/
theorem HostLine.make_of_blind {tokenizer : Tokenizer}
    (blind : tokenizer.grammar.includeLineFeed = false) (line : Text) (ended other : Bool)
    (shift : Nat) : make tokenizer line ended shift = make tokenizer line other shift := by
  unfold make
  simp only [blind, Bool.and_false]

namespace Job

variable {registry : Option Registry} {steps : Nat} {tokenizeLine : Job → Scanning LineState}

/-- Work on lines that is the same with and without a line feed, where no grammar asks for it. -/
def IgnoresEnds (registry : Option Registry) (tokenizeLine : Job → Scanning LineState) : Prop :=
  ∀ (job : Job) (ended : Bool), NoneSeesEnds registry job.tokenizer →
    tokenizeLine { job with ended } = tokenizeLine job

theorem ignoresEnds_unlessLong (ignores : IgnoresEnds registry tokenizeLine) :
    IgnoresEnds registry (unlessLong tokenizeLine) := by
  intro job ended blind
  unfold unlessLong
  rw [ignores job ended blind]

/-- A guest ignores the end of a line as the host does. -/
theorem ignoresEnds_delegate (ignores : IgnoresEnds registry tokenizeLine) (job : Job)
    (ended : Bool) (blind : NoneSeesEnds registry job.tokenizer) (embedded : Embedded) :
    ({ job with ended } : Job).delegate registry tokenizeLine embedded =
      job.delegate registry tokenizeLine embedded := by
  unfold delegate
  dsimp only
  cases embedded.state with
  | none => rfl
  | some state =>
    cases found : (job.tokenizer.languages? registry).bind (·.tokenizer? embedded.language) with
    | none => rfl
    | some guest =>
      exact congrArg (some <$> ·) (ignoresEnds_unlessLong ignores
        { job with tokenizer := guest, state } ended (blind.guest found))

/-- The rules of the host see no end of a line, and what follows their scan ignores it. -/
theorem ignoresEnds_scanHost (ignores : IgnoresEnds registry tokenizeLine) :
    IgnoresEnds registry (scanHost registry steps tokenizeLine) := by
  intro job ended blind
  unfold scanHost
  dsimp only
  rw [HostLine.make_of_blind (blind _ .self) job.line ended job.ended]
  refine congrArg _ (funext fun _ => congrArg _ (funext fun departure => ?_))
  cases departure with
  | lineEnd stack embedded => rfl
  | enter name position stack =>
    have rests : ∀ (rest : Text) (state : LineState),
        tokenizeLine { job with line := rest, state, ended, shift := job.shift + position } =
          tokenizeLine { job with line := rest, state, shift := job.shift + position } :=
      fun rest state =>
        ignores { job with line := rest, state, shift := job.shift + position } ended blind
    simp only [rests]

/-- A line that ends with a line feed is the same work as one without, if its parts are. -/
theorem ignoresEnds_advance (ignores : IgnoresEnds registry tokenizeLine) :
    IgnoresEnds registry (advance registry steps tokenizeLine) := by
  intro job ended blind
  unfold advance
  cases inside : job.state.embedded? with
  | none => exact ignoresEnds_scanHost ignores job ended blind
  | some embedded =>
    dsimp only
    refine congrArg _ (funext fun leaving => ?_)
    cases leaving with
    | none =>
      dsimp only
      rw [ignoresEnds_delegate ignores job ended blind]
    | some offset =>
      have rests : ∀ rest : Text, scanHost registry steps tokenizeLine
          { job with line := rest, ended, shift := job.shift + offset } =
            scanHost registry steps tokenizeLine
              { job with line := rest, shift := job.shift + offset } :=
        fun rest => ignoresEnds_scanHost ignores
          { job with line := rest, shift := job.shift + offset } ended blind
      -- The part before the exit has no end of its own, whatever the line has.
      simp only [rests]

theorem ignoresEnds_tokenizeWithin (depth : Nat) :
    IgnoresEnds registry (tokenizeWithin registry steps depth) := by
  induction depth with
  | zero => exact fun _ _ _ => rfl
  | succ depth step => exact ignoresEnds_advance step

theorem ignoresEnds_tokenize : IgnoresEnds registry fun job => job.tokenize registry := by
  intro job ended blind
  exact ignoresEnds_unlessLong (ignoresEnds_tokenizeWithin nestingLimit) job ended blind

end Job

/-- The newline flag. Where no grammar that may work on a line asks for line feeds, a line that ends
with a line feed and the same line without it make the same events and notes, and fail with the same
stop or end in equal states. The two may be tokenized after different calls, and in states that are
equal. -/
theorem Workspace.tokenize_line_feed {tokenizers : Set Tokenizer}
    (injective : tokenizers.InjOn Tokenizer.identity) {calls others : List Call}
    (known : ∀ call ∈ calls ++ others, Known tokenizers call.registry call.tokenizer)
    {workspace other : Workspace} (remembers : workspace.memories = .after calls)
    (remembersOther : other.memories = .after others)
    (registry : workspace.registry = other.registry) {tokenizer : Tokenizer}
    (takesPart : Known tokenizers workspace.registry tokenizer)
    (blind : NoneSeesEnds workspace.registry tokenizer) {state stateOther : LineState}
    (same : (state == stateOther) = true) (line : Text) (shift : Nat) :
    Report.Alike (workspace.tokenize { tokenizer, line, ended := true, state, shift }).1
      (other.tokenize { tokenizer, line, ended := false, state := stateOther, shift }).1 := by
  have alike := alike_of_calls injective known remembers remembersOther registry
  have ended : other.tokenize { tokenizer, line, ended := true, state := stateOther, shift } =
      other.tokenize { tokenizer, line, ended := false, state := stateOther, shift } := by
    unfold tokenize
    rw [← registry]
    exact congrArg _ (Job.ignoresEnds_tokenize
      { tokenizer, line, ended := false, state := stateOther, shift } true blind)
  rw [← ended]
  exact (tokenize_of_alike injective alike takesPart line true shift same).1

/-- A line with a part in another language up to its end. -/
def openEndedJob (outer : Grammar) (ended : Bool) : Job where
  tokenizer := stayingHost outer
  line := ['a', '<', 'b', 'é']
  ended
  state := .host default (.root default outer.start)
  shift := 2

/-- The part in the other language ends where the line ends. -/
theorem Workspace.tokenize_line_feed_open_ended :
    ∃ outer inner : Grammar,
      let workspace : Workspace := { registry := some (registryOf inner) }
      NoneSeesEnds workspace.registry (stayingHost outer) ∧
      (workspace.tokenize (openEndedJob outer true)).1.events =
        #[.language "outer", .token 2 "text.outer" none, .token 3 "tag.outer" none,
          .language "inner", .token 4 "x.inner" none, .token 5 "source.inner" none] ∧
      Report.Alike (workspace.tokenize (openEndedJob outer true)).1
        (workspace.tokenize (openEndedJob outer false)).1 := by
  obtain ⟨outer, -, passes⟩ := Grammar.exists_of_compiles
    (Grammar.compileText "outer" "\x7b\"tokenizer\": \x7b\"main\": [
      [\"<\", \x7b\"token\": \"tag\", \"nextEmbedded\": \"inner\"\x7d],
      [\">\", \x7b\"token\": \"tag\", \"nextEmbedded\": \"@pop\"\x7d],
      [\"a\", \"text\"]]\x7d\x7d" false)
    (fun outer => (Grammar.compileText "inner"
      "\x7b\"tokenizer\": \x7b\"main\": [[\"b$\", \"y\"], [\"b\", \"x\"]]\x7d\x7d"
      false).result.toOption.any fun inner =>
        !outer.includeLineFeed && !inner.includeLineFeed &&
          (({ registry := some (registryOf inner) } : Workspace).tokenize
            (openEndedJob outer true)).1.events ==
              #[.language "outer", .token 2 "text.outer" none, .token 3 "tag.outer" none,
                .language "inner", .token 4 "x.inner" none, .token 5 "source.inner" none])
    (by decide +kernel)
  obtain ⟨inner, -, passes⟩ := Grammar.exists_of_compiles _ _ passes
  simp only [Bool.and_eq_true, Bool.not_eq_true', beq_iff_eq] at passes
  obtain ⟨⟨outerBlind, innerBlind⟩, events⟩ := passes
  have blind : NoneSeesEnds (some (registryOf inner)) (stayingHost outer) := by
    intro other takes
    refine takes.of_registered (fun other => other.grammar.includeLineFeed = false) outerBlind
      fun entry listed => ?_
    rw [List.mem_singleton.1 listed]
    exact innerBlind
  have uncalled : ∀ call ∈ ([] : List Call) ++ [],
      Known {stayingHost outer, { identity := 1, grammar := inner }} call.registry call.tokenizer :=
    List.forall_mem_nil _
  exact ⟨outer, inner, blind, events, Workspace.tokenize_line_feed (injOn_stayingHost outer inner)
    uncalled rfl rfl rfl (known_stayingHost outer inner) blind (LineState.beq_iff.2 rfl) _ _⟩

end LineLexer
