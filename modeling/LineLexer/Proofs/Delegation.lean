import LineLexer.Proofs.Incremental
import LineLexer.Proofs.Tiling
import Mathlib.Data.List.Forall2

/-!
**A host that stays in an embedded language does what that language does alone.**

While no line holds the end of the embedded language, the host hands each line on as a whole and
only carries the state of the language along. So it tells what the tokenizer of that language tells
when it is given the same lines itself, and it fails where that one fails.

* `Input`, `Workspace.reports`: lines that come in one after the other, and the reports on them;
* `Scanning.Extends`: a computation does as another one does unless that comes to a limit;
* `Job.extends_tokenizeWithin`: a line whose parts may nest deeper comes to the same;
* `Job.tokenizeWithin_of_stays`: a line without the end of the embedded language;
* `Input.agree_within`: such a line comes to the same for the host and for the embedded language;
* `Workspace.reports_mirror`: and so do all lines that come in.
-/

namespace LineLexer

open Scanning

/-! ### Limits -/

namespace Scanning

variable {Result Other : Type}

/-- A computation does as a `smaller` one does, unless that comes to a limit. -/
def Extends (larger smaller : Scanning Result) : Prop :=
  ∀ trace, (outcome smaller trace).1 = .error .exhausted ∨
    outcome larger trace = outcome smaller trace

theorem extends_refl (scanning : Scanning Result) : Extends scanning scanning :=
  fun _ => Or.inr rfl

/-- A computation extends another one if its parts do. -/
theorem extends_bind {larger smaller : Scanning Other} {next follow : Other → Scanning Result}
    (first : Extends larger smaller) (second : ∀ value, Extends (next value) (follow value)) :
    Extends (larger >>= next) (smaller >>= follow) := by
  intro trace
  rw [outcome_bind, outcome_bind]
  rcases first trace with limited | same
  · rcases ends : outcome smaller trace with ⟨result, middle⟩
    rw [ends] at limited
    cases limited
    exact Or.inl rfl
  · rw [same]
    rcases outcome smaller trace with ⟨_ | value, middle⟩
    · exact Or.inr rfl
    · exact second value middle

theorem extends_map {larger smaller : Scanning Other} (change : Other → Result)
    (first : Extends larger smaller) : Extends (change <$> larger) (change <$> smaller) := by
  rw [map_eq_pure_bind, map_eq_pure_bind]
  exact extends_bind first fun _ => extends_refl _

end Scanning

namespace Job

variable {registry : Option Registry} {steps : Nat} {larger smaller : Job → Scanning LineState}

theorem extends_unlessLong (extend : ∀ job, Extends (larger job) (smaller job)) (job : Job) :
    Extends (unlessLong larger job) (unlessLong smaller job) := by
  unfold unlessLong
  split
  · exact extends_refl _
  · exact extend job

theorem extends_delegate (extend : ∀ job, Extends (larger job) (smaller job)) (job : Job)
    (embedded : Embedded) :
    Extends (job.delegate registry larger embedded) (job.delegate registry smaller embedded) := by
  rw [delegate_eq, delegate_eq]
  split
  · exact extends_map some (extends_unlessLong extend _)
  · exact extends_refl _

theorem extends_openWith (extend : ∀ job, Extends (larger job) (smaller job)) (job : Job) :
    Extends (job.openWith registry larger) (job.openWith registry smaller) := by
  unfold openWith
  split
  · exact extends_refl _
  · refine extends_bind (extends_refl _) fun leaving => ?_
    cases leaving with
    | none => exact extends_bind (extends_delegate extend _ _) fun _ => extends_refl _
    | some offset =>
      dsimp only
      split
      · refine extends_bind (extends_refl _) fun line => ?_
        exact extends_bind (extends_delegate extend _ _) fun _ => extends_refl _
      · exact extends_refl _

theorem extends_advance (extend : ∀ job, Extends (larger job) (smaller job)) (job : Job) :
    Extends (job.advance registry steps larger) (job.advance registry steps smaller) := by
  rw [advance_eq, advance_eq]
  refine extends_bind (extends_openWith extend job) fun opened => ?_
  cases opened with
  | inl state => exact extends_refl _
  | inr part =>
    rw [Sum.elim_inr, Sum.elim_inr, scanHost_eq, scanHost_eq]
    refine extends_bind (extends_refl _) fun departure => ?_
    refine extends_bind (extends_refl _) fun handed => ?_
    obtain ⟨state, _ | rest⟩ := handed
    · exact extends_refl _
    · exact extend rest

/-- A line whose parts may nest deeper comes to what it comes to before, unless that is the limit.
-/
theorem extends_tokenizeWithin (depth : Nat) (job : Job) :
    Extends (tokenizeWithin registry steps (depth + 1) job)
      (tokenizeWithin registry steps depth job) := by
  induction depth generalizing job with
  | zero => exact fun _ => Or.inl rfl
  | succ depth step => exact extends_advance step job

/-! ### A line without the end of the embedded language -/

/-- Tokenizes a line unless it is too long, with a limit of steps for each text, its parts nesting
at most `depth` deep. -/
def within (limit : Text → Nat) (depth : Nat) (registry : Option Registry) (job : Job) :
    Scanning LineState :=
  job.unlessLong (tokenizeWithin registry (limit job.line) depth)

theorem tokenize_eq_within (job : Job) (registry : Option Registry) :
    job.tokenize registry = job.within stepLimit nestingLimit registry := rfl

theorem extends_within (limit : Text → Nat) (depth : Nat) (registry : Option Registry)
    (job : Job) : Extends (job.within limit (depth + 1) registry)
      (job.within limit depth registry) :=
  extends_unlessLong (extends_tokenizeWithin depth) job

/-- A line without the end of the embedded language goes to its tokenizer, and the state in which
that ends the line is put in the place of the one before. -/
theorem tokenizeWithin_of_stays {job : Job} {language : String} {inner : LineState}
    {guest : Tokenizer} (depth : Nat)
    (inside : job.state.embedded? = some ⟨language, some inner⟩)
    (resolves : (job.tokenizer.languages? registry).bind (·.tokenizer? language) = some guest)
    (stays : job.tokenizer.leavingOffset? job.state.stack.state job.line = .ok none) :
    tokenizeWithin registry steps (depth + 1) job =
      unlessLong (tokenizeWithin registry steps depth)
          { job with tokenizer := guest, state := inner } >>= fun left =>
        share job.tokenizer fun cache =>
          cache.lineState job.state.stack (some ⟨language, some left⟩) := by
  rw [tokenizeWithin]
  unfold advance delegate
  rw [inside]
  dsimp only
  rw [stays, resolves]
  show settle job.tokenizer (.ok none) >>= _ = _
  rw [settle, pure_bind]
  dsimp only
  rw [bind_map_left]

end Job

/-! ### Lines that come in -/

/-- A line that comes in, with the languages that are known by then. -/
structure Input where
  registry : Option Registry
  line : Text
  ended : Bool
  shift : Nat

namespace Input

/-- A line for a tokenizer, in the state in which the line before it ended. -/
def job (input : Input) (tokenizer : Tokenizer) (state : LineState) : Job where
  tokenizer
  line := input.line
  ended := input.ended
  state
  shift := input.shift

/-- A line that a host in a state of its own takes, knows the embedded language for, and finds no
end of that language in. -/
structure Stays (tokenizers : Set Tokenizer) (host guest : Tokenizer) (language state : String)
    (input : Input) : Prop where
  known : Known tokenizers input.registry host
  resolves : (host.languages? input.registry).bind (·.tokenizer? language) = some guest
  short : input.line.size ≤ host.limits.lineLength
  stays : host.leavingOffset? state input.line = .ok none

end Input

/-- The host is left with a stack and in a language whose state equals another one, or both have
failed in one way. -/
inductive CarriesResult (stack : Stack) (language : String) :
    Except Stop LineState → Except Stop LineState → Prop where
  | ok {state inner other : LineState} (keeps : state.stack = stack)
      (carries : state.embedded? = some ⟨language, some inner⟩) (same : (inner == other) = true) :
      CarriesResult stack language (.ok state) (.ok other)
  | error (stop : Stop) : CarriesResult stack language (.error stop) (.error stop)

/-- The report of a host on a line, and that of the embedded language: the same events and notes,
and the state of the one carries that of the other. -/
structure Report.Mirrors (stack : Stack) (language : String) (report other : Report) : Prop where
  events : report.events = other.events
  notes : report.notes = other.notes
  result : CarriesResult stack language report.result other.result

/-- The reports on lines that come in one after the other, each in the state that the line before it
has left, up to the first one that fails. -/
def Workspace.reports (tokenizeLine : Option Registry → Job → Scanning LineState)
    (tokenizer : Tokenizer) (workspace : Workspace) (state : LineState) :
    List Input → List Report
  | [] => []
  | input :: later =>
    let (report, behind) := { workspace with registry := input.registry }.perform
      (tokenizeLine input.registry (input.job tokenizer state))
    report :: match report.result with
      | .ok state => reports tokenizeLine tokenizer behind state later
      | .error _ => []

section

variable {tokenizers : Set Tokenizer} {host guest : Tokenizer} {language : String}
  {input : Input} {state start inner : LineState}

/-- The line state of an embedded language is a new object on the stack itself. -/
theorem StateCache.lineState_of_embedded (cache : StateCache) (stack : Stack)
    (embedded : Embedded) : (cache.lineState stack (some embedded)).1 =
      .make cache.nextIdentity stack (some embedded) :=
  congrArg Prod.fst (if_pos (Or.inl rfl))

/-- What is shared on one side only changes nothing but memories. -/
theorem agree_share_pure {Result Other : Type} {related : Result → Other → Prop}
    (injective : tokenizers.InjOn Tokenizer.identity) {tokenizer : Tokenizer}
    (known : tokenizer ∈ tokenizers) {operation : StateCache → Result × StateCache} {other : Other}
    (same : ∀ cache, related (operation cache).1 other) :
    Agree tokenizers True True related (share tokenizer operation) (pure other) := by
  intro trace behind alike
  rw [outcome_share, outcome_pure]
  exact .result (same _)
    ⟨alike.sound.store injective known fun source state regex found =>
        alike.sound tokenizer known source state regex found,
      alike.soundOther, alike.events, alike.notes⟩

/-- A line without the end of the embedded language comes to the same for the host, one level
deeper, and for the tokenizer of that language. -/
theorem Input.agree_within (injective : tokenizers.InjOn Tokenizer.identity)
    (limit : Text → Nat) (depth : Nat)
    (line : input.Stays tokenizers host guest language state.stack.state)
    (inside : state.embedded? = some ⟨language, some inner⟩)
    (same : inner.content = start.content) :
    Agree tokenizers True True
      (fun left right => left.stack = state.stack ∧ ∃ inner,
        left.embedded? = some ⟨language, some inner⟩ ∧ inner.content = right.content)
      ((input.job host state).within limit (depth + 1) input.registry)
      ((input.job guest start).within limit depth input.registry) := by
  have short : ¬ (input.job host state).tokenizer.limits.lineLength <
      (input.job host state).line.size := Nat.not_lt.2 line.short
  have alike : Job.Alike (input.job guest inner) (input.job guest start) :=
    ⟨rfl, rfl, rfl, rfl, same⟩
  unfold Job.within
  rw [Job.unlessLong, if_neg short,
    Job.tokenizeWithin_of_stays depth inside line.resolves line.stays,
    ← bind_pure (Job.unlessLong _ (input.job guest start))]
  refine agree_bind (Job.agree_unlessLong (Job.agree_tokenizeWithin injective depth) alike
    (line.known.guest line.resolves)) fun {left right} sameLeft => ?_
  refine agree_share_pure injective (line.known host .self) fun cache => ?_
  rw [show (input.job host state).state.stack = state.stack from rfl,
    StateCache.lineState_of_embedded]
  exact ⟨rfl, left, rfl, sameLeft⟩

end

namespace Workspace

variable {tokenizers : Set Tokenizer} {host guest : Tokenizer} {language : String}
  {limit : Text → Nat} {state start inner : LineState} {inputs : List Input}
  {workspace other : Workspace}

/-- Lines without the end of the embedded language, from sound memories. -/
theorem forall₂_reports (injective : tokenizers.InjOn Tokenizer.identity) (depth : Nat)
    {stack : Stack}
    (stays : ∀ input ∈ inputs, input.Stays tokenizers host guest language stack.state)
    (keeps : state.stack = stack) (inside : state.embedded? = some ⟨language, some inner⟩)
    (same : inner.content = start.content) (sound : workspace.memories.Sound tokenizers)
    (soundOther : other.memories.Sound tokenizers) :
    List.Forall₂ (Report.Mirrors stack language)
      (workspace.reports (fun registry job => job.within limit (depth + 1) registry) host state
        inputs)
      (other.reports (fun registry job => job.within limit depth registry) guest start inputs) := by
  induction inputs generalizing workspace other state start inner with
  | nil => exact .nil
  | cons input later step =>
    subst keeps
    have agree := Input.agree_within injective limit depth (stays input List.mem_cons_self) inside
      same { memories := workspace.memories } { memories := other.memories }
      ⟨sound, soundOther, fun _ => rfl, fun _ => rfl⟩
    unfold reports perform
    dsimp only
    generalize outcome ((input.job host state).within limit (depth + 1) input.registry)
      { memories := workspace.memories } = ending at agree ⊢
    generalize outcome ((input.job guest start).within limit depth input.registry)
      { memories := other.memories } = endingOther at agree ⊢
    cases agree with
    | result left alike =>
      obtain ⟨keeps, carried, carries, sameLeft⟩ := left
      refine .cons ⟨alike.events trivial, alike.notes trivial,
        .ok keeps carries (LineState.beq_iff.2 sameLeft)⟩ ?_
      exact step (fun line inside => stays line (List.mem_cons_of_mem _ inside)) keeps carries
        sameLeft alike.sound alike.soundOther
    | stop alike =>
      exact .cons ⟨alike.events trivial, alike.notes trivial, .error _⟩ .nil
    | stallsLeft lax => exact absurd trivial lax
    | stallsRight lax => exact absurd trivial lax

/-- Lines that come to no limit come to the same within larger limits. -/
theorem reports_of_extends {larger smaller : Option Registry → Job → Scanning LineState}
    (extend : ∀ registry job, Extends (larger registry job) (smaller registry job))
    {tokenizer : Tokenizer}
    (unlimited : ∀ report ∈ workspace.reports smaller tokenizer state inputs,
      report.result ≠ .error .exhausted) :
    workspace.reports larger tokenizer state inputs =
      workspace.reports smaller tokenizer state inputs := by
  induction inputs generalizing workspace state with
  | nil => rfl
  | cons input later step =>
    unfold reports perform at unlimited ⊢
    dsimp only at unlimited ⊢
    rcases extend input.registry (input.job tokenizer state) { memories := workspace.memories }
      with limited | same
    · exact absurd limited (unlimited _ List.mem_cons_self)
    · rw [same]
      refine congrArg _ ?_
      split
      · next made ends =>
        refine step fun report inside => unlimited report (List.mem_cons_of_mem _ ?_)
        rwa [ends]
      · rfl

end Workspace

/-- Where a report mirrors another one and has come to no limit, the other one has not either. -/
theorem Report.Mirrors.unlimited {stack : Stack} {language : String} {reports others : List Report}
    (mirror : List.Forall₂ (Report.Mirrors stack language) reports others)
    (unlimited : ∀ report ∈ reports, report.result ≠ .error .exhausted) :
    ∀ other ∈ others, other.result ≠ .error .exhausted := by
  induction mirror with
  | nil => exact List.forall_mem_nil _
  | @cons report other reports others first rest step =>
    rw [List.forall_mem_cons] at unlimited ⊢
    refine ⟨fun limited => ?_, step unlimited.2⟩
    have ends := first.result
    rw [limited] at ends
    generalize same : report.result = result at ends
    cases ends
    exact unlimited.1 same

/-- Delegation. While the host knows the embedded language and no line is too long for it or holds
the end of that language, it makes the same events and notes on all lines as the tokenizer of that
language alone, fails on the same line with the same stop, or keeps its stack and carries a state
that equals the one in which the other ends. The two have memories of their own, left by any calls.
The host takes one level of nesting for itself, so with the same room for both this holds unless the
host comes to the limit. -/
theorem Workspace.reports_mirror {tokenizers : Set Tokenizer}
    (injective : tokenizers.InjOn Tokenizer.identity) {calls others : List Call}
    (known : ∀ call ∈ calls ++ others, Known tokenizers call.registry call.tokenizer)
    {workspace other : Workspace} (remembers : workspace.memories = .after calls)
    (remembersOther : other.memories = .after others) {host guest : Tokenizer} {language : String}
    {state start inner : LineState} {inputs : List Input}
    (stays : ∀ input ∈ inputs, input.Stays tokenizers host guest language state.stack.state)
    (inside : state.embedded? = some ⟨language, some inner⟩) (same : (inner == start) = true) :
    (∀ limit depth, List.Forall₂ (Report.Mirrors state.stack language)
      (workspace.reports (fun registry job => job.within limit (depth + 1) registry) host state
        inputs)
      (other.reports (fun registry job => job.within limit depth registry) guest start inputs)) ∧
    ((∀ report ∈ workspace.reports (fun registry job => job.tokenize registry) host state inputs,
        report.result ≠ .error .exhausted) →
      List.Forall₂ (Report.Mirrors state.stack language)
        (workspace.reports (fun registry job => job.tokenize registry) host state inputs)
        (other.reports (fun registry job => job.tokenize registry) guest start inputs)) := by
  have sound : workspace.memories.Sound tokenizers := by
    rw [remembers]
    exact sound_after injective fun call inside => known call (List.mem_append_left _ inside)
  have soundOther : other.memories.Sound tokenizers := by
    rw [remembersOther]
    exact sound_after injective fun call inside => known call (List.mem_append_right _ inside)
  have mirror : ∀ limit depth, List.Forall₂ (Report.Mirrors state.stack language)
      (workspace.reports (fun registry job => job.within limit (depth + 1) registry) host state
        inputs)
      (other.reports (fun registry job => job.within limit depth registry) guest start inputs) :=
    fun limit depth => forall₂_reports injective depth stays rfl inside (LineState.beq_iff.1 same)
      sound soundOther
  refine ⟨mirror, fun unlimited => ?_⟩
  obtain ⟨depth, room⟩ : ∃ depth, Job.nestingLimit = depth + 1 := ⟨999999, rfl⟩
  simp only [Job.tokenize_eq_within, room] at unlimited ⊢
  -- With the same room the other tokenizer has one level more than the host leaves to it.
  have mirrored := mirror Job.stepLimit depth
  rw [reports_of_extends (fun registry job => Job.extends_within Job.stepLimit depth registry job)
    (Report.Mirrors.unlimited mirrored unlimited)]
  exact mirrored

/-- A language in which a host stays. -/
def stayingSource : String :=
  "\x7b\"tokenizer\": \x7b\"main\": [[\"b\", \x7b\"token\": \"x\", \"next\": \"@rest\"\x7d]],
    \"rest\": [[\"c\", \"@pop\"]]\x7d\x7d"

/-- Two lines of that language, the second behind a part of it. -/
def stayingInputs (inner : Grammar) : List Input :=
  [{ registry := some (registryOf inner), line := ['b'], ended := true, shift := 0 },
    { registry := some (registryOf inner), line := ['c', 'é', 'b'], ended := false, shift := 5 }]

/-- A host that knows it. -/
def stayingHost (outer : Grammar) : Tokenizer := { identity := 0, grammar := outer, linked := true }

/-- Whether the host finds no end of the language in the lines and takes them. -/
def staysIn (outer inner : Grammar) : Bool :=
  (stayingInputs inner).all fun input =>
    (match (stayingHost outer).leavingOffset? outer.start input.line with
      | .ok none => true
      | _ => false) &&
    decide (input.line.size ≤ (stayingHost outer).limits.lineLength)

/-- The host and the language are all that take part. -/
theorem known_stayingHost (outer inner : Grammar) :
    Known {stayingHost outer, { identity := 1, grammar := inner }} (some (registryOf inner))
      (stayingHost outer) := by
  intro other takes
  refine takes.of_registered
    (fun other => other ∈
      ({stayingHost outer, { identity := 1, grammar := inner }} : Set Tokenizer))
    (Set.mem_insert _ _) fun entry listed => ?_
  rw [List.mem_singleton.1 listed]
  exact Set.mem_insert_of_mem _ rfl

theorem injOn_stayingHost (outer inner : Grammar) :
    ({stayingHost outer, { identity := 1, grammar := inner }} : Set Tokenizer).InjOn
      Tokenizer.identity := by
  rw [Set.injOn_pair]
  intro same
  cases same

theorem Workspace.reports_mirror_two_lines :
    ∃ (tokenizers : Set Tokenizer) (host guest : Tokenizer) (inputs : List Input),
      inputs.map Input.line = [['b'], ['c', 'é', 'b']] ∧
      (∀ input ∈ inputs, input.Stays tokenizers host guest "inner" host.grammar.start) ∧
      ∀ limit depth, List.Forall₂ (Report.Mirrors (.root default host.grammar.start) "inner")
        (({} : Workspace).reports (fun registry job => job.within limit (depth + 1) registry) host
          (.embedding default (.root default host.grammar.start) "inner" (rootState ⟨0, 0⟩)) inputs)
        (({} : Workspace).reports (fun registry job => job.within limit depth registry) guest
          (rootState ⟨5, 1⟩) inputs) := by
  obtain ⟨outer, -, passes⟩ := Grammar.exists_of_compiles
    (Grammar.compileText "outer" "\x7b\"tokenizer\": \x7b\"main\": [
      [\">\", \x7b\"token\": \"tag\", \"nextEmbedded\": \"@pop\"\x7d]]\x7d\x7d" false)
    (fun outer => (Grammar.compileText "inner" stayingSource false).result.toOption.any fun inner =>
      decide (inner.language = "inner") && staysIn outer inner)
    (by decide +kernel)
  obtain ⟨inner, -, passes⟩ := Grammar.exists_of_compiles _ _ passes
  rw [Bool.and_eq_true, decide_eq_true_eq] at passes
  obtain ⟨named, staying⟩ := passes
  have resolves : (registryOf inner).tokenizer? "inner" =
      some { identity := 1, grammar := inner } := by
    show (Table.put _ inner.language _).get? _ = _
    rw [Table.get?_put]
    exact if_pos named.symm
  have stays : ∀ input ∈ stayingInputs inner,
      input.Stays {stayingHost outer, { identity := 1, grammar := inner }} (stayingHost outer)
        { identity := 1, grammar := inner } "inner" outer.start := by
    intro input listed
    have passes := List.all_eq_true.1 staying input listed
    rw [Bool.and_eq_true, decide_eq_true_eq] at passes
    obtain ⟨finds, short⟩ := passes
    have looked : input.registry = some (registryOf inner) := by
      rcases List.mem_pair.1 listed with rfl | rfl <;> rfl
    refine ⟨?_, ?_, short, ?_⟩
    · rw [looked]
      exact known_stayingHost outer inner
    · rw [looked]
      exact resolves
    · split at finds
      · next found => exact found
      · cases finds
  have injective := injOn_stayingHost outer inner
  have uncalled : ∀ call ∈ ([] : List Call) ++ [],
      Known {stayingHost outer, { identity := 1, grammar := inner }} call.registry call.tokenizer :=
    List.forall_mem_nil _
  let state : LineState :=
    .embedding default (.root default outer.start) "inner" (rootState ⟨0, 0⟩)
  have inside : state.embedded? = some ⟨"inner", some (rootState ⟨0, 0⟩)⟩ := rfl
  exact ⟨_, stayingHost outer, _, stayingInputs inner, rfl, stays,
    (Workspace.reports_mirror injective uncalled rfl rfl stays inside (by decide)).1⟩

end LineLexer
