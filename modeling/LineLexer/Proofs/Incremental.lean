import LineLexer.Document
import LineLexer.Proofs.Agreement
import LineLexer.Proofs.Work

/-!
**Lines may be tokenized again from where nothing has changed.**

What a line comes to depends on its text and on the content of the state in which it starts, and on
nothing that tokenizers have done before. So where a line that is tokenized again ends in a state
equal to the one it ended in before, all lines behind it are as they were.

* `agree_run`, `agree_openWith`, `agree_handOver`: a scan, and what comes before and behind it,
  agree with themselves from all sound memories;
* `agree_tokenizeWithin`: and so does a line;
* `Call`, `Memories.after`: earlier calls, and the memories that they leave;
* `sound_after`: memories are sound after all calls;
* `tokenize_after_calls`: a line comes to the same after different calls;
* `tokenizeLines_after_calls`: and so do all lines behind it.
-/

namespace LineLexer

open Scanning

/-! ### Line states of the same content -/

/-- The content of a line state is that of its stack and of its embedded language. -/
theorem LineState.content_eq_iff {state other : LineState} :
    state.content = other.content ↔ state.stack.names = other.stack.names ∧
      state.embedded?.map Embedded.content = other.embedded?.map Embedded.content := by
  have inner : ∀ state : LineState, state.content ≠ [] := content_ne_nil
  cases state <;> cases other <;>
    simp [content, LineState.stack, embedded?, Embedded.content, inner, and_assoc]

/-- Two departures leave stacks of the same names and embedded languages of the same content. -/
inductive Departure.Alike : Departure → Departure → Prop where
  | lineEnd {stack other : Stack} {embedded inner : Option Embedded}
      (same : stack.names = other.names)
      (sameEmbedded : embedded.map Embedded.content = inner.map Embedded.content) :
      Departure.Alike (.lineEnd stack embedded) (.lineEnd other inner)
  | enter {name : String} {position : Nat} {stack other : Stack}
      (same : stack.names = other.names) :
      Departure.Alike (.enter name position stack) (.enter name position other)

section

variable {tokenizers : Set Tokenizer}

theorem Departure.Alike.refl (departure : Departure) : departure.Alike departure := by
  cases departure with
  | lineEnd stack embedded => exact .lineEnd rfl rfl
  | enter name position stack => exact .enter rfl

/-- Runs of scans that are alike end alike. -/
theorem HostLine.agree_run {host : HostLine} (injective : tokenizers.InjOn Tokenizer.identity)
    (known : host.tokenizer ∈ tokenizers) (steps : Nat) {scan other : Scan}
    (alike : scan.Alike True True other) :
    Agree tokenizers True True Departure.Alike (host.run steps scan) (host.run steps other) := by
  induction steps generalizing scan other with
  | zero => exact agree_throw .exhausted
  | succ steps step =>
    have due : host.isDue scan = host.isDue other := by
      unfold isDue
      rw [alike.due trivial, alike.position]
    rw [run, run, due]
    split
    · refine agree_bind (agree_step injective known (alike.mono fun _ => trivial)) fun same => ?_
      cases same with
      | goOn alike => exact step alike
      | enter same => exact agree_pure (.enter same)
    · exact agree_pure (.lineEnd alike.stack alike.embedded)

/-- Line states that are made of stacks with the same names and of embedded languages with the same
content have the same content. -/
theorem agree_lineState (injective : tokenizers.InjOn Tokenizer.identity) {tokenizer : Tokenizer}
    (known : tokenizer ∈ tokenizers) {stack other : Stack} {embedded inner : Option Embedded}
    (same : stack.names = other.names)
    (sameEmbedded : embedded.map Embedded.content = inner.map Embedded.content) :
    Agree tokenizers True True (fun left right => left.content = right.content)
      (share tokenizer fun cache => cache.lineState stack embedded)
      (share tokenizer fun cache => cache.lineState other inner) := by
  refine agree_share injective known fun cache cacheOther => ?_
  have made := StateCache.content_lineState cache stack embedded
  have madeOther := StateCache.content_lineState cacheOther other inner
  rw [LineState.content_eq_iff, made.1, made.2, madeOther.1, madeOther.2]
  exact ⟨same, sameEmbedded⟩

/-- The first state of a language has the same content whatever has been tokenized before. -/
theorem agree_initialState (injective : tokenizers.InjOn Tokenizer.identity) {tokenizer : Tokenizer}
    (known : tokenizer ∈ tokenizers) :
    Agree tokenizers True True (fun left right => left.content = right.content)
      tokenizer.initialState tokenizer.initialState := by
  have root : Agree tokenizers True True (fun left right => left.names = right.names)
      (share tokenizer fun cache => cache.root tokenizer.grammar.start)
      (share tokenizer fun cache => cache.root tokenizer.grammar.start) := by
    refine agree_share injective known fun cache other => ?_
    rw [StateCache.names_root, StateCache.names_root]
  exact agree_bind root fun same => agree_lineState injective known same rfl

/-- All tokenizers that may take part are among given ones. -/
def Known (tokenizers : Set Tokenizer) (registry : Option Registry) (tokenizer : Tokenizer) :
    Prop :=
  ∀ other, TakesPart registry tokenizer other → other ∈ tokenizers

theorem Known.guest {registry : Option Registry} {tokenizer guest : Tokenizer} {language : String}
    (known : Known tokenizers registry tokenizer)
    (found : (tokenizer.languages? registry).bind (·.tokenizer? language) = some guest) :
    Known tokenizers registry guest := fun other takes => known other (.of_guest found takes)

/-- Without a registry no other tokenizer takes part. -/
theorem known_of_alone {tokenizer : Tokenizer} : Known {tokenizer} none tokenizer := by
  intro other takes
  rw [Set.mem_singleton_iff]
  exact takes.eq_of_alone

/-- A language starts with the same content whatever has been tokenized before. -/
theorem agree_embed (injective : tokenizers.InjOn Tokenizer.identity) {tokenizer : Tokenizer}
    {registry : Option Registry} (known : Known tokenizers registry tokenizer) (name : String) :
    Agree tokenizers True True (fun left right => left.content = right.content)
      (tokenizer.embed registry name) (tokenizer.embed registry name) := by
  unfold Tokenizer.embed
  dsimp only
  split
  · next guest found =>
    refine agree_bind (agree_initialState injective (known guest (.guest .self found)))
      fun {state other} same => agree_pure ?_
    show (_, some state.content) = (_, some other.content)
    rw [same]
  · exact agree_pure rfl

namespace Job

/-- Two lines are the same line, in states of the same content. -/
structure Alike (job other : Job) : Prop where
  tokenizer : job.tokenizer = other.tokenizer
  line : job.line = other.line
  ended : job.ended = other.ended
  shift : job.shift = other.shift
  state : job.state.content = other.state.content

theorem Alike.refl (job : Job) : job.Alike job := ⟨rfl, rfl, rfl, rfl, rfl⟩

/-- Work on lines agrees if the lines are alike. -/
def AgreesOn (tokenizers : Set Tokenizer) (registry : Option Registry)
    (tokenizeLine : Job → Scanning LineState) : Prop :=
  ∀ ⦃job other : Job⦄, job.Alike other → Known tokenizers registry job.tokenizer →
    Agree tokenizers True True (fun left right => left.content = right.content) (tokenizeLine job)
      (tokenizeLine other)

variable {registry : Option Registry} {steps : Nat} {tokenizeLine : Job → Scanning LineState}

theorem agree_skip (language : String) (shift : Nat) :
    Agree tokenizers True True Eq (skip language shift) (skip language shift) :=
  agree_bind_eq (agree_tell _) fun _ => agree_tell _

theorem agree_unlessLong (agrees : AgreesOn tokenizers registry tokenizeLine) :
    AgreesOn tokenizers registry (unlessLong tokenizeLine) := by
  intro job other alike known
  unfold unlessLong
  rw [← alike.tokenizer, ← alike.line, ← alike.shift]
  split
  · exact agree_bind_eq (agree_skip _ _) fun _ => agree_pure alike.state
  · exact agrees alike known

/-- An embedded language is left with the same content, if it is known. -/
theorem agree_delegate (agrees : AgreesOn tokenizers registry tokenizeLine) {job other : Job}
    (alike : job.Alike other) (known : Known tokenizers registry job.tokenizer)
    {embedded inner : Embedded} (same : embedded.content = inner.content) :
    Agree tokenizers True True
      (fun left right => left.map LineState.content = right.map LineState.content)
      (job.delegate registry tokenizeLine embedded)
      (other.delegate registry tokenizeLine inner) := by
  obtain ⟨language, state⟩ := embedded
  obtain ⟨languageOther, stateOther⟩ := inner
  obtain ⟨rfl, sameState⟩ := Prod.mk.inj same
  have skipped : Agree tokenizers True True
      (fun left right => left.map LineState.content = right.map LineState.content)
      (skip language job.shift >>= fun _ => pure state)
      (skip language other.shift >>= fun _ => pure stateOther) := by
    rw [alike.shift]
    exact agree_bind_eq (agree_skip _ _) fun _ => agree_pure sameState
  unfold delegate
  dsimp only
  rw [← alike.tokenizer]
  cases state with
  | none =>
    cases stateOther with
    | none => exact skipped
    | some stateOther => cases sameState
  | some state =>
    cases stateOther with
    | none => cases sameState
    | some stateOther =>
      cases found : (job.tokenizer.languages? registry).bind (·.tokenizer? language) with
      | none => exact skipped
      | some guest =>
        have guestAlike : Job.Alike { job with tokenizer := guest, state }
            { other with tokenizer := guest, state := stateOther } :=
          ⟨rfl, alike.line, alike.ended, alike.shift, Option.some.inj sameState⟩
        exact agree_map (agree_unlessLong agrees guestAlike (known.guest found))
          fun same => congrArg some same

/-- Two rests of a line, for its tokenizer, are alike. -/
structure RestAlike (job rest other : Job) : Prop where
  alike : rest.Alike other
  tokenizer : rest.tokenizer = job.tokenizer

/-- Lines that are alike are scanned alike. -/
theorem agree_scanOwn (injective : tokenizers.InjOn Tokenizer.identity) {job other : Job}
    (alike : job.Alike other) (known : Known tokenizers registry job.tokenizer) :
    Agree tokenizers True True Departure.Alike (job.scanOwn steps) (other.scanOwn steps) := by
  have host : job.host = other.host := by
    unfold host
    rw [alike.tokenizer, alike.line, alike.ended, alike.shift]
  obtain ⟨names, embedded⟩ := LineState.content_eq_iff.1 alike.state
  unfold scanOwn
  rw [← host, ← alike.tokenizer]
  refine agree_bind_eq (agree_tell _) fun _ => ?_
  exact HostLine.agree_run injective (known _ .self) steps
    ⟨rfl, names, embedded, rfl, fun _ => rfl, fun _ => rfl⟩

/-- Behind scans that are alike the states have the same content, and the rests of the lines are
alike. -/
theorem agree_handOver (injective : tokenizers.InjOn Tokenizer.identity) {job other : Job}
    (alike : job.Alike other) (known : Known tokenizers registry job.tokenizer)
    {departure departureOther : Departure} (departed : departure.Alike departureOther) :
    Agree tokenizers True True
      (fun left right => left.1.content = right.1.content ∧ Option.Rel job.RestAlike left.2 right.2)
      (job.handOver registry departure) (other.handOver registry departureOther) := by
  have member := known job.tokenizer .self
  unfold handOver
  rw [← alike.tokenizer, ← alike.line]
  cases departed with
  | lineEnd names embedded =>
    exact agree_bind (agree_lineState injective member names embedded)
      fun same => agree_pure ⟨same, .none⟩
  | enter names =>
    refine agree_bind (agree_embed injective known _) fun sameContent => ?_
    refine agree_bind (agree_lineState injective member names (congrArg some sameContent))
      fun sameState => ?_
    split
    · refine agree_bind_eq (agree_cut _) fun rest => agree_pure ⟨sameState, .some ⟨?_, rfl⟩⟩
      exact ⟨rfl, rfl, alike.ended, by rw [alike.shift], sameState⟩
    · exact agree_pure ⟨sameState, .none⟩

/-- A line with a scan in it ends with the same content. -/
theorem agree_scanHost (injective : tokenizers.InjOn Tokenizer.identity)
    (agrees : AgreesOn tokenizers registry tokenizeLine) :
    AgreesOn tokenizers registry (scanHost registry steps tokenizeLine) := by
  intro job other alike known
  rw [scanHost_eq, scanHost_eq]
  refine agree_bind (agree_scanOwn injective alike known) fun departed => ?_
  refine agree_bind (agree_handOver injective alike known departed) fun {left right} same => ?_
  obtain ⟨state, rest⟩ := left
  obtain ⟨stateOther, restOther⟩ := right
  cases same.2 with
  | none => exact agree_pure same.1
  | some rests => exact agrees rests.alike (by rwa [rests.tokenizer])

/-- What comes before the scan of lines that are alike leaves states of the same content, or rests
that are alike. -/
theorem agree_openWith (injective : tokenizers.InjOn Tokenizer.identity)
    (agrees : AgreesOn tokenizers registry tokenizeLine) {job other : Job} (alike : job.Alike other)
    (known : Known tokenizers registry job.tokenizer) :
    Agree tokenizers True True
      (Sum.LiftRel (fun left right : LineState => left.content = right.content) job.RestAlike)
      (job.openWith registry tokenizeLine) (other.openWith registry tokenizeLine) := by
  obtain ⟨names, embedded⟩ := LineState.content_eq_iff.1 alike.state
  unfold openWith
  cases inside : job.state.embedded? with
  | none =>
    rw [inside] at embedded
    cases insideOther : other.state.embedded? with
    | none => exact agree_pure (.inr ⟨alike, rfl⟩)
    | some inner =>
      rw [insideOther] at embedded
      cases embedded
  | some guest =>
    rw [inside] at embedded
    cases insideOther : other.state.embedded? with
    | none =>
      rw [insideOther] at embedded
      cases embedded
    | some inner =>
      rw [insideOther] at embedded
      have sameGuest : guest.content = inner.content := Option.some.inj embedded
      dsimp only
      rw [← alike.tokenizer, ← alike.line, Stack.state_eq_of_names names]
      refine agree_bind_eq (agree_settle_self _ _) fun leaving => ?_
      cases leaving with
      | none =>
        refine agree_bind (agree_delegate agrees alike known sameGuest)
          fun {left right} sameLeft => ?_
        refine agree_map (agree_lineState injective (known _ .self) names ?_)
          fun sameState => .inl sameState
        show some (guest.language, left.map LineState.content) =
          some (inner.language, right.map LineState.content)
        rw [sameLeft, (Prod.mk.inj sameGuest).1]
      | some offset =>
        have rests : ∀ rest : Text,
            job.RestAlike (job.hostPart rest offset) (other.hostPart rest offset) := by
          intro rest
          refine ⟨⟨alike.tokenizer, rfl, alike.ended, ?_, alike.state⟩, rfl⟩
          show job.shift + offset = other.shift + offset
          rw [alike.shift]
        have cuts : Agree tokenizers True True
            (Sum.LiftRel (fun left right : LineState => left.content = right.content) job.RestAlike)
            (do
              let rest ← cut (job.line.drop? offset)
              pure (.inr (job.hostPart rest offset)))
            (do
              let rest ← cut (job.line.drop? offset)
              pure (.inr (other.hostPart rest offset))) :=
          agree_bind_eq (agree_cut _) fun rest => agree_pure (.inr (rests rest))
        dsimp only
        split
        · refine agree_bind_eq (agree_cut _) fun line => ?_
          have parts : (job.guestPart line).Alike (other.guestPart line) :=
            ⟨alike.tokenizer, rfl, rfl, alike.shift, alike.state⟩
          exact agree_bind (agree_delegate agrees parts known sameGuest) fun _ => cuts
        · exact cuts

/-- A line ends with the same content if the lines that are its parts do. -/
theorem agree_advance (injective : tokenizers.InjOn Tokenizer.identity)
    (agrees : AgreesOn tokenizers registry tokenizeLine) :
    AgreesOn tokenizers registry (advance registry steps tokenizeLine) := by
  intro job other alike known
  rw [advance_eq, advance_eq]
  refine agree_bind (agree_openWith injective agrees alike known) fun {left right} same => ?_
  cases same with
  | inl states => exact agree_pure states
  | inr rests =>
    exact agree_scanHost injective agrees rests.alike (by rwa [rests.tokenizer])

theorem agree_tokenizeWithin (injective : tokenizers.InjOn Tokenizer.identity) (depth : Nat) :
    AgreesOn tokenizers registry (tokenizeWithin registry steps depth) := by
  induction depth with
  | zero => exact fun _ _ _ _ => agree_throw .exhausted
  | succ depth step => exact agree_advance injective step

/-- What a line comes to depends on no memory. -/
theorem agree_tokenize (injective : tokenizers.InjOn Tokenizer.identity) :
    AgreesOn tokenizers registry fun job => job.tokenize registry := by
  intro job other alike known
  show Agree _ _ _ _ (unlessLong (tokenizeWithin registry (stepLimit job.line) nestingLimit) job)
    (unlessLong (tokenizeWithin registry (stepLimit other.line) nestingLimit) other)
  rw [← alike.line]
  exact agree_unlessLong (agree_tokenizeWithin injective nestingLimit) alike known

end Job

/-! ### Calls -/

/-- Two results are the same stop or equal line states. -/
inductive SameResult : Except Stop LineState → Except Stop LineState → Prop where
  | ok {state other : LineState} (same : (state == other) = true) :
      SameResult (.ok state) (.ok other)
  | error (stop : Stop) : SameResult (.error stop) (.error stop)

/-- What strict agreement says of the ends of two computations. -/
theorem Scanning.SameEnd.sameResult {left right : Except Stop LineState × Trace}
    (ends : SameEnd tokenizers True True (fun state other => state.content = other.content)
      left right) :
    SameResult left.1 right.1 ∧ Scanning.Alike tokenizers True left.2 right.2 := by
  cases ends with
  | result same alike => exact ⟨.ok (LineState.beq_iff.2 same), alike⟩
  | stop alike => exact ⟨.error _, alike⟩
  | stallsLeft lax => exact absurd trivial lax
  | stallsRight lax => exact absurd trivial lax

/-- A call of a tokenizer: for its first state, or for a line with the languages that are known
then. -/
inductive Call where
  | initialState (tokenizer : Tokenizer)
  | tokenize (job : Job) (registry : Option Registry)

namespace Call

/-- The work that a call asks for. -/
def work : Call → Scanning LineState
  | initialState tokenizer => tokenizer.initialState
  | tokenize job registry => job.tokenize registry

/-- Who is called. -/
def tokenizer : Call → Tokenizer
  | initialState tokenizer => tokenizer
  | tokenize job _ => job.tokenizer

/-- The languages that are known to the one who is called. -/
def registry : Call → Option Registry
  | initialState _ => none
  | tokenize _ registry => registry

/-- A call agrees with itself from all sound memories. -/
theorem agree_work (injective : tokenizers.InjOn Tokenizer.identity) {call : Call}
    (known : Known tokenizers call.registry call.tokenizer) :
    Agree tokenizers True True (fun left right => left.content = right.content) call.work
      call.work := by
  cases call with
  | initialState tokenizer => exact agree_initialState injective (known tokenizer .self)
  | tokenize job registry =>
    exact Job.agree_tokenize injective (.refl job) known

end Call

/-- The memories that are left by calls, one after the other, whatever they came to. -/
def Memories.after (calls : List Call) : Memories :=
  calls.foldl (fun memories call => (outcome call.work { memories }).2.memories) {}

/-- Memories are sound after all calls. -/
theorem sound_after (injective : tokenizers.InjOn Tokenizer.identity) {calls : List Call}
    (known : ∀ call ∈ calls, Known tokenizers call.registry call.tokenizer) :
    (Memories.after calls).Sound tokenizers := by
  have onwards : ∀ memories : Memories, memories.Sound tokenizers →
      (calls.foldl (fun memories call => (outcome call.work { memories }).2.memories)
        memories).Sound tokenizers := by
    induction calls with
    | nil => exact fun memories sound => sound
    | cons call calls step =>
      intro memories sound
      have alike : Scanning.Alike tokenizers True { memories } { memories } :=
        ⟨sound, sound, fun _ => rfl, fun _ => rfl⟩
      have ends := call.agree_work injective (known call List.mem_cons_self) _ _ alike
      exact step (fun other inside => known other (List.mem_cons_of_mem _ inside)) _
        ends.sameResult.2.sound
  exact onwards {} (Memories.sound_empty tokenizers)

/-! ### Lines after calls -/

/-- Two reports tell the same events and notes, and come to the same stop or to equal states. -/
structure Report.Alike (report other : Report) : Prop where
  events : report.events = other.events
  notes : report.notes = other.notes
  result : SameResult report.result other.result

namespace Workspace

variable {workspace other : Workspace} {tokenizer : Tokenizer} {state stateOther : LineState}

/-- Two workspaces know the same languages, and their memories are sound. -/
structure Alike (tokenizers : Set Tokenizer) (workspace other : Workspace) : Prop where
  registry : workspace.registry = other.registry
  sound : workspace.memories.Sound tokenizers
  soundOther : other.memories.Sound tokenizers

/-- In workspaces that are alike equal states lead a line to the same report, and the workspaces
stay alike. -/
theorem tokenize_of_alike (injective : tokenizers.InjOn Tokenizer.identity)
    (alike : workspace.Alike tokenizers other)
    (known : Known tokenizers workspace.registry tokenizer) (line : Text) (ended : Bool)
    (shift : Nat) (same : (state == stateOther) = true) :
    Report.Alike (workspace.tokenize { tokenizer, line, ended, state, shift }).1
        (other.tokenize { tokenizer, line, ended, state := stateOther, shift }).1 ∧
      Alike tokenizers (workspace.tokenize { tokenizer, line, ended, state, shift }).2
        (other.tokenize { tokenizer, line, ended, state := stateOther, shift }).2 := by
  have jobs : Job.Alike { tokenizer, line, ended, state, shift }
      { tokenizer, line, ended, state := stateOther, shift } :=
    ⟨rfl, rfl, rfl, rfl, LineState.beq_iff.1 same⟩
  have traces : Scanning.Alike tokenizers True { memories := workspace.memories }
      { memories := other.memories } :=
    ⟨alike.sound, alike.soundOther, fun _ => rfl, fun _ => rfl⟩
  obtain ⟨results, left⟩ := (Job.agree_tokenize injective jobs known _ _ traces).sameResult
  unfold tokenize
  rw [← alike.registry]
  exact ⟨⟨left.events trivial, left.notes trivial, results⟩, alike.registry, left.sound,
    left.soundOther⟩

/-- In workspaces that are alike equal states lead all lines behind to the same tokens. -/
theorem tokenizeLines_of_alike (injective : tokenizers.InjOn Tokenizer.identity)
    (alike : workspace.Alike tokenizers other)
    (known : Known tokenizers workspace.registry tokenizer)
    (same : (state == stateOther) = true) (number : Nat) (lines : List Text) :
    Document.tokenizeLines tokenizer workspace state number lines =
      Document.tokenizeLines tokenizer other stateOther number lines := by
  induction lines generalizing workspace other state stateOther number with
  | nil => rfl
  | cons line later step =>
    obtain ⟨reports, workspaces⟩ :=
      tokenize_of_alike injective alike known line.withoutEnd line.endsLine 0 same
    unfold Document.tokenizeLines
    dsimp only
    have knownBehind : Known tokenizers (workspace.tokenize
        { tokenizer, line := line.withoutEnd, ended := line.endsLine, state }).2.registry
        tokenizer := known
    generalize workspace.tokenize
      { tokenizer, line := line.withoutEnd, ended := line.endsLine, state } = done
      at reports workspaces knownBehind ⊢
    generalize other.tokenize
      { tokenizer, line := line.withoutEnd, ended := line.endsLine, state := stateOther } = doneOther
      at reports workspaces ⊢
    obtain ⟨⟨result, events, notes⟩, behind⟩ := done
    obtain ⟨⟨resultOther, eventsOther, notesOther⟩, behindOther⟩ := doneOther
    obtain ⟨sameEvents, -, results⟩ := reports
    dsimp only at sameEvents results workspaces knownBehind ⊢
    cases results with
    | error stop => rfl
    | ok sameState =>
      dsimp only
      rw [sameEvents, step workspaces knownBehind sameState]

/-- Workspaces that know the same languages are alike after any calls. -/
theorem alike_of_calls {tokenizers : Set Tokenizer}
    (injective : tokenizers.InjOn Tokenizer.identity) {calls others : List Call}
    (known : ∀ call ∈ calls ++ others, Known tokenizers call.registry call.tokenizer)
    {workspace other : Workspace} (remembers : workspace.memories = .after calls)
    (remembersOther : other.memories = .after others)
    (registry : workspace.registry = other.registry) : workspace.Alike tokenizers other := by
  refine ⟨registry, ?_, ?_⟩
  · rw [remembers]
    exact sound_after injective fun call inside => known call (List.mem_append_left _ inside)
  · rw [remembersOther]
    exact sound_after injective fun call inside => known call (List.mem_append_right _ inside)

end Workspace

/-- Incremental soundness. Whatever calls have come before, failed ones included, a line that starts
in equal states makes the same events and notes and fails with the same stop or ends in equal
states, and so do all lines behind it. Of the tokenizers that take part in any of this, no two have
one identity. -/
theorem Workspace.tokenize_after_calls (injective : tokenizers.InjOn Tokenizer.identity)
    {calls others : List Call}
    (known : ∀ call ∈ calls ++ others, Known tokenizers call.registry call.tokenizer)
    {workspace other : Workspace} (remembers : workspace.memories = .after calls)
    (remembersOther : other.memories = .after others)
    (registry : workspace.registry = other.registry) {tokenizer : Tokenizer}
    (takesPart : Known tokenizers workspace.registry tokenizer) {state stateOther : LineState}
    (same : (state == stateOther) = true) :
    (∀ line ended shift,
      Report.Alike (workspace.tokenize { tokenizer, line, ended, state, shift }).1
        (other.tokenize { tokenizer, line, ended, state := stateOther, shift }).1) ∧
      ∀ number lines, Document.tokenizeLines tokenizer workspace state number lines =
        Document.tokenizeLines tokenizer other stateOther number lines := by
  have alike : workspace.Alike tokenizers other := by
    refine ⟨registry, ?_, ?_⟩
    · rw [remembers]
      exact sound_after injective fun call inside => known call (List.mem_append_left _ inside)
    · rw [remembersOther]
      exact sound_after injective fun call inside => known call (List.mem_append_right _ inside)
  exact ⟨fun line ended shift =>
      (tokenize_of_alike injective alike takesPart line ended shift same).1,
    tokenizeLines_of_alike injective alike takesPart same⟩

/-- The tokenizers that a workspace makes are told apart by their identities. -/
theorem Workspace.injOn_add (injective : tokenizers.InjOn Tokenizer.identity)
    {workspace : Workspace} (made : ∀ tokenizer ∈ tokenizers, tokenizer.identity < workspace.made)
    (grammar : Grammar) (limits : Limits) :
    (insert (workspace.add grammar limits).1 tokenizers).InjOn Tokenizer.identity ∧
      ∀ tokenizer ∈ insert (workspace.add grammar limits).1 tokenizers,
        tokenizer.identity < (workspace.add grammar limits).2.made := by
  constructor
  · have fresh : (workspace.add grammar limits).1 ∉ tokenizers := fun inside =>
      Nat.lt_irrefl _ (made _ inside)
    rw [Set.injOn_insert fresh]
    refine ⟨injective, ?_⟩
    rintro ⟨tokenizer, inside, same⟩
    exact Nat.ne_of_lt (made tokenizer inside) same
  · intro tokenizer inside
    rcases Set.mem_insert_iff.1 inside with rfl | before
    · exact Nat.lt_succ_self _
    · exact Nat.lt_succ_of_lt (made tokenizer before)

end

/-- The root state of a grammar as an object that some cache made. -/
def rootState (identity : Identity) : LineState := .host identity (.root identity "main")

/-- A line of a grammar without a registry. -/
def soleJob (grammar : Grammar) (line : Text) : Job where
  tokenizer := { identity := 0, grammar }
  line
  ended := true
  state := rootState ⟨0, 0⟩

theorem Workspace.tokenize_after_failed_call :
    ∃ grammar : Grammar,
      (Grammar.compileText "toy"
        "\x7b\"tokenizer\": \x7b\"main\": [[\"$S0\", \"name\"], [\"x\", \"@pop\"]]\x7d\x7d"
        false).result = .ok grammar ∧
      let tokenizer : Tokenizer := { identity := 0, grammar }
      let failed : Job := { tokenizer, line := ['m', 'a', 'i', 'n', 'x'], ended := false,
                            state := rootState ⟨0, 0⟩ }
      let workspace : Workspace :=
        { registry := none, memories := .after [.initialState tokenizer, .tokenize failed none] }
      (rootState ⟨0, 0⟩ == rootState ⟨5, 1⟩) = true ∧
      Report.Alike
        (workspace.tokenize { failed with line := ['m', 'a', 'i', 'n'], shift := 3 }).1
        (({ registry := none } : Workspace).tokenize
          { failed with line := ['m', 'a', 'i', 'n'], shift := 3, state := rootState ⟨5, 1⟩ }).1 := by
  obtain ⟨grammar, made, -⟩ := Grammar.exists_of_compiles
    (Grammar.compileText "toy"
      "\x7b\"tokenizer\": \x7b\"main\": [[\"$S0\", \"name\"], [\"x\", \"@pop\"]]\x7d\x7d" false)
    (fun _ => true) (by decide +kernel)
  refine ⟨grammar, made, ?_⟩
  intro tokenizer failed workspace
  have alone : Known {tokenizer} none tokenizer := known_of_alone
  have known : ∀ call ∈ [Call.initialState tokenizer, .tokenize failed none] ++ [],
      Known {tokenizer} call.registry call.tokenizer := by
    intro call inside
    rw [List.append_nil, List.mem_cons, List.mem_singleton] at inside
    rcases inside with rfl | rfl
    · exact alone
    · exact alone
  have same : (rootState ⟨0, 0⟩ == rootState ⟨5, 1⟩) = true := by decide
  have remembers : workspace.memories =
      .after [.initialState tokenizer, .tokenize failed none] := rfl
  have remembersOther : ({ registry := none } : Workspace).memories = .after [] := rfl
  have registry : workspace.registry = ({ registry := none } : Workspace).registry := rfl
  have takesPart : Known {tokenizer} workspace.registry tokenizer := alone
  exact ⟨same, (Workspace.tokenize_after_calls (Set.injOn_singleton _ _) known remembers
    remembersOther registry takesPart same).1 ['m', 'a', 'i', 'n'] false 3⟩

end LineLexer
