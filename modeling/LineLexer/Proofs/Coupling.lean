import LineLexer.Proofs.Agreement
import LineLexer.Proofs.Work
import Mathlib.Data.List.Forall2

/-!
**Two scans side by side.**

Two lines that differ in what does not matter are scanned in the same way, step by step: the same
is told, the same is remembered, and the scans stand at places that correspond. What may differ is
said by a coupling: characters that count as the same, stops that count as the same, a part of the
line that only the first scan has behind it, and empty groups that only the first scan has seen.

* `Coupling`: what may differ, and what has been left behind before;
* `Coupling.Beside`, `Coupling.Ends`: the same has been told since then, and two computations end in
  that way;
* `Coupling.Tokenizers`, `Coupling.Hosts`, `Coupling.Scans`: what corresponds;
* `Coupling.Fair`: what two steps have to have in common that is not said by that;
* `Coupling.ends_step`: a fair step leads scans that correspond to scans that correspond;
* `Coupling.ends_run`: so a run of fair steps does, or it comes to a step that is not fair.
-/

namespace LineLexer

open Scanning

/-- A step of a scan takes a match. -/
def HostLine.TakesMatch (host : HostLine) (scan : Scan) (trace : Trace) (after : Scan)
    (found : Found) : Prop :=
  ∃ later, outcome (host.take scan) trace = (.ok (some (after, found)), later)

/-- What may differ between two scans. -/
structure Coupling where
  /-- What is left behind before the first scan. -/
  base : Trace
  /-- What is left behind before the second scan. -/
  otherBase : Trace
  /-- Which characters count as the same. -/
  same : Char → Char → Prop
  same_refl : ∀ letter, same letter letter
  size_eq : ∀ {letter other}, same letter other → letter.utf8Size = other.utf8Size
  /-- Which stops count as the same. -/
  stops : Stop → Stop → Prop
  stops_refl : ∀ stop, stops stop stop
  stops_missing : ∀ (language : String) {text other : Text}, List.Forall₂ same text other →
    stops (.fault ⟨language, .missingBracket (String.ofList text)⟩)
      (.fault ⟨language, .missingBracket (String.ofList other)⟩)
  /-- Which tokenizers take the place of one another. -/
  kin : Tokenizer → Tokenizer → Prop
  /-- The number of bytes that only the first scan has behind it. -/
  past : Nat := 0
  /-- The empty groups that only the first scan has seen. -/
  stale : Option (Nat × Stack) := none

namespace Coupling

/-- The coupling in which all that is seen is the same. -/
def exact (base otherBase : Trace) (kin : Tokenizer → Tokenizer → Prop) (past : Nat)
    (stale : Option (Nat × Stack)) : Coupling where
  base := base
  otherBase := otherBase
  kin := kin
  same := Eq
  same_refl := Eq.refl
  size_eq := congrArg Char.utf8Size
  stops := Eq
  stops_refl := Eq.refl
  stops_missing := fun language {text other} same => by
    rw [List.forall₂_eq_eq_eq] at same
    rw [same]
  past := past
  stale := stale

variable (pair : Coupling)

/-! ### Computations that end in the same way -/

/-- The same is remembered, and the same has been told since the start. -/
structure Beside (trace other : Trace) : Prop where
  memories : trace.memories = other.memories
  events : ∃ told, pair.base.Adds told trace ∧ pair.otherBase.Adds told other
  notes : ∃ noted, trace.notes.toList = pair.base.notes.toList ++ noted ∧
    other.notes.toList = pair.otherBase.notes.toList ++ noted

/-- Two computations end with related results or with stops that count as the same, and they have
told the same. -/
inductive Ends {Result Other : Type} (related : Result → Other → Prop) :
    Except Stop Result × Trace → Except Stop Other × Trace → Prop where
  | result {left : Result} {right : Other} {trace other : Trace} (holds : related left right)
      (beside : pair.Beside trace other) : Ends related (.ok left, trace) (.ok right, other)
  | stop {stop halt : Stop} {trace other : Trace} (holds : pair.stops stop halt)
      (beside : pair.Beside trace other) : Ends related (.error stop, trace) (.error halt, other)

variable {pair} {Result Other More Rest : Type} {related : Result → Other → Prop}
  {relatedMore : More → Rest → Prop} {trace other : Trace}

theorem ends_pure {left : Result} {right : Other} (holds : related left right)
    (beside : pair.Beside trace other) :
    pair.Ends related (outcome (pure left) trace) (outcome (pure right) other) :=
  .result holds beside

theorem ends_throw (stop : Stop) (beside : pair.Beside trace other) :
    pair.Ends related (outcome (throw stop) trace) (outcome (throw stop) other) :=
  .stop (pair.stops_refl stop) beside

/-- Computations end in the same way if their parts do. -/
theorem ends_bind {first : Scanning Result} {second : Scanning Other}
    {next : Result → Scanning More} {follow : Other → Scanning Rest}
    (ends : pair.Ends related (outcome first trace) (outcome second other))
    (onwards : ∀ {value valueOther middle middleOther}, outcome first trace = (.ok value, middle) →
      outcome second other = (.ok valueOther, middleOther) → related value valueOther →
      pair.Beside middle middleOther →
      pair.Ends relatedMore (outcome (next value) middle)
        (outcome (follow valueOther) middleOther)) :
    pair.Ends relatedMore (outcome (first >>= next) trace) (outcome (second >>= follow) other) := by
  rw [outcome_bind, outcome_bind]
  rcases begins : outcome first trace with ⟨ending, middle⟩
  rcases beginsOther : outcome second other with ⟨endingOther, middleOther⟩
  rw [begins, beginsOther] at ends
  cases ends with
  | result holds beside => exact onwards begins beginsOther holds beside
  | stop holds beside => exact .stop holds beside

theorem ends_map {first : Scanning Result} {second : Scanning Other} {change : Result → More}
    {changeOther : Other → Rest}
    (ends : pair.Ends related (outcome first trace) (outcome second other))
    (onwards : ∀ {value valueOther}, related value valueOther →
      relatedMore (change value) (changeOther valueOther)) :
    pair.Ends relatedMore (outcome (change <$> first) trace)
      (outcome (changeOther <$> second) other) := by
  rw [map_eq_pure_bind, map_eq_pure_bind]
  exact ends_bind ends fun _ _ holds beside => ends_pure (onwards holds) beside

/-- Computations end in the same way where more results are related. -/
theorem Ends.mono {weaker : Result → Other → Prop} {left : Except Stop Result × Trace}
    {right : Except Stop Other × Trace} (ends : pair.Ends related left right)
    (implies : ∀ {value valueOther}, related value valueOther → weaker value valueOther) :
    pair.Ends weaker left right := by
  cases ends with
  | result holds beside => exact .result (implies holds) beside
  | stop holds beside => exact .stop holds beside

theorem ends_settle (tokenizer : Tokenizer) (result : Except Fault Result)
    (beside : pair.Beside trace other) :
    pair.Ends Eq (outcome (settle tokenizer result) trace)
      (outcome (settle tokenizer result) other) := by
  cases result with
  | ok result => exact ends_pure rfl beside
  | error fault => exact ends_throw _ beside

theorem ends_cut {part : Option Result} {partOther : Option Other}
    (same : Option.Rel related part partOther) (beside : pair.Beside trace other) :
    pair.Ends related (outcome (cut part) trace) (outcome (cut partOther) other) := by
  cases same with
  | none => exact ends_throw .cut beside
  | some holds => exact ends_pure holds beside

theorem Beside.tell (beside : pair.Beside trace other) (event : Event) :
    pair.Beside { trace with events := trace.events.push event }
      { other with events := other.events.push event } := by
  obtain ⟨told, adds, addsOther⟩ := beside.events
  exact ⟨beside.memories, ⟨told ++ [event], adds.trans (.tell trace event),
    addsOther.trans (.tell other event)⟩, beside.notes⟩

/-- At the start nothing has been told. -/
theorem Beside.refl (memories : pair.base.memories = pair.otherBase.memories) :
    pair.Beside pair.base pair.otherBase :=
  ⟨memories, ⟨[], .refl _, .refl _⟩, ⟨[], (List.append_nil _).symm, (List.append_nil _).symm⟩⟩

/-- From one start the same is left behind. -/
theorem Beside.eq_of_bases (bases : pair.base = pair.otherBase)
    (beside : pair.Beside trace other) : trace = other := by
  obtain ⟨memories, events, notes⟩ := trace
  obtain ⟨memoriesOther, eventsOther, notesOther⟩ := other
  obtain ⟨same, ⟨told, adds, addsOther⟩, ⟨noted, made, madeOther⟩⟩ := beside
  rw [← bases] at addsOther madeOther
  have events : events.toList = eventsOther.toList := Eq.trans adds (Eq.symm addsOther)
  have notes : notes.toList = notesOther.toList := made.trans madeOther.symm
  cases same
  cases Array.toList_inj.1 events
  cases Array.toList_inj.1 notes
  rfl

theorem ends_tell (event : Event) (beside : pair.Beside trace other) :
    pair.Ends Eq (outcome (tell event) trace) (outcome (tell event) other) :=
  .result rfl (beside.tell event)

theorem ends_note (entry : Note) (beside : pair.Beside trace other) :
    pair.Ends Eq (outcome (note entry) trace) (outcome (note entry) other) := by
  obtain ⟨noted, adds, addsOther⟩ := beside.notes
  refine .result rfl ⟨beside.memories, beside.events, noted ++ [entry], ?_, ?_⟩
  · show (trace.notes.push entry).toList = _
    rw [Array.toList_push, adds, List.append_assoc]
  · show (other.notes.push entry).toList = _
    rw [Array.toList_push, addsOther, List.append_assoc]

/-- One tokenizer remembers the same on both sides. -/
theorem ends_remember (tokenizer : Tokenizer) (operation : Memory → Result × Memory)
    (beside : pair.Beside trace other) :
    pair.Ends Eq (outcome (remember tokenizer operation) trace)
      (outcome (remember tokenizer operation) other) := by
  rw [outcome_remember, outcome_remember, beside.memories]
  exact .result rfl ⟨rfl, beside.events, beside.notes⟩

theorem ends_share (tokenizer : Tokenizer) (operation : StateCache → Result × StateCache)
    (beside : pair.Beside trace other) :
    pair.Ends Eq (outcome (share tokenizer operation) trace)
      (outcome (share tokenizer operation) other) :=
  ends_remember tokenizer _ beside

/-! ### Texts that count as the same -/

variable (pair) in
/-- Two texts are the same character by character. -/
def Texts : Text → Text → Prop := List.Forall₂ pair.same

theorem texts_refl (text : Text) : pair.Texts text text :=
  List.forall₂_same.2 fun letter _ => pair.same_refl letter

namespace Texts

variable {text twin : Text} {position : Nat}

theorem size_eq (texts : pair.Texts text twin) : text.size = twin.size := by
  unfold Texts at texts
  induction texts with
  | nil => rfl
  | cons same _ step => rw [Text.size_cons, Text.size_cons, pair.size_eq same, step]

theorem eq_nil_iff (texts : pair.Texts text twin) : text = [] ↔ twin = [] := by
  rw [← Text.size_eq_zero_iff, texts.size_eq, Text.size_eq_zero_iff]

theorem beq_nil (texts : pair.Texts text twin) : (text == []) = (twin == []) := by
  rw [Bool.eq_iff_iff, beq_iff_eq, beq_iff_eq]
  exact texts.eq_nil_iff

theorem drop? (texts : pair.Texts text twin) (position : Nat) :
    Option.Rel pair.Texts (text.drop? position) (twin.drop? position) := by
  unfold Texts at texts
  induction texts generalizing position with
  | nil =>
    unfold Text.drop?
    split
    · exact .some .nil
    · exact .none
  | cons same rest step =>
    unfold Text.drop?
    rw [pair.size_eq same]
    split
    · exact .some (.cons same rest)
    · split
      · exact step _
      · exact .none

theorem take? (texts : pair.Texts text twin) (position : Nat) :
    Option.Rel pair.Texts (text.take? position) (twin.take? position) := by
  unfold Texts at texts
  induction texts generalizing position with
  | nil =>
    unfold Text.take?
    split
    · exact .some .nil
    · exact .none
  | @cons letter twin _ _ same rest step =>
    unfold Text.take?
    rw [pair.size_eq same]
    split
    · exact .some .nil
    · split
      · have before := step (position - twin.utf8Size)
        revert before
        generalize Text.take? _ (position - twin.utf8Size) = part,
          Text.take? _ (position - twin.utf8Size) = partOther
        rintro (before | _)
        · exact .some (.cons same before)
        · exact .none
      · exact .none

theorem take (texts : pair.Texts text twin) (count : Nat) :
    pair.Texts (text.take count) (twin.take count) :=
  List.forall₂_take count texts

theorem drop (texts : pair.Texts text twin) (count : Nat) :
    pair.Texts (text.drop count) (twin.drop count) :=
  List.forall₂_drop count texts

theorem rewind? (texts : pair.Texts text twin) (position count : Nat) :
    text.rewind? position count = twin.rewind? position count := by
  unfold Text.rewind?
  split
  · rfl
  · have before := texts.take? position
    revert before
    generalize text.take? position = part, twin.take? position = partOther
    rintro (before | _)
    · rw [Option.map_some, Option.map_some, List.Forall₂.length_eq before,
        (Texts.take before _).size_eq]
    · rfl

theorem append_same (texts : pair.Texts text twin) (more : Text) :
    pair.Texts (text ++ more) (twin ++ more) := by
  unfold Texts at texts ⊢
  induction texts with
  | nil => exact texts_refl more
  | cons same _ step => exact .cons same step

end Texts

/-- The groups of one match in two texts that count as the same. -/
theorem texts_captures {text twin : Text} (texts : pair.Texts text twin) (place : Regex.Match) :
    List.Forall₂ pair.Texts (place.captures text) (place.captures twin) := by
  unfold Regex.Match.captures
  rw [List.forall₂_map_left_iff, List.forall₂_map_right_iff, List.forall₂_same]
  rintro (_ | ⟨start, finish⟩) -
  · exact .nil
  · exact (texts.drop start).take (finish - start)

theorem texts_getD {texts twins : List Text} (same : List.Forall₂ pair.Texts texts twins)
    (index : Nat) : pair.Texts (texts[index]?.getD []) (twins[index]?.getD []) := by
  induction same generalizing index with
  | nil => exact .nil
  | cons first _ step =>
    cases index with
    | zero => exact first
    | succ index => exact step index

theorem texts_headD {texts twins : List Text} (same : List.Forall₂ pair.Texts texts twins) :
    pair.Texts (texts.headD []) (twins.headD []) := by
  cases same with
  | nil => exact .nil
  | cons first _ => exact first

/-! ### Tokenizers and matches that correspond -/

variable (pair) in
/-- Two tokenizers that take the place of one another differ at most in their rules, they have rules
for the same states, and they do not see the difference between texts that count as the same. -/
structure Tokenizers (tokenizer twin : Tokenizer) : Prop where
  kin : pair.kin tokenizer twin
  states : ∃ usesEmbedded states,
    twin = { tokenizer with grammar := { tokenizer.grammar with usesEmbedded, states } }
  exists_eq : ∀ state, tokenizer.grammar.stateExists state = twin.grammar.stateExists state
  fold_eq : ∀ {text other : Text}, pair.Texts text other →
    tokenizer.grammar.settings.foldText text = tokenizer.grammar.settings.foldText other

variable (pair) in
/-- Two matches are matches of one rule with texts that count as the same. -/
structure Founds (found twin : Found) : Prop where
  rule : found.rule = twin.rule
  captures : List.Forall₂ pair.Texts found.captures twin.captures
  matched : pair.Texts found.matched twin.matched
  action : found.action = twin.action

variable (pair) in
/-- Two matches that an action is chosen for look the same. -/
structure Contexts (context twin : MatchContext) : Prop where
  matched : pair.Texts context.matched twin.matched
  captures : List.Forall₂ pair.Texts context.captures twin.captures
  state : context.state = twin.state
  atLineEnd : context.atLineEnd = twin.atLineEnd

section

variable {tokenizer twin : Tokenizer} {context contextOther : MatchContext}

/-- A template becomes the same text. -/
theorem Tokenizers.fill_eq (twins : pair.Tokenizers tokenizer twin)
    (contexts : pair.Contexts context contextOther) (template : String) :
    Template.fill tokenizer.grammar.settings template context =
      Template.fill tokenizer.grammar.settings template contextOther := by
  unfold Template.fill
  refine congrArg String.ofList (congrArg (List.flatMap · _) (funext fun piece => ?_))
  cases piece with
  | letter letter => rfl
  | matched => exact twins.fold_eq contexts.matched
  | capture index => exact twins.fold_eq (texts_getD contexts.captures index)
  | component index =>
    unfold Template.fillPiece
    rw [contexts.state]
  | attributeText name => rfl

/-- A text is the side of the same bracket. -/
theorem Tokenizers.findBracket?_eq (twins : pair.Tokenizers tokenizer twin) {text other : Text}
    (texts : pair.Texts text other) :
    tokenizer.grammar.findBracket? text = tokenizer.grammar.findBracket? other := by
  unfold Grammar.findBracket?
  rw [twins.fold_eq texts]
  simp only [texts.eq_nil_iff]

/-- The token is the same. -/
theorem Tokenizers.text_eq (twins : pair.Tokenizers tokenizer twin)
    (contexts : pair.Contexts context contextOther) (action : TokenAction) :
    action.text tokenizer.grammar.settings context =
      action.text tokenizer.grammar.settings contextOther := by
  unfold TokenAction.text
  rw [twins.fill_eq contexts]

/-- The change of the embedded language is the same. -/
theorem Tokenizers.changeEmbedded_eq (twins : pair.Tokenizers tokenizer twin)
    (contexts : pair.Contexts context contextOther) (action : TokenAction)
    (embedded : Option Embedded) :
    action.changeEmbedded tokenizer.grammar.settings context embedded =
      action.changeEmbedded tokenizer.grammar.settings contextOther embedded := by
  unfold TokenAction.changeEmbedded
  simp only [twins.fill_eq contexts]

/-- The change of the stack is the same. -/
theorem Tokenizers.stackChange_eq (twins : pair.Tokenizers tokenizer twin)
    (contexts : pair.Contexts context contextOther) (action : TokenAction) (rule : String)
    (stack : Stack) :
    action.stackChange tokenizer context rule stack =
      action.stackChange twin contextOther rule stack := by
  have target : ∀ template undefined, tokenizer.target context template undefined =
      twin.target contextOther template undefined := by
    intro template undefined
    unfold Tokenizer.target
    dsimp only
    rw [twins.exists_eq, twins.fill_eq contexts]
    obtain ⟨_, _, rfl⟩ := twins.states
    rfl
  have depth : tokenizer.checkDepth stack = twin.checkDepth stack := by
    obtain ⟨_, _, rfl⟩ := twins.states
    rfl
  unfold TokenAction.stackChange
  simp only [target, depth]

end

/-! ### Scans that correspond -/

variable (pair) in
/-- Two lines as two grammars scan them: the first one has a part in front that the second one has
not. -/
structure Hosts (host twin : HostLine) : Prop where
  tokenizers : pair.Tokenizers host.tokenizer twin.tokenizer
  lineSize : host.lineSize = pair.past + twin.lineSize
  textSize : host.textSize = pair.past + twin.textSize
  shift : host.shift + pair.past = twin.shift
  blank : (host.text == []) = (twin.text == [])
  text : pair.past = 0 → pair.Texts host.text twin.text

variable (pair) in
/-- Two pending groups have the same action and texts that count as the same. -/
structure Members (member twin : Action × Text) : Prop where
  action : member.1 = twin.1
  text : pair.Texts member.2 twin.2

variable (pair) in
/-- The same groups of one match are to be taken. -/
structure Replays (replay twin : Replay) : Prop where
  rule : replay.rule = twin.rule
  captures : List.Forall₂ pair.Texts replay.captures twin.captures
  members : List.Forall₂ pair.Members replay.members twin.members

variable (pair) in
/-- Two scans have seen the same empty groups last, or the first one has seen those that only it has
seen. -/
inductive Seen : Option (Nat × Stack) → Option (Nat × Stack) → Prop where
  | none : Seen none none
  | some (position : Nat) (stack : Stack) :
      Seen (some (pair.past + position, stack)) (some (position, stack))
  | stale : Seen pair.stale .none

variable (pair) in
/-- Two scans stand at places that correspond, in the same state. -/
structure Scans (scan twin : Scan) : Prop where
  position : scan.position = pair.past + twin.position
  stack : scan.stack = twin.stack
  embedded : scan.embedded = twin.embedded
  replay : Option.Rel pair.Replays scan.replay twin.replay
  seen : pair.Seen scan.emptyGroup twin.emptyGroup
  due : scan.due = twin.due

variable (pair) in
/-- Two steps lead to scans that correspond, or to the same language. -/
inductive Nexts : Next → Next → Prop where
  | goOn {scan twin : Scan} (scans : pair.Scans scan twin) : Nexts (.goOn scan) (.goOn twin)
  | enter (name : String) (position : Nat) (stack : Stack) :
      Nexts (.enter name (pair.past + position) stack) (.enter name position stack)

variable (pair) in
/-- Two scans end in the same state, or where the same language starts. -/
inductive Departures : Departure → Departure → Prop where
  | lineEnd (stack : Stack) (embedded : Option Embedded) :
      Departures (.lineEnd stack embedded) (.lineEnd stack embedded)
  | enter (name : String) (position : Nat) (stack : Stack) :
      Departures (.enter name (pair.past + position) stack) (.enter name position stack)

variable (pair) in
/-- Two steps take matches that correspond. -/
structure Takes (taken twin : Scan × Found) : Prop where
  scans : pair.Scans taken.1 twin.1
  founds : pair.Founds taken.2 twin.2

section

variable {host twin : HostLine} {scan scanOther after afterOther : Scan}
  {found foundOther : Found} {context contextOther : MatchContext}

theorem Scans.pending_eq (scans : pair.Scans scan scanOther) :
    scan.pending = scanOther.pending := by
  have replays := scans.replay
  unfold Scan.pending
  revert replays
  generalize scan.replay = replay, scanOther.replay = replayOther
  rintro (replays | _)
  · exact replays.members.length_eq
  · rfl

theorem Scans.isDue_eq (hosts : pair.Hosts host twin) (scans : pair.Scans scan scanOther) :
    host.isDue scan = twin.isDue scanOther := by
  unfold HostLine.isDue
  rw [scans.due, scans.position, hosts.textSize]
  simp only [Nat.add_lt_add_iff_left]

/-- Actions are chosen for matches that look the same. -/
theorem contexts_of_scans (hosts : pair.Hosts host twin) (scans : pair.Scans scan scanOther)
    (behind : pair.Scans after afterOther) (founds : pair.Founds found foundOther) :
    pair.Contexts (host.context scan after found)
      (twin.context scanOther afterOther foundOther) := by
  refine ⟨founds.matched, founds.captures, by rw [HostLine.context, scans.stack]; rfl, ?_⟩
  show (after.position + found.matched.size == host.textSize) =
    (afterOther.position + foundOther.matched.size == twin.textSize)
  rw [behind.position, founds.matched.size_eq, hosts.textSize, Bool.eq_iff_iff, beq_iff_eq,
    beq_iff_eq]
  omega

/-- Matches that correspond are taken if the rules find matches that correspond. -/
theorem ends_take (scans : pair.Scans scan scanOther) (beside : pair.Beside trace other)
    (finds : scan.replay = none → pair.Ends pair.Founds
      (outcome (host.tokenizer.findAt host.text scan.position scan.stack.state) trace)
      (outcome (twin.tokenizer.findAt twin.text scanOther.position scanOther.stack.state) other)) :
    pair.Ends (Option.Rel pair.Takes) (outcome (host.take scan) trace)
      (outcome (twin.take scanOther) other) := by
  have replays := scans.replay
  unfold HostLine.take
  revert replays finds
  generalize scan.replay = replay, scanOther.replay = replayOther
  rintro finds (replays | _)
  · next left right =>
    obtain ⟨rule, captures, members⟩ := left
    obtain ⟨ruleOther, capturesOther, membersOther⟩ := right
    obtain ⟨rfl, captures, members⟩ := replays
    dsimp only at members captures ⊢
    cases members with
    | nil => exact ends_pure .none beside
    | @cons first firstOther rest restOther same more =>
      obtain ⟨action, matched⟩ := first
      obtain ⟨actionOther, matchedOther⟩ := firstOther
      obtain ⟨rfl, texts⟩ := same
      refine ends_pure (.some ⟨⟨scans.position, scans.stack, scans.embedded, ?_, scans.seen,
        scans.due⟩, ⟨rfl, captures, texts, rfl⟩⟩) beside
      cases more with
      | nil => exact .none
      | cons next more => exact .some ⟨rfl, captures, .cons next more⟩
  · refine ends_map (finds rfl) fun founds => .some ⟨?_, founds⟩
    exact ⟨scans.position, scans.stack, scans.embedded, .none, scans.seen, rfl⟩

/-- The stack is changed in the same way. -/
theorem ends_changeStack {tokenizer tokenizerOther : Tokenizer}
    (twins : pair.Tokenizers tokenizer tokenizerOther) (stack : Stack) (change : StackChange)
    (beside : pair.Beside trace other) :
    pair.Ends Eq (outcome (HostLine.changeStack tokenizer stack change) trace)
      (outcome (HostLine.changeStack tokenizerOther stack change) other) := by
  obtain ⟨_, _, rfl⟩ := twins.states
  unfold HostLine.changeStack
  cases change with
  | keep => exact ends_pure rfl beside
  | push state => exact ends_share tokenizer _ beside
  | pop => exact ends_pure rfl beside
  | toRoot => exact ends_pure rfl beside
  | switchTo state => exact ends_share tokenizer _ beside

/-- Checks for two tokenizers that correspond end in the same way. -/
theorem ends_settle_twin {tokenizer tokenizerOther : Tokenizer}
    (twins : pair.Tokenizers tokenizer tokenizerOther) {left right : Except Fault Result}
    (same : left = right) (beside : pair.Beside trace other) :
    pair.Ends Eq (outcome (settle tokenizer left) trace)
      (outcome (settle tokenizerOther right) other) := by
  obtain ⟨_, _, rfl⟩ := twins.states
  subst same
  exact ends_settle tokenizer left beside

/-- A fault stops both. -/
theorem ends_fault {tokenizer tokenizerOther : Tokenizer}
    (twins : pair.Tokenizers tokenizer tokenizerOther) (fault : Fault)
    (beside : pair.Beside trace other) :
    pair.Ends related (outcome (settle tokenizer (.error fault)) trace)
      (outcome (settle tokenizerOther (.error fault)) other) := by
  obtain ⟨_, _, rfl⟩ := twins.states
  exact ends_throw _ beside

variable (pair) in
/-- What comes with a token leaves scans that correspond, and the same language starts or none. -/
structure Transits (left right : Scan × Option String) : Prop where
  scans : pair.Scans left.1 right.1
  entering : left.2 = right.2

/-- Where characters are read again, both scans are at the start of their lines. -/
theorem rel_rewind? (hosts : pair.Hosts host twin) {position count : Nat}
    (forward : pair.past = 0 ∨ count = 0) :
    Option.Rel (fun left right => left = pair.past + right)
      (host.text.rewind? (pair.past + position) count) (twin.text.rewind? position count) := by
  rcases forward with start | rfl
  · rw [start, Nat.zero_add, (hosts.text start).rewind?]
    cases twin.text.rewind? position count with
    | none => exact .none
    | some behind => exact .some (Nat.zero_add behind).symm
  · exact .some rfl

/-- The changes that come with a token lead scans that correspond to scans that correspond. -/
theorem ends_transit (hosts : pair.Hosts host twin) (scans : pair.Scans after afterOther)
    (founds : pair.Founds found foundOther) (contexts : pair.Contexts context contextOther)
    (action : TokenAction) (forward : pair.past = 0 ∨ action.goBack = none)
    (beside : pair.Beside trace other) :
    pair.Ends pair.Transits (outcome (host.transit after found context action) trace)
      (outcome (twin.transit afterOther foundOther contextOther action) other) := by
  have twins := hosts.tokenizers
  have settings : host.settings = twin.settings := by
    unfold HostLine.settings
    obtain ⟨_, _, same⟩ := twins.states
    rw [same]
  have back : pair.past = 0 ∨ action.goBack.getD 0 = 0 := forward.imp_right fun none => by
    rw [none]
    rfl
  unfold HostLine.transit
  rw [scans.position]
  refine ends_bind (ends_settle_twin twins ?_ beside) fun {embedding _ _ _} _ _ same beside => ?_
  · rw [scans.embedded, ← settings]
    exact twins.changeEmbedded_eq contexts action afterOther.embedded
  subst same
  refine ends_bind (ends_cut (rel_rewind? hosts back) beside)
    fun {position positionOther _ _} _ _ moved beside => ?_
  refine ends_bind (ends_settle_twin twins ?_ beside) fun {change _ _ _} _ _ same beside => ?_
  · rw [scans.stack, founds.rule]
    exact twins.stackChange_eq contexts action foundOther.rule afterOther.stack
  subst same
  rw [scans.stack]
  refine ends_bind (ends_changeStack twins afterOther.stack change beside)
    fun {stack _ _ _} _ _ same beside => ?_
  subst same
  have changed : pair.Scans { after with position, stack, embedded := embedding.1 }
      { afterOther with position := positionOther, stack, embedded := embedding.1 } :=
    ⟨moved, rfl, rfl, scans.replay, scans.seen, scans.due⟩
  cases action.log with
  | none => exact ends_pure ⟨changed, rfl⟩ beside
  | some template =>
    have entry : (⟨host.tokenizer.language, Template.fill host.settings template context⟩ : Note) =
        ⟨twin.tokenizer.language, Template.fill twin.settings template contextOther⟩ := by
      rw [← settings, show host.settings = host.tokenizer.grammar.settings from rfl,
        twins.fill_eq contexts]
      obtain ⟨_, _, same⟩ := twins.states
      rw [same]
      rfl
    dsimp only
    rw [entry]
    exact ends_bind (ends_note _ beside) fun _ _ _ beside => ends_pure ⟨changed, rfl⟩ beside

/-- Whether a step has changed anything is the same for scans that correspond. -/
theorem progressed_eq (hosts : pair.Hosts host twin) (scans : pair.Scans scan scanOther)
    (behind : pair.Scans after afterOther) :
    host.progressed scan after = twin.progressed scanOther afterOther := by
  unfold HostLine.progressed
  rw [hosts.blank, scans.stack, behind.stack, scans.pending_eq, behind.pending_eq]

/-- A matched text has the same classification, or it is the side of no bracket. -/
theorem ends_classify (hosts : pair.Hosts host twin) (action : TokenAction) (token : String)
    {matched matchedOther : Text} (texts : pair.Texts matched matchedOther)
    (beside : pair.Beside trace other) :
    pair.Ends Eq
      (outcome (settle host.tokenizer
        (action.classify host.tokenizer.grammar token matched)) trace)
      (outcome (settle twin.tokenizer
        (action.classify twin.tokenizer.grammar token matchedOther)) other) := by
  have alike : settle twin.tokenizer (action.classify twin.tokenizer.grammar token matchedOther) =
      settle host.tokenizer (action.classify host.tokenizer.grammar token matchedOther) := by
    obtain ⟨_, _, same⟩ := hosts.tokenizers.states
    rw [same]
    rfl
  rw [alike]
  unfold TokenAction.classify
  rw [hosts.tokenizers.findBracket?_eq texts]
  split
  · split
    · exact ends_pure rfl beside
    · exact .stop (pair.stops_missing _ texts) beside
  · split
    · exact ends_pure rfl beside
    · exact ends_pure rfl beside

/-- The token of a step is told at the same place of the whole line. -/
theorem ends_tellToken (hosts : pair.Hosts host twin) (position : Nat) (classification : String)
    (side : Option Side) (beside : pair.Beside trace other) :
    pair.Ends Eq (outcome (host.tellToken (pair.past + position) classification side) trace)
      (outcome (twin.tellToken position classification side) other) := by
  have place : pair.past + position + host.shift = position + twin.shift := by
    rw [← hosts.shift]
    omega
  unfold HostLine.tellToken
  rw [hosts.lineSize, place]
  simp only [Nat.add_lt_add_iff_left]
  split
  · exact ends_tell _ beside
  · exact ends_pure rfl beside

/-- The end of a step is the same. Where a text is read again, the second scan has it behind it or
both scans are at the start of their lines. -/
theorem ends_conclude (hosts : pair.Hosts host twin) (scans : pair.Scans scan scanOther)
    (behind : pair.Scans after afterOther) (founds : pair.Founds found foundOther)
    (room : pair.past = 0 ∨ foundOther.matched.size ≤ afterOther.position) (action : TokenAction)
    (token : String) (entering : Option String) (beside : pair.Beside trace other) :
    pair.Ends pair.Nexts (outcome (host.conclude scan found action token after entering) trace)
      (outcome (twin.conclude scanOther foundOther action token afterOther entering) other) := by
  have again : pair.Scans (HostLine.behind found token after)
      (HostLine.behind foundOther token afterOther) := by
    unfold HostLine.behind
    split
    · refine ⟨?_, behind.stack, behind.embedded, behind.replay, behind.seen, behind.due⟩
      show after.position - found.matched.size =
        pair.past + (afterOther.position - foundOther.matched.size)
      rw [behind.position, founds.matched.size_eq]
      omega
    · exact behind
  have ends : pair.Nexts (.ofScan (HostLine.behind found token after) entering)
      (.ofScan (HostLine.behind foundOther token afterOther) entering) := by
    cases entering with
    | none => exact .goOn again
    | some name =>
      show pair.Nexts (.enter name _ _) (.enter name _ _)
      rw [again.position, again.stack]
      exact .enter name _ _
  unfold HostLine.conclude
  rw [founds.matched.beq_nil, progressed_eq hosts scans again, founds.rule]
  split
  · split
    · exact ends_pure ends beside
    · exact ends_fault hosts.tokenizers _ beside
  · refine ends_bind (ends_classify hosts action token founds.matched beside)
      fun _ _ same beside => ?_
    subst same
    rw [scans.position]
    exact ends_bind (ends_tellToken hosts _ _ _ beside) fun _ _ _ beside => ends_pure ends beside

/-- Both scans have seen the same empty groups where they stand, unless only the first one has. -/
theorem seenEmptyGroup_eq (scans : pair.Scans scan scanOther)
    (unseen : scanOther.emptyGroup = none → HostLine.seenEmptyGroup scan = false) :
    HostLine.seenEmptyGroup scan = HostLine.seenEmptyGroup scanOther := by
  have seen := scans.seen
  revert unseen
  unfold HostLine.seenEmptyGroup
  generalize scan.emptyGroup = group, scanOther.emptyGroup = groupOther at seen
  cases seen with
  | none => exact fun _ => rfl
  | some position stack =>
    intro _
    rw [scans.position, scans.stack, Option.any_some, Option.any_some, Bool.eq_iff_iff]
    simp
  | stale => exact fun unseen => unseen rfl

theorem members_zip {texts twins : List Text} (same : List.Forall₂ pair.Texts texts twins)
    (actions : List Action) :
    List.Forall₂ pair.Members (actions.zip texts) (actions.zip twins) := by
  induction same generalizing actions with
  | nil => cases actions <;> exact .nil
  | cons first _ step =>
    cases actions with
    | nil => exact .nil
    | cons action actions => exact .cons ⟨rfl, first⟩ (step actions)

/-- The sizes of texts that count as the same are the same. -/
theorem map_size_eq {texts twins : List Text} (same : List.Forall₂ pair.Texts texts twins) :
    texts.map Text.size = twins.map Text.size := by
  induction same with
  | nil => rfl
  | cons first _ step => rw [List.map_cons, List.map_cons, first.size_eq, step]

/-- Groups are taken next in both scans or in neither. -/
theorem ends_splitGroups (hosts : pair.Hosts host twin) (scans : pair.Scans scan scanOther)
    (founds : pair.Founds found foundOther) (members : List Action)
    (unseen : scan.replay = none → found.matched = [] → scanOther.emptyGroup = none →
      HostLine.seenEmptyGroup scan = false) (beside : pair.Beside trace other) :
    pair.Ends pair.Scans
      (outcome (settle host.tokenizer (HostLine.splitGroups scan found members)) trace)
      (outcome (settle twin.tokenizer (HostLine.splitGroups scanOther foundOther members))
        other) := by
  have stops : ∀ fault, pair.Ends pair.Scans
      (outcome (settle host.tokenizer (.error fault)) trace)
      (outcome (settle twin.tokenizer (.error fault)) other) :=
    fun fault => ends_fault hosts.tokenizers fault beside
  have pends : scan.replay.isSome = scanOther.replay.isSome := by
    have replays := scans.replay
    revert replays
    generalize scan.replay = replay, scanOther.replay = replayOther
    rintro (_ | _) <;> rfl
  have groups : List.Forall₂ pair.Texts (found.captures.drop 1) (foundOther.captures.drop 1) :=
    List.forall₂_drop 1 founds.captures
  have next : ∀ {group groupOther : Option (Nat × Stack)}, pair.Seen group groupOther →
      pair.Scans
        { scan with
          replay := some { rule := found.rule, captures := found.captures
                           members := members.zip (found.captures.drop 1) }
          emptyGroup := group, due := false }
        { scanOther with
          replay := some { rule := foundOther.rule, captures := foundOther.captures
                           members := members.zip (foundOther.captures.drop 1) }
          emptyGroup := groupOther, due := false } := fun seen =>
    ⟨scans.position, scans.stack, scans.embedded,
      .some ⟨founds.rule, founds.captures, members_zip groups members⟩, seen, rfl⟩
  unfold HostLine.splitGroups
  dsimp only
  rw [pends, founds.captures.length_eq, map_size_eq groups, founds.matched.size_eq, founds.rule]
  simp only [founds.matched.eq_nil_iff]
  split
  · exact stops _
  · split
    · exact stops _
    · split
      · exact stops _
      · split
        · next empty =>
          show pair.Ends pair.Scans
            (outcome (settle _ (if HostLine.seenEmptyGroup scan = true then _ else _)) trace)
            (outcome (settle _ (if HostLine.seenEmptyGroup scanOther = true then _ else _)) other)
          have nothing : scan.replay = none := by
            rw [← Option.not_isSome_iff_eq_none, pends]
            assumption
          rw [seenEmptyGroup_eq scans (unseen nothing (founds.matched.eq_nil_iff.2 empty))]
          split
          · exact stops _
          · refine ends_pure ?_ beside
            have seen : pair.Seen (some (scan.position, scan.stack))
                (some (scanOther.position, scanOther.stack)) := by
              rw [scans.position, scans.stack]
              exact .some _ _
            simpa only [founds.rule] using next seen
        · refine ends_pure ?_ beside
          simpa only [founds.rule] using next scans.seen

/-- What a match leads to is the same where its action is chosen in the same way. -/
theorem ends_apply (hosts : pair.Hosts host twin) (scans : pair.Scans scan scanOther)
    (behind : pair.Scans after afterOther) (founds : pair.Founds found foundOther)
    (resolves : found.action.resolve host.settings (host.context scan after found) =
      found.action.resolve host.settings (twin.context scanOther afterOther foundOther))
    (forward : pair.past = 0 ∨ found.action.goesBack = false)
    (unseen : ∀ {members}, found.action.resolve host.settings (host.context scan after found) =
      .ok (.group members) → scan.replay = none → found.matched = [] →
        scanOther.emptyGroup = none → HostLine.seenEmptyGroup scan = false)
    (beside : pair.Beside trace other) :
    pair.Ends pair.Nexts (outcome (host.apply scan after found) trace)
      (outcome (twin.apply scanOther afterOther foundOther) other) := by
  have settings : host.settings = twin.settings := by
    unfold HostLine.settings
    obtain ⟨_, _, same⟩ := hosts.tokenizers.states
    rw [same]
  have contexts := contexts_of_scans hosts scans behind founds
  have leads : found.action.resolve host.settings (host.context scan after found) =
      foundOther.action.resolve twin.settings (twin.context scanOther afterOther foundOther) := by
    rw [resolves, founds.action, settings]
  unfold HostLine.apply
  refine ends_bind (ends_settle_twin hosts.tokenizers
    (congrArg (Except.mapError GuardFault.toFault) leads) beside)
    fun {resolved _ _ _} chosen _ same beside => ?_
  subst same
  have chooses : found.action.resolve host.settings (host.context scan after found) =
      .ok resolved := mapError_eq_ok.1 (outcome_settle_eq_ok.1 chosen).1
  cases resolved with
  | group members =>
    exact ends_map (ends_splitGroups hosts scans founds members (unseen chooses) beside) .goOn
  | token action =>
    dsimp only
    rw [HostLine.applyToken_eq, HostLine.applyToken_eq]
    have moved : pair.Scans { after with position := after.position + found.matched.size }
        { afterOther with position := afterOther.position + foundOther.matched.size } := by
      refine ⟨?_, behind.stack, behind.embedded, behind.replay, behind.seen, behind.due⟩
      show after.position + found.matched.size = _
      rw [behind.position, founds.matched.size_eq, Nat.add_assoc]
    have ahead : pair.past = 0 ∨ action.goBack = none :=
      forward.imp_right fun stays => HostLine.goBack_eq_none stays chooses
    refine ends_bind (ends_transit hosts moved founds contexts action ahead beside)
      fun {changed changedOther _ _} _ transits same beside => ?_
    have room : pair.past = 0 ∨ foundOther.matched.size ≤ changedOther.1.position := by
      refine ahead.imp_right fun stays => ?_
      obtain ⟨scan, entering⟩ := changedOther
      rw [(HostLine.transit_ok stays transits).1]
      exact Nat.le_add_left _ _
    rw [same.entering]
    have token : action.text host.settings (host.context scan after found) =
        action.text twin.settings (twin.context scanOther afterOther foundOther) := by
      rw [← settings]
      exact hosts.tokenizers.text_eq contexts action
    exact token ▸ ends_conclude hosts scans same.scans founds room action _ _ beside

/-! ### What the rules find -/

section

variable {tokenizer tokenizerOther : Tokenizer} {state : String} {rules : List Rule}
  {good : Trace → Prop}

/-- A pattern is compiled to the same regular expression. -/
theorem ends_anchored (twins : pair.Tokenizers tokenizer tokenizerOther) (state : String)
    (rule : Rule) (beside : pair.Beside trace other) :
    pair.Ends Eq (outcome (tokenizer.anchored state rule) trace)
      (outcome (tokenizerOther.anchored state rule) other) := by
  obtain ⟨_, _, rfl⟩ := twins.states
  refine ends_bind (ends_remember tokenizer _ beside) fun _ _ same beside => ?_
  subst same
  exact ends_settle tokenizer _ beside

/-- The same rule matches first in texts that count as the same, if the regular expressions do not
see the difference. The rules for the start of lines are tried on both sides or on none. -/
theorem ends_firstMatch (twins : pair.Tokenizers tokenizer tokenizerOther)
    {atStart atStartOther : Bool} {rest restOther : Text} (texts : pair.Texts rest restOther)
    (starts : ∀ rule ∈ rules, rule.atLineStart = true → atStart = atStartOther)
    (finds : ∀ {rule regex trace later}, rule ∈ rules → good trace →
      outcome (tokenizer.anchored state rule) trace = (.ok regex, later) →
        good later ∧ regex.find? rest = regex.find? restOther)
    (holds : good trace) (beside : pair.Beside trace other) :
    pair.Ends (Option.Rel pair.Founds)
      (outcome (tokenizer.firstMatch state atStart rest rules) trace)
      (outcome (tokenizerOther.firstMatch state atStartOther restOther rules) other) := by
  induction rules generalizing trace other with
  | nil => exact ends_pure .none beside
  | cons rule rules step =>
    have passed : (rule.atLineStart && !atStart) = (rule.atLineStart && !atStartOther) := by
      cases bound : rule.atLineStart with
      | false => rfl
      | true => rw [starts rule List.mem_cons_self bound]
    have later : ∀ {trace other : Trace}, good trace → pair.Beside trace other →
        pair.Ends (Option.Rel pair.Founds)
          (outcome (tokenizer.firstMatch state atStart rest rules) trace)
          (outcome (tokenizerOther.firstMatch state atStartOther restOther rules) other) :=
      fun holds beside => step (fun rule listed => starts rule (List.mem_cons_of_mem _ listed))
        (fun listed => finds (List.mem_cons_of_mem _ listed)) holds beside
    unfold Tokenizer.firstMatch
    rw [passed]
    split
    · exact later holds beside
    · refine ends_bind (ends_anchored twins state rule beside)
        fun {regex _ _ _} anchors _ same beside => ?_
      subst same
      obtain ⟨kept, found⟩ := finds List.mem_cons_self holds anchors
      rw [← found]
      split
      · next place fits =>
        have captures := texts_captures texts place
        exact ends_pure (.some ⟨rfl, captures, texts_headD captures, rfl⟩) beside
      · exact later kept beside

/-- Where no rule matches, the same character is read. -/
theorem founds_fallback (twins : pair.Tokenizers tokenizer tokenizerOther) {rest restOther : Text}
    (texts : pair.Texts rest restOther) :
    pair.Founds (tokenizer.fallback rest) (tokenizerOther.fallback restOther) := by
  obtain ⟨_, _, rfl⟩ := twins.states
  exact ⟨rfl, .cons (texts.take 1) .nil, texts.take 1, rfl⟩

/-- Matches that correspond are found by the same rules where the texts count as the same that lie
behind the two positions. -/
theorem ends_findAt (good : Trace → Prop) (twins : pair.Tokenizers tokenizer tokenizerOther)
    (rules : tokenizer.grammar.findRules? state = tokenizerOther.grammar.findRules? state)
    {text textOther : Text} {position positionOther : Nat}
    (cuts : Option.Rel pair.Texts (text.drop? position) (textOther.drop? positionOther))
    (starts : ∀ {rules}, tokenizer.grammar.findRules? state = some rules → ∀ rule ∈ rules,
      rule.atLineStart = true → (position == 0) = (positionOther == 0))
    (finds : ∀ {rules rule regex trace later}, tokenizer.grammar.findRules? state = some rules →
      rule ∈ rules → good trace →
      outcome (tokenizer.anchored state rule) trace = (.ok regex, later) →
        good later ∧ ∀ {rest restOther}, pair.Texts rest restOther →
          regex.find? rest = regex.find? restOther)
    (holds : good trace) (beside : pair.Beside trace other) :
    pair.Ends pair.Founds (outcome (tokenizer.findAt text position state) trace)
      (outcome (tokenizerOther.findAt textOther positionOther state) other) := by
  unfold Tokenizer.findAt
  rw [← rules]
  split
  · exact ends_fault twins _ beside
  · next rules holding =>
    refine ends_bind (ends_cut cuts beside)
      fun cutting cuttingOther texts beside => ?_
    obtain ⟨-, rfl⟩ := outcome_cut_eq_ok.1 cutting
    obtain ⟨-, rfl⟩ := outcome_cut_eq_ok.1 cuttingOther
    refine ends_bind (ends_firstMatch twins texts (starts holding) ?_ holds beside)
      fun _ _ same beside => ends_pure ?_ beside
    · intro rule regex trace later listed holds anchors
      obtain ⟨kept, found⟩ := finds holding listed holds anchors
      exact ⟨kept, found texts⟩
    · cases same with
      | none => exact founds_fallback twins texts
      | some founds => exact founds

end

/-! ### Fair steps -/

variable (pair) in
/-- What two steps have to have in common: the rules find matches that correspond, and the same is
chosen for them; where the first scan has a part of the line in front, no characters are read again;
and where only the first scan has seen empty groups, it does not come up against them. -/
structure Fair (host twin : HostLine) (scan scanOther : Scan) (trace other : Trace) : Prop where
  finds : scan.replay = none → pair.Ends pair.Founds
    (outcome (host.tokenizer.findAt host.text scan.position scan.stack.state) trace)
    (outcome (twin.tokenizer.findAt twin.text scanOther.position scanOther.stack.state) other)
  resolves : ∀ {after afterOther found foundOther}, host.TakesMatch scan trace after found →
    pair.Scans after afterOther → pair.Founds found foundOther →
      found.action.resolve host.settings (host.context scan after found) =
        found.action.resolve host.settings (twin.context scanOther afterOther foundOther)
  forward : ∀ {after found}, host.TakesMatch scan trace after found →
    pair.past = 0 ∨ found.action.goesBack = false
  unseen : ∀ {after found members}, host.TakesMatch scan trace after found →
    found.action.resolve host.settings (host.context scan after found) = .ok (.group members) →
      scan.replay = none → found.matched = [] → scanOther.emptyGroup = none →
        HostLine.seenEmptyGroup scan = false

/-- A scan that has seen no groups which the other one has not comes up against none if that has
seen none. -/
theorem Scans.unseen (scans : pair.Scans scan scanOther) (fresh : pair.stale = none)
    (unseen : scanOther.emptyGroup = none) : HostLine.seenEmptyGroup scan = false := by
  have seen := scans.seen
  unfold HostLine.seenEmptyGroup
  rw [unseen] at seen
  generalize scan.emptyGroup = group at seen ⊢
  cases seen with
  | none => rfl
  | stale => rw [fresh]; rfl

/-- A fair step leads scans that correspond to scans that correspond. -/
theorem ends_step (hosts : pair.Hosts host twin) (scans : pair.Scans scan scanOther)
    (beside : pair.Beside trace other) (fair : pair.Fair host twin scan scanOther trace other) :
    pair.Ends pair.Nexts (outcome (host.step scan) trace)
      (outcome (twin.step scanOther) other) := by
  rw [HostLine.step_eq, HostLine.step_eq]
  refine ends_bind (ends_take scans beside fair.finds) fun {taken takenOther _ _} takes _ same
    beside => ?_
  cases same with
  | none =>
    exact ends_pure (.goOn ⟨scans.position, scans.stack, scans.embedded, .none, scans.seen,
      scans.due⟩) beside
  | @some left right same =>
    obtain ⟨after, found⟩ := left
    have meets : host.TakesMatch scan trace after found := ⟨_, takes⟩
    exact ends_apply hosts scans same.scans same.founds
      (fair.resolves meets same.scans same.founds) (fair.forward meets) (fair.unseen meets) beside

/-- Scans that correspond end in the same way, or they come to steps that are not fair. -/
theorem ends_run_or (hosts : pair.Hosts host twin) (scans : pair.Scans scan scanOther)
    (beside : pair.Beside trace other) (steps : Nat) :
    pair.Ends pair.Departures (outcome (host.run steps scan) trace)
        (outcome (twin.run steps scanOther) other) ∨
      ∃ turns reached later reachedOther laterOther, turns < steps ∧
        host.turn? turns scan trace = some (reached, later) ∧
        twin.turn? turns scanOther other = some (reachedOther, laterOther) ∧
        pair.Scans reached reachedOther ∧ pair.Beside later laterOther ∧
        ¬ pair.Fair host twin reached reachedOther later laterOther := by
  induction steps generalizing scan scanOther trace other with
  | zero => exact Or.inl (ends_throw .exhausted beside)
  | succ steps step =>
    rw [HostLine.outcome_run_succ, HostLine.outcome_run_succ, ← scans.isDue_eq hosts]
    by_cases due : host.isDue scan = true
    · have dueOther : twin.isDue scanOther = true := by rwa [← scans.isDue_eq hosts]
      rw [if_pos due, if_pos due]
      by_cases fair : pair.Fair host twin scan scanOther trace other
      · have ends := ends_step hosts scans beside fair
        rcases leads : outcome (host.step scan) trace with ⟨ending, middle⟩
        rcases leadsOther : outcome (twin.step scanOther) other with ⟨endingOther, middleOther⟩
        rw [leads, leadsOther] at ends
        cases ends with
        | result same beside =>
          cases same with
          | goOn scans =>
            refine (step scans beside).imp_right ?_
            rintro ⟨turns, reached, later, reachedOther, laterOther, allowed, comes, comesOther,
              unfair⟩
            exact ⟨turns + 1, reached, later, reachedOther, laterOther, Nat.succ_lt_succ allowed,
              (HostLine.turn?_succ due leads).trans comes,
              (HostLine.turn?_succ dueOther leadsOther).trans comesOther, unfair⟩
          | enter name position stack => exact Or.inl (.result (.enter name position stack) beside)
        | stop same beside => exact Or.inl (.stop same beside)
      · exact Or.inr ⟨0, scan, trace, scanOther, other, Nat.succ_pos steps,
          HostLine.turn?_zero due, HostLine.turn?_zero dueOther, scans, beside, fair⟩
    · rw [if_neg due, if_neg due]
      refine Or.inl (.result ?_ beside)
      rw [scans.stack, scans.embedded]
      exact .lineEnd _ _

/-- Scans that correspond end in the same way if all steps are fair. -/
theorem ends_run (hosts : pair.Hosts host twin) (scans : pair.Scans scan scanOther)
    (beside : pair.Beside trace other) {steps : Nat}
    (fair : ∀ {turns reached later reachedOther laterOther}, turns < steps →
      host.turn? turns scan trace = some (reached, later) → pair.Scans reached reachedOther →
        pair.Beside later laterOther →
          pair.Fair host twin reached reachedOther later laterOther) :
    pair.Ends pair.Departures (outcome (host.run steps scan) trace)
      (outcome (twin.run steps scanOther) other) := by
  rcases ends_run_or hosts scans beside steps with
    ends | ⟨turns, reached, later, reachedOther, laterOther, allowed, comes, -, scans, beside,
      unfair⟩
  · exact ends
  · exact absurd (fair allowed comes scans beside) unfair

end

/-! ### Exact couplings -/

section

variable {base otherBase : Trace} {kin : Tokenizer → Tokenizer → Prop} {past : Nat}
  {stale : Option (Nat × Stack)}

theorem exact_texts {text other : Text} :
    (exact base otherBase kin past stale).Texts text other ↔ text = other := by
  show List.Forall₂ Eq text other ↔ _
  rw [List.forall₂_eq_eq_eq]

theorem exact_listed {texts twins : List Text} :
    List.Forall₂ (exact base otherBase kin past stale).Texts texts twins ↔ texts = twins := by
  have same : (exact base otherBase kin past stale).Texts = Eq := by
    funext text other
    exact propext exact_texts
  rw [same, List.forall₂_eq_eq_eq]

/-- From one start computations that end in the same way come to the same. -/
theorem Ends.eq_of_same_base {Result : Type} {left right : Except Stop Result × Trace}
    (ends : (exact base base kin past stale).Ends Eq left right) : left = right := by
  cases ends with
  | result same beside => rw [same, beside.eq_of_bases rfl]
  | @stop stop halt _ _ same beside =>
    have stops : stop = halt := same
    rw [stops, beside.eq_of_bases rfl]

/-- Nothing is seen of a difference that is none. -/
theorem exact_tokenizers {tokenizer twin : Tokenizer} (kindred : kin tokenizer twin)
    (states : ∃ usesEmbedded states,
      twin = { tokenizer with grammar := { tokenizer.grammar with usesEmbedded, states } })
    (exists_eq : ∀ state, tokenizer.grammar.stateExists state = twin.grammar.stateExists state) :
    (exact base otherBase kin past stale).Tokenizers tokenizer twin :=
  ⟨kindred, states, exists_eq, fun texts => congrArg _ (exact_texts.1 texts)⟩

theorem exact_tokenizers_self (tokenizer : Tokenizer) (kindred : kin tokenizer tokenizer) :
    (exact base otherBase kin past stale).Tokenizers tokenizer tokenizer :=
  exact_tokenizers kindred ⟨_, _, rfl⟩ fun _ => rfl

/-- The same match is one match. -/
theorem eq_of_founds {found twin : Found}
    (founds : (exact base otherBase kin past stale).Founds found twin) : found = twin := by
  obtain ⟨rule, captures, matched, action⟩ := found
  obtain ⟨ruleOther, capturesOther, matchedOther, actionOther⟩ := twin
  obtain ⟨rfl, captures, matched, rfl⟩ := founds
  cases exact_listed.1 captures
  cases exact_texts.1 matched
  rfl

theorem founds_self (found : Found) :
    (exact base otherBase kin past stale).Founds found found :=
  ⟨rfl, exact_listed.2 rfl, exact_texts.2 rfl, rfl⟩

/-- What looks the same is the same. -/
theorem eq_of_contexts {context twin : MatchContext}
    (contexts : (exact base otherBase kin past stale).Contexts context twin) : context = twin := by
  obtain ⟨matched, captures, state, atLineEnd⟩ := context
  obtain ⟨matchedOther, capturesOther, stateOther, atLineEndOther⟩ := twin
  obtain ⟨matched, captures, rfl, rfl⟩ := contexts
  cases exact_listed.1 captures
  cases exact_texts.1 matched
  rfl

/-- Steps of two scans at the start of their lines are fair if the rules find the same. -/
theorem fair_of_finds {host twin : HostLine} {scan scanOther : Scan} {trace other : Trace}
    (hosts : (exact base otherBase kin 0 none).Hosts host twin)
    (scans : (exact base otherBase kin 0 none).Scans scan scanOther)
    (finds : scan.replay = none → (exact base otherBase kin 0 none).Ends Eq
      (outcome (host.tokenizer.findAt host.text scan.position scan.stack.state) trace)
      (outcome (twin.tokenizer.findAt twin.text scanOther.position scanOther.stack.state) other)) :
    (exact base otherBase kin 0 none).Fair host twin scan scanOther trace other := by
  refine ⟨fun nothing => (finds nothing).mono fun same => same ▸ founds_self _,
    fun _ behind founds => ?_, fun _ => Or.inl rfl, fun _ _ _ _ unseen => scans.unseen rfl unseen⟩
  rw [eq_of_contexts (contexts_of_scans hosts scans behind founds)]

end

end Coupling

end LineLexer
