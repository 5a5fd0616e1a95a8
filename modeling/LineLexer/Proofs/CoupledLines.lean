import LineLexer.Proofs.Coupling
import LineLexer.Proofs.Delegation

/-!
**Two lines side by side.**

Where the scans of two lines and of all their parts are fair, the work on the two lines is the same:
the languages that start and end in them are the same ones, at the same places.

* `Coupling.Jobs`, `Coupling.Tails`: lines that correspond, and a line that is the end of another
  one;
* `Coupling.Participants`: what the tokenizers that take part have to have in common;
* `Coupling.ends_openWith`, `Coupling.ends_handOver`: what comes before and behind a scan;
* `Coupling.ends_tokenizeWithin`: lines that correspond come to the same where all steps are fair;
* `Coupling.ends_self`: what has been told before a line makes no difference.
-/

namespace LineLexer

open Scanning

/-- What lies behind a part of the rest of a text lies further behind in the text. -/
theorem Text.drop?_add {text rest : Text} {position : Nat}
    (cuts : text.drop? position = some rest) (more : Nat) :
    text.drop? (position + more) = rest.drop? more := by
  obtain ⟨before, rfl, rfl⟩ := drop?_eq_some_iff.1 cuts
  clear cuts
  induction before with
  | nil =>
    show rest.drop? (0 + more) = _
    rw [Nat.zero_add]
  | cons first before step =>
    have positive := first.utf8Size_pos
    have left : first.utf8Size + size before + more - first.utf8Size = size before + more := by
      omega
    rw [List.cons_append, size_cons, drop?, if_neg (by omega), if_pos (by omega), left]
    exact step

namespace Coupling

variable (pair : Coupling)

/-- Two lines with texts that count as the same, in the same state. -/
structure Jobs (job twin : Job) : Prop where
  tokenizers : pair.Tokenizers job.tokenizer twin.tokenizer
  line : pair.Texts job.line twin.line
  ended : job.ended = twin.ended
  state : job.state = twin.state
  shift : job.shift = twin.shift

/-- The second line is what the first one has behind a place inside it. -/
structure Tails (job twin : Job) : Prop where
  tokenizers : pair.Tokenizers job.tokenizer twin.tokenizer
  line : ∃ rest, job.line.drop? pair.past = some rest ∧ pair.Texts rest twin.line
  inside : pair.past = 0 ∨ twin.line ≠ []
  ended : job.ended = twin.ended
  shift : job.shift + pair.past = twin.shift

/-- What the tokenizers that take part in the work on two lines have in common: they know the same
names and corresponding tokenizers, and they find the same ends of embedded languages. -/
structure Participants (registry registryOther : Option Registry) (tokenizer : Tokenizer) :
    Prop where
  names : ∀ {host twin}, TakesPart registry tokenizer host → pair.Tokenizers host twin →
    ∀ name, (host.languages? registry).bind (·.resolve? name) =
      (twin.languages? registryOther).bind (·.resolve? name)
  guests : ∀ {host twin}, TakesPart registry tokenizer host → pair.Tokenizers host twin →
    ∀ language, Option.Rel pair.Tokenizers
      ((host.languages? registry).bind (·.tokenizer? language))
      ((twin.languages? registryOther).bind (·.tokenizer? language))
  leaving : ∀ {host twin}, TakesPart registry tokenizer host → pair.Tokenizers host twin →
    ∀ state {line lineOther}, pair.Texts line lineOther →
      host.leavingOffset? state line = twin.leavingOffset? state lineOther

variable {pair} {registry registryOther : Option Registry} {tokenizer : Tokenizer}
  {job twin : Job} {trace other : Trace} {steps depth : Nat}

theorem Participants.of_takesPart {guest : Tokenizer}
    (participants : pair.Participants registry registryOther tokenizer)
    (takes : TakesPart registry tokenizer guest) :
    pair.Participants registry registryOther guest :=
  ⟨fun other => participants.names (takes.trans other),
    fun other => participants.guests (takes.trans other),
    fun other => participants.leaving (takes.trans other)⟩

/-- A line that corresponds to another one is all of it. -/
theorem Jobs.tails (jobs : pair.Jobs job twin) (start : pair.past = 0) : pair.Tails job twin := by
  refine ⟨jobs.tokenizers, ⟨job.line, ?_, jobs.line⟩, Or.inl start, jobs.ended, ?_⟩
  · rw [start, Text.drop?_zero]
  · rw [start, jobs.shift, Nat.add_zero]

/-- The end of a line is scanned as the end of what the rules see. -/
theorem Tails.hosts (tails : pair.Tails job twin) : pair.Hosts job.host twin.host := by
  obtain ⟨rest, cuts, texts⟩ := tails.line
  have sizes : job.line.size = pair.past + twin.line.size := by
    rw [← Text.size_of_drop? cuts, texts.size_eq]
  have feeds : twin.tokenizer.grammar.includeLineFeed = job.tokenizer.grammar.includeLineFeed := by
    obtain ⟨_, _, same⟩ := tails.tokenizers.states
    rw [same]
  have text : job.host.text = if job.ended && job.tokenizer.grammar.includeLineFeed then
      job.line ++ ['\n'] else job.line := rfl
  have textOther : twin.host.text = if job.ended && job.tokenizer.grammar.includeLineFeed then
      twin.line ++ ['\n'] else twin.line := by
    rw [tails.ended, ← feeds]
    rfl
  have whole : pair.past = 0 → pair.Texts job.line twin.line := by
    intro start
    rw [start, Text.drop?_zero, Option.some.injEq] at cuts
    rwa [cuts]
  have all : pair.past = 0 → pair.Texts job.host.text twin.host.text := by
    intro start
    rw [text, textOther]
    split
    · exact (whole start).append_same _
    · exact whole start
  refine ⟨tails.tokenizers, sizes, ?_, tails.shift, ?_, all⟩
  · show job.host.text.size = pair.past + twin.host.text.size
    rw [text, textOther]
    split
    · rw [Text.size_append, Text.size_append, sizes, Nat.add_assoc]
    · exact sizes
  · rcases tails.inside with start | nonempty
    · exact (all start).beq_nil
    · have nonemptyToo : job.line ≠ [] := by
        intro empty
        rw [empty, Text.size_nil] at sizes
        exact nonempty (Text.size_eq_zero_iff.1 (by omega))
      have full : ∀ line : Text, line ≠ [] → ((if job.ended &&
          job.tokenizer.grammar.includeLineFeed then line ++ ['\n'] else line) == []) = false := by
        intro line nonempty
        split <;> simp [nonempty]
      rw [text, textOther, full _ nonemptyToo, full _ nonempty]

/-! ### Languages that start and end -/

/-- A language starts in the same state. -/
theorem ends_initialState {guest guestOther : Tokenizer}
    (twins : pair.Tokenizers guest guestOther) (beside : pair.Beside trace other) :
    pair.Ends Eq (outcome guest.initialState trace) (outcome guestOther.initialState other) := by
  obtain ⟨_, _, rfl⟩ := twins.states
  refine ends_bind (ends_share guest _ beside) fun _ _ same beside => ?_
  subst same
  exact ends_share guest _ beside

/-- A language that starts is the same one. -/
theorem ends_embed (participants : pair.Participants registry registryOther tokenizer)
    {twin : Tokenizer} (twins : pair.Tokenizers tokenizer twin) (name : String)
    (beside : pair.Beside trace other) :
    pair.Ends Eq (outcome (tokenizer.embed registry name) trace)
      (outcome (twin.embed registryOther name) other) := by
  unfold Tokenizer.embed
  dsimp only
  rw [participants.names .self twins]
  have guests := participants.guests .self twins
    (((twin.languages? registryOther).bind (·.resolve? name)).getD name)
  revert guests
  generalize Option.bind _ _ = guest, Option.bind _ _ = guestOther
  rintro (guests | _)
  · refine ends_bind (ends_initialState guests beside) fun _ _ same beside => ?_
    subst same
    exact ends_pure rfl beside
  · exact ends_pure rfl beside

theorem ends_skip (language : String) (shift : Nat) (beside : pair.Beside trace other) :
    pair.Ends Eq (outcome (Job.skip language shift) trace)
      (outcome (Job.skip language shift) other) :=
  ends_bind (ends_tell _ beside) fun _ _ _ beside => ends_tell _ beside

/-- The tokenizer of an embedded language gets a line that corresponds. -/
theorem rel_guestJob? (jobs : pair.Jobs job twin)
    (participants : pair.Participants registry registryOther job.tokenizer)
    (embedded : Embedded) :
    Option.Rel pair.Jobs (job.guestJob? registry embedded)
      (twin.guestJob? registryOther embedded) := by
  have guests := participants.guests .self jobs.tokenizers embedded.language
  unfold Job.guestJob?
  revert guests
  generalize Option.bind _ _ = guest, Option.bind _ _ = guestOther
  rintro (guests | _)
  · cases embedded.state with
    | none => exact .none
    | some state => exact .some ⟨guests, jobs.line, jobs.ended, rfl, jobs.shift⟩
  · cases embedded.state <;> exact .none

variable {tokenizeLine tokenizeOther : Job → Scanning LineState}

/-- A line is too long for both tokenizers or for none. -/
theorem ends_unlessLong (jobs : pair.Jobs job twin) (beside : pair.Beside trace other)
    (ends : job.line.size ≤ job.tokenizer.limits.lineLength →
      pair.Ends Eq (outcome (tokenizeLine job) trace) (outcome (tokenizeOther twin) other)) :
    pair.Ends Eq (outcome (Job.unlessLong tokenizeLine job) trace)
      (outcome (Job.unlessLong tokenizeOther twin) other) := by
  have limits : twin.tokenizer.limits = job.tokenizer.limits := by
    obtain ⟨_, _, same⟩ := jobs.tokenizers.states
    rw [same]
  have language : twin.tokenizer.language = job.tokenizer.language := by
    obtain ⟨_, _, same⟩ := jobs.tokenizers.states
    rw [same]
    rfl
  unfold Job.unlessLong
  rw [limits, language, ← jobs.line.size_eq, ← jobs.shift, ← jobs.state]
  split
  · exact ends_bind (ends_skip _ _ beside) fun _ _ _ beside => ends_pure rfl beside
  · next short => exact ends (Nat.le_of_not_lt short)

/-- An embedded language goes on in the same way. -/
theorem ends_delegate (jobs : pair.Jobs job twin)
    (participants : pair.Participants registry registryOther job.tokenizer)
    (embedded : Embedded) (beside : pair.Beside trace other)
    (ends : ∀ {guest guestOther}, job.guestJob? registry embedded = some guest →
      guest.line.size ≤ guest.tokenizer.limits.lineLength → pair.Jobs guest guestOther →
        pair.Ends Eq (outcome (tokenizeLine guest) trace)
          (outcome (tokenizeOther guestOther) other)) :
    pair.Ends Eq (outcome (job.delegate registry tokenizeLine embedded) trace)
      (outcome (twin.delegate registryOther tokenizeOther embedded) other) := by
  rw [Job.delegate_eq, Job.delegate_eq]
  have guests := rel_guestJob? jobs participants embedded
  revert guests ends
  generalize job.guestJob? registry embedded = guest,
    twin.guestJob? registryOther embedded = guestOther
  rintro ends (guests | _)
  · refine ends_map (ends_unlessLong guests beside fun short => ends rfl short guests) ?_
    exact congrArg some
  · rw [jobs.shift]
    exact ends_bind (ends_skip _ _ beside) fun _ _ _ beside => ends_pure rfl beside

/-- What comes before a scan ends in the same way if the parts of the line do that are in embedded
languages. -/
theorem ends_openWith (jobs : pair.Jobs job twin)
    (participants : pair.Participants registry registryOther job.tokenizer)
    (beside : pair.Beside trace other)
    (ends : ∀ {guest guestOther},
      Work.Gives registry steps ⟨depth + 1, job, trace⟩ ⟨depth, guest, trace⟩ →
        pair.Jobs guest guestOther →
          pair.Ends Eq (outcome (Job.tokenizeWithin registry steps depth guest) trace)
            (outcome (Job.tokenizeWithin registryOther steps depth guestOther) other)) :
    pair.Ends (Sum.LiftRel Eq pair.Jobs)
      (outcome (job.openWith registry (Job.tokenizeWithin registry steps depth)) trace)
      (outcome (twin.openWith registryOther (Job.tokenizeWithin registryOther steps depth))
        other) := by
  unfold Job.openWith
  rw [← jobs.state]
  cases inside : job.state.embedded? with
  | none => exact ends_pure (.inr jobs) beside
  | some embedded =>
    dsimp only
    have leaving := participants.leaving .self jobs.tokenizers job.state.stack.state jobs.line
    refine ends_bind (ends_settle_twin jobs.tokenizers leaving beside)
      fun {found _ _ _} finds findsOther same beside => ?_
    obtain ⟨leaves, rfl⟩ := outcome_settle_eq_ok.1 finds
    obtain ⟨-, rfl⟩ := outcome_settle_eq_ok.1 findsOther
    subst same
    cases found with
    | none =>
      refine ends_bind (ends_delegate jobs participants embedded beside ?_)
        fun {state _ _ _} _ _ same beside => ?_
      · exact fun known short guests => ends (.whole inside leaves known short) guests
      subst same
      refine ends_map ?_ fun same => .inl same
      obtain ⟨_, _, same⟩ := jobs.tokenizers.states
      rw [same]
      exact ends_share job.tokenizer _ beside
    | some offset =>
      have rests : ∀ {trace other : Trace}, pair.Beside trace other →
          pair.Ends (Sum.LiftRel Eq pair.Jobs)
            (outcome (do
              let rest ← cut (job.line.drop? offset)
              pure (Sum.inr (job.hostPart rest offset) : LineState ⊕ Job)) trace)
            (outcome (do
              let rest ← cut (twin.line.drop? offset)
              pure (Sum.inr (twin.hostPart rest offset) : LineState ⊕ Job)) other) := by
        intro trace other beside
        refine ends_bind (ends_cut (jobs.line.drop? offset) beside)
          fun _ _ texts beside => ends_pure (.inr ?_) beside
        exact ⟨jobs.tokenizers, texts, jobs.ended, jobs.state, congrArg (· + offset) jobs.shift⟩
      dsimp only
      split
      · next positive =>
        refine ends_bind (ends_cut (jobs.line.take? offset) beside)
          fun {line _ _ _} cutting cuttingOther texts beside => ?_
        obtain ⟨taken, rfl⟩ := outcome_cut_eq_ok.1 cutting
        obtain ⟨-, rfl⟩ := outcome_cut_eq_ok.1 cuttingOther
        have parts : pair.Jobs (job.guestPart line) (twin.guestPart _) :=
          ⟨jobs.tokenizers, texts, rfl, jobs.state, jobs.shift⟩
        refine ends_bind (ends_delegate parts participants embedded beside ?_)
          fun _ _ _ beside => rests beside
        exact fun known short guests =>
          ends (.before inside leaves positive taken known short) guests
      · exact rests beside

/-! ### Lines -/

/-- Lines that correspond are scanned in the same way if all steps are fair. -/
theorem ends_scanOwn (tails : pair.Tails job twin)
    (starts : pair.Scans job.start twin.start) (beside : pair.Beside trace other)
    (fair : ∀ {turns reached later reachedOther laterOther}, turns < steps →
      job.host.turn? turns job.start
          { trace with events := trace.events.push (.language job.tokenizer.language) } =
        some (reached, later) → pair.Scans reached reachedOther → pair.Beside later laterOther →
          pair.Fair job.host twin.host reached reachedOther later laterOther) :
    pair.Ends pair.Departures (outcome (job.scanOwn steps) trace)
      (outcome (twin.scanOwn steps) other) := by
  have language : twin.tokenizer.language = job.tokenizer.language := by
    obtain ⟨_, _, same⟩ := tails.tokenizers.states
    rw [same]
    rfl
  unfold Job.scanOwn
  rw [language]
  refine ends_bind (ends_tell _ beside) fun told toldOther _ beside => ?_
  cases told
  cases toldOther
  exact ends_run tails.hosts starts beside fair

variable (pair) in
/-- What a scan of two lines leaves of them: the same state, and rests that correspond, if any. -/
structure Handed (left right : LineState × Option Job) : Prop where
  state : left.1 = right.1
  rest : Option.Rel pair.Jobs left.2 right.2

/-- Behind a scan the states are the same, and what is left of the lines corresponds. -/
theorem ends_handOver (tails : pair.Tails job twin)
    (participants : pair.Participants registry registryOther job.tokenizer)
    {departure departureOther : Departure} (departs : pair.Departures departure departureOther)
    (beside : pair.Beside trace other) :
    pair.Ends pair.Handed (outcome (job.handOver registry departure) trace)
      (outcome (twin.handOver registryOther departureOther) other) := by
  have shares : ∀ stack embedded {trace other : Trace}, pair.Beside trace other →
      pair.Ends Eq
        (outcome (share job.tokenizer fun cache => cache.lineState stack embedded) trace)
        (outcome (share twin.tokenizer fun cache => cache.lineState stack embedded) other) := by
    intro stack embedded trace other beside
    obtain ⟨_, _, same⟩ := tails.tokenizers.states
    rw [same]
    exact ends_share job.tokenizer _ beside
  cases departs with
  | lineEnd stack embedded =>
    exact ends_bind (shares stack embedded beside) fun _ _ same beside =>
      ends_pure ⟨same, .none⟩ beside
  | enter name position stack =>
    unfold Job.handOver
    refine ends_bind (ends_embed participants tails.tokenizers name beside)
      fun _ _ same beside => ?_
    subst same
    refine ends_bind (shares stack _ beside) fun _ _ same beside => ?_
    subst same
    obtain ⟨rest, cuts, texts⟩ := tails.line
    have sizes : (pair.past + position < job.line.size) = (position < twin.line.size) := by
      rw [← Text.size_of_drop? cuts, texts.size_eq, Nat.add_lt_add_iff_left]
    have parts : Option.Rel pair.Texts (job.line.drop? (pair.past + position))
        (twin.line.drop? position) := by
      rw [Text.drop?_add cuts]
      exact texts.drop? position
    simp only [sizes]
    split
    · refine ends_bind (ends_cut parts beside) fun _ _ texts beside => ends_pure ⟨rfl, ?_⟩ beside
      refine .some ⟨tails.tokenizers, texts, tails.ended, rfl, ?_⟩
      show job.shift + (pair.past + position) = twin.shift + position
      rw [← Nat.add_assoc, tails.shift]
    · exact ends_pure ⟨rfl, .none⟩ beside

/-- What is left of two lines comes to the same if the rests do. -/
theorem ends_finish {left right : LineState × Option Job} (handed : pair.Handed left right)
    (beside : pair.Beside trace other)
    (ends : ∀ {rest restOther}, left.2 = some rest → pair.Jobs rest restOther →
      pair.Ends Eq (outcome (tokenizeLine rest) trace) (outcome (tokenizeOther restOther) other)) :
    pair.Ends Eq (outcome (Job.finish tokenizeLine left) trace)
      (outcome (Job.finish tokenizeOther right) other) := by
  obtain ⟨state, rest⟩ := left
  obtain ⟨stateOther, restOther⟩ := right
  obtain ⟨rfl, rests⟩ := handed
  cases rests with
  | none => exact ends_pure rfl beside
  | some rests => exact ends rfl rests

variable (pair) in
/-- In all the work on a line, the steps are fair, whatever corresponds to them. -/
def FairWithin (registry : Option Registry) (steps : Nat) (work : Work) : Prop :=
  ∀ {inner : Work}, work.Involves registry steps inner → ∀ {host scan later},
    inner.Visits registry steps host scan later → ∀ {hostOther scanOther laterOther},
      pair.Hosts host hostOther → pair.Scans scan scanOther → pair.Beside later laterOther →
        pair.Fair host hostOther scan scanOther later laterOther

theorem FairWithin.of_gives {work inner : Work} (fair : pair.FairWithin registry steps work)
    (gives : Work.Gives registry steps work inner) : pair.FairWithin registry steps inner :=
  fun involves => fair (.head gives involves)

/-- The state of a line is where the scans of two lines start. -/
theorem scans_start (start : pair.past = 0) (same : job.state = twin.state) :
    pair.Scans job.start twin.start := by
  refine ⟨?_, congrArg LineState.stack same, congrArg LineState.embedded? same, .none, .none, rfl⟩
  rw [start]
  rfl

/-- Lines that correspond come to the same if all steps in the work on the first one are fair. -/
theorem ends_tokenizeWithin (start : pair.past = 0) (jobs : pair.Jobs job twin)
    (participants : pair.Participants registry registryOther job.tokenizer)
    (beside : pair.Beside trace other)
    (fair : pair.FairWithin registry steps ⟨depth, job, trace⟩) :
    pair.Ends Eq (outcome (Job.tokenizeWithin registry steps depth job) trace)
      (outcome (Job.tokenizeWithin registryOther steps depth twin) other) := by
  induction depth generalizing job twin trace other with
  | zero => exact ends_throw .exhausted beside
  | succ depth step =>
    have parts : ∀ {part partOther : Job} {middle middleOther : Trace},
        Work.Gives registry steps ⟨depth + 1, job, trace⟩ ⟨depth, part, middle⟩ →
        pair.Jobs part partOther → pair.Beside middle middleOther →
        pair.Ends Eq (outcome (Job.tokenizeWithin registry steps depth part) middle)
          (outcome (Job.tokenizeWithin registryOther steps depth partOther) middleOther) :=
      fun gives jobs beside => step jobs (participants.of_takesPart gives.takesPart) beside
        (fair.of_gives gives)
    rw [Job.tokenizeWithin, Job.tokenizeWithin, Job.advance_eq, Job.advance_eq]
    refine ends_bind (ends_openWith jobs participants beside
      fun gives guests => parts gives guests beside) fun opens _ same beside => ?_
    cases same with
    | inl same => exact ends_pure same beside
    | @inr part partOther jobs =>
      have scans : Work.Scans registry steps ⟨depth + 1, job, trace⟩ part _ := .opens opens
      have tails := jobs.tails start
      have takes : TakesPart registry job.tokenizer part.tokenizer := by
        rw [scans.tokenizer]
        exact .self
      rw [Sum.elim_inr, Sum.elim_inr, Job.scanHost_eq, Job.scanHost_eq]
      refine ends_bind (ends_scanOwn tails (scans_start start jobs.state) beside
        fun allowed comes scansToo beside => fair .refl (.turn scans allowed comes) tails.hosts
          scansToo beside) fun departs _ same beside => ?_
      refine ends_bind (ends_handOver tails (participants.of_takesPart takes) same beside)
        fun {handed _ _ _} hands _ same beside => ?_
      refine ends_finish same beside fun {rest restOther} left rests => ?_
      obtain ⟨state, rest⟩ := handed
      subst left
      exact parts (.behind scans departs hands) rests beside

/-! ### One line behind different traces -/

section

variable {base otherBase : Trace} {kin : Tokenizer → Tokenizer → Prop} {past : Nat}
  {stale : Option (Nat × Stack)}

/-- From the same memories the rules find the same. -/
theorem ends_findAt_self (kindred : kin tokenizer tokenizer) (text : Text) (position : Nat)
    (state : String) (beside : (exact base otherBase kin past stale).Beside trace other) :
    (exact base otherBase kin past stale).Ends Eq
      (outcome (tokenizer.findAt text position state) trace)
      (outcome (tokenizer.findAt text position state) other) := by
  have cuts : Option.Rel (exact base otherBase kin past stale).Texts (text.drop? position)
      (text.drop? position) := by
    cases text.drop? position with
    | none => exact .none
    | some rest => exact .some (texts_refl rest)
  have ends : (exact base otherBase kin past stale).Ends
      (exact base otherBase kin past stale).Founds
      (outcome (tokenizer.findAt text position state) trace)
      (outcome (tokenizer.findAt text position state) other) := by
    refine ends_findAt (fun _ => True) (exact_tokenizers_self tokenizer kindred) rfl cuts
      (fun _ _ _ _ => rfl) (fun _ _ _ _ => ⟨trivial, fun texts => ?_⟩) trivial beside
    rw [exact_texts.1 texts]
  exact ends.mono eq_of_founds

/-- Steps of one tokenizer in one text are fair. -/
theorem fair_of_tokenizer_eq {host twin : HostLine} {scan scanOther : Scan}
    (same : host.tokenizer = twin.tokenizer)
    (hosts : (exact base otherBase kin 0 none).Hosts host twin)
    (scans : (exact base otherBase kin 0 none).Scans scan scanOther)
    (beside : (exact base otherBase kin 0 none).Beside trace other) :
    (exact base otherBase kin 0 none).Fair host twin scan scanOther trace other := by
  refine fair_of_finds hosts scans fun _ => ?_
  have position : scan.position = scanOther.position := by
    rw [scans.position]
    exact Nat.zero_add _
  have kindred : kin twin.tokenizer twin.tokenizer := same ▸ hosts.tokenizers.kin
  rw [same, exact_texts.1 (hosts.text rfl), position, scans.stack]
  exact ends_findAt_self kindred _ _ _ beside

/-- Whoever takes part has itself in common with itself. -/
theorem participants_self (registry : Option Registry) (tokenizer : Tokenizer) :
    (exact base otherBase Eq past stale).Participants registry registry tokenizer := by
  refine ⟨fun _ twins name => ?_, fun _ twins language => ?_, fun _ twins state _ _ texts => ?_⟩
  · rw [twins.kin]
  · rw [← twins.kin]
    cases Option.bind _ _ with
    | none => exact .none
    | some guest => exact .some (exact_tokenizers_self guest rfl)
  · rw [twins.kin, exact_texts.1 texts]

/-- A line comes to the same whatever has been told before, from the same memories. -/
theorem ends_self (beside : (exact base otherBase Eq 0 none).Beside trace other) (job : Job) :
    (exact base otherBase Eq 0 none).Ends Eq
      (outcome (Job.tokenizeWithin registry steps depth job) trace)
      (outcome (Job.tokenizeWithin registry steps depth job) other) :=
  ends_tokenizeWithin rfl ⟨exact_tokenizers_self _ rfl, texts_refl _, rfl, rfl, rfl⟩
    (participants_self registry job.tokenizer) beside fun _ _ _ _ _ _ _ _ hosts scans beside =>
      fair_of_tokenizer_eq hosts.tokenizers.kin hosts scans beside

end

end Coupling

/-- Within given bounds a line comes to the same from all sound memories. -/
theorem Job.agree_within {tokenizers : Set Tokenizer} {registry : Option Registry}
    {limit : Text → Nat} {depth : Nat} (injective : tokenizers.InjOn Tokenizer.identity) :
    AgreesOn tokenizers registry (within limit depth registry) := by
  intro job other alike known
  unfold within
  rw [← alike.line]
  exact agree_unlessLong (agree_tokenizeWithin injective depth) alike known

end LineLexer
