import LineLexer.Proofs.FirstMatch
import LineLexer.Proofs.Groups

/-!
**Where an embedded language ends.**

The place where an embedded language ends is searched for in the whole line, with the rules by which
it ends. From that place on the line is scanned by all rules of the state, in order, so another rule
may be taken there, or the rule that was found may not match once the line is cut or its line feed
is seen. The language ends only if a step leaves it.

* `HostLine.Leaves`: a step that leaves the embedded language;
* `HostLine.embedded_of_step`, `embedded_of_run`: what a step and a run do to the embedded language;
* `HostLine.leaves_iff`: which steps leave it;
* `Work.exit_taken_iff`: where a scan that starts at the end of an embedded language leaves it.
-/

namespace LineLexer

open Scanning

namespace HostLine

variable {host : HostLine} {scan start : Scan} {next : Next} {found : Found}
  {trace middle later : Trace} {embedded : Embedded} {departure : Departure} {steps : Nat}

/-- A step does what a token action says by which the embedded language ends. -/
def Leaves (host : HostLine) (scan : Scan) (trace : Trace) : Prop :=
  ∃ found action next later, host.Acts scan trace found action next later ∧
    action.embedding = some .leave

/-- A scan leaves the embedded language at one of its turns. -/
def LeavesAtTurn (host : HostLine) (start : Scan) (trace : Trace) : Prop :=
  ∃ turns scan before, host.turn? turns start trace = some (scan, before) ∧ host.Leaves scan before

/-- Where no group is left there is no match. -/
theorem take_of_empty {replay : Replay} (first : scan.replay = some replay)
    (empty : replay.members = []) (trace : Trace) :
    outcome (host.take scan) trace = (.ok none, trace) := by
  unfold take
  rw [first]
  dsimp only
  rw [empty]
  rfl

/-- A token action that leaves changes the embedded language, and another one does so only by
starting one where none was. -/
theorem embedded_of_acts {action : TokenAction}
    (acts : host.Acts scan trace found action next later) :
    (action.embedding = some .leave ∧ scan.embedded ≠ none ∧
        ∃ changed, next = .goOn changed ∧ changed.embedded = none) ∨
      (action.embedding ≠ some .leave ∧
        ((∃ changed, next = .goOn changed ∧ changed.embedded = scan.embedded) ∨
          (scan.embedded = none ∧ ∃ name position stack, next = .enter name position stack))) := by
  obtain @⟨after, changed, entering, taken, noted, takes, leads, transits, concludes⟩ := acts
  have same := (take_ok takes).embedded
  have ends := conclude_leads concludes
  have embeds := transits.embeds
  unfold TokenAction.changeEmbedded at embeds
  dsimp only at embeds
  rw [same] at embeds
  split at embeds
  · next nothing =>
    rw [Except.ok.injEq, Prod.mk.injEq] at embeds
    obtain ⟨kept, rfl⟩ := embeds
    refine Or.inr ⟨by rw [nothing]; exact nofun, Or.inl ⟨_, ends, ?_⟩⟩
    rw [embedded_behind]
    exact kept.symm
  · next leaving =>
    split at embeds
    · cases embeds
    · next inside =>
      rw [Except.ok.injEq, Prod.mk.injEq] at embeds
      obtain ⟨gone, rfl⟩ := embeds
      refine Or.inl ⟨leaving, by simpa using inside, _, ends, ?_⟩
      rw [embedded_behind]
      exact gone.symm
  · next template entered =>
    split at embeds
    · cases embeds
    · next outside =>
      rw [Except.ok.injEq, Prod.mk.injEq] at embeds
      obtain ⟨-, rfl⟩ := embeds
      exact Or.inr ⟨by rw [entered]; exact nofun, Or.inr ⟨by simpa using outside, _, _, _, ends⟩⟩

/-- A step that acts leaves exactly where its action does. -/
theorem Acts.leaves_iff {action : TokenAction}
    (acts : host.Acts scan trace found action next later) :
    host.Leaves scan trace ↔ action.embedding = some .leave := by
  constructor
  · rintro ⟨otherFound, otherAction, otherNext, otherLater, otherActs, leaves⟩
    obtain ⟨takes, leads, -, -⟩ := acts
    obtain ⟨otherTakes, otherLeads, -, -⟩ := otherActs
    rw [takes] at otherTakes
    cases otherTakes
    rw [leads] at otherLeads
    cases otherLeads
    exact leaves
  · exact fun leaves => ⟨found, action, next, later, acts, leaves⟩

/-- A step that splits a match does not leave. -/
theorem Splits.not_leaves {members : List Action} {changed : Scan}
    (splits : host.Splits scan trace found members changed later) : ¬ host.Leaves scan trace := by
  rintro ⟨otherFound, otherAction, otherNext, otherLater, otherActs, -⟩
  obtain ⟨takes, leads, -⟩ := splits
  obtain ⟨otherTakes, otherLeads, -, -⟩ := otherActs
  rw [takes] at otherTakes
  cases otherTakes
  rw [leads] at otherLeads
  cases otherLeads

/-- What a step does to the embedded language. -/
theorem embedded_of_step (done : outcome (host.step scan) trace = (.ok next, later)) :
    (host.Leaves scan trace ∧ scan.embedded ≠ none ∧
        ∃ changed, next = .goOn changed ∧ changed.embedded = none) ∨
      (¬ host.Leaves scan trace ∧
        ((∃ changed, next = .goOn changed ∧ changed.embedded = scan.embedded) ∨
          (scan.embedded = none ∧ ∃ name position stack, next = .enter name position stack))) := by
  cases step_cases done with
  | empty first none same silent =>
    refine Or.inr ⟨?_, Or.inl ⟨_, same, rfl⟩⟩
    rintro ⟨_, _, _, _, otherActs, -⟩
    obtain ⟨takes, -, -, -⟩ := otherActs
    rw [take_of_empty first none] at takes
    cases takes
  | splits splits same =>
    refine Or.inr ⟨splits.not_leaves, Or.inl ⟨_, same, ?_⟩⟩
    obtain ⟨-, -, fits⟩ := splits
    obtain ⟨-, -, -, emptyGroup, rfl⟩ := splitGroups_ok fits
    rfl
  | acts acts =>
    rw [acts.leaves_iff]
    exact embedded_of_acts acts

/-- Outside of an embedded language a run does not come into one. -/
theorem run_outside {stack : Stack} {left : Option Embedded} (outside : scan.embedded = none)
    (done : outcome (host.run steps scan) trace = (.ok (.lineEnd stack left), later)) :
    left = none := by
  induction steps generalizing scan trace with
  | zero => cases done
  | succ steps step =>
    rw [outcome_run_succ] at done
    split at done
    · split at done
      · next next middle leads =>
        rcases embedded_of_step leads with
          ⟨-, inside, -⟩ | ⟨-, ⟨changed, same, kept⟩ | ⟨-, _, _, _, same⟩⟩
        · exact absurd outside inside
        · cases same
          exact step (kept.trans outside) done
        · cases same
      · cases done
      · cases done
    · cases done
      exact outside

/-- A scan leaves at one of its turns if it does at one of those behind a step. -/
theorem leavesAtTurn_of_next {changed : Scan} (due : host.isDue scan = true)
    (leads : outcome (host.step scan) trace = (.ok (.goOn changed), middle))
    (leaves : host.LeavesAtTurn changed middle) : host.LeavesAtTurn scan trace := by
  obtain ⟨turns, reached, before, comes, leaves⟩ := leaves
  exact ⟨turns + 1, reached, before, (turn?_succ due leads).trans comes, leaves⟩

/-- A run that starts in an embedded language comes to its end in that language, and only at the end
of the line, or it leaves the language at a turn and does not come to the end of the line in any. -/
theorem embedded_of_run (inside : scan.embedded = some embedded)
    (done : outcome (host.run steps scan) trace = (.ok departure, later)) :
    (host.LeavesAtTurn scan trace ∧
        ∀ stack left, departure = .lineEnd stack left → left = none) ∨
      (¬ host.LeavesAtTurn scan trace ∧ ∃ stack, departure = .lineEnd stack (some embedded)) := by
  induction steps generalizing scan trace with
  | zero => cases done
  | succ steps step =>
    rw [outcome_run_succ] at done
    split at done
    · next due =>
      split at done
      · next next middle leads =>
        rcases embedded_of_step leads with ⟨leaves, -, changed, same, gone⟩ |
          ⟨stays, ⟨changed, same, kept⟩ | ⟨outside, -⟩⟩
        · cases same
          refine Or.inl ⟨⟨0, scan, trace, turn?_zero due, leaves⟩, fun stack left same => ?_⟩
          subst same
          exact run_outside gone done
        · cases same
          rcases step (kept.trans inside) done with ⟨leaves, ends⟩ | ⟨never, ends⟩
          · exact Or.inl ⟨leavesAtTurn_of_next due leads leaves, ends⟩
          · refine Or.inr ⟨?_, ends⟩
            rintro ⟨turns, reached, before, comes, leaves⟩
            cases turns with
            | zero =>
              obtain ⟨-, rfl, rfl⟩ := eq_of_turn?_zero comes
              exact stays leaves
            | succ turns =>
              rw [turn?_succ due leads] at comes
              exact never ⟨turns, reached, before, comes, leaves⟩
        · rw [inside] at outside
          cases outside
      · next leads =>
        rcases embedded_of_step leads with ⟨-, -, _, same, -⟩ | ⟨-, ⟨_, same, -⟩ | ⟨outside, -⟩⟩
        · cases same
        · cases same
        · rw [inside] at outside
          cases outside
      · cases done
    · next finished =>
      cases done
      refine Or.inr ⟨?_, scan.stack, by rw [inside]⟩
      rintro ⟨turns, reached, before, comes, -⟩
      exact finished (isDue_start_of_turn? comes)

/-- A step that takes what the rules find leaves exactly where the action of the first rule that
matches leads to a token that does. -/
theorem leaves_iff {tokenizers : Set Tokenizer} (injective : tokenizers.InjOn Tokenizer.identity)
    (known : host.tokenizer ∈ tokenizers) (sound : trace.memories.Sound tokenizers)
    (unpended : scan.replay = none)
    (done : outcome (host.step scan) trace = (.ok next, later)) :
    ∃ rules rest picked, host.tokenizer.grammar.findRules? scan.stack.state = some rules ∧
      host.text.drop? scan.position = some rest ∧
      Tokenizer.Picks (host.tokenizer.IsFresh scan.stack.state) (scan.position == 0) rest rules
        picked ∧
      (host.Leaves scan trace ↔ ∃ action,
        (picked.getD (host.tokenizer.fallback rest)).action.resolve host.settings
            (host.context scan scan (picked.getD (host.tokenizer.fallback rest))) =
          .ok (.token action) ∧ action.embedding = some .leave) := by
  have picking : ∀ {after : Scan} {found : Found} {taken : Trace},
      outcome (host.take scan) trace = (.ok (some (after, found)), taken) →
        after = { scan with due := false } ∧ ∃ rules rest picked,
          host.tokenizer.grammar.findRules? scan.stack.state = some rules ∧
            host.text.drop? scan.position = some rest ∧
            Tokenizer.Picks (host.tokenizer.IsFresh scan.stack.state) (scan.position == 0) rest
              rules picked ∧
            found = picked.getD (host.tokenizer.fallback rest) := by
    intro after found taken takes
    obtain ⟨same, searched⟩ := take_rules unpended takes
    exact ⟨same, Tokenizer.picks_of_findAt
      (fun sound anchors => Tokenizer.fresh_of_anchored injective known sound anchors) sound
      searched⟩
  cases step_cases done with
  | empty first none same silent =>
    rw [unpended] at first
    cases first
  | splits splits same =>
    have stays := splits.not_leaves
    obtain ⟨takes, leads, -⟩ := splits
    obtain ⟨rfl, rules, rest, picked, holding, cuts, picks, rfl⟩ := picking takes
    refine ⟨rules, rest, picked, holding, cuts, picks, fun leaves => absurd leaves stays, ?_⟩
    rintro ⟨action, resolves, -⟩
    cases leads.symm.trans resolves
  | @acts found action acts =>
    have exactly := acts.leaves_iff
    obtain ⟨takes, leads, -, -⟩ := acts
    obtain ⟨rfl, rules, rest, picked, holding, cuts, picks, rfl⟩ := picking takes
    refine ⟨rules, rest, picked, holding, cuts, picks, exactly.trans ⟨fun leaves =>
      ⟨action, leads, leaves⟩, ?_⟩⟩
    rintro ⟨other, resolves, leaves⟩
    cases leads.symm.trans resolves
    exact leaves

end HostLine

/-! ### The scan behind an embedded language -/

/-- What is left behind where the scan of a line starts. -/
def Job.opened (job : Job) (trace : Trace) : Trace :=
  { trace with events := trace.events.push (.language job.tokenizer.language) }

theorem Job.outcome_scanOwn (job : Job) (steps : Nat) (trace : Trace) :
    outcome (job.scanOwn steps) trace = outcome (job.host.run steps job.start) (job.opened trace) :=
  rfl

/-- A line state that is made has the stack and the embedded language that were asked for. -/
theorem lineState_ok {tokenizer : Tokenizer} {stack : Stack} {embedded : Option Embedded}
    {state : LineState} {trace later : Trace}
    (made : outcome (share tokenizer fun cache => cache.lineState stack embedded) trace =
      (.ok state, later)) : state.stack.names = stack.names ∧ state.embedded? = embedded := by
  cases made
  exact StateCache.content_lineState _ stack embedded

/-- The state behind the scan of a line has the embedded language that the scan ends in. -/
theorem Job.embedded?_of_handOver {registry : Option Registry} {job : Job} {stack : Stack}
    {embedded : Option Embedded} {state : LineState} {rest : Option Job} {trace later : Trace}
    (done : outcome (job.handOver registry (.lineEnd stack embedded)) trace =
      (.ok (state, rest), later)) : state.embedded? = embedded := by
  obtain ⟨made, _, makes, ends⟩ := outcome_bind_eq_ok.1 done
  cases ends
  exact (lineState_ok makes).2

/-- The state behind a scan that ends where a language starts has that language, as it starts, and
the stack that the scan ends with. -/
theorem Job.made_of_handOver {registry : Option Registry} {job : Job} {name : String}
    {position : Nat} {stack : Stack} {state : LineState} {rest : Option Job} {trace later : Trace}
    (done : outcome (job.handOver registry (.enter name position stack)) trace =
      (.ok (state, rest), later)) :
    ∃ embedded middle, outcome (job.tokenizer.embed registry name) trace = (.ok embedded, middle) ∧
      state.stack.names = stack.names ∧ state.embedded? = some embedded := by
  unfold handOver at done
  obtain ⟨embedded, middle, embeds, sharing⟩ := outcome_bind_eq_ok.1 done
  obtain ⟨made, _, makes, ends⟩ := outcome_bind_eq_ok.1 sharing
  have same : made = state := by
    split at ends
    · obtain ⟨_, _, -, ending⟩ := outcome_bind_eq_ok.1 ends
      cases ending
      rfl
    · cases ends
      rfl
  rw [← same]
  exact ⟨embedded, middle, embeds, lineState_ok makes⟩

namespace Work

open Job

variable {tokenizers : Set Tokenizer} {registry : Option Registry} {steps : Nat}
  {work inner : Work} {part : Job} {middle : Trace} {embedded : Embedded}

/-- A scan that starts where an embedded language is active starts where that language has been
found to end. -/
theorem Scans.exists_offset (inside : work.job.state.embedded? = some embedded)
    (scans : work.Scans registry steps part middle) :
    ∃ offset rest,
      work.job.tokenizer.leavingOffset? work.job.state.stack.state work.job.line =
        .ok (some offset) ∧
      work.job.line.drop? offset = some rest ∧ part = work.job.hostPart rest offset := by
  obtain ⟨offset, rest, cuts, same, ⟨outside, -⟩ | ⟨_, -, found⟩⟩ := scans.exists_drop?
  · cases inside.symm.trans outside
  · exact ⟨offset, rest, found, cuts, same⟩

/-- Where a scan leaves the embedded language, a line that comes to its end in the scan ends outside
of any; and where it does not, the line ends in the embedded language as it was before the line. -/
theorem Scans.embedded?_of_ends (inside : work.job.state.embedded? = some embedded)
    (scans : work.Scans registry steps part middle) {state : LineState} {last : Trace}
    (done : outcome (tokenizeWithin registry steps work.depth work.job) work.trace =
      (.ok state, last)) :
    (part.host.LeavesAtTurn part.start (part.opened middle) ∧
        ∀ {stack left scanned},
          outcome (part.scanOwn steps) middle = (.ok (.lineEnd stack left), scanned) →
          state.embedded? = none) ∨
      (¬ part.host.LeavesAtTurn part.start (part.opened middle) ∧
        state.embedded? = some embedded) := by
  obtain ⟨offset, rest, -, -, same⟩ := scans.exists_offset inside
  have starts : part.start.embedded = some embedded := by
    rw [same]
    exact inside
  cases scans with
  | opens opens =>
    rw [outcome_of_opens opens] at done
    obtain ⟨departure, scanned, departs, follows⟩ := outcome_bind_eq_ok.1 done
    obtain ⟨⟨made, left⟩, handed, hands, finishes⟩ := outcome_bind_eq_ok.1 follows
    have ends : ∀ {stack carried}, departure = .lineEnd stack carried →
        state.embedded? = carried := by
      rintro stack carried rfl
      cases handOver_lineEnd hands
      cases finishes
      exact embedded?_of_handOver hands
    rcases HostLine.embedded_of_run starts departs with ⟨leaves, gone⟩ | ⟨never, stack, kept⟩
    · refine Or.inl ⟨leaves, fun {stack carried scanned} departsToo => ?_⟩
      rw [departs] at departsToo
      cases departsToo
      rw [ends rfl, gone stack carried rfl]
    · exact Or.inr ⟨never, ends kept⟩

/-- Where an exit from an embedded language is taken. In the work on a line after any calls, the
scan of a line that is in an embedded language starts where a rule by which it ends has been found.
The first step leaves the language exactly where, of all rules in order, the first one that matches
there leads to a token that does. A line whose scan leaves the language at a turn and comes to the
end of the line ends outside of any; and a line whose scan never leaves it ends in the embedded
language as it was before the line. -/
theorem exit_taken_iff (injective : tokenizers.InjOn Tokenizer.identity) {calls : List Call}
    (known : ∀ call ∈ calls, Known tokenizers call.registry call.tokenizer)
    (remembers : work.trace.memories = .after calls)
    (takesPart : Known tokenizers registry work.job.tokenizer)
    (involves : Involves registry steps work inner)
    (inside : inner.job.state.embedded? = some embedded)
    (scans : inner.Scans registry steps part middle) :
    (∃ offset rest,
      inner.job.tokenizer.leavingOffset? inner.job.state.stack.state inner.job.line =
        .ok (some offset) ∧
      inner.job.line.drop? offset = some rest ∧ part = inner.job.hostPart rest offset) ∧
    (∀ {next later},
      outcome (part.host.step part.start) (part.opened middle) = (.ok next, later) →
      ∃ rules picked, part.tokenizer.grammar.findRules? part.state.stack.state = some rules ∧
        Tokenizer.Picks (part.tokenizer.IsFresh part.state.stack.state) true part.host.text rules
          picked ∧
        (part.host.Leaves part.start (part.opened middle) ↔ ∃ action,
          (picked.getD (part.tokenizer.fallback part.host.text)).action.resolve part.host.settings
              (part.host.context part.start part.start
                (picked.getD (part.tokenizer.fallback part.host.text))) =
            .ok (.token action) ∧ action.embedding = some .leave)) ∧
    ∀ {state last},
      outcome (tokenizeWithin registry steps inner.depth inner.job) inner.trace =
        (.ok state, last) →
      (part.host.LeavesAtTurn part.start (part.opened middle) ∧
          ∀ {stack left scanned},
            outcome (part.scanOwn steps) middle = (.ok (.lineEnd stack left), scanned) →
            state.embedded? = none) ∨
        (¬ part.host.LeavesAtTurn part.start (part.opened middle) ∧
          state.embedded? = some embedded) := by
  have sound : work.trace.memories.Sound tokenizers := by
    rw [remembers]
    exact sound_after injective known
  have innerKnown := involves.known takesPart
  have member : part.host.tokenizer ∈ tokenizers := scans.member innerKnown
  have opened : middle.memories.Sound tokenizers :=
    scans.sound injective innerKnown (involves.sound injective takesPart sound)
  refine ⟨scans.exists_offset inside, fun {next later} leads => ?_,
    fun {state last} done => scans.embedded?_of_ends inside done⟩
  obtain ⟨rules, rest, picked, holding, cuts, picks, exactly⟩ :=
    HostLine.leaves_iff injective member (show (part.opened middle).memories.Sound _ from opened)
      rfl leads
  rw [show part.start.position = 0 from rfl, Text.drop?_zero, Option.some.injEq] at cuts
  subst cuts
  exact ⟨rules, picked, holding, picks, exactly⟩

end Work

/-- The description of a grammar that sees line feeds and whose rule for the end of an embedded
language asks for the end of the text. -/
def lineFeedSource : String :=
  "\x7b\"includeLF\": true, \"tokenizer\": \x7b\"main\": [
    [\"<\", \x7b\"token\": \"open\", \"nextEmbedded\": \"js\"\x7d],
    [\"end$\", \x7b\"token\": \"close\", \"nextEmbedded\": \"@pop\"\x7d]]\x7d\x7d"

/-- A language that is not known. -/
def strange : Embedded := ⟨"js", none⟩

/-- A line that starts in that language. -/
def strangeJob (grammar : Grammar) : Job where
  tokenizer := { identity := 0, grammar }
  line := ['x', ' ', 'e', 'n', 'd']
  ended := true
  state := .unknown default (.root default grammar.start) "js"

/-- Whether the end of the language is found in the line, and the scan from there on and the line
end in the language. -/
def missesExit (grammar : Grammar) : Bool :=
  let job := strangeJob grammar
  (match job.tokenizer.leavingOffset? job.state.stack.state job.line with
    | .ok (some offset) => decide (offset = 2)
    | _ => false) &&
  (match outcome (job.openWith none (Job.tokenizeWithin none 50 1)) {} with
    | (.ok (.inr part), middle) =>
      match (outcome (part.scanOwn 50) middle).1 with
      | .ok (.lineEnd _ _) => true
      | _ => false
    | _ => false) &&
  match (outcome (Job.tokenizeWithin none 50 2 job) {}).1 with
  | .ok (.unknown _ _ language) => decide (language = "js")
  | _ => false

/-- The end of the language is found, and the line ends in it. -/
theorem exists_missesExit :
    ∃ grammar, (Grammar.compileText "toy" lineFeedSource false).result = .ok grammar ∧
      missesExit grammar = true :=
  Grammar.exists_of_compiles (Grammar.compileText "toy" lineFeedSource false) missesExit
    (by decide +kernel)

/-- What the check says of the line. -/
theorem of_missesExit {grammar : Grammar} (misses : missesExit grammar = true) :
    (strangeJob grammar).tokenizer.leavingOffset? (strangeJob grammar).state.stack.state
        (strangeJob grammar).line = .ok (some 2) ∧
      (∃ part middle, Work.Scans none 50 ⟨2, strangeJob grammar, {}⟩ part middle ∧
        ∃ stack left scanned,
          outcome (part.scanOwn 50) middle = (.ok (.lineEnd stack left), scanned)) ∧
      ∃ state last, outcome (Job.tokenizeWithin none 50 2 (strangeJob grammar)) {} =
        (.ok state, last) ∧ state.embedded? = some strange := by
  unfold missesExit at misses
  dsimp only at misses
  rw [Bool.and_eq_true, Bool.and_eq_true] at misses
  obtain ⟨⟨finds, scans⟩, ends⟩ := misses
  refine ⟨?_, ?_, ?_⟩
  · split at finds
    · next offset found =>
      rw [found, of_decide_eq_true finds]
    · cases finds
  · split at scans
    · next part middle opens =>
      split at scans
      · next stack left departs =>
        exact ⟨part, middle, .opens opens, stack, left, _, Prod.ext departs rfl⟩
      · cases scans
    · cases scans
  · split at ends
    · next identity stack language made =>
      refine ⟨_, _, Prod.ext made rfl, ?_⟩
      rw [of_decide_eq_true ends]
      rfl
    · cases ends

theorem Work.strangeJob_stays :
    ∃ (grammar : Grammar) (part : Job) (middle : Trace),
      Work.Scans none 50 ⟨2, strangeJob grammar, {}⟩ part middle ∧
        (∃ offset, (strangeJob grammar).tokenizer.leavingOffset?
          (strangeJob grammar).state.stack.state (strangeJob grammar).line = .ok (some offset)) ∧
        ¬ part.host.LeavesAtTurn part.start (part.opened middle) := by
  obtain ⟨grammar, -, misses⟩ := exists_missesExit
  obtain ⟨-, ⟨part, middle, scans, stack, left, scanned, departs⟩, state, last, done, carries⟩ :=
    of_missesExit misses
  have alone : Known {(strangeJob grammar).tokenizer} none (strangeJob grammar).tokenizer :=
    known_of_alone
  have uncalled : ∀ call ∈ ([] : List Call),
      Known {(strangeJob grammar).tokenizer} call.registry call.tokenizer :=
    List.forall_mem_nil _
  obtain ⟨⟨offset, rest, found, -⟩, -, ends⟩ := Work.exit_taken_iff (Set.injOn_singleton _ _)
    uncalled rfl alone Relation.ReflTransGen.refl rfl scans
  refine ⟨grammar, part, middle, scans, ⟨offset, found⟩, ?_⟩
  rcases ends done with ⟨-, outside⟩ | ⟨never, -⟩
  · have left := outside departs
    rw [carries] at left
    cases left
  · exact never

/-- The end of an embedded language may be found in a line that ends in that language as it was
before the line. -/
theorem Job.not_forall_exit_taken :
    ¬ ∀ (source : String) (grammar : Grammar) (registry : Option Registry) (steps depth : Nat)
      (job : Job) (embedded : Embedded) (offset : Nat) (trace last : Trace) (state : LineState),
      (Grammar.compileText "toy" source false).result = .ok grammar →
      job.tokenizer.grammar = grammar → job.state.embedded? = some embedded →
      job.tokenizer.leavingOffset? job.state.stack.state job.line = .ok (some offset) →
      outcome (tokenizeWithin registry steps depth job) trace = (.ok state, last) →
      state.embedded? ≠ some embedded := by
  intro leaves
  obtain ⟨grammar, compiles, misses⟩ := exists_missesExit
  obtain ⟨found, -, state, last, done, carries⟩ := of_missesExit misses
  exact leaves _ grammar none 50 2 (strangeJob grammar) strange 2 {} last state compiles rfl rfl
    found done carries

end LineLexer
