import LineLexer.Proofs.Work

/-!
**Where the work on a line is stopped.**

Apart from faults of a grammar, the work on a line is stopped in its own scan, behind that scan
where another language starts, or in a part of the work. An embedded language ends between
characters, so nothing else in it is stopped.

* `Never`: computations that never stop in a way;
* `Tokenizer.leavingOffset?_ok`: where an embedded language ends a line can be cut;
* `Job.openWith_stop_iff`: where what comes before the scan of a line is stopped;
* `Work.Stops`, `Work.Stops.leaving_own_or_gives`: where the work on a line is stopped;
* `Work.Gives.stops`: what stops the work on a part of a line stops the work on the line.
-/

namespace LineLexer

open Scanning

/-- Whether a computation stops with a fault of a grammar. -/
def Stop.IsFault : Stop → Prop
  | .fault _ => True
  | _ => False

/-! ### Computations that never stop in a way -/

namespace Scanning

variable {Result Other : Type} {stop : Stop}

/-- A computation that never stops in a way. -/
def Never (stop : Stop) (scanning : Scanning Result) : Prop :=
  ∀ trace later, outcome scanning trace ≠ (.error stop, later)

theorem never_pure (result : Result) : Never stop (pure result) := by
  intro trace later stopped
  cases stopped

theorem never_tell (event : Event) : Never stop (tell event) := by
  intro trace later stopped
  cases stopped

theorem never_note (entry : Note) : Never stop (note entry) := by
  intro trace later stopped
  cases stopped

theorem never_remember (tokenizer : Tokenizer) (operation : Memory → Result × Memory) :
    Never stop (remember tokenizer operation) := by
  intro trace later stopped
  cases stopped

theorem never_share (tokenizer : Tokenizer) (operation : StateCache → Result × StateCache) :
    Never stop (share tokenizer operation) := never_remember tokenizer _

/-- A check stops with faults only. -/
theorem never_settle (outer : ¬ stop.IsFault) (tokenizer : Tokenizer)
    (result : Except Fault Result) : Never stop (settle tokenizer result) := by
  intro trace later stopped
  obtain ⟨⟨fault, -, rfl⟩, -⟩ := outcome_settle_eq_error.1 stopped
  exact outer trivial

theorem never_cut (other : stop ≠ .cut) (part : Option Result) : Never stop (cut part) := by
  intro trace later stopped
  exact other (outcome_cut_eq_error.1 stopped).2.1

theorem never_cut_of_eq_some {part : Option Result} {value : Result} (cuts : part = some value) :
    Never stop (cut part) := by
  rw [cuts]
  exact never_pure value

/-- Parts that never stop make a whole that never does. -/
theorem never_bind {first : Scanning Other} {next : Other → Scanning Result}
    (never : Never stop first) (neverNext : ∀ value, Never stop (next value)) :
    Never stop (first >>= next) := by
  intro trace later stopped
  rcases outcome_bind_eq_error.1 stopped with early | ⟨value, middle, -, late⟩
  · exact never _ _ early
  · exact neverNext value _ _ late

/-- What follows and never stops leaves it to the first part whether the whole is stopped. -/
theorem outcome_bind_stop_iff {first : Scanning Other} {next : Other → Scanning Result}
    {trace later : Trace} (never : ∀ value, Never stop (next value)) :
    outcome (first >>= next) trace = (.error stop, later) ↔
      outcome first trace = (.error stop, later) := by
  rw [outcome_bind_eq_error]
  constructor
  · rintro (early | ⟨value, middle, -, late⟩)
    · exact early
    · exact absurd late (never value _ _)
  · exact Or.inl

theorem never_map {scanning : Scanning Other} {change : Other → Result}
    (never : Never stop scanning) : Never stop (change <$> scanning) := by
  rw [map_eq_pure_bind]
  exact never_bind never fun _ => never_pure _

end Scanning

/-! ### Steps -/

section

variable {stop : Stop}

theorem HostLine.never_changeStack (tokenizer : Tokenizer) (stack : Stack)
    (change : StackChange) : Never stop (changeStack tokenizer stack change) := by
  unfold changeStack
  cases change with
  | push state => exact never_share tokenizer _
  | switchTo state => exact never_share tokenizer _
  | keep => exact never_pure _
  | pop => exact never_pure _
  | toRoot => exact never_pure _

variable (outer : ¬ stop.IsFault)

include outer

theorem Tokenizer.never_firstMatch (tokenizer : Tokenizer) (state : String) (atStart : Bool)
    (rest : Text) (rules : List Rule) :
    Never stop (tokenizer.firstMatch state atStart rest rules) := by
  induction rules with
  | nil => exact never_pure none
  | cons rule rules step =>
    unfold firstMatch
    split
    · exact step
    · refine never_bind (never_bind (never_remember _ _) fun _ => never_settle outer _ _)
        fun regex => ?_
      split
      · exact never_pure _
      · exact step

theorem HostLine.never_conclude (host : HostLine) (scan : Scan) (found : Found)
    (action : TokenAction) (token : String) (changed : Scan) (entering : Option String) :
    Never stop (host.conclude scan found action token changed entering) := by
  unfold conclude
  split
  · split
    · exact never_pure _
    · exact never_settle outer _ _
  · refine never_bind (never_settle outer _ _) fun classified =>
      never_bind ?_ fun _ => never_pure _
    unfold tellToken
    split
    · exact never_tell _
    · exact never_pure _

/-- A token needs a cut only if it makes characters be read again. -/
theorem HostLine.never_transit {host : HostLine} {after : Scan} {found : Found}
    {context : MatchContext} {action : TokenAction}
    (forward : stop = .cut → action.goBack = none) :
    Never stop (host.transit after found context action) := by
  unfold transit
  refine never_bind (never_settle outer _ _) fun embedding => ?_
  refine never_bind ?_ fun position => ?_
  · by_cases cutting : stop = .cut
    · rw [forward cutting]
      exact never_cut_of_eq_some (if_pos rfl)
    · exact never_cut cutting _
  refine never_bind (never_settle outer _ _) fun change => ?_
  refine never_bind (never_changeStack _ _ _) fun stack => ?_
  split
  · exact never_bind (never_note _) fun _ => never_pure _
  · exact never_pure _

/-- What a match leads to needs a cut only if it makes characters be read again. -/
theorem HostLine.never_apply {host : HostLine} {scan after : Scan} {found : Found}
    (forward : stop = .cut → found.action.goesBack = false) :
    Never stop (host.apply scan after found) := by
  intro trace later stopped
  unfold apply at stopped
  rcases outcome_bind_eq_error.1 stopped with resolving | ⟨resolved, middle, resolving, acting⟩
  · exact never_settle outer _ _ _ _ resolving
  · have leads := mapError_eq_ok.1 (outcome_settle_eq_ok.1 resolving).1
    cases resolved with
    | group members => exact never_map (never_settle outer _ _) _ _ acting
    | token action =>
      dsimp only at acting
      rw [applyToken_eq] at acting
      refine never_bind (never_transit outer fun cutting => goBack_eq_none (forward cutting) leads)
        (fun _ => never_conclude outer _ _ _ _ _ _ _) _ _ acting

variable (whole : stop ≠ .cut)

include whole

theorem Tokenizer.never_findAt (tokenizer : Tokenizer) (text : Text) (position : Nat)
    (state : String) : Never stop (tokenizer.findAt text position state) := by
  unfold findAt
  split
  · exact never_settle outer _ _
  · refine never_bind (never_cut whole _) fun rest => ?_
    exact never_bind (tokenizer.never_firstMatch outer _ _ _ _) fun _ => never_pure _

/-- A step stops with faults and failed cuts only. -/
theorem HostLine.never_step (host : HostLine) (scan : Scan) : Never stop (host.step scan) := by
  rw [step_eq]
  refine never_bind ?_ fun taken => ?_
  · unfold take
    split
    · split <;> exact never_pure _
    · exact never_map (Tokenizer.never_findAt outer whole _ _ _ _)
  · cases taken with
    | none => exact never_pure _
    | some pair => exact never_apply outer fun cutting => absurd cutting whole

end

/-! ### Where embedded languages end -/

namespace Tokenizer

variable {tokenizer : Tokenizer} {state : String} {line : Text}

/-- A rule is searched for between characters. -/
theorem exit?_ok {rule : Rule} {offset : Nat}
    (found : tokenizer.exit? state line rule = .ok (some offset)) :
    ∃ count, offset = Text.size (line.take count) := by
  unfold exit? at found
  split at found
  · cases found
  · split at found
    · cases found
    · next place _ =>
      split at found
      · cases found
      · cases found
        exact ⟨place.start, rfl⟩

theorem exits_ok {rules : List Rule} {offsets : List Nat}
    (found : tokenizer.exits state line rules = .ok offsets) {offset : Nat}
    (inside : offset ∈ offsets) : ∃ count, offset = Text.size (line.take count) := by
  induction rules generalizing offsets with
  | nil =>
    cases found
    cases inside
  | cons rule rules step =>
    unfold exits at found
    cases first : tokenizer.exit? state line rule with
    | error fault =>
      rw [first] at found
      cases found
    | ok exit =>
      cases rest : tokenizer.exits state line rules with
      | error fault =>
        rw [first, rest] at found
        cases found
      | ok others =>
        rw [first, rest] at found
        cases found
        rcases List.mem_append.1 inside with here | later
        · cases exit with
          | none => cases here
          | some place =>
            rw [Option.toList_some, List.mem_singleton] at here
            rw [here]
            exact exit?_ok first
        · exact step rest later

/-- An embedded language ends between characters, so a line can be cut there. -/
theorem leavingOffset?_ok {offset : Nat}
    (found : tokenizer.leavingOffset? state line = .ok (some offset)) :
    ∃ before after, line.take? offset = some before ∧ line.drop? offset = some after := by
  unfold leavingOffset? at found
  split at found
  · cases found
  · next rules holding =>
    split at found
    · cases found
    · cases listed : tokenizer.exits state line (rules.filter Rule.leavesEmbedded) with
      | error fault =>
        rw [listed] at found
        cases found
      | ok offsets =>
        rw [listed] at found
        have least : offsets.min? = some offset := by simpa [Except.map] using found
        obtain ⟨count, rfl⟩ := exits_ok listed (List.min?_mem least)
        refine ⟨line.take count, line.drop count, ?_, ?_⟩
        · exact Text.take?_eq_some_iff.2 ⟨rfl, line.drop count, List.take_append_drop count line⟩
        · exact Text.drop?_eq_some_iff.2 ⟨line.take count, rfl, List.take_append_drop count line⟩

theorem never_embed {stop : Stop} (tokenizer : Tokenizer) (registry : Option Registry)
    (name : String) : Never stop (tokenizer.embed registry name) := by
  unfold embed
  dsimp only
  split
  · exact never_bind (never_bind (never_share _ _) fun _ => never_share _ _) fun _ => never_pure _
  · exact never_pure _

end Tokenizer

/-! ### The work on a line -/

namespace Job

variable {registry : Option Registry} {steps : Nat} {job part : Job} {trace later : Trace}
  {tokenizeLine : Job → Scanning LineState} {stop : Stop}

/-- The rest of a line is handed over unless a cut fails. -/
theorem never_handOver (whole : stop ≠ .cut) (registry : Option Registry) (job : Job)
    (departure : Departure) : Never stop (job.handOver registry departure) := by
  cases departure with
  | lineEnd stack embedded => exact never_bind (never_share _ _) fun _ => never_pure _
  | enter name position stack =>
    refine never_bind (Tokenizer.never_embed _ _ _) fun embedded => ?_
    refine never_bind (never_share _ _) fun state => ?_
    split
    · exact never_bind (never_cut whole _) fun _ => never_pure _
    · exact never_pure _

theorem unlessLong_stop_iff :
    outcome (unlessLong tokenizeLine job) trace = (.error stop, later) ↔
      job.line.size ≤ job.tokenizer.limits.lineLength ∧
        outcome (tokenizeLine job) trace = (.error stop, later) := by
  unfold unlessLong
  split
  · next long =>
    constructor
    · intro stopped
      cases stopped
    · rintro ⟨short, -⟩
      omega
  · next short => exact ⟨fun stopped => ⟨Nat.le_of_not_lt short, stopped⟩, And.right⟩

/-- An embedded language is stopped exactly where its own work is. -/
theorem delegate_stop_iff {embedded : Embedded} :
    outcome (job.delegate registry tokenizeLine embedded) trace = (.error stop, later) ↔
      ∃ guest, job.guestJob? registry embedded = some guest ∧
        guest.line.size ≤ guest.tokenizer.limits.lineLength ∧
        outcome (tokenizeLine guest) trace = (.error stop, later) := by
  rw [delegate_eq]
  cases job.guestJob? registry embedded with
  | none =>
    constructor
    · intro stopped
      cases stopped
    · rintro ⟨guest, known, -⟩
      cases known
  | some guest =>
    dsimp only
    rw [outcome_map_eq_error, unlessLong_stop_iff]
    constructor
    · intro stopped
      exact ⟨guest, rfl, stopped⟩
    · rintro ⟨other, same, stopped⟩
      cases same
      exact stopped

/-- What comes before the scan of a line is stopped exactly where the search for the end of the
embedded language fails, or the work of that language is stopped. -/
theorem openWith_stop_iff :
    outcome (job.openWith registry tokenizeLine) trace = (.error stop, later) ↔
      ∃ embedded, job.state.embedded? = some embedded ∧
        ((∃ fault, job.tokenizer.leavingOffset? job.state.stack.state job.line = .error fault ∧
            stop = .fault ⟨job.tokenizer.language, fault⟩ ∧ later = trace) ∨
          (job.tokenizer.leavingOffset? job.state.stack.state job.line = .ok none ∧
            outcome (job.delegate registry tokenizeLine embedded) trace = (.error stop, later)) ∨
          ∃ offset line, job.tokenizer.leavingOffset? job.state.stack.state job.line =
              .ok (some offset) ∧ 0 < offset ∧ job.line.take? offset = some line ∧
            outcome ((job.guestPart line).delegate registry tokenizeLine embedded) trace =
              (.error stop, later)) := by
  unfold openWith
  cases job.state.embedded? with
  | none =>
    constructor
    · intro stopped
      cases stopped
    · rintro ⟨embedded, inside, -⟩
      cases inside
  | some embedded =>
    dsimp only
    cases searched : job.tokenizer.leavingOffset? job.state.stack.state job.line with
    | error fault =>
      constructor
      · intro stopped
        cases stopped
        exact ⟨embedded, rfl, Or.inl ⟨fault, rfl, rfl, rfl⟩⟩
      · rintro ⟨_, -, ⟨_, fails, rfl, rfl⟩ | ⟨stays, -⟩ | ⟨_, _, leaves, -⟩⟩
        · cases fails
          rfl
        · cases stays
        · cases leaves
    | ok leaving =>
      rw [outcome_bind_of_ok (outcome_settle_eq_ok.2 ⟨rfl, rfl⟩)]
      cases leaving with
      | none =>
        rw [outcome_bind_stop_iff fun _ => never_map (never_share _ _)]
        constructor
        · intro stopped
          exact ⟨embedded, rfl, Or.inr (Or.inl ⟨rfl, stopped⟩)⟩
        · rintro ⟨_, same, ⟨_, fails, -⟩ | ⟨-, stopped⟩ | ⟨_, _, leaves, -⟩⟩
          · cases fails
          · cases same
            exact stopped
          · cases leaves
      | some offset =>
        obtain ⟨before, after, taken, dropped⟩ := Tokenizer.leavingOffset?_ok searched
        have ending : Never stop (do
            let rest ← cut (job.line.drop? offset)
            pure (.inr (job.hostPart rest offset)) : Scanning (LineState ⊕ Job)) :=
          never_bind (never_cut_of_eq_some dropped) fun _ => never_pure _
        dsimp only
        split
        · next positive =>
          rw [taken, outcome_bind_of_ok (outcome_cut_eq_ok.2 ⟨rfl, rfl⟩),
            outcome_bind_stop_iff fun _ => ending]
          constructor
          · intro stopped
            exact ⟨embedded, rfl, Or.inr (Or.inr ⟨offset, before, rfl, positive, taken, stopped⟩)⟩
          · rintro ⟨_, same, ⟨_, fails, -⟩ | ⟨stays, -⟩ | ⟨_, _, leaves, -, took, stopped⟩⟩
            · cases fails
            · cases stays
            · cases same
              cases leaves
              cases taken.symm.trans took
              exact stopped
        · next start =>
          constructor
          · intro stopped
            exact absurd stopped (ending _ _)
          · rintro ⟨_, -, ⟨_, fails, -⟩ | ⟨stays, -⟩ | ⟨_, _, leaves, positive, -⟩⟩
            · cases fails
            · cases stays
            · cases leaves
              exact absurd positive start

end Job

namespace Work

open Job

variable {registry : Option Registry} {steps : Nat} {work inner : Work} {stop : Stop}

/-- The work on a line is stopped in a way. -/
def Stops (registry : Option Registry) (steps : Nat) (stop : Stop) (work : Work) : Prop :=
  ∃ later, outcome (tokenizeWithin registry steps work.depth work.job) work.trace =
    (.error stop, later)

/-- The work on a line is stopped in its scan, or behind the scan where the rest of the line is
handed over. -/
inductive StopsItself (registry : Option Registry) (steps : Nat) (stop : Stop) (work : Work) :
    Prop where
  | scan {part : Job} {middle later : Trace} (scans : work.Scans registry steps part middle)
      (stopped : outcome (part.scanOwn steps) middle = (.error stop, later))
  | handOver {part : Job} {middle scanned later : Trace} {departure : Departure}
      (scans : work.Scans registry steps part middle)
      (departs : outcome (part.scanOwn steps) middle = (.ok departure, scanned))
      (stopped : outcome (part.handOver registry departure) scanned = (.error stop, later))

/-- Work that is stopped in itself is stopped. -/
theorem StopsItself.stops (itself : work.StopsItself registry steps stop) :
    work.Stops registry steps stop := by
  rcases itself with @⟨part, middle, later, scans, stopped⟩ |
    @⟨part, middle, scanned, later, departure, scans, departs, stopped⟩
  · cases scans with
    | opens opens =>
      refine ⟨later, ?_⟩
      rw [outcome_of_opens opens]
      exact outcome_bind_eq_error.2 (Or.inl stopped)
  · cases scans with
    | opens opens =>
      refine ⟨later, ?_⟩
      rw [outcome_of_opens opens, outcome_bind_of_ok departs]
      exact outcome_bind_eq_error.2 (Or.inl stopped)

/-- What stops the work on a part of a line stops the work on the line. -/
theorem Gives.stops (gives : Gives registry steps work inner)
    (stops : inner.Stops registry steps stop) : work.Stops registry steps stop := by
  obtain ⟨later, stopped⟩ := stops
  refine ⟨later, ?_⟩
  cases gives with
  | whole inside stays known short =>
    rw [tokenizeWithin, advance_eq]
    refine outcome_bind_eq_error.2
      (Or.inl (openWith_stop_iff.2 ⟨_, inside, Or.inr (Or.inl ⟨stays, ?_⟩)⟩))
    exact delegate_stop_iff.2 ⟨_, known, short, stopped⟩
  | before inside leaves positive taken known short =>
    rw [tokenizeWithin, advance_eq]
    refine outcome_bind_eq_error.2 (Or.inl (openWith_stop_iff.2
      ⟨_, inside, Or.inr (Or.inr ⟨_, _, leaves, positive, taken, ?_⟩)⟩))
    exact delegate_stop_iff.2 ⟨_, known, short, stopped⟩
  | behind scans departs hands =>
    cases scans with
    | opens opens =>
      rw [outcome_of_opens opens, outcome_bind_of_ok departs, outcome_bind_of_ok hands]
      exact stopped

/-- Work that is stopped fails in the search for the end of the embedded language, or it is stopped
in itself, or one of its parts is, unless its parts may not nest at all. -/
theorem Stops.leaving_own_or_gives (deep : work.depth ≠ 0)
    (stops : work.Stops registry steps stop) :
    (∃ embedded fault, work.job.state.embedded? = some embedded ∧
        work.job.tokenizer.leavingOffset? work.job.state.stack.state work.job.line =
          .error fault ∧ stop = .fault ⟨work.job.tokenizer.language, fault⟩) ∨
      work.StopsItself registry steps stop ∨
      ∃ inner, Gives registry steps work inner ∧ inner.depth + 1 = work.depth ∧
        inner.Stops registry steps stop := by
  obtain ⟨later, stopped⟩ := stops
  obtain ⟨_ | depth, job, trace⟩ := work
  · exact absurd rfl deep
  · dsimp only at stopped
    rw [tokenizeWithin, advance_eq] at stopped
    rcases outcome_bind_eq_error.1 stopped with opening | ⟨opened, middle, opens, scanning⟩
    · obtain ⟨embedded, inside, ⟨fault, fails, same, -⟩ | ⟨stays, delegates⟩ |
        ⟨offset, line, leaves, positive, taken, delegates⟩⟩ := openWith_stop_iff.1 opening
      · exact Or.inl ⟨embedded, fault, inside, fails, same⟩
      · obtain ⟨guest, known, short, works⟩ := delegate_stop_iff.1 delegates
        exact Or.inr (Or.inr
          ⟨⟨depth, guest, trace⟩, .whole inside stays known short, rfl, later, works⟩)
      · obtain ⟨guest, known, short, works⟩ := delegate_stop_iff.1 delegates
        exact Or.inr (Or.inr ⟨⟨depth, guest, trace⟩,
          .before inside leaves positive taken known short, rfl, later, works⟩)
    · cases opened with
      | inl state => cases scanning
      | inr part =>
        have scans : Scans registry steps ⟨depth + 1, job, trace⟩ part middle := .opens opens
        rw [Sum.elim_inr, scanHost_eq] at scanning
        rcases outcome_bind_eq_error.1 scanning with running | ⟨departure, scanned, departs, behind⟩
        · exact Or.inr (Or.inl (.scan scans running))
        · rcases outcome_bind_eq_error.1 behind with handing | ⟨⟨state, rest⟩, handed, hands, ends⟩
          · exact Or.inr (Or.inl (.handOver scans departs handing))
          · cases rest with
            | none => cases ends
            | some rest =>
              exact Or.inr (Or.inr
                ⟨⟨depth, rest, handed⟩, .behind scans departs hands, rfl, later, ends⟩)

/-- Faults apart, work that is stopped is stopped in itself, or one of its parts is, unless its
parts may not nest at all. -/
theorem Stops.own_or_gives (outer : ¬ stop.IsFault) (deep : work.depth ≠ 0)
    (stops : work.Stops registry steps stop) :
    work.StopsItself registry steps stop ∨
      ∃ inner, Gives registry steps work inner ∧ inner.depth + 1 = work.depth ∧
        inner.Stops registry steps stop := by
  refine (stops.leaving_own_or_gives deep).resolve_left ?_
  rintro ⟨_, fault, -, -, rfl⟩
  exact outer trivial

end Work

end LineLexer
