import LineLexer.Proofs.Step
import LineLexer.Tokenizer.Line
import Mathlib.Logic.Relation

/-!
**The work on a line, taken apart.**

A scan takes turns, one step each. The work on a line is at most one such scan, and before or behind
it there may be work on a part of the line in another language.

* `HostLine.turn?`: where a scan stands before a turn;
* `outcome_run_succ`, `run_of_turn?`: a run is its first turn and a shorter run;
* `Job.openWith`, `Job.scanOwn`, `Job.handOver`, `Job.advance_eq`: what comes before the scan of a
  line, the scan, and what comes behind it;
* `Work`, `Work.Gives`, `Work.Scans`: the parts of the work on a line, and the scan in it;
* `TakesPart`: the tokenizers that may work on a line;
* `Job.allTurns`, `Work.check_of_allTurns`: a check of all turns of a line that is one scan.
-/

namespace LineLexer

open Scanning

/-! ### Turns -/

namespace HostLine

/-- Where a scan stands before a turn, and what has been left behind by then, if the scan comes to
that turn. Turns are counted from zero. -/
def turn? (host : HostLine) : Nat → Scan → Trace → Option (Scan × Trace)
  | 0, scan, trace => if host.isDue scan then some (scan, trace) else none
  | turns + 1, scan, trace =>
    if host.isDue scan then
      match outcome (host.step scan) trace with
      | (.ok (.goOn next), later) => host.turn? turns next later
      | _ => none
    else none

variable {host : HostLine} {scan reached : Scan} {trace middle later : Trace} {steps turns : Nat}

theorem turn?_zero (due : host.isDue scan = true) : host.turn? 0 scan trace = some (scan, trace) :=
  if_pos due

/-- The turns behind a step are those of the scan that it leads to. -/
theorem turn?_succ {next : Scan} (due : host.isDue scan = true)
    (leads : outcome (host.step scan) trace = (.ok (.goOn next), middle)) :
    host.turn? (turns + 1) scan trace = host.turn? turns next middle := by
  rw [turn?, if_pos due, leads]

/-- The first turn is where the scan stands. -/
theorem eq_of_turn?_zero (comes : host.turn? 0 scan trace = some (reached, later)) :
    host.isDue scan = true ∧ reached = scan ∧ later = trace := by
  rw [turn?] at comes
  split at comes
  · next due =>
    cases comes
    exact ⟨due, rfl, rfl⟩
  · cases comes

/-- A later turn lies behind a step that goes on. -/
theorem exists_of_turn?_succ (comes : host.turn? (turns + 1) scan trace = some (reached, later)) :
    host.isDue scan = true ∧ ∃ next middle,
      outcome (host.step scan) trace = (.ok (.goOn next), middle) ∧
        host.turn? turns next middle = some (reached, later) := by
  rw [turn?] at comes
  split at comes
  · next due =>
    split at comes
    · next next middle leads => exact ⟨due, next, middle, leads, comes⟩
    · cases comes
  · cases comes

/-- What holds before the first turn and is kept by steps holds before each turn. -/
theorem turn?_invariant (holds : Scan → Trace → Prop)
    (kept : ∀ {scan next : Scan} {trace later : Trace}, holds scan trace →
      outcome (host.step scan) trace = (.ok (.goOn next), later) → holds next later)
    (start : holds scan trace) (comes : host.turn? turns scan trace = some (reached, later)) :
    holds reached later := by
  induction turns generalizing scan trace with
  | zero =>
    obtain ⟨-, rfl, rfl⟩ := eq_of_turn?_zero comes
    exact start
  | succ turns step =>
    obtain ⟨-, next, middle, leads, rest⟩ := exists_of_turn?_succ comes
    exact step (kept start leads) rest

/-- A turn behind another one is a turn of the scan that comes to the first one. -/
theorem turn?_add (host : HostLine) (turns more : Nat) (scan : Scan) (trace : Trace) :
    host.turn? (turns + more) scan trace =
      (host.turn? turns scan trace).bind fun reached => host.turn? more reached.1 reached.2 := by
  induction turns generalizing scan trace with
  | zero =>
    rw [Nat.zero_add, turn?]
    split
    · rfl
    · next finished =>
      cases more <;> exact if_neg finished
  | succ turns step =>
    rw [Nat.add_right_comm, turn?, turn?]
    split
    · split
      · exact step _ _
      · rfl
    · rfl

theorem isDue_of_turn? (comes : host.turn? turns scan trace = some (reached, later)) :
    host.isDue reached = true := by
  induction turns generalizing scan trace with
  | zero =>
    obtain ⟨due, rfl, -⟩ := eq_of_turn?_zero comes
    exact due
  | succ turns step =>
    obtain ⟨-, next, middle, -, rest⟩ := exists_of_turn?_succ comes
    exact step rest

/-- A run is its first turn, if a step is due, and a shorter run. -/
theorem outcome_run_succ (host : HostLine) (steps : Nat) (scan : Scan) (trace : Trace) :
    outcome (host.run (steps + 1) scan) trace =
      if host.isDue scan then
        match outcome (host.step scan) trace with
        | (.ok (.goOn next), later) => outcome (host.run steps next) later
        | (.ok (.enter name position stack), later) => (.ok (.enter name position stack), later)
        | (.error stop, later) => (.error stop, later)
      else (.ok (.lineEnd scan.stack scan.embedded), trace) := by
  rw [run]
  split
  · rw [outcome_bind]
    rcases outcome (host.step scan) trace with ⟨_ | next, later⟩
    · rfl
    · cases next <;> rfl
  · rfl

/-- A run that comes to a turn goes on from there. -/
theorem run_of_turn? (steps : Nat)
    (comes : host.turn? turns scan trace = some (reached, later)) :
    outcome (host.run (turns + steps) scan) trace = outcome (host.run steps reached) later := by
  induction turns generalizing scan trace with
  | zero =>
    obtain ⟨-, rfl, rfl⟩ := eq_of_turn?_zero comes
    rw [Nat.zero_add]
  | succ turns step =>
    obtain ⟨due, next, middle, leads, rest⟩ := exists_of_turn?_succ comes
    rw [Nat.add_right_comm, outcome_run_succ, if_pos due, leads]
    exact step rest

/-- How a run ends that ends with a departure: at the end of the line, with a step behind which a
language starts, or with the rest of the run. -/
theorem run_ok_induction (holds : Scan → Trace → Departure → Trace → Prop)
    (ended : ∀ {scan trace}, host.isDue scan = false →
      holds scan trace (.lineEnd scan.stack scan.embedded) trace)
    (entered : ∀ {scan trace name position stack later},
      outcome (host.step scan) trace = (.ok (.enter name position stack), later) →
      holds scan trace (.enter name position stack) later)
    (wentOn : ∀ {scan trace next middle departure later},
      outcome (host.step scan) trace = (.ok (.goOn next), middle) →
      holds next middle departure later → holds scan trace departure later)
    {departure : Departure}
    (done : outcome (host.run steps scan) trace = (.ok departure, later)) :
    holds scan trace departure later := by
  induction steps generalizing scan trace with
  | zero => cases done
  | succ steps step =>
    rw [outcome_run_succ] at done
    split at done
    · split at done
      · next leads => exact wentOn leads (step done)
      · next leads =>
        cases done
        exact entered leads
      · cases done
    · next finished =>
      cases done
      exact ended (by simpa using finished)

end HostLine

/-! ### The parts of the work on a line -/

namespace Job

/-- A line as the grammar of its tokenizer scans it. -/
def host (job : Job) : HostLine := .make job.tokenizer job.line job.ended job.shift

/-- Where the scan of a line starts. -/
def start (job : Job) : Scan where
  position := 0
  stack := job.state.stack
  embedded := job.state.embedded?

/-- The scan of a line by the rules of its tokenizer. -/
def scanOwn (steps : Nat) (job : Job) : Scanning Departure := do
  tell (.language job.tokenizer.language)
  job.host.run steps job.start

/-- What follows the scan of a line: the state behind it, and the rest of the line if that is in
another language. -/
def handOver (registry : Option Registry) (job : Job) :
    Departure → Scanning (LineState × Option Job)
  | .lineEnd stack embedded => do
    let state ← share job.tokenizer fun cache => cache.lineState stack embedded
    pure (state, none)
  | .enter name position stack => do
    let embedded ← job.tokenizer.embed registry name
    let state ← share job.tokenizer fun cache => cache.lineState stack (some embedded)
    if position < job.line.size then do
      let rest ← cut (job.line.drop? position)
      pure (state, some { job with line := rest, state, shift := job.shift + position })
    else pure (state, none)

/-- What is left of the work on a line behind the scan in it. -/
def finish (tokenizeLine : Job → Scanning LineState) : LineState × Option Job → Scanning LineState
  | (state, none) => pure state
  | (_, some rest) => tokenizeLine rest

/-- A scan, and then the rest of the line. -/
theorem scanHost_eq (registry : Option Registry) (steps : Nat)
    (tokenizeLine : Job → Scanning LineState) (job : Job) :
    job.scanHost registry steps tokenizeLine =
      job.scanOwn steps >>= fun departure =>
        job.handOver registry departure >>= finish tokenizeLine := by
  unfold scanHost scanOwn
  simp only [bind_assoc]
  refine congrArg _ (funext fun _ => ?_)
  refine congrArg _ (funext fun departure => ?_)
  cases departure with
  | lineEnd stack embedded =>
    unfold handOver
    simp only [bind_assoc, pure_bind]
    exact (bind_pure _).symm
  | enter name position stack =>
    unfold handOver
    simp only [bind_assoc]
    refine congrArg _ (funext fun embedded => ?_)
    refine congrArg _ (funext fun state => ?_)
    split
    · simp only [bind_assoc, pure_bind]
      rfl
    · rw [pure_bind]
      rfl

/-- The line as the tokenizer of an embedded language gets it, if that language is known. -/
def guestJob? (registry : Option Registry) (job : Job) (embedded : Embedded) : Option Job :=
  match embedded.state,
    (job.tokenizer.languages? registry).bind (·.tokenizer? embedded.language) with
  | some state, some guest => some { job with tokenizer := guest, state }
  | _, _ => none

/-- A line goes to the tokenizer of the embedded language, or it stays unclassified. -/
theorem delegate_eq (registry : Option Registry) (tokenizeLine : Job → Scanning LineState)
    (job : Job) (embedded : Embedded) :
    job.delegate registry tokenizeLine embedded =
      match job.guestJob? registry embedded with
      | some guest => some <$> unlessLong tokenizeLine guest
      | none => skip embedded.language job.shift >>= fun _ => pure embedded.state := by
  unfold delegate guestJob?
  cases embedded.state with
  | none => rfl
  | some state =>
    cases (job.tokenizer.languages? registry).bind (·.tokenizer? embedded.language) <;> rfl

/-- The part of a line before the place where the embedded language ends. -/
def guestPart (job : Job) (line : Text) : Job := { job with line, ended := false }

/-- The part of a line from the place on where the embedded language ends. -/
def hostPart (job : Job) (line : Text) (offset : Nat) : Job :=
  { job with line, shift := job.shift + offset }

/-- What comes before the scan of a line: either all of the line goes to the embedded language, or
the scan starts where that language ends. -/
def openWith (registry : Option Registry) (tokenizeLine : Job → Scanning LineState) (job : Job) :
    Scanning (LineState ⊕ Job) :=
  match job.state.embedded? with
  | none => pure (.inr job)
  | some embedded => do
    let leaving ← settle job.tokenizer
      (job.tokenizer.leavingOffset? job.state.stack.state job.line)
    match leaving with
    | none => do
      let state ← job.delegate registry tokenizeLine embedded
      .inl <$> share job.tokenizer fun cache =>
        cache.lineState job.state.stack (some { embedded with state })
    | some offset => do
      if 0 < offset then
        let line ← cut (job.line.take? offset)
        let _ ← (job.guestPart line).delegate registry tokenizeLine embedded
      let rest ← cut (job.line.drop? offset)
      pure (.inr (job.hostPart rest offset))

/-- The work on a line is what comes before a scan, and then that scan, if there is one. -/
theorem advance_eq (registry : Option Registry) (steps : Nat)
    (tokenizeLine : Job → Scanning LineState) (job : Job) :
    job.advance registry steps tokenizeLine =
      job.openWith registry tokenizeLine >>=
        Sum.elim pure (scanHost registry steps tokenizeLine) := by
  unfold advance openWith
  cases job.state.embedded? with
  | none => rfl
  | some embedded =>
    simp only [bind_assoc]
    refine congrArg _ (funext fun leaving => ?_)
    cases leaving with
    | none =>
      simp only [bind_assoc, bind_map_left]
      refine congrArg _ (funext fun state => ?_)
      exact (bind_pure _).symm
    | some offset =>
      dsimp only
      split
      · simp only [bind_assoc, pure_bind]
        rfl
      · simp only [bind_assoc, pure_bind]
        rfl

variable {registry : Option Registry} {steps : Nat} {job part : Job} {trace later : Trace}
  {tokenizeLine : Job → Scanning LineState}

/-- Behind what comes before it, the work on a line is its scan and what that leaves. -/
theorem outcome_of_opens {depth : Nat} {middle : Trace}
    (opens : outcome (job.openWith registry (tokenizeWithin registry steps depth)) trace =
      (.ok (.inr part), middle)) :
    outcome (tokenizeWithin registry steps (depth + 1) job) trace =
      outcome (part.scanOwn steps >>= fun departure =>
        part.handOver registry departure >>= finish (tokenizeWithin registry steps depth))
        middle := by
  rw [tokenizeWithin, advance_eq, outcome_bind_of_ok opens, Sum.elim_inr, scanHost_eq]

theorem quiet_initialState (tokenizer : Tokenizer) : Quiet tokenizer.initialState :=
  quiet_bind (quiet_share _ _) fun _ => quiet_share _ _

theorem quiet_embed (tokenizer : Tokenizer) (registry : Option Registry) (name : String) :
    Quiet (tokenizer.embed registry name) := by
  unfold Tokenizer.embed
  dsimp only
  split
  · exact quiet_bind (quiet_initialState _) fun _ => quiet_pure _
  · exact quiet_pure _

theorem quiet_handOver (registry : Option Registry) (job : Job) (departure : Departure) :
    Quiet (job.handOver registry departure) := by
  cases departure with
  | lineEnd stack embedded => exact quiet_bind (quiet_share _ _) fun _ => quiet_pure _
  | enter name position stack =>
    refine quiet_bind (quiet_embed _ _ _) fun embedded => ?_
    refine quiet_bind (quiet_share _ _) fun state => ?_
    split
    · exact quiet_bind (quiet_cut _) fun _ => quiet_pure _
    · exact quiet_pure _

/-- The end of the line leaves no rest. -/
theorem handOver_lineEnd {stack : Stack} {embedded : Option Embedded} {state : LineState}
    {rest : Option Job}
    (done : outcome (job.handOver registry (.lineEnd stack embedded)) trace =
      (.ok (state, rest), later)) : rest = none := by
  cases done
  rfl

/-- Where a language starts inside the line, the rest of the line is left. -/
theorem handOver_enter {name : String} {position : Nat} {stack : Stack} {state : LineState}
    {rest : Option Job}
    (done : outcome (job.handOver registry (.enter name position stack)) trace =
      (.ok (state, rest), later)) :
    (rest = none ∧ job.line.size ≤ position) ∨
      (position < job.line.size ∧ ∃ line, job.line.drop? position = some line ∧
        rest = some { job with line, state, shift := job.shift + position }) := by
  unfold handOver at done
  obtain ⟨embedded, _, -, sharing⟩ := outcome_bind_eq_ok.1 done
  obtain ⟨made, _, -, cutting⟩ := outcome_bind_eq_ok.1 sharing
  split at cutting
  · next inside =>
    obtain ⟨line, _, parting, ends⟩ := outcome_bind_eq_ok.1 cutting
    cases ends
    exact Or.inr ⟨inside, line, (outcome_cut_eq_ok.1 parting).1, rfl⟩
  · next outside =>
    cases cutting
    exact Or.inl ⟨rfl, Nat.le_of_not_lt outside⟩

/-- A rest of the line is left where a language starts inside the line: what follows that place, in
the state behind the scan. -/
theorem rest_of_handOver {departure : Departure} {state : LineState} {rest : Job}
    (done : outcome (job.handOver registry departure) trace = (.ok (state, some rest), later)) :
    ∃ name position stack line, departure = .enter name position stack ∧
      position < job.line.size ∧ job.line.drop? position = some line ∧
      rest = { job with line, state, shift := job.shift + position } := by
  cases departure with
  | lineEnd stack embedded => cases handOver_lineEnd done
  | enter name position stack =>
    rcases handOver_enter done with ⟨nothing, -⟩ | ⟨inside, line, cuts, same⟩
    · cases nothing
    · exact ⟨name, position, stack, line, rfl, inside, cuts, Option.some.inj same⟩

/-- Where no scan follows, all of the line has gone to the embedded language. -/
theorem openWith_inl {state : LineState}
    (done : outcome (job.openWith registry tokenizeLine) trace = (.ok (.inl state), later)) :
    ∃ embedded, job.state.embedded? = some embedded ∧
      job.tokenizer.leavingOffset? job.state.stack.state job.line = .ok none ∧
      ∃ left middle, outcome (job.delegate registry tokenizeLine embedded) trace =
          (.ok left, middle) ∧ middle.Adds [] later := by
  unfold openWith at done
  split at done
  · cases done
  · next embedded inside =>
    obtain ⟨leaving, _, searching, opening⟩ := outcome_bind_eq_ok.1 done
    obtain ⟨found, rfl⟩ := outcome_settle_eq_ok.1 searching
    cases leaving with
    | none =>
      obtain ⟨left, middle, delegated, sharing⟩ := outcome_bind_eq_ok.1 opening
      obtain ⟨_, shared, -⟩ := outcome_map_eq_ok.1 sharing
      exact ⟨embedded, inside, found, left, middle, delegated, (quiet_share _ _).adds shared⟩
    | some offset =>
      dsimp only at opening
      split at opening
      · obtain ⟨_, _, -, parting⟩ := outcome_bind_eq_ok.1 opening
        obtain ⟨_, _, -, cutting⟩ := outcome_bind_eq_ok.1 parting
        obtain ⟨_, _, -, ends⟩ := outcome_bind_eq_ok.1 cutting
        cases ends
      · obtain ⟨_, _, -, ends⟩ := outcome_bind_eq_ok.1 opening
        cases ends

/-- The scan is of the whole line, or it starts where the embedded language ends. -/
theorem openWith_inr
    (done : outcome (job.openWith registry tokenizeLine) trace = (.ok (.inr part), later)) :
    (job.state.embedded? = none ∧ part = job ∧ later = trace) ∨
      ∃ embedded offset rest, job.state.embedded? = some embedded ∧
        job.tokenizer.leavingOffset? job.state.stack.state job.line = .ok (some offset) ∧
        job.line.drop? offset = some rest ∧ part = job.hostPart rest offset ∧
        ((offset = 0 ∧ later = trace) ∨ (0 < offset ∧ ∃ line left,
          job.line.take? offset = some line ∧
          outcome ((job.guestPart line).delegate registry tokenizeLine embedded) trace =
            (.ok left, later))) := by
  unfold openWith at done
  split at done
  · next outside =>
    cases done
    exact Or.inl ⟨outside, rfl, rfl⟩
  · next embedded inside =>
    obtain ⟨leaving, _, searching, opening⟩ := outcome_bind_eq_ok.1 done
    obtain ⟨found, rfl⟩ := outcome_settle_eq_ok.1 searching
    refine Or.inr ⟨embedded, ?_⟩
    cases leaving with
    | none =>
      obtain ⟨_, _, -, sharing⟩ := outcome_bind_eq_ok.1 opening
      obtain ⟨_, -, same⟩ := outcome_map_eq_ok.1 sharing
      cases same
    | some offset =>
      dsimp only at opening
      split at opening
      · next positive =>
        obtain ⟨line, _, taking, parting⟩ := outcome_bind_eq_ok.1 opening
        obtain ⟨taken, rfl⟩ := outcome_cut_eq_ok.1 taking
        obtain ⟨left, _, delegated, dropping⟩ := outcome_bind_eq_ok.1 parting
        obtain ⟨rest, _, cutting, ends⟩ := outcome_bind_eq_ok.1 dropping
        obtain ⟨dropped, rfl⟩ := outcome_cut_eq_ok.1 cutting
        cases ends
        exact ⟨offset, rest, inside, found, dropped, rfl,
          Or.inr ⟨positive, line, left, taken, delegated⟩⟩
      · next start =>
        obtain ⟨rest, _, cutting, ends⟩ := outcome_bind_eq_ok.1 opening
        obtain ⟨dropped, rfl⟩ := outcome_cut_eq_ok.1 cutting
        cases ends
        exact ⟨offset, rest, inside, found, dropped, rfl,
          Or.inl ⟨Nat.eq_zero_of_not_pos start, rfl⟩⟩

/-- How a line goes to an embedded language: unless it is known, one token covers the line. -/
theorem delegate_ok {embedded : Embedded} {left : Option LineState}
    (done : outcome (job.delegate registry tokenizeLine embedded) trace = (.ok left, later)) :
    (job.guestJob? registry embedded = none ∧
        trace.Adds [.language embedded.language, .token job.shift "" none] later) ∨
      ∃ guest state, job.guestJob? registry embedded = some guest ∧
        outcome (unlessLong tokenizeLine guest) trace = (.ok state, later) := by
  rw [delegate_eq] at done
  split at done
  · next guest known =>
    obtain ⟨state, worked, -⟩ := outcome_map_eq_ok.1 done
    exact Or.inr ⟨guest, state, known, worked⟩
  · next unknown =>
    cases done
    exact Or.inl ⟨unknown, by simp [Trace.Adds]⟩

/-- A line that is too long is told as one token, and every other one is worked on. -/
theorem unlessLong_ok {state : LineState}
    (done : outcome (unlessLong tokenizeLine job) trace = (.ok state, later)) :
    (job.tokenizer.limits.lineLength < job.line.size ∧
        trace.Adds [.language job.tokenizer.language, .token job.shift "" none] later) ∨
      (job.line.size ≤ job.tokenizer.limits.lineLength ∧
        outcome (tokenizeLine job) trace = (.ok state, later)) := by
  unfold unlessLong at done
  split at done
  · next long =>
    cases done
    exact Or.inl ⟨long, by simp [Trace.Adds]⟩
  · next short => exact Or.inr ⟨Nat.le_of_not_lt short, done⟩

/-- The tokenizer of an embedded language works on the same text. -/
theorem guestJob?_eq_some {embedded : Embedded} {guest : Job}
    (known : job.guestJob? registry embedded = some guest) :
    (job.tokenizer.languages? registry).bind (·.tokenizer? embedded.language) =
        some guest.tokenizer ∧
      guest.line = job.line ∧ guest.ended = job.ended ∧ guest.shift = job.shift := by
  unfold guestJob? at known
  split at known
  · next state tokenizer _ found =>
    cases known
    exact ⟨found, rfl, rfl, rfl⟩
  · cases known

/-- A language that is known goes on in its own state. -/
theorem guestJob?_state {embedded : Embedded} {guest : Job}
    (known : job.guestJob? registry embedded = some guest) :
    embedded.state = some guest.state := by
  unfold guestJob? at known
  split at known
  · next state tokenizer stands found =>
    cases known
    exact stands
  · cases known

theorem guestJob?_eq_of_known {embedded : Embedded} {inner : LineState} {guest : Tokenizer}
    (stands : embedded.state = some inner)
    (found : (job.tokenizer.languages? registry).bind (·.tokenizer? embedded.language) =
      some guest) :
    job.guestJob? registry embedded = some { job with tokenizer := guest, state := inner } := by
  unfold guestJob?
  rw [stands, found]

end Job

/-! ### Who takes part -/

/-- The tokenizers that may work on a line: that of the line, and those that it or another one of
them looks up. -/
inductive TakesPart (registry : Option Registry) (tokenizer : Tokenizer) : Tokenizer → Prop where
  | self : TakesPart registry tokenizer tokenizer
  | guest {between guest : Tokenizer} {language : String}
      (takes : TakesPart registry tokenizer between)
      (known : (between.languages? registry).bind (·.tokenizer? language) = some guest) :
      TakesPart registry tokenizer guest

namespace TakesPart

variable {registry : Option Registry} {tokenizer guest other : Tokenizer} {language : String}

/-- Whoever takes part for one that takes part does so too. -/
theorem trans (first : TakesPart registry tokenizer guest)
    (second : TakesPart registry guest other) : TakesPart registry tokenizer other := by
  induction second with
  | self => exact first
  | guest _ found step => exact .guest step found

/-- Whoever takes part for a guest takes part for the host. -/
theorem of_guest
    (known : (tokenizer.languages? registry).bind (·.tokenizer? language) = some guest)
    (takes : TakesPart registry guest other) : TakesPart registry tokenizer other :=
  (TakesPart.guest .self known).trans takes

/-- Without a registry no other tokenizer takes part. -/
theorem eq_of_alone (takes : TakesPart none tokenizer other) : other = tokenizer := by
  cases takes with
  | self => rfl
  | @guest between _ language _ known =>
    unfold Tokenizer.languages? at known
    split at known <;> cases known

/-- What holds of the tokenizer of a line and of all registered ones holds of all that take part. -/
theorem of_registered {registry : Registry} (holds : Tokenizer → Prop) (host : holds tokenizer)
    (registered : ∀ entry ∈ registry.tokenizers.entries, holds entry.2)
    (takes : TakesPart (some registry) tokenizer other) : holds other := by
  cases takes with
  | self => exact host
  | @guest between _ language _ known =>
    obtain ⟨languages, looked, found⟩ := Option.bind_eq_some_iff.1 known
    have same : languages = registry := by
      unfold Tokenizer.languages? at looked
      split at looked
      · exact (Option.some.inj looked).symm
      · cases looked
    subst same
    obtain ⟨before, after, listed, -⟩ := List.lookup_eq_some_iff.1 found
    exact registered (language, other) (by rw [listed]; simp)

end TakesPart

/-! ### The work on a line -/

/-- Work on a line: how deep its parts may nest, the line, and what has been left behind before. -/
structure Work where
  depth : Nat
  job : Job
  trace : Trace

namespace Work

/-- The scan in the work on a line is the scan of `part`, before which `middle` is left behind. -/
inductive Scans (registry : Option Registry) (steps : Nat) : Work → Job → Trace → Prop where
  | opens {depth : Nat} {job part : Job} {trace middle : Trace}
      (opens : outcome (job.openWith registry (Job.tokenizeWithin registry steps depth)) trace =
        (.ok (.inr part), middle)) :
      Scans registry steps ⟨depth + 1, job, trace⟩ part middle

/-- The parts of the work on a line that are work on a line in turn. -/
inductive Gives (registry : Option Registry) (steps : Nat) : Work → Work → Prop where
  /-- All of the line is in an embedded language. -/
  | whole {depth : Nat} {job guest : Job} {trace : Trace} {embedded : Embedded}
      (inside : job.state.embedded? = some embedded)
      (stays : job.tokenizer.leavingOffset? job.state.stack.state job.line = .ok none)
      (known : job.guestJob? registry embedded = some guest)
      (short : guest.line.size ≤ guest.tokenizer.limits.lineLength) :
      Gives registry steps ⟨depth + 1, job, trace⟩ ⟨depth, guest, trace⟩
  /-- The first part of the line is in an embedded language. -/
  | before {depth : Nat} {job guest : Job} {trace : Trace} {embedded : Embedded} {offset : Nat}
      {line : Text} (inside : job.state.embedded? = some embedded)
      (leaves : job.tokenizer.leavingOffset? job.state.stack.state job.line = .ok (some offset))
      (positive : 0 < offset) (taken : job.line.take? offset = some line)
      (known : (job.guestPart line).guestJob? registry embedded = some guest)
      (short : guest.line.size ≤ guest.tokenizer.limits.lineLength) :
      Gives registry steps ⟨depth + 1, job, trace⟩ ⟨depth, guest, trace⟩
  /-- A language has started, and the rest of the line is in it. -/
  | behind {depth : Nat} {job part rest : Job} {trace middle scanned later : Trace}
      {departure : Departure} {state : LineState}
      (scans : Scans registry steps ⟨depth + 1, job, trace⟩ part middle)
      (departs : outcome (part.scanOwn steps) middle = (.ok departure, scanned))
      (hands : outcome (part.handOver registry departure) scanned =
        (.ok (state, some rest), later)) :
      Gives registry steps ⟨depth + 1, job, trace⟩ ⟨depth, rest, later⟩

/-- The work on a line and the work on its parts, and so on. -/
def Involves (registry : Option Registry) (steps : Nat) : Work → Work → Prop :=
  Relation.ReflTransGen (Gives registry steps)

/-- The scan in the work on a line comes to a turn, one of `steps` at most. -/
inductive Visits (registry : Option Registry) (steps : Nat) (work : Work) :
    HostLine → Scan → Trace → Prop where
  | turn {part : Job} {middle : Trace} (scans : work.Scans registry steps part middle)
      {turns : Nat} (allowed : turns < steps) {scan : Scan} {trace : Trace}
      (comes : part.host.turn? turns part.start
        { middle with events := middle.events.push (.language part.tokenizer.language) } =
          some (scan, trace)) :
      Visits registry steps work part.host scan trace

variable {registry : Option Registry} {steps : Nat} {work inner : Work}

/-- The scan in the work on a line is that of the line from the place on where the embedded language
ends, or of all of it outside of any. -/
theorem Scans.exists_drop? {part : Job} {middle : Trace}
    (scans : work.Scans registry steps part middle) :
    ∃ offset rest, work.job.line.drop? offset = some rest ∧ part = work.job.hostPart rest offset ∧
      ((work.job.state.embedded? = none ∧ offset = 0) ∨
        ∃ embedded, work.job.state.embedded? = some embedded ∧
          work.job.tokenizer.leavingOffset? work.job.state.stack.state work.job.line =
            .ok (some offset)) := by
  cases scans with
  | opens opens =>
    rcases Job.openWith_inr opens with
      ⟨outside, rfl, -⟩ | ⟨embedded, offset, rest, inside, leaves, cuts, same, -⟩
    · exact ⟨0, part.line, Text.drop?_zero _, rfl, Or.inl ⟨outside, rfl⟩⟩
    · exact ⟨offset, rest, cuts, same, Or.inr ⟨embedded, inside, leaves⟩⟩

/-- The scan in the work on a line is one by the line's tokenizer. -/
theorem Scans.tokenizer {part : Job} {middle : Trace}
    (scans : work.Scans registry steps part middle) : part.tokenizer = work.job.tokenizer := by
  obtain ⟨offset, rest, -, rfl, -⟩ := scans.exists_drop?
  rfl

/-- The scan in the work on a line starts in the state of the line. -/
theorem Scans.state {part : Job} {middle : Trace}
    (scans : work.Scans registry steps part middle) : part.state = work.job.state := by
  obtain ⟨offset, rest, -, rfl, -⟩ := scans.exists_drop?
  rfl

theorem Gives.takesPart (gives : Gives registry steps work inner) :
    TakesPart registry work.job.tokenizer inner.job.tokenizer := by
  cases gives with
  | whole inside stays known short => exact .guest .self (Job.guestJob?_eq_some known).1
  | before inside leaves positive taken known short =>
    exact .guest .self (Job.guestJob?_eq_some known).1
  | @behind depth job part rest trace middle scanned later departure state scans departs hands =>
    have tokenizer : rest.tokenizer = part.tokenizer := by
      obtain ⟨name, position, stack, line, -, -, -, rfl⟩ := Job.rest_of_handOver hands
      rfl
    show TakesPart registry job.tokenizer rest.tokenizer
    rw [tokenizer, scans.tokenizer]
    exact .self

/-- The parts of the work on a line are done by tokenizers that take part. -/
theorem Involves.takesPart (involves : Involves registry steps work inner) :
    TakesPart registry work.job.tokenizer inner.job.tokenizer := by
  unfold Involves at involves
  induction involves with
  | refl => exact .self
  | tail _ gives step => exact step.trans gives.takesPart

end Work

/-! ### A line that is one scan -/

/-- Whether the scan of a line comes to the end of the line, and all its turns pass a check. -/
def Job.allTurns (job : Job) (steps : Nat) (trace : Trace) (check : Scan → Trace → Bool) : Bool :=
  (match outcome (job.scanOwn steps) trace with
    | (.ok (.lineEnd _ _), _) => true
    | _ => false) &&
  (List.range steps).all fun turns =>
    (job.host.turn? turns job.start
      { trace with events := trace.events.push (.language job.tokenizer.language) }).all
        fun reached => check reached.1 reached.2

namespace Work

variable {registry : Option Registry} {steps depth : Nat} {job : Job} {trace later : Trace}
  {inner : Work}

/-- Where the scan of a line outside of any language comes to the end of the line, it is all the
work. -/
theorem eq_of_involves {stack : Stack} {embedded : Option Embedded}
    (outside : job.state.embedded? = none)
    (ends : outcome (job.scanOwn steps) trace = (.ok (.lineEnd stack embedded), later))
    (involves : Involves registry steps ⟨depth, job, trace⟩ inner) :
    inner = ⟨depth, job, trace⟩ := by
  rcases Relation.ReflTransGen.cases_head involves with same | ⟨next, gives, -⟩
  · exact same.symm
  · cases gives with
    | whole inside => rw [outside] at inside; cases inside
    | before inside => rw [outside] at inside; cases inside
    | behind scans departs hands =>
      cases scans with
      | opens opens =>
        rcases Job.openWith_inr opens with ⟨-, rfl, rfl⟩ | ⟨_, _, _, inside, -⟩
        · rw [ends] at departs
          cases departs
          cases Job.handOver_lineEnd hands
        · rw [outside] at inside
          cases inside

/-- In the work on such a line a scan only comes to turns that pass the check. -/
theorem check_of_allTurns {check : Scan → Trace → Bool} {host : HostLine} {scan : Scan}
    (outside : job.state.embedded? = none) (passes : job.allTurns steps trace check = true)
    (involves : Involves registry steps ⟨depth, job, trace⟩ inner)
    (visits : inner.Visits registry steps host scan later) :
    host = job.host ∧ check scan later = true := by
  unfold Job.allTurns at passes
  rw [Bool.and_eq_true] at passes
  obtain ⟨ends, checks⟩ := passes
  split at ends
  · next stack embedded _ done =>
    rw [eq_of_involves outside done involves] at visits
    cases visits with
    | @turn part middle scans turns allowed scan trace comes =>
      cases scans with
      | opens opens =>
        rcases Job.openWith_inr opens with ⟨-, rfl, rfl⟩ | ⟨_, _, _, inside, -⟩
        · have passed := List.all_eq_true.1 checks turns (List.mem_range.2 allowed)
          rw [comes, Option.all_some] at passed
          exact ⟨rfl, passed⟩
        · rw [outside] at inside
          cases inside
  · cases ends

end Work

end LineLexer
