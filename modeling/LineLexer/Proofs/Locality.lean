import LineLexer.Proofs.RestOfLine

/-!
**What is behind a scan does not matter.**

Where a scan stands outside of any embedded language with no group pending, what is left of the work
on the line is the work on the rest of the line, as a line of its own in a state of the same stack.
What the scan has behind it matters in one case only: where it has split a match that reads nothing
at that very place, while it was inside an embedded language.

* `Job.resume`, `Job.alone`: what is left of the work on a line, and a line by itself;
* `SettleAlike`: two computations come to an end in the same way, or neither does;
* `settleAlike_resume`: what is left of the work and the work on what is left, from one memory;
* `SettleAlike.alone`: from any memory, and in any state of the same stack;
* `Work.scan_locality`: the same after any other calls;
* `Work.not_forall_scan_locality`: what is behind a scan may matter.
-/

namespace LineLexer

open Scanning

/-! ### The rest of a line -/

/-- A computation comes to an end if its limits leave room for that. -/
def Scanning.Settles {Result : Type} (scanning : (steps depth : Nat) → Scanning Result)
    (trace : Trace) (ending : Except Stop Result) (later : Trace) : Prop :=
  ending ≠ .error .exhausted ∧ ∃ steps depth, outcome (scanning steps depth) trace = (ending, later)

/-- Runs that come to an end come to the same one. -/
theorem HostLine.run_unique {host : HostLine} {scan : Scan} {trace middle later : Trace}
    {steps limit : Nat} {ending endingOther : Except Stop Departure}
    (done : outcome (host.run steps scan) trace = (ending, middle))
    (settled : ending ≠ .error .exhausted)
    (doneOther : outcome (host.run limit scan) trace = (endingOther, later))
    (settledOther : endingOther ≠ .error .exhausted) : ending = endingOther ∧ middle = later := by
  induction steps generalizing limit scan trace with
  | zero =>
    cases done
    exact absurd rfl settled
  | succ steps step =>
    cases limit with
    | zero =>
      cases doneOther
      exact absurd rfl settledOther
    | succ limit =>
      rw [outcome_run_succ] at done doneOther
      by_cases due : host.isDue scan = true
      · rw [if_pos due] at done doneOther
        rcases leads : outcome (host.step scan) trace with ⟨stop | next, behind⟩
        · rw [leads] at done doneOther
          cases done
          cases doneOther
          exact ⟨rfl, rfl⟩
        · rw [leads] at done doneOther
          cases next with
          | goOn next => exact step done doneOther
          | enter name position stack =>
            cases done
            cases doneOther
            exact ⟨rfl, rfl⟩
      · rw [if_neg due] at done doneOther
        cases done
        cases doneOther
        exact ⟨rfl, rfl⟩

/-- What is left of the work on a line where its scan stands. -/
def Job.resume (registry : Option Registry) (job : Job) (scan : Scan) (steps depth : Nat) :
    Scanning LineState := do
  let departure ← job.host.run steps scan
  let handed ← job.handOver registry departure
  finish (tokenizeWithin registry steps depth) handed

namespace Coupling

variable {base otherBase : Trace} {kin kinOther : Tokenizer → Tokenizer → Prop} {past first : Nat}
  {stale seen : Option (Nat × Stack)} {registry : Option Registry} {steps depth : Nat}

/-- Exact couplings see the same of what is left behind. -/
theorem Beside.of_exact {trace other : Trace}
    (beside : (exact base otherBase kin past stale).Beside trace other) :
    (exact base otherBase kinOther first seen).Beside trace other :=
  ⟨beside.memories, beside.events, beside.notes⟩

theorem Ends.of_exact {Result Other : Type} {related : Result → Other → Prop}
    {left : Except Stop Result × Trace} {right : Except Stop Other × Trace}
    (ends : (exact base otherBase kin past stale).Ends related left right) :
    (exact base otherBase kinOther first seen).Ends related left right := by
  cases ends with
  | result holds beside => exact .result holds beside.of_exact
  | stop holds beside => exact .stop holds beside.of_exact

/-- Lines that correspond exactly are the same line. -/
theorem eq_of_jobs {job twin : Job} (jobs : (exact base otherBase Eq past stale).Jobs job twin) :
    job = twin := by
  obtain ⟨tokenizer, line, ended, state, shift⟩ := job
  obtain ⟨tokenizerOther, lineOther, endedOther, stateOther, shiftOther⟩ := twin
  obtain ⟨tokenizers, lines, rfl, rfl, rfl⟩ := jobs
  cases tokenizers.kin
  cases exact_texts.1 lines
  rfl

/-- The rest of a run and what follows it come to what the rest of the line comes to, if the runs
do. -/
theorem ends_resume {part tail : Job} {scan scanOther : Scan} {before opened : Trace}
    (rest : part.Tail past tail)
    (ends : (exact before opened Eq past stale).Ends (exact before opened Eq past stale).Departures
      (outcome (part.host.run steps scan) before)
      (outcome (tail.host.run steps scanOther) opened)) :
    (exact before opened Eq past stale).Ends Eq
      (outcome (part.resume registry scan steps depth) before)
      (outcome (tail.resume registry scanOther steps depth) opened) := by
  have tails : (exact before opened Eq past stale).Tails part tail := tails_of_tail rest
  refine ends_bind ends fun _ _ departs beside => ?_
  refine ends_bind (ends_handOver tails (participants_self registry _) departs beside)
    fun _ _ handed beside => ?_
  refine ends_finish handed beside fun {rest restOther} _ jobs => ?_
  cases eq_of_jobs jobs
  exact (ends_self beside.of_exact _).of_exact

end Coupling

/-- Two results are the same, or two scans have stopped in different ways where that is `allowed`:
the first one for want of progress, and the second one because no language could be left. -/
inductive SameButFor (language : String) (allowed : Prop) :
    Except Stop LineState → Except Stop LineState → Prop where
  | same {ending endingOther : Except Stop LineState} (same : SameResult ending endingOther) :
      SameButFor language allowed ending endingOther
  | stops (rule : String) (holds : allowed) :
      SameButFor language allowed (.error (.fault ⟨language, .noProgress rule⟩))
        (.error (.fault ⟨language, .notEmbedded⟩))

/-- Two computations come to an end in the same way, or neither does. They tell the same, but for an
`opening` that the second one tells first. -/
structure SettleAlike (first second : (steps depth : Nat) → Scanning LineState)
    (trace other : Trace) (opening : List Event) (language : String) (allowed : Prop) : Prop where
  onwards : ∀ {ending later}, Settles first trace ending later → ∃ endingOther last told,
    Settles second other endingOther last ∧ trace.Adds told later ∧
      other.Adds (opening ++ told) last ∧ SameButFor language allowed ending endingOther
  back : ∀ {endingOther last}, Settles second other endingOther last → ∃ ending later told,
    Settles first trace ending later ∧ trace.Adds told later ∧
      other.Adds (opening ++ told) last ∧ SameButFor language allowed ending endingOther

/-- Runs that stop are stopped whatever follows them. -/
theorem Job.settles_resume (registry : Option Registry) {job : Job} {scan : Scan}
    {trace later : Trace} {steps : Nat} {stop : Stop} (fault : stop ≠ .exhausted)
    (stops : outcome (job.host.run steps scan) trace = (.error stop, later)) :
    Settles (job.resume registry scan) trace (.error stop) later ∧
      ∀ {ending last}, Settles (job.resume registry scan) trace ending last →
        ending = .error stop ∧ last = later := by
  have settled : (Except.error stop : Except Stop Departure) ≠ .error .exhausted := by
    simpa using fault
  refine ⟨⟨by simpa using fault, steps, 0, outcome_bind_eq_error.2 (Or.inl stops)⟩, ?_⟩
  rintro ending last ⟨ends, limit, depth, done⟩
  rcases runs : outcome (job.host.run limit scan) trace with ⟨departure, middle⟩
  by_cases exhausted : departure = .error .exhausted
  · subst exhausted
    have stopped : outcome (job.resume registry scan limit depth) trace =
        (.error .exhausted, middle) := outcome_bind_eq_error.2 (Or.inl runs)
    rw [stopped] at done
    cases done
    exact absurd rfl ends
  · obtain ⟨rfl, rfl⟩ := HostLine.run_unique stops settled runs exhausted
    have stopped : outcome (job.resume registry scan limit depth) trace = (.error stop, later) :=
      outcome_bind_eq_error.2 (Or.inl runs)
    rw [stopped] at done
    cases done
    exact ⟨rfl, rfl⟩

/-- What the ends of computations are that end in the same way. -/
theorem Coupling.Ends.sameResult {base otherBase : Trace} {kin : Tokenizer → Tokenizer → Prop}
    {past : Nat} {stale : Option (Nat × Stack)} {ending endingOther : Except Stop LineState}
    {later last : Trace}
    (ends : (exact base otherBase kin past stale).Ends Eq (ending, later) (endingOther, last)) :
    ending = endingOther ∧ ∃ told, base.Adds told later ∧ otherBase.Adds told last := by
  cases ends with
  | result same beside => exact ⟨congrArg Except.ok same, beside.events⟩
  | stop same beside => exact ⟨congrArg Except.error same, beside.events⟩

theorem SameResult.refl (ending : Except Stop LineState) : SameResult ending ending := by
  cases ending with
  | ok state => exact .ok (LineState.beq_iff.2 rfl)
  | error stop => exact .error stop

section

variable {tokenizers : Set Tokenizer} {registry : Option Registry} {part tail : Job} {scan : Scan}
  {trace before opened : Trace} {turns : Nat}

/-- The rest of a run and the run of the rest of the line come to the same end, but for the way in
which they stop where a language has been left in which groups that read nothing have been seen. -/
theorem settleAlike_resume (injective : tokenizers.InjOn Tokenizer.identity)
    (known : part.host.tokenizer ∈ tokenizers) (sound : trace.memories.Sound tokenizers)
    (onward : part.tokenizer.grammar.Onward)
    (comes : part.host.turn? turns part.start trace = some (scan, before))
    (unpended : scan.replay = none) (outside : scan.embedded = none)
    (rest : part.Tail scan.position tail) (memories : before.memories = opened.memories) :
    SettleAlike (part.resume registry scan) (tail.resume registry scan.renewed) before opened []
      part.tokenizer.language (part.host.PausedInside part.start trace turns scan) := by
  rcases ends_or_stop injective known sound onward comes unpended outside rest memories with
    ends | ⟨rule, fault, ⟨⟨settled, settledOther⟩, steps, stepsOther, later, last, told, stops,
      adds, stopsOther, addsOther⟩, which⟩
  · have resumed : ∀ steps depth, (Coupling.exact before opened Eq scan.position
        scan.emptyGroup).Ends Eq (outcome (part.resume registry scan steps depth) before)
          (outcome (tail.resume registry scan.renewed steps depth) opened) :=
      fun steps _ => Coupling.ends_resume rest (ends steps)
    constructor
    · rintro ending later ⟨settled, steps, depth, done⟩
      have same := resumed steps depth
      rw [done] at same
      rcases doneOther : outcome (tail.resume registry scan.renewed steps depth) opened with
        ⟨endingOther, last⟩
      rw [doneOther] at same
      obtain ⟨rfl, told, adds, addsOther⟩ := same.sameResult
      exact ⟨ending, last, told, ⟨settled, steps, depth, doneOther⟩, adds, addsOther,
        .same (.refl ending)⟩
    · rintro endingOther last ⟨settled, steps, depth, doneOther⟩
      have same := resumed steps depth
      rw [doneOther] at same
      rcases done : outcome (part.resume registry scan steps depth) before with ⟨ending, later⟩
      rw [done] at same
      obtain ⟨rfl, told, adds, addsOther⟩ := same.sameResult
      exact ⟨ending, later, told, ⟨settled, steps, depth, done⟩, adds, addsOther,
        .same (.refl ending)⟩
  · obtain ⟨settles, only⟩ := Job.settles_resume registry settled stops
    obtain ⟨settlesOther, onlyOther⟩ := Job.settles_resume registry settledOther stopsOther
    have same : SameButFor part.tokenizer.language
        (part.host.PausedInside part.start trace turns scan)
        (.error (.fault ⟨part.tokenizer.language, .noProgress rule⟩))
        (.error (.fault ⟨part.tokenizer.language, fault⟩)) := by
      rcases which with rfl | ⟨rfl, paused⟩
      · exact .same (.error _)
      · exact .stops rule paused
    constructor
    · intro ending later ends
      obtain ⟨rfl, rfl⟩ := only ends
      exact ⟨_, last, told, settlesOther, adds, addsOther, same⟩
    · intro endingOther last ends
      obtain ⟨rfl, rfl⟩ := onlyOther ends
      exact ⟨_, later, told, settles, adds, addsOther, same⟩

end

/-! ### A line of its own -/

theorem SameResult.symm {ending endingOther : Except Stop LineState}
    (same : SameResult ending endingOther) : SameResult endingOther ending := by
  cases same with
  | ok same => exact .ok (LineState.beq_iff.2 (LineState.beq_iff.1 same).symm)
  | error stop => exact .error stop

theorem SameResult.trans {ending middle endingOther : Except Stop LineState}
    (same : SameResult ending middle) (other : SameResult middle endingOther) :
    SameResult ending endingOther := by
  cases same with
  | ok same =>
    cases other with
    | ok other =>
      exact .ok (LineState.beq_iff.2 ((LineState.beq_iff.1 same).trans (LineState.beq_iff.1 other)))
  | error stop => exact other

/-- A result that is the same as one that is no limit is no limit. -/
theorem SameResult.settled {ending endingOther : Except Stop LineState}
    (same : SameResult ending endingOther) (settled : ending ≠ .error .exhausted) :
    endingOther ≠ .error .exhausted := by
  cases same with
  | ok same => exact nofun
  | error stop => exact settled

theorem SameButFor.trans {language : String} {allowed : Prop}
    {ending middle endingOther : Except Stop LineState}
    (same : SameButFor language allowed ending middle) (other : SameResult middle endingOther) :
    SameButFor language allowed ending endingOther := by
  cases same with
  | same same => exact .same (same.trans other)
  | stops rule holds =>
    cases other with
    | error stop => exact .stops rule holds

/-- A line is tokenized by itself, unless it is too long. -/
def Job.alone (registry : Option Registry) (job : Job) (steps depth : Nat) : Scanning LineState :=
  job.within (fun _ => steps) depth registry

section

variable {tokenizers : Set Tokenizer} {registry : Option Registry} {tail : Job} {scan : Scan}
  {memories memoriesOther : Memories}

/-- What a line comes to by itself depends on no memory. -/
theorem Job.agree_alone (injective : tokenizers.InjOn Tokenizer.identity) (steps depth : Nat) :
    AgreesOn tokenizers registry fun job => job.alone registry steps depth :=
  agree_within injective

/-- A line that is no longer than allowed is scanned from the start. -/
theorem Job.outcome_alone (short : tail.line.size ≤ tail.tokenizer.limits.lineLength)
    (nonempty : tail.line ≠ []) {identity : Identity}
    (state : tail.state = .host identity scan.stack) (steps depth : Nat) :
    outcome (tail.alone registry steps (depth + 1)) { memories } =
      outcome (tail.resume registry scan.renewed steps depth) (tail.opened { memories }) := by
  have opens : outcome (tail.openWith registry (tokenizeWithin registry steps depth)) { memories } =
      (.ok (.inr tail), { memories }) := by
    unfold openWith
    rw [state]
    rfl
  have inside : 0 < tail.host.textSize := by
    have bytes : 0 < tail.line.size :=
      Nat.pos_of_ne_zero fun zero => nonempty (Text.size_eq_zero_iff.1 zero)
    show 0 < Text.size (if tail.ended && tail.tokenizer.grammar.includeLineFeed then
      tail.line ++ ['\n'] else tail.line)
    split
    · rw [Text.size_append]
      omega
    · exact bytes
  have starts : scan.renewed = { tail.start with due := scan.due } := by
    unfold start
    rw [state]
    rfl
  have runs : outcome (tail.host.run steps scan.renewed) (tail.opened { memories }) =
      outcome (tail.scanOwn steps) { memories } := by
    rw [outcome_scanOwn, starts]
    refine HostLine.outcome_run_due rfl rfl ?_ steps _
    unfold HostLine.isDue
    simp [start, inside]
  show outcome (unlessLong (tokenizeWithin registry steps (depth + 1)) tail) { memories } = _
  unfold unlessLong
  rw [if_neg (Nat.not_lt.2 short), outcome_of_opens opens]
  unfold resume
  rw [outcome_bind, outcome_bind, runs]

/-- No line that is not too long is tokenized without entering a language. -/
theorem Job.outcome_alone_zero (short : tail.line.size ≤ tail.tokenizer.limits.lineLength)
    (steps : Nat) (trace : Trace) :
    outcome (tail.alone registry steps 0) trace = (.error .exhausted, trace) := by
  show outcome (unlessLong _ tail) trace = _
  unfold unlessLong
  rw [if_neg (Nat.not_lt.2 short)]
  rfl

/-- A scan from the start of a line comes to what a line alike comes to by itself, whatever is
remembered. -/
theorem Job.sameResult_alone {twin : Job} (injective : tokenizers.InjOn Tokenizer.identity)
    (known : Known tokenizers registry twin.tokenizer) (alike : twin.Alike tail)
    (short : twin.line.size ≤ twin.tokenizer.limits.lineLength) (nonempty : twin.line ≠ [])
    {identity : Identity} (state : twin.state = .host identity scan.stack)
    (sound : memories.Sound tokenizers) (soundOther : memoriesOther.Sound tokenizers)
    {steps depth : Nat} {ending endingOther : Except Stop LineState} {last lastOther : Trace}
    (done : outcome (twin.resume registry scan.renewed steps depth) (twin.opened { memories }) =
      (ending, last))
    (doneOther : outcome (tail.alone registry steps (depth + 1)) { memories := memoriesOther } =
      (endingOther, lastOther)) :
    SameResult ending endingOther ∧ last.events = lastOther.events := by
  have traces : Scanning.Alike tokenizers True { memories } { memories := memoriesOther } :=
    ⟨sound, soundOther, fun _ => rfl, fun _ => rfl⟩
  obtain ⟨same, left⟩ :=
    (agree_alone injective steps (depth + 1) alike known _ _ traces).sameResult
  rw [outcome_alone short nonempty state, done, doneOther] at same left
  exact ⟨same, left.events trivial⟩

/-- What settles as a scan from the start of a line does settles as a line alike does by itself,
which tells its language first. -/
theorem SettleAlike.alone {twin : Job} (injective : tokenizers.InjOn Tokenizer.identity)
    (known : Known tokenizers registry twin.tokenizer) (alike : twin.Alike tail)
    (short : twin.line.size ≤ twin.tokenizer.limits.lineLength) (nonempty : twin.line ≠ [])
    {identity : Identity} (state : twin.state = .host identity scan.stack)
    (sound : memories.Sound tokenizers) (soundOther : memoriesOther.Sound tokenizers)
    {first : (steps depth : Nat) → Scanning LineState} {before : Trace} {language : String}
    {allowed : Prop} (ends : SettleAlike first (twin.resume registry scan.renewed) before
      (twin.opened { memories }) [] language allowed) :
    SettleAlike first (tail.alone registry) before { memories := memoriesOther }
      [.language twin.tokenizer.language] language allowed := by
  have opens : ∀ {told last lastOther}, (twin.opened { memories }).Adds told last →
      last.events = lastOther.events → ({ memories := memoriesOther } : Trace).Adds
        ([.language twin.tokenizer.language] ++ told) lastOther := by
    intro told last lastOther adds same
    unfold Trace.Adds at adds ⊢
    rw [← same, adds]
    rfl
  constructor
  · intro ending later settles
    obtain ⟨between, last, told, ⟨settled, steps, depth, done⟩, adds, addsTwin, same⟩ :=
      ends.onwards settles
    rcases doneOther : outcome (tail.alone registry steps (depth + 1))
      { memories := memoriesOther } with ⟨endingOther, lastOther⟩
    obtain ⟨sameResult, events⟩ := Job.sameResult_alone injective known alike short nonempty state
      sound soundOther done doneOther
    exact ⟨endingOther, lastOther, told, ⟨sameResult.settled settled, steps, depth + 1, doneOther⟩,
      adds, opens addsTwin events, same.trans sameResult⟩
  · rintro endingOther lastOther ⟨settled, steps, depth, doneOther⟩
    cases depth with
    | zero =>
      have shortTail : tail.line.size ≤ tail.tokenizer.limits.lineLength := by
        rw [← alike.line, ← alike.tokenizer]
        exact short
      rw [Job.outcome_alone_zero shortTail] at doneOther
      cases doneOther
      exact absurd rfl settled
    | succ depth =>
      rcases done : outcome (twin.resume registry scan.renewed steps depth)
        (twin.opened { memories }) with ⟨between, last⟩
      obtain ⟨sameResult, events⟩ := Job.sameResult_alone injective known alike short nonempty
        state sound soundOther done doneOther
      obtain ⟨ending, later, told, settles, adds, addsTwin, same⟩ :=
        ends.back ⟨sameResult.symm.settled settled, steps, depth, done⟩
      exact ⟨ending, later, told, settles, adds, opens addsTwin events, same.trans sameResult⟩

end

namespace Work

variable {registry : Option Registry} {limit : Nat} {work inner : Work}

theorem Gives.short (short : work.job.line.size ≤ work.job.tokenizer.limits.lineLength)
    (gives : Gives registry limit work inner) :
    inner.job.line.size ≤ inner.job.tokenizer.limits.lineLength := by
  cases gives with
  | whole _ _ _ fits => exact fits
  | before _ _ _ _ _ fits => exact fits
  | @behind depth job part rest trace middle scanned later departure state scans departs hands =>
    obtain ⟨offset, line, cuts, same, -⟩ := scans.exists_drop?
    obtain ⟨name, position, stack, behind, -, -, dropped, rfl⟩ := Job.rest_of_handOver hands
    subst same
    have whole := Text.size_of_drop? cuts
    have left := Text.size_of_drop? dropped
    show behind.size ≤ job.tokenizer.limits.lineLength
    have fits : job.line.size ≤ job.tokenizer.limits.lineLength := short
    have whole : offset + line.size = job.line.size := whole
    have left : position + behind.size = line.size := left
    omega

/-- Where a line is no longer than allowed, no part of it is. -/
theorem Involves.short (short : work.job.line.size ≤ work.job.tokenizer.limits.lineLength)
    (involves : Involves registry limit work inner) :
    inner.job.line.size ≤ inner.job.tokenizer.limits.lineLength := by
  unfold Involves at involves
  induction involves with
  | refl => exact short
  | tail _ gives step => exact gives.short step

/-- What is left of a line that a scan is in is no longer than allowed, if the line is not. -/
theorem Scans.short_rest (short : inner.job.line.size ≤ inner.job.tokenizer.limits.lineLength)
    {part tail : Job} {middle : Trace} (scans : inner.Scans registry limit part middle)
    {position : Nat} (rest : part.Tail position tail) :
    tail.line.size ≤ tail.tokenizer.limits.lineLength := by
  obtain ⟨offset, line, cuts, same, -⟩ := scans.exists_drop?
  have whole := Text.size_of_drop? cuts
  have left := Text.size_of_drop? rest.line
  rw [same] at left
  rw [rest.tokenizer, scans.tokenizer]
  have left : position + tail.line.size = line.size := left
  omega

/-- Scans do not depend on what is behind them. In the work on a line after any calls, let the scan
stand at a turn inside the line, outside of any embedded language and with no group pending, where
no action of its grammar makes characters be read again and no rule is for the start of lines. Then
the rest of the work tells what the rest of the line tells as a line of its own in a state of the
same stack, after any other calls, but for the language that a line starts with, and it ends with
the same stop or an equal state. The one exception: where the scan has split a match that reads
nothing at the place where it stands, while it was inside an embedded language, it may stop for want
of progress where the other line stops because no language can be left. -/
theorem scan_locality {tokenizers : Set Tokenizer} (injective : tokenizers.InjOn Tokenizer.identity)
    {calls others : List Call}
    (known : ∀ call ∈ calls ++ others, Known tokenizers call.registry call.tokenizer)
    (remembers : work.trace.memories = .after calls)
    (takesPart : Known tokenizers registry work.job.tokenizer)
    (short : work.job.line.size ≤ work.job.tokenizer.limits.lineLength)
    (involves : Involves registry limit work inner) {part : Job} {middle : Trace}
    (scans : inner.Scans registry limit part middle) (onward : part.tokenizer.grammar.Onward)
    {turns : Nat} {scan : Scan} {before : Trace}
    (comes : part.host.turn? turns part.start (part.opened middle) = some (scan, before))
    (unpended : scan.replay = none) (outside : scan.embedded = none) {tail : Job}
    (rest : part.Tail scan.position tail) (stack : tail.state.stack.names = scan.stack.names)
    (plain : tail.state.embedded? = none) :
    SettleAlike (part.resume registry scan) (tail.alone registry) before
      { memories := .after others } [.language part.tokenizer.language] part.tokenizer.language
      (part.host.PausedInside part.start (part.opened middle) turns scan) := by
  have sound : work.trace.memories.Sound tokenizers := by
    rw [remembers]
    exact sound_after injective fun call inside => known call (List.mem_append_left _ inside)
  have soundOther : (Memories.after others).Sound tokenizers :=
    sound_after injective fun call inside => known call (List.mem_append_right _ inside)
  have innerKnown := involves.known takesPart
  have member : part.host.tokenizer ∈ tokenizers := scans.member innerKnown
  have soundMiddle : middle.memories.Sound tokenizers :=
    scans.sound injective innerKnown (involves.sound injective takesPart sound)
  have soundStart : (part.opened middle).memories.Sound tokenizers := soundMiddle
  have soundBefore := HostLine.turn?_sound injective member soundStart comes
  have shortTail := Scans.short_rest (involves.short short) scans rest
  -- The rest of the line in the same state, as the tokenizer itself would have made it.
  let twin : Job := { tail with state := .host default scan.stack }
  have knownTwin : Known tokenizers registry twin.tokenizer := by
    rw [show twin.tokenizer = inner.job.tokenizer from rest.tokenizer.trans scans.tokenizer]
    exact innerKnown
  have alike : twin.Alike tail := by
    refine ⟨rfl, rfl, rfl, rfl, LineState.content_eq_iff.2 ⟨stack.symm, ?_⟩⟩
    show none = tail.state.embedded?.map Embedded.content
    rw [plain]
    rfl
  have restToo : part.Tail scan.position twin :=
    ⟨rest.tokenizer, rest.line, rest.nonempty, rest.ended, rest.shift⟩
  have ends : SettleAlike (part.resume registry scan) (twin.resume registry scan.renewed) before
      (twin.opened { memories := before.memories }) [] part.tokenizer.language
      (part.host.PausedInside part.start (part.opened middle) turns scan) :=
    settleAlike_resume injective member soundStart onward comes unpended outside restToo rfl
  rw [← rest.tokenizer] at ends ⊢
  exact ends.alone injective knownTwin alike shortTail rest.nonempty rfl soundBefore soundOther

end Work

/-- The description of a grammar with a rule whose groups read nothing, the first of which leaves an
embedded language and the second of which goes to another state. -/
def detourSource : String :=
  "\x7b\"tokenizer\": \x7b\"main\": [
    [\"<\", \x7b\"token\": \"open\", \"nextEmbedded\": \"js\"\x7d],
    [\"!\", \"bang\", \"@inner\"], [\">-\", \"x\"],
    [\">\", \x7b\"token\": \"close\", \"nextEmbedded\": \"@pop\"\x7d],
    [\"()()\", [\x7b\"token\": \"\", \"nextEmbedded\": \"@pop\"\x7d,
      \x7b\"token\": \"\", \"next\": \"@inner\"\x7d]]],
    \"inner\": [[\"\", \"\", \"@pop\"]]\x7d\x7d"

/-- A line that starts in an unknown language, which ends in it. -/
def detourJob (grammar : Grammar) : Job where
  tokenizer := { identity := 0, grammar }
  line := ['>', '-', 'a']
  ended := false
  state := .unknown default (.root default grammar.start) "js"

/-- The last character of that line as a line of its own. -/
def detourTail (grammar : Grammar) (stack : Stack) : Job where
  tokenizer := { identity := 0, grammar }
  line := ['a']
  ended := false
  state := .host default stack
  shift := 2

/-- Whether no action of a grammar goes back, and no rule is for the start of lines. -/
def Grammar.looksOnward (grammar : Grammar) : Bool :=
  !grammar.anyAction Action.goesBack &&
    grammar.states.all fun state => state.2.all fun rule => !rule.atLineStart

theorem Grammar.onward_of_looksOnward {grammar : Grammar} (looks : grammar.looksOnward = true) :
    grammar.Onward := by
  unfold looksOnward at looks
  rw [Bool.and_eq_true, Bool.not_eq_true', List.all_eq_true] at looks
  refine ⟨looks.1, fun {state rules rule} holds listed => ?_⟩
  obtain ⟨name, declared⟩ := Grammar.mem_states holds
  have unbound := List.all_eq_true.1 (looks.2 _ declared) rule listed
  simpa using unbound

/-- Whether the scan of the line stands before its last character at its fifth turn, outside of any
language, and stops for want of progress, where the character by itself stops because no language
can be left. -/
def stopsOtherwise (grammar : Grammar) : Bool :=
  let job := detourJob grammar
  grammar.looksOnward &&
  match outcome (job.openWith none (Job.tokenizeWithin none 50 1)) {} with
  | (.ok (.inr part), middle) =>
    match part.host.turn? 4 part.start (part.opened middle) with
    | some (scan, before) =>
      decide (scan.position = 2) && scan.replay.isNone && scan.embedded.isNone &&
      decide ((part.line, part.ended, part.shift) = (job.line, job.ended, job.shift)) &&
      (match (outcome (part.resume none scan 50 1) before).1 with
        | .error (.fault ⟨_, .noProgress _⟩) => true
        | _ => false) &&
      match (outcome ((detourTail grammar scan.stack).alone none 50 2) {}).1 with
        | .error (.fault ⟨_, .notEmbedded⟩) => true
        | _ => false
    | none => false
  | _ => false

theorem exists_stopsOtherwise :
    ∃ grammar, (Grammar.compileText "toy" detourSource false).result = .ok grammar ∧
      stopsOtherwise grammar = true :=
  Grammar.exists_of_compiles (Grammar.compileText "toy" detourSource false) stopsOtherwise
    (by decide +kernel)

/-- What the check says of the line. -/
theorem of_stopsOtherwise {grammar : Grammar} (stops : stopsOtherwise grammar = true) :
    grammar.Onward ∧ ∃ part middle scan before,
      Work.Scans none 50 ⟨2, detourJob grammar, {}⟩ part middle ∧
      part.host.turn? 4 part.start (part.opened middle) = some (scan, before) ∧
      scan.replay = none ∧ scan.embedded = none ∧ 0 < scan.position ∧
      part.Tail scan.position (detourTail grammar scan.stack) ∧
      (∃ language rule later, outcome (part.resume none scan 50 1) before =
        (.error (.fault ⟨language, .noProgress rule⟩), later)) ∧
      ∃ language last, outcome ((detourTail grammar scan.stack).alone none 50 2) {} =
        (.error (.fault ⟨language, .notEmbedded⟩), last) := by
  unfold stopsOtherwise at stops
  dsimp only at stops
  rw [Bool.and_eq_true] at stops
  obtain ⟨looks, stops⟩ := stops
  refine ⟨Grammar.onward_of_looksOnward looks, ?_⟩
  split at stops
  · next part middle opens =>
    split at stops
    · next scan before comes =>
      simp only [Bool.and_eq_true, decide_eq_true_eq, Prod.mk.injEq,
        Option.isNone_iff_eq_none] at stops
      obtain ⟨⟨⟨⟨⟨position, unpended⟩, outside⟩, line, ended, shift⟩, left⟩, right⟩ := stops
      have scans : Work.Scans none 50 ⟨2, detourJob grammar, {}⟩ part middle := .opens opens
      refine ⟨part, middle, scan, before, scans, comes, unpended, outside, by omega,
        ⟨scans.tokenizer.symm, ?_, List.cons_ne_nil _ _, ended.symm, ?_⟩, ?_, ?_⟩
      · rw [line, position]
        rfl
      · show 2 = part.shift + scan.position
        rw [shift, position]
        rfl
      · split at left
        · next language rule stopped => exact ⟨language, rule, _, Prod.ext stopped rfl⟩
        · cases left
      · split at right
        · next language stopped => exact ⟨language, _, Prod.ext stopped rfl⟩
        · cases right
    · cases stops
  · cases stops

theorem Work.scan_locality_detour :
    ∃ (grammar : Grammar) (part : Job) (middle : Trace) (scan : Scan) (before : Trace),
      Work.Scans none 50 ⟨2, detourJob grammar, {}⟩ part middle ∧ part.tokenizer.grammar.Onward ∧
      part.host.turn? 4 part.start (part.opened middle) = some (scan, before) ∧
      part.Tail scan.position (detourTail grammar scan.stack) ∧
      SettleAlike (part.resume none scan) ((detourTail grammar scan.stack).alone none) before
        { memories := .after [] } [.language part.tokenizer.language] part.tokenizer.language
        (part.host.PausedInside part.start (part.opened middle) 4 scan) := by
  obtain ⟨grammar, -, stops⟩ := exists_stopsOtherwise
  obtain ⟨looks, part, middle, scan, before, scans, comes, unpended, outside, -, rest, -, -⟩ :=
    of_stopsOtherwise stops
  have onward : part.tokenizer.grammar.Onward := by
    rw [scans.tokenizer]
    exact looks
  have uncalled : ∀ call ∈ ([] ++ [] : List Call),
      Known {(detourJob grammar).tokenizer} call.registry call.tokenizer := List.forall_mem_nil _
  have alone : Known {(detourJob grammar).tokenizer} none (detourJob grammar).tokenizer :=
    known_of_alone
  have short : (detourJob grammar).line.size ≤ (detourJob grammar).tokenizer.limits.lineLength := by
    show Text.size ['>', '-', 'a'] ≤ 20000
    decide
  exact ⟨grammar, part, middle, scan, before, scans, onward, comes, rest,
    Work.scan_locality (Set.injOn_singleton _ _) uncalled rfl alone short
      Relation.ReflTransGen.refl scans onward comes unpended outside rest rfl rfl⟩

/-- What has been left behind may matter: a scan that has split a match inside an embedded language
that reads nothing may stop in another way than the rest of the line by itself. -/
theorem Work.not_forall_scan_locality :
    ¬ ∀ (source : String) (grammar : Grammar) (registry : Option Registry) (limit : Nat)
      (work : Work) (part : Job) (middle : Trace) (turns : Nat) (scan : Scan) (before : Trace)
      (tail : Job) (steps depth : Nat) (ending endingOther : Except Stop LineState)
      (later last : Trace),
      (Grammar.compileText "toy" source false).result = .ok grammar →
      work.job.tokenizer.grammar = grammar → grammar.Onward →
      work.Scans registry limit part middle →
      part.host.turn? turns part.start (part.opened middle) = some (scan, before) →
      scan.replay = none → scan.embedded = none → 0 < scan.position →
      part.Tail scan.position tail → tail.state.stack.names = scan.stack.names →
      tail.state.embedded? = none →
      outcome (part.resume registry scan steps depth) before = (ending, later) →
      ending ≠ .error .exhausted →
      outcome (tail.alone registry steps (depth + 1)) {} = (endingOther, last) →
      endingOther ≠ .error .exhausted → SameResult ending endingOther := by
  intro always
  obtain ⟨grammar, compiles, stops⟩ := exists_stopsOtherwise
  obtain ⟨onward, part, middle, scan, before, scans, comes, unpended, outside, positive, rest,
    ⟨language, rule, later, left⟩, languageOther, last, right⟩ := of_stopsOtherwise stops
  cases always _ grammar none 50 ⟨2, detourJob grammar, {}⟩ part middle 4 scan before
    (detourTail grammar scan.stack) 50 1 _ _ later last compiles rfl onward scans comes unpended
    outside positive rest rfl rfl left nofun right nofun

end LineLexer
