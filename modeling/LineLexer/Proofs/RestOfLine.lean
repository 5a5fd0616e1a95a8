import LineLexer.Proofs.CoupledLines
import LineLexer.Proofs.Standstill

/-!
**The rest of a line beside the line.**

The rest of a line may be a line of its own. Its scan sees what the scan of the whole line sees from
there on, if no action goes back and no rule is for the start of lines; only the whole line's scan
may have seen groups that read nothing before.

* `Grammar.Onward`: a grammar whose scans do not look back;
* `Job.Tail`: the rest of a line as a line of its own;
* `Coupling.fair_of_tail`: steps in a line and in the rest of it are fair unless only the first scan
  has seen the same empty groups;
* `HostLine.ComesBack.bothStop`: both scans stop behind groups that only the first one has seen;
* `ends_or_stop`: the rest of a run does what the run of the rest does, or both stop.
-/

namespace LineLexer

open Scanning

/-- What lies behind a part of a text lies behind the same part of a longer one. -/
theorem Text.drop?_append {text rest : Text} {position : Nat}
    (cuts : text.drop? position = some rest) (more : Text) :
    drop? (text ++ more) position = some (rest ++ more) := by
  obtain ⟨before, rfl, rfl⟩ := drop?_eq_some_iff.1 cuts
  rw [List.append_assoc]
  exact drop?_size_append before (rest ++ more)

/-- A grammar whose scans do not look back: no action makes characters be read again, and no rule is
for the start of lines. -/
structure Grammar.Onward (grammar : Grammar) : Prop where
  forward : grammar.anyAction Action.goesBack = false
  unbound : ∀ {state rules rule}, grammar.findRules? state = some rules → rule ∈ rules →
    rule.atLineStart = false

/-- The rest of a line behind a place inside it, as a line of its own. -/
structure Job.Tail (job : Job) (position : Nat) (tail : Job) : Prop where
  tokenizer : tail.tokenizer = job.tokenizer
  line : job.line.drop? position = some tail.line
  nonempty : tail.line ≠ []
  ended : tail.ended = job.ended
  shift : tail.shift = job.shift + position

/-- The scans of such a grammar do not read characters again. -/
theorem Grammar.Onward.moderate {job : Job} (onward : job.tokenizer.grammar.Onward) :
    job.host.Moderate (Ungrouped none job.tokenizer) :=
  Job.moderate_host fun _ takes => takes.eq_of_alone ▸ onward.forward

namespace Coupling

variable {base otherBase : Trace} {stale : Option (Nat × Stack)} {job tail : Job}
  {scan scanOther : Scan} {trace other : Trace} {position : Nat}

/-- The rest of a line corresponds to the line. -/
theorem tails_of_tail (rest : job.Tail position tail) :
    (exact base otherBase Eq position stale).Tails job tail where
  tokenizers := rest.tokenizer ▸ exact_tokenizers_self _ rfl
  line := ⟨tail.line, rest.line, exact_texts.2 rfl⟩
  inside := Or.inr rest.nonempty
  ended := rest.ended.symm
  shift := rest.shift.symm

/-- The rules find the same in a line and in the rest of it. -/
theorem ends_findAt_tail (onward : job.tokenizer.grammar.Onward) (rest : job.Tail position tail)
    (scans : (exact base otherBase Eq position stale).Scans scan scanOther)
    (beside : (exact base otherBase Eq position stale).Beside trace other) :
    (exact base otherBase Eq position stale).Ends (exact base otherBase Eq position stale).Founds
      (outcome (job.host.tokenizer.findAt job.host.text scan.position scan.stack.state) trace)
      (outcome (tail.host.tokenizer.findAt tail.host.text scanOther.position
        scanOther.stack.state) other) := by
  have tokenizer : tail.host.tokenizer = job.host.tokenizer := rest.tokenizer
  have behind : job.host.text.drop? position = some tail.host.text := by
    show (if job.ended && job.tokenizer.grammar.includeLineFeed then
      job.line ++ ['\n'] else job.line).drop? position = some (if tail.ended &&
        tail.tokenizer.grammar.includeLineFeed then tail.line ++ ['\n'] else tail.line)
    rw [rest.ended, rest.tokenizer]
    split
    · exact Text.drop?_append rest.line _
    · exact rest.line
  have place : scan.position = position + scanOther.position := scans.position
  rw [tokenizer, scans.stack, place]
  refine ends_findAt (fun _ => True) (exact_tokenizers_self _ rfl) rfl ?_
    (fun holding rule listed bound => ?_)
    (fun _ _ _ _ => ⟨trivial, fun texts => ?_⟩) trivial beside
  · rw [Text.drop?_add behind]
    cases tail.host.text.drop? scanOther.position with
    | none => exact .none
    | some rest => exact .some (exact_texts.2 rfl)
  · rw [onward.unbound holding listed] at bound
    cases bound
  · rw [exact_texts.1 texts]

/-- Steps in a line and in the rest of it are fair unless only the first scan has seen the same
empty groups. -/
theorem fair_of_tail (onward : job.tokenizer.grammar.Onward) (rest : job.Tail position tail)
    {plain : Prop} (moderate : job.host.Moderate plain) (ready : job.host.Ready plain scan)
    (scans : (exact base otherBase Eq position stale).Scans scan scanOther)
    (beside : (exact base otherBase Eq position stale).Beside trace other)
    (unseen : ∀ {after found members}, job.host.TakesMatch scan trace after found →
      found.action.resolve job.host.settings (job.host.context scan after found) =
        .ok (.group members) → scan.replay = none → found.matched = [] →
          scanOther.emptyGroup = none → HostLine.seenEmptyGroup scan = false) :
    (exact base otherBase Eq position stale).Fair job.host tail.host scan scanOther trace
      other := by
  refine ⟨fun _ => ends_findAt_tail onward rest scans beside, fun _ behind founds => ?_,
    fun meets => ?_, unseen⟩
  · rw [eq_of_contexts (contexts_of_scans (tails_of_tail rest).hosts scans behind founds)]
  · obtain ⟨later, takes⟩ := meets
    exact Or.inr ((HostLine.take_ok takes).fits moderate ready).2

end Coupling

/-! ### Runs -/

namespace HostLine

variable {host : HostLine} {scan : Scan} {trace : Trace} {steps : Nat} {plain : Prop}

/-- A scan of the rest of a line stops as the scan of the line does, if that has seen nothing that
the other one has not. -/
theorem Halts.of_tail {job tail : Job} {position : Nat} {scanOther : Scan} {other : Trace}
    {stop : Stop} (halts : job.host.Halts scan trace stop)
    (onward : job.tokenizer.grammar.Onward) (rest : job.Tail position tail)
    (moderate : job.host.Moderate plain) (ready : job.host.Ready plain scan)
    (scans : (Coupling.exact trace other Eq position none).Scans scan scanOther)
    (memories : trace.memories = other.memories) : tail.host.Halts scanOther other stop := by
  obtain ⟨steps, later, stops, fault, adds⟩ := halts
  have start : (Coupling.exact trace other Eq position none).Beside trace other :=
    Coupling.Beside.refl memories
  have ends : (Coupling.exact trace other Eq position none).Ends
      (Coupling.exact trace other Eq position none).Departures
      (outcome (job.host.run steps scan) trace) (outcome (tail.host.run steps scanOther) other) :=
    Coupling.ends_run (Coupling.tails_of_tail rest).hosts scans start fun _ comes scans beside =>
      Coupling.fair_of_tail onward rest moderate (turn?_onwards moderate ready comes).1 scans beside
        fun _ _ _ _ fresh => scans.unseen rfl fresh
  rw [stops] at ends
  rcases done : outcome (tail.host.run steps scanOther) other with ⟨ending, last⟩
  rw [done] at ends
  cases ends with
  | stop same beside =>
    obtain ⟨told, addsLeft, addsRight⟩ := beside.events
    cases same
    cases adds.unique addsLeft
    exact ⟨steps, last, done, fault, addsRight⟩

/-- Whether a step is due does not matter to a step that finds no group pending. -/
theorem outcome_run_due (unpended : scan.replay = none) (due : host.isDue scan = true)
    {first : Bool} (dueOther : host.isDue { scan with due := first } = true) (steps : Nat)
    (trace : Trace) :
    outcome (host.run steps { scan with due := first }) trace =
      outcome (host.run steps scan) trace := by
  have same : host.step { scan with due := first } = host.step scan := by
    obtain ⟨position, stack, embedded, replay, emptyGroup, _⟩ := scan
    cases unpended
    rfl
  cases steps with
  | zero => rfl
  | succ steps => rw [outcome_run_succ, outcome_run_succ, if_pos due, if_pos dueOther, same]

end HostLine

/-! ### The rest of a run -/

/-- A scan that starts, with the stack of another one. -/
def Scan.renewed (scan : Scan) : Scan where
  position := 0
  stack := scan.stack
  embedded := none
  due := scan.due

section

variable {tokenizers : Set Tokenizer} {part tail : Job} {scan : Scan} {trace before opened : Trace}
  {turns : Nat}

/-- A match that is split in a line is split in the rest of it, too, by a scan that has seen no
groups that read nothing. -/
theorem Coupling.exists_paused {base otherBase : Trace} {stale : Option (Nat × Stack)}
    {position : Nat} {scanOther : Scan} {found : Found} {members : List Action}
    {trace other last : Trace} (onward : part.tokenizer.grammar.Onward)
    (rest : part.Tail position tail)
    (scans : (exact base otherBase Eq position stale).Scans scan scanOther)
    (beside : (exact base otherBase Eq position stale).Beside trace other)
    (takes : outcome (part.host.take scan) trace =
      (.ok (some ({ scan with due := false }, found)), last))
    (leads : found.action.resolve part.host.settings (part.host.context scan scan found) =
      .ok (.group members)) (splittable : HostLine.Splittable found members)
    (unpended : scan.replay = none) (unseen : scanOther.emptyGroup = none) :
    ∃ lastOther, outcome (tail.host.step scanOther) other =
        (.ok (.goOn (scanOther.paused found members)), lastOther) ∧
      (exact base otherBase Eq position stale).Beside last lastOther := by
  have hosts : (exact base otherBase Eq position stale).Hosts part.host tail.host :=
    (tails_of_tail rest).hosts
  have ends := ends_take scans beside fun _ => ends_findAt_tail onward rest scans beside
  rw [takes] at ends
  rcases takesOther : outcome (tail.host.take scanOther) other with ⟨ending, lastOther⟩
  rw [takesOther] at ends
  cases ends with
  | result same besideLast =>
    cases same with
    | @some _ taken same =>
      obtain ⟨afterOther, foundOther⟩ := taken
      obtain ⟨behind, founds⟩ := same
      obtain rfl : found = foundOther := eq_of_founds founds
      have settings : tail.host.settings = part.host.settings := by
        show tail.tokenizer.grammar.settings = part.tokenizer.grammar.settings
        rw [rest.tokenizer]
      have leadsOther : found.action.resolve tail.host.settings
          (tail.host.context scanOther afterOther found) = .ok (.group members) := by
        rw [settings, ← eq_of_contexts (contexts_of_scans hosts scans behind founds)]
        exact leads
      have unpendedOther : scanOther.replay = none := by
        have replays := scans.replay
        rw [unpended] at replays
        generalize scanOther.replay = replay at replays ⊢
        cases replays
        rfl
      refine ⟨lastOther, ?_, besideLast⟩
      rw [HostLine.outcome_step_of_group takesOther leadsOther, splittable scanOther unpendedOther]
      unfold HostLine.seenEmptyGroup
      rw [unseen]
      rfl

/-- Scans that correspond do so behind a match that both have split. -/
theorem Coupling.scans_paused {base otherBase baseLater otherLater : Trace}
    {stale : Option (Nat × Stack)} {position : Nat} {scanOther : Scan}
    (scans : (exact base otherBase Eq position stale).Scans scan scanOther) (found : Found)
    (members : List Action) :
    (exact baseLater otherLater Eq position none).Scans (scan.paused found members)
      (scanOther.paused found members) := by
  refine ⟨scans.position, scans.stack, scans.embedded, .some ⟨rfl, exact_listed.2 rfl, ?_⟩, ?_, rfl⟩
  · exact List.forall₂_same.2 fun member _ => ⟨rfl, exact_texts.2 rfl⟩
  · show Seen _ (some (scan.position, scan.stack)) (some (scanOther.position, scanOther.stack))
    rw [scans.position, scans.stack]
    exact .some _ _

/-- Where nothing is told behind the first one of two traces that go together, nothing is told
behind the second one. -/
theorem Coupling.Beside.silent {base otherBase later laterOther last lastOther : Trace}
    {stale : Option (Nat × Stack)} {position : Nat}
    (beside : (exact base otherBase Eq position stale).Beside later laterOther)
    (besideLast : (exact base otherBase Eq position stale).Beside last lastOther)
    (silent : later.Adds [] last) : laterOther.Adds [] lastOther := by
  obtain ⟨told, adds, addsOther⟩ := beside.events
  obtain ⟨toldLast, addsLast, addsLastOther⟩ := besideLast.events
  have same : told ++ [] = toldLast := (Trace.Adds.trans adds silent).unique addsLast
  rw [Trace.Adds.nil_iff, ← Array.toList_inj, addsOther, addsLastOther, ← same, List.append_nil]

/-- Two runs stop, and they have told the same by then. -/
structure BothStop (host twin : HostLine) (scan scanOther : Scan) (trace other : Trace)
    (stop halt : Stop) : Prop where
  faults : stop ≠ .exhausted ∧ halt ≠ .exhausted
  stops : ∃ steps stepsOther later last told,
    outcome (host.run steps scan) trace = (.error stop, later) ∧ trace.Adds told later ∧
      outcome (twin.run stepsOther scanOther) other = (.error halt, last) ∧ other.Adds told last

/-- Two runs stop if they do behind the same turn, up to which they have told the same. -/
theorem BothStop.of_turns {host twin : HostLine} {again scanOther againOther : Scan}
    {other later laterOther : Trace} {stop halt : Stop} {told : List Event}
    (both : BothStop host twin again againOther later laterOther stop halt)
    (comes : host.turn? turns scan trace = some (again, later))
    (comesOther : twin.turn? turns scanOther other = some (againOther, laterOther))
    (adds : trace.Adds told later) (addsOther : other.Adds told laterOther) :
    BothStop host twin scan scanOther trace other stop halt := by
  obtain ⟨faults, steps, stepsOther, last, lastOther, more, stops, addsLast, stopsOther,
    addsLastOther⟩ := both
  exact ⟨faults, turns + steps, turns + stepsOther, last, lastOther, told ++ more,
    (HostLine.run_of_turn? steps comes).trans stops, adds.trans addsLast,
    (HostLine.run_of_turn? stepsOther comesOther).trans stopsOther, addsOther.trans addsLastOther⟩

section

variable {base otherBase other later laterOther : Trace} {stale : Option (Nat × Stack)}
  {position : Nat} {again scanOther againOther : Scan} {plain : Prop}

/-- Runs of a line and of the rest of it do the same, unless they come to a turn at which only the
first scan has seen the groups that it stands at: those that it has seen from the start. -/
theorem Coupling.ends_or_seen (onward : part.tokenizer.grammar.Onward)
    (rest : part.Tail position tail) (moderate : part.host.Moderate plain)
    (ready : part.host.Ready plain scan)
    (scans : (exact base otherBase Eq position stale).Scans scan scanOther)
    (beside : (exact base otherBase Eq position stale).Beside trace other) (steps : Nat) :
    (exact base otherBase Eq position stale).Ends
        (exact base otherBase Eq position stale).Departures
        (outcome (part.host.run steps scan) trace)
        (outcome (tail.host.run steps scanOther) other) ∨
      ∃ turns again later againOther laterOther,
        part.host.turn? turns scan trace = some (again, later) ∧
        tail.host.turn? turns scanOther other = some (againOther, laterOther) ∧
        (exact base otherBase Eq position stale).Scans again againOther ∧
        (exact base otherBase Eq position stale).Beside later laterOther ∧
        again.replay = none ∧ againOther.emptyGroup = none ∧ again.emptyGroup = stale ∧
        HostLine.seenEmptyGroup again = true := by
  refine (ends_run_or (tails_of_tail rest).hosts scans beside steps).imp_right ?_
  rintro ⟨turns, again, later, againOther, laterOther, -, comes, comesOther, scansAgain,
    besideAgain, unfair⟩
  have readyAgain := (HostLine.turn?_onwards moderate ready comes).1
  -- The steps differ in nothing else than which groups have been seen before.
  obtain ⟨unpended, unseen, seen⟩ : again.replay = none ∧ againOther.emptyGroup = none ∧
      HostLine.seenEmptyGroup again = true := by
    by_contra clear
    refine unfair (fair_of_tail onward rest moderate readyAgain scansAgain besideAgain
      fun _ _ unpended _ unseen => ?_)
    by_contra seen
    exact clear ⟨unpended, unseen, by simpa using seen⟩
  have kept : again.emptyGroup = stale := by
    have seenToo := scansAgain.seen
    unfold HostLine.seenEmptyGroup at seen
    rw [unseen] at seenToo
    generalize again.emptyGroup = group at seen seenToo ⊢
    cases seenToo with
    | none => cases seen
    | stale => rfl
  exact ⟨turns, again, later, againOther, laterOther, comes, comesOther, scansAgain, besideAgain,
    unpended, unseen, kept, seen⟩

/-- Where the scan of a line has come back to groups that it has seen, and the scan of the rest of
the line has not seen them, the first one stops for want of progress. The second one splits the
match once more, and then it stops as the first one would have done outside of any embedded
language. -/
theorem HostLine.ComesBack.bothStop {earlier : Nat} {first : Scan} {passed middle : Trace}
    {found : Found} {members : List Action}
    (back : part.host.ComesBack part.start trace earlier first passed found members middle again
      later) (injective : tokenizers.InjOn Tokenizer.identity)
    (known : part.host.tokenizer ∈ tokenizers) (sound : trace.memories.Sound tokenizers)
    (onward : part.tokenizer.grammar.Onward) (rest : part.Tail position tail)
    (scans : (Coupling.exact base otherBase Eq position stale).Scans again againOther)
    (beside : (Coupling.exact base otherBase Eq position stale).Beside later laterOther)
    (outside : again.embedded = none) (unseen : againOther.emptyGroup = none)
    (seen : seenEmptyGroup again = true) :
    ∃ fault, BothStop part.host tail.host again againOther later laterOther
        (.fault ⟨part.tokenizer.language, .noProgress found.rule⟩)
        (.fault ⟨part.tokenizer.language, fault⟩) ∧
      (fault = .noProgress found.rule ∨ fault = .notEmbedded ∧ first.embedded ≠ none) := by
  have moderate := onward.moderate
  have starts := Job.ready_start part (Ungrouped none part.tokenizer)
  obtain ⟨turns, returns⟩ := back.returns
  have due := isDue_of_turn? returns
  have dueOther : tail.host.isDue againOther = true := by
    rwa [← scans.isDue_eq (Coupling.tails_of_tail rest).hosts]
  have soundLater := turn?_sound injective known (back.sound_middle injective known sound) returns
  obtain ⟨last, takes, leads⟩ := back.takes_again injective known sound
  have silent : later.Adds [] last := (quiet_take part.host again).adds takes
  obtain ⟨lastOther, stepped, besideLast⟩ := Coupling.exists_paused onward rest scans beside takes
    leads back.pauses.splittable back.unpended unseen
  have soundLast : lastOther.memories.Sound tokenizers := by
    have self : Agree tokenizers True True (SameTaken True (again.replay ≠ none))
        (part.host.take again) (part.host.take again) := agree_take injective known (.refl again)
    rw [← besideLast.memories]
    exact self.sound soundLater takes
  obtain ⟨fault, halts, which⟩ := back.halts injective known sound moderate starts outside seen
  have haltsOther : tail.host.Halts (againOther.paused found members) lastOther
      (.fault ⟨part.tokenizer.language, fault⟩) :=
    (back.halts_again injective known sound outside halts soundLast).of_tail onward rest moderate
      (back.ready_again moderate starts) (Coupling.scans_paused scans found members) rfl
  obtain ⟨stepsOther, ending, stopsOther, -, silentOther⟩ := haltsOther
  refine ⟨fault, ⟨⟨nofun, nofun⟩, 1, stepsOther + 1, last, ending, [], ?_, silent, ?_, ?_⟩, which⟩
  · rw [outcome_run_succ, if_pos due, back.stops_again seen takes leads]
    rfl
  · rw [outcome_run_succ, if_pos dueOther, stepped]
    exact stopsOther
  · exact (beside.silent besideLast silent).trans silentOther

end

/-- The rest of a run does what the run of the rest of the line does, unless it comes up against
groups that read nothing, which it has seen where it stands. -/
theorem ends_or_stop (injective : tokenizers.InjOn Tokenizer.identity)
    (known : part.host.tokenizer ∈ tokenizers) (sound : trace.memories.Sound tokenizers)
    (onward : part.tokenizer.grammar.Onward)
    (comes : part.host.turn? turns part.start trace = some (scan, before))
    (unpended : scan.replay = none) (outside : scan.embedded = none)
    (rest : part.Tail scan.position tail) (memories : before.memories = opened.memories) :
    (∀ steps, (Coupling.exact before opened Eq scan.position scan.emptyGroup).Ends
        (Coupling.exact before opened Eq scan.position scan.emptyGroup).Departures
        (outcome (part.host.run steps scan) before)
        (outcome (tail.host.run steps scan.renewed) opened)) ∨
      ∃ rule fault, BothStop part.host tail.host scan scan.renewed before opened
          (.fault ⟨part.tokenizer.language, .noProgress rule⟩)
          (.fault ⟨part.tokenizer.language, fault⟩) ∧
        (fault = .noProgress rule ∨
          fault = .notEmbedded ∧ part.host.PausedInside part.start trace turns scan) := by
  have ready := (HostLine.turn?_onwards onward.moderate (Job.ready_start part _) comes).1
  have scans : (Coupling.exact before opened Eq scan.position scan.emptyGroup).Scans scan
      scan.renewed := by
    refine ⟨rfl, rfl, outside, ?_, .stale, rfl⟩
    rw [unpended]
    exact .none
  by_cases all : ∀ steps, (Coupling.exact before opened Eq scan.position scan.emptyGroup).Ends
    (Coupling.exact before opened Eq scan.position scan.emptyGroup).Departures
    (outcome (part.host.run steps scan) before) (outcome (tail.host.run steps scan.renewed) opened)
  · exact Or.inl all
  right
  obtain ⟨steps, differs⟩ := not_forall.1 all
  obtain ⟨more, again, later, againOther, laterOther, behind, behindOther, scansAgain, beside,
    unpendedAgain, unseen, kept, seen⟩ := (Coupling.ends_or_seen onward rest onward.moderate ready
      scans (Coupling.Beside.refl memories) steps).resolve_left differs
  obtain ⟨position, earlier, first, passed, found, members, middle, sooner, back, record⟩ :=
    HostLine.exists_comesBack onward.moderate (Job.ready_start part _) rfl comes behind
      unpendedAgain kept seen
  obtain ⟨fault, both, which⟩ := back.bothStop injective known sound onward rest scansAgain beside
    (HostLine.turn?_embedded outside behind) unseen seen
  obtain ⟨told, adds, addsOther⟩ := beside.events
  refine ⟨found.rule, fault, both.of_turns behind behindOther adds addsOther,
    which.imp_right fun ⟨same, inside⟩ => ⟨same, earlier, first, passed, found, members, middle,
      sooner, back.comes, back.pauses, inside, ?_, record⟩⟩
  rw [← position, back.position]

end

end LineLexer
