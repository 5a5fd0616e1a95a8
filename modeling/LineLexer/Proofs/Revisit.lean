import LineLexer.Proofs.Incremental
import LineLexer.Proofs.Tiling
import Mathlib.Order.Preorder.Finite

/-!
**Scans that come to one place twice.**

What a scan does next depends on where it stands, on the match whose groups are pending, and on the
empty groups that it has seen last. So a scan that comes twice to one place with the same match does
the same again, and never ends, unless it is stopped because it has seen the same empty groups
before.

* `Scan.place`: where a scan stands;
* `HostLine.due_step`: no step is due at the end of the text behind a step;
* `exists_turn?_of_alike`: scans that are alike come to the same turns;
* `exists_turn?_of_returns`: a scan that comes to alike turns goes on in the same way for ever;
* `returns_iff`: which scans come twice to one place;
* `Work.returns_iff_endless`: the same for each scan in the work on a line after earlier calls.
-/

namespace LineLexer

open Scanning

/-- Where a scan stands: the position, the stack, the embedded language and the pending groups. -/
def Scan.place (scan : Scan) : Nat × List String ×
    Option (String × Option (List (List String × Option String))) × List (Action × Text) :=
  (scan.position, scan.stack.names, scan.embedded.map Embedded.content, Replay.pending scan.replay)

/-- The empty groups that a scan has seen last. -/
def Scan.seen (scan : Scan) : Option (Nat × List String) :=
  scan.emptyGroup.map fun seen => (seen.1, seen.2.names)

namespace HostLine

variable {host : HostLine} {scan other after reached next start : Scan} {found : Found}
  {trace traceOther middle later : Trace} {tokenizers : Set Tokenizer} {strict : Prop}
  {turns more : Nat}

/-! ### When steps are due -/

/-- Behind the match that a step takes no step is due, if none is due while groups are pending. -/
theorem due_take (settled : scan.replay ≠ none → scan.due = false)
    (takes : outcome (host.take scan) trace = (.ok (some (after, found)), later)) :
    after.due = false := by
  unfold take at takes
  split at takes
  · next replay first =>
    split at takes
    · cases takes
    · cases takes
      refine settled ?_
      rw [first]
      exact Option.some_ne_none replay
  · obtain ⟨_, -, same⟩ := outcome_map_eq_ok.1 takes
    cases same
    rfl

/-- Behind a step that goes on no step is due, if none is due while groups are pending. -/
theorem due_step (settled : scan.replay ≠ none → scan.due = false)
    (leads : outcome (host.step scan) trace = (.ok (.goOn next), later)) : next.due = false := by
  rw [step_eq] at leads
  obtain ⟨taken, middle, takes, applies⟩ := outcome_bind_eq_ok.1 leads
  cases taken with
  | none =>
    obtain ⟨-, replay, first, -⟩ := take_none takes
    cases applies
    refine settled ?_
    rw [first]
    exact Option.some_ne_none replay
  | some pair =>
    obtain ⟨after, found⟩ := pair
    have idle := due_take settled takes
    obtain ⟨resolved, _, -, acting⟩ := outcome_bind_eq_ok.1 applies
    cases resolved with
    | group members =>
      obtain ⟨changed, splitting, same⟩ := outcome_map_eq_ok.1 acting
      cases same
      obtain ⟨-, -, -, emptyGroup, rfl⟩ := splitGroups_ok (outcome_settle_eq_ok.1 splitting).1
      rfl
    | token action =>
      dsimp only at acting
      rw [applyToken_eq] at acting
      obtain ⟨⟨changed, entering⟩, _, transits, concludes⟩ := outcome_bind_eq_ok.1 acting
      obtain ⟨position, stack, embedded, -, rfl⟩ := transit_changes transits
      have ends := conclude_leads concludes
      cases entering with
      | some name => cases ends
      | none =>
        cases ends
        unfold behind
        split <;> exact idle

/-- At each turn no step is due while groups are pending. -/
theorem turn?_settled (unpended : start.replay = none)
    (comes : host.turn? turns start trace = some (reached, later)) :
    reached.replay ≠ none → reached.due = false :=
  turn?_invariant (fun scan _ => scan.replay ≠ none → scan.due = false)
    (fun settled leads _ => due_step settled leads) (fun pends => absurd unpended pends) comes

/-! ### Scans that go on in the same way -/

/-- A run is stopped for want of progress. -/
def Stalled (host : HostLine) (scan : Scan) (trace : Trace) : Prop :=
  ∃ steps stop later, outcome (host.run steps scan) trace = (.error stop, later) ∧ Stalls stop

/-- A run that is stopped for want of progress behind a turn is stopped. -/
theorem stalled_of_turn? (comes : host.turn? turns scan trace = some (reached, later))
    (stalled : host.Stalled reached later) : host.Stalled scan trace := by
  obtain ⟨steps, stop, ends, stopped, stalls⟩ := stalled
  exact ⟨turns + steps, stop, ends, (run_of_turn? steps comes).trans stopped, stalls⟩

/-- A run is stopped where its first step is. -/
theorem stalled_of_step {stop : Stop} (due : host.isDue scan = true) (stalls : Stalls stop)
    (stops : outcome (host.step scan) trace = (.error stop, later)) : host.Stalled scan trace := by
  refine ⟨1, stop, later, ?_, stalls⟩
  rw [outcome_run_succ, if_pos due, stops]

/-- A run is stopped where what follows its first step is. -/
theorem stalled_of_next (due : host.isDue scan = true)
    (leads : outcome (host.step scan) trace = (.ok (.goOn next), middle))
    (stalled : host.Stalled next middle) : host.Stalled scan trace := by
  obtain ⟨steps, stop, ends, stopped, stalls⟩ := stalled
  refine ⟨steps + 1, stop, ends, ?_, stalls⟩
  rw [outcome_run_succ, if_pos due, leads]
  exact stopped

/-- A run that ends with a departure has not enough steps, if it is stopped with fewer or more. -/
theorem eq_exhausted_of_run {steps limit : Nat} {departure : Departure} {stop : Stop}
    (done : outcome (host.run steps scan) trace = (.ok departure, middle))
    (stopped : outcome (host.run limit scan) trace = (.error stop, later)) : stop = .exhausted := by
  induction steps generalizing limit scan trace with
  | zero => cases done
  | succ steps step =>
    cases limit with
    | zero =>
      cases stopped
      rfl
    | succ limit =>
      rw [outcome_run_succ] at done stopped
      split at done
      · next due =>
        rw [if_pos due] at stopped
        split at done
        · next leads =>
          rw [leads] at stopped
          exact step done stopped
        · next leads =>
          rw [leads] at stopped
          cases stopped
        · cases done
      · next finished =>
        rw [if_neg finished] at stopped
        cases stopped

/-- A run that ends with a departure is not stopped for want of progress. -/
theorem not_stalled_of_run {steps : Nat} {departure : Departure}
    (done : outcome (host.run steps scan) trace = (.ok departure, middle)) :
    ¬ host.Stalled scan trace := by
  rintro ⟨limit, stop, later, stopped, stalls⟩
  rw [eq_exhausted_of_run done stopped] at stalls
  exact stalls

/-- Whether a step is due is the same for scans that are alike. -/
theorem isDue_of_alike (alike : scan.Alike strict True other) :
    host.isDue scan = host.isDue other := by
  unfold isDue
  rw [alike.due trivial, alike.position]

/-- A scan that comes to a turn has a step due where it starts. -/
theorem isDue_start_of_turn? (comes : host.turn? turns scan trace = some (reached, later)) :
    host.isDue scan = true := by
  cases turns with
  | zero => exact (eq_of_turn?_zero comes).1
  | succ turns => exact (exists_of_turn?_succ comes).1

/-- Scans that are alike come to the same turns, unless one of them is stopped because it has seen
the same empty groups before. -/
theorem exists_turn?_of_alike (injective : tokenizers.InjOn Tokenizer.identity)
    (known : host.tokenizer ∈ tokenizers) (alike : scan.Alike strict (scan.replay ≠ none) other)
    (traces : Alike tokenizers False trace traceOther)
    (lasts : strict ∨ ¬ host.Stalled other traceOther) (due : host.isDue other = true)
    (comes : host.turn? turns scan trace = some (reached, later)) :
    ∃ reachedOther laterOther,
      host.turn? turns other traceOther = some (reachedOther, laterOther) ∧
        reached.Alike strict (reached.replay ≠ none) reachedOther := by
  induction turns generalizing scan other trace traceOther with
  | zero =>
    obtain ⟨-, rfl, rfl⟩ := eq_of_turn?_zero comes
    exact ⟨other, traceOther, turn?_zero due, alike⟩
  | succ turns step =>
    obtain ⟨-, next, middle, leads, rest⟩ := exists_of_turn?_succ comes
    have ends := agree_step injective known alike trace traceOther traces
    rw [leads] at ends
    rcases stands : outcome (host.step other) traceOther with ⟨ending, behind⟩
    rw [stands] at ends
    cases ends with
    | result same traces =>
      cases same with
      | goOn alikeNext =>
        have dueNext := isDue_start_of_turn? rest
        rw [isDue_of_alike alikeNext] at dueNext
        have lastsNext := lasts.imp_right fun unstalled stalled =>
          unstalled (stalled_of_next due stands stalled)
        obtain ⟨reachedOther, laterOther, comesOther, alikeReached⟩ :=
          step (alikeNext.mono fun _ => trivial) traces lastsNext dueNext rest
        exact ⟨reachedOther, laterOther, (turn?_succ due stands).trans comesOther, alikeReached⟩
    | stallsRight lax stalls =>
      rcases lasts with holds | unstalled
      · exact absurd holds lax
      · exact absurd (stalled_of_step due stalls stands) unstalled

/-- Memories stay sound up to each turn. -/
theorem turn?_sound (injective : tokenizers.InjOn Tokenizer.identity)
    (known : host.tokenizer ∈ tokenizers) (sound : trace.memories.Sound tokenizers)
    (comes : host.turn? turns scan trace = some (reached, later)) :
    later.memories.Sound tokenizers := by
  refine turn?_invariant (fun _ trace => trace.memories.Sound tokenizers)
    (fun {scan next trace later} sound leads => ?_) sound comes
  have self : Agree tokenizers True True (Next.Alike True) (host.step scan) (host.step scan) :=
    agree_step injective known (.refl scan)
  exact self.sound sound leads

/-! ### Scans that come to one place twice -/

/-- A scan comes to a turn, and where it stands then. -/
def ComesTo (host : HostLine) (start : Scan) (trace : Trace) (turns : Nat) (reached : Scan) :
    Prop :=
  ∃ later, host.turn? turns start trace = some (reached, later)

/-- A scan comes twice to one place. -/
def Returns (host : HostLine) (start : Scan) (trace : Trace) : Prop :=
  ∃ earlier turns scan other, earlier < turns ∧ host.ComesTo start trace earlier scan ∧
    host.ComesTo start trace turns other ∧ scan.place = other.place

/-- A scan comes twice to one place, and what is pending there is not of the same match. -/
def Confuses (host : HostLine) (start : Scan) (trace : Trace) : Prop :=
  ∃ earlier turns scan other, earlier < turns ∧ host.ComesTo start trace earlier scan ∧
    host.ComesTo start trace turns other ∧ scan.place = other.place ∧ scan.replay ≠ other.replay

/-- A scan comes to every turn, so no number of steps is enough for it. -/
def Endless (host : HostLine) (start : Scan) (trace : Trace) : Prop :=
  ∀ turns, ∃ reached, host.ComesTo start trace turns reached

/-- The places that a scan comes to are finitely many. -/
def Confined (host : HostLine) (start : Scan) (trace : Trace) : Prop :=
  {place | ∃ turns reached, host.ComesTo start trace turns reached ∧ reached.place = place}.Finite

/-- A run of a scan that comes to every turn never has enough steps. -/
theorem Endless.exhausted (endless : host.Endless start trace) (steps : Nat) :
    ∃ later, outcome (host.run steps start) trace = (.error .exhausted, later) := by
  obtain ⟨reached, later, comes⟩ := endless steps
  exact ⟨later, run_of_turn? 0 comes⟩

/-- A scan that has come to a turn has come to all earlier ones. -/
theorem ComesTo.earlier (comes : host.ComesTo start trace (turns + more) reached) :
    ∃ scan, host.ComesTo start trace turns scan := by
  obtain ⟨later, comes⟩ := comes
  rw [turn?_add] at comes
  obtain ⟨⟨scan, before⟩, first, -⟩ := Option.bind_eq_some_iff.1 comes
  exact ⟨scan, before, first⟩

/-- At one place with the same match two turns are alike, and alike for ever if they have also seen
the same empty groups. -/
theorem alike_of_place (unpended : start.replay = none) {earlier : Nat}
    (comes : host.ComesTo start trace earlier scan)
    (comesOther : host.ComesTo start trace turns other) (place : scan.place = other.place)
    (replay : scan.replay = other.replay) (seen : strict → scan.seen = other.seen) :
    scan.Alike strict (scan.replay ≠ none) other := by
  obtain ⟨_, comes⟩ := comes
  obtain ⟨_, comesOther⟩ := comesOther
  unfold Scan.place at place
  simp only [Prod.mk.injEq] at place
  obtain ⟨position, stack, embedded, -⟩ := place
  refine ⟨position, stack, embedded, replay, seen, fun pends => ?_⟩
  have pendsOther : other.replay ≠ none := by rwa [← replay]
  rw [turn?_settled unpended comes pends, turn?_settled unpended comesOther pendsOther]

/-- A scan that comes to two turns that are alike goes on in the same way behind both. -/
theorem exists_turn?_of_returns (injective : tokenizers.InjOn Tokenizer.identity)
    (known : host.tokenizer ∈ tokenizers) (sound : trace.memories.Sound tokenizers) {earlier : Nat}
    (before : earlier < turns) (comes : host.ComesTo start trace earlier scan)
    (comesOther : host.ComesTo start trace turns other)
    (alike : scan.Alike strict (scan.replay ≠ none) other)
    (lasts : strict ∨ ¬ host.Stalled start trace) (more : Nat) :
    ∃ reached reachedOther, host.ComesTo start trace (earlier + more) reached ∧
      host.ComesTo start trace (turns + more) reachedOther ∧
      reached.place = reachedOther.place := by
  obtain ⟨middle, comes⟩ := comes
  obtain ⟨middleOther, comesOther⟩ := comesOther
  induction more using Nat.strongRecOn with
  | ind more step =>
    have first : ∃ reached, host.ComesTo start trace (earlier + more) reached := by
      by_cases passed : earlier + more ≤ turns
      · obtain ⟨left, same⟩ := Nat.exists_eq_add_of_le passed
        have whole : host.ComesTo start trace (earlier + more + left) other := by
          rw [← same]
          exact ⟨middleOther, comesOther⟩
        exact whole.earlier
      · -- The turn is one that has been found behind the second of the two.
        obtain ⟨_, reached, -, found, -⟩ := step (earlier + more - turns) (by omega)
        have same : turns + (earlier + more - turns) = earlier + more := by omega
        rw [same] at found
        exact ⟨reached, found⟩
    obtain ⟨reached, later, found⟩ := first
    have behind := found
    rw [turn?_add, comes, Option.bind_some] at behind
    have lastsOther := lasts.imp_right fun unstalled stalled =>
      unstalled (stalled_of_turn? comesOther stalled)
    have traces : Alike tokenizers False middle middleOther :=
      ⟨turn?_sound injective known sound comes, turn?_sound injective known sound comesOther,
        False.elim, False.elim⟩
    obtain ⟨reachedOther, laterOther, behindOther, alikeReached⟩ :=
      exists_turn?_of_alike injective known alike traces lastsOther (isDue_of_turn? comesOther)
        behind
    refine ⟨reached, reachedOther, ⟨later, found⟩, ⟨laterOther, ?_⟩, ?_⟩
    · rw [turn?_add, comesOther]
      exact behindOther
    · unfold Scan.place
      rw [alikeReached.position, alikeReached.stack, alikeReached.embedded, alikeReached.replay]

/-- A scan that comes to two turns that are alike never ends. -/
theorem endless_of_returns (injective : tokenizers.InjOn Tokenizer.identity)
    (known : host.tokenizer ∈ tokenizers) (sound : trace.memories.Sound tokenizers) {earlier : Nat}
    (before : earlier < turns) (comes : host.ComesTo start trace earlier scan)
    (comesOther : host.ComesTo start trace turns other)
    (alike : scan.Alike strict (scan.replay ≠ none) other)
    (lasts : strict ∨ ¬ host.Stalled start trace) : host.Endless start trace := by
  intro more
  obtain ⟨_, reached, -, found, -⟩ :=
    exists_turn?_of_returns injective known sound before comes comesOther alike lasts more
  rw [Nat.add_comm] at found
  exact found.earlier

/-- A scan that comes to two turns that are alike comes to no place behind the second of them that
it has not come to before. -/
theorem confined_of_returns (injective : tokenizers.InjOn Tokenizer.identity)
    (known : host.tokenizer ∈ tokenizers) (sound : trace.memories.Sound tokenizers) {earlier : Nat}
    (before : earlier < turns) (comes : host.ComesTo start trace earlier scan)
    (comesOther : host.ComesTo start trace turns other)
    (alike : scan.Alike strict (scan.replay ≠ none) other)
    (lasts : strict ∨ ¬ host.Stalled start trace) : host.Confined start trace := by
  have sooner : ∀ late reached, host.ComesTo start trace late reached →
      ∃ early < turns, ∃ scan, host.ComesTo start trace early scan ∧
        scan.place = reached.place := by
    intro late
    induction late using Nat.strongRecOn with
    | ind late step =>
      intro reached found
      by_cases passed : late < turns
      · exact ⟨late, passed, reached, found, rfl⟩
      · obtain ⟨more, rfl⟩ := Nat.exists_eq_add_of_le (Nat.le_of_not_lt passed)
        obtain ⟨first, second, foundFirst, ⟨_, foundSecond⟩, same⟩ :=
          exists_turn?_of_returns injective known sound before comes comesOther alike lasts more
        obtain ⟨_, found⟩ := found
        rw [found] at foundSecond
        cases foundSecond
        obtain ⟨early, allowed, scan, foundEarly, sameEarly⟩ :=
          step (earlier + more) (by omega) first foundFirst
        exact ⟨early, allowed, scan, foundEarly, sameEarly.trans same⟩
  refine ((Set.finite_lt_nat turns).image fun early =>
    (((host.turn? early start trace).map Prod.fst).getD start).place).subset ?_
  rintro place ⟨late, reached, found, rfl⟩
  obtain ⟨early, allowed, scan, ⟨_, foundEarly⟩, same⟩ := sooner late reached found
  refine ⟨early, allowed, ?_⟩
  dsimp only
  rw [foundEarly]
  exact same

/-- A scan that never ends and comes to finitely many places comes to one of them twice. -/
theorem returns_of_confined (endless : host.Endless start trace)
    (confined : host.Confined start trace) : host.Returns start trace := by
  choose reached comes using endless
  have placed : ∀ turns, (reached turns).place ∈
      {place | ∃ turns scan, host.ComesTo start trace turns scan ∧ scan.place = place} :=
    fun turns => ⟨turns, reached turns, comes turns, rfl⟩
  obtain ⟨earlier, turns, before, same⟩ := Set.Finite.exists_lt_map_eq_of_forall_mem placed confined
  exact ⟨earlier, turns, reached earlier, reached turns, before, comes earlier, comes turns, same⟩

/-- Unless it is stopped for want of progress, a scan comes twice to one place exactly where it
never ends and comes to finitely many places, or where the same is pending of different
matches. -/
theorem returns_iff (injective : tokenizers.InjOn Tokenizer.identity)
    (known : host.tokenizer ∈ tokenizers) (sound : trace.memories.Sound tokenizers)
    (unpended : start.replay = none) (unstalled : ¬ host.Stalled start trace) :
    host.Returns start trace ↔
      (host.Endless start trace ∧ host.Confined start trace) ∨ host.Confuses start trace := by
  constructor
  · rintro ⟨earlier, turns, scan, other, before, comes, comesOther, place⟩
    by_cases replay : scan.replay = other.replay
    · have alike : scan.Alike False (scan.replay ≠ none) other :=
        alike_of_place unpended comes comesOther place replay False.elim
      exact Or.inl ⟨endless_of_returns injective known sound before comes comesOther alike
          (Or.inr unstalled),
        confined_of_returns injective known sound before comes comesOther alike
          (Or.inr unstalled)⟩
    · exact Or.inr ⟨earlier, turns, scan, other, before, comes, comesOther, place, replay⟩
  · rintro (⟨endless, confined⟩ | ⟨earlier, turns, scan, other, before, comes, again, place, -⟩)
    · exact returns_of_confined endless confined
    · exact ⟨earlier, turns, scan, other, before, comes, again, place⟩

end HostLine

/-! ### Scans in the work on a line -/

namespace Work

open Job

variable {tokenizers : Set Tokenizer} {registry : Option Registry} {steps : Nat}
  {work inner : Work} {part : Job} {middle : Trace}

/-- Before the scan in the work on a line memories are sound if they were before the work. -/
theorem Scans.sound (injective : tokenizers.InjOn Tokenizer.identity)
    (known : Known tokenizers registry work.job.tokenizer)
    (sound : work.trace.memories.Sound tokenizers)
    (scans : work.Scans registry steps part middle) : middle.memories.Sound tokenizers := by
  cases scans with
  | @opens depth _ _ _ _ opens =>
    have agrees : AgreesOn tokenizers registry (tokenizeWithin registry steps depth) :=
      agree_tokenizeWithin injective depth
    exact (agree_openWith injective agrees (.refl _) known).sound sound opens

/-- The scan is by one of the tokenizers. -/
theorem Scans.member (known : Known tokenizers registry work.job.tokenizer)
    (scans : work.Scans registry steps part middle) : part.host.tokenizer ∈ tokenizers := by
  show part.tokenizer ∈ tokenizers
  rw [scans.tokenizer]
  exact known _ .self

/-- And so they are before the work on a part of the line. -/
theorem Gives.sound (injective : tokenizers.InjOn Tokenizer.identity)
    (known : Known tokenizers registry work.job.tokenizer)
    (sound : work.trace.memories.Sound tokenizers) (gives : Gives registry steps work inner) :
    inner.trace.memories.Sound tokenizers := by
  cases gives with
  | whole => exact sound
  | before => exact sound
  | behind scans departs hands =>
    have knownPart := known
    rw [← scans.tokenizer] at knownPart
    have opened := scans.sound injective known sound
    have scanned := (agree_scanOwn injective (.refl _) knownPart).sound opened departs
    exact (agree_handOver injective (.refl _) knownPart (.refl _)).sound scanned hands

/-- All tokenizers that may take part in the work on a part of the line may do so in the work on the
line. -/
theorem Involves.known (involves : Involves registry steps work inner)
    (known : Known tokenizers registry work.job.tokenizer) :
    Known tokenizers registry inner.job.tokenizer := fun other takes =>
  known other (involves.takesPart.trans takes)

theorem Involves.sound (injective : tokenizers.InjOn Tokenizer.identity)
    (known : Known tokenizers registry work.job.tokenizer)
    (sound : work.trace.memories.Sound tokenizers) (involves : Involves registry steps work inner) :
    inner.trace.memories.Sound tokenizers := by
  unfold Involves at involves
  induction involves with
  | refl => exact sound
  | tail reaches gives step => exact gives.sound injective (Involves.known reaches known) step

/-- The scan in the work on a line, where it starts, and what has been left behind before. -/
inductive Starts (registry : Option Registry) (steps : Nat) (work : Work) :
    HostLine → Scan → Trace → Prop where
  | starts {part : Job} {middle : Trace} (scans : work.Scans registry steps part middle) :
      Starts registry steps work part.host part.start
        { middle with events := middle.events.push (.language part.tokenizer.language) }

/-- Which scans come twice to one place. In the work on a line after any calls, a scan that comes
twice to one place with the same match pending and the same empty groups seen last never ends. And
unless it is stopped for want of progress, a scan comes twice to one place exactly where it never
ends and comes to finitely many places, or where the same is pending of different matches. -/
theorem scan_returns_iff (injective : tokenizers.InjOn Tokenizer.identity) {calls : List Call}
    (known : ∀ call ∈ calls, Known tokenizers call.registry call.tokenizer)
    (remembers : work.trace.memories = .after calls)
    (takesPart : Known tokenizers registry work.job.tokenizer)
    (involves : Involves registry steps work inner) {host : HostLine} {start : Scan}
    {before : Trace} (starts : inner.Starts registry steps host start before) :
    (∀ {earlier turns scan other}, earlier < turns → host.ComesTo start before earlier scan →
      host.ComesTo start before turns other → scan.place = other.place →
      scan.replay = other.replay → scan.seen = other.seen → host.Endless start before) ∧
    (host.Stalled start before ∨ (host.Returns start before ↔
      (host.Endless start before ∧ host.Confined start before) ∨ host.Confuses start before)) := by
  have sound : work.trace.memories.Sound tokenizers := by
    rw [remembers]
    exact sound_after injective known
  have innerKnown := involves.known takesPart
  cases starts with
  | @starts part middle scans =>
    have member : part.host.tokenizer ∈ tokenizers := by
      show part.tokenizer ∈ tokenizers
      rw [scans.tokenizer]
      exact innerKnown _ .self
    have opened : middle.memories.Sound tokenizers :=
      scans.sound injective innerKnown (involves.sound injective takesPart sound)
    constructor
    · intro earlier turns scan other sooner comes comesOther place replay seen
      have alike : scan.Alike True (scan.replay ≠ none) other :=
        HostLine.alike_of_place rfl comes comesOther place replay fun _ => seen
      exact HostLine.endless_of_returns injective member opened sooner comes comesOther alike
        (Or.inl trivial)
    · by_cases stalled : part.host.Stalled part.start
        { middle with events := middle.events.push (.language part.tokenizer.language) }
      · exact Or.inl stalled
      · exact Or.inr (HostLine.returns_iff injective member opened rfl stalled)

end Work

/-! ### Two grammars -/

/-- The description of a grammar whose rule splits a match into two groups, the second of which is
to be read again behind the first one. -/
def againSource : String :=
  "\x7b\"tokenizer\": \x7b\"main\": [
    [\"(a?)(b)\", [\"first\",
      \x7b\"cases\": \x7b\"$0==ab\": \x7b\"token\": \"again\", \"goBack\": 1\x7d\x7d\x7d]]]\x7d\x7d"

/-- A line of two characters. -/
def pairJob (grammar : Grammar) : Job where
  tokenizer := { identity := 0, grammar }
  line := ['a', 'b']
  ended := false
  state := .host default (.root default grammar.start)

/-- What is left behind before the scan of that line. -/
def pairTrace (grammar : Grammar) : Trace where
  events := #[.language grammar.language]

theorem pairJob_starts (grammar : Grammar) :
    Work.Starts none 8 ⟨1, pairJob grammar, {}⟩ (pairJob grammar).host (pairJob grammar).start
      (pairTrace grammar) := by
  have scans : Work.Scans none 8 ⟨1, pairJob grammar, {}⟩ (pairJob grammar) {} := .opens rfl
  exact .starts scans

/-- Whether what is pending is one group, and its action is the same choice of one token. -/
def sameChoice : List (Action × Text) → List (Action × Text) → Bool
  | [(.cases [⟨key, guard, .token action⟩] fallback, text)],
    [(.cases [⟨otherKey, otherGuard, .token otherAction⟩] otherFallback, otherText)] =>
    decide ((key, guard, action, fallback, text) =
      (otherKey, otherGuard, otherAction, otherFallback, otherText))
  | _, _ => false

theorem eq_of_sameChoice {pending other : List (Action × Text)}
    (same : sameChoice pending other = true) : pending = other := by
  unfold sameChoice at same
  split at same
  · have parts := of_decide_eq_true same
    simp only [Prod.mk.injEq] at parts
    obtain ⟨rfl, rfl, rfl, rfl, rfl⟩ := parts
    rfl
  · cases same

/-- Whether the scan of the line comes to one place before its turns 2 and 5, and ends. -/
def comesBack (grammar : Grammar) : Bool :=
  let job := pairJob grammar
  match job.host.turn? 2 job.start (pairTrace grammar),
    job.host.turn? 5 job.start (pairTrace grammar) with
  | some (scan, _), some (other, _) =>
    decide ((scan.position, scan.stack.names) = (other.position, other.stack.names)) &&
      scan.embedded.isNone && other.embedded.isNone &&
      sameChoice (Replay.pending scan.replay) (Replay.pending other.replay) &&
      (outcome (job.host.run 8 job.start) (pairTrace grammar)).1.toOption.isSome
  | _, _ => false

theorem returns_of_comesBack {grammar : Grammar} (back : comesBack grammar = true) :
    (pairJob grammar).host.Returns (pairJob grammar).start (pairTrace grammar) ∧
      ∃ departure later,
        outcome ((pairJob grammar).host.run 8 (pairJob grammar).start) (pairTrace grammar) =
          (.ok departure, later) := by
  unfold comesBack at back
  dsimp only at back
  split at back
  · next scan _ other _ comes comesOther =>
    simp only [Bool.and_eq_true, decide_eq_true_eq, Prod.mk.injEq,
      Option.isNone_iff_eq_none] at back
    obtain ⟨⟨⟨⟨⟨position, stack⟩, outside⟩, outsideOther⟩, pending⟩, ends⟩ := back
    constructor
    · refine ⟨2, 5, scan, other, by decide, ⟨_, comes⟩, ⟨_, comesOther⟩, ?_⟩
      unfold Scan.place
      rw [position, stack, outside, outsideOther, eq_of_sameChoice pending]
    · obtain ⟨departure, later, done, -⟩ :=
        exists_of_outcome (fun _ _ => true) (by simpa using ends)
      exact ⟨departure, later, done⟩
  · cases back

/-- The second group is pending at one place in two matches. -/
theorem exists_comesBack :
    ∃ grammar, (Grammar.compileText "toy" againSource false).result = .ok grammar ∧
      comesBack grammar = true :=
  Grammar.exists_of_compiles (Grammar.compileText "toy" againSource false) comesBack
    (by decide +kernel)

theorem Work.pairJob_confuses :
    ∃ (grammar : Grammar) (host : HostLine) (start : Scan) (before : Trace),
      Work.Starts none 8 ⟨1, pairJob grammar, {}⟩ host start before ∧
        host.Returns start before ∧ ¬ host.Stalled start before ∧ host.Confuses start before := by
  obtain ⟨grammar, -, back⟩ := exists_comesBack
  obtain ⟨returns, departure, later, done⟩ := returns_of_comesBack back
  have starts := pairJob_starts grammar
  have alone : Known {(pairJob grammar).tokenizer} none (pairJob grammar).tokenizer :=
    known_of_alone
  have unstalled := HostLine.not_stalled_of_run done
  refine ⟨grammar, _, _, _, starts, returns, unstalled, ?_⟩
  have uncalled : ∀ call ∈ ([] : List Call),
      Known {(pairJob grammar).tokenizer} call.registry call.tokenizer := by
    intro call inside
    cases inside
  obtain ⟨-, stalled | exactly⟩ := Work.scan_returns_iff (Set.injOn_singleton _ _) uncalled rfl
    alone Relation.ReflTransGen.refl starts
  · exact absurd stalled unstalled
  · rcases exactly.1 returns with ⟨endless, -⟩ | confuses
    · obtain ⟨left, exhausted⟩ := endless.exhausted 8
      rw [done] at exhausted
      cases exhausted
    · exact confuses

/-- A scan may come twice to one place without being stopped for want of progress. -/
theorem Work.not_forall_not_returns :
    ¬ ∀ (source : String) (grammar : Grammar) (registry : Option Registry) (steps : Nat)
      (work : Work) (host : HostLine) (start : Scan) (before : Trace),
      (Grammar.compileText "toy" source false).result = .ok grammar →
      work.job.tokenizer.grammar = grammar → work.Starts registry steps host start before →
      ¬ host.Returns start before := by
  intro never
  obtain ⟨grammar, compiles, back⟩ := exists_comesBack
  exact never againSource grammar none 8 ⟨1, pairJob grammar, {}⟩ _ _ _ compiles rfl
    (pairJob_starts grammar) (returns_of_comesBack back).1

/-- The description of a grammar whose rule makes what it has matched be read again. -/
def foreverSource : String :=
  "\x7b\"tokenizer\": \x7b\"main\": [[\"a\", \x7b\"token\": \"x\", \"goBack\": 1\x7d]]\x7d\x7d"

/-- Whether the scan of the line stands before its second turn where it starts. -/
def staysPut (grammar : Grammar) : Bool :=
  let job := pairJob grammar
  match job.host.turn? 0 job.start (pairTrace grammar),
    job.host.turn? 1 job.start (pairTrace grammar) with
  | some (scan, _), some (other, _) =>
    decide ((scan.position, scan.stack.names) = (other.position, other.stack.names)) &&
      [scan, other].all fun scan =>
        scan.embedded.isNone && scan.replay.isNone && scan.emptyGroup.isNone
  | _, _ => false

theorem endless_of_staysPut {grammar : Grammar} (stays : staysPut grammar = true) :
    (pairJob grammar).host.Endless (pairJob grammar).start (pairTrace grammar) := by
  unfold staysPut at stays
  dsimp only at stays
  split at stays
  · next scan _ other _ comes comesOther =>
    simp only [Bool.and_eq_true, decide_eq_true_eq, Prod.mk.injEq, List.all_cons, List.all_nil,
      and_true, Option.isNone_iff_eq_none] at stays
    obtain ⟨⟨position, stack⟩, ⟨⟨outside, unpended⟩, unseen⟩, ⟨outsideOther, unpendedOther⟩,
      unseenOther⟩ := stays
    have alike : scan.Alike True (scan.replay ≠ none) other := by
      refine ⟨position, stack, ?_, ?_, fun _ => ?_, fun pends => absurd unpended pends⟩
      · rw [outside, outsideOther]
      · rw [unpended, unpendedOther]
      · rw [unseen, unseenOther]
    have sound : (pairTrace grammar).memories.Sound {(pairJob grammar).tokenizer} :=
      Memories.sound_empty _
    exact HostLine.endless_of_returns (Set.injOn_singleton _ _) (Set.mem_singleton _) sound
      Nat.zero_lt_one ⟨_, comes⟩ ⟨_, comesOther⟩ alike (Or.inl trivial)
  · cases stays

/-- A grammar may be tokenized for ever: no limits are enough for a line of two characters. -/
theorem Job.exists_exhausted :
    ∃ grammar, (Grammar.compileText "toy" foreverSource false).result = .ok grammar ∧
      ∀ steps depth, ∃ later,
        outcome (tokenizeWithin none steps depth (pairJob grammar)) {} =
          (.error .exhausted, later) := by
  obtain ⟨grammar, compiles, stays⟩ := Grammar.exists_of_compiles
    (Grammar.compileText "toy" foreverSource false) staysPut (by decide +kernel)
  refine ⟨grammar, compiles, fun steps depth => ?_⟩
  cases depth with
  | zero => exact ⟨{}, rfl⟩
  | succ depth =>
    obtain ⟨later, exhausted⟩ := (endless_of_staysPut stays).exhausted steps
    have scans : outcome ((pairJob grammar).scanOwn steps) {} = (.error .exhausted, later) :=
      exhausted
    have opens : outcome ((pairJob grammar).openWith none (tokenizeWithin none steps depth)) {} =
        (.ok (.inr (pairJob grammar)), {}) := rfl
    refine ⟨later, ?_⟩
    rw [outcome_of_opens opens]
    exact outcome_bind_eq_error.2 (Or.inl scans)

end LineLexer
