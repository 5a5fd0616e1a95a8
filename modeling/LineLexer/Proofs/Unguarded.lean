import LineLexer.Proofs.Standstill
import LineLexer.Proofs.Targets

/-!
**Scans without the guards on progress.**

Without its guards, a scan that one of them stops for want of progress never ends: it repeats the
turns since it was at the same place, or it fails as it leaves an embedded language once more.

* `HostLine.Echoes`, `HostLine.exists_of_echoes`: scans at one place, the second of which may have
  left its embedded language, do the same, or the second one fails;
* `HostLine.Proceeds`, `HostLine.never_ends_of_circle`: a scan that comes back never ends;
* `HostLine.ComesRound`: how a scan that is stopped has come back;
* `Work.noProgress_justified`: no guard stops a scan that would end.
-/

namespace LineLexer

open Scanning

namespace HostLine

variable {host : HostLine} {scan other start reached : Scan} {found : Found}
  {members : List Action} {turns steps : Nat} {changed : Scan}
  {trace traceOther before middle later : Trace} {tokenizers : Set Tokenizer}

/-! ### Scans that come back -/

/-- A second scan stands where a first one does, with a stack of the same names and the same groups
pending, and it has left the embedded language of the first one if it is in another one. -/
structure Echoes (host : HostLine) (scan other : Scan) : Prop where
  position : other.position = scan.position
  stack : other.stack.names = scan.stack.names
  replay : other.replay = scan.replay
  embedded : other.embedded = none ∨
    other.embedded.map Embedded.content = scan.embedded.map Embedded.content
  due : scan.replay ≠ none → other.due = scan.due
  isDue : host.isDue scan = true → host.isDue other = true

namespace Echoes

theorem refl (host : HostLine) (scan : Scan) : host.Echoes scan scan :=
  ⟨rfl, rfl, rfl, Or.inr rfl, fun _ => rfl, id⟩

theorem trans {third : Scan} (echoes : host.Echoes scan other)
    (echoesToo : host.Echoes other third) : host.Echoes scan third where
  position := echoesToo.position.trans echoes.position
  stack := echoesToo.stack.trans echoes.stack
  replay := echoesToo.replay.trans echoes.replay
  embedded := by
    rcases echoesToo.embedded with none | same
    · exact Or.inl none
    · rcases echoes.embedded with none | sameToo
      · rw [none] at same
        exact Or.inl (Option.map_eq_none_iff.1 same)
      · exact Or.inr (same.trans sameToo)
  due pends := by
    have pendsToo : other.replay ≠ none := by rwa [echoes.replay]
    exact (echoesToo.due pendsToo).trans (echoes.due pends)
  isDue holds := echoesToo.isDue (echoes.isDue holds)

/-- A scan that echoes another one is like it, or it is like it outside of any embedded language. -/
theorem alike (echoes : host.Echoes scan other) :
    scan.Alike False (scan.replay ≠ none) other ∨
      scan.outside.Alike False (scan.outside.replay ≠ none) other := by
  rcases echoes.embedded with none | same
  · refine Or.inr ⟨echoes.position.symm, echoes.stack.symm, ?_, echoes.replay.symm, False.elim,
      fun pends => (echoes.due pends).symm⟩
    rw [none]
    rfl
  · exact Or.inl ⟨echoes.position.symm, echoes.stack.symm, same.symm, echoes.replay.symm,
      False.elim, fun pends => (echoes.due pends).symm⟩

theorem of_alike (alike : scan.Alike False True other) : host.Echoes scan other :=
  ⟨alike.position.symm, alike.stack.symm, alike.replay.symm, Or.inr alike.embedded.symm,
    fun _ => (alike.due trivial).symm, fun holds => by rwa [← isDue_of_alike alike]⟩

theorem of_alike_outside (alike : scan.outside.Alike False True other) :
    host.Echoes scan other := by
  refine ⟨alike.position.symm, alike.stack.symm, alike.replay.symm, Or.inl ?_,
    fun _ => (alike.due trivial).symm, fun holds => ?_⟩
  · exact Option.map_eq_none_iff.1 alike.embedded.symm
  · rw [← isDue_of_alike alike]
    exact holds

end Echoes

/-- Where a scan goes on, a scan that echoes it is stopped or goes on to a scan that echoes what the
first one goes on to. -/
theorem exists_of_echoes (injective : tokenizers.InjOn Tokenizer.identity)
    (known : host.tokenizer ∈ tokenizers) (echoes : host.Echoes scan other)
    (traces : Alike tokenizers False trace traceOther) {further : Scan}
    (leads : outcome (host.stepWith false scan) trace = (.ok (.goOn further), later)) :
    (∃ stop last, outcome (host.stepWith false other) traceOther = (.error stop, last)) ∨
      ∃ furtherOther last,
        outcome (host.stepWith false other) traceOther = (.ok (.goOn furtherOther), last) ∧
        host.Echoes further furtherOther ∧ Alike tokenizers False later last := by
  rcases stands : outcome (host.stepWith false other) traceOther with ⟨ending, last⟩
  rcases echoes.alike with alike | alike
  · have ends := agree_stepWith false injective known alike trace traceOther traces
    rw [leads, stands] at ends
    cases ends with
    | result same traces =>
      cases same with
      | goOn alike => exact Or.inr ⟨_, last, rfl, .of_alike alike, traces⟩
    | stallsRight => exact Or.inl ⟨_, last, rfl⟩
  · have ends := agree_stepWith false injective known alike trace traceOther traces
    rw [stands] at ends
    rcases stepWith_outside false leads with outside | ⟨-, _, outside, -⟩
    · rw [outside] at ends
      cases ends with
      | result same traces =>
        cases same with
        | goOn alike => exact Or.inr ⟨_, last, rfl, .of_alike_outside alike, traces⟩
      | stallsRight => exact Or.inl ⟨_, last, rfl⟩
    · rw [outside] at ends
      cases ends with
      | stop => exact Or.inl ⟨_, last, rfl⟩
      | stallsLeft lax stalls => cases stalls
      | stallsRight => exact Or.inl ⟨_, last, rfl⟩

/-- The turns of a scan without the guards. -/
inductive Proceeds (host : HostLine) : Nat → Scan → Trace → Scan → Trace → Prop where
  | here {scan : Scan} {trace : Trace} (due : host.isDue scan = true) :
      Proceeds host 0 scan trace scan trace
  | turn {turns : Nat} {scan next reached : Scan} {trace middle later : Trace}
      (due : host.isDue scan = true)
      (leads : outcome (host.stepWith false scan) trace = (.ok (.goOn next), middle))
      (rest : Proceeds host turns next middle reached later) :
      Proceeds host (turns + 1) scan trace reached later

/-- The turns of a scan are its turns without the guards. -/
theorem proceeds_of_turn? (comes : host.turn? turns scan trace = some (reached, later)) :
    host.Proceeds turns scan trace reached later := by
  induction turns generalizing scan trace with
  | zero =>
    obtain ⟨due, rfl, rfl⟩ := eq_of_turn?_zero comes
    exact .here due
  | succ turns step =>
    obtain ⟨due, next, middle, leads, rest⟩ := exists_of_turn?_succ comes
    exact .turn due (stepWith_of_step leads) (step rest)

/-- A step that goes on stays in the embedded language or leaves it. -/
theorem embedded_of_stepWith {further : Scan}
    (leads : outcome (host.stepWith false scan) trace = (.ok (.goOn further), later)) :
    further.embedded = none ∨ further.embedded = scan.embedded := by
  obtain ⟨taken, middle, takes, applies⟩ := outcome_bind_eq_ok.1 leads
  cases taken with
  | none =>
    cases applies
    exact Or.inr rfl
  | some pair =>
    obtain ⟨after, found⟩ := pair
    have took := take_ok takes
    obtain ⟨resolved, _, -, acting⟩ := outcome_bind_eq_ok.1 applies
    cases resolved with
    | group members =>
      obtain ⟨changed, splitting, same⟩ := outcome_map_eq_ok.1 acting
      cases same
      exact Or.inr (embedded_of_splitGroupsWith false (outcome_settle_eq_ok.1 splitting).1)
    | token action =>
      obtain ⟨⟨changed, entering⟩, _, transits, concludes⟩ := outcome_bind_eq_ok.1 acting
      cases entering with
      | some name => cases concludeWith_leads false concludes
      | none =>
        have ends := Next.goOn.inj (concludeWith_leads false concludes)
        have embeds := (transits_of_transit transits).embeds
        rw [ends, embedded_behind, ← took.embedded]
        unfold TokenAction.changeEmbedded at embeds
        split at embeds
        · rw [Except.ok.injEq, Prod.mk.injEq] at embeds
          exact Or.inr embeds.1.symm
        · split at embeds
          · cases embeds
          · rw [Except.ok.injEq, Prod.mk.injEq] at embeds
            exact Or.inl embeds.1.symm
        · split at embeds
          · cases embeds
          · rw [Except.ok.injEq, Prod.mk.injEq] at embeds
            cases embeds.2

/-- A scan stays in the embedded language in which it starts, or leaves it. -/
theorem Proceeds.embedded (proceeds : host.Proceeds turns scan trace reached later) :
    reached.embedded = none ∨ reached.embedded = scan.embedded := by
  induction proceeds with
  | here => exact Or.inr rfl
  | turn due leads rest step =>
    rcases step with none | same
    · exact Or.inl none
    · rw [same]
      exact embedded_of_stepWith leads

/-- A run without the guards ends with a departure. -/
def EndsFreely (host : HostLine) (steps : Nat) (scan : Scan) (trace : Trace) : Prop :=
  ∃ departure last, outcome (host.runWith false steps scan) trace = (.ok departure, last)

/-- If no scan that echoes a later turn ends with the steps that are left, none that echoes the
first turn does. -/
theorem Proceeds.never_ends (injective : tokenizers.InjOn Tokenizer.identity)
    (known : host.tokenizer ∈ tokenizers)
    (proceeds : host.Proceeds turns scan trace reached later)
    (echoes : host.Echoes scan other) (traces : Alike tokenizers False trace traceOther)
    (never : ∀ fewer final last, fewer + turns ≤ steps → host.Echoes reached final →
      Alike tokenizers False later last → ¬ host.EndsFreely fewer final last) :
    ¬ host.EndsFreely steps other traceOther := by
  induction proceeds generalizing other traceOther steps with
  | here due => exact never steps other traceOther (Nat.le_refl _) echoes traces
  | @turn turns scan next reached trace middle later due leads rest step =>
    rintro ⟨departure, last, done⟩
    cases steps with
    | zero => cases done
    | succ steps =>
      rw [outcome_runWith_succ, if_pos (echoes.isDue due)] at done
      rcases exists_of_echoes injective known echoes traces leads with
        ⟨stop, ends, stopped⟩ | ⟨nextOther, middleOther, leadsOther, echoesNext, tracesNext⟩
      · rw [stopped] at done
        cases done
      · rw [leadsOther] at done
        refine step echoesNext tracesNext (fun fewer final ends room => ?_) ⟨_, _, done⟩
        exact never fewer final ends (by omega)

/-- **A scan that comes back never ends.** Whoever echoes a scan that comes back to where it stands
repeats its turns, or is stopped. -/
theorem never_ends_of_circle (injective : tokenizers.InjOn Tokenizer.identity)
    (known : host.tokenizer ∈ tokenizers) (sound : trace.memories.Sound tokenizers)
    (circle : host.Proceeds (turns + 1) scan trace reached later) (back : host.Echoes scan reached)
    (echoes : host.Echoes scan other) (soundOther : traceOther.memories.Sound tokenizers) :
    ¬ host.EndsFreely steps other traceOther := by
  induction steps using Nat.strong_induction_on generalizing other traceOther with
  | _ steps step =>
    refine circle.never_ends injective known echoes ⟨sound, soundOther, False.elim, False.elim⟩
      fun fewer final last room echoesBack traces => ?_
    exact step fewer (by omega) (back.trans echoesBack) traces.soundOther

end HostLine

/-! ### What is the same where a guard stops a scan -/

/-- A stack whose depth and whose state on top are the same behind a token has the same names. -/
theorem TokenAction.Restacks.names_eq {tokenizer : Tokenizer} {context : MatchContext}
    {action : TokenAction} {stack changed : Stack}
    (restacks : action.Restacks tokenizer context stack changed)
    (depth : stack.depth = changed.depth) (top : stack.state = changed.state) :
    changed.names = stack.names := by
  rw [← Stack.length_names, ← Stack.length_names] at depth
  have first := stack.head?_names
  have firstChanged := changed.head?_names
  cases restacks with
  | keep stays nothing names => exact names
  | push stays next room names =>
    rw [names, List.length_cons] at depth
    omega
  | pop stays next names =>
    rw [names, List.length_cons] at depth
    omega
  | popAll stays next names =>
    rw [names, List.length_singleton] at depth
    obtain ⟨state, only⟩ := List.length_eq_one_iff.1 depth
    rw [names, only, Stack.bottom_of_singleton only]
  | goto stays next target declared room names =>
    rw [names, List.length_cons] at depth
    omega
  | @switchTo _ state switches target declared names =>
    rw [names, List.head?_cons, Option.some.injEq] at firstChanged
    rw [names, firstChanged, ← top]
    exact List.cons_head?_tail first

namespace HostLine

variable {host : HostLine} {scan start stuck after changed : Scan} {found : Found}
  {action : TokenAction} {token : String} {turns steps last : Nat} {plain : Prop}
  {trace before told taken later : Trace} {tokenizers : Set Tokenizer}

/-- Where the guard on steps stops a scan, the text is not empty, and the stack and the number of
pending groups are the same before and behind the step as far as the guard compares them. -/
theorem progressed_eq_false {scan after : Scan} :
    host.progressed scan after = false ↔ host.text ≠ [] ∧ scan.stack.depth = after.stack.depth ∧
      scan.stack.state = after.stack.state ∧ scan.pending = after.pending := by
  unfold progressed
  simp only [Bool.or_eq_false_iff, beq_eq_false_iff_ne, bne_eq_false_iff_eq, and_assoc]

/-- A step that takes a pending group leaves one less. -/
theorem unpended_of_pending (took : host.Took scan after found)
    (same : scan.pending = after.pending) : scan.replay = none ∧ after.replay = none := by
  cases took.source with
  | rules nothingPending nothingLeft => exact ⟨nothingPending, nothingLeft⟩
  | pending replay members first taken left =>
    unfold Scan.pending at same
    rw [first, left] at same
    cases members with
    | nil => simp [taken] at same
    | cons member members => simp [taken] at same

/-- A scan that is stopped has come back. Either it stands where it stood before, or the step that
is stopped leads there without the guards. Nothing is told in between, and a step is due there. -/
def ComesRound (host : HostLine) (start : Scan) (before : Trace) (last : Nat) (stuck : Scan)
    (told : Trace) : Prop :=
  ∃ earlier scan passed other again, host.turn? earlier start before = some (scan, passed) ∧
    ((earlier < last ∧ other = stuck ∧ again = told) ∨
      earlier = last ∧ outcome (host.stepWith false stuck) told = (.ok (.goOn other), again)) ∧
    other.position = scan.position ∧ other.stack.names = scan.stack.names ∧
    scan.replay = none ∧ other.replay = none ∧ passed.Adds [] again ∧ host.isDue other = true

/-- Where the guard on steps stops a scan, the step comes back without the guards to where the scan
stands. -/
theorem returns_of_stuck (moderate : host.Moderate plain) (ready : host.Ready plain scan)
    (takes : outcome (host.take scan) trace = (.ok (some (after, found)), taken))
    (leads : found.action.resolve host.settings (host.context scan after found) =
      .ok (.token action))
    (transits : outcome
      (host.transit { after with position := after.position + found.matched.size } found
        (host.context scan after found) action) taken = (.ok (changed, none), later))
    (fills : token = action.text host.settings (host.context scan after found))
    (silent : (token == TokenAction.rematchToken || found.matched == []) = true)
    (same : host.progressed scan (behind found token changed) = false) :
    ∃ other, outcome (host.stepWith false scan) trace = (.ok (.goOn other), later) ∧
      other.position = scan.position ∧ other.stack.names = scan.stack.names ∧
      scan.replay = none ∧ other.replay = none ∧ trace.Adds [] later ∧ host.text ≠ [] := by
  have took := take_ok takes
  obtain ⟨filled, depth, top, pending⟩ := progressed_eq_false.1 same
  rw [stack_behind] at depth top
  obtain ⟨moved, left⟩ := transit_ok (goBack_eq_none (took.fits moderate ready).2 leads) transits
  have restacks := (transits_of_transit transits).restacked
  have unpended : scan.replay = none ∧ after.replay = none := by
    refine unpended_of_pending took ?_
    rw [pending]
    unfold Scan.pending
    rw [replay_behind, left]
  refine ⟨behind found token changed, ?_, ?_, ?_, unpended.1, ?_,
    ((quiet_take host scan).adds takes).trans ((quiet_transit _ _ _ _ _).adds transits), filled⟩
  · refine outcome_bind_eq_ok.2 ⟨_, _, takes, outcome_bind_eq_ok.2 ⟨.token action, taken, ?_, ?_⟩⟩
    · rw [leads]
      rfl
    · refine outcome_bind_eq_ok.2 ⟨_, _, transits, ?_⟩
      show outcome (host.concludeWith false scan found action _ changed none) later = _
      rw [← fills, concludeWith, if_pos silent]
      rfl
  · rw [position_behind, moved, took.position]
    split
    · exact Nat.add_sub_cancel _ _
    · next other =>
      have empty : found.matched = [] := by simpa [other] using silent
      rw [empty]
      rfl
  · rw [stack_behind]
    rw [← took.stack] at depth top ⊢
    exact restacks.names_eq depth top
  · rw [replay_behind, left]
    exact unpended.2

/-- A step is due at the end of the text at the first turn only. -/
theorem position_lt_of_turn? (unpended : start.replay = none) (first : start.position = 0)
    (filled : host.text ≠ []) (comes : host.turn? turns start before = some (scan, told)) :
    scan.position < host.textSize := by
  have due := isDue_of_turn? comes
  have idle : scan.due = true → scan.position = 0 := by
    refine (turn?_invariant (fun scan _ => (scan.replay ≠ none → scan.due = false) ∧
      (scan.due = true → scan.position = 0)) (fun {scan next trace later} holds leads => ?_)
      ⟨fun pends => absurd unpended pends, fun _ => first⟩ comes).2
    have done := due_step holds.1 leads
    exact ⟨fun _ => done, fun holds => absurd (done.symm.trans holds) Bool.false_ne_true⟩
  unfold isDue at due
  rw [Bool.or_eq_true, decide_eq_true_eq] at due
  rcases due with due | inside
  · rw [idle due, host.textSize_eq]
    exact Nat.pos_of_ne_zero fun zero => filled (Text.size_eq_zero_iff.1 zero)
  · exact inside

/-- A scan that one of the guards stops has come back. -/
theorem comesRound_of_noProgress (moderate : host.Moderate plain) (ready : host.Ready plain start)
    (unpended : start.replay = none) (fresh : start.emptyGroup = none) (first : start.position = 0)
    (comes : host.turn? last start before = some (stuck, told)) {error : TokenizeError}
    {rule : String} (fault : error.fault = .noProgress rule)
    (stops : outcome (host.step stuck) told = (.error (.fault error), later)) :
    host.ComesRound start before last stuck told := by
  have standing := (turn?_onwards moderate ready comes).1
  have fails := (fails_of_step stops).1
  rw [fault] at fails
  cases fails with
  | target meets misses => cases misses
  | @again after found members takes leads stays unpendedStuck empty met =>
    obtain ⟨seen, kept, position, stack⟩ := met
    have seenStuck : seenEmptyGroup stuck = true := by
      unfold seenEmptyGroup
      rw [kept, Option.any_some, position, stack, beq_self_eq_true]
      rfl
    obtain ⟨-, earlier, scan, passed, found, members, middle, sooner, back, -⟩ :=
      exists_comesBack moderate ready fresh comes (turn?_zero (isDue_of_turn? comes))
        unpendedStuck rfl seenStuck
    refine ⟨earlier, scan, passed, stuck, told, back.comes, Or.inl ⟨sooner, rfl, rfl⟩,
      back.position, back.stack, back.pauses.unpended, unpendedStuck, ?_, isDue_of_turn? comes⟩
    exact ((quiet_take host scan).adds back.pauses.takes).trans (back.adds moderate ready)
  | @stuck after changed found action token taken takes leads fills transits silent same =>
    obtain ⟨other, leadsOther, position, stack, unpendedStuck, unpendedOther, adds, filled⟩ :=
      returns_of_stuck moderate standing takes leads transits fills silent same
    refine ⟨last, stuck, told, other, later, comes, Or.inr ⟨rfl, leadsOther⟩, position, stack,
      unpendedStuck, unpendedOther, adds, ?_⟩
    unfold isDue
    rw [Bool.or_eq_true, decide_eq_true_eq, position]
    exact Or.inr (position_lt_of_turn? unpended first filled comes)

/-- A scan that has come round does not end without the guards. -/
theorem ComesRound.never_ends (injective : tokenizers.InjOn Tokenizer.identity)
    (known : host.tokenizer ∈ tokenizers) (sound : before.memories.Sound tokenizers)
    (comes : host.turn? last start before = some (stuck, told))
    (round : host.ComesRound start before last stuck told) :
    ¬ host.EndsFreely steps start before := by
  obtain ⟨earlier, scan, passed, other, again, reaches, returns, position, stack, unpended,
    unpendedOther, -, due⟩ := round
  have soundPassed := turn?_sound injective known sound reaches
  have circle : ∃ turns, host.Proceeds (turns + 1) scan passed other again := by
    rcases returns with ⟨sooner, rfl, rfl⟩ | ⟨rfl, leads⟩
    · obtain ⟨turns, rfl⟩ := Nat.exists_eq_add_of_lt sooner
      rw [Nat.add_assoc, turn?_add, reaches] at comes
      exact ⟨turns, proceeds_of_turn? comes⟩
    · cases reaches.symm.trans comes
      exact ⟨0, .turn (isDue_of_turn? comes) leads (.here due)⟩
  obtain ⟨turns, circle⟩ := circle
  -- the embedded language may have been left on the way round
  have embedded : other.embedded = none ∨
      other.embedded.map Embedded.content = scan.embedded.map Embedded.content :=
    circle.embedded.imp_right (congrArg _)
  have back : host.Echoes scan other :=
    ⟨position, stack, by rw [unpended, unpendedOther], embedded, fun pends => absurd unpended pends,
      fun _ => due⟩
  refine (proceeds_of_turn? reaches).never_ends injective known (.refl host start)
    ⟨sound, sound, False.elim, False.elim⟩ fun fewer final last room echoes traces => ?_
  exact never_ends_of_circle injective known soundPassed circle back echoes traces.soundOther

end HostLine

namespace Work

variable {registry : Option Registry} {steps : Nat} {work inner : Work}
  {tokenizers : Set Tokenizer}

/-- No false alarm. In the work on a line after any calls, take a scan by the rules of a grammar
that never makes characters be read again. If a guard stops it for want of progress, it has come
back at its last turn, or by the step of that turn, to a position, a stack and the absence of
pending groups that it had before, and nothing has been told in between. And without the guards it
would never end, however many steps it may take. -/
theorem noProgress_justified (injective : tokenizers.InjOn Tokenizer.identity) {calls : List Call}
    (known : ∀ call ∈ calls, Known tokenizers call.registry call.tokenizer)
    (remembers : work.trace.memories = .after calls)
    (takesPart : Known tokenizers registry work.job.tokenizer)
    (involves : Involves registry steps work inner) {host : HostLine} {start : Scan}
    {before : Trace} (starts : inner.Starts registry steps host start before)
    (forward : host.tokenizer.grammar.anyAction Action.goesBack = false) {limit : Nat}
    {error : TokenizeError} {later : Trace} {rule : String} (fault : error.fault = .noProgress rule)
    (stops : outcome (host.run limit start) before = (.error (.fault error), later)) :
    (∃ last stuck told, last < limit ∧ host.turn? last start before = some (stuck, told) ∧
      outcome (host.step stuck) told = (.error (.fault error), later) ∧
      host.ComesRound start before last stuck told) ∧
    ∀ more departure ending,
      outcome (host.runWith false more start) before ≠ (.ok departure, ending) := by
  have sound : work.trace.memories.Sound tokenizers := by
    rw [remembers]
    exact sound_after injective known
  have innerKnown := involves.known takesPart
  cases starts with
  | @starts part middle scans =>
    have member : part.host.tokenizer ∈ tokenizers := by
      show part.tokenizer ∈ tokenizers
      rw [scans.tokenizer]
      exact innerKnown _ .self
    have opened : middle.memories.Sound tokenizers :=
      scans.sound injective innerKnown (involves.sound injective takesPart sound)
    have moderate : part.host.Moderate False := ⟨part.line_prefix_text, forward, False.elim⟩
    obtain ⟨last, allowed, stuck, told, comes, stopped⟩ := HostLine.exists_turn?_of_fault stops
    have ready : part.host.Ready False part.start := Job.ready_start part False
    have round := HostLine.comesRound_of_noProgress moderate ready rfl rfl rfl comes fault stopped
    refine ⟨⟨last, stuck, told, allowed, comes, stopped, round⟩, ?_⟩
    intro more departure ending done
    refine round.never_ends injective member ?_ comes ⟨departure, ending, done⟩
    exact opened

end Work

/-- The description of a grammar whose rule splits the empty text into two groups. -/
def emptySource : String :=
  "\x7b\"tokenizer\": \x7b\"main\": [[\"(x*)(y*)\", [\"one\", \"two\"]]]\x7d\x7d"

/-- Whether the scan of the line of two characters is stopped with a fault, by the rules of a
grammar that makes no characters be read again. -/
def stopsWith (fault : Fault) (grammar : Grammar) : Bool :=
  !grammar.anyAction Action.goesBack &&
    match outcome ((pairJob grammar).host.run 8 (pairJob grammar).start) (pairTrace grammar) with
    | (.error (.fault error), _) => decide (error.fault = fault)
    | _ => false

theorem Work.noProgress_justified_empty_groups :
    ∃ (grammar : Grammar) (host : HostLine) (start : Scan) (before : Trace) (error : TokenizeError)
      (later : Trace), Work.Starts none 8 ⟨1, pairJob grammar, {}⟩ host start before ∧
      grammar.anyAction Action.goesBack = false ∧
      error.fault = .noProgress "tokenizer.main: (x*)(y*)" ∧
      outcome (host.run 8 start) before = (.error (.fault error), later) ∧
      (∃ last stuck told, host.ComesRound start before last stuck told) ∧
      ∀ more departure ending,
        outcome (host.runWith false more start) before ≠ (.ok departure, ending) := by
  obtain ⟨grammar, -, passes⟩ := Grammar.exists_of_compiles
    (Grammar.compileText "toy" emptySource false)
    (stopsWith (.noProgress "tokenizer.main: (x*)(y*)")) (by decide +kernel)
  unfold stopsWith at passes
  rw [Bool.and_eq_true, Bool.not_eq_true'] at passes
  obtain ⟨forward, stopped⟩ := passes
  split at stopped
  · next error later stops =>
    have fault := of_decide_eq_true stopped
    have starts := pairJob_starts grammar
    have uncalled : ∀ call ∈ ([] : List Call),
        Known {(pairJob grammar).tokenizer} call.registry call.tokenizer := by
      intro call inside
      cases inside
    obtain ⟨⟨last, stuck, told, -, -, -, round⟩, never⟩ :=
      Work.noProgress_justified (Set.injOn_singleton _ _) uncalled rfl known_of_alone
        Relation.ReflTransGen.refl starts forward fault stops
    exact ⟨grammar, _, _, _, error, later, starts, forward, fault, stops,
      ⟨last, stuck, told, round⟩, never⟩
  · cases stopped

end LineLexer
