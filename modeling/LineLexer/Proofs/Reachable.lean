import LineLexer.Proofs.Exit

/-!
**What holds of the states that lines end in.**

From the first state of a tokenizer on, no line ends with a stack that is too deep or with a state
on it in which no rules hold, and the start state stays at the bottom until it is switched. The same
holds of the states of embedded languages, as their lines are parts of those of the host.

* `TokenAction.Restacks`: all that a token action can do to a stack;
* `HostLine.Held`, `held_step`, `bottom_of_step`: what a step keeps of the stack and its bottom;
* `Job.Worked`: all that the work on a line can come to;
* `Done`, `Reaches`: lines that have been done, and the states that are reached by them;
* `Lodges`: the state of an embedded language is reached by parts of the lines of the host;
* `Reaches.wellFormed`: what holds of the states that are reached.
-/

namespace LineLexer

open Scanning

/-! ### What becomes of stacks -/

namespace Stack

variable {stack other : Stack} {state : String}

/-- The state at the bottom. -/
def bottom (stack : Stack) : String := stack.names.getLast stack.names_ne_nil

theorem bottom_of_names (same : stack.names = other.names) : stack.bottom = other.bottom := by
  unfold bottom
  simp only [same]

theorem bottom_of_singleton (names : stack.names = [state]) : stack.bottom = state := by
  unfold bottom
  simp only [names]
  rfl

/-- A state on top does not change the bottom. -/
theorem bottom_of_cons (names : stack.names = state :: other.names) :
    stack.bottom = other.bottom := by
  unfold bottom
  simp only [names]
  exact List.getLast_cons other.names_ne_nil

theorem names_of_pop (deep : ¬ stack.isRoot = true) :
    stack.names = stack.state :: (stack.pop?.getD stack).names := by
  cases stack with
  | root identity state => exact absurd rfl deep
  | push identity below state => rfl

/-- Another state in place of the one on top does not change the bottom of a deeper stack. -/
theorem bottom_of_switch (names : stack.names = state :: other.names.tail)
    (deep : other.depth ≠ 1) : stack.bottom = other.bottom := by
  cases other with
  | root identity state => exact absurd rfl deep
  | push identity below top => exact (bottom_of_cons names).trans (bottom_of_cons rfl).symm

end Stack

namespace TokenAction

/-- All that a token action can do to a stack. -/
inductive Restacks (tokenizer : Tokenizer) (context : MatchContext) (action : TokenAction)
    (stack changed : Stack) : Prop where
  | keep (stays : action.switchTo = none) (nothing : action.next = none)
      (names : changed.names = stack.names)
  /-- The state on top goes on top once more. -/
  | push (stays : action.switchTo = none) (next : action.next = some .push)
      (room : stack.depth < tokenizer.limits.stackDepth)
      (names : changed.names = stack.state :: stack.names)
  | pop (stays : action.switchTo = none) (next : action.next = some .pop)
      (names : stack.names = stack.state :: changed.names)
  | popAll (stays : action.switchTo = none) (next : action.next = some .popAll)
      (names : changed.names = [stack.bottom])
  | goto {template state : String} (stays : action.switchTo = none)
      (next : action.next = some (.goto template))
      (target : state = withoutAtSign (Template.fill tokenizer.grammar.settings template context))
      (declared : tokenizer.grammar.stateExists state = true)
      (room : stack.depth < tokenizer.limits.stackDepth)
      (names : changed.names = state :: stack.names)
  | switchTo {template state : String} (switches : action.switchTo = some template)
      (target : state = withoutAtSign (Template.fill tokenizer.grammar.settings template context))
      (declared : tokenizer.grammar.stateExists state = true)
      (names : changed.names = state :: stack.names.tail)

end TokenAction

/-- A target is the name that its template becomes, and rules hold in it. -/
theorem Tokenizer.target_eq_ok {tokenizer : Tokenizer} {context : MatchContext}
    {template state : String} {undefined : String → Fault}
    (done : tokenizer.target context template undefined = .ok state) :
    state = withoutAtSign (Template.fill tokenizer.grammar.settings template context) ∧
      tokenizer.grammar.stateExists state = true := by
  unfold target at done
  dsimp only at done
  split at done
  · next declared =>
    cases done
    exact ⟨rfl, declared⟩
  · cases done

theorem Tokenizer.checkDepth_eq_ok {tokenizer : Tokenizer} {stack : Stack} {passed : Unit}
    (done : tokenizer.checkDepth stack = .ok passed) :
    stack.depth < tokenizer.limits.stackDepth := by
  unfold checkDepth at done
  split at done
  · next room => exact room
  · cases done

/-- The names on a stack behind a change, from the top to the bottom. -/
def StackChange.names (stack : Stack) : StackChange → List String
  | keep => stack.names
  | push state => state :: stack.names
  | pop => (stack.pop?.getD stack).names
  | toRoot => [stack.bottom]
  | switchTo state => state :: stack.names.tail

namespace HostLine

variable {host : HostLine} {scan after changed : Scan} {next : Next} {found : Found}
  {action : TokenAction} {context : MatchContext} {entering : Option String}
  {trace middle later : Trace} {departure : Departure} {steps : Nat}

/-- What a cache makes of a change of a stack has the names that the change asks for. -/
theorem names_of_changeStack {tokenizer : Tokenizer} {stack made : Stack} {change : StackChange}
    (done : outcome (changeStack tokenizer stack change) trace = (.ok made, later)) :
    made.names = change.names stack := by
  cases change with
  | keep =>
    cases done
    rfl
  | push state =>
    cases done
    exact StateCache.names_push _ _ _
  | pop =>
    cases done
    rfl
  | toRoot =>
    cases done
    exact Stack.names_toRoot stack
  | switchTo state =>
    cases done
    exact StateCache.names_switchTo _ _ _

/-- The changes that come with a token do one of these things to the stack. -/
theorem Transits.restacked
    (transits : host.Transits after found context action trace changed entering later) :
    action.Restacks host.tokenizer context after.stack changed.stack := by
  obtain ⟨change, shared, changes, shares, -⟩ := transits.restacks
  have names := names_of_changeStack shares
  unfold TokenAction.stackChange at changes
  split at changes
  · next switches =>
    obtain ⟨state, leads, rfl⟩ := exceptMap_eq_ok.1 changes
    obtain ⟨target, declared⟩ := Tokenizer.target_eq_ok leads
    exact .switchTo switches target declared names
  · next stays nothing =>
    cases changes
    exact .keep stays nothing names
  · next stays next =>
    obtain ⟨_, room, rfl⟩ := exceptMap_eq_ok.1 changes
    exact .push stays next (Tokenizer.checkDepth_eq_ok room) names
  · next stays next =>
    split at changes
    · cases changes
    · next deep =>
      cases changes
      refine .pop stays next ?_
      rw [names]
      exact Stack.names_of_pop deep
  · next stays next =>
    cases changes
    exact .popAll stays next names
  · next template stays next =>
    cases leads : host.tokenizer.target context template (.undefinedNextState · found.rule) with
    | error fault =>
      rw [leads] at changes
      cases changes
    | ok state =>
      obtain ⟨target, declared⟩ := Tokenizer.target_eq_ok leads
      cases room : host.tokenizer.checkDepth after.stack with
      | error fault =>
        rw [leads, room] at changes
        cases changes
      | ok passed =>
        rw [leads, room] at changes
        cases changes
        exact .goto stays next target declared (Tokenizer.checkDepth_eq_ok room) names

end HostLine

/-! ### Stacks that are not too deep and whose states have rules -/

/-- Rules hold in every state on a stack. -/
def Grammar.Declares (grammar : Grammar) (stack : Stack) : Prop :=
  ∀ name ∈ stack.names, grammar.stateExists name = true

/-- A stack is not deeper than allowed; a stack of one state is always allowed. -/
def Tokenizer.Bounds (tokenizer : Tokenizer) (stack : Stack) : Prop :=
  stack.depth ≤ max 1 tokenizer.limits.stackDepth

/-- A stack is not too deep, and rules hold in every state on it unless it is the start state alone.
-/
structure Tokenizer.Fits (tokenizer : Tokenizer) (stack : Stack) : Prop where
  bounded : tokenizer.Bounds stack
  declared : tokenizer.grammar.Declares stack ∨ stack.names = [tokenizer.grammar.start]

theorem Tokenizer.Fits.of_names {tokenizer : Tokenizer} {stack other : Stack}
    (fits : tokenizer.Fits stack) (same : other.names = stack.names) : tokenizer.Fits other := by
  refine ⟨?_, ?_⟩
  · unfold Bounds
    rw [Stack.depth_eq_of_names same]
    exact fits.bounded
  · unfold Grammar.Declares
    rw [same]
    exact fits.declared

namespace TokenAction.Restacks

variable {tokenizer : Tokenizer} {context : MatchContext} {action : TokenAction}
  {stack changed : Stack}

/-- No stack becomes too deep. -/
theorem bounds (restacks : action.Restacks tokenizer context stack changed)
    (bounded : tokenizer.Bounds stack) : tokenizer.Bounds changed := by
  unfold Tokenizer.Bounds at bounded ⊢
  rw [← Stack.length_names] at bounded ⊢
  have length := stack.length_names
  have positive := stack.depth_pos
  cases restacks with
  | keep stays nothing names => rwa [names]
  | push stays next room names =>
    rw [names, List.length_cons]
    omega
  | pop stays next names =>
    rw [names, List.length_cons] at bounded
    omega
  | popAll stays next names =>
    rw [names]
    exact Nat.le_max_left _ _
  | goto stays next target declared room names =>
    rw [names, List.length_cons]
    omega
  | switchTo switches target declared names =>
    rw [names, List.length_cons, List.length_tail]
    omega

/-- No state without rules comes onto a stack. -/
theorem declares (restacks : action.Restacks tokenizer context stack changed)
    (declared : tokenizer.grammar.Declares stack) : tokenizer.grammar.Declares changed := by
  have top : tokenizer.grammar.stateExists stack.state = true :=
    declared _ (List.mem_of_head? stack.head?_names)
  unfold Grammar.Declares at declared ⊢
  cases restacks with
  | keep stays nothing names => rwa [names]
  | push stays next room names =>
    rw [names, List.forall_mem_cons]
    exact ⟨top, declared⟩
  | pop stays next names =>
    rw [names, List.forall_mem_cons] at declared
    exact declared.2
  | popAll stays next names =>
    rw [names, List.forall_mem_singleton]
    exact declared _ (List.getLast_mem _)
  | goto stays next target holds room names =>
    rw [names, List.forall_mem_cons]
    exact ⟨holds, declared⟩
  | switchTo switches target holds names =>
    rw [names, List.forall_mem_cons]
    exact ⟨holds, fun name inside => declared name (List.mem_of_mem_tail inside)⟩

/-- The bottom of a stack stays unless another state takes the place of the only one. -/
theorem bottom (restacks : action.Restacks tokenizer context stack changed)
    (keeps : action.switchTo = none ∨ stack.depth ≠ 1) : changed.bottom = stack.bottom := by
  cases restacks with
  | keep stays nothing names => exact Stack.bottom_of_names names
  | push stays next room names => exact Stack.bottom_of_cons names
  | pop stays next names => exact (Stack.bottom_of_cons names).symm
  | popAll stays next names => exact Stack.bottom_of_singleton names
  | goto stays next target declared room names => exact Stack.bottom_of_cons names
  | switchTo switches target declared names =>
    rcases keeps with stays | deep
    · rw [switches] at stays
      cases stays
    · exact Stack.bottom_of_switch names deep

end TokenAction.Restacks

/-! ### Steps and runs -/

/-- The stack that a step leads to. -/
def Next.stack : Next → Stack
  | goOn scan => scan.stack
  | enter _ _ stack => stack

/-- The stack that a scan ends with. -/
def Departure.stack : Departure → Stack
  | lineEnd stack _ => stack
  | enter _ _ stack => stack

theorem Next.stack_ofScan (scan : Scan) (entering : Option String) :
    (ofScan scan entering).stack = scan.stack := by
  cases entering <;> rfl

namespace HostLine

variable {host : HostLine} {scan after start reached : Scan} {next : Next} {found : Found}
  {action : TokenAction} {trace middle later : Trace} {departure : Departure} {steps turns : Nat}

/-- What holds of the stack of a scan: only where nothing has been matched so far can there be a
state on it without rules. -/
structure Held (host : HostLine) (scan : Scan) : Prop where
  bounded : host.tokenizer.Bounds scan.stack
  declared : host.tokenizer.grammar.Declares scan.stack ∨
    (scan.stack.names = [host.tokenizer.grammar.start] ∧ scan.replay = none)

theorem Held.fits (held : host.Held scan) : host.tokenizer.Fits scan.stack :=
  ⟨held.bounded, held.declared.imp_right And.left⟩

theorem held_start (job : Job) (fits : job.tokenizer.Fits job.state.stack) :
    job.host.Held job.start :=
  ⟨fits.bounded, fits.declared.imp_right fun names => ⟨names, rfl⟩⟩

/-- A scan takes a match only if rules hold in all states on its stack. -/
theorem Held.declares_of_take (held : host.Held scan)
    (takes : outcome (host.take scan) trace = (.ok (some (after, found)), later)) :
    host.tokenizer.grammar.Declares scan.stack := by
  rcases held.declared with declared | ⟨names, unpended⟩
  · exact declared
  · obtain ⟨-, searched⟩ := take_rules unpended takes
    have top : host.tokenizer.grammar.stateExists scan.stack.state = true := by
      unfold Tokenizer.findAt at searched
      unfold Grammar.stateExists
      split at searched
      · cases searched
      · next rules holding =>
        rw [holding]
        rfl
    have same := scan.stack.head?_names
    rw [names, List.head?_cons, Option.some.injEq] at same
    unfold Grammar.Declares
    rw [names, List.forall_mem_singleton, same]
    exact top

/-- What a token action does to the stack of a scan. -/
theorem Acts.restacked (acts : host.Acts scan trace found action next later) :
    ∃ context, action.Restacks host.tokenizer context scan.stack next.stack := by
  obtain @⟨after, changed, entering, taken, noted, takes, leads, transits, concludes⟩ := acts
  have restacked := transits.restacked
  rw [(take_ok takes).stack] at restacked
  rw [conclude_leads concludes, Next.stack_ofScan, stack_behind]
  exact ⟨_, restacked⟩

/-- Behind a step the stack is not too deep, and rules hold in all states on it. -/
theorem held_step (held : host.Held scan)
    (done : outcome (host.step scan) trace = (.ok next, later)) :
    host.tokenizer.Bounds next.stack ∧ host.tokenizer.grammar.Declares next.stack := by
  cases step_cases done with
  | empty first none same silent =>
    rw [same]
    refine ⟨held.bounded, held.declared.resolve_right ?_⟩
    rintro ⟨-, unpended⟩
    rw [unpended] at first
    cases first
  | splits splits same =>
    rw [same]
    obtain ⟨takes, -, fits⟩ := splits
    obtain ⟨-, -, -, emptyGroup, rfl⟩ := splitGroups_ok fits
    exact ⟨held.bounded, held.declares_of_take takes⟩
  | acts acts =>
    obtain ⟨context, restacked⟩ := acts.restacked
    obtain ⟨takes, -, -, -⟩ := acts
    exact ⟨restacked.bounds held.bounded, restacked.declares (held.declares_of_take takes)⟩

theorem held_next {changed : Scan} (held : host.Held scan)
    (leads : outcome (host.step scan) trace = (.ok (.goOn changed), later)) : host.Held changed :=
  ⟨(held_step held leads).1, Or.inl (held_step held leads).2⟩

/-- The stack fits where a scan ends. -/
theorem fits_run (held : host.Held scan)
    (done : outcome (host.run steps scan) trace = (.ok departure, later)) :
    host.tokenizer.Fits departure.stack := by
  refine run_ok_induction
    (fun scan _ departure _ => host.Held scan → host.tokenizer.Fits departure.stack)
    (fun _ held => held.fits) (fun leads held => ?_) (fun leads rest held => ?_) done held
  · exact ⟨(held_step held leads).1, Or.inl (held_step held leads).2⟩
  · exact rest (held_next held leads)

/-! ### The bottom of the stack -/

/-- A step does what a token action says by which another state takes the place of the only one on
the stack. -/
def SwitchesBottom (host : HostLine) (scan : Scan) (trace : Trace) : Prop :=
  ∃ found action next later, host.Acts scan trace found action next later ∧
    action.switchTo ≠ none ∧ scan.stack.depth = 1

/-- A step that does not switch the bottom of the stack keeps it. -/
theorem bottom_of_step (keeps : ¬ host.SwitchesBottom scan trace)
    (done : outcome (host.step scan) trace = (.ok next, later)) :
    next.stack.bottom = scan.stack.bottom := by
  cases step_cases done with
  | empty first none same silent =>
    rw [same]
    rfl
  | splits splits same =>
    rw [same]
    obtain ⟨-, -, fits⟩ := splits
    obtain ⟨-, -, -, emptyGroup, rfl⟩ := splitGroups_ok fits
    rfl
  | acts acts =>
    obtain ⟨context, restacked⟩ := acts.restacked
    refine restacked.bottom ?_
    by_contra switches
    rw [not_or, not_not] at switches
    exact keeps ⟨_, _, _, _, acts, switches⟩

/-- A scan that does not switch the bottom of the stack at any turn keeps it. -/
theorem bottom_of_run
    (keeps : ∀ turns < steps, ∀ reached before,
      host.turn? turns scan trace = some (reached, before) → ¬ host.SwitchesBottom reached before)
    (done : outcome (host.run steps scan) trace = (.ok departure, later)) :
    departure.stack.bottom = scan.stack.bottom := by
  induction steps generalizing scan trace with
  | zero => cases done
  | succ steps step =>
    rw [outcome_run_succ] at done
    split at done
    · next due =>
      have here := keeps 0 (Nat.succ_pos steps) scan trace (turn?_zero due)
      split at done
      · next changed middle leads =>
        have rest := step (fun turns allowed reached before comes =>
          keeps (turns + 1) (Nat.succ_lt_succ allowed) reached before
            ((turn?_succ due leads).trans comes)) done
        exact rest.trans (bottom_of_step here leads)
      · next leads =>
        cases done
        exact bottom_of_step here leads
      · cases done
    · cases done
      rfl

end HostLine

/-! ### What the work on a line comes to -/

namespace Job

open Work

variable {registry : Option Registry} {steps depth : Nat} {job part rest : Job}
  {trace middle scanned later : Trace} {next : LineState} {departure : Departure}
  {tokenizeLine : Job → Scanning LineState}

/-- All that the work on a line can come to. -/
inductive Worked (registry : Option Registry) (steps depth : Nat) (job : Job) (trace : Trace)
    (next : LineState) (later : Trace) : Prop where
  /-- All of the line is in an embedded language, and its state is carried on. -/
  | whole {embedded : Embedded} {left : Option LineState} {middle : Trace}
      (inside : job.state.embedded? = some embedded)
      (stays : job.tokenizer.leavingOffset? job.state.stack.state job.line = .ok none)
      (delegated : outcome (job.delegate registry (tokenizeWithin registry steps depth) embedded)
        trace = (.ok left, middle))
      (stack : next.stack.names = job.state.stack.names)
      (carries : next.embedded? = some { embedded with state := left })
  /-- The scan in the line comes to its end. -/
  | ended {part : Job} {departure : Departure} {middle scanned : Trace}
      (scans : Scans registry steps ⟨depth + 1, job, trace⟩ part middle)
      (departs : outcome (part.scanOwn steps) middle = (.ok departure, scanned))
      (hands : outcome (part.handOver registry departure) scanned = (.ok (next, none), later))
  /-- A language starts in the line, and the rest of the line comes to its end. -/
  | behind {part rest : Job} {departure : Departure} {made : LineState}
      {middle scanned handed : Trace}
      (scans : Scans registry steps ⟨depth + 1, job, trace⟩ part middle)
      (departs : outcome (part.scanOwn steps) middle = (.ok departure, scanned))
      (hands : outcome (part.handOver registry departure) scanned = (.ok (made, some rest), handed))
      (done : outcome (tokenizeWithin registry steps depth rest) handed = (.ok next, later))

theorem worked_of_ok
    (done : outcome (tokenizeWithin registry steps (depth + 1) job) trace = (.ok next, later)) :
    job.Worked registry steps depth trace next later := by
  have opening := done
  rw [tokenizeWithin, advance_eq] at opening
  obtain ⟨opened, middle, opens, -⟩ := outcome_bind_eq_ok.1 opening
  cases opened with
  | inl state =>
    rw [outcome_bind_of_ok opens, Sum.elim_inl, outcome_pure] at opening
    cases opening
    obtain ⟨embedded, inside, stays, -⟩ := openWith_inl opens
    unfold openWith at opens
    rw [inside] at opens
    dsimp only at opens
    rw [stays] at opens
    obtain ⟨leaving, _, searching, opens⟩ := outcome_bind_eq_ok.1 opens
    cases searching
    obtain ⟨left, _, delegated, sharing⟩ := outcome_bind_eq_ok.1 opens
    obtain ⟨made, shares, same⟩ := outcome_map_eq_ok.1 sharing
    cases same
    obtain ⟨stack, carries⟩ := lineState_ok shares
    exact .whole inside stays delegated stack carries
  | inr part =>
    rw [outcome_of_opens opens] at done
    obtain ⟨departure, scanned, departs, follows⟩ := outcome_bind_eq_ok.1 done
    obtain ⟨⟨made, rest⟩, handed, hands, finishes⟩ := outcome_bind_eq_ok.1 follows
    cases rest with
    | none =>
      cases finishes
      exact .ended (.opens opens) departs hands
    | some rest => exact .behind (.opens opens) departs hands finishes

/-- An unknown language is left as it was. -/
theorem left_of_unknown {embedded : Embedded} {left : Option LineState}
    (unknown : job.guestJob? registry embedded = none)
    (done : outcome (job.delegate registry tokenizeLine embedded) trace = (.ok left, later)) :
    left = embedded.state := by
  rw [delegate_eq, unknown] at done
  cases done
  rfl

/-- A line that is too long changes no state. -/
theorem state_of_long (long : job.tokenizer.limits.lineLength < job.line.size)
    (done : outcome (job.unlessLong tokenizeLine) trace = (.ok next, later)) :
    next = job.state := by
  unfold unlessLong at done
  rw [if_pos long] at done
  cases done
  rfl

/-- The state behind a scan has the stack that the scan ends with. -/
theorem stack_of_handOver {left : Option Job}
    (hands : outcome (job.handOver registry departure) trace = (.ok (next, left), later)) :
    next.stack.names = departure.stack.names := by
  cases departure with
  | lineEnd stack embedded =>
    obtain ⟨made, _, makes, ends⟩ := outcome_bind_eq_ok.1 hands
    cases ends
    exact (lineState_ok makes).1
  | enter name position stack =>
    obtain ⟨_, _, -, same, -⟩ := made_of_handOver hands
    exact same

/-- The rest of a line is for the same tokenizer, in the state behind the scan. -/
theorem same_of_handOver
    (hands : outcome (job.handOver registry departure) trace = (.ok (next, some rest), later)) :
    rest.tokenizer = job.tokenizer ∧ rest.state = next := by
  obtain ⟨name, position, stack, line, -, -, -, rfl⟩ := rest_of_handOver hands
  exact ⟨rfl, rfl⟩

end Job

namespace Work

open Job

variable {registry : Option Registry} {steps : Nat} {work inner : Work} {part : Job}
  {middle scanned : Trace} {departure : Departure}

/-- The stack fits where the scan in the work on a line ends. -/
theorem Scans.fits (scans : work.Scans registry steps part middle)
    (fits : work.job.tokenizer.Fits work.job.state.stack)
    (departs : outcome (part.scanOwn steps) middle = (.ok departure, scanned)) :
    work.job.tokenizer.Fits departure.stack := by
  rw [← scans.tokenizer, ← scans.state] at fits
  rw [← scans.tokenizer]
  exact HostLine.fits_run (HostLine.held_start part fits) departs

end Work

/-- A line that starts with a stack that fits ends with one. -/
theorem Job.fits_of_ok {registry : Option Registry} {steps depth : Nat} {job : Job}
    {trace later : Trace} {next : LineState} (fits : job.tokenizer.Fits job.state.stack)
    (done : outcome (tokenizeWithin registry steps depth job) trace = (.ok next, later)) :
    job.tokenizer.Fits next.stack := by
  induction depth generalizing job trace with
  | zero => cases done
  | succ depth step =>
    cases worked_of_ok done with
    | whole inside stays delegated stack carries => exact fits.of_names stack
    | ended scans departs hands =>
      exact (scans.fits fits departs).of_names (stack_of_handOver hands)
    | @behind part rest departure made middle scanned handed scans departs hands done =>
      obtain ⟨tokenizer, state⟩ := same_of_handOver hands
      have same : rest.tokenizer = job.tokenizer := tokenizer.trans scans.tokenizer
      rw [← same]
      refine step ?_ done
      rw [same, state]
      exact (scans.fits fits departs).of_names (stack_of_handOver hands)

namespace Work

open Job

/-- The rest of a line behind the place where a language starts is worked on for the tokenizer of
the line. -/
inductive Resumes (registry : Option Registry) (steps : Nat) : Work → Work → Prop where
  | behind {depth : Nat} {job part rest : Job} {trace middle scanned later : Trace}
      {departure : Departure} {made : LineState}
      (scans : Scans registry steps ⟨depth + 1, job, trace⟩ part middle)
      (departs : outcome (part.scanOwn steps) middle = (.ok departure, scanned))
      (hands : outcome (part.handOver registry departure) scanned =
        (.ok (made, some rest), later)) :
      Resumes registry steps ⟨depth + 1, job, trace⟩ ⟨depth, rest, later⟩

/-- In the work on a line, a scan for the tokenizer of the line puts another state in the place of
the only one on the stack. -/
def SwitchesBottom (registry : Option Registry) (steps : Nat) (work : Work) : Prop :=
  ∃ own host scan trace, Relation.ReflTransGen (Resumes registry steps) work own ∧
    own.Visits registry steps host scan trace ∧ host.SwitchesBottom scan trace

variable {registry : Option Registry} {steps : Nat} {work : Work} {part : Job}
  {middle scanned : Trace} {departure : Departure}

/-- The scan in the work on a line keeps the bottom of the stack if it is not switched. -/
theorem Scans.bottom (scans : work.Scans registry steps part middle)
    (keeps : ¬ work.SwitchesBottom registry steps)
    (departs : outcome (part.scanOwn steps) middle = (.ok departure, scanned)) :
    departure.stack.bottom = work.job.state.stack.bottom := by
  rw [← scans.state]
  show departure.stack.bottom = part.start.stack.bottom
  refine HostLine.bottom_of_run (fun turns allowed scan trace comes switches => ?_) departs
  exact keeps ⟨work, _, _, _, .refl, .turn scans allowed comes, switches⟩

end Work

/-- A line whose work does not switch the bottom of the stack ends with that bottom. -/
theorem Job.bottom_of_ok {registry : Option Registry} {steps depth : Nat} {job : Job}
    {trace later : Trace} {next : LineState}
    (keeps : ¬ Work.SwitchesBottom registry steps ⟨depth, job, trace⟩)
    (done : outcome (tokenizeWithin registry steps depth job) trace = (.ok next, later)) :
    next.stack.bottom = job.state.stack.bottom := by
  induction depth generalizing job trace with
  | zero => cases done
  | succ depth step =>
    cases worked_of_ok done with
    | whole inside stays delegated stack carries => exact Stack.bottom_of_names stack
    | ended scans departs hands =>
      exact (Stack.bottom_of_names (stack_of_handOver hands)).trans (scans.bottom keeps departs)
    | @behind part rest departure made middle scanned handed scans departs hands done =>
      have here := (Stack.bottom_of_names (stack_of_handOver hands)).trans
        (scans.bottom keeps departs)
      rw [← here, ← (same_of_handOver hands).2]
      refine step ?_ done
      rintro ⟨own, host, scan, before, resumes, visits, switches⟩
      exact keeps ⟨own, host, scan, before, resumes.head (.behind scans departs hands), visits,
        switches⟩

/-! ### Lines that have been done -/

/-- A line that has been tokenized: the languages that were known, the limit of steps, and the work
on the line. -/
structure Done where
  registry : Option Registry
  steps : Nat
  work : Work

namespace Done

/-- A line that was not too long was worked on. -/
def Short (done : Done) : Prop :=
  done.work.job.line.size ≤ done.work.job.tokenizer.limits.lineLength

/-- The line was a part of another one. -/
structure PartOf (done outer : Done) : Prop where
  registry : done.registry = outer.registry
  steps : done.steps = outer.steps
  involved : done.Short → outer.work.Involves outer.registry outer.steps done.work

/-- The line switched the bottom of the stack. -/
def SwitchesBottom (done : Done) : Prop :=
  done.Short ∧ done.work.SwitchesBottom done.registry done.steps

end Done

/-- The states that a tokenizer reaches from its first one, with the lines that have been done on
the way, the last one first. -/
inductive Reaches (tokenizer : Tokenizer) : List Done → LineState → Prop where
  | initial {state : LineState} {trace later : Trace}
      (starts : outcome tokenizer.initialState trace = (.ok state, later)) :
      Reaches tokenizer [] state
  | line {history : List Done} {registry : Option Registry} {steps depth : Nat} {job : Job}
      {next : LineState} {trace later : Trace} (before : Reaches tokenizer history job.state)
      (own : job.tokenizer = tokenizer)
      (done : outcome (job.unlessLong (Job.tokenizeWithin registry steps depth)) trace =
        (.ok next, later)) :
      Reaches tokenizer (⟨registry, steps, ⟨depth, job, trace⟩⟩ :: history) next

/-- The state of an embedded language is one that its tokenizer reaches by lines from among given
ones, while the languages that are known stay the same. -/
structure Lodges (registry : Option Registry) (tokenizer : Tokenizer) (parts : Done → Prop)
    (language : String) (inner : LineState) (guest : Tokenizer) (history : List Done) : Prop where
  resolves : (tokenizer.languages? registry).bind (·.tokenizer? language) = some guest
  reaches : Reaches guest history inner
  among : ∀ done ∈ history, done.registry = registry ∧ parts done

/-- If a known language is embedded, its state is one that its tokenizer reaches. -/
def Lodged (registry : Option Registry) (tokenizer : Tokenizer) (parts : Done → Prop)
    (embedded : Option Embedded) : Prop :=
  ∀ language inner, embedded = some ⟨language, some inner⟩ →
    ∃ guest history, Lodges registry tokenizer parts language inner guest history

theorem Lodged.mono {registry : Option Registry} {tokenizer : Tokenizer} {parts more : Done → Prop}
    {embedded : Option Embedded} (lodged : Lodged registry tokenizer parts embedded)
    (implies : ∀ done, parts done → more done) : Lodged registry tokenizer more embedded := by
  intro language inner carries
  obtain ⟨guest, history, lodges⟩ := lodged language inner carries
  exact ⟨guest, history, lodges.resolves, lodges.reaches, fun done inside =>
    ⟨(lodges.among done inside).1, implies done (lodges.among done inside).2⟩⟩

/-- A language that starts is in the first state of its tokenizer. -/
theorem lodged_of_embed {registry : Option Registry} {tokenizer : Tokenizer} {parts : Done → Prop}
    {name : String} {embedded : Embedded} {trace later : Trace}
    (done : outcome (tokenizer.embed registry name) trace = (.ok embedded, later)) :
    Lodged registry tokenizer parts (some embedded) := by
  unfold Tokenizer.embed at done
  dsimp only at done
  split at done
  · next guest resolves =>
    obtain ⟨state, _, starts, ends⟩ := outcome_bind_eq_ok.1 done
    cases ends
    intro language inner carries
    cases carries
    exact ⟨guest, [], resolves, .initial starts, List.forall_mem_nil _⟩
  · cases done
    intro language inner carries
    cases carries

namespace Job

variable {registry : Option Registry} {steps depth : Nat} {job : Job} {trace later middle : Trace}
  {next : LineState} {parts : Done → Prop}

/-- A line that goes to an embedded language as a whole or in part leads to a state that its
tokenizer reaches. -/
theorem lodged_of_delegate {embedded : Embedded} {left : Option LineState}
    (before : Lodged registry job.tokenizer parts (some embedded))
    (covers : ∀ guest, job.guestJob? registry embedded = some guest →
      parts ⟨registry, steps, ⟨depth, guest, trace⟩⟩)
    (done : outcome (job.delegate registry (tokenizeWithin registry steps depth) embedded) trace =
      (.ok left, later)) :
    Lodged registry job.tokenizer parts (some { embedded with state := left }) := by
  obtain ⟨language, state⟩ := embedded
  rcases delegate_ok done with ⟨unknown, -⟩ | ⟨guestJob, state, known, worked⟩
  · rw [left_of_unknown unknown done]
    exact before
  · intro other inner carries
    have left := done
    rw [delegate_eq, known] at left
    obtain ⟨made, works, same⟩ := outcome_map_eq_ok.1 left
    cases same
    cases carries
    obtain ⟨guest, history, lodges⟩ := before language guestJob.state
      (by rw [← guestJob?_state known])
    have tokenizer : guestJob.tokenizer = guest :=
      Option.some.inj ((guestJob?_eq_some known).1.symm.trans lodges.resolves)
    refine ⟨guest, _, lodges.resolves, .line lodges.reaches tokenizer works, ?_⟩
    rw [List.forall_mem_cons]
    exact ⟨⟨rfl, covers guestJob known⟩, lodges.among⟩

/-- Behind the scan in a line no known language is embedded but the one before the line or one that
has just started. -/
theorem lodged_of_handOver {part : Job} {departure : Departure} {scanned : Trace}
    {left : Option Job}
    (before : Lodged registry part.tokenizer parts part.state.embedded?)
    (departs : outcome (part.scanOwn steps) middle = (.ok departure, scanned))
    (hands : outcome (part.handOver registry departure) scanned = (.ok (next, left), later)) :
    Lodged registry part.tokenizer parts next.embedded? := by
  cases departure with
  | lineEnd stack carried =>
    rw [embedded?_of_handOver hands]
    have kept : carried = none ∨ carried = part.state.embedded? := by
      show carried = none ∨ carried = part.start.embedded
      cases inside : part.start.embedded with
      | none => exact Or.inl (HostLine.run_outside inside departs)
      | some embedded =>
        rcases HostLine.embedded_of_run inside departs with ⟨-, gone⟩ | ⟨-, stack, same⟩
        · exact Or.inl (gone _ _ rfl)
        · cases same
          exact Or.inr rfl
    rcases kept with rfl | rfl
    · exact nofun
    · exact before
  | enter name position stack =>
    obtain ⟨embedded, _, embeds, -, carries⟩ := made_of_handOver hands
    rw [carries]
    exact lodged_of_embed embeds

/-- A line leaves an embedded language in a state that its tokenizer reaches, if it starts so. -/
theorem lodged_of_ok (before : Lodged registry job.tokenizer parts job.state.embedded?)
    (covers : ∀ done, Done.PartOf done ⟨registry, steps, ⟨depth, job, trace⟩⟩ → parts done)
    (done : outcome (tokenizeWithin registry steps depth job) trace = (.ok next, later)) :
    Lodged registry job.tokenizer parts next.embedded? := by
  induction depth generalizing job trace with
  | zero => cases done
  | succ depth step =>
    have scanned : ∀ {part : Job} {middle scanned : Trace} {departure : Departure}
        {made : LineState} {left : Option Job} {handed : Trace},
        Work.Scans registry steps ⟨depth + 1, job, trace⟩ part middle →
        outcome (part.scanOwn steps) middle = (.ok departure, scanned) →
        outcome (part.handOver registry departure) scanned = (.ok (made, left), handed) →
        Lodged registry job.tokenizer parts made.embedded? := by
      intro part middle scanned departure made left handed scans departs hands
      have tokenizer : part.tokenizer = job.tokenizer := scans.tokenizer
      have state : part.state = job.state := scans.state
      rw [← tokenizer, ← state] at before
      rw [← tokenizer]
      exact lodged_of_handOver before departs hands
    cases worked_of_ok done with
    | whole inside stays delegated stack carries =>
      rw [inside] at before
      rw [carries]
      refine lodged_of_delegate before (fun guest known => covers _ ⟨rfl, rfl, fun short => ?_⟩)
        delegated
      exact .single (.whole inside stays known short)
    | ended scans departs hands => exact scanned scans departs hands
    | @behind part rest departure made middle scannedTrace handed scans departs hands done =>
      obtain ⟨tokenizer, state⟩ := same_of_handOver hands
      have same : rest.tokenizer = job.tokenizer := tokenizer.trans scans.tokenizer
      have here := scanned scans departs hands
      rw [← state, ← same] at here
      rw [← same]
      refine step here (fun part inner => ?_) done
      exact covers part ⟨inner.registry, inner.steps, fun short =>
        .head (.behind scans departs hands) (inner.involved short)⟩

end Job

/-! ### The states that are reached -/

namespace Reaches

variable {registry : Option Registry} {tokenizer : Tokenizer} {history : List Done}
  {state : LineState}

/-- The first state of a tokenizer has the start state alone on its stack and embeds nothing. -/
theorem initialState_ok {trace later : Trace}
    (starts : outcome tokenizer.initialState trace = (.ok state, later)) :
    state.stack.names = [tokenizer.grammar.start] ∧ state.embedded? = none := by
  obtain ⟨root, _, roots, makes⟩ := outcome_bind_eq_ok.1 starts
  obtain ⟨names, outside⟩ := lineState_ok makes
  cases roots
  exact ⟨names.trans (StateCache.names_root _ _), outside⟩

/-- The stacks of the states that are reached fit. -/
theorem fits (reaches : Reaches tokenizer history state) : tokenizer.Fits state.stack := by
  induction reaches with
  | initial starts =>
    obtain ⟨names, -⟩ := initialState_ok starts
    refine ⟨?_, Or.inr names⟩
    unfold Tokenizer.Bounds
    rw [← Stack.length_names, names]
    exact Nat.le_max_left _ _
  | line before own done step =>
    subst own
    rcases Job.unlessLong_ok done with ⟨long, -⟩ | ⟨-, worked⟩
    · rw [Job.state_of_long long done]
      exact step
    · exact Job.fits_of_ok step worked

/-- The start state stays at the bottom as long as no line switches the bottom. -/
theorem bottom (reaches : Reaches tokenizer history state)
    (keeps : ∀ done ∈ history, ¬ done.SwitchesBottom) :
    state.stack.bottom = tokenizer.grammar.start := by
  induction reaches with
  | initial starts => exact Stack.bottom_of_singleton (initialState_ok starts).1
  | line before own done step =>
    rw [List.forall_mem_cons] at keeps
    rcases Job.unlessLong_ok done with ⟨long, -⟩ | ⟨short, worked⟩
    · rw [Job.state_of_long long done]
      exact step keeps.2
    · rw [Job.bottom_of_ok (fun switches => keeps.1 ⟨short, switches⟩) worked]
      exact step keeps.2

/-- While the languages that are known stay the same, an embedded language is in a state that its
tokenizer reaches by parts of the lines that have been done. -/
theorem lodged (reaches : Reaches tokenizer history state)
    (unchanged : ∀ done ∈ history, done.registry = registry) :
    Lodged registry tokenizer (fun done => ∃ outer ∈ history, done.PartOf outer)
      state.embedded? := by
  induction reaches with
  | initial starts =>
    rw [(initialState_ok starts).2]
    exact nofun
  | @line history known steps depth job next trace later before own done step =>
    subst own
    rw [List.forall_mem_cons] at unchanged
    obtain ⟨same, unchanged⟩ := unchanged
    have same : known = registry := same
    subst same
    have earlier : Lodged known job.tokenizer
        (fun done => ∃ outer ∈ ⟨known, steps, ⟨depth, job, trace⟩⟩ :: history, done.PartOf outer)
        job.state.embedded? :=
      (step unchanged).mono fun done part =>
        part.imp fun outer found => found.imp_left (List.mem_cons_of_mem _)
    rcases Job.unlessLong_ok done with ⟨long, -⟩ | ⟨-, worked⟩
    · rw [Job.state_of_long long done]
      exact earlier
    · exact Job.lodged_of_ok earlier (fun done part => ⟨_, List.mem_cons_self, part⟩) worked

end Reaches

/-- What holds of the stack of a state that is reached. -/
structure Stack.WellFormed (tokenizer : Tokenizer) (history : List Done) (stack : Stack) :
    Prop where
  count : stack.depth = stack.names.length
  positive : 1 ≤ stack.depth
  bounded : stack.depth ≤ max 1 tokenizer.limits.stackDepth
  declared : (∀ name ∈ stack.names, tokenizer.grammar.stateExists name = true) ∨
    stack.names = [tokenizer.grammar.start]
  bottom : (∀ done ∈ history, ¬ done.SwitchesBottom) → stack.bottom = tokenizer.grammar.start

/-- What holds of a state that is reached, and of the states embedded in it: each of those is
reached by its own tokenizer, by parts of the lines of the host. -/
def LineState.WellFormed (registry : Option Registry) (tokenizer : Tokenizer)
    (history : List Done) : LineState → Prop
  | .host _ stack => stack.WellFormed tokenizer history
  | .unknown _ stack _ => stack.WellFormed tokenizer history
  | .embedding _ stack language inner => stack.WellFormed tokenizer history ∧
    ∃ guest lines, Lodges registry tokenizer (fun done => ∃ outer ∈ history, done.PartOf outer)
      language inner guest lines ∧ inner.WellFormed registry guest lines

/-- The stacks of the states that are reached are well formed. -/
theorem Reaches.stack_wellFormed {tokenizer : Tokenizer} {history : List Done} {state : LineState}
    (reaches : Reaches tokenizer history state) : state.stack.WellFormed tokenizer history where
  count := state.stack.length_names.symm
  positive := state.stack.depth_pos
  bounded := reaches.fits.bounded
  declared := reaches.fits.declared
  bottom := reaches.bottom

/-- Every state that a tokenizer reaches from its first one has a stack that is not empty, not
deeper than allowed, and has no states on it in which no rules hold, unless it is the start state
alone; and the start state is at its bottom if no line has switched that. While the languages that
are known stay the same, this holds for the states that are embedded in it in turn, and for their
own tokenizers. -/
theorem Reaches.wellFormed {tokenizer : Tokenizer} {history : List Done} {state : LineState}
    (reaches : Reaches tokenizer history state) :
    state.stack.WellFormed tokenizer history ∧
      ∀ registry, (∀ done ∈ history, done.registry = registry) →
        state.WellFormed registry tokenizer history := by
  refine ⟨reaches.stack_wellFormed, fun registry unchanged => ?_⟩
  induction state generalizing tokenizer history with
  | host identity stack => exact reaches.stack_wellFormed
  | unknown identity stack language => exact reaches.stack_wellFormed
  | embedding identity stack language inner step =>
    obtain ⟨guest, lines, lodges⟩ := reaches.lodged unchanged language inner rfl
    exact ⟨reaches.stack_wellFormed, guest, lines, lodges,
      step lodges.reaches fun done inside => (lodges.among done inside).1⟩

/-- A line with a part in another language, which changes its own stack there. -/
def deepJob (outer : Grammar) (state : LineState) : Job :=
  { nestedJob outer with line := ['<', 'b'], state }

/-- Whether both stacks are two states deep. -/
def isDeep (state : LineState) : Bool :=
  decide (state.content = [(["deep", "main"], some "inner"), (["rest", "main"], none)])

theorem Reaches.wellFormed_nested_line :
    ∃ (registry : Registry) (tokenizer : Tokenizer) (history : List Done) (state : LineState),
      state.content = [(["deep", "main"], some "inner"), (["rest", "main"], none)] ∧
      Reaches tokenizer history state ∧ state.WellFormed (some registry) tokenizer history := by
  obtain ⟨outer, -, passes⟩ := Grammar.exists_of_compiles
    (Grammar.compileText "outer" "\x7b\"tokenizer\": \x7b
      \"main\": [[\"<\",
        \x7b\"token\": \"x\", \"next\": \"@deep\", \"nextEmbedded\": \"inner\"\x7d]],
      \"deep\": [[\">\", \x7b\"token\": \"x\", \"nextEmbedded\": \"@pop\"\x7d]]\x7d\x7d" false)
    (fun outer => (Grammar.compileText "inner" "\x7b\"tokenizer\": \x7b
      \"main\": [[\"b\", \x7b\"token\": \"x\", \"next\": \"@rest\"\x7d]],
      \"rest\": [[\"c\", \"x\"]]\x7d\x7d" false).result.toOption.any fun inner =>
        (outcome (nestedJob outer).tokenizer.initialState {}).1.toOption.any fun first =>
          (outcome (Job.unlessLong (Job.tokenizeWithin (some (registryOf inner)) 50 5)
            (deepJob outer first)) {}).1.toOption.any isDeep)
    (by decide +kernel)
  obtain ⟨inner, -, passes⟩ := Grammar.exists_of_compiles _ _ passes
  obtain ⟨first, _, starts, passes⟩ := exists_of_outcome (fun first _ =>
    (outcome (Job.unlessLong (Job.tokenizeWithin (some (registryOf inner)) 50 5)
      (deepJob outer first)) {}).1.toOption.any isDeep) passes
  obtain ⟨state, _, done, deep⟩ := exists_of_outcome (fun state _ => isDeep state) passes
  have reaches : Reaches (nestedJob outer).tokenizer
      [⟨some (registryOf inner), 50, ⟨5, deepJob outer first, {}⟩⟩] state :=
    .line (.initial starts) rfl done
  refine ⟨registryOf inner, _, _, state, of_decide_eq_true deep, reaches,
    reaches.wellFormed.2 _ ?_⟩
  rw [List.forall_mem_singleton]

end LineLexer
