import LineLexer.Proofs.Declared
import LineLexer.Proofs.Halting
import LineLexer.Proofs.Reachable
import LineLexer.Proofs.Stops

/-!
**Targets in which no rules hold.**

The targets of a compiled grammar that depend on no match are states with rules, and so is every
state on a stack that a line leaves. What is left to fail at run time is a target that depends on a
match, and a target whose at-sign is taken off once more.

* `Template.fill_of_plain`: a template without references is filled in as it stands;
* `HostLine.Misses`: how a step fails for want of rules;
* `Scan.Settled`: the targets in pending groups;
* `Work.Fails`, `exists_fails`: where the work on a line fails;
* `Job.Placed`: what the parts of a line keep of the states that are reached;
* `Reaches.misses_of_strict`: how lines fail for want of rules, and what targets lead to.
-/

namespace LineLexer

open Scanning

/-! ### Templates without references -/

namespace Template

/-- The pieces of a text without dollar signs are its letters. -/
theorem piecesWithin_of_plain {steps : Nat} {text : Text} (room : text.length ≤ steps)
    (plain : '$' ∉ text) : piecesWithin steps text = text.map .letter := by
  induction steps generalizing text with
  | zero =>
    rw [List.length_eq_zero_iff.1 (Nat.le_zero.1 room)]
    rfl
  | succ steps step =>
    cases text with
    | nil => rfl
    | cons letter rest =>
      rw [List.mem_cons, not_or] at plain
      rw [piecesWithin, if_neg (Ne.symm plain.1), step (Nat.le_of_succ_le_succ room) plain.2]
      rfl

/-- A template without dollar signs is filled in as it stands. -/
theorem fill_of_plain {template : String} (plain : '$' ∉ template.toList) (settings : Settings)
    (context : MatchContext) : fill settings template context = template := by
  unfold fill pieces
  rw [piecesWithin_of_plain (Nat.le_refl _) plain, List.flatMap_map]
  show String.ofList (template.toList.flatMap fun letter => [letter]) = template
  rw [List.flatMap_singleton', String.ofList_toList]

end Template

/-- A name starts with an at-sign. -/
def Marked (name : String) : Prop := ∃ rest, name.toList = '@' :: rest

/-- Only a name that starts with an at-sign is another one without it. -/
theorem withoutAtSign_eq_iff {name : String} : withoutAtSign name = name ↔ ¬ Marked name := by
  unfold withoutAtSign Marked
  split
  · next rest starts =>
    constructor
    · intro same
      have shorter := congrArg (List.length ∘ String.toList) same
      rw [Function.comp_apply, Function.comp_apply, String.toList_ofList, starts,
        List.length_cons] at shorter
      omega
    · exact fun unmarked => absurd ⟨rest, starts⟩ unmarked
  · next other =>
    constructor
    · rintro - ⟨rest, starts⟩
      exact other rest starts
    · exact fun _ => rfl

/-- The at-sign of a name is no dollar sign. -/
theorem mem_of_mem_withoutAtSign {name : String} {letter : Char}
    (inside : letter ∈ (withoutAtSign name).toList) : letter ∈ name.toList := by
  unfold withoutAtSign at inside
  split at inside
  · next rest starts =>
    rw [String.toList_ofList] at inside
    rw [starts]
    exact List.mem_cons_of_mem _ inside
  · exact inside

/-! ### Faults for want of rules -/

/-- A fault for want of rules in a state. -/
def Fault.AboutState : Fault → Prop
  | .undefinedState _ => True
  | .undefinedNextState _ _ => True
  | .undefinedSwitchState _ _ => True
  | _ => False

namespace HostLine

variable {host : HostLine} {scan after next start reached : Scan} {found : Found}
  {action : TokenAction} {context : MatchContext} {trace middle later : Trace} {fault : Fault}
  {language : String} {steps turns : Nat}

/-- How a step fails for want of rules: in the state on top of the stack, or in a target. -/
inductive Misses (host : HostLine) (scan : Scan) (trace : Trace) (fault : Fault) : Prop where
  | state (undeclared : host.tokenizer.grammar.stateExists scan.stack.state = false)
      (same : fault = .undefinedState scan.stack.state)
  | target {context : MatchContext} {action : TokenAction} {rule : String}
      (meets : host.Meets scan trace context action)
      (misses : action.MissesTarget host.tokenizer context rule fault)

/-- A step fails for want of rules only in the state on top of the stack or in a target. -/
theorem step_misses (about : fault.AboutState)
    (stopped : outcome (host.step scan) trace = (.error (.fault ⟨language, fault⟩), later)) :
    host.Misses scan trace fault := by
  cases (fails_of_step stopped).1 with
  | state nothing =>
    refine .state ?_ rfl
    unfold Grammar.stateExists
    rw [nothing]
    rfl
  | target meets misses => exact .target meets misses
  | _ => cases about

/-- A run that fails has come to a turn that fails. -/
theorem exists_turn?_of_fault {error : TokenizeError}
    (fails : outcome (host.run steps scan) trace = (.error (.fault error), later)) :
    ∃ turns < steps, ∃ reached before, host.turn? turns scan trace = some (reached, before) ∧
      outcome (host.step reached) before = (.error (.fault error), later) := by
  induction steps generalizing scan trace with
  | zero => cases fails
  | succ steps step =>
    rw [outcome_run_succ] at fails
    split at fails
    · next due =>
      split at fails
      · next next middle leads =>
        obtain ⟨turns, allowed, reached, before, comes, ends⟩ := step fails
        exact ⟨turns + 1, Nat.succ_lt_succ allowed, reached, before,
          (turn?_succ due leads).trans comes, ends⟩
      · cases fails
      · next stops =>
        cases fails
        exact ⟨0, Nat.succ_pos steps, scan, trace, turn?_zero due, stops⟩
    · cases fails

end HostLine

/-! ### Targets in pending groups -/

/-- The targets in the groups that are left are settled. -/
def Scan.Settled (known : String → Bool) (scan : Scan) : Prop :=
  ∀ replay, scan.replay = some replay → ∀ member ∈ replay.members, member.1.Settled known

namespace HostLine

variable {host : HostLine} {scan after next start reached : Scan} {found : Found}
  {action : TokenAction} {context : MatchContext} {trace middle later : Trace}
  {known : String → Bool} {turns : Nat}
  (holds : ∀ action, host.tokenizer.grammar.HasAction action → action.Settled known)

include holds

/-- No target of a token action that a step comes to dangles. -/
theorem Meets.settled (settled : scan.Settled known)
    (meets : host.Meets scan trace context action) : action.dangles known = false := by
  obtain ⟨after, found, taken, takes, -, leads⟩ := meets
  exact Action.anyToken_resolve (TokenAction.dangles_plain known) found.action
    (holds_of_take holds settled takes).1 leads

/-- The targets in the groups that a step leaves are settled. -/
theorem settled_step (settled : scan.Settled known)
    (leads : outcome (host.step scan) trace = (.ok (.goOn next), later)) : next.Settled known :=
  carries_step holds (fun {action _ _} settled resolves _ inside => Action.anyToken_of_mem
    (Action.anyToken_resolve (TokenAction.dangles_plain known) action settled resolves) inside)
    settled leads

end HostLine

/-! ### Where the work on a line fails -/

namespace Work

open Job

variable {registry : Option Registry} {steps : Nat} {work inner : Work} {error : TokenizeError}

/-- The work on a line fails where it searches for the end of the embedded language, or at a turn of
its scan. -/
inductive Fails (registry : Option Registry) (steps : Nat) (work : Work) (error : TokenizeError) :
    Prop where
  | leaving {fault : Fault}
      (fails : work.job.tokenizer.leavingOffset? work.job.state.stack.state work.job.line =
        .error fault) (same : error.fault = fault)
  | turn {host : HostLine} {scan : Scan} {before later : Trace}
      (visits : work.Visits registry steps host scan before)
      (fails : outcome (host.step scan) before = (.error (.fault error), later))

/-- Work on a line that fails does so in one of its parts. -/
theorem exists_fails (stops : work.Stops registry steps (.fault error)) :
    ∃ inner, work.Involves registry steps inner ∧ inner.Fails registry steps error := by
  -- the parts of a line nest less deep than the line
  induction deep : work.depth generalizing work with
  | zero =>
    obtain ⟨later, stopped⟩ := stops
    rw [deep] at stopped
    cases stopped
  | succ depth step =>
    rcases stops.leaving_own_or_gives (by rw [deep]; exact Nat.succ_ne_zero depth) with
      ⟨_, fault, -, fails, same⟩ | itself | ⟨inner, gives, deeper, stopsToo⟩
    · cases same
      exact ⟨work, .refl, .leaving fails rfl⟩
    · cases itself with
      | scan scans stopped =>
        obtain ⟨turns, allowed, scan, before, comes, fails⟩ :=
          HostLine.exists_turn?_of_fault stopped
        exact ⟨work, .refl, .turn (.turn scans allowed comes) fails⟩
      | handOver scans departs stopped =>
        refine absurd stopped (never_handOver ?_ _ _ _ _ _)
        exact nofun
    · obtain ⟨last, involves, fails⟩ := step stopsToo (by omega)
      exact ⟨last, .head gives involves, fails⟩

end Work

/-! ### What the parts of a line keep -/

/-- A line starts in a state whose stack fits, and the embedded language is in a state that its
tokenizer reaches. -/
structure Job.Placed (registry : Option Registry) (job : Job) : Prop where
  fits : job.tokenizer.Fits job.state.stack
  lodged : Lodged registry job.tokenizer (fun _ => True) job.state.embedded?

/-- A line in a state that is reached starts so. -/
theorem Reaches.placed {registry : Option Registry} {history : List Done} {job : Job}
    (reaches : Reaches job.tokenizer history job.state)
    (unchanged : ∀ done ∈ history, done.registry = registry) : job.Placed registry :=
  ⟨reaches.fits, (reaches.lodged unchanged).mono fun _ _ => trivial⟩

namespace Work

open Job

variable {registry : Option Registry} {steps : Nat} {work inner : Work}

/-- The part of a line that goes to an embedded language starts so. -/
theorem placed_of_guestJob? {job guest : Job} {embedded : Embedded}
    (lodged : Lodged registry job.tokenizer (fun _ => True) (some embedded))
    (known : job.guestJob? registry embedded = some guest) : guest.Placed registry := by
  obtain ⟨language, state⟩ := embedded
  obtain ⟨tokenizer, history, lodges⟩ := lodged language guest.state
    (by rw [← guestJob?_state known])
  have same : guest.tokenizer = tokenizer :=
    Option.some.inj ((guestJob?_eq_some known).1.symm.trans lodges.resolves)
  have reaches : Reaches guest.tokenizer history guest.state := by
    rw [same]
    exact lodges.reaches
  exact reaches.placed fun done inside => (lodges.among done inside).1

theorem Gives.placed (gives : Gives registry steps work inner)
    (placed : work.job.Placed registry) : inner.job.Placed registry := by
  obtain ⟨fits, lodged⟩ := placed
  cases gives with
  | whole inside stays known short =>
    rw [show _ = some _ from inside] at lodged
    exact placed_of_guestJob? lodged known
  | @before depth job guest trace embedded offset line inside leaves positive taken known short =>
    rw [show job.state.embedded? = some embedded from inside] at lodged
    have same : (job.guestPart line).tokenizer = job.tokenizer := rfl
    rw [← same] at lodged
    exact placed_of_guestJob? lodged known
  | @behind depth job part rest trace middle scanned later departure state scans departs hands =>
    obtain ⟨tokenizer, made⟩ := same_of_handOver hands
    have same : rest.tokenizer = job.tokenizer := tokenizer.trans scans.tokenizer
    constructor
    · show rest.tokenizer.Fits rest.state.stack
      rw [same, made]
      exact (scans.fits fits departs).of_names (stack_of_handOver hands)
    · show Lodged registry rest.tokenizer _ rest.state.embedded?
      rw [tokenizer, made]
      refine lodged_of_handOver ?_ departs hands
      rw [scans.tokenizer, scans.state]
      exact lodged

theorem Involves.placed (involves : work.Involves registry steps inner)
    (placed : work.job.Placed registry) : inner.job.Placed registry := by
  unfold Involves at involves
  induction involves with
  | refl => exact placed
  | tail _ gives step => exact gives.placed step

/-- A scan in the work on a line has a stack that fits before each turn, and the targets in its
pending groups are settled if those of the grammar are. -/
theorem Visits.held {host : HostLine} {scan : Scan} {trace : Trace} {known : String → Bool}
    (placed : work.job.Placed registry)
    (holds : ∀ action, work.job.tokenizer.grammar.HasAction action → action.Settled known)
    (visits : work.Visits registry steps host scan trace) :
    host.tokenizer = work.job.tokenizer ∧ host.Held scan ∧ scan.Settled known := by
  obtain @⟨part, middle, scans, turns, -, scan, trace, comes⟩ := visits
  have same : part.host.tokenizer = work.job.tokenizer := scans.tokenizer
  have starts : part.host.Held part.start := by
    refine HostLine.held_start part ?_
    rw [scans.tokenizer, scans.state]
    exact placed.fits
  rw [← same] at holds
  refine ⟨same, HostLine.turn?_invariant (fun scan _ => part.host.Held scan ∧ scan.Settled known)
    (fun kept leads => ?_) ⟨starts, ?_⟩ comes⟩
  · exact ⟨HostLine.held_next kept.1 leads, HostLine.settled_step holds kept.2 leads⟩
  · exact nofun

end Work

/-! ### Grammars without tolerance -/

/-- A grammar that has been compiled without tolerance and whose start state has a name. -/
structure Grammar.Strict (grammar : Grammar) : Prop where
  compiled : ∃ language value, (compile language value false).result = .ok grammar
  named : grammar.start ≠ ""

theorem Grammar.Strict.settled {grammar : Grammar} (strict : grammar.Strict) :
    grammar.Settled := by
  obtain ⟨⟨language, value, made⟩, -⟩ := strict
  exact settled_of_compile made

/-- Rules hold in the state on top of a stack that fits, if they hold in the start state. -/
theorem Tokenizer.Fits.stateExists {tokenizer : Tokenizer} {stack : Stack}
    (fits : tokenizer.Fits stack) (strict : tokenizer.grammar.Strict) :
    tokenizer.grammar.stateExists stack.state = true := by
  rcases fits.declared with declared | alone
  · exact declared _ (List.mem_of_head? stack.head?_names)
  · have top := stack.head?_names
    rw [alone, List.head?_cons, Option.some.injEq] at top
    rw [← top]
    exact strict.settled.start strict.named

/-- The rules by which an embedded language ends only fail as regular expressions. -/
theorem Tokenizer.exits_eq_error {tokenizer : Tokenizer} {state : String} {line : Text}
    {rules : List Rule} {fault : Fault} (fails : tokenizer.exits state line rules = .error fault) :
    ∃ pattern detail, fault = .invalidRegex pattern detail := by
  induction rules with
  | nil => cases fails
  | cons rule rules step =>
    rcases exceptBind_eq_error.1 fails with first | ⟨_, -, following⟩
    · unfold exit? at first
      split at first
      · cases first
        exact ⟨_, _, rfl⟩
      · split at first
        · cases first
        · split at first <;> cases first
    · rcases exceptBind_eq_error.1 following with later | ⟨_, -, made⟩
      · exact step later
      · cases made

/-- The search for the end of an embedded language fails where no rules hold, where none of them
ends it, or in a regular expression. -/
theorem Tokenizer.leavingOffset?_eq_error {tokenizer : Tokenizer} {state : String} {line : Text}
    {fault : Fault} (fails : tokenizer.leavingOffset? state line = .error fault) :
    (tokenizer.grammar.findRules? state = none ∧ fault = .undefinedState state) ∨
      fault = .noEmbeddedExit state ∨ ∃ pattern detail, fault = .invalidRegex pattern detail := by
  unfold leavingOffset? at fails
  split at fails
  · next nothing =>
    cases fails
    exact Or.inl ⟨nothing, rfl⟩
  · split at fails
    · cases fails
      exact Or.inr (Or.inl rfl)
    · exact Or.inr (Or.inr (exits_eq_error (exceptMap_eq_error.1 fails)))

/-- The search for the end of an embedded language fails for want of rules only in the state on top
of the stack. -/
theorem Tokenizer.leavingOffset?_misses {tokenizer : Tokenizer} {state : String} {line : Text}
    {fault : Fault} (about : fault.AboutState)
    (fails : tokenizer.leavingOffset? state line = .error fault) :
    tokenizer.grammar.stateExists state = false := by
  rcases leavingOffset?_eq_error fails with ⟨nothing, -⟩ | rfl | ⟨pattern, detail, rfl⟩
  · unfold Grammar.stateExists
    rw [nothing]
    rfl
  · cases about
  · cases about

/-- A target of a token action depends on the match, or it is a next state whose name still starts
with an at-sign. -/
inductive TokenAction.LeftOpen (action : TokenAction) : Prop where
  | switchTo {template : String} (switches : action.switchTo = some template)
      (refers : '$' ∈ template.toList)
  | goto {template : String} (stays : action.switchTo = none)
      (next : action.next = some (.goto template))
      (refers : '$' ∈ template.toList ∨ Marked template)

/-- A settled target is a state without rules only if it is left open. -/
theorem TokenAction.MissesTarget.leftOpen {tokenizer : Tokenizer} {context : MatchContext}
    {rule : String} {action : TokenAction} {fault : Fault}
    (misses : action.MissesTarget tokenizer context rule fault)
    (settled : action.dangles tokenizer.grammar.stateExists = false) : action.LeftOpen := by
  unfold dangles at settled
  rw [Bool.or_eq_false_iff] at settled
  cases misses with
  | @goto template name stays next target undeclared =>
    refine .goto stays next ?_
    by_contra closed
    rw [not_or] at closed
    rw [Template.fill_of_plain closed.1, withoutAtSign_eq_iff.2 closed.2] at target
    have declared := settled.1
    rw [next] at declared
    unfold settles at declared
    dsimp only at declared
    rw [← target, undeclared, target] at declared
    simp [closed.1] at declared
  | @switchTo template name switches target undeclared =>
    refine .switchTo switches ?_
    by_contra closed
    rw [Template.fill_of_plain closed] at target
    have declared := settled.2
    rw [switches] at declared
    unfold settles at declared
    dsimp only at declared
    have plain : '$' ∉ (withoutAtSign template).toList := fun inside =>
      closed (mem_of_mem_withoutAtSign inside)
    rw [← target, undeclared, target] at declared
    simp [plain] at declared

theorem Stack.state_of_names {stack : Stack} {state : String} {rest : List String}
    (names : stack.names = state :: rest) : stack.state = state := by
  have top := stack.head?_names
  rw [names, List.head?_cons, Option.some.injEq] at top
  exact top.symm

/-- A target without references to the match is the state on top of the stack behind the step,
without the at-sign that it starts with. -/
theorem HostLine.Acts.state_eq {host : HostLine} {scan : Scan} {found : Found}
    {action : TokenAction} {next : Next} {trace later : Trace}
    (acts : host.Acts scan trace found action next later) :
    (∀ template, action.switchTo = some template → '$' ∉ template.toList →
      next.stack.state = withoutAtSign template) ∧
    ∀ template, action.switchTo = none → action.next = some (.goto template) →
      '$' ∉ template.toList → next.stack.state = withoutAtSign template := by
  obtain ⟨context, restacked⟩ := acts.restacked
  constructor
  · intro template switches plain
    cases restacked with
    | switchTo other target declared names =>
      cases switches.symm.trans other
      rw [Template.fill_of_plain plain] at target
      exact (Stack.state_of_names names).trans target
    | _ stays => cases switches.symm.trans stays
  · intro template stays goes plain
    cases restacked with
    | goto _ other target declared room names =>
      cases goes.symm.trans other
      rw [Template.fill_of_plain plain] at target
      exact (Stack.state_of_names names).trans target
    | switchTo other => cases stays.symm.trans other
    | keep _ other => cases goes.symm.trans other
    | push _ other => cases goes.symm.trans other
    | pop _ other => cases goes.symm.trans other
    | popAll _ other => cases goes.symm.trans other

/-- Work on a line in a state that is reached fails for want of rules only in a target that is left
open. -/
theorem Work.Fails.misses {registry : Option Registry} {steps : Nat} {work : Work}
    {error : TokenizeError} (fails : work.Fails registry steps error)
    (placed : work.job.Placed registry) (strict : work.job.tokenizer.grammar.Strict)
    (about : error.fault.AboutState) :
    ∃ host scan before context action rule, work.Visits registry steps host scan before ∧
      host.Meets scan before context action ∧
      action.MissesTarget host.tokenizer context rule error.fault ∧ action.LeftOpen := by
  cases fails with
  | leaving fails same =>
    subst same
    have undeclared := Tokenizer.leavingOffset?_misses about fails
    rw [placed.fits.stateExists strict] at undeclared
    cases undeclared
  | @turn host scan before later visits fails =>
    obtain ⟨same, held, settled⟩ := visits.held placed strict.settled.targets
    have strictHost : host.tokenizer.grammar.Strict := by rwa [same]
    cases HostLine.step_misses about fails with
    | state undeclared _ =>
      rw [held.fits.stateExists strictHost] at undeclared
      cases undeclared
    | @target context action rule meets misses =>
      rw [← same] at settled
      exact ⟨host, scan, before, context, action, rule, visits, meets, misses,
        misses.leftOpen (meets.settled strictHost.settled.targets settled)⟩

/-- Static targets. Where all grammars that take part have been compiled without tolerance and their
start states have names, a line that starts in a state that is reached never fails because no rules
hold in the state on top of the stack, and fails because none hold in a target only where a step
comes to a token action whose target depends on the match or is a next state that starts with an
at-sign even behind the one that may mark it. Every other target is the state on top of the stack
behind the step, and a next state of the latter kind is not. -/
theorem Reaches.misses_of_strict {registry : Option Registry} {steps depth : Nat} {job : Job}
    {history : List Done} {trace : Trace}
    (strict : ∀ other, TakesPart registry job.tokenizer other → other.grammar.Strict)
    (reaches : Reaches job.tokenizer history job.state)
    (unchanged : ∀ done ∈ history, done.registry = registry) :
    (∀ {error later},
      outcome (job.unlessLong (Job.tokenizeWithin registry steps depth)) trace =
        (.error (.fault error), later) →
      (∀ name, error.fault ≠ .undefinedState name) ∧
      (error.fault.AboutState → ∃ inner host scan before context action rule,
        Work.Involves registry steps ⟨depth, job, trace⟩ inner ∧
        inner.Visits registry steps host scan before ∧ host.Meets scan before context action ∧
        action.MissesTarget host.tokenizer context rule error.fault ∧ action.LeftOpen)) ∧
    ∀ {inner host scan before found action next later},
      Work.Involves registry steps ⟨depth, job, trace⟩ inner →
      inner.Visits registry steps host scan before → host.Acts scan before found action next later →
      (∀ template, action.switchTo = some template → '$' ∉ template.toList →
        next.stack.state = withoutAtSign template) ∧
      ∀ template, action.switchTo = none → action.next = some (.goto template) →
        '$' ∉ template.toList → (next.stack.state = template ↔ ¬ Marked template) := by
  refine ⟨fun {error later} stopped => ?_, fun _ _ acts => ?_⟩
  · obtain ⟨-, stopped⟩ := Job.unlessLong_stop_iff.1 stopped
    have stops : Work.Stops registry steps (.fault error) ⟨depth, job, trace⟩ := ⟨later, stopped⟩
    obtain ⟨inner, involves, fails⟩ := Work.exists_fails stops
    have misses := fails.misses (involves.placed (reaches.placed unchanged))
      (strict _ involves.takesPart)
    constructor
    · intro name same
      have about : error.fault.AboutState := by
        rw [same]
        trivial
      obtain ⟨_, _, _, _, _, _, -, -, missed, -⟩ := misses about
      rw [same] at missed
      cases missed
    · intro about
      obtain ⟨host, scan, before, context, action, rule, found⟩ := misses about
      exact ⟨inner, host, scan, before, context, action, rule, involves, found⟩
  · obtain ⟨switches, goes⟩ := acts.state_eq
    refine ⟨switches, fun template stays next plain => ?_⟩
    rw [goes template stays next plain]
    exact withoutAtSign_eq_iff

/-- A line of one letter. -/
def oneLetterJob (grammar : Grammar) (state : LineState) : Job where
  tokenizer := { identity := 0, grammar }
  line := ['a']
  ended := false
  state

/-- Whether the line fails with a fault as the first line of a text. -/
def failsWith (fault : Fault) (grammar : Grammar) : Bool :=
  match outcome (oneLetterJob grammar default).tokenizer.initialState {} with
  | (.ok first, later) =>
    match
      outcome ((oneLetterJob grammar first).unlessLong (Job.tokenizeWithin none 50 5)) later with
    | (.error (.fault error), _) => decide (error.fault = fault)
    | _ => false
  | _ => false

/-- What the check says of the line. -/
theorem of_failsWith {fault : Fault} {grammar : Grammar} (fails : failsWith fault grammar = true) :
    ∃ first later error last,
      outcome (oneLetterJob grammar first).tokenizer.initialState {} = (.ok first, later) ∧
      outcome ((oneLetterJob grammar first).unlessLong (Job.tokenizeWithin none 50 5)) later =
        (.error (.fault error), last) ∧ error.fault = fault := by
  unfold failsWith at fails
  split at fails
  · next first later starts =>
    split at fails
    · next error last stopped =>
      exact ⟨first, later, error, last, starts, stopped, of_decide_eq_true fails⟩
    · cases fails
  · cases fails

theorem Reaches.misses_of_strict_match :
    ∃ (grammar : Grammar) (first : LineState) (later last : Trace) (error : TokenizeError),
      Reaches (oneLetterJob grammar first).tokenizer [] (oneLetterJob grammar first).state ∧
      outcome ((oneLetterJob grammar first).unlessLong (Job.tokenizeWithin none 50 5)) later =
        (.error (.fault error), last) ∧
      ∃ inner host scan before context action rule,
        Work.Involves none 50 ⟨5, oneLetterJob grammar first, later⟩ inner ∧
        inner.Visits none 50 host scan before ∧ host.Meets scan before context action ∧
        action.MissesTarget host.tokenizer context rule error.fault ∧ action.LeftOpen := by
  obtain ⟨grammar, compiled, passes⟩ := Grammar.exists_of_compiles
    (Grammar.compileText "toy" "\x7b\"tokenizer\": \x7b\"main\":
      [[\"a\", \x7b\"token\": \"x\", \"next\": \"@$0\"\x7d]]\x7d\x7d" false)
    (fun grammar => decide (grammar.start ≠ "") &&
      failsWith (.undefinedNextState "a" "tokenizer.main: a") grammar) (by decide +kernel)
  rw [Bool.and_eq_true, decide_eq_true_eq] at passes
  obtain ⟨named, fails⟩ := passes
  obtain ⟨first, later, error, last, starts, stopped, same⟩ := of_failsWith fails
  obtain ⟨value, made⟩ := Grammar.exists_compile_of_compileText compiled
  have strict : ∀ other, TakesPart none (oneLetterJob grammar first).tokenizer other →
      other.grammar.Strict := by
    intro other takes
    rw [takes.eq_of_alone]
    exact ⟨⟨"toy", value, made⟩, named⟩
  have about : error.fault.AboutState := by
    rw [same]
    trivial
  refine ⟨grammar, first, later, last, error, .initial starts, stopped, ?_⟩
  exact ((Reaches.misses_of_strict strict (.initial starts) (List.forall_mem_nil _)).1 stopped).2
    about

/-- Whether a target of a token action refers to the match. -/
def TokenAction.refersToMatch (action : TokenAction) : Bool :=
  (match action.next with
    | some (.goto template) => template.toList.contains '$'
    | _ => false) ||
  action.switchTo.any fun template => template.toList.contains '$'

/-- Without tolerance, the start state may be the one without a name, in which no rules hold; and a
next state that is declared with an at-sign of its own may be taken for another one that is not
declared. -/
theorem Grammar.not_forall_static :
    (¬ ∀ (source : String) (grammar : Grammar) (job : Job) (steps depth : Nat)
      (trace later last : Trace) (error : TokenizeError) (name : String),
      (compileText "toy" source false).result = .ok grammar → job.tokenizer.grammar = grammar →
      outcome job.tokenizer.initialState trace = (.ok job.state, later) →
      outcome (job.unlessLong (Job.tokenizeWithin none steps depth)) later =
        (.error (.fault error), last) → error.fault ≠ .undefinedState name) ∧
    ¬ ∀ (source : String) (grammar : Grammar) (job : Job) (steps depth : Nat)
      (trace later last : Trace) (error : TokenizeError) (name rule : String),
      (compileText "toy" source false).result = .ok grammar → job.tokenizer.grammar = grammar →
      grammar.anyAction (Action.anyToken TokenAction.refersToMatch) = false →
      outcome job.tokenizer.initialState trace = (.ok job.state, later) →
      outcome (job.unlessLong (Job.tokenizeWithin none steps depth)) later =
        (.error (.fault error), last) → error.fault ≠ .undefinedNextState name rule := by
  constructor
  · intro never
    obtain ⟨grammar, compiled, fails⟩ := exists_of_compiles
      (compileText "toy" "\x7b\"tokenizer\": \x7b\"\": [[\"a\", \"x\"]]\x7d\x7d" false)
      (failsWith (.undefinedState "")) (by decide +kernel)
    obtain ⟨first, later, error, last, starts, stopped, same⟩ := of_failsWith fails
    exact never _ grammar (oneLetterJob grammar first) 50 5 {} later last error "" compiled rfl
      starts stopped same
  · intro never
    obtain ⟨grammar, compiled, passes⟩ := exists_of_compiles
      (compileText "toy" "\x7b\"tokenizer\": \x7b
        \"main\": [[\"a\", \x7b\"token\": \"x\", \"next\": \"@@foo\"\x7d]],
        \"@foo\": [[\"b\", \"y\"]]\x7d\x7d" false)
      (fun grammar => !grammar.anyAction (Action.anyToken TokenAction.refersToMatch) &&
        failsWith (.undefinedNextState "foo" "tokenizer.main: a") grammar) (by decide +kernel)
    rw [Bool.and_eq_true, Bool.not_eq_true'] at passes
    obtain ⟨static, fails⟩ := passes
    obtain ⟨first, later, error, last, starts, stopped, same⟩ := of_failsWith fails
    exact never _ grammar (oneLetterJob grammar first) 50 5 {} later last error "foo"
      "tokenizer.main: a" compiled rfl static starts stopped same

end LineLexer
