import LineLexer.Proofs.Step

/-!
**How a step is stopped.**

A step is stopped where it looks for a match, where the choices of the action are followed, where
the match is split into groups, or in one of the two parts of a token.

* `HostLine.take_error_cases`, `splitGroups_error_cases`, `transit_error_cases`,
  `conclude_error_cases`: what stops the parts of a step;
* `HostLine.StopsAt`, `HostLine.stopsAt_of_step`: the places where a step is stopped;
* `TokenAction.MissesTarget`: how a change of the stack fails for want of rules;
* `HostLine.Fails`, `HostLine.fails_of_step`: how a step fails.
-/

namespace LineLexer

open Scanning

/-- A result whose errors are put into other words is an error where it is one. -/
theorem mapError_eq_error {Result Cause Wording : Type} {change : Cause → Wording}
    {result : Except Cause Result} {wording : Wording} :
    result.mapError change = .error wording ↔
      ∃ cause, result = .error cause ∧ wording = change cause := by
  cases result <;> simp [eq_comm]

/-! ### The faults of the parts -/

namespace TokenAction

variable {action : TokenAction} {settings : Settings} {context : MatchContext} {fault : Fault}

/-- An embedded language cannot end outside of any, and none can start inside one. -/
theorem changeEmbedded_error_cases {embedded : Option Embedded}
    (fails : action.changeEmbedded settings context embedded = .error fault) :
    (action.embedding = some .leave ∧ embedded = none ∧ fault = .notEmbedded) ∨
      embedded ≠ none ∧ fault = .nestedEmbedding := by
  unfold changeEmbedded at fails
  split at fails
  · cases fails
  · next leaves =>
    split at fails
    · next outside =>
      cases fails
      exact Or.inl ⟨leaves, Option.isNone_iff_eq_none.1 outside, rfl⟩
    · cases fails
  · split at fails
    · next inside =>
      cases fails
      exact Or.inr ⟨Option.isSome_iff_ne_none.1 inside, rfl⟩
    · cases fails

/-- A matched text is only missed as a bracket. -/
theorem classify_error_cases {grammar : Grammar} {token : String} {matched : Text}
    (fails : action.classify grammar token matched = .error fault) :
    (bracketsSuffix? token).isSome ∧ grammar.findBracket? matched = none ∧
      fault = .missingBracket (String.ofList matched) := by
  unfold classify at fails
  split at fails
  · next suffix stands =>
    split at fails
    · cases fails
    · next unknown =>
      cases fails
      rw [stands]
      exact ⟨rfl, unknown, rfl⟩
  · split at fails <;> cases fails

end TokenAction

/-- The changes of a stack that fail for want of rules: the target is a state without rules. -/
inductive TokenAction.MissesTarget (tokenizer : Tokenizer) (context : MatchContext) (rule : String)
    (action : TokenAction) : Fault → Prop where
  | goto {template name : String} (stays : action.switchTo = none)
      (next : action.next = some (.goto template))
      (target : name = withoutAtSign (Template.fill tokenizer.grammar.settings template context))
      (undeclared : tokenizer.grammar.stateExists name = false) :
      MissesTarget tokenizer context rule action (.undefinedNextState name rule)
  | switchTo {template name : String} (switches : action.switchTo = some template)
      (target : name = withoutAtSign (Template.fill tokenizer.grammar.settings template context))
      (undeclared : tokenizer.grammar.stateExists name = false) :
      MissesTarget tokenizer context rule action (.undefinedSwitchState name rule)

theorem Tokenizer.target_eq_error {tokenizer : Tokenizer} {context : MatchContext}
    {template : String} {undefined : String → Fault} {fault : Fault}
    (fails : tokenizer.target context template undefined = .error fault) :
    ∃ name, name = withoutAtSign (Template.fill tokenizer.grammar.settings template context) ∧
      tokenizer.grammar.stateExists name = false ∧ fault = undefined name := by
  unfold target at fails
  dsimp only at fails
  split at fails
  · cases fails
  · next undeclared =>
    cases fails
    exact ⟨_, rfl, by simpa using undeclared, rfl⟩

theorem Tokenizer.checkDepth_eq_error {tokenizer : Tokenizer} {stack : Stack} {fault : Fault}
    (fails : tokenizer.checkDepth stack = .error fault) :
    fault = .stackOverflow (stack.names.take 2) := by
  unfold checkDepth at fails
  split at fails
  · cases fails
  · cases fails
    rfl

/-- The change of a stack fails for want of rules in a target, or where the stack is as deep as it
may be, or where only its bottom is left. -/
theorem TokenAction.stackChange_error_cases {action : TokenAction} {tokenizer : Tokenizer}
    {context : MatchContext} {rule : String} {stack : Stack} {fault : Fault}
    (fails : action.stackChange tokenizer context rule stack = .error fault) :
    action.MissesTarget tokenizer context rule fault ∨
      fault = .stackOverflow (stack.names.take 2) ∨ fault = .stackUnderflow rule := by
  unfold stackChange at fails
  split at fails
  · next switches =>
    obtain ⟨name, target, undeclared, rfl⟩ :=
      Tokenizer.target_eq_error (exceptMap_eq_error.1 fails)
    exact Or.inl (.switchTo switches target undeclared)
  · cases fails
  · exact Or.inr (Or.inl (Tokenizer.checkDepth_eq_error (exceptMap_eq_error.1 fails)))
  · split at fails
    · cases fails
      exact Or.inr (Or.inr rfl)
    · cases fails
  · cases fails
  · next template stays next =>
    rcases exceptBind_eq_error.1 fails with leads | ⟨state, -, checking⟩
    · obtain ⟨name, target, undeclared, rfl⟩ := Tokenizer.target_eq_error leads
      exact Or.inl (.goto stays next target undeclared)
    rcases exceptBind_eq_error.1 checking with deep | ⟨_, -, made⟩
    · exact Or.inr (Or.inl (Tokenizer.checkDepth_eq_error deep))
    · cases made

namespace Tokenizer

variable {tokenizer : Tokenizer} {state : String} {trace later : Trace} {stop : Stop}

/-- The rules of a state are tried without a stop but for a regular expression. -/
theorem firstMatch_error_cases {atStart : Bool} {rest : Text} {rules : List Rule}
    (stopped : outcome (tokenizer.firstMatch state atStart rest rules) trace =
      (.error stop, later)) :
    ∃ pattern detail, stop = .fault ⟨tokenizer.language, .invalidRegex pattern detail⟩ := by
  induction rules generalizing trace with
  | nil => cases stopped
  | cons rule rules step =>
    unfold firstMatch at stopped
    split at stopped
    · exact step stopped
    · rcases outcome_bind_eq_error.1 stopped with anchoring | ⟨regex, _, -, matching⟩
      · unfold anchored at anchoring
        rcases outcome_bind_eq_error.1 anchoring with remembering | ⟨result, _, -, settling⟩
        · cases remembering
        · obtain ⟨⟨fault, fails, rfl⟩, -⟩ := outcome_settle_eq_error.1 settling
          obtain ⟨rejection, -, rfl⟩ := mapError_eq_error.1 fails
          exact ⟨_, _, rfl⟩
      · split at matching
        · cases matching
        · exact step matching

/-- The search for a match fails in the state on top of the stack, at the position or in a regular
expression. -/
theorem findAt_error_cases {text : Text} {position : Nat}
    (stopped : outcome (tokenizer.findAt text position state) trace = (.error stop, later)) :
    (tokenizer.grammar.findRules? state = none ∧
        stop = .fault ⟨tokenizer.language, .undefinedState state⟩) ∨
      (text.drop? position = none ∧ stop = .cut) ∨
      ∃ pattern detail, stop = .fault ⟨tokenizer.language, .invalidRegex pattern detail⟩ := by
  unfold findAt at stopped
  split at stopped
  · next nothing =>
    obtain ⟨⟨fault, fails, rfl⟩, -⟩ := outcome_settle_eq_error.1 stopped
    cases fails
    exact Or.inl ⟨nothing, rfl⟩
  · rcases outcome_bind_eq_error.1 stopped with cutting | ⟨rest, _, -, matching⟩
    · obtain ⟨fails, same, -⟩ := outcome_cut_eq_error.1 cutting
      exact Or.inr (Or.inl ⟨fails, same⟩)
    · rcases outcome_bind_eq_error.1 matching with first | ⟨_, _, -, ends⟩
      · exact Or.inr (Or.inr (firstMatch_error_cases first))
      · cases ends

end Tokenizer

namespace HostLine

variable {host : HostLine} {scan after changed : Scan} {found : Found} {action : TokenAction}
  {context : MatchContext} {members : List Action} {entering : Option String} {token : String}
  {trace later : Trace} {stop : Stop} {fault : Fault}

/-- A pending group is taken without a stop, so a search fails. -/
theorem take_error_cases (stopped : outcome (host.take scan) trace = (.error stop, later)) :
    scan.replay = none ∧
      outcome (host.tokenizer.findAt host.text scan.position scan.stack.state) trace =
        (.error stop, later) := by
  unfold take at stopped
  split at stopped
  · split at stopped <;> cases stopped
  · next nothing => exact ⟨nothing, outcome_map_eq_error.1 stopped⟩

/-- Why a match is not split into groups. -/
theorem splitGroups_error_cases (fails : splitGroups scan found members = .error fault) :
    (scan.replay ≠ none ∧ fault = .nestedGroups found.rule) ∨
      fault = .groupCountMismatch found.rule ∨ fault = .groupGap found.rule ∨
      (scan.replay = none ∧ found.matched = [] ∧ (∃ seen, scan.emptyGroup = some seen ∧
        seen.1 = scan.position ∧ (seen.2 == scan.stack) = true) ∧
        fault = .noProgress found.rule) := by
  unfold splitGroups at fails
  dsimp only at fails
  split at fails
  · next pending =>
    cases fails
    exact Or.inl ⟨Option.isSome_iff_ne_none.1 pending, rfl⟩
  next unpended =>
  split at fails
  · cases fails
    exact Or.inr (Or.inl rfl)
  split at fails
  · cases fails
    exact Or.inr (Or.inr (Or.inl rfl))
  split at fails
  · next empty =>
    split at fails
    · next met =>
      cases fails
      obtain ⟨seen, same, meets⟩ := (Option.any_eq_true _ _).1 met
      rw [Bool.and_eq_true, beq_iff_eq] at meets
      exact Or.inr (Or.inr (Or.inr ⟨by simpa using unpended, empty, ⟨seen, same, meets⟩, rfl⟩))
    · cases fails
  · cases fails

/-- The changes that come with a token fail in the embedded language, where characters are read
again, or in the stack. -/
theorem transit_error_cases
    (stopped : outcome (host.transit after found context action) trace = (.error stop, later)) :
    (∃ fault, action.changeEmbedded host.settings context after.embedded = .error fault ∧
        stop = .fault ⟨host.tokenizer.language, fault⟩) ∨
      (host.text.rewind? after.position (action.goBack.getD 0) = none ∧ stop = .cut) ∨
      ∃ fault, action.stackChange host.tokenizer context found.rule after.stack = .error fault ∧
        stop = .fault ⟨host.tokenizer.language, fault⟩ := by
  unfold transit at stopped
  rcases outcome_bind_eq_error.1 stopped with embedding | ⟨_, _, -, moving⟩
  · exact Or.inl (outcome_settle_eq_error.1 embedding).1
  rcases outcome_bind_eq_error.1 moving with cutting | ⟨_, _, -, changing⟩
  · obtain ⟨fails, same, -⟩ := outcome_cut_eq_error.1 cutting
    exact Or.inr (Or.inl ⟨fails, same⟩)
  rcases outcome_bind_eq_error.1 changing with restacking | ⟨change, _, -, stacking⟩
  · exact Or.inr (Or.inr (outcome_settle_eq_error.1 restacking).1)
  -- the stack is changed and the message is left without a stop
  rcases outcome_bind_eq_error.1 stacking with sharing | ⟨stack, _, -, noting⟩
  · cases change <;> cases sharing
  · split at noting
    · rcases outcome_bind_eq_error.1 noting with writing | ⟨_, _, -, ends⟩
      · cases writing
      · cases ends
    · cases noting

/-- The end of a step fails where nothing was read and nothing was changed, or where the match is
no bracket. -/
theorem conclude_error_cases
    (stopped : outcome (host.conclude scan found action token changed entering) trace =
      (.error stop, later)) :
    ((token == TokenAction.rematchToken || found.matched == []) = true ∧ entering = none ∧
        host.progressed scan (behind found token changed) = false ∧
        stop = .fault ⟨host.tokenizer.language, .noProgress found.rule⟩ ∧ later = trace) ∨
      ((TokenAction.bracketsSuffix? token).isSome ∧
        host.tokenizer.grammar.findBracket? found.matched = none ∧
        stop =
          .fault ⟨host.tokenizer.language, .missingBracket (String.ofList found.matched)⟩) := by
  unfold conclude at stopped
  split at stopped
  · next silent =>
    split at stopped
    · cases stopped
    · next stuck =>
      cases stopped
      rw [Bool.or_eq_true, not_or] at stuck
      exact Or.inl ⟨silent, by simpa using stuck.1, by simpa using stuck.2, rfl, rfl⟩
  · rcases outcome_bind_eq_error.1 stopped with classifying | ⟨_, _, -, telling⟩
    · obtain ⟨⟨fault, fails, rfl⟩, -⟩ := outcome_settle_eq_error.1 classifying
      obtain ⟨stands, unknown, rfl⟩ := TokenAction.classify_error_cases fails
      exact Or.inr ⟨stands, unknown, rfl⟩
    · rcases outcome_bind_eq_error.1 telling with tells | ⟨_, _, -, ends⟩
      · cases (tellToken_adds tells).1
      · cases ends

/-! ### Steps -/

/-- The places where a step is stopped. -/
inductive StopsAt (host : HostLine) (scan : Scan) (trace : Trace) (stop : Stop) (later : Trace) :
    Prop where
  | takes (stopped : outcome (host.take scan) trace = (.error stop, later))
  | resolves {after : Scan} {found : Found} {fault : GuardFault}
      (takes : outcome (host.take scan) trace = (.ok (some (after, found)), later))
      (fails : found.action.resolve host.settings (host.context scan after found) = .error fault)
      (same : stop = .fault ⟨host.tokenizer.language, fault.toFault⟩)
  | splits {after : Scan} {found : Found} {members : List Action} {fault : Fault}
      (takes : outcome (host.take scan) trace = (.ok (some (after, found)), later))
      (leads : found.action.resolve host.settings (host.context scan after found) =
        .ok (.group members))
      (fails : splitGroups scan found members = .error fault)
      (same : stop = .fault ⟨host.tokenizer.language, fault⟩)
  | transits {after : Scan} {found : Found} {action : TokenAction} {taken : Trace}
      (takes : outcome (host.take scan) trace = (.ok (some (after, found)), taken))
      (leads : found.action.resolve host.settings (host.context scan after found) =
        .ok (.token action))
      (stopped : outcome
        (host.transit { after with position := after.position + found.matched.size } found
          (host.context scan after found) action) taken = (.error stop, later))
  | concludes {after changed : Scan} {found : Found} {action : TokenAction}
      {entering : Option String} {taken noted : Trace}
      (takes : outcome (host.take scan) trace = (.ok (some (after, found)), taken))
      (leads : found.action.resolve host.settings (host.context scan after found) =
        .ok (.token action))
      (transits : outcome
        (host.transit { after with position := after.position + found.matched.size } found
          (host.context scan after found) action) taken = (.ok (changed, entering), noted))
      (stopped : outcome
        (host.conclude scan found action
          (action.text host.settings (host.context scan after found)) changed entering) noted =
        (.error stop, later))

/-- A step is stopped at one of its places. -/
theorem stopsAt_of_step (stopped : outcome (host.step scan) trace = (.error stop, later)) :
    host.StopsAt scan trace stop later := by
  rw [step_eq] at stopped
  rcases outcome_bind_eq_error.1 stopped with taking | ⟨taken, middle, takes, applying⟩
  · exact .takes taking
  cases taken with
  | none => cases applying
  | some pair =>
    obtain ⟨after, found⟩ := pair
    rcases outcome_bind_eq_error.1 applying with resolving | ⟨resolved, _, resolving, acting⟩
    · obtain ⟨⟨fault, fails, same⟩, rfl⟩ := outcome_settle_eq_error.1 resolving
      obtain ⟨cause, resolves, rfl⟩ := mapError_eq_error.1 fails
      exact .resolves takes resolves same
    · obtain ⟨resolves, rfl⟩ := outcome_settle_eq_ok.1 resolving
      have leads : found.action.resolve host.settings (host.context scan after found) =
          .ok resolved := mapError_eq_ok.1 resolves
      cases resolved with
      | group members =>
        obtain ⟨⟨fault, fails, same⟩, rfl⟩ :=
          outcome_settle_eq_error.1 (outcome_map_eq_error.1 acting)
        exact .splits takes leads fails same
      | token action =>
        dsimp only at acting
        rw [applyToken_eq] at acting
        rcases outcome_bind_eq_error.1 acting with
          transiting | ⟨⟨changed, entering⟩, noted, transits, concluding⟩
        · exact .transits takes leads transiting
        · exact .concludes takes leads transits concluding

/-- A step comes to a token action for a match. -/
def Meets (host : HostLine) (scan : Scan) (trace : Trace) (context : MatchContext)
    (action : TokenAction) : Prop :=
  ∃ after found taken, outcome (host.take scan) trace = (.ok (some (after, found)), taken) ∧
    context = host.context scan after found ∧
    found.action.resolve host.settings context = .ok (.token action)

/-- How a step fails: where it looks for a match, in the groups of the match, in the embedded
language, in the stack, because nothing was read and nothing was changed, or in a bracket. -/
inductive Fails (host : HostLine) (scan : Scan) (trace later : Trace) : Fault → Prop where
  | state (nothing : host.tokenizer.grammar.findRules? scan.stack.state = none) :
      Fails host scan trace later (.undefinedState scan.stack.state)
  | regex {pattern : String} {detail : Option String} :
      Fails host scan trace later (.invalidRegex pattern detail)
  | nested {rule : String} : Fails host scan trace later (.nestedGroups rule)
  | count {rule : String} : Fails host scan trace later (.groupCountMismatch rule)
  | gap {rule : String} : Fails host scan trace later (.groupGap rule)
  /-- An empty match is split into groups where one has been split last. -/
  | again {after : Scan} {found : Found} {members : List Action}
      (takes : outcome (host.take scan) trace = (.ok (some (after, found)), later))
      (leads : found.action.resolve host.settings (host.context scan after found) =
        .ok (.group members))
      (stays : splitGroups scan found members = .error (.noProgress found.rule))
      (unpended : scan.replay = none) (empty : found.matched = [])
      (met : ∃ seen, scan.emptyGroup = some seen ∧ seen.1 = scan.position ∧
        (seen.2 == scan.stack) = true) :
      Fails host scan trace later (.noProgress found.rule)
  | outside : Fails host scan trace later .notEmbedded
  | inside : Fails host scan trace later .nestedEmbedding
  | target {context : MatchContext} {action : TokenAction} {rule : String} {fault : Fault}
      (meets : host.Meets scan trace context action)
      (misses : action.MissesTarget host.tokenizer context rule fault) :
      Fails host scan trace later fault
  | deep {top : List String} : Fails host scan trace later (.stackOverflow top)
  | bottom {rule : String} : Fails host scan trace later (.stackUnderflow rule)
  /-- Nothing has been read, or it is to be read again, and nothing has been changed. -/
  | stuck {after changed : Scan} {found : Found} {action : TokenAction} {token : String}
      {taken : Trace} (takes : outcome (host.take scan) trace = (.ok (some (after, found)), taken))
      (leads : found.action.resolve host.settings (host.context scan after found) =
        .ok (.token action))
      (fills : token = action.text host.settings (host.context scan after found))
      (transits : outcome
        (host.transit { after with position := after.position + found.matched.size } found
          (host.context scan after found) action) taken = (.ok (changed, none), later))
      (silent : (token == TokenAction.rematchToken || found.matched == []) = true)
      (same : host.progressed scan (behind found token changed) = false) :
      Fails host scan trace later (.noProgress found.rule)
  | bracket {context : MatchContext} {action : TokenAction}
      (meets : host.Meets scan trace context action)
      (stands : (TokenAction.bracketsSuffix? (action.text host.settings context)).isSome)
      (unknown : host.tokenizer.grammar.findBracket? context.matched = none) :
      Fails host scan trace later (.missingBracket (String.ofList context.matched))

/-- A step fails in one of these ways, with a fault of its own grammar. -/
theorem fails_of_step {error : TokenizeError}
    (stopped : outcome (host.step scan) trace = (.error (.fault error), later)) :
    host.Fails scan trace later error.fault ∧ error.language = host.tokenizer.language := by
  cases stopsAt_of_step stopped with
  | takes stopped =>
    rcases Tokenizer.findAt_error_cases (take_error_cases stopped).2 with
      ⟨nothing, same⟩ | ⟨-, same⟩ | ⟨_, _, same⟩
    · cases same
      exact ⟨.state nothing, rfl⟩
    · cases same
    · cases same
      exact ⟨.regex, rfl⟩
  | resolves takes fails same =>
    cases same
    exact ⟨.regex, rfl⟩
  | splits takes leads fails same =>
    cases same
    rcases splitGroups_error_cases fails with
      ⟨-, rfl⟩ | rfl | rfl | ⟨unpended, empty, met, rfl⟩
    · exact ⟨.nested, rfl⟩
    · exact ⟨.count, rfl⟩
    · exact ⟨.gap, rfl⟩
    · exact ⟨.again takes leads fails unpended empty met, rfl⟩
  | @transits after found action taken takes leads stopped =>
    rcases transit_error_cases stopped with ⟨_, fails, same⟩ | ⟨-, same⟩ | ⟨_, fails, same⟩
    · cases same
      rcases TokenAction.changeEmbedded_error_cases fails with ⟨-, -, rfl⟩ | ⟨-, rfl⟩
      · exact ⟨.outside, rfl⟩
      · exact ⟨.inside, rfl⟩
    · cases same
    · cases same
      rcases TokenAction.stackChange_error_cases fails with misses | rfl | rfl
      · exact ⟨.target ⟨after, found, taken, takes, rfl, leads⟩ misses, rfl⟩
      · exact ⟨.deep, rfl⟩
      · exact ⟨.bottom, rfl⟩
  | @concludes after changed found action entering taken noted takes leads transits stopped =>
    rcases conclude_error_cases stopped with
      ⟨silent, rfl, unchanged, same, rfl⟩ | ⟨stands, unknown, same⟩
    · cases same
      exact ⟨.stuck takes leads rfl transits silent unchanged, rfl⟩
    · cases same
      exact ⟨.bracket ⟨after, found, taken, takes, rfl, leads⟩ stands unknown, rfl⟩

end HostLine

end LineLexer
