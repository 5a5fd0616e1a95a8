import LineLexer.Proofs.CoupledLines
import LineLexer.Proofs.LetterCase
import LineLexer.Proofs.Wrapping

/-!
**Grammars that ignore case.**

Where all grammars ignore case, what is filled in from a match is folded, and so are the texts that
are compared. Two lines that differ only in case then come to the same, if the regular expressions
ignore case that the rules and the guards look for. A guard's regular expression may be made from
the match, and from a match that switches case on again comes one that does not.

* `Action.tested`, `Guard.regex?`: the guards that are tested for a match, and what they look for;
* `Tokenizer.IgnoresCase`, `Work.TestsIgnoreCase`: the regular expressions of rules, and those of
  the guards that are tested in the work on a line;
* `Coupling.caseBlind`, `resolve_eq`: the same is chosen for matches that differ only in case;
* `Workspace.perform_ignoring_case`: lines that differ only in case come to the same;
* `Workspace.not_forall_ignoring_case`: a line may bring a guard to tell cases apart.
-/

namespace LineLexer

open Scanning

/-! ### Guards that are tested -/

/-- The regular expression that a guard looks for in a match, if it looks for one. -/
def Guard.regex? (settings : Settings) (context : MatchContext) : Guard → Option Regex
  | .test _ (.regex regex) _ => some regex
  | .test _ (.filledRegex template) _ => (filledRegex settings template context).toOption
  | _ => none

namespace Action

mutual

/-- The guards that are tested where the choices of an action are followed for a match. -/
def tested (settings : Settings) (context : MatchContext) : Action → List Guard
  | .token _ => []
  | .group _ => []
  | .cases branches _ => testedOf settings context branches

/-- The guards of branches that are tested, up to the first one that holds, and those behind it. -/
def testedOf (settings : Settings) (context : MatchContext) : List (Branch Action) → List Guard
  | [] => []
  | ⟨_, guard, target⟩ :: rest =>
    guard ::
      match guard.holds settings context with
      | .error _ => []
      | .ok true => target.tested settings context
      | .ok false => testedOf settings context rest

end

end Action

/-- A step comes to a match for which a guard is tested that looks for a regular expression. -/
inductive HostLine.LooksFor (host : HostLine) (scan : Scan) (trace : Trace) (regex : Regex) :
    Prop where
  | tests {after : Scan} {found : Found} {guard : Guard}
      (takes : host.TakesMatch scan trace after found)
      (tested : guard ∈ found.action.tested host.settings (host.context scan after found))
      (looks : guard.regex? host.settings (host.context scan after found) = some regex) :
      LooksFor host scan trace regex

/-- All regular expressions ignore case that are looked for by the guards that are tested in the
work on a line and on its parts. -/
def Work.TestsIgnoreCase (registry : Option Registry) (steps : Nat) (work : Work) : Prop :=
  ∀ ⦃inner : Work⦄, work.Involves registry steps inner → ∀ ⦃host scan trace⦄,
    inner.Visits registry steps host scan trace → ∀ ⦃regex⦄,
      host.LooksFor scan trace regex → regex.IgnoresCase

/-- A tokenizer's grammar ignores case, and so do the regular expressions of its rules: those for
the places where a scan stands, and those by which the ends of embedded languages are found. -/
structure Tokenizer.IgnoresCase (tokenizer : Tokenizer) : Prop where
  folds : tokenizer.grammar.settings.ignoreCase = true
  patterns : ∀ {state rules rule regex}, tokenizer.grammar.findRules? state = some rules →
    rule ∈ rules → tokenizer.IsFresh state rule regex → regex.IgnoresCase
  exits : ∀ {state rules rule regex}, tokenizer.grammar.findRules? state = some rules →
    rule ∈ rules → rule.leavesEmbedded = true →
    rule.pattern.search tokenizer.grammar.settings state = .ok regex → regex.IgnoresCase

/-! ### What may differ -/

/-- Two stops are the same, or the same bracket is missing in two forms. -/
inductive Stop.SameKind : Stop → Stop → Prop where
  | same (stop : Stop) : SameKind stop stop
  | missingBracket (language : String) {text other : Text} (same : text.SameButCase other) :
      SameKind (.fault ⟨language, .missingBracket (String.ofList text)⟩)
        (.fault ⟨language, .missingBracket (String.ofList other)⟩)

/-- Two results are stops of the same kind or equal line states. -/
inductive ResultsOfKind : Except Stop LineState → Except Stop LineState → Prop where
  | ok {state other : LineState} (same : (state == other) = true) :
      ResultsOfKind (.ok state) (.ok other)
  | error {stop other : Stop} (same : stop.SameKind other) :
      ResultsOfKind (.error stop) (.error other)

/-- Two reports tell the same events and notes, and come to stops of the same kind or to equal
states. -/
structure Report.OfKind (report other : Report) : Prop where
  events : report.events = other.events
  notes : report.notes = other.notes
  result : ResultsOfKind report.result other.result

namespace Coupling

/-- The coupling in which texts may differ in case. -/
def caseBlind (base otherBase : Trace) : Coupling where
  base := base
  otherBase := otherBase
  same := SameLetter
  same_refl := SameLetter.refl
  size_eq := SameLetter.utf8Size_eq
  stops := Stop.SameKind
  stops_refl := .same
  stops_missing := fun language {_ _} same => .missingBracket language same
  kin := Eq

variable {base otherBase : Trace} {tokenizer twin : Tokenizer}
  {context contextOther : MatchContext} {tokenizers : Set Tokenizer} {registry : Option Registry}
  {steps : Nat} {work : Work}

/-- A grammar that ignores case folds texts that differ only in case to one text. -/
theorem tokenizers_caseBlind (folds : tokenizer.grammar.settings.ignoreCase = true) :
    (caseBlind base otherBase).Tokenizers tokenizer tokenizer := by
  refine ⟨rfl, ⟨_, _, rfl⟩, fun _ => rfl, fun texts => ?_⟩
  unfold Settings.foldText
  rw [if_pos folds, if_pos folds]
  exact Text.lower_eq texts

/-! ### Choices -/

/-- What a guard looks at may differ in case. -/
theorem texts_select (contexts : (caseBlind base otherBase).Contexts context contextOther)
    (subject : Subject) :
    (caseBlind base otherBase).Texts (subject.select context) (subject.select contextOther) := by
  cases subject with
  | matched => exact contexts.matched
  | capture index => exact texts_getD contexts.captures index
  | component index =>
    unfold Subject.select
    rw [contexts.state]
    exact texts_refl _

/-- A template becomes the same regular expression. -/
theorem filledRegex_eq (twins : (caseBlind base otherBase).Tokenizers tokenizer twin)
    (contexts : (caseBlind base otherBase).Contexts context contextOther) (template : String) :
    Guard.filledRegex tokenizer.grammar.settings template context =
      Guard.filledRegex tokenizer.grammar.settings template contextOther := by
  unfold Guard.filledRegex
  rw [twins.fill_eq contexts]

/-- A guard holds of both matches or of none, if what it looks for ignores case. -/
theorem holds_eq (twins : (caseBlind base otherBase).Tokenizers tokenizer twin)
    (contexts : (caseBlind base otherBase).Contexts context contextOther) {guard : Guard}
    (ignores : ∀ regex, guard.regex? tokenizer.grammar.settings context = some regex →
      regex.IgnoresCase) :
    guard.holds tokenizer.grammar.settings context =
      guard.holds tokenizer.grammar.settings contextOther := by
  cases guard with
  | always => rfl
  | lineEnd => exact congrArg Except.ok contexts.atLineEnd
  | test subject asked negated =>
    have texts := texts_select contexts subject
    refine congrArg (Except.map (· != negated)) ?_
    cases asked with
    | words words =>
      unfold Guard.succeeds
      dsimp only
      rw [twins.fold_eq texts]
    | regex regex =>
      exact congrArg Except.ok ((ignores regex rfl).isMatch_eq texts)
    | filledRegex template =>
      unfold Guard.succeeds
      dsimp only
      rw [← filledRegex_eq twins contexts]
      cases made : Guard.filledRegex tokenizer.grammar.settings template context with
      | error fault => rfl
      | ok regex =>
        have looks : (Guard.test subject (.filledRegex template) negated).regex?
            tokenizer.grammar.settings context = some regex := by
          unfold Guard.regex?
          dsimp only
          rw [made]
          rfl
        exact congrArg Except.ok ((ignores regex looks).isMatch_eq texts)
    | equals text =>
      unfold Guard.succeeds
      dsimp only
      rw [twins.fold_eq texts]
    | filledEquals template =>
      unfold Guard.succeeds
      dsimp only
      rw [twins.fold_eq texts, twins.fill_eq contexts]

mutual

/-- The same is chosen for both matches, if all that is looked for ignores case. -/
theorem resolve_eq (twins : (caseBlind base otherBase).Tokenizers tokenizer twin)
    (contexts : (caseBlind base otherBase).Contexts context contextOther) :
    ∀ (action : Action),
      (∀ guard ∈ action.tested tokenizer.grammar.settings context, ∀ regex,
        guard.regex? tokenizer.grammar.settings context = some regex → regex.IgnoresCase) →
      action.resolve tokenizer.grammar.settings context =
        action.resolve tokenizer.grammar.settings contextOther
  | .token _, _ => rfl
  | .group _, _ => rfl
  | .cases branches fallback, ignores =>
    resolveBranches_eq twins contexts branches fallback ignores

theorem resolveBranches_eq (twins : (caseBlind base otherBase).Tokenizers tokenizer twin)
    (contexts : (caseBlind base otherBase).Contexts context contextOther) :
    ∀ (branches : List (Branch Action)) (fallback : String),
      (∀ guard ∈ Action.testedOf tokenizer.grammar.settings context branches, ∀ regex,
        guard.regex? tokenizer.grammar.settings context = some regex → regex.IgnoresCase) →
      Action.resolveBranches tokenizer.grammar.settings context fallback branches =
        Action.resolveBranches tokenizer.grammar.settings contextOther fallback branches
  | [], _, _ => rfl
  | ⟨_, guard, target⟩ :: rest, fallback, ignores => by
    rw [Action.testedOf, List.forall_mem_cons] at ignores
    obtain ⟨own, behind⟩ := ignores
    rw [Action.resolveBranches, Action.resolveBranches, ← holds_eq twins contexts own]
    revert behind
    cases guard.holds tokenizer.grammar.settings context with
    | error fault => exact fun _ => rfl
    | ok holds =>
      cases holds with
      | true => exact resolve_eq twins contexts target
      | false => exact resolveBranches_eq twins contexts rest fallback

end

/-! ### Lines -/

/-- An embedded language ends at the same place in lines that differ only in case. -/
theorem leavingOffset?_eq (ignores : tokenizer.IgnoresCase) (state : String)
    {line lineOther : Text} (same : line.SameButCase lineOther) :
    tokenizer.leavingOffset? state line = tokenizer.leavingOffset? state lineOther := by
  have texts : (caseBlind {} {}).Texts line lineOther := same
  have exits : ∀ {rules}, tokenizer.grammar.findRules? state = some rules → ∀ leaving : List Rule,
      (∀ rule ∈ leaving, rule ∈ rules ∧ rule.leavesEmbedded = true) →
      tokenizer.exits state line leaving = tokenizer.exits state lineOther leaving := by
    intro rules holding leaving inside
    induction leaving with
    | nil => rfl
    | cons rule leaving step =>
      rw [List.forall_mem_cons] at inside
      obtain ⟨⟨listed, leaves⟩, later⟩ := inside
      have first : tokenizer.exit? state line rule = tokenizer.exit? state lineOther rule := by
        unfold Tokenizer.exit?
        split
        · rfl
        · next regex made =>
          rw [← (ignores.exits holding listed leaves made) same]
          split
          · rfl
          · next place found => rw [(texts.take place.start).size_eq]
      rw [Tokenizer.exits, Tokenizer.exits, first, step later]
  unfold Tokenizer.leavingOffset?
  split
  · rfl
  · next rules holding =>
    split
    · rfl
    · next leaving some listed =>
      rw [exits holding _ fun rule inside => List.mem_filter.1 inside]

/-- What the tokenizers that take part have in common with themselves. -/
theorem participants_caseBlind
    (ignores : ∀ other, TakesPart registry tokenizer other → other.IgnoresCase) :
    (caseBlind base otherBase).Participants registry registry tokenizer := by
  refine ⟨fun _ twins name => ?_, fun {host twin} takes twins language => ?_,
    fun {host twin} takes twins state _ _ texts => ?_⟩
  · rw [twins.kin]
  · rw [← twins.kin]
    cases found : (host.languages? registry).bind (·.tokenizer? language) with
    | none => exact .none
    | some guest => exact .some (tokenizers_caseBlind (ignores guest (.guest takes found)).folds)
  · rw [← twins.kin]
    exact leavingOffset?_eq (ignores host takes) state texts

/-- All steps are fair where the regular expressions of rules and guards ignore case. -/
theorem fairWithin_caseBlind (injective : tokenizers.InjOn Tokenizer.identity)
    (known : Known tokenizers registry work.job.tokenizer)
    (sound : work.trace.memories.Sound tokenizers)
    (ignores : ∀ other, TakesPart registry work.job.tokenizer other → other.IgnoresCase)
    (tests : work.TestsIgnoreCase registry steps) :
    (caseBlind base otherBase).FairWithin registry steps work := by
  intro inner involves host scan later visits hostOther scanOther laterOther hosts scans beside
  obtain ⟨member, remembered⟩ := visits.sound injective (involves.known known)
    (involves.sound injective known sound)
  have takes : TakesPart registry work.job.tokenizer host.tokenizer := by
    cases visits with
    | turn scans =>
      show TakesPart registry work.job.tokenizer (Job.tokenizer _)
      rw [scans.tokenizer]
      exact involves.takesPart
  have same : host.tokenizer = hostOther.tokenizer := hosts.tokenizers.kin
  have position : scan.position = scanOther.position := scans.position.trans (Nat.zero_add _)
  refine ⟨fun _ => ?_, fun meets behind founds => ?_, fun _ => Or.inl rfl,
    fun _ _ _ _ unseen => scans.unseen rfl unseen⟩
  · rw [scans.stack, position]
    refine ends_findAt (fun trace => trace.memories.Sound tokenizers) hosts.tokenizers
      (by rw [same]) ((hosts.text rfl).drop? _) (fun _ _ _ _ => rfl) ?_ remembered beside
    intro rules rule regex trace later holding listed sound anchors
    obtain ⟨fresh, kept⟩ := Tokenizer.fresh_of_anchored injective member sound anchors
    exact ⟨kept, fun texts => (ignores _ takes).patterns holding listed fresh texts⟩
  · refine resolve_eq hosts.tokenizers (contexts_of_scans hosts scans behind founds) _ ?_
    exact fun guard tested regex looks => tests involves visits (.tests meets tested looks)

end Coupling

/-- Stops of the same kind, or equal states, are followed by what is equal to them. -/
theorem ResultsOfKind.trans {left middle right : Except Stop LineState}
    (kind : ResultsOfKind left middle) (same : SameResult middle right) :
    ResultsOfKind left right := by
  cases same with
  | ok equal =>
    cases kind with
    | ok first =>
      rw [LineState.beq_iff] at first equal
      exact .ok (LineState.beq_iff.2 (first.trans equal))
  | error stop =>
    cases kind with
    | error kind => exact .error kind

/-- Behind the same the same is left, and the results are of one kind. -/
theorem Coupling.Ends.ofKind {base : Trace} {left right : Except Stop LineState × Trace}
    (ends : (caseBlind base base).Ends Eq left right) :
    ResultsOfKind left.1 right.1 ∧ left.2 = right.2 := by
  cases ends with
  | @result state _ _ _ same beside =>
    subst same
    exact ⟨.ok (LineState.beq_iff.2 rfl), beside.eq_of_bases rfl⟩
  | stop kind beside => exact ⟨.error kind, beside.eq_of_bases rfl⟩

/-- From the same memories lines that differ only in case come to the same. -/
theorem Job.within_caseBlind (limit : Nat → Nat) (job : Job) {tokenizers : Set Tokenizer}
    {registry : Option Registry} {depth : Nat} {lineOther : Text} {trace : Trace}
    (injective : tokenizers.InjOn Tokenizer.identity)
    (known : Known tokenizers registry job.tokenizer)
    (sound : trace.memories.Sound tokenizers)
    (ignores : ∀ other, TakesPart registry job.tokenizer other → other.IgnoresCase)
    (alike : job.line.SameButCase lineOther)
    (tests : Work.TestsIgnoreCase registry (limit job.line.size) ⟨depth, job, trace⟩) :
    (Coupling.caseBlind trace trace).Ends Eq
      (outcome (within (fun text => limit text.size) depth registry job) trace)
      (outcome (within (fun text => limit text.size) depth registry { job with line := lineOther })
        trace) := by
  have jobs : (Coupling.caseBlind trace trace).Jobs job { job with line := lineOther } :=
    ⟨Coupling.tokenizers_caseBlind (ignores job.tokenizer .self).folds, alike, rfl, rfl, rfl⟩
  unfold within
  dsimp only
  rw [← jobs.line.size_eq]
  exact Coupling.ends_unlessLong jobs (.refl rfl) fun _ =>
    Coupling.ends_tokenizeWithin rfl jobs (Coupling.participants_caseBlind ignores) (.refl rfl)
      (Coupling.fairWithin_caseBlind injective known sound ignores tests)

/-! ### Grammars and lines that can be checked -/

/-- Whether the regular expressions of a rule fold case, where they are the same in all states. -/
def Rule.foldsCase (rule : Rule) : Bool :=
  match rule.pattern.form with
  | .fixed anchored (some search) => anchored.program.foldsCase && search.program.foldsCase
  | .fixed anchored none => anchored.program.foldsCase && !rule.leavesEmbedded
  | .perState => false

/-- A grammar ignores case if it says so and the regular expressions of its rules fold case. -/
theorem Tokenizer.ignoresCase_of_foldsCase {tokenizer : Tokenizer}
    (folds : tokenizer.grammar.settings.ignoreCase = true)
    (rules : (tokenizer.grammar.states.all fun state => state.2.all Rule.foldsCase) = true) :
    tokenizer.IgnoresCase := by
  have listed : ∀ {state others rule}, tokenizer.grammar.findRules? state = some others →
      rule ∈ others → rule.foldsCase = true := by
    intro state others rule holding inside
    obtain ⟨name, declared⟩ := Grammar.mem_states holding
    exact List.all_eq_true.1 (List.all_eq_true.1 rules _ declared) rule inside
  refine ⟨folds, fun {state _ rule regex} holding inside fresh => ?_,
    fun {state _ rule regex} holding inside leaves made => ?_⟩
  · have passes := listed holding inside
    unfold Rule.foldsCase at passes
    unfold IsFresh Pattern.fresh Pattern.anchored at fresh
    split at passes
    · next anchored search form =>
      rw [Bool.and_eq_true] at passes
      rw [form] at fresh
      cases fresh
      exact Regex.ignoresCase_of_foldsCase passes.1
    · next anchored form =>
      rw [Bool.and_eq_true] at passes
      rw [form] at fresh
      cases fresh
      exact Regex.ignoresCase_of_foldsCase passes.1
    · cases passes
  · have passes := listed holding inside
    unfold Rule.foldsCase at passes
    unfold Pattern.search at made
    split at passes
    · next anchored search form =>
      rw [Bool.and_eq_true] at passes
      rw [form] at made
      cases made
      exact Regex.ignoresCase_of_foldsCase passes.2
    · rw [leaves, Bool.not_true, Bool.and_false] at passes
      cases passes
    · cases passes

/-- Whether what is looked for by the guards that are tested in a step folds case. -/
def HostLine.testsFoldCase (host : HostLine) (scan : Scan) (trace : Trace) : Bool :=
  match (outcome (host.take scan) trace).1 with
  | .ok (some (after, found)) =>
    (found.action.tested host.settings (host.context scan after found)).all fun guard =>
      (guard.regex? host.settings (host.context scan after found)).all fun regex =>
        regex.program.foldsCase
  | _ => true

/-- What is looked for in a line that is one scan ignores case if it folds case in all steps. -/
theorem Work.testsIgnoreCase_of_allTurns {registry : Option Registry} {steps depth : Nat}
    {job : Job} {trace : Trace} (outside : job.state.embedded? = none)
    (passes : job.allTurns steps trace job.host.testsFoldCase = true) :
    TestsIgnoreCase registry steps ⟨depth, job, trace⟩ := by
  intro inner involves host scan later visits regex looks
  obtain ⟨rfl, passed⟩ := check_of_allTurns outside passes involves visits
  cases looks with
  | @tests after found guard takes tested looks =>
    obtain ⟨last, takes⟩ := takes
    unfold HostLine.testsFoldCase at passed
    rw [takes] at passed
    have folds := List.all_eq_true.1 passed guard tested
    rw [looks, Option.all_some] at folds
    exact Regex.ignoresCase_of_foldsCase folds

/-! ### Lines that differ only in case -/

/-- Where case makes no difference. All grammars that take part ignore case, and so do the regular
expressions of their rules. Lines that differ only in case then make the same events and notes, and
they fail with stops of the same kind or end in equal states, if the regular expressions ignore case
that are looked for by the guards that are tested in the work on the first line. -/
theorem Workspace.perform_ignoring_case (limit : Nat → Nat) {tokenizers : Set Tokenizer}
    (injective : tokenizers.InjOn Tokenizer.identity) {calls others : List Call}
    (known : ∀ call ∈ calls ++ others, Known tokenizers call.registry call.tokenizer)
    {workspace other : Workspace} (remembers : workspace.memories = .after calls)
    (remembersOther : other.memories = .after others)
    (registry : workspace.registry = other.registry) {tokenizer : Tokenizer}
    (takesPart : Known tokenizers workspace.registry tokenizer)
    (ignores : ∀ guest, TakesPart workspace.registry tokenizer guest → guest.IgnoresCase)
    {state stateOther : LineState} (same : (state == stateOther) = true) {line lineOther : Text}
    (alike : line.SameButCase lineOther) {ended : Bool} {shift depth : Nat}
    (tests : Work.TestsIgnoreCase workspace.registry (limit line.size)
      ⟨depth, { tokenizer, line, ended, state, shift }, { memories := workspace.memories }⟩) :
    Report.OfKind
      (workspace.perform (Job.within (fun text => limit text.size) depth workspace.registry
        { tokenizer, line, ended, state, shift })).1
      (other.perform (Job.within (fun text => limit text.size) depth other.registry
        { tokenizer, line := lineOther, ended, state := stateOther, shift })).1 := by
  have sound : workspace.memories.Sound tokenizers := by
    rw [remembers]
    exact sound_after injective fun call inside => known call (List.mem_append_left _ inside)
  have soundOther : other.memories.Sound tokenizers := by
    rw [remembersOther]
    exact sound_after injective fun call inside => known call (List.mem_append_right _ inside)
  obtain ⟨kind, left⟩ := (Job.within_caseBlind limit { tokenizer, line, ended, state, shift }
    injective takesPart sound ignores alike tests).ofKind
  have jobs : Job.Alike { tokenizer, line := lineOther, ended, state, shift }
      { tokenizer, line := lineOther, ended, state := stateOther, shift } :=
    ⟨rfl, rfl, rfl, rfl, LineState.beq_iff.1 same⟩
  obtain ⟨results, behind⟩ := (Job.agree_within injective jobs takesPart
    { memories := workspace.memories } { memories := other.memories }
    ⟨sound, soundOther, fun _ => rfl, fun _ => rfl⟩).sameResult
  rw [← registry]
  refine ⟨?_, ?_, kind.trans results⟩
  · exact (congrArg Trace.events left).trans (behind.events trivial)
  · exact (congrArg Trace.notes left).trans (behind.notes trivial)

/-- A language with one rule of two groups, and one choice for it. -/
def choiceSource (pattern key token : String) : String :=
  "\x7b\"ignoreCase\": true, \"tokenizer\": \x7b\"main\": [[\"" ++ pattern ++
    "\", \x7b\"cases\": \x7b\"" ++ key ++ "\": \"" ++ token ++ "\"\x7d\x7d]]\x7d\x7d"

/-- A line of that language, for a tokenizer of it. -/
def choiceJob (grammar : Grammar) (line : Text) : Job where
  tokenizer := { identity := 0, grammar }
  line := line
  ended := false
  state := rootState ⟨0, 0⟩

/-- The second letter is matched with the first one, and both may differ in case. -/
theorem Workspace.perform_ignoring_case_letters :
    ∃ grammar : Grammar,
      (Grammar.compileText "toy" (choiceSource "(b)(b)" "$2~$1" "pair.$1") false).result =
        .ok grammar ∧
      (({ registry := none } : Workspace).perform
        (Job.within (fun _ => 2) 1 none (choiceJob grammar ['b', 'B']))).1.events =
          #[.language "toy", .token 0 "pair.b.toy" none] ∧
      Report.OfKind
        (({ registry := none } : Workspace).perform
          (Job.within (fun _ => 2) 1 none (choiceJob grammar ['b', 'B']))).1
        (({ registry := none } : Workspace).perform
          (Job.within (fun _ => 2) 1 none (choiceJob grammar ['B', 'b']))).1 := by
  obtain ⟨grammar, made, passes⟩ := Grammar.exists_of_compiles
    (Grammar.compileText "toy" (choiceSource "(b)(b)" "$2~$1" "pair.$1") false)
    (fun grammar => grammar.settings.ignoreCase &&
      ((grammar.states.all fun state => state.2.all Rule.foldsCase) &&
        ((({ registry := none } : Workspace).perform
            (Job.within (fun _ => 2) 1 none (choiceJob grammar ['b', 'B']))).1.events ==
              #[.language "toy", .token 0 "pair.b.toy" none] &&
          (choiceJob grammar ['b', 'B']).allTurns 2 {}
            (choiceJob grammar ['b', 'B']).host.testsFoldCase)))
    (by decide +kernel)
  simp only [Bool.and_eq_true, beq_iff_eq] at passes
  obtain ⟨folds, rules, events, throughout⟩ := passes
  have fresh : ({ registry := none } : Workspace).memories = .after [] := rfl
  have ignores : ∀ guest, TakesPart none (choiceJob grammar []).tokenizer guest →
      guest.IgnoresCase := by
    intro guest takes
    rw [takes.eq_of_alone]
    exact Tokenizer.ignoresCase_of_foldsCase folds rules
  refine ⟨grammar, made, events, ?_⟩
  have tests : Work.TestsIgnoreCase none 2 ⟨1, choiceJob grammar ['b', 'B'], {}⟩ :=
    Work.testsIgnoreCase_of_allTurns rfl throughout
  have alike : Text.SameButCase ['b', 'B'] ['B', 'b'] := by decide
  exact Workspace.perform_ignoring_case (fun _ => 2) (Set.injOn_singleton _ _)
    (List.forall_mem_nil _) fresh fresh rfl known_of_alone ignores (by decide) alike tests

/-- What the first group of the line's rule has to match, and what it asks of the second one. -/
def switchedSource : String := choiceSource "(\\\\(\\\\?-i\\\\)a)(a)" "$2~$1" "pair"

/-- A match may make a guard tell cases apart: one that switches case on again within the pattern
that it becomes. -/
theorem Workspace.not_forall_ignoring_case :
    ¬ ∀ (source : String) (grammar : Grammar) (tokenizer : Tokenizer) (line lineOther : Text)
      (state : LineState) (ended : Bool) (shift : Nat),
      (Grammar.compileText "toy" source false).result = .ok grammar → tokenizer.grammar = grammar →
      tokenizer.IgnoresCase → line.SameButCase lineOther →
      Report.OfKind
        (({ registry := none } : Workspace).tokenize { tokenizer, line, ended, state, shift }).1
        (({ registry := none } : Workspace).tokenize
          { tokenizer, line := lineOther, ended, state, shift }).1 := by
  intro always
  let line : Text := ['(', '?', '-', 'i', ')', 'a', 'a']
  let lineOther : Text := ['(', '?', '-', 'i', ')', 'a', 'A']
  obtain ⟨grammar, made, passes⟩ := Grammar.exists_of_compiles
    (Grammar.compileText "toy" switchedSource false)
    (fun grammar => grammar.settings.ignoreCase &&
      ((grammar.states.all fun state => state.2.all Rule.foldsCase) &&
        ((({ registry := none } : Workspace).tokenize (choiceJob grammar line)).1.events !=
          (({ registry := none } : Workspace).tokenize (choiceJob grammar lineOther)).1.events)))
    (by decide +kernel)
  simp only [Bool.and_eq_true, bne_iff_ne] at passes
  obtain ⟨folds, rules, differs⟩ := passes
  have ignores : (choiceJob grammar line).tokenizer.IgnoresCase :=
    Tokenizer.ignoresCase_of_foldsCase folds rules
  have alike : line.SameButCase lineOther := by decide
  have reports := always switchedSource grammar _ line lineOther (rootState ⟨0, 0⟩) false 0 made rfl
    ignores alike
  exact differs reports.events

end LineLexer
