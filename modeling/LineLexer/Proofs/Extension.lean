import LineLexer.Proofs.CoupledLines

/-!
**More rules behind those of a state.**

The first rule that matches is taken, so rules that are put behind those of a state are only come to
where none of these matches. If they end no embedded language either, a line at which no rules were
missing before comes to the same with them.

* `Grammar.ExtendedBy`, `Tokenizer.ExtendedBy`: more rules behind those of the states;
* `Tokenizer.firstMatch_append`: rules behind others;
* `HostLine.fallsBack`: whether no rule matches at a step;
* `Tokenizer.Replaces`, `Registry.Replaces`: one tokenizer in the place of another one, wherever
  that is known;
* `Workspace.perform_extended`: a line at which no rules were missing comes to the same.
-/

namespace LineLexer

open Scanning

/-! ### More rules -/

/-- A larger grammar has the same states, in which more rules come behind those that there are. None
of them is a token by which an embedded language ends. -/
structure Grammar.ExtendedBy (grammar larger : Grammar) : Prop where
  same : ∃ usesEmbedded states, larger = { grammar with usesEmbedded, states }
  states : List.Forall₂ (fun entry longer : String × List Rule => entry.1 = longer.1 ∧
    ∃ extra, longer.2 = entry.2 ++ extra ∧ ∀ rule ∈ extra, rule.leavesEmbedded = false)
    grammar.states larger.states

/-- A tokenizer has a larger grammar than another one, and is the same apart from that. -/
structure Tokenizer.ExtendedBy (tokenizer larger : Tokenizer) : Prop where
  same : larger = { tokenizer with grammar := larger.grammar }
  grammar : tokenizer.grammar.ExtendedBy larger.grammar

/-- More rules come behind given ones. -/
def AddsRules (rules longer : List Rule) : Prop :=
  ∃ extra, longer = rules ++ extra ∧ ∀ rule ∈ extra, rule.leavesEmbedded = false

namespace Grammar.ExtendedBy

variable {grammar larger : Grammar}

theorem rel_rules? (extended : grammar.ExtendedBy larger) (state : String) :
    Option.Rel AddsRules (grammar.rules? state) (larger.rules? state) := by
  have states := extended.states
  unfold rules?
  generalize grammar.states = entries, larger.states = others at states
  induction states with
  | nil => exact .none
  | @cons entry longer entries others first _ step =>
    obtain ⟨name, rules⟩ := entry
    obtain ⟨nameOther, rulesOther⟩ := longer
    obtain ⟨rfl, adds⟩ := first
    rw [List.lookup_cons, List.lookup_cons]
    cases state == name with
    | true => exact .some adds
    | false => exact step

/-- In every state there are more rules, or none as before. -/
theorem rel_findRules? (extended : grammar.ExtendedBy larger) (state : String) :
    Option.Rel AddsRules (grammar.findRules? state) (larger.findRules? state) := by
  unfold findRules?
  induction lineage state with
  | nil => exact .none
  | cons name names step =>
    have rules := extended.rel_rules? name
    rw [List.findSome?_cons, List.findSome?_cons]
    revert rules
    generalize grammar.rules? name = rules, larger.rules? name = longer
    rintro (adds | _)
    · exact .some adds
    · exact step

theorem stateExists_eq (extended : grammar.ExtendedBy larger) (state : String) :
    grammar.stateExists state = larger.stateExists state := by
  have rules := extended.rel_findRules? state
  unfold stateExists
  revert rules
  generalize grammar.findRules? state = rules, larger.findRules? state = longer
  rintro (_ | _) <;> rfl

end Grammar.ExtendedBy

namespace Tokenizer

variable {tokenizer larger : Tokenizer} {trace later : Trace}

theorem ExtendedBy.states (extended : tokenizer.ExtendedBy larger) :
    ∃ usesEmbedded states,
      larger = { tokenizer with grammar := { tokenizer.grammar with usesEmbedded, states } } := by
  obtain ⟨usesEmbedded, states, same⟩ := extended.grammar.same
  refine ⟨usesEmbedded, states, ?_⟩
  rw [← same]
  exact extended.same

/-! ### Rules behind others -/

/-- Rules behind others are only tried where none of these matches. -/
theorem firstMatch_append (tokenizer : Tokenizer) (state : String) (atStart : Bool) (rest : Text)
    (rules extra : List Rule) (trace : Trace) :
    outcome (tokenizer.firstMatch state atStart rest (rules ++ extra)) trace =
      match outcome (tokenizer.firstMatch state atStart rest rules) trace with
      | (.ok none, later) => outcome (tokenizer.firstMatch state atStart rest extra) later
      | ending => ending := by
  induction rules generalizing trace with
  | nil => rfl
  | cons rule rules step =>
    rw [List.cons_append, firstMatch, firstMatch]
    split
    · exact step trace
    · rw [outcome_bind, outcome_bind]
      rcases outcome (tokenizer.anchored state rule) trace with ⟨_ | regex, middle⟩
      · rfl
      · dsimp only
        split
        · rfl
        · exact step middle

/-- A larger grammar compiles each pattern as before. -/
theorem ExtendedBy.firstMatch_eq (extended : tokenizer.ExtendedBy larger) (state : String)
    (atStart : Bool) (rest : Text) (rules : List Rule) :
    larger.firstMatch state atStart rest rules = tokenizer.firstMatch state atStart rest rules := by
  obtain ⟨usesEmbedded, states, rfl⟩ := extended.states
  induction rules with
  | nil => rfl
  | cons rule rules step =>
    rw [firstMatch, firstMatch, step]
    rfl

/-- Whether no rule matches at a position, so that a character gets the default token. -/
def fallsBack (tokenizer : Tokenizer) (text : Text) (position : Nat) (state : String)
    (trace : Trace) : Bool :=
  match tokenizer.grammar.findRules? state, text.drop? position with
  | some rules, some rest =>
    match outcome (tokenizer.firstMatch state (position == 0) rest rules) trace with
    | (.ok none, _) => true
    | _ => false
  | _, _ => false

/-- Where a rule matches, more rules find the same. -/
theorem ExtendedBy.findAt_eq (extended : tokenizer.ExtendedBy larger) {text : Text} {position : Nat}
    {state : String} (matched : tokenizer.fallsBack text position state trace = false) :
    outcome (larger.findAt text position state) trace =
      outcome (tokenizer.findAt text position state) trace := by
  have rules := extended.grammar.rel_findRules? state
  unfold findAt
  unfold fallsBack at matched
  revert rules matched
  generalize tokenizer.grammar.findRules? state = rules, larger.grammar.findRules? state = longer
  rintro matched (⟨extra, rfl, -⟩ | _)
  · dsimp only
    rw [outcome_bind, outcome_bind]
    rcases cuts : text.drop? position with _ | rest
    · rfl
    · rw [cuts] at matched
      show outcome (larger.firstMatch state (position == 0) rest _ >>= _) trace =
        outcome (tokenizer.firstMatch state (position == 0) rest _ >>= _) trace
      rw [outcome_bind, outcome_bind, extended.firstMatch_eq, firstMatch_append]
      rcases finds : outcome (tokenizer.firstMatch state (position == 0) rest _) trace with
        ⟨_ | _ | found, middle⟩
      · rfl
      · dsimp only at matched
        rw [finds] at matched
        cases matched
      · rfl
  · obtain ⟨usesEmbedded, states, same⟩ := extended.states
    rw [same]
    rfl

/-- Rules that end no embedded language leave the ends of embedded languages where they are. -/
theorem ExtendedBy.leavingOffset?_eq (extended : tokenizer.ExtendedBy larger) (state : String)
    (line : Text) : tokenizer.leavingOffset? state line = larger.leavingOffset? state line := by
  have exits : ∀ rules, larger.exits state line rules = tokenizer.exits state line rules := by
    obtain ⟨usesEmbedded, states, rfl⟩ := extended.states
    intro rules
    induction rules with
    | nil => rfl
    | cons rule rules step =>
      rw [Tokenizer.exits, Tokenizer.exits, step]
      rfl
  have rules := extended.grammar.rel_findRules? state
  unfold leavingOffset?
  revert rules
  generalize tokenizer.grammar.findRules? state = rules, larger.grammar.findRules? state = longer
  rintro (⟨extra, rfl, stays⟩ | _)
  · have none : extra.filter Rule.leavesEmbedded = [] :=
      List.filter_eq_nil_iff.2 fun rule listed => by simp [stays rule listed]
    dsimp only
    rw [List.filter_append, none, List.append_nil]
    simp only [exits]
  · rfl

end Tokenizer

/-! ### One tokenizer in the place of another one -/

/-- A tokenizer takes its own place, or the one with more rules takes it. -/
def Tokenizer.Replaces (plain larger tokenizer twin : Tokenizer) : Prop :=
  twin = tokenizer ∨ (tokenizer = plain ∧ twin = larger)

/-- Two registries know the same names, and tokenizers of which the one with more rules may have
taken the place of the other one. -/
structure Registry.Replaces (plain larger : Tokenizer) (registry other : Registry) : Prop where
  aliases : registry.aliases = other.aliases
  tokenizers : ∀ language, Option.Rel (plain.Replaces larger) (registry.tokenizer? language)
    (other.tokenizer? language)

/-- Whether a scan comes to a character that no rule matches. -/
def HostLine.fallsBack (host : HostLine) (scan : Scan) (trace : Trace) : Bool :=
  scan.replay.isNone && host.tokenizer.fallsBack host.text scan.position scan.stack.state trace

/-- No step of a tokenizer falls back in the work on a line and on its parts. -/
def Work.MatchesBy (plain : Tokenizer) (registry : Option Registry) (steps : Nat) (work : Work) :
    Prop :=
  ∀ {inner : Work}, work.Involves registry steps inner → ∀ {host scan trace},
    inner.Visits registry steps host scan trace → host.tokenizer = plain →
      host.fallsBack scan trace = false

section

variable {plain larger tokenizer twin : Tokenizer} {registry other : Registry}
  {known knownOther : Option Registry} {base : Trace}

/-- A name stands for the same language. -/
theorem Registry.Replaces.resolve?_eq (replaces : registry.Replaces plain larger other)
    (name : String) : registry.resolve? name = other.resolve? name := by
  have found := replaces.tokenizers name
  unfold resolve?
  rw [replaces.aliases]
  revert found
  generalize registry.tokenizer? name = tokenizer, other.tokenizer? name = twin
  rintro (_ | _) <;> rfl

/-- A tokenizer and the one that takes its place correspond. -/
theorem Tokenizer.ExtendedBy.tokenizers (extended : plain.ExtendedBy larger)
    (replaces : plain.Replaces larger tokenizer twin) :
    (Coupling.exact base base (plain.Replaces larger) 0 none).Tokenizers tokenizer twin := by
  rcases replaces with rfl | ⟨rfl, rfl⟩
  · exact Coupling.exact_tokenizers_self _ (Or.inl rfl)
  · exact Coupling.exact_tokenizers (Or.inr ⟨rfl, rfl⟩) extended.states
      extended.grammar.stateExists_eq

/-- Tokenizers that correspond know the same languages. -/
theorem rel_languages? (registries : Option.Rel (Registry.Replaces plain larger) known knownOther)
    (twins : (Coupling.exact base base (plain.Replaces larger) 0 none).Tokenizers tokenizer twin) :
    Option.Rel (Registry.Replaces plain larger) (tokenizer.languages? known)
      (twin.languages? knownOther) := by
  obtain ⟨_, _, rfl⟩ := twins.states
  unfold Tokenizer.languages?
  dsimp only
  split
  · exact registries
  · exact .none

/-- What has taken the place of one another has in common what matters. -/
theorem participants_of_extended (extended : plain.ExtendedBy larger)
    (registries : Option.Rel (Registry.Replaces plain larger) known knownOther) :
    (Coupling.exact base base (plain.Replaces larger) 0 none).Participants known knownOther
      tokenizer := by
  refine ⟨fun {host twin} _ twins name => ?_, fun {host twin} _ twins language => ?_,
    fun {host twin} _ twins state _ _ texts => ?_⟩
  · have languages := rel_languages? registries twins
    revert languages
    generalize host.languages? known = left, twin.languages? knownOther = right
    rintro (replaces | _)
    · exact replaces.resolve?_eq name
    · rfl
  · have languages := rel_languages? registries twins
    revert languages
    generalize host.languages? known = left, twin.languages? knownOther = right
    rintro (replaces | _)
    · have found := replaces.tokenizers language
      rw [Option.bind_some, Option.bind_some]
      revert found
      generalize Registry.tokenizer? _ language = guest, Registry.tokenizer? _ language = guestTwin
      rintro (found | _)
      · exact .some (extended.tokenizers found)
      · exact .none
    · exact .none
  · rw [Coupling.exact_texts.1 texts]
    rcases twins.kin with rfl | ⟨rfl, rfl⟩
    · rfl
    · exact extended.leavingOffset?_eq state _

/-- Steps that do not fall back are fair. -/
theorem fairWithin_of_matches (extended : plain.ExtendedBy larger) {steps : Nat} {work : Work}
    (matched : work.MatchesBy plain known steps) :
    (Coupling.exact base base (plain.Replaces larger) 0 none).FairWithin known steps work := by
  intro inner involves host scan later visits hostOther scanOther laterOther hosts scans beside
  rcases hosts.tokenizers.kin with same | ⟨isPlain, isLarger⟩
  · exact Coupling.fair_of_tokenizer_eq same.symm hosts scans beside
  · refine Coupling.fair_of_finds hosts scans fun nothing => ?_
    have unmissed : host.tokenizer.fallsBack host.text scan.position scan.stack.state later =
        false := by
      have finds := matched involves visits isPlain
      rwa [HostLine.fallsBack, nothing, Option.isNone_none, Bool.true_and] at finds
    have position : scan.position = scanOther.position := by
      rw [scans.position]
      exact Nat.zero_add _
    have same : later = laterOther := beside.eq_of_bases rfl
    rw [isPlain] at unmissed
    rw [isLarger, ← Coupling.exact_texts.1 (hosts.text rfl), ← position, ← scans.stack, ← same,
      isPlain, extended.findAt_eq unmissed]
    rw [← same] at beside
    exact Coupling.ends_findAt_self (Or.inl rfl) _ _ _ beside

/-- A line at which no rules were missing comes to the same with more rules. -/
theorem Job.outcome_of_extended (extended : plain.ExtendedBy larger)
    (registries : Option.Rel (Registry.Replaces plain larger) known knownOther) (job : Job)
    (replaces : plain.Replaces larger job.tokenizer twin) {steps depth : Nat} {trace : Trace}
    (matched : Work.MatchesBy plain known steps ⟨depth, job, trace⟩) :
    outcome (tokenizeWithin knownOther steps depth { job with tokenizer := twin }) trace =
      outcome (tokenizeWithin known steps depth job) trace := by
  have jobs : (Coupling.exact trace trace (plain.Replaces larger) 0 none).Jobs job
      { job with tokenizer := twin } :=
    ⟨extended.tokenizers replaces, Coupling.texts_refl _, rfl, rfl, rfl⟩
  have ends := Coupling.ends_tokenizeWithin rfl jobs
    (participants_of_extended extended registries) (.refl rfl)
    (fairWithin_of_matches extended matched)
  exact ends.eq_of_same_base.symm

/-- A line that is too long for one of the two is too long for the other. -/
theorem Job.within_of_extended (extended : plain.ExtendedBy larger)
    (registries : Option.Rel (Registry.Replaces plain larger) known knownOther) (job : Job)
    (replaces : plain.Replaces larger job.tokenizer twin) {limit : Text → Nat} {depth : Nat}
    {trace : Trace} (matched : Work.MatchesBy plain known (limit job.line) ⟨depth, job, trace⟩) :
    outcome (within limit depth knownOther { job with tokenizer := twin }) trace =
      outcome (within limit depth known job) trace := by
  have same := job.outcome_of_extended extended registries replaces matched
  have twins : (Coupling.exact trace trace (plain.Replaces larger) 0 none).Tokenizers job.tokenizer
      twin := extended.tokenizers replaces
  obtain ⟨_, _, rfl⟩ := twins.states
  unfold within unlessLong
  dsimp only
  split
  · rfl
  · exact same

/-- What one of the two remembers may be remembered by the other one. -/
theorem Memories.Sound.of_extended {tokenizers : Set Tokenizer} {memories : Memories}
    (extended : plain.ExtendedBy larger) (sound : memories.Sound (insert plain tokenizers)) :
    memories.Sound (insert larger tokenizers) := by
  obtain ⟨_, _, rfl⟩ := extended.states
  intro tokenizer inside
  rcases Set.mem_insert_iff.1 inside with rfl | inside
  · exact sound plain (Set.mem_insert _ _)
  · exact sound tokenizer (Set.mem_insert_of_mem _ inside)

end

/-- Rules of lower priority. One tokenizer has more rules than another one behind those of its
states, none of which ends an embedded language. It takes the place of the other one as the
tokenizer of a line, in the registry, or in both, and both have worked before, each in a workspace
of its own.
A line in whose work no step of the smaller one comes to a character that no rule matches makes the
same events and notes with both, and fails with the same stop or ends in equal states. -/
theorem Workspace.perform_extended {tokenizers : Set Tokenizer} {plain larger : Tokenizer}
    (extended : plain.ExtendedBy larger)
    (injective : (insert plain tokenizers).InjOn Tokenizer.identity)
    (injectiveOther : (insert larger tokenizers).InjOn Tokenizer.identity)
    {calls callsOther : List Call}
    (known : ∀ call ∈ calls, Known (insert plain tokenizers) call.registry call.tokenizer)
    (knownOther : ∀ call ∈ callsOther,
      Known (insert larger tokenizers) call.registry call.tokenizer)
    {workspace other : Workspace} (remembers : workspace.memories = .after calls)
    (remembersOther : other.memories = .after callsOther)
    (registries : Option.Rel (Registry.Replaces plain larger) workspace.registry other.registry)
    {tokenizer twin : Tokenizer} (replaces : plain.Replaces larger tokenizer twin)
    (takesPart : Known (insert larger tokenizers) other.registry twin)
    {state stateOther : LineState} (same : (state == stateOther) = true) {line : Text}
    {ended : Bool} {shift : Nat} {limit : Text → Nat} {depth : Nat}
    (matched : Work.MatchesBy plain workspace.registry (limit line)
      ⟨depth, { tokenizer, line, ended, state, shift }, { memories := workspace.memories }⟩) :
    Report.Alike
      (workspace.perform (Job.within limit depth workspace.registry
        { tokenizer, line, ended, state, shift })).1
      (other.perform (Job.within limit depth other.registry
        { tokenizer := twin, line, ended, state := stateOther, shift })).1 := by
  have sound : workspace.memories.Sound (insert larger tokenizers) := by
    rw [remembers]
    exact (sound_after injective known).of_extended extended
  have soundOther : other.memories.Sound (insert larger tokenizers) := by
    rw [remembersOther]
    exact sound_after injectiveOther knownOther
  have jobs : Job.Alike { tokenizer := twin, line, ended, state, shift }
      { tokenizer := twin, line, ended, state := stateOther, shift } :=
    ⟨rfl, rfl, rfl, rfl, LineState.beq_iff.1 same⟩
  obtain ⟨results, left⟩ := (Job.agree_within injectiveOther jobs takesPart
    { memories := workspace.memories } { memories := other.memories }
    ⟨sound, soundOther, fun _ => rfl, fun _ => rfl⟩).sameResult
  have shared := Job.within_of_extended extended registries
    { tokenizer, line, ended, state, shift } replaces matched
  rw [shared] at results left
  exact ⟨left.events trivial, left.notes trivial, results⟩

/-- A language with a state whose rules are put behind those of another one. -/
def shortSource : String :=
  "\x7b\"tokenizer\": \x7b\"main\": [[\"a\", \"first\"]], \"more\": [[\"a\", \"second\"]]\x7d\x7d"

/-- The same grammar with the rules of one state behind those of all states. -/
def Grammar.withMore (grammar : Grammar) (state : String) : Grammar :=
  { grammar with
    states := grammar.states.map fun entry => (entry.1, entry.2 ++ (grammar.rules? state).getD []) }

/-- Where the rules end no embedded language, that is a larger grammar. -/
theorem Grammar.extendedBy_withMore {grammar : Grammar} {state : String}
    (stays : ∀ rule ∈ (grammar.rules? state).getD [], rule.leavesEmbedded = false) :
    grammar.ExtendedBy (grammar.withMore state) := by
  refine ⟨⟨_, _, rfl⟩, ?_⟩
  show List.Forall₂ _ grammar.states (grammar.states.map _)
  rw [List.forall₂_map_right_iff, List.forall₂_same]
  exact fun entry _ => ⟨rfl, _, rfl, stays⟩

/-- A line of that language, for a tokenizer of it. -/
def shortJob (grammar : Grammar) : Job where
  tokenizer := { identity := 0, grammar }
  line := ['a', 'a']
  ended := true
  state := rootState ⟨0, 0⟩
  shift := 3

/-- The second rule matches the line, too, and comes too late. -/
theorem Workspace.perform_extended_short :
    ∃ grammar : Grammar, (Grammar.compileText "toy" shortSource false).result = .ok grammar ∧
      (grammar.rules? "main").map List.length = some 1 ∧
      ((grammar.withMore "more").rules? "main").map List.length = some 2 ∧
      (({ registry := none } : Workspace).perform
        (Job.within (fun _ => 5) 1 none (shortJob grammar))).1.events =
          #[.language "toy", .token 3 "first.toy" none, .token 4 "first.toy" none] ∧
      Report.Alike
        (({ registry := none } : Workspace).perform
          (Job.within (fun _ => 5) 1 none (shortJob grammar))).1
        (({ registry := none } : Workspace).perform
          (Job.within (fun _ => 5) 1 none (shortJob (grammar.withMore "more")))).1 := by
  obtain ⟨grammar, made, passes⟩ := Grammar.exists_of_compiles
    (Grammar.compileText "toy" shortSource false)
    (fun grammar => ((grammar.rules? "more").getD []).all (fun rule => !rule.leavesEmbedded) &&
      ((grammar.rules? "main").map List.length == some 1 &&
        (((grammar.withMore "more").rules? "main").map List.length == some 2 &&
          ((({ registry := none } : Workspace).perform
            (Job.within (fun _ => 5) 1 none (shortJob grammar))).1.events ==
              #[.language "toy", .token 3 "first.toy" none, .token 4 "first.toy" none] &&
            (shortJob grammar).allTurns 5 {} fun scan later =>
              !(shortJob grammar).host.fallsBack scan later))))
    (by decide +kernel)
  simp only [Bool.and_eq_true, beq_iff_eq, List.all_eq_true] at passes
  obtain ⟨stays, plainRules, moreRules, events, throughout⟩ := passes
  let plain : Tokenizer := { identity := 0, grammar }
  let larger : Tokenizer := { identity := 0, grammar := grammar.withMore "more" }
  have extended : plain.ExtendedBy larger :=
    ⟨rfl, Grammar.extendedBy_withMore fun rule listed => by simpa using stays rule listed⟩
  have injective : ∀ tokenizer : Tokenizer,
      (insert tokenizer (∅ : Set Tokenizer)).InjOn Tokenizer.identity := by
    intro tokenizer
    rw [insert_empty_eq]
    exact Set.injOn_singleton _ _
  have alone : Known (insert larger (∅ : Set Tokenizer)) none larger := by
    rw [insert_empty_eq]
    exact known_of_alone
  have fresh : ({ registry := none } : Workspace).memories = .after [] := rfl
  have matched : Work.MatchesBy plain none 5 ⟨1, shortJob grammar, {}⟩ := by
    intro inner involves host scan later visits _
    obtain ⟨rfl, passed⟩ := Work.check_of_allTurns rfl throughout involves visits
    simpa using passed
  refine ⟨grammar, made, plainRules, moreRules, events, ?_⟩
  exact Workspace.perform_extended extended (injective plain) (injective larger)
    (List.forall_mem_nil _) (List.forall_mem_nil _) fresh fresh .none (Or.inr ⟨rfl, rfl⟩) alone
    (by decide) matched

end LineLexer
