import LineLexer.Proofs.Halting
import LineLexer.Proofs.Targets

/-!
**States without an exit.**

A line that starts in an embedded language needs a rule by which that language ends. Only a rule
whose action is itself such a token counts: a rule that comes to such a token through a group or
through a choice is passed over, though a scan that takes it leaves the language.

* `Action.mayLeave`, `Action.HidesExit`: actions that hold such a token, in whatever depth, and
  those that are none themselves;
* `Work.LacksExit`: a part of the work on a line that has no rule that counts;
* `Work.stops_noExit_iff`: the work on a line fails for want of an exit exactly in such a part;
* `Job.noExit_iff`: when a line fails so, and when what is then said of the rules is true.
-/

namespace LineLexer

open Scanning

/-! ### Exits inside actions -/

namespace Action

/-- Whether an embedded language ends at some token inside an action, in whatever group or
branch. -/
def mayLeave (action : Action) : Bool := action.anyToken fun token => token.embedding == some .leave

/-- A group with such a token in a member, or a choice with one in a branch. -/
inductive HidesExit : Action → Prop where
  | group {members : List Action} {member : Action} (listed : member ∈ members)
      (leaves : member.mayLeave = true) : HidesExit (.group members)
  | cases {branches : List (Branch Action)} {fallback : String} {branch : Branch Action}
      (listed : branch ∈ branches) (leaves : branch.target.mayLeave = true) :
      HidesExit (.cases branches fallback)

/-- A token by which the language ends stands alone, or it is hidden. -/
theorem mayLeave_iff {action : Action} :
    action.mayLeave = true ↔ action.leavesEmbedded = true ∨ action.HidesExit := by
  cases action with
  | token action =>
    constructor
    · exact Or.inl
    · rintro (leaves | hidden)
      · exact leaves
      · cases hidden
  | group members =>
    rw [mayLeave, anyToken, anyTokenOf_eq_any, List.any_eq_true]
    constructor
    · rintro ⟨member, listed, leaves⟩
      exact Or.inr (.group listed leaves)
    · rintro (leaves | hidden)
      · cases leaves
      · cases hidden with
        | group listed leaves => exact ⟨_, listed, leaves⟩
  | cases branches fallback =>
    rw [mayLeave, anyToken, anyTokenOfBranches_eq_any, List.any_eq_true]
    constructor
    · rintro ⟨branch, listed, leaves⟩
      exact Or.inr (.cases listed leaves)
    · rintro (leaves | hidden)
      · cases leaves
      · cases hidden with
        | cases listed leaves => exact ⟨_, listed, leaves⟩

end Action

/-! ### The search for an exit -/

/-- The search for the end of an embedded language fails for want of an exit where no rule of the
state is itself a token by which the language ends. -/
theorem Tokenizer.leavingOffset?_eq_noExit_iff {tokenizer : Tokenizer} {state other : String}
    {line : Text} :
    tokenizer.leavingOffset? state line = .error (.noEmbeddedExit other) ↔
      state = other ∧ ∃ rules, tokenizer.grammar.findRules? state = some rules ∧
        ∀ rule ∈ rules, rule.leavesEmbedded = false := by
  unfold leavingOffset?
  cases tokenizer.grammar.findRules? state with
  | none => simp
  | some rules =>
    dsimp only
    split
    · next nothing =>
      have never : ∀ rule ∈ rules, rule.leavesEmbedded = false := by
        simpa [List.filter_eq_nil_iff] using nothing
      simp only [Except.error.injEq, Fault.noEmbeddedExit.injEq, Option.some.injEq,
        exists_eq_left']
      exact (and_iff_left never).symm
    · next some =>
      constructor
      · intro fails
        obtain ⟨pattern, detail, same⟩ := exits_eq_error (exceptMap_eq_error.1 fails)
        cases same
      · rintro ⟨-, _, same, never⟩
        cases same
        exact absurd (List.filter_eq_nil_iff.2 fun rule listed => by simp [never rule listed]) some

/-- A step does not fail for want of an exit. -/
theorem HostLine.never_step_of_noExit {host : HostLine} {scan : Scan} {language state : String} :
    Never (.fault ⟨language, .noEmbeddedExit state⟩) (host.step scan) := by
  intro trace later stopped
  cases (fails_of_step stopped).1 with
  | target meets misses => cases misses

/-! ### The work on a line -/

namespace Work

open Job

variable {registry : Option Registry} {steps : Nat} {work inner : Work} {language state : String}
  {rules : List Rule}

/-- A part of the work on a line starts in an embedded language, in a state none of whose rules is
itself a token by which that language ends. -/
structure LacksExit (language state : String) (rules : List Rule) (work : Work) : Prop where
  /-- The part may be worked on. -/
  room : work.depth ≠ 0
  speaks : work.job.tokenizer.language = language
  inside : work.job.state.embedded? ≠ none
  stands : work.job.state.stack.state = state
  holding : work.job.tokenizer.grammar.findRules? state = some rules
  never : ∀ rule ∈ rules, rule.leavesEmbedded = false

/-- Such a part fails for want of an exit. -/
theorem LacksExit.stops (lacks : work.LacksExit language state rules) :
    work.Stops registry steps (.fault ⟨language, .noEmbeddedExit state⟩) := by
  obtain ⟨room, speaks, inside, stands, holding, never⟩ := lacks
  subst speaks stands
  obtain ⟨_ | depth, job, trace⟩ := work
  · exact absurd rfl room
  obtain ⟨embedded, inside⟩ := Option.ne_none_iff_exists'.1 inside
  have fails : job.tokenizer.leavingOffset? job.state.stack.state job.line =
      .error (.noEmbeddedExit job.state.stack.state) :=
    Tokenizer.leavingOffset?_eq_noExit_iff.2 ⟨rfl, rules, holding, never⟩
  refine ⟨trace, ?_⟩
  dsimp only
  rw [tokenizeWithin, advance_eq]
  exact outcome_bind_eq_error.2
    (Or.inl (openWith_stop_iff.2 ⟨embedded, inside, Or.inl ⟨_, fails, rfl, rfl⟩⟩))

/-- The work on a line fails for want of an exit exactly where one of its parts lacks one. -/
theorem stops_noExit_iff :
    work.Stops registry steps (.fault ⟨language, .noEmbeddedExit state⟩) ↔
      ∃ inner rules, work.Involves registry steps inner ∧
        inner.LacksExit language state rules := by
  constructor
  · intro stops
    -- the parts of a line nest less deep than the line
    induction deep : work.depth generalizing work with
    | zero =>
      obtain ⟨later, stopped⟩ := stops
      rw [deep] at stopped
      cases stopped
    | succ depth step =>
      have room : work.depth ≠ 0 := by
        rw [deep]
        exact Nat.succ_ne_zero depth
      rcases stops.leaving_own_or_gives room with
        ⟨embedded, fault, inside, fails, same⟩ | itself | ⟨inner, gives, deeper, stopsToo⟩
      · cases same
        obtain ⟨named, rules, holding, never⟩ := Tokenizer.leavingOffset?_eq_noExit_iff.1 fails
        refine ⟨work, rules, .refl, room, rfl, ?_, named, named ▸ holding, never⟩
        rw [inside]
        exact Option.some_ne_none embedded
      · cases itself with
        | scan scans stopped =>
          obtain ⟨turns, allowed, scan, before, comes, fails⟩ :=
            HostLine.exists_turn?_of_fault stopped
          exact absurd fails (HostLine.never_step_of_noExit _ _)
        | handOver scans departs stopped =>
          refine absurd stopped (never_handOver ?_ _ _ _ _ _)
          exact nofun
      · obtain ⟨last, rules, involves, lacks⟩ := step stopsToo (by omega)
        exact ⟨last, rules, .head gives involves, lacks⟩
  · rintro ⟨inner, rules, involves, lacks⟩
    unfold Involves at involves
    induction involves using Relation.ReflTransGen.head_induction_on with
    | refl => exact lacks.stops
    | head gives _ step => exact gives.stops step

end Work

/-! ### Lines without an exit -/

namespace Job

open Work

/-- Lines without an exit. A line that is short enough fails for want of an exit exactly where some
part of the work on it starts in an embedded language, in a state none of whose rules is itself a
token by which that language ends. What is then said of these rules, that none contains such a
token, is true exactly if none of them hides one in a group or in a choice. -/
theorem noExit_iff {registry : Option Registry} {steps depth : Nat} {job : Job} {trace : Trace}
    {language state : String} :
    ((∃ later, outcome (job.unlessLong (tokenizeWithin registry steps depth)) trace =
        (.error (.fault ⟨language, .noEmbeddedExit state⟩), later)) ↔
      job.line.size ≤ job.tokenizer.limits.lineLength ∧ ∃ inner rules,
        Involves registry steps ⟨depth, job, trace⟩ inner ∧
          inner.LacksExit language state rules) ∧
    ∀ {inner rules}, Work.LacksExit language state rules inner →
      ((∀ rule ∈ rules, rule.action.mayLeave = false) ↔
        ∀ rule ∈ rules, ¬ rule.action.HidesExit) := by
  constructor
  · rw [← stops_noExit_iff]
    constructor
    · rintro ⟨later, stopped⟩
      obtain ⟨short, stopped⟩ := unlessLong_stop_iff.1 stopped
      exact ⟨short, later, stopped⟩
    · rintro ⟨short, later, stopped⟩
      exact ⟨later, unlessLong_stop_iff.2 ⟨short, stopped⟩⟩
  · intro inner rules lacks
    refine forall₂_congr fun rule listed => ?_
    rw [← Bool.not_eq_true, Action.mayLeave_iff]
    have unhidden : rule.action.leavesEmbedded = false := lacks.never rule listed
    rw [unhidden]
    simp

/-- A language starts at an opening bracket, and it ends at a closing one, by a choice. -/
def hiddenSource : String :=
  "\x7b\"tokenizer\": \x7b\"main\": [
    [\"<\", \x7b\"token\": \"open\", \"nextEmbedded\": \"js\"\x7d],
    [\">\", \x7b\"cases\": \x7b\"@default\":
      \x7b\"token\": \"close\", \"nextEmbedded\": \"@pop\"\x7d\x7d\x7d]]\x7d\x7d"

/-- A line with the grammar of one tokenizer. -/
def lineOf (grammar : Grammar) (line : String) (state : LineState) : Job where
  tokenizer := { identity := 0, grammar }
  line := line.toList
  ended := true
  state

/-- Whether the first line of a text ends in an embedded language, and the second one fails for want
of an exit in a state that has a rule which holds one. -/
def lacksHiddenExit (grammar : Grammar) : Bool :=
  match outcome (lineOf grammar "" default).tokenizer.initialState {} with
  | (.ok first, started) =>
    match outcome ((lineOf grammar "<" first).unlessLong (tokenizeWithin none 50 3)) started with
    | (.ok second, middle) =>
      (match
          outcome ((lineOf grammar "x>" second).unlessLong (tokenizeWithin none 50 3)) middle with
        | (.error (.fault error), _) => decide (error = ⟨"toy", .noEmbeddedExit "main"⟩)
        | _ => false) &&
      ((grammar.findRules? "main").getD []).any fun rule => rule.action.mayLeave
    | _ => false
  | _ => false

/-- What the check says of the second line. -/
theorem of_lacksHiddenExit {grammar : Grammar} (lacks : lacksHiddenExit grammar = true) :
    ∃ (state : LineState) (history : List Done) (trace last : Trace) (rules : List Rule),
      Reaches (lineOf grammar "x>" state).tokenizer history state ∧
      outcome ((lineOf grammar "x>" state).unlessLong (tokenizeWithin none 50 3)) trace =
        (.error (.fault ⟨"toy", .noEmbeddedExit "main"⟩), last) ∧
      grammar.findRules? "main" = some rules ∧ ∃ rule ∈ rules, rule.action.mayLeave = true := by
  unfold lacksHiddenExit at lacks
  split at lacks
  · next first started starts =>
    split at lacks
    · next second middle ends =>
      have reaches :
          Reaches (lineOf grammar "<" first).tokenizer [] (lineOf grammar "<" first).state :=
        .initial starts
      rw [Bool.and_eq_true, List.any_eq_true] at lacks
      obtain ⟨fails, rule, listed, leaves⟩ := lacks
      split at fails
      · next error last stopped =>
        rw [of_decide_eq_true fails] at stopped
        cases holding : grammar.findRules? "main" with
        | none =>
          rw [holding] at listed
          cases listed
        | some rules =>
          rw [holding] at listed
          exact ⟨second, _, middle, last, rules, .line reaches rfl ends, stopped, rfl, rule, listed,
            leaves⟩
      · cases fails
    · cases lacks
  · cases lacks

/-- There is a grammar that passes the check. -/
theorem exists_lacksHiddenExit :
    ∃ grammar, (Grammar.compileText "toy" hiddenSource false).result = .ok grammar ∧
      lacksHiddenExit grammar = true :=
  Grammar.exists_of_compiles (Grammar.compileText "toy" hiddenSource false) lacksHiddenExit
    (by decide +kernel)

theorem noExit_iff_choice :
    ∃ (grammar : Grammar) (state : LineState) (trace : Trace) (inner : Work) (rules : List Rule),
      Involves none 50 ⟨3, lineOf grammar "x>" state, trace⟩ inner ∧
        inner.LacksExit "toy" "main" rules ∧ ∃ rule ∈ rules, rule.action.HidesExit := by
  obtain ⟨grammar, -, lacks⟩ := exists_lacksHiddenExit
  obtain ⟨state, -, trace, last, found, -, stopped, holding, rule, listed, leaves⟩ :=
    of_lacksHiddenExit lacks
  obtain ⟨lacking, truthful⟩ :=
    @noExit_iff none 50 3 (lineOf grammar "x>" state) trace "toy" "main"
  obtain ⟨-, inner, rules, involves, without⟩ := lacking.1 ⟨last, stopped⟩
  refine ⟨grammar, state, trace, inner, rules, involves, without, ?_⟩
  -- the part is one by the same tokenizer, as no other takes part
  have same : rules = found := by
    have held := without.holding
    rw [involves.takesPart.eq_of_alone] at held
    exact Option.some.inj (held.symm.trans holding)
  subst same
  by_contra hidden
  have never := (truthful without).2 fun other inside hides => hidden ⟨other, inside, hides⟩
  rw [never rule listed] at leaves
  cases leaves

/-- A line may fail for want of an exit in a state with a rule that contains one. -/
theorem not_forall_truthful :
    ¬ ∀ (source : String) (grammar : Grammar) (job : Job) (history : List Done) (steps depth : Nat)
      (trace last : Trace) (state : String) (rules : List Rule),
      (Grammar.compileText "toy" source false).result = .ok grammar →
      job.tokenizer.grammar = grammar → Reaches job.tokenizer history job.state →
      outcome (job.unlessLong (tokenizeWithin none steps depth)) trace =
        (.error (.fault ⟨"toy", .noEmbeddedExit state⟩), last) →
      grammar.findRules? state = some rules → ∀ rule ∈ rules, rule.action.mayLeave = false := by
  intro truthful
  obtain ⟨grammar, compiled, lacks⟩ := exists_lacksHiddenExit
  obtain ⟨state, history, trace, last, rules, reaches, stopped, holding, rule, listed, leaves⟩ :=
    of_lacksHiddenExit lacks
  have never := truthful hiddenSource grammar (lineOf grammar "x>" state) history 50 3 trace last
    "main" rules compiled rfl reaches stopped holding rule listed
  rw [leaves] at never
  cases never

end Job

end LineLexer
