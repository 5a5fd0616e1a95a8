import LineLexer.Proofs.Captures
import LineLexer.Proofs.Exit
import LineLexer.Proofs.Stops

/-!
**How many turns a scan takes.**

Where every match reads something and no characters are read again, a step either takes the next of
the pending groups, of which there are finitely many, or leaves less of the text behind. So the scan
of a text takes no more turns than there are groups and characters to be taken.

* `Action.widest`, `Grammar.widestGroup`: the most groups that an action splits a match into;
* `Tokenizer.Matches`, `Tokenizer.Chooses`: what the rules of a grammar may match, and the tokens
  that may come up;
* `Tokenizer.Consuming`: grammars whose matches read something;
* `HostLine.budget`, `budget_step`: what a scan has left to take, of which each step takes some;
* `Job.lt_of_comesTo`, `Job.not_exhausted`: the number of turns of a scan.
-/

namespace LineLexer

open Scanning

/-! ### The most groups of an action -/

namespace Action

mutual

/-- The most members of a group that stands in an action. -/
def widest : Action → Nat
  | .token _ => 0
  | .group members => max members.length (widestOf members)
  | .cases branches _ => widestOfBranches branches

/-- The most members of a group that stands in one of several actions. -/
def widestOf : List Action → Nat
  | [] => 0
  | member :: rest => max member.widest (widestOf rest)

/-- The most members of a group that stands in one of several branches. -/
def widestOfBranches : List (Branch Action) → Nat
  | [] => 0
  | ⟨_, _, target⟩ :: rest => max target.widest (widestOfBranches rest)

end

theorem widest_le_widestOf {member : Action} {members : List Action} (inside : member ∈ members) :
    member.widest ≤ widestOf members := by
  induction members with
  | nil => cases inside
  | cons first rest step =>
    rw [widestOf]
    rcases List.mem_cons.1 inside with rfl | later
    · exact Nat.le_max_left _ _
    · exact Nat.le_trans (step later) (Nat.le_max_right _ _)

variable {settings : Settings} {context : MatchContext}

mutual

/-- No choice leads to a group with more members. -/
theorem length_le_widest :
    ∀ (action : Action) {members : List Action},
      action.resolve settings context = .ok (.group members) → members.length ≤ action.widest
  | .token action, members, leads => by
    rw [resolve] at leads
    cases leads
  | .group inner, members, leads => by
    rw [resolve] at leads
    cases leads
    rw [widest]
    exact Nat.le_max_left _ _
  | .cases branches fallback, members, leads => by
    rw [widest]
    exact length_le_widestOfBranches branches leads

theorem length_le_widestOfBranches :
    ∀ (branches : List (Branch Action)) {fallback : String} {members : List Action},
      resolveBranches settings context fallback branches = .ok (.group members) →
        members.length ≤ widestOfBranches branches
  | [], fallback, members, leads => by
    rw [resolveBranches] at leads
    cases leads
  | ⟨_, guard, target⟩ :: rest, fallback, members, leads => by
    rw [widestOfBranches]
    rw [resolveBranches] at leads
    split at leads
    · cases leads
    · exact Nat.le_trans (length_le_widest target leads) (Nat.le_max_left _ _)
    · exact Nat.le_trans (length_le_widestOfBranches rest leads) (Nat.le_max_right _ _)

end

end Action

/-- The most members of a group action of a grammar. -/
def Grammar.widestGroup (grammar : Grammar) : Nat :=
  Action.widestOf ((grammar.states.flatMap Prod.snd).map Rule.action)

/-- No rule has an action with more members. -/
theorem Grammar.widest_le {grammar : Grammar} {state : String} {rules : List Rule} {rule : Rule}
    (holds : grammar.findRules? state = some rules) (listed : rule ∈ rules) :
    rule.action.widest ≤ grammar.widestGroup := by
  obtain ⟨name, declared⟩ := Grammar.mem_states holds
  have inside : rule ∈ grammar.states.flatMap Prod.snd := List.mem_flatMap.2 ⟨_, declared, listed⟩
  exact Action.widest_le_widestOf (List.mem_map_of_mem inside)

/-! ### Grammars whose matches read something -/

namespace Tokenizer

/-- A rule that holds in a state may match a text, with these captures. -/
inductive Matches (tokenizer : Tokenizer) (state : String) (rule : Rule) (rest : Text) :
    List Text → Prop where
  | fits {rules : List Rule} {regex : Regex} {place : Regex.Match}
      (holds : tokenizer.grammar.findRules? state = some rules) (listed : rule ∈ rules)
      (own : tokenizer.IsFresh state rule regex) (fits : regex.find? rest = some place) :
      Matches tokenizer state rule rest (place.captures rest)

theorem Matches.hasAction {tokenizer : Tokenizer} {state : String} {rule : Rule} {rest : Text}
    {captures : List Text} (fits : tokenizer.Matches state rule rest captures) :
    tokenizer.grammar.HasAction rule.action := by
  cases fits with
  | fits holds listed own fits => exact Grammar.hasAction_of_findRules? holds listed

/-- No rule that may match has an action with more members than the widest one. -/
theorem Matches.widest_le {tokenizer : Tokenizer} {state : String} {rule : Rule} {rest : Text}
    {captures : List Text} (fits : tokenizer.Matches state rule rest captures) :
    rule.action.widest ≤ tokenizer.grammar.widestGroup := by
  cases fits with
  | fits holds listed own fits => exact Grammar.widest_le holds listed

/-- A rule that may match in a state splits its match into groups, by their actions. -/
structure MaySplit (tokenizer : Tokenizer) (state : String) (rule : Rule) (rest : Text)
    (captures : List Text) (members : List Action) : Prop where
  fits : tokenizer.Matches state rule rest captures
  leads : ∃ atLineEnd, rule.action.resolve tokenizer.grammar.settings
    ⟨captures.headD [], captures, state, atLineEnd⟩ = .ok (.group members)

/-- The token actions that may come up, each with the match for which it does: what the action of a
rule leads to, or that of a group, and what is done with a character that no rule matches. -/
inductive Chooses (tokenizer : Tokenizer) : MatchContext → TokenAction → Prop where
  | rule {state : String} {rule : Rule} {rest : Text} {captures : List Text} {atLineEnd : Bool}
      {action : TokenAction} (fits : tokenizer.Matches state rule rest captures)
      (leads : rule.action.resolve tokenizer.grammar.settings
        ⟨captures.headD [], captures, state, atLineEnd⟩ = .ok (.token action)) :
      Chooses tokenizer ⟨captures.headD [], captures, state, atLineEnd⟩ action
  | member {state later : String} {rule : Rule} {rest : Text} {captures : List Text}
      {members : List Action} {group : Action × Text} {atLineEnd : Bool} {action : TokenAction}
      (splits : tokenizer.MaySplit state rule rest captures members)
      (inside : group ∈ members.zip (captures.drop 1))
      (leads : group.1.resolve tokenizer.grammar.settings
        ⟨group.2, captures, later, atLineEnd⟩ = .ok (.token action)) :
      Chooses tokenizer ⟨group.2, captures, later, atLineEnd⟩ action
  | default (context : MatchContext) :
      Chooses tokenizer context { token := tokenizer.grammar.defaultToken }

/-- A language may start with an empty group of a match. -/
inductive StartsEmpty (tokenizer : Tokenizer) : Prop where
  | member {state later : String} {rule : Rule} {rest : Text} {captures : List Text}
      {members : List Action} {action : Action} {atLineEnd : Bool} {token : TokenAction}
      {template : String} (splits : tokenizer.MaySplit state rule rest captures members)
      (inside : (action, []) ∈ members.zip (captures.drop 1))
      (leads : action.resolve tokenizer.grammar.settings ⟨[], captures, later, atLineEnd⟩ =
        .ok (.token token))
      (starts : token.embedding = some (.enter template)) : StartsEmpty tokenizer

/-- A grammar whose matches read something: no rule matches the empty text, matches are where the
text starts, no action goes back, and no token asks for the matched text to be read again. -/
structure Consuming (tokenizer : Tokenizer) : Prop where
  nonempty : ∀ {state rule rest captures}, tokenizer.Matches state rule rest captures →
    captures.headD [] ≠ []
  leading : ∀ {state rule rest captures}, tokenizer.Matches state rule rest captures →
    captures.headD [] <+: rest
  forward : tokenizer.grammar.anyAction Action.goesBack = false
  reads : ∀ {context action}, tokenizer.Chooses context action →
    action.text tokenizer.grammar.settings context ≠ TokenAction.rematchToken

/-- The groups that are left of a match that has been split. -/
structure Pends (tokenizer : Tokenizer) (replay : Replay) : Prop where
  splits : ∃ state rule rest members,
    tokenizer.MaySplit state rule rest replay.captures members ∧
      replay.members <:+ members.zip (replay.captures.drop 1)
  nonempty : replay.members ≠ []

end Tokenizer

namespace HostLine

variable {host : HostLine} {scan after changed next reached start : Scan} {found : Found}
  {action : TokenAction} {trace middle later : Trace} {tokenizers : Set Tokenizer}
  {members : List Action} {turns steps : Nat} {name : String} {stack : Stack}

/-- The invariant of a scan: groups that are pending fit into what is left of the text and are of
one match, and no step is due at the end of the text behind the first one. -/
structure Steady (host : HostLine) (scan : Scan) : Prop where
  within : host.Within scan
  pends : ∀ replay, scan.replay = some replay → host.tokenizer.Pends replay
  settled : scan.replay ≠ none → scan.due = false
  starts : scan.due = true → scan.position = 0

theorem steady_start (job : Job) : job.host.Steady job.start where
  within := Nat.zero_le _
  pends _ pending := by cases pending
  settled pending := absurd rfl pending
  starts _ := rfl

/-- Unless the text is empty, a turn is inside it. -/
theorem Steady.inside (steady : host.Steady scan) (nonempty : 0 < host.textSize)
    (due : host.isDue scan = true) : scan.position < host.textSize := by
  unfold isDue at due
  rw [Bool.or_eq_true] at due
  rcases due with first | inside
  · rw [steady.starts first]
    exact nonempty
  · exact of_decide_eq_true inside

/-- What a step takes that finds no group pending: what a rule matches, or a character that none
does. -/
inductive Finds (host : HostLine) (scan : Scan) (found : Found) : Prop where
  | rule {rule : Rule} {rest : Text}
      (fits : host.tokenizer.Matches scan.stack.state rule rest found.captures)
      (matched : found.matched = found.captures.headD []) (action : found.action = rule.action)
  | character {rest : Text} (behind : host.text.drop? scan.position = some rest)
      (same : found = host.tokenizer.fallback rest)

theorem finds_of_take (injective : tokenizers.InjOn Tokenizer.identity)
    (known : host.tokenizer ∈ tokenizers) (sound : trace.memories.Sound tokenizers)
    (unpended : scan.replay = none)
    (takes : outcome (host.take scan) trace = (.ok (some (after, found)), later)) :
    host.Finds scan found := by
  obtain ⟨-, searched⟩ := take_rules unpended takes
  obtain ⟨rules, rest, picked, holds, behind, picks, rfl⟩ := Tokenizer.picks_of_findAt
    (fun sound anchors => Tokenizer.fresh_of_anchored injective known sound anchors) sound searched
  cases picked with
  | none => exact .character behind rfl
  | some found =>
    obtain ⟨rule, listed, regex, place, own, fits, rfl⟩ := picks.exists_rule
    exact .rule (.fits holds listed own fits) rfl rfl

/-- What is found inside a text is not empty. -/
theorem Finds.nonempty (consuming : host.tokenizer.Consuming)
    (inside : scan.position < host.textSize) (finds : host.Finds scan found) :
    found.matched ≠ [] := by
  cases finds with
  | rule fits matched action =>
    rw [matched]
    exact consuming.nonempty fits
  | @character rest behind same =>
    rw [same]
    have bytes := Text.size_of_drop? behind
    cases rest with
    | nil =>
      rw [host.textSize_eq] at inside
      rw [Text.size_nil] at bytes
      omega
    | cons letter rest => exact List.cons_ne_nil letter _

/-- A step looks at its match where the scan stands. -/
theorem Took.context (took : host.Took scan after found) :
    host.context scan after found = host.context scan scan found := by
  unfold HostLine.context
  rw [took.position]

/-- While groups are pending a step takes one of the groups of a match that a rule may split. -/
theorem Acts.member (steady : host.Steady scan) {replay : Replay}
    (first : scan.replay = some replay) {next : Next}
    (acts : host.Acts scan trace found action next later) :
    ∃ state rule rest members,
      host.tokenizer.MaySplit state rule rest found.captures members ∧
        (found.action, found.matched) ∈ members.zip (found.captures.drop 1) ∧
        found.action.resolve host.settings (host.context scan scan found) =
          .ok (.token action) := by
  obtain ⟨takes, leads, -, -⟩ := acts
  rw [(take_ok takes).context] at leads
  obtain ⟨⟨state, rule, rest, members, splits, last⟩, nonempty⟩ := steady.pends replay first
  obtain ⟨group, groups, pends⟩ := List.exists_cons_of_ne_nil nonempty
  rw [take_pending first pends] at takes
  cases takes
  exact ⟨state, rule, rest, members, splits, last.subset (by rw [pends]; exact List.mem_cons_self),
    leads⟩

/-- The token actions that a step does are among those that may come up, and they do not go back. -/
theorem Acts.chooses (injective : tokenizers.InjOn Tokenizer.identity)
    (known : host.tokenizer ∈ tokenizers) (sound : trace.memories.Sound tokenizers)
    (consuming : host.tokenizer.Consuming) (steady : host.Steady scan) {next : Next}
    (acts : host.Acts scan trace found action next later) :
    host.tokenizer.Chooses (host.context scan scan found) action ∧ action.goBack = none := by
  cases pending : scan.replay with
  | none =>
    obtain ⟨takes, leads, -, -⟩ := acts
    have took := take_ok takes
    rw [took.context] at leads
    cases took.source with
    | pending replay members first pends left =>
      rw [pending] at first
      cases first
    | rules unpended nothingLeft finds =>
      have forward : found.action.goesBack = false :=
        Grammar.eq_false_of_anyAction consuming.forward rfl finds.action
      refine ⟨?_, goBack_eq_none forward leads⟩
      cases finds_of_take injective known sound unpended takes with
      | rule fits matched chosen =>
        unfold context at leads ⊢
        rw [matched] at leads ⊢
        rw [chosen] at leads
        exact .rule fits leads
      | character behind same =>
        subst same
        cases leads
        exact .default _
  | some replay =>
    obtain ⟨state, rule, rest, members, splits, inside, leads⟩ := acts.member steady pending
    refine ⟨.member splits inside leads, goBack_eq_none ?_ leads⟩
    obtain ⟨atLineEnd, resolves⟩ := splits.leads
    have forward : rule.action.goesBack = false :=
      Grammar.eq_false_of_anyAction consuming.forward rfl splits.fits.hasAction
    exact Action.anyToken_of_mem (Action.anyToken_resolve (fun _ => rfl) rule.action forward
      resolves) (List.of_mem_zip inside).1

/-- Behind a step that acts the scan stands behind the text of the match. -/
theorem Acts.moves (injective : tokenizers.InjOn Tokenizer.identity)
    (known : host.tokenizer ∈ tokenizers) (sound : trace.memories.Sound tokenizers)
    (consuming : host.tokenizer.Consuming) (steady : host.Steady scan) {next : Next}
    (acts : host.Acts scan trace found action next later) :
    next.position = scan.position + found.matched.size := by
  obtain ⟨chooses, forward⟩ := acts.chooses injective known sound consuming steady
  obtain @⟨after, changed, entering, taken, noted, takes, leads, transits, concludes⟩ := acts
  have took := take_ok takes
  have rewinds := transits.rewinds
  rw [forward, Option.getD_none, Text.rewind?, if_pos rfl, Option.some.injEq] at rewinds
  have read : action.text host.settings (host.context scan scan found) ≠
    TokenAction.rematchToken := consuming.reads chooses
  rw [conclude_leads concludes, Next.position_ofScan, position_behind, took.context,
    if_neg fun again => read (eq_of_beq again), ← rewinds, ← took.position]

/-- A step behind which a language starts does what a token action says that starts one. -/
theorem Acts.enters {position : Nat}
    (acts : host.Acts scan trace found action (.enter name position stack) later) :
    ∃ template, action.embedding = some (.enter template) := by
  obtain @⟨after, changed, entering, taken, noted, takes, leads, transits, concludes⟩ := acts
  have ends := conclude_leads concludes
  cases entering with
  | none => cases ends
  | some name =>
    have embeds := transits.embeds
    unfold TokenAction.changeEmbedded at embeds
    split at embeds
    · rw [Except.ok.injEq, Prod.mk.injEq] at embeds
      cases embeds.2
    · split at embeds
      · cases embeds
      · rw [Except.ok.injEq, Prod.mk.injEq] at embeds
        cases embeds.2
    · next template starts => exact ⟨template, starts⟩

/-- What a scan has left to take: the pending groups, and for each byte behind them one step and as
many as a match has groups at most. -/
def budget (host : HostLine) (scan : Scan) : Nat :=
  scan.pending + (host.tokenizer.grammar.widestGroup + 1) *
    (host.textSize - scan.position - sizeOf (Replay.pending scan.replay))

theorem pending_eq (scan : Scan) : scan.pending = (Replay.pending scan.replay).length := by
  unfold Scan.pending Replay.pending
  cases scan.replay <;> rfl

/-- Where bytes have been read and at most as many groups are pending as a match has, less is left
to take. -/
theorem budget_lt {groups widest left rest : Nat} (few : groups ≤ widest) (less : rest < left) :
    groups + (widest + 1) * rest < (widest + 1) * left := by
  calc groups + (widest + 1) * rest < (widest + 1) + (widest + 1) * rest := by omega
    _ = (widest + 1) * (rest + 1) := by rw [Nat.mul_succ, Nat.add_comm]
    _ ≤ (widest + 1) * left := Nat.mul_le_mul_left _ less

/-- A match that is split is one of a rule that may split it so. -/
theorem Splits.maySplit (injective : tokenizers.InjOn Tokenizer.identity)
    (known : host.tokenizer ∈ tokenizers) (sound : trace.memories.Sound tokenizers)
    (splits : host.Splits scan trace found members next later) :
    found.matched = found.captures.headD [] ∧ members.length ≤ host.tokenizer.grammar.widestGroup ∧
      ∃ rule rest, host.tokenizer.MaySplit scan.stack.state rule rest found.captures members := by
  obtain ⟨takes, leads, fits⟩ := splits
  have unpended := (splitGroups_ok fits).1
  cases finds_of_take injective known sound unpended takes with
  | @rule rule rest fits matched chosen =>
    unfold context at leads
    rw [matched, chosen] at leads
    refine ⟨matched, ?_, rule, rest, fits, _, leads⟩
    exact Nat.le_trans (Action.length_le_widest rule.action leads) fits.widest_le
  | character behind same =>
    subst same
    cases leads

/-- A step that goes on keeps a scan steady if the groups that are pending then are of one match. -/
theorem Steady.behind (steady : host.Steady scan)
    (leads : outcome (host.step scan) trace = (.ok (.goOn next), later))
    (pends : ∀ replay, next.replay = some replay → host.tokenizer.Pends replay) :
    host.Steady next where
  within := within_step steady.within leads
  pends := pends
  settled _ := due_step steady.settled leads
  starts due := by
    rw [due_step steady.settled leads] at due
    cases due

/-- A match that is split is not empty inside a text, and less is left to take. -/
theorem Splits.steady (injective : tokenizers.InjOn Tokenizer.identity)
    (known : host.tokenizer ∈ tokenizers) (sound : trace.memories.Sound tokenizers)
    (consuming : host.tokenizer.Consuming) (steady : host.Steady scan)
    (splits : host.Splits scan trace found members next later) :
    host.Steady next ∧ host.budget next < host.budget scan := by
  obtain ⟨whole, few, rule, rest, may⟩ := splits.maySplit injective known sound
  obtain ⟨stands, pends⟩ := splits.leaves
  obtain ⟨counted, filled⟩ := splits.sizes_eq
  have unpended : scan.replay = none := by
    obtain ⟨-, -, fits⟩ := splits
    exact (splitGroups_ok fits).1
  have within := within_step steady.within splits.goesOn
  have nonempty : 0 < found.matched.size := by
    rw [whole]
    exact Nat.pos_of_ne_zero fun none => consuming.nonempty may.fits (Text.size_eq_zero_iff.1 none)
  have bytes : sizeOf (members.zip (found.captures.drop 1)) = found.matched.size := by
    rw [sizeOf_zip counted.symm]
    exact filled
  have listed : members.zip (found.captures.drop 1) ≠ [] := by
    intro none
    rw [none, sizeOf_nil] at bytes
    omega
  constructor
  · refine steady.behind splits.goesOn fun replay pending => ?_
    rw [pends] at pending
    cases pending
    exact ⟨⟨_, rule, rest, members, may, List.suffix_rfl⟩, listed⟩
  · unfold Within at within
    rw [pends, Replay.pending] at within
    have room : next.position + found.matched.size ≤ host.textSize := by
      rw [← bytes]
      exact within
    unfold budget
    rw [pending_eq, pending_eq, pends, unpended, Replay.pending, Replay.pending, List.length_nil,
      sizeOf_nil, Nat.zero_add, stands]
    show (members.zip (found.captures.drop 1)).length + _ * (_ - sizeOf (members.zip _)) < _
    rw [bytes]
    refine budget_lt ?_ (by omega)
    rw [List.length_zip]
    exact Nat.le_trans (Nat.min_le_left _ _) few

/-- Behind a step that finds no group pending and gives a token no group is pending. -/
theorem Acts.unpended (unpended : scan.replay = none)
    (acts : host.Acts scan trace found action (.goOn next) later) : next.replay = none := by
  obtain @⟨after, changed, entering, taken, noted, takes, leads, transits, concludes⟩ := acts
  obtain ⟨rfl, -⟩ := take_rules unpended takes
  have ends := conclude_leads concludes
  cases entering with
  | some name => cases ends
  | none =>
    cases ends
    rw [replay_behind, transits.replay]
    exact unpended

/-- Behind a step that finds no group pending and gives a token less is left to take. -/
theorem Acts.steady_of_unpended (injective : tokenizers.InjOn Tokenizer.identity)
    (known : host.tokenizer ∈ tokenizers) (sound : trace.memories.Sound tokenizers)
    (consuming : host.tokenizer.Consuming) (steady : host.Steady scan)
    (inside : scan.position < host.textSize) (unpended : scan.replay = none)
    (leads : outcome (host.step scan) trace = (.ok (.goOn next), later))
    (acts : host.Acts scan trace found action (.goOn next) later) :
    host.Steady next ∧ host.budget next < host.budget scan := by
  have finds : host.Finds scan found := by
    obtain ⟨takes, -, -, -⟩ := acts
    exact finds_of_take injective known sound unpended takes
  have nonempty : 0 < found.matched.size := Nat.pos_of_ne_zero fun none =>
    finds.nonempty consuming inside (Text.size_eq_zero_iff.1 none)
  have moves : next.position = scan.position + found.matched.size :=
    acts.moves injective known sound consuming steady
  have left := acts.unpended unpended
  have within := within_step steady.within leads
  unfold Within at within
  rw [left, Replay.pending, sizeOf_nil] at within
  constructor
  · refine steady.behind leads fun replay pending => ?_
    rw [left] at pending
    cases pending
  · unfold budget
    rw [pending_eq, pending_eq, left, unpended, Replay.pending, List.length_nil, sizeOf_nil,
      Nat.zero_add, Nat.zero_add]
    exact Nat.mul_lt_mul_of_pos_left
      (show host.textSize - next.position - 0 < host.textSize - scan.position - 0 by omega)
      (Nat.succ_pos _)

/-- Behind a step that takes a pending group one group less is left to take. -/
theorem Acts.steady_of_pending (injective : tokenizers.InjOn Tokenizer.identity)
    (known : host.tokenizer ∈ tokenizers) (sound : trace.memories.Sound tokenizers)
    (consuming : host.tokenizer.Consuming) (steady : host.Steady scan) {replay : Replay}
    (pending : scan.replay = some replay)
    (leads : outcome (host.step scan) trace = (.ok (.goOn next), later))
    (acts : host.Acts scan trace found action (.goOn next) later) :
    host.Steady next ∧ host.budget next < host.budget scan := by
  have moves : next.position = scan.position + found.matched.size :=
    acts.moves injective known sound consuming steady
  obtain ⟨⟨state, rule, rest, all, splits, last⟩, nonempty⟩ := steady.pends replay pending
  obtain ⟨group, groups, pends⟩ := List.exists_cons_of_ne_nil nonempty
  obtain ⟨_, _, -, left, -⟩ := performs_of_pending pending pends leads
  have taken : found.matched = group.2 := by
    obtain ⟨takes, -, -, -⟩ := acts
    rw [take_pending pending pends] at takes
    cases takes
    rfl
  have rest : Replay.pending next.replay = groups := by
    rw [left]
    cases groups <;> rfl
  have within := within_step steady.within leads
  unfold Within at within
  rw [rest, moves, taken] at within
  constructor
  · refine steady.behind leads fun other first => ?_
    rw [left] at first
    split at first
    · cases first
    · next some =>
      cases first
      refine ⟨⟨state, rule, _, all, splits, ?_⟩, by simpa using some⟩
      refine List.IsSuffix.trans ?_ last
      rw [pends]
      exact List.suffix_cons group groups
  · unfold budget
    rw [pending_eq, pending_eq, rest, pending, Replay.pending, pends, sizeOf_cons,
      List.length_cons, moves, taken]
    have same : host.textSize - (scan.position + group.2.size) - sizeOf groups =
      host.textSize - scan.position - (group.2.size + sizeOf groups) := by omega
    rw [same]
    omega

/-- A step inside the text leaves less to take. -/
theorem budget_step (injective : tokenizers.InjOn Tokenizer.identity)
    (known : host.tokenizer ∈ tokenizers) (sound : trace.memories.Sound tokenizers)
    (consuming : host.tokenizer.Consuming) (steady : host.Steady scan)
    (inside : scan.position < host.textSize)
    (leads : outcome (host.step scan) trace = (.ok (.goOn next), later)) :
    host.Steady next ∧ host.budget next < host.budget scan := by
  cases step_cases leads with
  | empty first none same silent => exact absurd none (steady.pends _ first).nonempty
  | splits splits same =>
    cases same
    exact splits.steady injective known sound consuming steady
  | acts acts =>
    cases pending : scan.replay with
    | none =>
      exact acts.steady_of_unpended injective known sound consuming steady inside pending leads
    | some replay =>
      exact acts.steady_of_pending injective known sound consuming steady pending leads

/-- A scan of a text that is not empty comes to no more turns than there is to take. -/
theorem budget_turn? (injective : tokenizers.InjOn Tokenizer.identity)
    (known : host.tokenizer ∈ tokenizers) (sound : trace.memories.Sound tokenizers)
    (consuming : host.tokenizer.Consuming) (steady : host.Steady scan)
    (nonempty : 0 < host.textSize)
    (comes : host.turn? turns scan trace = some (reached, later)) :
    host.Steady reached ∧ turns + host.budget reached ≤ host.budget scan := by
  induction turns generalizing scan trace with
  | zero =>
    obtain ⟨-, rfl, rfl⟩ := eq_of_turn?_zero comes
    exact ⟨steady, Nat.le_of_eq (Nat.zero_add _)⟩
  | succ turns step =>
    obtain ⟨due, next, middle, leads, rest⟩ := exists_of_turn?_succ comes
    have self : Agree tokenizers True True (Next.Alike True) (host.step scan) (host.step scan) :=
      agree_step injective known (.refl scan)
    obtain ⟨still, less⟩ := budget_step injective known sound consuming steady
      (steady.inside nonempty due) leads
    obtain ⟨stands, more⟩ := step (self.sound sound leads) still rest
    exact ⟨stands, by omega⟩

/-- Where a language starts before anything has been read, it does with an empty group. -/
theorem startsEmpty_of_enter (injective : tokenizers.InjOn Tokenizer.identity)
    (known : host.tokenizer ∈ tokenizers) (sound : trace.memories.Sound tokenizers)
    (consuming : host.tokenizer.Consuming) (steady : host.Steady scan)
    (inside : scan.position < host.textSize)
    (enters : outcome (host.step scan) trace = (.ok (.enter name 0 stack), later)) :
    host.tokenizer.StartsEmpty := by
  cases step_cases enters with
  | empty first none same silent => cases same
  | splits splits same => cases same
  | @acts found action acts =>
    obtain ⟨template, starts⟩ := acts.enters
    have moves : 0 = scan.position + found.matched.size :=
      acts.moves injective known sound consuming steady
    have nothing : found.matched = [] := Text.size_eq_zero_iff.1 (by omega)
    cases pending : scan.replay with
    | none =>
      obtain ⟨takes, -, -, -⟩ := acts
      have finds := finds_of_take injective known sound pending takes
      exact absurd nothing (finds.nonempty consuming inside)
    | some replay =>
      obtain ⟨state, rule, rest, members, splits, group, leads⟩ := acts.member steady pending
      unfold context at leads
      rw [nothing] at group leads
      exact .member splits group leads starts

/-- A run that has not enough steps has come to a turn for each of them. -/
theorem exists_turn?_of_exhausted
    (exhausted : outcome (host.run (steps + 1) scan) trace = (.error .exhausted, later)) :
    ∃ reached middle, host.turn? steps scan trace = some (reached, middle) := by
  induction steps generalizing scan trace with
  | zero =>
    rw [outcome_run_succ] at exhausted
    split at exhausted
    · next due => exact ⟨scan, trace, turn?_zero due⟩
    · cases exhausted
  | succ steps step =>
    rw [outcome_run_succ] at exhausted
    split at exhausted
    · next due =>
      split at exhausted
      · next next middle leads =>
        obtain ⟨reached, before, comes⟩ := step exhausted
        exact ⟨reached, before, (turn?_succ due leads).trans comes⟩
      · cases exhausted
      · next stop middle stops =>
        cases exhausted
        exact absurd stops (never_step id (by decide) host scan _ _)
    · cases exhausted

end HostLine

/-! ### The scan of a line -/

namespace Job

open HostLine

variable {tokenizers : Set Tokenizer} {job : Job} {trace later : Trace} {turns steps : Nat}
  {reached : Scan}

/-- A scan of a text comes to no more turns than the groups of a match and one more for each byte,
and one. -/
theorem lt_of_comesTo (injective : tokenizers.InjOn Tokenizer.identity)
    (known : job.tokenizer ∈ tokenizers) (sound : trace.memories.Sound tokenizers)
    (consuming : job.tokenizer.Consuming) (comes : job.host.ComesTo job.start trace turns reached) :
    turns < (job.tokenizer.grammar.widestGroup + 1) * job.host.textSize + 1 := by
  obtain ⟨later, comes⟩ := comes
  rcases Nat.eq_zero_or_pos job.host.textSize with empty | nonempty
  · cases turns with
    | zero => exact Nat.succ_pos _
    | succ turns =>
      -- Behind the first step no step is due where there is no text.
      obtain ⟨-, next, middle, leads, rest⟩ := exists_of_turn?_succ comes
      have idle := due_step (steady_start job).settled leads
      have due := isDue_start_of_turn? rest
      unfold isDue at due
      rw [idle, empty] at due
      cases due
  · obtain ⟨-, spent⟩ := budget_turn? injective known sound consuming (steady_start job) nonempty
      comes
    have whole : job.host.budget job.start =
        (job.tokenizer.grammar.widestGroup + 1) * job.host.textSize := Nat.zero_add _
    omega

/-- With more steps than that a scan is not stopped for want of steps. -/
theorem not_exhausted (injective : tokenizers.InjOn Tokenizer.identity)
    (known : job.tokenizer ∈ tokenizers) (sound : trace.memories.Sound tokenizers)
    (consuming : job.tokenizer.Consuming)
    (enough : (job.tokenizer.grammar.widestGroup + 1) * job.host.textSize + 1 < steps) :
    outcome (job.scanOwn steps) trace ≠ (.error .exhausted, later) := by
  rw [outcome_scanOwn]
  intro exhausted
  cases steps with
  | zero => cases enough
  | succ steps =>
    obtain ⟨reached, middle, comes⟩ := exists_turn?_of_exhausted exhausted
    have few := lt_of_comesTo injective known
      (show (job.opened trace).memories.Sound tokenizers from sound) consuming ⟨middle, comes⟩
    omega

end Job

end LineLexer
