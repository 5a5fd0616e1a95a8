import LineLexer.Proofs.Actions
import LineLexer.Proofs.Scanning
import LineLexer.Tokenizer.Scan

/-!
**One step of a scan, taken apart.**

A step takes a match, which is the next pending group or what the rules find. What the action of the
match leads to is either a split into groups or a token, and a token first changes the state of the
scan and then tells something, or nothing if nothing was read.

* `HostLine.take`, `HostLine.step_eq`: a step is a choice of a match and then its action;
* `HostLine.transit`, `HostLine.conclude`, `HostLine.applyToken_eq`: the two parts of a token;
* `Tokenizer.findAt_ok`: what the rules find is read from the text, by an action of the grammar;
* `HostLine.Took`, `HostLine.take_ok`: where a match comes from;
* `HostLine.step_ok`: what a step does that never makes characters be read again.
-/

namespace LineLexer

open Scanning

namespace Next

/-- The position behind a step. -/
def position : Next → Nat
  | goOn scan => scan.position
  | enter _ position _ => position

/-- What follows where a scan stands: a language that starts there, or more of the scan. -/
def ofScan (scan : Scan) : Option String → Next
  | some name => enter name scan.position scan.stack
  | none => goOn scan

@[simp] theorem position_ofScan (scan : Scan) (entering : Option String) :
    (ofScan scan entering).position = scan.position := by
  cases entering <;> rfl

end Next

namespace HostLine

/-! ### The parts of a step -/

/-- The match that a step takes, with the scan where the match starts, unless a split into groups
has left none. -/
def take (host : HostLine) (scan : Scan) : Scanning (Option (Scan × Found)) :=
  match scan.replay with
  | some replay =>
    match replay.members with
    | [] => pure none
    | (action, matched) :: members =>
      let left := if members.isEmpty then none else some { replay with members }
      pure (some ({ scan with replay := left },
        { rule := replay.rule, captures := replay.captures, matched, action }))
  | none =>
    (fun found => some ({ scan with due := false }, found)) <$>
      host.tokenizer.findAt host.text scan.position scan.stack.state

/-- Does what the action of a match says, if there is a match. -/
def applyTaken (host : HostLine) (scan : Scan) : Option (Scan × Found) → Scanning Next
  | none => pure (.goOn { scan with replay := none })
  | some (after, found) => host.apply scan after found

/-- A step is a choice of a match and then its action. -/
theorem step_eq (host : HostLine) (scan : Scan) :
    host.step scan = host.take scan >>= host.applyTaken scan := by
  unfold step take
  cases scan.replay with
  | none => rw [bind_map_left]; rfl
  | some replay =>
    rcases replay with ⟨rule, captures, _ | ⟨⟨action, matched⟩, members⟩⟩ <;> rfl

/-- The match that an action is chosen for. -/
def context (host : HostLine) (before after : Scan) (found : Found) : MatchContext where
  matched := found.matched
  captures := found.captures
  state := before.stack.state
  atLineEnd := after.position + found.matched.size == host.textSize

/-- The changes of the state that come with a token, and the language that starts. -/
def transit (host : HostLine) (after : Scan) (found : Found) (context : MatchContext)
    (action : TokenAction) : Scanning (Scan × Option String) := do
  let (embedded, entering) ←
    settle host.tokenizer (action.changeEmbedded host.settings context after.embedded)
  let position ← cut (host.text.rewind? after.position (action.goBack.getD 0))
  let change ← settle host.tokenizer
    (action.stackChange host.tokenizer context found.rule after.stack)
  let stack ← changeStack host.tokenizer after.stack change
  if let some template := action.log then
    note { language := host.tokenizer.language,
           message := Template.fill host.settings template context }
  pure ({ after with position, stack, embedded }, entering)

/-- Where a scan stands behind a token: a token may ask for the matched text to be read again. -/
def behind (found : Found) (token : String) (changed : Scan) : Scan :=
  if token == TokenAction.rematchToken then
    { changed with position := changed.position - found.matched.size }
  else changed

/-- Tells the token of a step, if anything was read, and ends the step. -/
def conclude (host : HostLine) (before : Scan) (found : Found) (action : TokenAction)
    (token : String) (changed : Scan) (entering : Option String) : Scanning Next :=
  if token == TokenAction.rematchToken || found.matched == [] then
    if entering.isSome || host.progressed before (behind found token changed) then
      pure (.ofScan (behind found token changed) entering)
    else fail host.tokenizer (.noProgress found.rule)
  else do
    let (classification, side) ←
      settle host.tokenizer (action.classify host.tokenizer.grammar token found.matched)
    host.tellToken before.position classification side
    pure (.ofScan (behind found token changed) entering)

/-- The end of a step tells before it looks at where the scan stands. -/
theorem conclude_eq (host : HostLine) (before : Scan) (found : Found) (action : TokenAction)
    (token : String) (changed : Scan) (entering : Option String) :
    host.conclude before found action token changed entering = (do
      let again := token == TokenAction.rematchToken
      let position := if again then changed.position - found.matched.size else changed.position
      let after := { changed with position }
      if again || found.matched == [] then
        unless entering.isSome || host.progressed before after do
          fail host.tokenizer (.noProgress found.rule)
      else
        let (classification, side) ←
          settle host.tokenizer (action.classify host.tokenizer.grammar token found.matched)
        host.tellToken before.position classification side
      match entering with
      | some name => pure (.enter name position changed.stack)
      | none => pure (.goOn after)) := by
  unfold conclude behind
  cases token == TokenAction.rematchToken
  · cases found.matched == []
    · cases entering <;> rfl
    · cases entering
      · cases host.progressed before changed <;> rfl
      · rfl
  · cases entering
    · cases host.progressed before
        { changed with position := changed.position - found.matched.size } <;> rfl
    · rfl

/-- A token changes the state of the scan and then ends the step. -/
theorem applyToken_eq (host : HostLine) (before after : Scan) (found : Found)
    (context : MatchContext) (action : TokenAction) :
    host.applyToken before after found context action =
      host.transit after found context action >>= fun changed =>
        host.conclude before found action (action.text host.settings context) changed.1
          changed.2 := by
  unfold applyToken transit
  simp only [bind_assoc, conclude_eq]
  refine congrArg _ (funext fun embedding => ?_)
  refine congrArg _ (funext fun position => ?_)
  refine congrArg _ (funext fun change => ?_)
  refine congrArg _ (funext fun stack => ?_)
  cases action.log <;> rfl

end HostLine

/-! ### What the rules find -/

/-- The text of a group is a part of the text. -/
theorem Regex.Match.textOf_isInfix (text : Text) (place : Option (Nat × Nat)) :
    Regex.Match.textOf text place <:+: text := by
  rcases place with _ | ⟨start, finish⟩
  · exact List.nil_infix
  · unfold Regex.Match.textOf
    exact (List.take_prefix _ _).isInfix.trans (List.drop_suffix _ _).isInfix

/-- A match is a part of the text. -/
theorem Regex.Match.headD_captures_isInfix (found : Regex.Match) (text : Text) :
    (found.captures text).headD [] <:+: text := by
  unfold Regex.Match.captures
  cases found.groups with
  | nil => exact List.nil_infix
  | cons place places => exact textOf_isInfix text place

/-- A part of a text has no more bytes than the text. -/
theorem Text.size_le_of_isInfix {part text : Text} (inside : part <:+: text) :
    part.size ≤ text.size := by
  obtain ⟨before, after, rfl⟩ := inside
  rw [Text.size_append, Text.size_append]
  omega

/-- What lies behind a position has the bytes that are left. -/
theorem Text.size_of_drop? {text rest : Text} {position : Nat}
    (cut : text.drop? position = some rest) : position + rest.size = text.size := by
  obtain ⟨before, rfl, rfl⟩ := Text.drop?_eq_some_iff.1 cut
  rw [Text.size_append]

namespace Tokenizer

variable {tokenizer : Tokenizer} {trace later : Trace}

theorem quiet_anchored (tokenizer : Tokenizer) (state : String) (rule : Rule) :
    Quiet (tokenizer.anchored state rule) :=
  quiet_bind (quiet_remember _ _) fun _ => quiet_settle _ _

theorem quiet_firstMatch (tokenizer : Tokenizer) (state : String) (atStart : Bool) (rest : Text)
    (rules : List Rule) : Quiet (tokenizer.firstMatch state atStart rest rules) := by
  induction rules with
  | nil => exact quiet_pure none
  | cons rule rules step =>
    unfold firstMatch
    split
    · exact step
    · refine quiet_bind (quiet_anchored tokenizer state rule) fun regex => ?_
      split
      · exact quiet_pure _
      · exact step

/-- The first rule that matches is one of the rules, and it matches a part of the text. -/
theorem firstMatch_ok {state : String} {atStart : Bool} {rest : Text} {rules : List Rule}
    {found : Found}
    (done : outcome (tokenizer.firstMatch state atStart rest rules) trace =
      (.ok (some found), later)) :
    found.matched <:+: rest ∧ ∃ rule ∈ rules, found.action = rule.action := by
  induction rules generalizing trace with
  | nil =>
    unfold firstMatch at done
    rw [outcome_pure] at done
    cases done
  | cons rule rules step =>
    have others : ∀ {trace : Trace}, outcome (tokenizer.firstMatch state atStart rest rules) trace =
        (.ok (some found), later) →
        found.matched <:+: rest ∧ ∃ other ∈ rule :: rules, found.action = other.action := by
      intro trace done
      obtain ⟨inside, other, listed, same⟩ := step done
      exact ⟨inside, other, List.mem_cons_of_mem rule listed, same⟩
    unfold firstMatch at done
    split at done
    · exact others done
    · obtain ⟨regex, middle, -, tried⟩ := outcome_bind_eq_ok.1 done
      split at tried
      · next place fits =>
        rw [outcome_pure] at tried
        cases tried
        exact ⟨place.headD_captures_isInfix rest, rule, List.mem_cons_self, rfl⟩
      · exact others tried

/-- What is found at a position of a text: a part of what lies behind that position, with an action
of the grammar. -/
structure Finds (tokenizer : Tokenizer) (text : Text) (position : Nat) (found : Found) : Prop where
  inside : ∃ rest, text.drop? position = some rest ∧ found.matched <:+: rest
  action : tokenizer.grammar.HasAction found.action

theorem Finds.size_le {text : Text} {position : Nat} {found : Found}
    (finds : tokenizer.Finds text position found) :
    position + found.matched.size ≤ text.size := by
  obtain ⟨rest, cut, inside⟩ := finds.inside
  have bytes := Text.size_of_drop? cut
  have fits := Text.size_le_of_isInfix inside
  omega

theorem quiet_findAt (tokenizer : Tokenizer) (text : Text) (position : Nat) (state : String) :
    Quiet (tokenizer.findAt text position state) := by
  unfold findAt
  split
  · exact quiet_settle _ _
  · refine quiet_bind (quiet_cut _) fun rest => ?_
    exact quiet_bind (quiet_firstMatch _ _ _ _ _) fun _ => quiet_pure _

/-- What matches at a position is read from there. -/
theorem findAt_ok {text : Text} {position : Nat} {state : String} {found : Found}
    (done : outcome (tokenizer.findAt text position state) trace = (.ok found, later)) :
    tokenizer.Finds text position found := by
  unfold findAt at done
  split at done
  · cases done
  · next rules holding =>
    obtain ⟨rest, _, cutDone, searched⟩ := outcome_bind_eq_ok.1 done
    obtain ⟨cut, rfl⟩ := outcome_cut_eq_ok.1 cutDone
    obtain ⟨first, _, matching, chosen⟩ := outcome_bind_eq_ok.1 searched
    rw [outcome_pure] at chosen
    obtain ⟨⟨rfl⟩, rfl⟩ := Prod.mk.inj chosen
    cases first with
    | none => exact ⟨⟨rest, cut, (List.take_prefix 1 rest).isInfix⟩, Or.inl rfl⟩
    | some found =>
      obtain ⟨inside, rule, listed, same⟩ := firstMatch_ok matching
      refine ⟨⟨rest, cut, inside⟩, ?_⟩
      show tokenizer.grammar.HasAction found.action
      rw [same]
      exact Grammar.hasAction_of_findRules? holding listed

end Tokenizer

/-! ### Where a match comes from -/

namespace HostLine

variable {host : HostLine} {scan after : Scan} {found : Found} {trace later : Trace}

/-- How a step comes to its match: from the rules, or as the first of the pending groups. -/
inductive Source (host : HostLine) (scan after : Scan) (found : Found) : Prop where
  | rules (nothingPending : scan.replay = none) (nothingLeft : after.replay = none)
      (finds : host.tokenizer.Finds host.text scan.position found)
  | pending (replay : Replay) (members : List (Action × Text)) (first : scan.replay = some replay)
      (taken : replay.members = (found.action, found.matched) :: members)
      (left : after.replay = if members.isEmpty then none else some { replay with members })

/-- A match that a step has taken. -/
structure Took (host : HostLine) (scan after : Scan) (found : Found) : Prop where
  position : after.position = scan.position
  stack : after.stack = scan.stack
  embedded : after.embedded = scan.embedded
  source : host.Source scan after found

theorem quiet_take (host : HostLine) (scan : Scan) : Quiet (host.take scan) := by
  unfold take
  split
  · split
    · exact quiet_pure _
    · exact quiet_pure _
  · rw [map_eq_pure_bind]
    exact quiet_bind (Tokenizer.quiet_findAt _ _ _ _) fun _ => quiet_pure _

/-- A match comes from the rules or from the pending groups. -/
theorem take_ok (done : outcome (host.take scan) trace = (.ok (some (after, found)), later)) :
    host.Took scan after found := by
  unfold take at done
  split at done
  · next replay first =>
    split at done
    · cases done
    · next action matched members taken =>
      rw [outcome_pure] at done
      cases done
      exact ⟨rfl, rfl, rfl, .pending replay members first taken rfl⟩
  · next nothing =>
    obtain ⟨_, searched, same⟩ := outcome_map_eq_ok.1 done
    cases same
    exact ⟨rfl, rfl, rfl, .rules nothing nothing (Tokenizer.findAt_ok searched)⟩

/-- Without a match there has been a split into no groups. -/
theorem take_none (done : outcome (host.take scan) trace = (.ok none, later)) :
    later = trace ∧ ∃ replay, scan.replay = some replay ∧ replay.members = [] := by
  unfold take at done
  split at done
  · next replay first =>
    split at done
    · next empty =>
      rw [outcome_pure] at done
      cases done
      exact ⟨rfl, replay, first, empty⟩
    · cases done
  · obtain ⟨_, _, same⟩ := outcome_map_eq_ok.1 done
    cases same

/-! ### What an action does -/

theorem quiet_changeStack (tokenizer : Tokenizer) (stack : Stack) (change : StackChange) :
    Quiet (changeStack tokenizer stack change) := by
  cases change with
  | push state => exact quiet_share tokenizer _
  | switchTo state => exact quiet_share tokenizer _
  | keep => exact quiet_pure _
  | pop => exact quiet_pure _
  | toRoot => exact quiet_pure _

theorem quiet_transit (host : HostLine) (after : Scan) (found : Found) (context : MatchContext)
    (action : TokenAction) : Quiet (host.transit after found context action) := by
  unfold transit
  refine quiet_bind (quiet_settle _ _) fun embedding => ?_
  refine quiet_bind (quiet_cut _) fun position => ?_
  refine quiet_bind (quiet_settle _ _) fun change => ?_
  refine quiet_bind (quiet_changeStack _ _ _) fun stack => ?_
  split
  · exact quiet_bind (quiet_note _) fun _ => quiet_pure _
  · exact quiet_pure _

/-- What comes with a token changes the position, the stack and the embedded language, and nothing
else. -/
theorem transit_changes {context : MatchContext} {action : TokenAction} {changed : Scan}
    {entering : Option String}
    (done : outcome (host.transit after found context action) trace =
      (.ok (changed, entering), later)) :
    ∃ position stack embedded,
      host.text.rewind? after.position (action.goBack.getD 0) = some position ∧
        changed = { after with position, stack, embedded } := by
  unfold transit at done
  obtain ⟨embedding, _, -, moving⟩ := outcome_bind_eq_ok.1 done
  obtain ⟨position, _, cutting, changing⟩ := outcome_bind_eq_ok.1 moving
  obtain ⟨change, _, -, stacking⟩ := outcome_bind_eq_ok.1 changing
  obtain ⟨stack, _, -, noting⟩ := outcome_bind_eq_ok.1 stacking
  refine ⟨position, stack, embedding.1, (outcome_cut_eq_ok.1 cutting).1, ?_⟩
  split at noting
  · obtain ⟨_, _, -, ending⟩ := outcome_bind_eq_ok.1 noting
    cases ending
    rfl
  · cases noting
    rfl

/-- The changes that come with a token leave the pending groups alone, and a token that makes no
characters be read again leaves the position alone. -/
theorem transit_ok {context : MatchContext} {action : TokenAction} {changed : Scan}
    {entering : Option String} (forward : action.goBack = none)
    (done : outcome (host.transit after found context action) trace =
      (.ok (changed, entering), later)) :
    changed.position = after.position ∧ changed.replay = after.replay := by
  obtain ⟨position, stack, embedded, rewound, rfl⟩ := transit_changes done
  rw [forward, Option.getD_none, Text.rewind?, if_pos rfl, Option.some.injEq] at rewound
  exact ⟨rewound.symm, rfl⟩

/-- The token that is told for a reading: one if the reading starts inside the line. -/
def told (host : HostLine) (offset : Nat) (classification : String) (side : Option Side) :
    List Event :=
  if offset < host.lineSize then [.token (offset + host.shift) classification side] else []

theorem tellToken_adds {offset : Nat} {classification : String} {side : Option Side}
    {ending : Except Stop Unit}
    (ends : outcome (host.tellToken offset classification side) trace = (ending, later)) :
    ending = .ok () ∧ trace.Adds (host.told offset classification side) later := by
  unfold tellToken at ends
  unfold told
  split at ends
  · next inside =>
    rw [outcome_tell] at ends
    cases ends
    rw [if_pos inside]
    exact ⟨rfl, .tell trace _⟩
  · next outside =>
    rw [outcome_pure] at ends
    cases ends
    rw [if_neg outside]
    exact ⟨rfl, Trace.Adds.refl trace⟩

/-- Whether the pending groups behind a step are given ones, if the scan goes on. -/
def LeavesPending (next : Next) (replay : Option Replay) : Prop :=
  ∀ scan, next = .goOn scan → scan.replay = replay

/-- What a step does with its match and what it tells, where no characters are read again. -/
inductive Applied (host : HostLine) (scan after : Scan) (found : Found) :
    Next → List Event → Prop where
  /-- The groups of the match are to be taken next. -/
  | split {members : List Action} {changed : Scan}
      (leads : found.action.resolve host.settings (host.context scan after found) =
        .ok (.group members))
      (fits : splitGroups scan found members = .ok changed) :
      Applied host scan after found (.goOn changed) []
  /-- Nothing is read. -/
  | stays {next : Next} (stands : next.position = scan.position)
      (left : LeavesPending next after.replay) : Applied host scan after found next []
  /-- The text of the match is read. -/
  | reads {next : Next} {classification : String} {side : Option Side}
      (nonempty : found.matched ≠ [])
      (moves : next.position = scan.position + found.matched.size)
      (left : LeavesPending next after.replay) :
      Applied host scan after found next (host.told scan.position classification side)

/-- The end of a step tells a token and moves behind it, or it tells nothing and does not move. -/
theorem conclude_ok {action : TokenAction} {token : String} {changed : Scan}
    {entering : Option String} {next : Next}
    (moved : changed.position = scan.position + found.matched.size)
    (left : changed.replay = after.replay)
    (done : outcome (host.conclude scan found action token changed entering) trace =
      (.ok next, later)) :
    ∃ events, trace.Adds events later ∧ host.Applied scan after found next events := by
  have kept : LeavesPending (.ofScan (behind found token changed) entering) after.replay := by
    intro scan same
    cases entering with
    | some name => cases same
    | none =>
      cases same
      unfold behind
      split <;> exact left
  unfold conclude at done
  split at done
  · next silent =>
    split at done
    · cases done
      refine ⟨[], Trace.Adds.refl _, .stays ?_ kept⟩
      rw [Next.position_ofScan]
      unfold behind
      split
      · show changed.position - found.matched.size = scan.position
        omega
      · next other =>
        have empty : found.matched = [] := by simpa [other] using silent
        rw [moved, empty]
        rfl
    · rw [outcome_fail] at done
      cases done
  · next audible =>
    rw [Bool.or_eq_true, not_or] at audible
    obtain ⟨other, nonempty⟩ := audible
    obtain ⟨⟨classification, side⟩, _, classifying, telling⟩ := outcome_bind_eq_ok.1 done
    obtain ⟨-, rfl⟩ := outcome_settle_eq_ok.1 classifying
    obtain ⟨_, _, tells, ends⟩ := outcome_bind_eq_ok.1 telling
    obtain ⟨-, adds⟩ := tellToken_adds tells
    cases ends
    refine ⟨_, adds, .reads (by simpa using nonempty) ?_ kept⟩
    rw [Next.position_ofScan]
    unfold behind
    rw [if_neg other, moved]

/-- Where groups are taken next, none were pending, and they make up the match. -/
theorem splitGroups_ok {members : List Action} {changed : Scan}
    (done : splitGroups scan found members = .ok changed) :
    scan.replay = none ∧ found.captures.length = members.length + 1 ∧
      ((found.captures.drop 1).map Text.size).foldr (· + ·) 0 = found.matched.size ∧
      ∃ emptyGroup, changed = { scan with
        replay := some { rule := found.rule, captures := found.captures
                         members := members.zip (found.captures.drop 1) }
        emptyGroup, due := false } := by
  unfold splitGroups at done
  dsimp only at done
  split at done
  · cases done
  · next nothing =>
    split at done
    · cases done
    · next counted =>
      split at done
      · cases done
      · next filled =>
        refine ⟨by simpa using nothing, Decidable.of_not_not counted,
          Decidable.of_not_not filled, ?_⟩
        split at done
        · split at done
          · cases done
          · cases done
            exact ⟨_, rfl⟩
        · cases done
          exact ⟨_, rfl⟩

/-- A token that an action leads to makes no characters be read again if none inside it does. -/
theorem goBack_eq_none {settings : Settings} {context : MatchContext} {action : TokenAction}
    (forward : found.action.goesBack = false)
    (leads : found.action.resolve settings context = .ok (.token action)) :
    action.goBack = none := by
  have staysForward : (Action.Resolved.token action).anyToken
      (fun token => token.goBack.isSome) = false :=
    Action.anyToken_resolve (fun _ => rfl) found.action forward leads
  simpa [Action.Resolved.anyToken] using staysForward

/-- What a match leads to whose action makes no characters be read again. -/
theorem apply_ok {next : Next} (forward : found.action.goesBack = false)
    (start : after.position = scan.position)
    (done : outcome (host.apply scan after found) trace = (.ok next, later)) :
    ∃ events, trace.Adds events later ∧ host.Applied scan after found next events := by
  unfold apply at done
  obtain ⟨resolved, _, resolving, acting⟩ := outcome_bind_eq_ok.1 done
  obtain ⟨resolves, rfl⟩ := outcome_settle_eq_ok.1 resolving
  have leads : found.action.resolve host.settings (host.context scan after found) =
      .ok resolved := mapError_eq_ok.1 resolves
  cases resolved with
  | group members =>
    obtain ⟨changed, splitting, rfl⟩ := outcome_map_eq_ok.1 acting
    obtain ⟨fits, rfl⟩ := outcome_settle_eq_ok.1 splitting
    exact ⟨[], Trace.Adds.refl _, .split leads fits⟩
  | token action =>
    have none := goBack_eq_none forward leads
    dsimp only at acting
    rw [applyToken_eq] at acting
    obtain ⟨⟨changed, entering⟩, _, transits, concludes⟩ := outcome_bind_eq_ok.1 acting
    obtain ⟨position, replay⟩ := transit_ok none transits
    have left : changed.replay = after.replay := replay
    have silent := (quiet_transit _ _ _ _ _).adds transits
    obtain ⟨events, adds, applied⟩ :=
      conclude_ok (by rw [position, start]) left concludes
    exact ⟨events, silent.trans adds, applied⟩

end HostLine

end LineLexer
