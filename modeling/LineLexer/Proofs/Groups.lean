import LineLexer.Proofs.Revisit

/-!
**The groups of a match, taken one by one.**

Behind a match that has been split, the scan takes a group at each step, in order, for as long as it
stands inside the text. A group that takes nothing does not keep the scan from ending, so the last
groups of a match are lost if they are empty and the text has been read by then.

* `HostLine.Acts`, `HostLine.step_cases`: all that a step can do;
* `HostLine.Within`, `within_step`: the pending groups fit into what is left of the text;
* `HostLine.Performs`, `performs_of_pending`: a step does what the action of a pending group says;
* `HostLine.Replays`, `exists_replays`: what a run that comes to the end of the line has taken;
* `Job.replays_groups`: the groups of each match that is split are taken in order, up to the end of
  the text.
-/

namespace LineLexer

open Scanning

/-! ### What a step can do -/

/-- What is left behind with a note, if there is one. -/
def Trace.noted (trace : Trace) : Option Note → Trace
  | none => trace
  | some entry => { trace with notes := trace.notes.push entry }

/-- Moving back never moves on. -/
theorem Text.rewind?_le {text : Text} {position count before : Nat}
    (rewinds : text.rewind? position count = some before) : before ≤ position := by
  unfold Text.rewind? at rewinds
  split at rewinds
  · cases rewinds
    exact Nat.le_refl _
  · obtain ⟨part, cut, rfl⟩ := Option.map_eq_some_iff.1 rewinds
    obtain ⟨rfl, -⟩ := Text.take?_eq_some_iff.1 cut
    exact Text.size_le_of_isInfix (List.take_prefix _ part).isInfix

/-- A text that stands beside an action has no more bytes than all of them. -/
theorem size_le_sizeOf {members : List (Action × Text)} {member : Action × Text}
    (inside : member ∈ members) : member.2.size ≤ sizeOf members := by
  induction members with
  | nil => cases inside
  | cons first rest step =>
    rw [sizeOf_cons]
    rcases List.mem_cons.1 inside with rfl | later
    · exact Nat.le_add_right _ _
    · exact Nat.le_trans (step later) (Nat.le_add_left _ _)

namespace HostLine

variable {host : HostLine} {scan after changed next reached start : Scan} {found : Found}
  {action : TokenAction} {context : MatchContext} {entering : Option String}
  {trace middle later : Trace}

/-- The note that a token action leaves for a match. -/
def entry? (host : HostLine) (context : MatchContext) (action : TokenAction) : Option Note :=
  action.log.map fun template =>
    { language := host.tokenizer.language
      message := Template.fill host.settings template context }

/-- What comes with a token: the changes of the embedded language, the position and the stack, and
the note. -/
structure Transits (host : HostLine) (after : Scan) (found : Found) (context : MatchContext)
    (action : TokenAction) (trace : Trace) (changed : Scan) (entering : Option String)
    (later : Trace) : Prop where
  embeds : action.changeEmbedded host.settings context after.embedded =
    .ok (changed.embedded, entering)
  rewinds : host.text.rewind? after.position (action.goBack.getD 0) = some changed.position
  restacks : ∃ change shared,
    action.stackChange host.tokenizer context found.rule after.stack = .ok change ∧
      outcome (changeStack host.tokenizer after.stack change) trace = (.ok changed.stack, shared) ∧
      later = shared.noted (host.entry? context action)
  replay : changed.replay = after.replay
  due : changed.due = after.due

theorem transits_of_transit
    (done : outcome (host.transit after found context action) trace =
      (.ok (changed, entering), later)) :
    host.Transits after found context action trace changed entering later := by
  unfold transit at done
  obtain ⟨⟨embedded, starting⟩, _, embedding, moving⟩ := outcome_bind_eq_ok.1 done
  obtain ⟨embeds, rfl⟩ := outcome_settle_eq_ok.1 embedding
  obtain ⟨position, _, cutting, changing⟩ := outcome_bind_eq_ok.1 moving
  obtain ⟨rewinds, rfl⟩ := outcome_cut_eq_ok.1 cutting
  obtain ⟨change, _, settling, stacking⟩ := outcome_bind_eq_ok.1 changing
  obtain ⟨leads, rfl⟩ := outcome_settle_eq_ok.1 settling
  obtain ⟨stack, shared, shares, noting⟩ := outcome_bind_eq_ok.1 stacking
  cases logged : action.log with
  | none =>
    rw [logged] at noting
    cases noting
    refine ⟨embeds, rewinds, ⟨change, _, leads, shares, ?_⟩, rfl, rfl⟩
    unfold entry?
    rw [logged]
    rfl
  | some template =>
    rw [logged] at noting
    obtain ⟨_, _, notes, ending⟩ := outcome_bind_eq_ok.1 noting
    cases notes
    cases ending
    refine ⟨embeds, rewinds, ⟨change, _, leads, shares, ?_⟩, rfl, rfl⟩
    unfold entry?
    rw [logged]
    rfl

/-- What comes with a token tells nothing. -/
theorem Transits.adds
    (transits : host.Transits after found context action trace changed entering later) :
    trace.Adds [] later := by
  obtain ⟨change, shared, -, shares, rfl⟩ := transits.restacks
  have silent := (quiet_changeStack host.tokenizer after.stack change).adds shares
  cases host.entry? context action <;> exact silent

/-- A step takes a match whose action leads to a token, makes the changes that come with the token,
and ends. -/
inductive Acts (host : HostLine) (scan : Scan) (trace : Trace) (found : Found)
    (action : TokenAction) (next : Next) (later : Trace) : Prop where
  | acts {after changed : Scan} {entering : Option String} {taken noted : Trace}
      (takes : outcome (host.take scan) trace = (.ok (some (after, found)), taken))
      (leads : found.action.resolve host.settings (host.context scan after found) =
        .ok (.token action))
      (transits : host.Transits { after with position := after.position + found.matched.size }
        found (host.context scan after found) action taken changed entering noted)
      (concludes : outcome (host.conclude scan found action
        (action.text host.settings (host.context scan after found)) changed entering) noted =
          (.ok next, later))

/-- A step takes a match whose action leads to a group, and the match is split. -/
inductive Splits (host : HostLine) (scan : Scan) (trace : Trace) (found : Found)
    (members : List Action) (next : Scan) (later : Trace) : Prop where
  | splits {after : Scan}
      (takes : outcome (host.take scan) trace = (.ok (some (after, found)), later))
      (leads : found.action.resolve host.settings (host.context scan after found) =
        .ok (.group members))
      (fits : splitGroups scan found members = .ok next)

/-- All that a step can do which comes to a result. -/
inductive Stepped (host : HostLine) (scan : Scan) (trace : Trace) (next : Next) (later : Trace) :
    Prop where
  /-- There has been a split into no groups. -/
  | empty {replay : Replay} (first : scan.replay = some replay) (none : replay.members = [])
      (same : next = .goOn { scan with replay := .none }) (silent : later = trace)
  /-- The groups of a match are to be taken next. -/
  | splits {found : Found} {members : List Action} {changed : Scan}
      (splits : host.Splits scan trace found members changed later) (same : next = .goOn changed)
  /-- The changes that come with a token are made. -/
  | acts {found : Found} {action : TokenAction}
      (acts : host.Acts scan trace found action next later)

theorem step_cases {next : Next} (done : outcome (host.step scan) trace = (.ok next, later)) :
    host.Stepped scan trace next later := by
  rw [step_eq] at done
  obtain ⟨taken, middle, takes, applies⟩ := outcome_bind_eq_ok.1 done
  cases taken with
  | none =>
    obtain ⟨rfl, replay, first, none⟩ := take_none takes
    cases applies
    exact .empty first none rfl rfl
  | some pair =>
    obtain ⟨after, found⟩ := pair
    obtain ⟨resolved, _, resolving, acting⟩ := outcome_bind_eq_ok.1 applies
    obtain ⟨resolves, rfl⟩ := outcome_settle_eq_ok.1 resolving
    have leads : found.action.resolve host.settings (host.context scan after found) =
        .ok resolved := mapError_eq_ok.1 resolves
    cases resolved with
    | group members =>
      obtain ⟨changed, splitting, same⟩ := outcome_map_eq_ok.1 acting
      obtain ⟨fits, rfl⟩ := outcome_settle_eq_ok.1 splitting
      exact .splits (.splits takes leads fits) same.symm
    | token action =>
      dsimp only at acting
      rw [applyToken_eq] at acting
      obtain ⟨⟨changed, entering⟩, _, transits, concludes⟩ := outcome_bind_eq_ok.1 acting
      exact .acts (.acts takes leads (transits_of_transit transits) concludes)

/-! ### Groups fit into what is left -/

/-- The pending groups of a scan fit into what is left of the text. -/
def Within (host : HostLine) (scan : Scan) : Prop :=
  scan.position + sizeOf (Replay.pending scan.replay) ≤ host.textSize

/-- Behind the match that a step takes the groups that are left fit. -/
theorem Took.within (within : host.Within scan) (took : host.Took scan after found) :
    after.position + found.matched.size + sizeOf (Replay.pending after.replay) ≤
      host.textSize := by
  rw [took.position]
  cases took.source with
  | rules nothingPending nothingLeft finds =>
    rw [nothingLeft, host.textSize_eq]
    exact finds.size_le
  | pending replay members first taken left =>
    have whole := within
    unfold Within at whole
    have rest : Replay.pending after.replay = members := by
      rw [left]
      cases members <;> rfl
    rw [first, Replay.pending, taken, sizeOf_cons] at whole
    rw [rest]
    dsimp only at whole
    omega

section

variable (found : Found) (token : String) (changed : Scan)

theorem position_behind : (behind found token changed).position =
    if token == TokenAction.rematchToken then changed.position - found.matched.size
      else changed.position := by
  unfold behind
  split <;> rfl

@[simp] theorem stack_behind : (behind found token changed).stack = changed.stack := by
  unfold behind
  split <;> rfl

@[simp] theorem embedded_behind : (behind found token changed).embedded = changed.embedded := by
  unfold behind
  split <;> rfl

@[simp] theorem replay_behind : (behind found token changed).replay = changed.replay := by
  unfold behind
  split <;> rfl

@[simp] theorem due_behind : (behind found token changed).due = changed.due := by
  unfold behind
  split <;> rfl

/-- Reading a match again never moves on. -/
theorem position_behind_le : (behind found token changed).position ≤ changed.position := by
  rw [position_behind]
  split
  · exact Nat.sub_le _ _
  · exact Nat.le_refl _

end

/-- The pending groups fit behind a step if they do before it. -/
theorem within_step (within : host.Within scan)
    (leads : outcome (host.step scan) trace = (.ok (.goOn next), later)) : host.Within next := by
  cases step_cases leads with
  | empty first none same silent =>
    cases same
    unfold Within at within ⊢
    rw [first, Replay.pending, none] at within
    exact within
  | @splits found members changed splits same =>
    cases same
    obtain ⟨takes, leads, fits⟩ := splits
    have took := take_ok takes
    obtain ⟨nothing, counted, filled, emptyGroup, rfl⟩ := splitGroups_ok fits
    have enough : (found.captures.drop 1).length = members.length := by
      rw [List.length_drop, counted]
      omega
    have room := took.within within
    rw [took.position] at room
    unfold Within
    rw [Replay.pending, sizeOf_zip enough, filled]
    exact Nat.le_trans (Nat.le_add_right _ _) room
  | @acts found action acts =>
    obtain @⟨after, changed, entering, taken, noted, takes, leads, transits, concludes⟩ := acts
    have room := (take_ok takes).within within
    have back : changed.position ≤ after.position + found.matched.size :=
      Text.rewind?_le transits.rewinds
    have ends := conclude_leads concludes
    cases entering with
    | some name => cases ends
    | none =>
      cases ends
      have moved := position_behind_le found
        (action.text host.settings (host.context scan after found)) changed
      unfold Within
      rw [replay_behind, transits.replay]
      dsimp only
      omega

/-! ### Actions of pending groups -/

/-- The actions of the groups that are left have a property. -/
def Carries (holds : Action → Prop) (scan : Scan) : Prop :=
  ∀ replay, scan.replay = some replay → ∀ member ∈ replay.members, holds member.1

section

variable {holds : Action → Prop}
  (always : ∀ action, host.tokenizer.grammar.HasAction action → holds action)

include always

/-- What all actions of a grammar have, the action of a match has, and so have those of the groups
that are left. -/
theorem holds_of_take (carries : Carries holds scan)
    (takes : outcome (host.take scan) trace = (.ok (some (after, found)), later)) :
    holds found.action ∧ Carries holds after := by
  cases (take_ok takes).source with
  | rules unpended left finds =>
    refine ⟨always _ finds.action, fun replay pending => ?_⟩
    rw [left] at pending
    cases pending
  | pending replay members first taken left =>
    have each := carries replay first
    rw [taken, List.forall_mem_cons] at each
    refine ⟨each.1, fun rest pending => ?_⟩
    rw [left] at pending
    split at pending
    · cases pending
    · cases pending
      exact each.2

/-- The groups that a step leaves have what the members of groups have from the groups. -/
theorem carries_step
    (inherited : ∀ {action context members}, holds action →
      action.resolve host.settings context = .ok (.group members) →
        ∀ member ∈ members, holds member)
    (carries : Carries holds scan)
    (leads : outcome (host.step scan) trace = (.ok (.goOn next), later)) : Carries holds next := by
  cases step_cases leads with
  | empty first none same silent =>
    cases same
    exact nofun
  | @splits found members changed splits same =>
    cases same
    obtain ⟨takes, resolves, fits⟩ := splits
    obtain ⟨-, -, -, emptyGroup, rfl⟩ := splitGroups_ok fits
    have each := inherited (holds_of_take always carries takes).1 resolves
    intro replay pending member inside
    cases pending
    exact each _ (List.of_mem_zip inside).1
  | acts acts =>
    obtain @⟨after, changed, entering, taken, noted, takes, resolves, transits, concludes⟩ := acts
    have left := (holds_of_take always carries takes).2
    have same := conclude_leads concludes
    cases entering with
    | some name => cases same
    | none =>
      cases same
      intro replay pending
      rw [replay_behind, transits.replay] at pending
      exact left replay pending

end

end HostLine

/-! ### Groups that are pending -/

/-- The groups of a match that is split, each with its action. -/
def Found.replay (found : Found) (members : List Action) : Replay where
  rule := found.rule
  captures := found.captures
  members := members.zip (found.captures.drop 1)

/-- A group of a match, as a step takes it. -/
def Replay.found (replay : Replay) (group : Action × Text) : Found where
  rule := replay.rule
  captures := replay.captures
  matched := group.2
  action := group.1

/-- A group that has been taken, the token action that its action has led to, and the token. -/
structure Taken where
  group : Action × Text
  action : TokenAction
  token : String

namespace HostLine

variable {host : HostLine} {scan next reached : Scan} {found : Found} {members : List Action}
  {groups : List (Action × Text)} {group : Action × Text} {trace middle later : Trace}
  {replay : Replay} {taken : List Taken} {stack : Stack} {embedded : Option Embedded}
  {steps : Nat}

/-- What a step tells for its match: the classification of the token, where the match starts, unless
nothing is read. -/
inductive Tells (host : HostLine) (scan : Scan) (found : Found) (action : TokenAction)
    (token : String) (trace later : Trace) : Prop where
  | silent (unread : (token == TokenAction.rematchToken || found.matched == []) = true)
      (adds : trace.Adds [] later)
  | audible (read : (token == TokenAction.rematchToken || found.matched == []) = false)
      {classification : String} {side : Option Side}
      (classifies : action.classify host.tokenizer.grammar token found.matched =
        .ok (classification, side))
      (adds : trace.Adds (host.told scan.position classification side) later)

/-- A step does all that a token action says of its match, for which the action gives a token. -/
structure Performs (host : HostLine) (scan : Scan) (trace : Trace) (found : Found)
    (action : TokenAction) (token : String) (next : Scan) (later : Trace) : Prop where
  steps : outcome (host.step scan) trace = (.ok (.goOn next), later)
  resolves : found.action.resolve host.settings (host.context scan scan found) =
    .ok (.token action)
  fills : action.text host.settings (host.context scan scan found) = token
  embeds : action.changeEmbedded host.settings (host.context scan scan found) scan.embedded =
    .ok (next.embedded, none)
  moves : ∃ position,
    host.text.rewind? (scan.position + found.matched.size) (action.goBack.getD 0) = some position ∧
      next.position = if token == TokenAction.rematchToken then position - found.matched.size
        else position
  restacks : ∃ change shared,
    action.stackChange host.tokenizer (host.context scan scan found) found.rule scan.stack =
        .ok change ∧
      outcome (changeStack host.tokenizer scan.stack change) trace = (.ok next.stack, shared) ∧
      later.notes = (shared.noted (host.entry? (host.context scan scan found) action)).notes
  tells : host.Tells scan found action token trace later

/-- What is told behind a silent stretch is told for both. -/
theorem Tells.behind {action : TokenAction} {token : String}
    (tells : host.Tells scan found action token middle later) (silent : trace.Adds [] middle) :
    host.Tells scan found action token trace later := by
  cases tells with
  | silent unread adds => exact .silent unread (silent.trans adds)
  | audible read classifies adds => exact .audible read classifies (silent.trans adds)

/-- The end of a step leaves no note, and it tells the token for what is read. -/
theorem tells_of_conclude {action : TokenAction} {token : String} {changed : Scan}
    {entering : Option String} {ending : Next}
    (done : outcome (host.conclude scan found action token changed entering) trace =
      (.ok ending, later)) :
    later.notes = trace.notes ∧ host.Tells scan found action token trace later := by
  unfold conclude at done
  split at done
  · next silent =>
    split at done
    · cases done
      exact ⟨rfl, .silent silent (.refl trace)⟩
    · rw [outcome_fail] at done
      cases done
  · next audible =>
    obtain ⟨⟨classification, side⟩, _, classifying, telling⟩ := outcome_bind_eq_ok.1 done
    obtain ⟨classifies, rfl⟩ := outcome_settle_eq_ok.1 classifying
    obtain ⟨_, _, tells, ends⟩ := outcome_bind_eq_ok.1 telling
    obtain ⟨-, adds⟩ := tellToken_adds tells
    cases ends
    refine ⟨?_, .audible (by simpa using audible) classifies adds⟩
    unfold tellToken at tells
    split at tells <;> cases tells <;> rfl

/-- While no group is pending a step takes what the rules find. -/
theorem take_rules {after : Scan} (unpended : scan.replay = none)
    (takes : outcome (host.take scan) trace = (.ok (some (after, found)), later)) :
    after = { scan with due := false } ∧
      outcome (host.tokenizer.findAt host.text scan.position scan.stack.state) trace =
        (.ok found, later) := by
  unfold take at takes
  rw [unpended] at takes
  obtain ⟨_, searched, same⟩ := outcome_map_eq_ok.1 takes
  cases same
  exact ⟨by rw [unpended], searched⟩

/-- While groups are pending a step takes the first of them. -/
theorem take_pending (first : scan.replay = some replay)
    (pends : replay.members = group :: groups) (trace : Trace) :
    outcome (host.take scan) trace =
      (.ok (some ({ scan with
          replay := if groups.isEmpty then none else some { replay with members := groups } },
        replay.found group)), trace) := by
  unfold take
  rw [first]
  dsimp only
  rw [pends]
  rfl

/-- While groups are pending a step that goes on does what the action of the first of them says. -/
theorem performs_of_pending (first : scan.replay = some replay)
    (pends : replay.members = group :: groups)
    (leads : outcome (host.step scan) trace = (.ok (.goOn next), later)) :
    ∃ action token, host.Performs scan trace (replay.found group) action token next later ∧
      next.replay = (if groups.isEmpty then none else some { replay with members := groups }) ∧
      next.due = scan.due := by
  cases step_cases leads with
  | empty other none same silent =>
    rw [first] at other
    cases other
    rw [pends] at none
    cases none
  | splits splits same =>
    obtain ⟨takes, resolves, fits⟩ := splits
    have nothing := (splitGroups_ok fits).1
    rw [first] at nothing
    cases nothing
  | @acts found action acts =>
    obtain @⟨after, changed, entering, behind, noted, takes, resolves, transits, concludes⟩ := acts
    rw [take_pending first pends] at takes
    cases takes
    have silent := transits.adds
    obtain ⟨embeds, rewinds, restacks, left, due⟩ := transits
    have ends := conclude_leads concludes
    obtain ⟨noting, tells⟩ := tells_of_conclude concludes
    cases entering with
    | some name => cases ends
    | none =>
      cases ends
      refine ⟨action, _, ⟨leads, resolves, rfl, ?_, ?_, ?_, tells.behind silent⟩, ?_, ?_⟩
      · rw [embedded_behind]
        exact embeds
      · exact ⟨changed.position, rewinds, position_behind _ _ _⟩
      · obtain ⟨change, shared, changes, shares, rfl⟩ := restacks
        rw [stack_behind]
        exact ⟨change, shared, changes, shares, noting⟩
      · rw [replay_behind, left]
      · rw [due_behind, due]

/-- Steps inside the text take groups of a match, one each and in order. -/
inductive Replays (host : HostLine) (replay : Replay) :
    List Taken → Scan → Trace → Scan → Trace → Prop where
  | nil {scan : Scan} {trace : Trace} : Replays host replay [] scan trace scan trace
  | cons {taken : Taken} {rest : List Taken} {left : List (Action × Text)}
      {scan next reached : Scan} {trace middle later : Trace}
      (inside : scan.position < host.textSize)
      (pends : scan.replay = some { replay with members := taken.group :: left })
      (performs : host.Performs scan trace (replay.found taken.group) taken.action taken.token next
        middle)
      (follows : Replays host replay rest next middle reached later) :
      Replays host replay (taken :: rest) scan trace reached later

/-- A scan comes to a turn for each group that has been taken. -/
theorem Replays.exists_turn? (replays : host.Replays replay taken scan trace reached later)
    {turns : Nat} (early : turns < taken.length) :
    ∃ passed, host.turn? turns scan trace = some passed := by
  induction replays generalizing turns with
  | nil => cases early
  | @cons first rest left scan next reached trace middle later inside pends performs follows step =>
    have due : host.isDue scan = true := by simp [isDue, inside]
    cases turns with
    | zero => exact ⟨_, turn?_zero due⟩
    | succ turns =>
      rw [turn?_succ due performs.steps]
      exact step (Nat.lt_of_succ_lt_succ early)

/-- The groups that have been taken are the first of those that were pending. -/
theorem Replays.isPrefix (replays : host.Replays replay taken scan trace reached later)
    (pending : scan.replay = some { replay with members := groups }) :
    taken.map Taken.group <+: groups := by
  induction replays generalizing groups with
  | nil => exact List.nil_prefix
  | @cons first rest left scan next reached trace middle later inside pends performs follows step =>
    rw [pends] at pending
    cases pending
    obtain ⟨_, _, -, leaves, -⟩ := performs_of_pending pends rfl performs.steps
    rw [List.map_cons, List.prefix_cons_inj]
    cases left with
    | nil =>
      -- Behind the last group none is pending, so no more have been taken.
      cases follows with
      | nil => exact List.prefix_refl _
      | cons inside pends _ _ =>
        rw [leaves] at pends
        cases pends
    | cons group left => exact step leaves

/-- A run that comes to the end of the line takes the pending groups in order, up to where the scan
stands at the end of the text. The groups that are left then are empty. -/
theorem exists_replays (idle : scan.due = false) (within : host.Within scan)
    (pends : groups ≠ [] → scan.replay = some { replay with members := groups })
    (done : outcome (host.run steps scan) trace = (.ok (.lineEnd stack embedded), later)) :
    ∃ taken left reached behind, taken.map Taken.group ++ left = groups ∧
      host.Replays replay taken scan trace reached behind ∧
      (left ≠ [] → reached.position = host.textSize ∧ (∀ group ∈ left, group.2 = []) ∧
        stack = reached.stack ∧ embedded = reached.embedded ∧ later = behind) := by
  induction groups generalizing steps scan trace with
  | nil => exact ⟨[], [], scan, trace, rfl, .nil, fun some => absurd rfl some⟩
  | cons group groups step =>
    have first := pends (List.cons_ne_nil group groups)
    cases steps with
    | zero => cases done
    | succ steps =>
      rw [outcome_run_succ] at done
      split at done
      · next due =>
        have inside : scan.position < host.textSize := by simpa [isDue, idle] using due
        split at done
        · next next middle leads =>
          obtain ⟨action, token, performs, left, still⟩ := performs_of_pending first rfl leads
          have rest : groups ≠ [] → next.replay = some { replay with members := groups } := by
            intro some
            rw [left, if_neg (by simpa using some)]
          obtain ⟨taken, left, reached, behind, whole, replays, ends⟩ :=
            step (still.trans idle) (within_step within leads) rest done
          refine ⟨⟨group, action, token⟩ :: taken, left, reached, behind, ?_,
            .cons inside first performs replays, ends⟩
          rw [List.map_cons, List.cons_append, whole]
        · cases done
        · cases done
      · next finished =>
        have outside : ¬ scan.position < host.textSize := by simpa [isDue, idle] using finished
        cases done
        have room : scan.position + sizeOf (group :: groups) ≤ host.textSize := by
          unfold Within at within
          rwa [first] at within
        refine ⟨[], group :: groups, scan, _, rfl, .nil, fun _ =>
          ⟨by omega, fun other inside => ?_, rfl, rfl, rfl⟩⟩
        have bytes := size_le_sizeOf inside
        exact Text.size_eq_zero_iff.1 (by omega)

/-- Behind a split the groups of the match are pending, and no step is due. -/
theorem Splits.pends (splits : host.Splits scan trace found members next later) :
    next.due = false ∧ next.replay = some (found.replay members) := by
  obtain ⟨-, -, fits⟩ := splits
  obtain ⟨-, -, -, emptyGroup, rfl⟩ := splitGroups_ok fits
  exact ⟨rfl, rfl⟩

/-- A match that is split leads to a scan that goes on. -/
theorem Splits.goesOn (splits : host.Splits scan trace found members next later) :
    outcome (host.step scan) trace = (.ok (.goOn next), later) := by
  obtain ⟨takes, leads, fits⟩ := splits
  rw [step_eq, outcome_bind_of_ok takes]
  have resolved : outcome (settle host.tokenizer
      ((found.action.resolve host.settings (host.context scan _ found)).mapError
        GuardFault.toFault)) later = (.ok (.group members), later) :=
    outcome_settle_eq_ok.2 ⟨mapError_eq_ok.2 leads, rfl⟩
  refine (outcome_bind_of_ok resolved).trans ?_
  exact outcome_map_eq_ok.2 ⟨next, outcome_settle_eq_ok.2 ⟨fits, rfl⟩, rfl⟩

/-- A run that comes to an end has enough steps for each turn that the scan comes to. -/
theorem lt_of_turn? {turns : Nat} {departure : Departure}
    (done : outcome (host.run steps scan) trace = (.ok departure, later))
    (comes : host.turn? turns scan trace = some (reached, middle)) : turns < steps := by
  by_contra few
  obtain ⟨more, rfl⟩ := Nat.exists_eq_add_of_le (Nat.le_of_not_lt few)
  have whole : host.ComesTo scan trace (steps + more) reached := ⟨middle, comes⟩
  obtain ⟨passed, before, early⟩ := whole.earlier
  have exhausted := run_of_turn? 0 early
  rw [Nat.add_zero, done] at exhausted
  cases exhausted

/-- Where groups are pending behind a step and none were before it, the step has split a match. -/
theorem exists_splits (unpended : scan.replay = none) (pends : next.replay.isSome = true)
    (leads : outcome (host.step scan) trace = (.ok (.goOn next), later)) :
    ∃ found members, host.Splits scan trace found members next later := by
  cases step_cases leads with
  | empty first none same silent =>
    rw [unpended] at first
    cases first
  | splits splits same =>
    cases same
    exact ⟨_, _, splits⟩
  | @acts found action acts =>
    obtain @⟨after, changed, entering, behind, noted, takes, resolves, transits, concludes⟩ := acts
    have ends := conclude_leads concludes
    cases entering with
    | some name => cases ends
    | none =>
      cases ends
      rw [replay_behind, transits.replay] at pends
      cases (take_ok takes).source with
      | rules nothingPending nothingLeft finds =>
        dsimp only at pends
        rw [nothingLeft] at pends
        cases pends
      | pending replay members first taken left =>
        rw [unpended] at first
        cases first

end HostLine

/-! ### Groups in the scan of a line -/

open HostLine

/-- The groups of a match are taken in order. Behind each match that the scan of a line splits, a
run that comes to the end of the line takes the groups one by one, each at a step that does all that
its action says. It has taken them all, or it ends before one of them at the end of the text, and
then that group and those behind it are empty. -/
theorem Job.replays_groups {job : Job} {steps turns : Nat} {trace before middle later : Trace}
    {scan next : Scan} {found : Found} {members : List Action} {stack : Stack}
    {embedded : Option Embedded}
    (done : outcome (job.host.run steps job.start) trace = (.ok (.lineEnd stack embedded), later))
    (comes : job.host.turn? turns job.start trace = some (scan, before))
    (splits : job.host.Splits scan before found members next middle) :
    ∃ taken left reached behind, taken.map Taken.group ++ left = (found.replay members).members ∧
      job.host.Replays (found.replay members) taken next middle reached behind ∧
      (left = [] ∨ reached.position = job.host.textSize ∧ (∀ group ∈ left, group.2 = []) ∧
        stack = reached.stack ∧ embedded = reached.embedded ∧ later = behind) := by
  have within : job.host.Within next := by
    refine within_step ?_ splits.goesOn
    refine turn?_invariant (fun scan _ => job.host.Within scan)
      (fun within leads => within_step within leads) ?_ comes
    exact Nat.zero_le _
  obtain ⟨idle, pends⟩ := splits.pends
  obtain ⟨more, rfl⟩ := Nat.exists_eq_add_of_lt (lt_of_turn? done comes)
  rw [Nat.add_assoc, run_of_turn? (more + 1) comes, outcome_run_succ,
    if_pos (isDue_of_turn? comes), splits.goesOn] at done
  have pending : (found.replay members).members ≠ [] → next.replay =
      some { found.replay members with members := (found.replay members).members } :=
    fun _ => pends
  obtain ⟨taken, left, reached, behind, whole, replays, ends⟩ :=
    exists_replays idle within pending done
  refine ⟨taken, left, reached, behind, whole, replays, ?_⟩
  by_cases all : left = []
  · exact Or.inl all
  · exact Or.inr (ends all)

/-- The description of a grammar whose rule splits a match into two groups, the second of which may
take nothing and leads to another state. -/
def trailingSource : String :=
  "\x7b\"tokenizer\": \x7b
    \"main\": [[\"(a?)(b?)\", [\"x\", \x7b\"token\": \"y\", \"next\": \"@rest\"\x7d]]],
    \"rest\": [[\"b\", \"rest\"]]\x7d\x7d"

/-- A line of one character. -/
def singleJob (grammar : Grammar) : Job where
  tokenizer := { identity := 0, grammar }
  line := ['a']
  ended := false
  state := .host default (.root default grammar.start)

/-- Whether the first step of the scan of the line splits a match into two groups, and the scan ends
before the third step, in the state where it started. -/
def losesGroup (grammar : Grammar) : Bool :=
  let job := singleJob grammar
  (match outcome (job.host.step job.start) {} with
    | (.ok (.goOn next), _) => decide ((Replay.pending next.replay).length = 2)
    | _ => false) &&
  (job.host.turn? 2 job.start {}).isNone &&
  match (outcome (job.host.run 8 job.start) {}).1 with
  | .ok (.lineEnd stack _) => decide (stack.names = [grammar.start])
  | _ => false

/-- The second group is lost. -/
theorem exists_losesGroup :
    ∃ grammar, (Grammar.compileText "toy" trailingSource false).result = .ok grammar ∧
      losesGroup grammar = true :=
  Grammar.exists_of_compiles (Grammar.compileText "toy" trailingSource false) losesGroup
    (by decide +kernel)

/-- A match is split into two groups, and there are not two steps behind that. -/
theorem exists_splits_of_losesGroup {grammar : Grammar} (loses : losesGroup grammar = true) :
    ∃ (stack : Stack) (embedded : Option Embedded) (before middle later : Trace) (scan next : Scan)
      (found : Found) (members : List Action),
      outcome ((singleJob grammar).host.run 8 (singleJob grammar).start) {} =
          (.ok (.lineEnd stack embedded), later) ∧
        (singleJob grammar).host.turn? 0 (singleJob grammar).start {} = some (scan, before) ∧
        (singleJob grammar).host.Splits scan before found members next middle ∧
        stack.names = [grammar.start] ∧
        ∀ taken reached behind,
          (singleJob grammar).host.Replays (found.replay members) taken next middle reached behind →
            taken.map Taken.group ≠ (found.replay members).members := by
  unfold losesGroup at loses
  dsimp only at loses
  rw [Bool.and_eq_true, Bool.and_eq_true] at loses
  obtain ⟨⟨starts, stops⟩, ends⟩ := loses
  split at starts
  · next next middle leads =>
    split at ends
    · next stack embedded done =>
      have due : (singleJob grammar).host.isDue (singleJob grammar).start = true := rfl
      have two := of_decide_eq_true starts
      have pends : next.replay.isSome = true := by
        cases pending : next.replay with
        | none =>
          rw [pending] at two
          cases two
        | some replay => rfl
      obtain ⟨found, members, splits⟩ := exists_splits rfl pends leads
      refine ⟨stack, embedded, {}, middle, _, _, next, found, members, Prod.ext done rfl,
        turn?_zero due, splits, of_decide_eq_true ends,
        fun taken reached behind replays whole => ?_⟩
      have count : taken.length = 2 := by
        rw [splits.pends.2, Replay.pending, ← whole, List.length_map] at two
        exact two
      obtain ⟨passed, comes⟩ := replays.exists_turn? (show 1 < taken.length by omega)
      rw [turn?_succ due leads, comes] at stops
      cases stops
    · cases ends
  · cases starts

theorem Job.singleJob_replays :
    ∃ (grammar : Grammar) (before middle later : Trace) (scan next : Scan) (found : Found)
      (members : List Action) (stack : Stack) (embedded : Option Embedded),
      outcome ((singleJob grammar).host.run 8 (singleJob grammar).start) {} =
          (.ok (.lineEnd stack embedded), later) ∧
        (singleJob grammar).host.turn? 0 (singleJob grammar).start {} = some (scan, before) ∧
        (singleJob grammar).host.Splits scan before found members next middle ∧
        ∃ taken left reached behind, left ≠ [] ∧
          taken.map Taken.group ++ left = (found.replay members).members ∧
          (singleJob grammar).host.Replays (found.replay members) taken next middle reached behind ∧
          ∀ group ∈ left, group.2 = [] := by
  obtain ⟨grammar, -, loses⟩ := exists_losesGroup
  obtain ⟨stack, embedded, before, middle, later, scan, next, found, members, done, comes, splits,
    -, lost⟩ := exists_splits_of_losesGroup loses
  refine ⟨grammar, before, middle, later, scan, next, found, members, stack, embedded, done, comes,
    splits, ?_⟩
  obtain ⟨taken, left, reached, behind, whole, replays, ends⟩ :=
    Job.replays_groups done comes splits
  have some : left ≠ [] := by
    rintro rfl
    rw [List.append_nil] at whole
    exact lost taken reached behind replays whole
  obtain ⟨-, empty, -⟩ := ends.resolve_left some
  exact ⟨taken, left, reached, behind, some, whole, replays, empty⟩

/-- A group of a match may be lost at the end of a line. -/
theorem Job.not_forall_replays :
    ¬ ∀ (source : String) (grammar : Grammar) (job : Job) (steps turns : Nat)
      (trace before middle later : Trace) (scan next : Scan) (found : Found)
      (members : List Action) (stack : Stack) (embedded : Option Embedded),
      (Grammar.compileText "toy" source false).result = .ok grammar →
      job.tokenizer.grammar = grammar →
      outcome (job.host.run steps job.start) trace = (.ok (.lineEnd stack embedded), later) →
      job.host.turn? turns job.start trace = some (scan, before) →
      job.host.Splits scan before found members next middle →
      ∃ taken reached behind, taken.map Taken.group = (found.replay members).members ∧
        job.host.Replays (found.replay members) taken next middle reached behind := by
  intro keeps
  obtain ⟨grammar, compiles, loses⟩ := exists_losesGroup
  obtain ⟨stack, embedded, before, middle, later, scan, next, found, members, done, comes, splits,
    -, lost⟩ := exists_splits_of_losesGroup loses
  obtain ⟨taken, reached, behind, whole, replays⟩ :=
    keeps _ _ _ _ _ _ _ _ _ _ _ _ _ _ _ compiles rfl done comes splits
  exact lost taken reached behind replays whole

end LineLexer
