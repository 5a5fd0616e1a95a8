import LineLexer.Proofs.Step

/-!
**The guards on progress.**

Two guards stop a scan for want of progress: one stops a step that reads nothing and changes nothing
that it compares, the other one stops a match that reads nothing if it is split into groups where
one has been split last. A scan can be taken with these guards or without them.

* `HostLine.stepWith`, `HostLine.runWith`: scanning with the guards, or without them;
* `HostLine.stepWith_true`, `HostLine.runWith_true`: with the guards it is what it is;
* `HostLine.stepWith_of_step`: without them it is the same as long as no guard stops it;
* `HostLine.concludeWith_leads`: where the end of a step leads.
-/

namespace LineLexer

open Scanning

namespace HostLine

/-! ### Scanning with or without the guards -/

/-- Whether a scan has seen empty groups last where it stands now. -/
def seenEmptyGroup (scan : Scan) : Bool :=
  scan.emptyGroup.any fun seen => seen.1 == scan.position && seen.2 == scan.stack

/-- Splits a match into groups. Where it is not `guarded`, groups that read nothing may come up
again at once. -/
def splitGroupsWith (guarded : Bool) (scan : Scan) (found : Found) (members : List Action) :
    Except Fault Scan :=
  let groups := found.captures.drop 1
  if scan.replay.isSome then .error (.nestedGroups found.rule)
  else if found.captures.length ≠ members.length + 1 then .error (.groupCountMismatch found.rule)
  else if (groups.map Text.size).foldr (· + ·) 0 ≠ found.matched.size then
    .error (.groupGap found.rule)
  else
    let replay : Replay :=
      { rule := found.rule, captures := found.captures, members := members.zip groups }
    if found.matched = [] then
      if guarded && seenEmptyGroup scan then .error (.noProgress found.rule)
      else
        .ok { scan with
          replay := some replay, emptyGroup := some (scan.position, scan.stack), due := false }
    else .ok { scan with replay := some replay, due := false }

/-- Tells the token of a step, if anything was read, and ends the step. Where it is not `guarded`,
it need not have changed anything. -/
def concludeWith (guarded : Bool) (host : HostLine) (before : Scan) (found : Found)
    (action : TokenAction) (token : String) (changed : Scan) (entering : Option String) :
    Scanning Next :=
  if token == TokenAction.rematchToken || found.matched == [] then
    if !guarded || (entering.isSome || host.progressed before (behind found token changed)) then
      pure (.ofScan (behind found token changed) entering)
    else fail host.tokenizer (.noProgress found.rule)
  else do
    let (classification, side) ←
      settle host.tokenizer (action.classify host.tokenizer.grammar token found.matched)
    host.tellToken before.position classification side
    pure (.ofScan (behind found token changed) entering)

/-- Does what the action of a match says. -/
def applyWith (guarded : Bool) (host : HostLine) (before after : Scan) (found : Found) :
    Scanning Next := do
  let context := host.context before after found
  let resolved ← settle host.tokenizer
    ((found.action.resolve host.settings context).mapError GuardFault.toFault)
  match resolved with
  | .group members =>
    .goOn <$> settle host.tokenizer (splitGroupsWith guarded before found members)
  | .token action => do
    let (changed, entering) ←
      host.transit { after with position := after.position + found.matched.size } found context
        action
    host.concludeWith guarded before found action (action.text host.settings context) changed
      entering

/-- Does what the action of a match says, if there is a match. -/
def applyTakenWith (guarded : Bool) (host : HostLine) (scan : Scan) :
    Option (Scan × Found) → Scanning Next
  | none => pure (.goOn { scan with replay := none })
  | some (after, found) => host.applyWith guarded scan after found

/-- One step. -/
def stepWith (guarded : Bool) (host : HostLine) (scan : Scan) : Scanning Next :=
  host.take scan >>= host.applyTakenWith guarded scan

/-- Steps up to the end of the line, or up to where another language starts; `steps` is a limit. -/
def runWith (guarded : Bool) (host : HostLine) : Nat → Scan → Scanning Departure
  | 0, _ => throw .exhausted
  | steps + 1, scan =>
    if host.isDue scan then do
      match ← host.stepWith guarded scan with
      | .goOn scan => host.runWith guarded steps scan
      | .enter name position stack => pure (.enter name position stack)
    else pure (.lineEnd scan.stack scan.embedded)

variable {host : HostLine} {scan changed : Scan} {next : Next} {found : Found}
  {members : List Action} {action : TokenAction} {token : String} {entering : Option String}
  {trace later : Trace}

/-- With the guards a step is a step. -/
theorem stepWith_true (host : HostLine) (scan : Scan) :
    host.stepWith true scan = host.step scan := by
  rw [step_eq]
  refine congrArg _ (funext fun taken => ?_)
  cases taken with
  | none => rfl
  | some pair =>
    obtain ⟨after, found⟩ := pair
    show host.applyWith true scan after found = host.apply scan after found
    unfold applyWith apply context
    dsimp only
    refine congrArg _ (funext fun resolved => ?_)
    cases resolved with
    | group members => rfl
    | token action =>
      dsimp only
      rw [applyToken_eq]
      rfl

/-- With the guards a run is a run. -/
theorem runWith_true (host : HostLine) (steps : Nat) (scan : Scan) :
    host.runWith true steps scan = host.run steps scan := by
  induction steps generalizing scan with
  | zero => rfl
  | succ steps step =>
    rw [runWith, run, stepWith_true]
    split
    · refine congrArg _ (funext fun next => ?_)
      cases next with
      | goOn scan => exact step scan
      | enter name position stack => rfl
    · rfl

/-- Groups that are taken next with the guard are taken next without it. -/
theorem splitGroupsWith_of_splitGroups (fits : splitGroups scan found members = .ok changed) :
    splitGroupsWith false scan found members = .ok changed := by
  unfold splitGroups at fits
  unfold splitGroupsWith
  dsimp only at fits ⊢
  split at fits
  · cases fits
  · next unpended =>
    rw [if_neg unpended]
    split at fits
    · cases fits
    · next counted =>
      rw [if_neg counted]
      split at fits
      · cases fits
      · next filled =>
        rw [if_neg filled]
        split at fits
        · next empty =>
          rw [if_pos empty]
          split at fits
          · cases fits
          · exact fits
        · next nonempty =>
          rw [if_neg nonempty]
          exact fits

/-- The end of a step that the guard lets pass is its end without the guard. -/
theorem concludeWith_of_conclude
    (done : outcome (host.conclude scan found action token changed entering) trace =
      (.ok next, later)) :
    outcome (host.concludeWith false scan found action token changed entering) trace =
      (.ok next, later) := by
  unfold conclude at done
  unfold concludeWith
  split at done
  · next silent =>
    rw [if_pos silent]
    split at done
    · exact done
    · cases done
  · next audible =>
    rw [if_neg audible]
    exact done

/-- A step that no guard stops is the same without the guards. -/
theorem stepWith_of_step (leads : outcome (host.step scan) trace = (.ok next, later)) :
    outcome (host.stepWith false scan) trace = (.ok next, later) := by
  rw [step_eq] at leads
  obtain ⟨taken, middle, takes, applies⟩ := outcome_bind_eq_ok.1 leads
  refine outcome_bind_eq_ok.2 ⟨taken, middle, takes, ?_⟩
  cases taken with
  | none => exact applies
  | some pair =>
    obtain ⟨after, found⟩ := pair
    obtain ⟨resolved, _, resolving, acting⟩ := outcome_bind_eq_ok.1 applies
    refine outcome_bind_eq_ok.2 ⟨resolved, _, resolving, ?_⟩
    cases resolved with
    | group members =>
      obtain ⟨changed, splitting, same⟩ := outcome_map_eq_ok.1 acting
      obtain ⟨fits, rfl⟩ := outcome_settle_eq_ok.1 splitting
      exact outcome_map_eq_ok.2
        ⟨changed, outcome_settle_eq_ok.2 ⟨splitGroupsWith_of_splitGroups fits, rfl⟩, same⟩
    | token action =>
      dsimp only at acting
      rw [applyToken_eq] at acting
      obtain ⟨pair, _, transits, concludes⟩ := outcome_bind_eq_ok.1 acting
      exact outcome_bind_eq_ok.2 ⟨pair, _, transits, concludeWith_of_conclude concludes⟩

/-- A run without the guards is its first turn, if a step is due, and a shorter run. -/
theorem outcome_runWith_succ (guarded : Bool) (host : HostLine) (steps : Nat) (scan : Scan)
    (trace : Trace) :
    outcome (host.runWith guarded (steps + 1) scan) trace =
      if host.isDue scan then
        match outcome (host.stepWith guarded scan) trace with
        | (.ok (.goOn next), later) => outcome (host.runWith guarded steps next) later
        | (.ok (.enter name position stack), later) => (.ok (.enter name position stack), later)
        | (.error stop, later) => (.error stop, later)
      else (.ok (.lineEnd scan.stack scan.embedded), trace) := by
  rw [runWith]
  split
  · rw [outcome_bind]
    rcases outcome (host.stepWith guarded scan) trace with ⟨_ | next, later⟩
    · rfl
    · cases next <;> rfl
  · rfl

/-- A scan that takes groups next stays in its embedded language. -/
theorem embedded_of_splitGroupsWith (guarded : Bool)
    (fits : splitGroupsWith guarded scan found members = .ok changed) :
    changed.embedded = scan.embedded := by
  unfold splitGroupsWith at fits
  dsimp only at fits
  split at fits
  · cases fits
  · split at fits
    · cases fits
    · split at fits
      · cases fits
      · split at fits
        · split at fits <;> cases fits
          rfl
        · cases fits
          rfl

/-! ### Where the end of a step leads -/

/-- The end of a step that goes on changes the position at most. -/
theorem concludeWith_leads (guarded : Bool)
    (done : outcome (host.concludeWith guarded scan found action token changed entering) trace =
      (.ok next, later)) : next = .ofScan (behind found token changed) entering := by
  unfold concludeWith at done
  split at done
  · split at done
    · cases done
      rfl
    · rw [outcome_fail] at done
      cases done
  · obtain ⟨classified, _, -, telling⟩ := outcome_bind_eq_ok.1 done
    obtain ⟨_, _, -, ends⟩ := outcome_bind_eq_ok.1 telling
    cases ends
    rfl

theorem conclude_leads
    (done : outcome (host.conclude scan found action token changed entering) trace =
      (.ok next, later)) : next = .ofScan (behind found token changed) entering :=
  concludeWith_leads true done

end HostLine

end LineLexer
