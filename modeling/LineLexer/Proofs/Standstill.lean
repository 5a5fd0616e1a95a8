import LineLexer.Proofs.Exit

/-!
**Scans that stand still.**

A scan that moves on only may stay where it stands for some turns: it takes groups that read
nothing, changes the stack, or leaves an embedded language. It tells nothing meanwhile. The groups
that it has seen last and that read nothing have been split at one of its turns; and the turns since
then are the same outside of any embedded language, up to the step that leaves one.

* `HostLine.turn?_onwards`: a scan moves on, and it tells nothing while it stands still;
* `Scan.paused`, `HostLine.Pauses`: a match that reads nothing is split into groups;
* `HostLine.exists_pauses_of_turn?`: where the groups have been split that have been seen last;
* `HostLine.Halts`: a run that stops without having told anything;
* `HostLine.turn?_outside`: the same turns outside of any embedded language;
* `HostLine.ComesBack`: a scan that has come back to groups which it has split before.
-/

namespace LineLexer

open Scanning

/-- A scan that takes the groups of a match next that reads nothing. -/
def Scan.paused (scan : Scan) (found : Found) (members : List Action) : Scan :=
  { scan with
    replay := some (found.replay members), emptyGroup := some (scan.position, scan.stack)
    due := false }

/-- The same place of a scan outside of any embedded language. -/
def Scan.outside (scan : Scan) : Scan := { scan with embedded := none }

theorem Scan.outside_of_embedded {scan : Scan} (outside : scan.embedded = none) :
    scan.outside = scan := by
  obtain ⟨position, stack, embedded, replay, emptyGroup, due⟩ := scan
  cases outside
  rfl

namespace HostLine

variable {host : HostLine} {scan after changed start reached next : Scan} {found : Found}
  {members : List Action} {trace middle before later : Trace} {turns steps : Nat} {plain : Prop}

/-! ### Standing still -/

/-- A step that stays where it is tells nothing. -/
theorem adds_of_stays (moderate : host.Moderate plain) (ready : host.Ready plain scan) {next : Next}
    (done : outcome (host.step scan) trace = (.ok next, later))
    (stays : next.position = scan.position) : trace.Adds [] later := by
  rw [step_eq] at done
  obtain ⟨taken, middle, takes, applies⟩ := outcome_bind_eq_ok.1 done
  have silent := (quiet_take host scan).adds takes
  cases taken with
  | none =>
    cases applies
    exact silent
  | some pair =>
    obtain ⟨after, found⟩ := pair
    have took := take_ok takes
    obtain ⟨events, adds, applied⟩ :=
      apply_ok (took.fits moderate ready).2 took.position applies
    cases applied with
    | split => exact silent.trans adds
    | stays => exact silent.trans adds
    | reads nonempty moves left =>
      have positive : found.matched.size ≠ 0 := fun zero =>
        nonempty (Text.size_eq_zero_iff.1 zero)
      omega

/-- A scan moves on, and while it stands still it tells nothing. -/
theorem turn?_onwards (moderate : host.Moderate plain) (ready : host.Ready plain start)
    (comes : host.turn? turns start trace = some (reached, later)) :
    host.Ready plain reached ∧ start.position ≤ reached.position ∧
      (reached.position = start.position → trace.Adds [] later) := by
  refine turn?_invariant
    (fun reached later => host.Ready plain reached ∧ start.position ≤ reached.position ∧
      (reached.position = start.position → trace.Adds [] later))
    (fun {scan next middle later} holds leads => ?_)
    ⟨ready, Nat.le_refl _, fun _ => .refl trace⟩ comes
  obtain ⟨ready, further, silent⟩ := holds
  obtain ⟨-, -, onwards, -, still, -⟩ := step_covers moderate ready leads
  have onwards : scan.position ≤ next.position := onwards
  refine ⟨still next rfl, by omega, fun stays => ?_⟩
  exact (silent (by omega)).trans
    (adds_of_stays moderate ready leads (show next.position = scan.position by omega))

/-! ### Groups that read nothing -/

/-- A match that reads nothing can be split wherever no group is pending, unless the scan has seen
such groups last where it stands. -/
def Splittable (found : Found) (members : List Action) : Prop :=
  ∀ scan : Scan, scan.replay = none → splitGroups scan found members =
    if seenEmptyGroup scan then .error (.noProgress found.rule) else .ok (scan.paused found members)

/-- A match that reads nothing and that is split once can be split elsewhere, too. -/
theorem splittable_of_split (empty : found.matched = [])
    (fits : splitGroups scan found members = .ok changed) : Splittable found members := by
  obtain ⟨-, counted, filled, -⟩ := splitGroups_ok fits
  intro other unpended
  unfold splitGroups
  dsimp only
  rw [unpended, if_neg (by decide), if_neg (not_not.2 counted), if_neg (not_not.2 filled),
    if_pos empty]
  rfl

/-- A step splits a match into groups that reads nothing. -/
structure Pauses (host : HostLine) (scan : Scan) (before : Trace) (found : Found)
    (members : List Action) (later : Trace) : Prop where
  empty : found.matched = []
  unpended : scan.replay = none
  unseen : seenEmptyGroup scan = false
  takes : outcome (host.take scan) before =
    (.ok (some ({ scan with due := false }, found)), later)
  leads : found.action.resolve host.settings (host.context scan scan found) = .ok (.group members)
  splittable : Splittable found members

/-- A match leaves alone which groups have been seen last that read nothing. -/
theorem emptyGroup_take
    (takes : outcome (host.take scan) trace = (.ok (some (after, found)), later)) :
    after.emptyGroup = scan.emptyGroup := by
  unfold take at takes
  split at takes
  · split at takes
    · cases takes
    · cases takes
      rfl
  · obtain ⟨_, -, same⟩ := outcome_map_eq_ok.1 takes
    cases same
    rfl

/-- Only a step that splits a match which reads nothing changes which such groups have been seen
last. -/
theorem seen_of_step (leads : outcome (host.step scan) trace = (.ok (.goOn next), later)) :
    next.emptyGroup = scan.emptyGroup ∨ ∃ found members,
      host.Pauses scan trace found members later ∧ next = scan.paused found members := by
  rw [step_eq] at leads
  obtain ⟨taken, middle, takes, applies⟩ := outcome_bind_eq_ok.1 leads
  cases taken with
  | none =>
    cases applies
    exact Or.inl rfl
  | some pair =>
    obtain ⟨after, found⟩ := pair
    have kept := emptyGroup_take takes
    obtain ⟨resolved, _, resolving, acting⟩ := outcome_bind_eq_ok.1 applies
    obtain ⟨resolves, rfl⟩ := outcome_settle_eq_ok.1 resolving
    cases resolved with
    | group members =>
      obtain ⟨changed, splitting, same⟩ := outcome_map_eq_ok.1 acting
      cases same
      obtain ⟨fits, rfl⟩ := outcome_settle_eq_ok.1 splitting
      by_cases empty : found.matched = []
      · right
        have splittable := splittable_of_split empty fits
        have unpended := (splitGroups_ok fits).1
        obtain ⟨rfl, -⟩ := take_rules unpended takes
        rw [splittable scan unpended] at fits
        split at fits
        · cases fits
        · next unseen =>
          cases fits
          exact ⟨found, members, ⟨empty, unpended, by simpa using unseen, takes,
            mapError_eq_ok.1 resolves, splittable⟩, rfl⟩
      · left
        unfold splitGroups at fits
        dsimp only at fits
        rw [if_neg empty] at fits
        split at fits
        · cases fits
        · split at fits
          · cases fits
          · split at fits
            · cases fits
            · cases fits
              rfl
    | token action =>
      dsimp only at acting
      rw [applyToken_eq] at acting
      obtain ⟨⟨changed, entering⟩, _, transits, concludes⟩ := outcome_bind_eq_ok.1 acting
      obtain ⟨position, stack, embedded, -, rfl⟩ := transit_changes transits
      have ends := conclude_leads concludes
      cases entering with
      | some name => cases ends
      | none =>
        cases ends
        left
        unfold behind
        split <;> exact kept

/-- The groups that a scan has seen last and that read nothing have been seen where it started, or
they have been split at one of its turns. -/
theorem exists_pauses_of_turn? (comes : host.turn? turns start trace = some (reached, later)) :
    reached.emptyGroup = start.emptyGroup ∨ ∃ earlier more scan before found members middle,
      turns = earlier + 1 + more ∧ host.turn? earlier start trace = some (scan, before) ∧
        host.Pauses scan before found members middle ∧
        reached.emptyGroup = some (scan.position, scan.stack) ∧
        host.turn? more (scan.paused found members) middle = some (reached, later) := by
  induction turns generalizing start trace with
  | zero =>
    obtain ⟨-, rfl, -⟩ := eq_of_turn?_zero comes
    exact Or.inl rfl
  | succ turns step =>
    obtain ⟨due, next, middle, leads, rest⟩ := exists_of_turn?_succ comes
    rcases step rest with
      kept | ⟨earlier, more, scan, before, found, members, middle, counts, first, pauses⟩
    · rcases seen_of_step leads with same | ⟨found, members, pauses, rfl⟩
      · exact Or.inl (kept.trans same)
      · exact Or.inr ⟨0, turns, start, trace, found, members, middle, by omega, turn?_zero due,
          pauses, kept, rest⟩
    · exact Or.inr ⟨earlier + 1, more, scan, before, found, members, middle, by omega,
        (turn?_succ due leads).trans first, pauses⟩

/-! ### Runs that stop without having told anything -/

/-- A run stops, and it has told nothing by then. -/
def Halts (host : HostLine) (scan : Scan) (trace : Trace) (stop : Stop) : Prop :=
  ∃ steps later, outcome (host.run steps scan) trace = (.error stop, later) ∧
    stop ≠ .exhausted ∧ trace.Adds [] later

/-- A run stops where its first step does. -/
theorem halts_of_step {stop : Stop} (due : host.isDue scan = true)
    (stops : outcome (host.step scan) trace = (.error stop, later)) (fault : stop ≠ .exhausted)
    (silent : trace.Adds [] later) : host.Halts scan trace stop := by
  refine ⟨1, later, ?_, fault, silent⟩
  rw [outcome_run_succ, if_pos due, stops]

/-- A run stops where it does behind a turn. -/
theorem halts_of_turn? {stop : Stop} (comes : host.turn? turns scan trace = some (reached, before))
    (silent : trace.Adds [] before) (halts : host.Halts reached before stop) :
    host.Halts scan trace stop := by
  obtain ⟨steps, later, stops, fault, adds⟩ := halts
  exact ⟨turns + steps, later, (run_of_turn? steps comes).trans stops, fault, silent.trans adds⟩

/-- From sound memories scans that are alike stop in the same way. -/
theorem Halts.of_alike (injective : tokenizers.InjOn Tokenizer.identity)
    (known : host.tokenizer ∈ tokenizers) {other : Scan} {memories : Memories} {stop : Stop}
    (halts : host.Halts scan trace stop) (alike : scan.Alike True True other)
    (sound : trace.memories.Sound tokenizers) (soundOther : memories.Sound tokenizers) :
    host.Halts other { trace with memories } stop := by
  obtain ⟨steps, later, stops, fault, adds⟩ := halts
  have ends : SameEnd tokenizers True True Departure.Alike _ _ :=
    agree_run injective known steps alike trace { trace with memories }
      ⟨sound, soundOther, fun _ => rfl, fun _ => rfl⟩
  rw [stops] at ends
  rcases done : outcome (host.run steps other) { trace with memories } with ⟨ending, last⟩
  rw [done] at ends
  cases ends with
  | stop alike =>
    refine ⟨steps, last, done, fault, ?_⟩
    rw [Trace.Adds.nil_iff] at adds ⊢
    rw [← alike.events trivial, adds]
  | stallsLeft lax => exact absurd trivial lax
  | stallsRight lax => exact absurd trivial lax

/-! ### Outside of any embedded language -/

/-- Outside of any embedded language the same match is taken. -/
theorem take_outside {taken : Option (Scan × Found)}
    (takes : outcome (host.take scan) trace = (.ok taken, later)) :
    outcome (host.take scan.outside) trace =
      (.ok (taken.map fun pair => (pair.1.outside, pair.2)), later) := by
  obtain ⟨position, stack, embedded, replay, emptyGroup, due⟩ := scan
  cases replay with
  | none =>
    obtain ⟨found, searched, same⟩ := outcome_map_eq_ok.1 takes
    cases same
    exact outcome_map_eq_ok.2 ⟨found, searched, rfl⟩
  | some replay =>
    obtain ⟨rule, captures, members⟩ := replay
    cases members with
    | nil =>
      cases takes
      rfl
    | cons group groups =>
      cases takes
      rfl

/-- Outside of any embedded language the same groups are taken next. -/
theorem splitGroupsWith_outside (guarded : Bool)
    (fits : splitGroupsWith guarded scan found members = .ok changed) :
    splitGroupsWith guarded scan.outside found members = .ok changed.outside := by
  unfold splitGroupsWith at fits ⊢
  dsimp only at fits ⊢
  split at fits
  · cases fits
  · next unpended =>
    rw [if_neg (show ¬ scan.outside.replay.isSome = true from unpended)]
    split at fits
    · cases fits
    · next counted =>
      rw [if_neg counted]
      split at fits
      · cases fits
      · next filled =>
        rw [if_neg filled]
        split at fits
        · next empty =>
          rw [if_pos empty]
          split at fits
          · cases fits
          · next unseen =>
            cases fits
            exact if_neg unseen
        · next nonempty =>
          rw [if_neg nonempty]
          cases fits
          rfl

/-- The changes of the position and of the stack that come with a token, and its note. -/
def restack (host : HostLine) (after : Scan) (found : Found) (context : MatchContext)
    (action : TokenAction) : Scanning Scan := do
  let position ← cut (host.text.rewind? after.position (action.goBack.getD 0))
  let change ← settle host.tokenizer
    (action.stackChange host.tokenizer context found.rule after.stack)
  let stack ← changeStack host.tokenizer after.stack change
  if let some template := action.log then
    note { language := host.tokenizer.language,
           message := Template.fill host.settings template context }
  pure { after with position, stack }

/-- What comes with a token is a change of the embedded language, and then the other changes. -/
theorem transit_eq (host : HostLine) (after : Scan) (found : Found) (context : MatchContext)
    (action : TokenAction) :
    host.transit after found context action =
      settle host.tokenizer (action.changeEmbedded host.settings context after.embedded) >>=
        fun embedding =>
          (fun moved : Scan => ({ moved with embedded := embedding.1 }, embedding.2)) <$>
            host.restack after found context action := by
  unfold transit restack
  simp only [map_bind]
  refine congrArg _ (funext fun embedding => ?_)
  refine congrArg _ (funext fun position => ?_)
  refine congrArg _ (funext fun change => ?_)
  refine congrArg _ (funext fun stack => ?_)
  cases action.log <;> rfl

/-- The other changes do not look at the embedded language. -/
theorem restack_outside (host : HostLine) (after : Scan) (found : Found) (context : MatchContext)
    (action : TokenAction) :
    host.restack after.outside found context action =
      Scan.outside <$> host.restack after found context action := by
  unfold restack
  simp only [map_bind]
  refine congrArg _ (funext fun position => ?_)
  refine congrArg _ (funext fun change => ?_)
  refine congrArg _ (funext fun stack => ?_)
  cases action.log <;> rfl

/-- What comes with a token is the same outside of any embedded language, unless the action leaves
one. -/
theorem transit_outside {context : MatchContext} {action : TokenAction}
    (transits : outcome (host.transit after found context action) trace =
      (.ok (changed, none), later)) :
    outcome (host.transit after.outside found context action) trace =
        (.ok (changed.outside, none), later) ∨
      (after.embedded ≠ none ∧ outcome (host.transit after.outside found context action) trace =
        (.error (.fault ⟨host.tokenizer.language, .notEmbedded⟩), trace)) := by
  rw [transit_eq] at transits
  obtain ⟨⟨embedded, entering⟩, _, settling, moving⟩ := outcome_bind_eq_ok.1 transits
  obtain ⟨embeds, rfl⟩ := outcome_settle_eq_ok.1 settling
  obtain ⟨moved, moves, same⟩ := outcome_map_eq_ok.1 moving
  cases same
  rw [transit_eq, restack_outside]
  unfold TokenAction.changeEmbedded at embeds ⊢
  split at embeds
  · left
    refine outcome_bind_eq_ok.2 ⟨(none, none), _, rfl, ?_⟩
    exact outcome_map_eq_ok.2 ⟨_, outcome_map_eq_ok.2 ⟨_, moves, rfl⟩, rfl⟩
  · right
    split at embeds
    · cases embeds
    · next inside => exact ⟨by simpa using inside, rfl⟩
  · split at embeds <;> cases embeds

theorem behind_outside (found : Found) (token : String) (changed : Scan) :
    behind found token changed.outside = (behind found token changed).outside := by
  unfold behind
  split <;> rfl

/-- The end of a step does not look at the embedded language. -/
theorem concludeWith_outside (guarded : Bool) {action : TokenAction} {token : String}
    (concludes : outcome (host.concludeWith guarded scan found action token changed none) trace =
      (.ok (.goOn next), later)) :
    outcome (host.concludeWith guarded scan.outside found action token changed.outside none) trace =
      (.ok (.goOn next.outside), later) := by
  have ends := concludeWith_leads guarded concludes
  cases ends
  unfold concludeWith at concludes ⊢
  rw [behind_outside]
  split at concludes
  · next silent =>
    rw [if_pos silent]
    show outcome (if (!guarded || (Option.isSome none ||
      host.progressed scan (behind found token changed))) = true then _ else _) trace = _
    split at concludes
    · next moved =>
      rw [if_pos moved]
      cases concludes
      rfl
    · cases concludes
  · next audible =>
    rw [if_neg audible]
    obtain ⟨classified, _, classifying, telling⟩ := outcome_bind_eq_ok.1 concludes
    obtain ⟨told, _, tells, ends⟩ := outcome_bind_eq_ok.1 telling
    cases ends
    exact outcome_bind_eq_ok.2 ⟨classified, _, classifying,
      outcome_bind_eq_ok.2 ⟨told, _, tells, rfl⟩⟩

/-- A step does the same outside of any embedded language, unless it leaves one. -/
theorem stepWith_outside (guarded : Bool)
    (leads : outcome (host.stepWith guarded scan) trace = (.ok (.goOn next), later)) :
    outcome (host.stepWith guarded scan.outside) trace = (.ok (.goOn next.outside), later) ∨
      (scan.embedded ≠ none ∧ ∃ last, outcome (host.stepWith guarded scan.outside) trace =
        (.error (.fault ⟨host.tokenizer.language, .notEmbedded⟩), last) ∧ trace.Adds [] last) := by
  unfold stepWith at leads ⊢
  obtain ⟨taken, middle, takes, applies⟩ := outcome_bind_eq_ok.1 leads
  have silent := (quiet_take host scan).adds takes
  rw [outcome_bind_of_ok (take_outside takes)]
  cases taken with
  | none =>
    cases applies
    exact Or.inl rfl
  | some pair =>
    obtain ⟨after, found⟩ := pair
    have inside := (take_ok takes).embedded
    obtain ⟨resolved, _, resolving, acting⟩ := outcome_bind_eq_ok.1 applies
    show outcome (host.applyWith guarded scan.outside after.outside found) middle = _ ∨
      (_ ∧ ∃ last, outcome (host.applyWith guarded scan.outside after.outside found) middle = _ ∧ _)
    have applies : outcome (host.applyWith guarded scan.outside after.outside found) middle = _ :=
      outcome_bind_of_ok resolving
    rw [applies]
    obtain ⟨-, rfl⟩ := outcome_settle_eq_ok.1 resolving
    cases resolved with
    | group members =>
      left
      obtain ⟨changed, splitting, same⟩ := outcome_map_eq_ok.1 acting
      cases same
      obtain ⟨fits, rfl⟩ := outcome_settle_eq_ok.1 splitting
      exact outcome_map_eq_ok.2
        ⟨_, outcome_settle_eq_ok.2 ⟨splitGroupsWith_outside guarded fits, rfl⟩, rfl⟩
    | token action =>
      obtain ⟨⟨changed, entering⟩, _, transits, concludes⟩ := outcome_bind_eq_ok.1 acting
      cases entering with
      | some name => cases concludeWith_leads guarded concludes
      | none =>
        rcases transit_outside transits with same | ⟨within, stops⟩
        · left
          exact (outcome_bind_of_ok same).trans (concludeWith_outside guarded concludes)
        · right
          refine ⟨by rwa [← inside], _, ?_, silent⟩
          exact outcome_bind_eq_error.2 (Or.inl stops)

theorem step_outside (leads : outcome (host.step scan) trace = (.ok (.goOn next), later)) :
    outcome (host.step scan.outside) trace = (.ok (.goOn next.outside), later) ∨
      (scan.embedded ≠ none ∧ ∃ last, outcome (host.step scan.outside) trace =
        (.error (.fault ⟨host.tokenizer.language, .notEmbedded⟩), last) ∧ trace.Adds [] last) := by
  rw [← stepWith_true] at leads ⊢
  exact stepWith_outside true leads

/-- The turns of a scan that stands still are the same outside of any embedded language, or it stops
there because none can be left. -/
theorem turn?_outside (moderate : host.Moderate plain) (ready : host.Ready plain start)
    (comes : host.turn? turns start trace = some (reached, later))
    (stays : reached.position = start.position) :
    host.turn? turns start.outside trace = some (reached.outside, later) ∨
      (start.embedded ≠ none ∧
        host.Halts start.outside trace (.fault ⟨host.tokenizer.language, .notEmbedded⟩)) := by
  induction turns generalizing start trace with
  | zero =>
    obtain ⟨due, rfl, rfl⟩ := eq_of_turn?_zero comes
    exact Or.inl (turn?_zero due)
  | succ turns step =>
    obtain ⟨due, next, middle, leads, rest⟩ := exists_of_turn?_succ comes
    have dueOutside : host.isDue start.outside = true := due
    obtain ⟨-, -, onwards, -, still, -⟩ := step_covers moderate ready leads
    have onwards : start.position ≤ next.position := onwards
    have further := (turn?_onwards moderate (still next rfl) rest).2.1
    have same : next.position = start.position := by omega
    have silent := adds_of_stays moderate ready leads same
    rcases step_outside leads with stepped | ⟨inside, last, stops, adds⟩
    · rcases step (still next rfl) rest (by omega) with comes | ⟨inside, halts⟩
      · exact Or.inl ((turn?_succ dueOutside stepped).trans comes)
      · refine Or.inr ⟨fun outside => inside ?_, ?_⟩
        · rcases embedded_of_step leads with
            ⟨-, within, -⟩ | ⟨-, ⟨_, goes, kept⟩ | ⟨-, _, _, _, enters⟩⟩
          · exact absurd outside within
          · cases goes
            rw [kept, outside]
          · cases enters
        · obtain ⟨steps, last, stops, fault, adds⟩ := halts
          refine ⟨steps + 1, last, ?_, fault, silent.trans adds⟩
          rw [outcome_run_succ, if_pos dueOutside, stepped]
          exact stops
    · exact Or.inr ⟨inside, halts_of_step dueOutside stops nofun adds⟩

end HostLine

/-! ### Groups that read nothing, once more -/

namespace HostLine

variable {host : HostLine} {scan start reached again : Scan} {found : Found} {members : List Action}
  {trace before middle later last : Trace} {turns steps earlier : Nat} {plain : Prop}
  {tokenizers : Set Tokenizer}

/-- A step whose match is split comes to what the split comes to. -/
theorem outcome_step_of_group {after : Scan}
    (takes : outcome (host.take scan) trace = (.ok (some (after, found)), later))
    (leads : found.action.resolve host.settings (host.context scan after found) =
      .ok (.group members)) :
    outcome (host.step scan) trace =
      outcome (Next.goOn <$> settle host.tokenizer (splitGroups scan found members)) later := by
  rw [step_eq, outcome_bind_of_ok takes]
  show outcome (host.apply scan after found) later = _
  unfold apply
  have resolving : outcome (settle host.tokenizer
      ((found.action.resolve host.settings (host.context scan after found)).mapError
        GuardFault.toFault)) later = (.ok (.group members), later) := by
    rw [leads]
    rfl
  exact outcome_bind_of_ok resolving

/-- A step that splits a match which reads nothing goes on with its groups. -/
theorem Pauses.step (pauses : host.Pauses scan before found members later) :
    outcome (host.step scan) before = (.ok (.goOn (scan.paused found members)), later) := by
  rw [outcome_step_of_group pauses.takes pauses.leads, pauses.splittable scan pauses.unpended,
    pauses.unseen]
  rfl

/-- A scan has split a match that reads nothing at a turn, and comes to the same place again. -/
structure ComesBack (host : HostLine) (start : Scan) (trace : Trace) (earlier : Nat) (scan : Scan)
    (before : Trace) (found : Found) (members : List Action) (middle : Trace) (again : Scan)
    (later : Trace) : Prop where
  comes : host.turn? earlier start trace = some (scan, before)
  pauses : host.Pauses scan before found members middle
  returns : ∃ turns, host.turn? turns (scan.paused found members) middle = some (again, later)
  position : again.position = scan.position
  stack : again.stack.names = scan.stack.names
  unpended : again.replay = none

namespace ComesBack

variable (back : host.ComesBack start trace earlier scan before found members middle again later)

include back

/-- A scan that is ready before a match is split is ready behind that. -/
theorem ready (moderate : host.Moderate plain) (starts : host.Ready plain start) :
    host.Ready plain (scan.paused found members) := by
  have standing := (turn?_onwards moderate starts back.comes).1
  obtain ⟨-, -, -, -, still, -⟩ := step_covers moderate standing back.pauses.step
  exact still _ rfl

/-- It is ready behind the same match where it has come back, too. -/
theorem ready_again (moderate : host.Moderate plain) (starts : host.Ready plain start) :
    host.Ready plain (again.paused found members) := by
  have readyFirst := back.ready moderate starts
  unfold Ready at readyFirst ⊢
  show host.Fits _ again.position _
  rw [back.position]
  exact readyFirst

/-- Nothing has been told since the match was split. -/
theorem adds (moderate : host.Moderate plain) (starts : host.Ready plain start) :
    middle.Adds [] later := by
  obtain ⟨turns, returns⟩ := back.returns
  exact (turn?_onwards moderate (back.ready moderate starts) returns).2.2 back.position

/-- What is remembered behind the split is sound. -/
theorem sound_middle (injective : tokenizers.InjOn Tokenizer.identity)
    (known : host.tokenizer ∈ tokenizers) (sound : trace.memories.Sound tokenizers) :
    middle.memories.Sound tokenizers := by
  have self : Agree tokenizers True True (Next.Alike True) (host.step scan) (host.step scan) :=
    agree_step injective known (.refl scan)
  exact self.sound (turn?_sound injective known sound back.comes) back.pauses.step

/-- The same match is taken again, and it is to be split again. -/
theorem takes_again (injective : tokenizers.InjOn Tokenizer.identity)
    (known : host.tokenizer ∈ tokenizers) (sound : trace.memories.Sound tokenizers) :
    ∃ last, outcome (host.take again) later =
        (.ok (some ({ again with due := false }, found)), last) ∧
      found.action.resolve host.settings (host.context again again found) =
        .ok (.group members) := by
  have soundBefore := turn?_sound injective known sound back.comes
  obtain ⟨turns, returns⟩ := back.returns
  have soundLater := turn?_sound injective known (back.sound_middle injective known sound) returns
  obtain ⟨-, searched⟩ := take_rules back.pauses.unpended back.pauses.takes
  obtain ⟨last, same⟩ : ∃ last,
      outcome (host.tokenizer.findAt host.text again.position again.stack.state) later =
        (.ok found, last) := by
    have ends : SameEnd tokenizers True False Eq _ _ :=
      Tokenizer.agree_findAt injective known host.text scan.position
        scan.stack.state before later ⟨soundBefore, soundLater, False.elim, False.elim⟩
    rw [searched, ← back.position, ← Stack.state_eq_of_names back.stack] at ends
    generalize outcome (host.tokenizer.findAt host.text again.position again.stack.state) later =
      ending at ends ⊢
    cases ends with
    | @result _ _ _ last same alike => exact ⟨last, by rw [same]⟩
    | stallsRight lax => exact absurd trivial lax
  refine ⟨last, ?_, ?_⟩
  · unfold take
    rw [back.unpended]
    exact outcome_map_eq_ok.2 ⟨found, same, rfl⟩
  · rw [← back.pauses.leads]
    unfold context
    rw [back.position, Stack.state_eq_of_names back.stack]

/-- The scan that has seen the groups stops for want of progress instead of splitting the match. -/
theorem stops_again (seen : seenEmptyGroup again = true) {last : Trace}
    (takes : outcome (host.take again) later =
      (.ok (some ({ again with due := false }, found)), last))
    (leads : found.action.resolve host.settings (host.context again again found) =
      .ok (.group members)) :
    outcome (host.step again) later =
      (.error (.fault ⟨host.tokenizer.language, .noProgress found.rule⟩), last) := by
  rw [outcome_step_of_group takes leads, back.pauses.splittable again back.unpended, seen]
  rfl

/-- Behind the split, but outside of any embedded language, a scan stops for want of progress where
it comes to the same place, or before that, as no language can be left. -/
theorem halts (injective : tokenizers.InjOn Tokenizer.identity)
    (known : host.tokenizer ∈ tokenizers) (sound : trace.memories.Sound tokenizers)
    (moderate : host.Moderate plain) (starts : host.Ready plain start)
    (outside : again.embedded = none) (seen : seenEmptyGroup again = true) :
    ∃ fault, host.Halts (scan.paused found members).outside middle
        (.fault ⟨host.tokenizer.language, fault⟩) ∧
      (fault = .noProgress found.rule ∨ fault = .notEmbedded ∧ scan.embedded ≠ none) := by
  obtain ⟨turns, returns⟩ := back.returns
  have ready := back.ready moderate starts
  rcases turn?_outside moderate ready returns back.position with comes | ⟨inside, halts⟩
  · refine ⟨_, ?_, Or.inl rfl⟩
    rw [Scan.outside_of_embedded outside] at comes
    obtain ⟨last, takes, leads⟩ := back.takes_again injective known sound
    exact halts_of_turn? comes (back.adds moderate starts)
      (halts_of_step (isDue_of_turn? returns) (back.stops_again seen takes leads) nofun
        ((quiet_take host again).adds takes))
  · exact ⟨_, halts, Or.inr ⟨rfl, inside⟩⟩

/-- Behind a second split of the same match, where the scan has come back outside of any embedded
language, it stops as it does behind the first one outside of any. -/
theorem halts_again (injective : tokenizers.InjOn Tokenizer.identity)
    (known : host.tokenizer ∈ tokenizers) (sound : trace.memories.Sound tokenizers)
    (outside : again.embedded = none) {stop : Stop}
    (halts : host.Halts (scan.paused found members).outside middle stop) {memories : Memories}
    (soundOther : memories.Sound tokenizers) :
    host.Halts (again.paused found members) { middle with memories } stop := by
  have alike : (scan.paused found members).outside.Alike True True
      (again.paused found members) := by
    refine ⟨back.position.symm, back.stack.symm, ?_, rfl, fun _ => ?_, fun _ => rfl⟩
    · show none = again.embedded.map Embedded.content
      rw [outside]
      rfl
    · show some (scan.position, scan.stack.names) = some (again.position, again.stack.names)
      rw [back.position, back.stack]
  exact halts.of_alike injective known alike (back.sound_middle injective known sound) soundOther

end ComesBack

/-- A scan that has started outside of any embedded language is outside of any at each turn. -/
theorem turn?_embedded (outside : start.embedded = none)
    (comes : host.turn? turns start trace = some (reached, later)) : reached.embedded = none := by
  refine turn?_invariant (fun scan _ => scan.embedded = none) (fun outside leads => ?_) outside
    comes
  rcases embedded_of_step leads with ⟨-, inside, -⟩ | ⟨-, ⟨_, same, kept⟩ | ⟨-, _, _, _, same⟩⟩
  · exact absurd outside inside
  · cases same
    rw [kept, outside]
  · cases same

/-- A scan that comes up against groups that read nothing and that it has seen last has split them
at a turn before, and it has come to the same place again. -/
theorem exists_comesBack (moderate : host.Moderate plain) (starts : host.Ready plain start)
    (fresh : start.emptyGroup = none)
    (comes : host.turn? turns start trace = some (scan, before)) {more : Nat}
    (behind : host.turn? more scan before = some (again, later)) (unpended : again.replay = none)
    (kept : again.emptyGroup = scan.emptyGroup) (seen : seenEmptyGroup again = true) :
    again.position = scan.position ∧ ∃ earlier first passed found members middle,
      earlier < turns ∧
      host.ComesBack start trace earlier first passed found members middle again later ∧
      scan.emptyGroup = some (first.position, first.stack) := by
  rcases exists_pauses_of_turn? comes with same |
    ⟨earlier, gap, first, passed, found, members, middle, counts, reaches, pauses, same, leads⟩
  · unfold seenEmptyGroup at seen
    rw [kept, same, fresh] at seen
    cases seen
  · have place : first.position = again.position ∧ first.stack.names = again.stack.names := by
      unfold seenEmptyGroup at seen
      rw [kept, same, Option.any_some, Bool.and_eq_true, beq_iff_eq, Stack.beq_iff] at seen
      exact seen
    have standing := (turn?_onwards moderate starts reaches).1
    obtain ⟨-, -, -, -, still, -⟩ := step_covers moderate standing pauses.step
    obtain ⟨ready, onwards, -⟩ := turn?_onwards moderate (still _ rfl) leads
    have further := (turn?_onwards moderate ready behind).2.1
    have onwards : first.position ≤ scan.position := onwards
    have returns : host.turn? (gap + more) (first.paused found members) middle =
        some (again, later) := by
      rw [turn?_add, leads]
      exact behind
    exact ⟨by omega, earlier, first, passed, found, members, middle, by omega,
      ⟨reaches, pauses, ⟨_, returns⟩, place.1.symm, place.2.symm, unpended⟩, same⟩

/-- A scan has split a match that reads nothing at an earlier turn, inside an embedded language, at
the place where it stands, and it has seen no other such match since then. -/
def PausedInside (host : HostLine) (start : Scan) (trace : Trace) (turns : Nat)
    (scan : Scan) : Prop :=
  ∃ earlier inside before found members middle, earlier < turns ∧
    host.turn? earlier start trace = some (inside, before) ∧
    host.Pauses inside before found members middle ∧ inside.embedded ≠ none ∧
    inside.position = scan.position ∧ scan.emptyGroup = some (inside.position, inside.stack)

end HostLine

end LineLexer
