import LineLexer.Proofs.Stops
import LineLexer.Proofs.Tiling
import Mathlib.Tactic.ByContra

/-!
**Where cuts fail.**

A line is cut where the rules look at what lies behind a position, where the embedded language ends,
and where another one starts. Where no characters are read again, no position lies behind the end,
and a cut fails exactly where one of them has come to lie inside a character:

* `Uncut`: computations that never stop because a cut fails;
* `HostLine.Slips`, `step_cut_iff`: the position of a scan is inside a character;
* `Work.Slips`, `Work.stops_cut_iff`: so is that of a scan in the work on a line, or the place
  where a language starts;
* `HostLine.Strays`: steps behind which the position is not where the match ends;
* `Job.cut_iff_slips`: a line is stopped by a cut if a scan slips, and no scan slips unless one has
  strayed.
-/

namespace LineLexer

open Scanning

namespace Scanning

variable {Result : Type}

/-- A computation that never stops because a cut fails. -/
def Uncut (scanning : Scanning Result) : Prop :=
  ∀ trace later, outcome scanning trace ≠ (.error .cut, later)

end Scanning

/-! ### Steps -/

namespace HostLine

variable {host : HostLine} {scan after : Scan} {found : Found} {trace later : Trace}
  {plain : Prop} {steps : Nat}

/-- No group is pending, rules hold in the state of a scan, and they cannot look at what lies behind
its position. -/
structure Slips (host : HostLine) (scan : Scan) : Prop where
  unpended : scan.replay = none
  holds : host.tokenizer.grammar.stateExists scan.stack.state = true
  inside : host.text.drop? scan.position = none

/-- The rules cannot be looked up exactly where a scan slips. -/
theorem take_cut_iff :
    (∃ later, outcome (host.take scan) trace = (.error .cut, later)) ↔ host.Slips scan := by
  constructor
  · rintro ⟨later, stopped⟩
    unfold take at stopped
    split at stopped
    · split at stopped <;> cases stopped
    · next unpended =>
      have searched := outcome_map_eq_error.1 stopped
      unfold Tokenizer.findAt at searched
      split at searched
      · exact absurd searched (never_settle id _ _ _ _)
      · next rules holding =>
        have holds : host.tokenizer.grammar.stateExists scan.stack.state = true := by
          unfold Grammar.stateExists
          rw [holding]
          rfl
        rcases outcome_bind_eq_error.1 searched with cutting | ⟨rest, middle, -, matching⟩
        · exact ⟨unpended, holds, (outcome_cut_eq_error.1 cutting).1⟩
        · exact absurd matching (never_bind (Tokenizer.never_firstMatch id _ _ _ _ _)
            (fun _ => never_pure _) _ _)
  · rintro ⟨unpended, holds, inside⟩
    obtain ⟨rules, holding⟩ := Option.isSome_iff_exists.1 holds
    refine ⟨trace, ?_⟩
    unfold take Tokenizer.findAt
    rw [unpended, holding, inside]
    rfl

/-- A scan that moves on only is stopped by a cut exactly where it slips. -/
theorem step_cut_iff (moderate : host.Moderate plain) (ready : host.Ready plain scan) :
    (∃ later, outcome (host.step scan) trace = (.error .cut, later)) ↔ host.Slips scan := by
  rw [step_eq, ← take_cut_iff]
  constructor
  · rintro ⟨later, stopped⟩
    rcases outcome_bind_eq_error.1 stopped with taking | ⟨taken, middle, takes, applying⟩
    · exact ⟨later, taking⟩
    · cases taken with
      | none => exact absurd applying (never_pure _ _ _)
      | some pair =>
        have forward := ((take_ok takes).fits moderate ready).2
        exact absurd applying (never_apply id (fun _ => forward) _ _)
  · rintro ⟨later, taking⟩
    exact ⟨later, outcome_bind_eq_error.2 (Or.inl taking)⟩

/-- A run is stopped by a cut exactly where the scan slips at one of its turns. -/
theorem run_cut_iff (moderate : host.Moderate plain) (ready : host.Ready plain scan) :
    (∃ later, outcome (host.run steps scan) trace = (.error .cut, later)) ↔
      ∃ turns < steps, ∃ reached before, host.turn? turns scan trace = some (reached, before) ∧
        host.Slips reached := by
  constructor
  · rintro ⟨later, stopped⟩
    induction steps generalizing scan trace with
    | zero => cases stopped
    | succ steps step =>
      rw [outcome_run_succ] at stopped
      split at stopped
      · next due =>
        split at stopped
        · next next middle leads =>
          obtain ⟨-, -, -, -, still, -⟩ := step_covers moderate ready leads
          obtain ⟨turns, allowed, reached, before, comes, slips⟩ := step (still next rfl) stopped
          exact ⟨turns + 1, Nat.succ_lt_succ allowed, reached, before,
            (turn?_succ due leads).trans comes, slips⟩
        · cases stopped
        · next stop middle stops =>
          obtain ⟨⟨rfl⟩, rfl⟩ := Prod.mk.inj stopped
          exact ⟨0, Nat.succ_pos steps, scan, trace, turn?_zero due,
            (step_cut_iff moderate ready).1 ⟨_, stops⟩⟩
      · cases stopped
  · rintro ⟨turns, allowed, reached, before, comes, slips⟩
    obtain ⟨left, rfl⟩ : ∃ left, steps = turns + (left + 1) := ⟨steps - turns - 1, by omega⟩
    have standing := (turn?_ready moderate ready comes).1
    obtain ⟨later, stops⟩ := (step_cut_iff moderate standing).2 slips
    refine ⟨later, ?_⟩
    rw [run_of_turn? _ comes, outcome_run_succ, if_pos (isDue_of_turn? comes), stops]

end HostLine

/-! ### Steps that stray -/

namespace HostLine

variable {host : HostLine} {scan after : Scan} {found : Found} {trace later : Trace} {rest : Text}
  {next : Next} {plain : Prop} {steps turns : Nat}

/-- Behind a step of a scan the position may not be where the match of the step ends: the rules
match elsewhere than at the position, or the text of a group is not moved over, or a language starts
while groups are left. -/
inductive Strays (host : HostLine) (scan : Scan) (trace : Trace) : Prop where
  | aside {after : Scan} {found : Found} {later : Trace} {rest : Text}
      (unpended : scan.replay = none)
      (takes : outcome (host.take scan) trace = (.ok (some (after, found)), later))
      (behind : host.text.drop? scan.position = some rest) (elsewhere : ¬ found.matched <+: rest)
  | short {replay : Replay} {action : Action} {text : Text} {members : List (Action × Text)}
      {next : Next} {later : Trace} (first : scan.replay = some replay)
      (taken : replay.members = (action, text) :: members)
      (leads : outcome (host.step scan) trace = (.ok next, later))
      (stops : next.position ≠ scan.position + text.size)
  | early {replay : Replay} {action : Action} {text : Text} {members : List (Action × Text)}
      {name : String} {position : Nat} {stack : Stack} {later : Trace}
      (first : scan.replay = some replay) (taken : replay.members = (action, text) :: members)
      (leads : outcome (host.step scan) trace = (.ok (.enter name position stack), later))
      (left : sizeOf members ≠ 0)

/-- A position of a text that is between characters. -/
def Between (host : HostLine) (position : Nat) : Prop :=
  ∃ before : Text, before <+: host.text ∧ position = before.size

/-- The pending groups of a scan end between characters. -/
def Level (host : HostLine) (scan : Scan) : Prop :=
  host.Between (scan.position + sizeOf (Replay.pending scan.replay))

/-- Between characters the text can be cut. -/
theorem Between.exists_drop? {position : Nat} (between : host.Between position) :
    ∃ rest, host.text.drop? position = some rest := by
  obtain ⟨before, ⟨rest, whole⟩, same⟩ := between
  exact ⟨rest, Text.drop?_eq_some_iff.2 ⟨before, same.symm, whole⟩⟩

/-- A match that starts where the scan stands ends between characters. -/
theorem between_of_leading (behind : host.text.drop? scan.position = some rest)
    (leading : found.matched <+: rest) : host.Between (scan.position + found.matched.size) := by
  obtain ⟨before, bytes, whole⟩ := Text.drop?_eq_some_iff.1 behind
  refine ⟨before ++ found.matched, ?_, ?_⟩
  · rw [← whole]
    exact (List.prefix_append_right_inj before).2 leading
  · rw [Text.size_append, bytes]

/-- A scan whose pending groups end between characters does not slip. -/
theorem Level.not_slips (level : host.Level scan) : ¬ host.Slips scan := by
  intro slips
  unfold Level at level
  rw [slips.unpended, Replay.pending, sizeOf_nil, Nat.add_zero] at level
  obtain ⟨rest, behind⟩ := level.exists_drop?
  rw [slips.inside] at behind
  cases behind

/-- Behind a step that goes on with given groups these end where they did. -/
theorem level_of_leaves {replay : Option Replay}
    (between : host.Between (next.position + sizeOf (Replay.pending replay)))
    (left : LeavesPending next replay) : ∀ scan, next = .goOn scan → host.Level scan := by
  intro scan same
  subst same
  unfold Level
  rw [left scan rfl]
  exact between

/-- What the rules find where a scan stands leaves it level, unless they match elsewhere. -/
theorem level_of_rules (level : host.Level scan) (unpended : scan.replay = none)
    (nothingLeft : after.replay = none) (ends : host.Between (scan.position + found.matched.size))
    {events : List Event} (applied : host.Applied scan after found next events) :
    (∀ scan, next = .goOn scan → host.Level scan) ∧
      ∀ name position stack, next = .enter name position stack → host.Between position := by
  unfold Level at level
  rw [unpended, Replay.pending, sizeOf_nil, Nat.add_zero] at level
  cases applied with
  | @split members changed leads fits =>
    obtain ⟨-, counted, filled, emptyGroup, rfl⟩ := splitGroups_ok fits
    refine ⟨fun scan same => ?_, fun name position stack same => by cases same⟩
    cases same
    unfold Level
    have enough : (found.captures.drop 1).length = members.length := by
      rw [List.length_drop, counted]
      omega
    rw [Replay.pending, sizeOf_zip enough, filled]
    exact ends
  | stays stands left =>
    constructor
    · refine level_of_leaves ?_ left
      rw [nothingLeft, stands]
      exact level
    · intro name position stack same
      subst same
      rw [show position = scan.position from stands]
      exact level
  | reads nonempty moves left =>
    constructor
    · refine level_of_leaves ?_ left
      rw [nothingLeft, moves]
      exact ends
    · intro name position stack same
      subst same
      rw [show position = scan.position + found.matched.size from moves]
      exact ends

/-- A step of a level scan that does not stray leads to a level scan, or to a language that starts
between characters. -/
theorem level_step (moderate : host.Moderate plain) (ready : host.Ready plain scan)
    (level : host.Level scan) (straight : ¬ host.Strays scan trace)
    (leads : outcome (host.step scan) trace = (.ok next, later)) :
    (∀ scan, next = .goOn scan → host.Level scan) ∧
      ∀ name position stack, next = .enter name position stack → host.Between position := by
  have steps := leads
  rw [step_eq] at steps
  obtain ⟨taken, middle, takes, applies⟩ := outcome_bind_eq_ok.1 steps
  cases taken with
  | none =>
    obtain ⟨-, replay, first, empty⟩ := take_none takes
    cases applies
    refine ⟨fun scan same => ?_, fun name position stack same => by cases same⟩
    cases same
    unfold Level at level ⊢
    rw [first, Replay.pending, empty] at level
    exact level
  | some pair =>
    obtain ⟨after, found⟩ := pair
    have took := take_ok takes
    obtain ⟨events, -, applied⟩ := apply_ok (took.fits moderate ready).2 took.position applies
    cases took.source with
    | rules unpended nothingLeft finds =>
      obtain ⟨rest, behind, -⟩ := finds.inside
      have leading : found.matched <+: rest := by
        by_contra elsewhere
        exact straight (.aside unpended takes behind elsewhere)
      exact level_of_rules level unpended nothingLeft (between_of_leading behind leading) applied
    | pending replay members first taken left =>
      have moves : next.position = scan.position + found.matched.size := by
        by_contra stops
        exact straight (.short first taken leads stops)
      have rest : Replay.pending after.replay = members := by
        rw [left]
        cases members <;> rfl
      unfold Level at level
      rw [first, Replay.pending, taken, sizeOf_cons, ← Nat.add_assoc] at level
      dsimp only at level
      rw [← moves] at level
      constructor
      · cases applied with
        | split resolves fits =>
          have nothing := (splitGroups_ok fits).1
          rw [first] at nothing
          cases nothing
        | stays stands keeps => exact level_of_leaves (by rwa [rest]) keeps
        | reads nonempty onwards keeps => exact level_of_leaves (by rwa [rest]) keeps
      · intro name position stack same
        subst same
        have nothing : sizeOf members = 0 := by
          by_contra some
          exact straight (.early first taken leads some)
        rw [nothing, Nat.add_zero] at level
        exact level

theorem level_start (job : Job) : job.host.Level job.start := ⟨[], List.nil_prefix, rfl⟩

/-- A scan that has not strayed is level before each turn. -/
theorem turn?_level (moderate : host.Moderate plain) (ready : host.Ready plain scan)
    (level : host.Level scan) {reached : Scan}
    (straight : ∀ earlier < turns, ∀ passed before,
      host.turn? earlier scan trace = some (passed, before) → ¬ host.Strays passed before)
    (comes : host.turn? turns scan trace = some (reached, later)) : host.Level reached := by
  induction turns generalizing scan trace with
  | zero =>
    obtain ⟨-, rfl, rfl⟩ := eq_of_turn?_zero comes
    exact level
  | succ turns step =>
    obtain ⟨due, next, middle, leads, rest⟩ := exists_of_turn?_succ comes
    obtain ⟨-, -, -, -, still, -⟩ := step_covers moderate ready leads
    have here := straight 0 (Nat.succ_pos turns) scan trace (turn?_zero due)
    refine step (still next rfl) ((level_step moderate ready level here leads).1 next rfl) ?_ rest
    intro earlier sooner passed before turn
    exact straight (earlier + 1) (Nat.succ_lt_succ sooner) passed before
      ((turn?_succ due leads).trans turn)

/-- Where a language starts, a scan has come to a turn whose step starts it. -/
theorem exists_turn?_of_enter {name : String} {position : Nat} {stack : Stack}
    (enters : outcome (host.run steps scan) trace = (.ok (.enter name position stack), later)) :
    ∃ turns < steps, ∃ reached before, host.turn? turns scan trace = some (reached, before) ∧
      outcome (host.step reached) before = (.ok (.enter name position stack), later) := by
  induction steps generalizing scan trace with
  | zero => cases enters
  | succ steps step =>
    rw [outcome_run_succ] at enters
    split at enters
    · next due =>
      split at enters
      · next next middle leads =>
        obtain ⟨turns, allowed, reached, before, comes, ends⟩ := step enters
        exact ⟨turns + 1, Nat.succ_lt_succ allowed, reached, before,
          (turn?_succ due leads).trans comes, ends⟩
      · next leads =>
        cases enters
        exact ⟨0, Nat.succ_pos steps, scan, trace, turn?_zero due, leads⟩
      · cases enters
    · cases enters

end HostLine

/-! ### The work on a line -/

/-- A language always starts. -/
theorem Tokenizer.exists_embed (tokenizer : Tokenizer) (registry : Option Registry) (name : String)
    (trace : Trace) :
    ∃ embedded later, outcome (tokenizer.embed registry name) trace = (.ok embedded, later) := by
  unfold embed
  dsimp only
  split
  · exact ⟨_, _, rfl⟩
  · exact ⟨_, _, rfl⟩

namespace Job

variable {registry : Option Registry} {steps : Nat} {job part : Job} {trace later : Trace}
  {tokenizeLine : Job → Scanning LineState}

/-- A line cannot be handed over exactly where a language starts inside a character. -/
theorem handOver_cut {departure : Departure}
    (stopped : outcome (job.handOver registry departure) trace = (.error .cut, later)) :
    ∃ name position stack, departure = .enter name position stack ∧ position < job.line.size ∧
      job.line.drop? position = none := by
  cases departure with
  | lineEnd stack embedded =>
    exact absurd stopped (never_bind (never_share _ _) (fun _ => never_pure _) _ _)
  | enter name position stack =>
    refine ⟨name, position, stack, rfl, ?_⟩
    unfold handOver at stopped
    rcases outcome_bind_eq_error.1 stopped with early | ⟨embedded, _, -, sharing⟩
    · exact absurd early (Tokenizer.never_embed _ _ _ _ _)
    · rcases outcome_bind_eq_error.1 sharing with early | ⟨state, _, -, cutting⟩
      · exact absurd early (never_share _ _ _ _)
      · split at cutting
        · next inside =>
          rcases outcome_bind_eq_error.1 cutting with here | ⟨_, _, -, ending⟩
          · exact ⟨inside, (outcome_cut_eq_error.1 here).1⟩
          · exact absurd ending (never_pure _ _ _)
        · exact absurd cutting (never_pure _ _ _)

/-- Where a language starts inside a character, the line cannot be handed over. -/
theorem exists_handOver_cut {name : String} {position : Nat} {stack : Stack}
    (inside : position < job.line.size) (slips : job.line.drop? position = none) (trace : Trace) :
    ∃ later, outcome (job.handOver registry (.enter name position stack)) trace =
      (.error .cut, later) := by
  obtain ⟨embedded, middle, embeds⟩ := job.tokenizer.exists_embed registry name trace
  unfold handOver
  rw [outcome_bind_of_ok embeds, outcome_bind, outcome_share]
  dsimp only
  rw [if_pos inside, slips]
  exact ⟨_, rfl⟩

/-- The scan of a line is stopped by a cut exactly where it slips at one of its turns. -/
theorem scanOwn_cut_iff (forward : Forward registry job.tokenizer) :
    (∃ later, outcome (job.scanOwn steps) trace = (.error .cut, later)) ↔
      ∃ turns < steps, ∃ reached before,
        job.host.turn? turns job.start
            { trace with events := trace.events.push (.language job.tokenizer.language) } =
          some (reached, before) ∧ job.host.Slips reached :=
  HostLine.run_cut_iff (moderate_host forward) (ready_start job _)

end Job

namespace Work

open Job

variable {registry : Option Registry} {steps : Nat} {work inner : Work}

/-- A cut fails in the work on a line itself: at a turn of its scan the position is inside a
character, or a language starts inside one. -/
inductive Slips (registry : Option Registry) (steps : Nat) (work : Work) : Prop where
  | scan {host : HostLine} {scan : Scan} {before : Trace}
      (visits : work.Visits registry steps host scan before) (slips : host.Slips scan)
  | entry {part : Job} {middle scanned : Trace} {name : String} {position : Nat} {stack : Stack}
      (scans : work.Scans registry steps part middle)
      (departs : outcome (part.scanOwn steps) middle =
        (.ok (.enter name position stack), scanned))
      (inside : position < part.line.size) (slips : part.line.drop? position = none)

/-- Where a cut fails in the work on a line itself, it is stopped. -/
theorem Slips.stops (forward : Forward registry work.job.tokenizer)
    (slips : work.Slips registry steps) : work.Stops registry steps .cut := by
  cases slips with
  | scan visits slips =>
    cases visits with
    | @turn part middle scans turns allowed scan trace comes =>
      have partForward : Forward registry part.tokenizer := by rwa [scans.tokenizer]
      obtain ⟨later, stopped⟩ :=
        (scanOwn_cut_iff partForward).2 ⟨turns, allowed, _, _, comes, slips⟩
      exact (StopsItself.scan scans stopped).stops
  | entry scans departs inside slips =>
    obtain ⟨later, stopped⟩ := exists_handOver_cut inside slips _
    exact (StopsItself.handOver scans departs stopped).stops

/-- Work that is stopped by a cut is stopped in itself, or one of its parts is. -/
theorem slips_or_gives (forward : Forward registry work.job.tokenizer)
    (stops : work.Stops registry steps .cut) :
    work.Slips registry steps ∨
      ∃ inner, Gives registry steps work inner ∧ inner.depth + 1 = work.depth ∧
        inner.Stops registry steps .cut := by
  by_cases deep : work.depth = 0
  · obtain ⟨later, stopped⟩ := stops
    rw [deep] at stopped
    cases stopped
  · rcases stops.own_or_gives id deep with itself | gives
    · refine Or.inl ?_
      rcases itself with @⟨part, middle, later, scans, stopped⟩ |
        @⟨part, middle, scanned, later, departure, scans, departs, stopped⟩
      · have partForward : Forward registry part.tokenizer := by rwa [scans.tokenizer]
        obtain ⟨turns, allowed, reached, before, comes, slips⟩ :=
          (scanOwn_cut_iff partForward).1 ⟨later, stopped⟩
        exact .scan (.turn scans allowed comes) slips
      · obtain ⟨name, position, stack, rfl, inside, slips⟩ := handOver_cut stopped
        exact .entry scans departs inside slips
    · exact Or.inr gives

/-- Where no characters are read again, the work on a line is stopped by a cut exactly where a cut
fails in the work on a part of it. -/
theorem stops_cut_iff (forward : Forward registry work.job.tokenizer) :
    work.Stops registry steps .cut ↔
      ∃ inner, Involves registry steps work inner ∧ inner.Slips registry steps := by
  constructor
  · intro stops
    induction level : work.depth generalizing work with
    | zero =>
      rcases slips_or_gives forward stops with slips | ⟨inner, -, above, -⟩
      · exact ⟨work, .refl, slips⟩
      · omega
    | succ depth step =>
      rcases slips_or_gives forward stops with slips | ⟨between, gives, above, stops⟩
      · exact ⟨work, .refl, slips⟩
      · have forwardBetween := Involves.forward (.single gives) forward
        obtain ⟨inner, involves, slips⟩ := step forwardBetween stops (by omega)
        exact ⟨inner, .head gives involves, slips⟩
  · rintro ⟨inner, involves, slips⟩
    unfold Involves at involves
    induction involves using Relation.ReflTransGen.head_induction_on with
    | refl => exact slips.stops forward
    | head gives _ step => exact gives.stops (step (Involves.forward (.single gives) forward))

/-- Where no step of the scan in the work on a line strays, no cut fails in that work itself. -/
theorem not_slips (forward : Forward registry work.job.tokenizer)
    (straight : ∀ {host scan before}, work.Visits registry steps host scan before →
      ¬ host.Strays scan before) : ¬ work.Slips registry steps := by
  have level : ∀ {part : Job} {middle : Trace}, work.Scans registry steps part middle →
      ∀ {turns : Nat} {reached : Scan} {before : Trace}, turns < steps →
        part.host.turn? turns part.start
            { middle with events := middle.events.push (.language part.tokenizer.language) } =
          some (reached, before) → part.host.Level reached := by
    intro part middle scans turns reached before allowed comes
    have partForward : Forward registry part.tokenizer := by rwa [scans.tokenizer]
    refine HostLine.turn?_level (moderate_host partForward) (ready_start part _)
      (HostLine.level_start part) (fun earlier sooner scan trace turn => ?_) comes
    exact straight (.turn scans (Nat.lt_trans sooner allowed) turn)
  intro slips
  cases slips with
  | scan visits slips =>
    cases visits with
    | turn scans allowed comes => exact (level scans allowed comes).not_slips slips
  | @entry part middle scanned name position stack scans departs inside slips =>
    have partForward : Forward registry part.tokenizer := by rwa [scans.tokenizer]
    have moderate := moderate_host partForward
    obtain ⟨_, announced, announces, runs⟩ := outcome_bind_eq_ok.1 departs
    cases announces
    obtain ⟨turns, allowed, reached, before, comes, enters⟩ := HostLine.exists_turn?_of_enter runs
    have standing := (HostLine.turn?_ready moderate (ready_start part _) comes).1
    have between : part.host.Between position :=
      (HostLine.level_step moderate standing (level scans allowed comes)
        (straight (.turn scans allowed comes)) enters).2 name position stack rfl
    obtain ⟨rest, behind⟩ := between.exists_drop?
    obtain ⟨leading, ⟨left, whole⟩, same⟩ := moderate.boundary behind inside
    have cuts : part.line.drop? position = some left :=
      Text.drop?_eq_some_iff.2 ⟨leading, same.symm, whole⟩
    rw [slips] at cuts
    cases cuts

end Work

/-- Where no tokenizer that may take part makes characters be read again, a line is stopped by a cut
exactly where the scan in the work on a part of it slips, or a language starts inside a character.
No scan stands behind the end of its text before a turn, and no cut fails where no step has
strayed. -/
theorem Job.cut_iff_slips {registry : Option Registry} {steps depth : Nat} {job : Job}
    {trace : Trace} (forward : Forward registry job.tokenizer) :
    ((∃ later, outcome (job.unlessLong (tokenizeWithin registry steps depth)) trace =
        (.error .cut, later)) ↔
      job.line.size ≤ job.tokenizer.limits.lineLength ∧
        ∃ inner, Work.Involves registry steps ⟨depth, job, trace⟩ inner ∧
          inner.Slips registry steps) ∧
    ∀ {inner}, Work.Involves registry steps ⟨depth, job, trace⟩ inner →
      (∀ {host scan before}, inner.Visits registry steps host scan before →
        scan.position ≤ host.textSize) ∧
      ((∀ {host scan before}, inner.Visits registry steps host scan before →
        ¬ host.Strays scan before) → ¬ inner.Slips registry steps) := by
  constructor
  · rw [← Work.stops_cut_iff forward]
    constructor
    · rintro ⟨later, stopped⟩
      obtain ⟨short, works⟩ := unlessLong_stop_iff.1 stopped
      exact ⟨short, later, works⟩
    · rintro ⟨short, later, works⟩
      exact ⟨later, unlessLong_stop_iff.2 ⟨short, works⟩⟩
  · intro inner involves
    have innerForward := involves.forward forward
    refine ⟨fun visits => ?_, Work.not_slips innerForward⟩
    obtain ⟨⟨plain, -, ready⟩, -⟩ := visits.ready innerForward
    exact Nat.le_trans (Nat.le_add_right _ _) ready.fits

/-- The description of a grammar whose rule splits a match into two groups, the first of which is to
be read again. -/
def rematchSource : String :=
  "\x7b\"tokenizer\": \x7b\"main\": [
    [\"(a)(é)\", [\x7b\"token\": \"@rematch\"\x7d, \"x\"]]]\x7d\x7d"

/-- A line whose second character takes two bytes. -/
def straightJob (grammar : Grammar) : Job where
  tokenizer := { identity := 0, grammar }
  line := ['a', 'é']
  ended := false
  state := .host default (.root default grammar.start)

/-- The second group is read where the first one starts, so the scan comes to stand inside it. -/
theorem exists_straightJob_cut :
    ∃ grammar later, (Grammar.compileText "toy" rematchSource false).result = .ok grammar ∧
      grammar.anyAction Action.goesBack = false ∧
      outcome ((straightJob grammar).tokenize none) {} = (.error .cut, later) := by
  obtain ⟨grammar, compiles, passes⟩ := Grammar.exists_of_compiles
    (Grammar.compileText "toy" rematchSource false)
    (fun grammar => !grammar.anyAction Action.goesBack &&
      match (outcome ((straightJob grammar).tokenize none) {}).1 with
      | .error .cut => true
      | _ => false)
    (by decide +kernel)
  rw [Bool.and_eq_true, Bool.not_eq_true'] at passes
  obtain ⟨forward, stops⟩ := passes
  refine ⟨grammar, _, compiles, forward, Prod.ext ?_ rfl⟩
  split at stops
  · assumption
  · cases stops

/-- Without a registry only the grammar of the line matters. -/
theorem forward_of_alone {tokenizer : Tokenizer}
    (forward : tokenizer.grammar.anyAction Action.goesBack = false) : Forward none tokenizer := by
  intro other takes
  rw [takes.eq_of_alone]
  exact forward

theorem Job.straightJob_slips :
    ∃ grammar, Forward none (straightJob grammar).tokenizer ∧
      ∃ inner, Work.Involves none (stepLimit ['a', 'é']) ⟨nestingLimit, straightJob grammar, {}⟩
          inner ∧ inner.Slips none (stepLimit ['a', 'é']) := by
  obtain ⟨grammar, later, -, forward, stopped⟩ := exists_straightJob_cut
  have alone : Forward none (straightJob grammar).tokenizer := forward_of_alone forward
  exact ⟨grammar, alone, ((Job.cut_iff_slips alone).1.1 ⟨later, stopped⟩).2⟩

/-- A grammar may make a cut fail that makes no characters be read again. -/
theorem Job.not_forall_uncut :
    ¬ ∀ (source : String) (grammar : Grammar) (registry : Option Registry) (job : Job),
      (Grammar.compileText "toy" source false).result = .ok grammar →
      job.tokenizer.grammar = grammar → Forward registry job.tokenizer →
      Uncut (job.tokenize registry) := by
  intro uncut
  obtain ⟨grammar, later, compiles, forward, stopped⟩ := exists_straightJob_cut
  exact uncut rematchSource grammar none (straightJob grammar) compiles rfl
    (forward_of_alone forward) _ _ stopped

end LineLexer
