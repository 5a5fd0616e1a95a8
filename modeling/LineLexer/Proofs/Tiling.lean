import LineLexer.Proofs.Work

/-!
**Tokens tile the line.**

Where no characters are read again, a scan only moves on, and a token is told where it stands before
it moves. So the tokens that are told for a line, in whatever languages its parts are, start at the
first byte of the line and follow each other without gap or overlap.

* `Covers`: events whose tokens start at one offset, increase, and stay before another one;
* `Covers.append`: what is told for neighbouring stretches is told for both;
* `HostLine.Ready`: the invariant of a scan, that the pending groups fit into what is left;
* `step_covers`, `run_covers`: what a step tells, and what a run tells;
* `tokenizeWithin_covers`: what is told for a line;
* `told_behind`: what is told behind a step;
* `tokens_tile_line`: the tokens of a line tile it.
-/

namespace LineLexer

open Scanning

/-! ### Stretches of a line -/

/-- Where a token starts. -/
def Event.offset? : Event → Option Nat
  | .language _ => none
  | .token offset _ _ => some offset

/-- Where the tokens among events start. -/
def offsets (events : List Event) : List Nat := events.filterMap Event.offset?

theorem offsets_append (events others : List Event) :
    offsets (events ++ others) = offsets events ++ offsets others := List.filterMap_append

/-- The tokens among events start at `start`, increase, and stay before `finish`. They are at
boundaries of characters of a line that is told from `shift` on if it is `plain`. -/
structure Covers (line : Text) (shift : Nat) (plain : Prop) (start finish : Nat)
    (events : List Event) : Prop where
  increasing : (offsets events).Pairwise (· < ·)
  within : ∀ offset ∈ offsets events, start ≤ offset ∧ offset < finish
  first : start < finish → (offsets events).head? = some start
  boundary : plain → ∀ offset ∈ offsets events, ∃ before : Text, before <+: line ∧
    offset = shift + before.size

namespace Covers

variable {line part : Text} {shift offset start middle finish : Nat} {plain other : Prop}
  {events more : List Event}

/-- A stretch without bytes has no tokens. -/
theorem silent (line : Text) (shift : Nat) (plain : Prop) (passed : finish ≤ start)
    (nothing : offsets events = []) : Covers line shift plain start finish events where
  increasing := by rw [nothing]; exact List.Pairwise.nil
  within := by rw [nothing]; exact fun offset inside => by cases inside
  first inside := absurd inside (Nat.not_lt.2 passed)
  boundary _ := by rw [nothing]; exact fun offset inside => by cases inside

/-- One token covers a stretch. -/
theorem single (one : offsets events = [start]) (inside : start < finish)
    (bound : plain → ∃ before : Text, before <+: line ∧ start = shift + before.size) :
    Covers line shift plain start finish events where
  increasing := by rw [one]; exact List.pairwise_singleton _ _
  within := by
    rw [one]
    intro offset member
    rw [List.mem_singleton] at member
    omega
  first _ := by rw [one]; rfl
  boundary holds := by
    rw [one]
    intro offset member
    rw [List.mem_singleton] at member
    rw [member]
    exact bound holds

/-- What is told for neighbouring stretches is told for both. -/
theorem append (first : Covers line shift plain start middle events)
    (second : Covers line shift plain middle finish more) (before : start ≤ middle)
    (behind : middle ≤ finish) : Covers line shift plain start finish (events ++ more) where
  increasing := by
    rw [offsets_append, List.pairwise_append]
    refine ⟨first.increasing, second.increasing, fun left inFirst right inSecond => ?_⟩
    have low := (first.within left inFirst).2
    have high := (second.within right inSecond).1
    omega
  within := by
    rw [offsets_append]
    intro offset inside
    rcases List.mem_append.1 inside with inFirst | inSecond
    · have bounds := first.within offset inFirst
      omega
    · have bounds := second.within offset inSecond
      omega
  first inside := by
    rw [offsets_append, List.head?_append]
    rcases Nat.lt_or_eq_of_le before with moves | rfl
    · rw [first.first moves]
      rfl
    · have nothing : offsets events = [] := by
        refine List.eq_nil_iff_forall_not_mem.2 fun offset member => ?_
        have bounds := first.within offset member
        omega
      rw [nothing, second.first inside]
      rfl
  boundary holds := by
    rw [offsets_append]
    intro offset inside
    rcases List.mem_append.1 inside with inFirst | inSecond
    · exact first.boundary holds offset inFirst
    · exact second.boundary holds offset inSecond

/-- A part of a line from a position on is told where it stands in the line. -/
theorem of_drop? (cut : line.drop? offset = some part)
    (covers : Covers part (shift + offset) plain start finish events) :
    Covers line shift plain start finish events where
  increasing := covers.increasing
  within := covers.within
  first := covers.first
  boundary holds place inside := by
    obtain ⟨before, leading, same⟩ := covers.boundary holds place inside
    obtain ⟨skipped, rfl, rfl⟩ := Text.drop?_eq_some_iff.1 cut
    refine ⟨skipped ++ before, (List.prefix_append_right_inj skipped).2 leading, ?_⟩
    rw [Text.size_append, same, Nat.add_assoc]

/-- The first part of a line is told where it stands in the line. -/
theorem of_take? (cut : line.take? offset = some part)
    (covers : Covers part shift plain start finish events) :
    Covers line shift plain start finish events where
  increasing := covers.increasing
  within := covers.within
  first := covers.first
  boundary holds place inside := by
    obtain ⟨before, leading, same⟩ := covers.boundary holds place inside
    obtain ⟨-, after, rfl⟩ := Text.take?_eq_some_iff.1 cut
    exact ⟨before, leading.trans (List.prefix_append part after), same⟩

/-- Boundaries may be asked for in fewer cases. -/
theorem mono (weaker : other → plain) (covers : Covers line shift plain start finish events) :
    Covers line shift other start finish events where
  increasing := covers.increasing
  within := covers.within
  first := covers.first
  boundary holds := covers.boundary (weaker holds)

/-- Behind the end of a line there are no tokens, however far behind. -/
theorem of_min {position size : Nat}
    (covers : Covers line shift plain (shift + min position size) (shift + size) events) :
    Covers line shift plain (shift + position) (shift + size) events where
  increasing := covers.increasing
  within place inside := by
    have bounds := covers.within place inside
    omega
  first inside := by
    have same : min position size = position := by omega
    rw [same] at covers
    exact covers.first inside
  boundary := covers.boundary

/-- The first token, if there is one, is where the stretch starts. -/
theorem head_eq (covers : Covers line shift plain start finish events)
    (leads : (offsets events).head? = some offset) : offset = start := by
  have bounds := covers.within offset (List.mem_of_mem_head? leads)
  have first := covers.first (by omega)
  rw [first, Option.some.injEq] at leads
  exact leads.symm

end Covers

/-! ### Scans that only move on -/

/-- The pending groups, each with its action. -/
def Replay.pending : Option Replay → List (Action × Text)
  | none => []
  | some replay => replay.members

/-- The number of bytes of texts that stand beside actions. -/
def sizeOf (members : List (Action × Text)) : Nat :=
  (members.map fun member => member.2.size).foldr (· + ·) 0

@[simp] theorem sizeOf_nil : sizeOf [] = 0 := rfl

@[simp] theorem sizeOf_cons (member : Action × Text) (members : List (Action × Text)) :
    sizeOf (member :: members) = member.2.size + sizeOf members := rfl

/-- Actions that stand beside texts leave out no text if there are enough of them. -/
theorem sizeOf_zip {members : List Action} {texts : List Text}
    (enough : texts.length = members.length) :
    sizeOf (members.zip texts) = (texts.map Text.size).foldr (· + ·) 0 := by
  have seconds : (members.zip texts).map Prod.snd = texts :=
    List.map_snd_zip (Nat.le_of_eq enough)
  calc sizeOf (members.zip texts)
      = (((members.zip texts).map Prod.snd).map Text.size).foldr (· + ·) 0 := by
        rw [List.map_map]
        rfl
    _ = (texts.map Text.size).foldr (· + ·) 0 := by rw [seconds]

namespace HostLine

variable {host : HostLine} {scan after : Scan} {found : Found} {trace later : Trace}
  {plain : Prop} {steps : Nat}

/-- What a scan needs of its grammar to move on only, and to tell tokens at boundaries of
characters if it is `plain`. -/
structure Moderate (host : HostLine) (plain : Prop) : Prop where
  line : host.line <+: host.text
  forward : host.tokenizer.grammar.anyAction Action.goesBack = false
  single : plain → host.tokenizer.grammar.anyAction Action.hasGroup = false

/-- Groups are pending that fit into what is left of the text and read no characters again; a
`plain` scan has none. -/
structure Fits (host : HostLine) (plain : Prop) (position : Nat) (replay : Option Replay) :
    Prop where
  fits : position + sizeOf (Replay.pending replay) ≤ host.textSize
  forward : ∀ member ∈ Replay.pending replay, member.1.goesBack = false
  single : plain → replay = none

/-- The invariant of a scan. -/
def Ready (host : HostLine) (plain : Prop) (scan : Scan) : Prop :=
  host.Fits plain scan.position scan.replay

/-- No groups always fit. -/
theorem Fits.none {position : Nat} (room : position ≤ host.textSize) :
    host.Fits plain position none where
  fits := room
  forward _ inside := by cases inside
  single _ := rfl

/-- A scan that goes on with given groups is ready if those fit. -/
theorem Fits.leaves {position : Nat} {replay : Option Replay} {next : Next}
    (fits : host.Fits plain position replay) (stands : next.position = position)
    (left : LeavesPending next replay) : ∀ scan, next = .goOn scan → host.Ready plain scan := by
  intro scan same
  subst same
  have kept := left scan rfl
  unfold Ready
  rw [kept, show scan.position = position from stands]
  exact fits

/-- Behind the match that a step takes the groups that are left fit, and so does the match. -/
theorem Took.fits (moderate : host.Moderate plain) (ready : host.Ready plain scan)
    (took : host.Took scan after found) :
    host.Fits plain (scan.position + found.matched.size) after.replay ∧
      found.action.goesBack = false := by
  cases took.source with
  | rules nothingPending nothingLeft finds =>
    have room : scan.position + found.matched.size ≤ host.textSize := by
      rw [host.textSize_eq]
      exact finds.size_le
    rw [nothingLeft]
    exact ⟨.none room, Grammar.eq_false_of_anyAction moderate.forward rfl finds.action⟩
  | pending replay members first taken left =>
    have whole := ready.fits
    have forward := ready.forward
    rw [first, Replay.pending, taken] at whole forward
    rw [sizeOf_cons] at whole
    dsimp only at whole
    have rest : Replay.pending after.replay = members := by
      rw [left]
      cases members <;> rfl
    refine ⟨⟨?_, ?_, fun holds => ?_⟩, forward _ List.mem_cons_self⟩
    · rw [rest]
      omega
    · rw [rest]
      exact fun member inside => forward member (List.mem_cons_of_mem _ inside)
    · have nothing := ready.single holds
      rw [first] at nothing
      cases nothing

/-- Groups may be taken earlier than they are. -/
theorem Fits.earlier {position before : Nat} {replay : Option Replay}
    (fits : host.Fits plain position replay) (le : before ≤ position) :
    host.Fits plain before replay where
  fits := Nat.le_trans (Nat.add_le_add_right le _) fits.fits
  forward := fits.forward
  single := fits.single

/-- Groups that a match has been split into fit where the match does. -/
theorem ready_of_splitGroups {members : List Action} {changed : Scan}
    (moderate : host.Moderate plain) (ready : host.Ready plain scan)
    (took : host.Took scan after found)
    (leads : found.action.resolve host.settings (host.context scan after found) =
      .ok (.group members))
    (fits : splitGroups scan found members = .ok changed) :
    changed.position = scan.position ∧ host.Ready plain changed := by
  obtain ⟨nothing, counted, filled, emptyGroup, rfl⟩ := splitGroups_ok fits
  have forward : Action.anyTokenOf (fun token => token.goBack.isSome) members = false :=
    Action.anyToken_resolve (fun _ => rfl) found.action (took.fits moderate ready).2 leads
  have enough : (found.captures.drop 1).length = members.length := by
    rw [List.length_drop, counted]
    omega
  cases took.source with
  | pending replay _ first _ _ =>
    rw [first] at nothing
    cases nothing
  | rules nothingPending nothingLeft finds =>
    refine ⟨rfl, ?_, ?_, fun holds => ?_⟩
    · show scan.position + sizeOf (members.zip (found.captures.drop 1)) ≤ host.textSize
      rw [sizeOf_zip enough, filled, host.textSize_eq]
      exact finds.size_le
    · intro member inside
      exact Action.anyToken_of_mem forward (List.of_mem_zip inside).1
    · have never : found.action.hasGroup = false :=
        Grammar.eq_false_of_anyAction (moderate.single holds) rfl finds.action
      exact absurd leads (Action.ne_group_of_resolve found.action never)

/-- Where offsets in the line are told for a position in the text. -/
def point (host : HostLine) (position : Nat) : Nat := host.shift + min position host.lineSize

theorem point_le {position other : Nat} (le : position ≤ other) :
    host.point position ≤ host.point other := by
  unfold point
  omega

/-- A position that the rules have looked at is at a boundary of the line, if it is inside. -/
theorem Moderate.boundary (moderate : host.Moderate plain) {position : Nat} {rest : Text}
    (cut : host.text.drop? position = some rest) (inside : position < host.lineSize) :
    ∃ before : Text, before <+: host.line ∧ position = before.size := by
  obtain ⟨before, rfl, whole⟩ := Text.drop?_eq_some_iff.1 cut
  have leading : before <+: host.text := ⟨rest, whole⟩
  rcases List.prefix_or_prefix_of_prefix leading moderate.line with shorter | longer
  · exact ⟨before, shorter, rfl⟩
  · have bytes := Text.size_le_of_isInfix longer.isInfix
    rw [host.lineSize_eq] at inside
    omega

/-- The token of a reading covers what is read, as far as it is inside the line. -/
theorem covers_told (moderate : host.Moderate plain) (ready : host.Ready plain scan)
    (took : host.Took scan after found) (nonempty : found.matched ≠ []) (classification : String)
    (side : Option Side) :
    Covers host.line host.shift plain (host.point scan.position)
      (host.point (scan.position + found.matched.size))
      (host.told scan.position classification side) := by
  have positive : 0 < found.matched.size :=
    Nat.pos_of_ne_zero fun zero => nonempty (Text.size_eq_zero_iff.1 zero)
  unfold told
  split
  · next inside =>
    have start : host.point scan.position = scan.position + host.shift := by
      unfold point
      omega
    refine .single (by rw [start]; rfl) ?_ fun holds => ?_
    · unfold point
      omega
    · cases took.source with
      | pending _ _ first _ _ =>
        have nothing := ready.single holds
        rw [first] at nothing
        cases nothing
      | rules _ _ finds =>
        obtain ⟨rest, cut, -⟩ := finds.inside
        obtain ⟨before, leading, same⟩ := moderate.boundary cut inside
        exact ⟨before, leading, by omega⟩
  · next outside =>
    refine .silent _ _ _ ?_ rfl
    unfold point
    omega

/-- A step tells a token for what it moves over. -/
theorem step_covers (moderate : host.Moderate plain) (ready : host.Ready plain scan) {next : Next}
    (done : outcome (host.step scan) trace = (.ok next, later)) :
    ∃ events, trace.Adds events later ∧ scan.position ≤ next.position ∧
      next.position ≤ host.textSize ∧ (∀ scan, next = .goOn scan → host.Ready plain scan) ∧
      Covers host.line host.shift plain (host.point scan.position) (host.point next.position)
        events := by
  have standing : scan.position ≤ host.textSize := by
    have whole := ready.fits
    omega
  rw [step_eq] at done
  obtain ⟨taken, middle, takes, applies⟩ := outcome_bind_eq_ok.1 done
  have silent := (quiet_take host scan).adds takes
  cases taken with
  | none =>
    obtain ⟨rfl, replay, first, empty⟩ := take_none takes
    cases applies
    refine ⟨[], silent, Nat.le_refl _, standing, fun scan same => ?_,
      .silent _ _ _ (Nat.le_refl _) rfl⟩
    cases same
    exact .none standing
  | some pair =>
    obtain ⟨after, found⟩ := pair
    have took := take_ok takes
    obtain ⟨fits, forward⟩ := took.fits moderate ready
    obtain ⟨events, adds, applied⟩ := apply_ok forward took.position applies
    refine ⟨events, silent.trans adds, ?_⟩
    cases applied with
    | split leads splits =>
      obtain ⟨stands, still⟩ := ready_of_splitGroups moderate ready took leads splits
      refine ⟨Nat.le_of_eq stands.symm, Nat.le_trans (Nat.le_of_eq stands) standing,
        fun scan same => ?_, .silent _ _ _ (point_le (Nat.le_of_eq stands)) rfl⟩
      cases same
      exact still
    | stays stands left =>
      exact ⟨Nat.le_of_eq stands.symm, Nat.le_trans (Nat.le_of_eq stands) standing,
        (fits.earlier (Nat.le_add_right _ _)).leaves stands left,
        .silent _ _ _ (point_le (Nat.le_of_eq stands)) rfl⟩
    | reads nonempty moves left =>
      have room := fits.fits
      refine ⟨by omega, by omega, fits.leaves moves left, ?_⟩
      rw [moves]
      exact covers_told moderate ready took nonempty _ _

/-- Where a scan is when it ends. -/
def departed (host : HostLine) : Departure → Nat
  | .lineEnd _ _ => host.textSize
  | .enter _ position _ => position

/-- A run tells tokens for what it moves over. -/
theorem run_covers (moderate : host.Moderate plain) (ready : host.Ready plain scan)
    {departure : Departure}
    (done : outcome (host.run steps scan) trace = (.ok departure, later)) :
    ∃ events, trace.Adds events later ∧ scan.position ≤ host.departed departure ∧
      Covers host.line host.shift plain (host.point scan.position)
        (host.point (host.departed departure)) events := by
  refine run_ok_induction
    (fun scan trace departure later => host.Ready plain scan →
      ∃ events, trace.Adds events later ∧ scan.position ≤ host.departed departure ∧
        Covers host.line host.shift plain (host.point scan.position)
          (host.point (host.departed departure)) events)
    ?ended ?entered ?wentOn done ready
  case ended =>
    intro scan trace finished ready
    have reached : ¬ scan.position < host.textSize := by
      intro inside
      unfold isDue at finished
      simp [inside] at finished
    have whole := ready.fits
    have stands : scan.position ≤ host.textSize := by omega
    exact ⟨[], .refl trace, stands, .silent _ _ _ (point_le (Nat.le_of_not_lt reached)) rfl⟩
  case entered =>
    intro scan trace name position stack later leads ready
    obtain ⟨events, adds, onwards, -, -, covers⟩ := step_covers moderate ready leads
    exact ⟨events, adds, onwards, covers⟩
  case wentOn =>
    intro scan trace next middle departure later leads rest ready
    obtain ⟨events, adds, onwards, -, still, covers⟩ := step_covers moderate ready leads
    obtain ⟨more, addsMore, further, coversMore⟩ := rest (still next rfl)
    exact ⟨events ++ more, adds.trans addsMore, Nat.le_trans onwards further,
      covers.append coversMore (point_le onwards) (point_le further)⟩

end HostLine

/-! ### Lines whose parts are in several languages -/

/-- No tokenizer that may take part reads characters again. -/
def Forward (registry : Option Registry) (tokenizer : Tokenizer) : Prop :=
  ∀ other, TakesPart registry tokenizer other → other.grammar.anyAction Action.goesBack = false

theorem Forward.guest {registry : Option Registry} {tokenizer guest : Tokenizer} {language : String}
    (forward : Forward registry tokenizer)
    (found : (tokenizer.languages? registry).bind (·.tokenizer? language) = some guest) :
    Forward registry guest := fun other takes => forward other (.of_guest found takes)

/-- No tokenizer that may take part splits matches into groups. -/
def Ungrouped (registry : Option Registry) (tokenizer : Tokenizer) : Prop :=
  ∀ other, TakesPart registry tokenizer other → other.grammar.anyAction Action.hasGroup = false

namespace Job

variable {registry : Option Registry} {steps : Nat} {job part : Job} {trace middle later : Trace}
  {tokenizeLine : Job → Scanning LineState} {state : LineState}

theorem host_lineSize (job : Job) : job.host.lineSize = job.line.size := rfl

/-- Nothing stands behind a line that no line feed ends. -/
theorem host_text_of_not_ended (unended : job.ended = false) : job.host.text = job.line := by
  show (if (job.ended && job.tokenizer.grammar.includeLineFeed) = true then job.line ++ ['\n']
    else job.line) = job.line
  rw [unended]
  rfl

theorem line_prefix_text (job : Job) : job.line <+: job.host.text := by
  show job.line <+: (if _ then job.line ++ ['\n'] else job.line)
  split
  · exact List.prefix_append _ _
  · exact List.prefix_refl _

theorem moderate_host (forward : Forward registry job.tokenizer) :
    job.host.Moderate (Ungrouped registry job.tokenizer) where
  line := job.line_prefix_text
  forward := forward _ .self
  single ungrouped := ungrouped _ .self

theorem ready_start (job : Job) (plain : Prop) : job.host.Ready plain job.start :=
  .none (Nat.zero_le _)

/-- The tokens of a line cover it. -/
def Tiles (registry : Option Registry) (tokenizeLine : Job → Scanning LineState) : Prop :=
  ∀ ⦃job : Job⦄ ⦃trace later : Trace⦄ ⦃state : LineState⦄, Forward registry job.tokenizer →
    job.line ≠ [] → outcome (tokenizeLine job) trace = (.ok state, later) →
    ∃ events, trace.Adds events later ∧
      Covers job.line job.shift (Ungrouped registry job.tokenizer) job.shift
        (job.shift + job.line.size) events

/-- Work that tells one token for a whole line covers it. -/
theorem covers_whole (nonempty : job.line ≠ []) (plain : Prop) {name : String} :
    Covers job.line job.shift plain job.shift (job.shift + job.line.size)
      [.language name, .token job.shift "" none] := by
  have positive : 0 < job.line.size :=
    Nat.pos_of_ne_zero fun zero => nonempty (Text.size_eq_zero_iff.1 zero)
  exact .single rfl (by omega) fun _ => ⟨[], List.nil_prefix, rfl⟩

theorem unlessLong_covers (tiles : Tiles registry tokenizeLine) :
    Tiles registry (unlessLong tokenizeLine) := by
  intro job trace later state forward nonempty done
  rcases unlessLong_ok done with ⟨-, adds⟩ | ⟨-, worked⟩
  · exact ⟨_, adds, covers_whole nonempty _⟩
  · exact tiles forward nonempty worked

/-- What an embedded language tells for a line covers it. -/
theorem delegate_covers (tiles : Tiles registry tokenizeLine)
    (forward : Forward registry job.tokenizer) (nonempty : job.line ≠ []) {embedded : Embedded}
    {left : Option LineState}
    (done : outcome (job.delegate registry tokenizeLine embedded) trace = (.ok left, later)) :
    ∃ events, trace.Adds events later ∧
      Covers job.line job.shift (Ungrouped registry job.tokenizer) job.shift
        (job.shift + job.line.size) events := by
  rcases delegate_ok done with ⟨-, adds⟩ | ⟨guest, state, known, worked⟩
  · exact ⟨_, adds, covers_whole nonempty _⟩
  · obtain ⟨found, line, -, shift⟩ := guestJob?_eq_some known
    obtain ⟨events, adds, covers⟩ :=
      unlessLong_covers tiles (forward.guest found) (by rwa [line]) worked
    rw [line, shift] at covers
    exact ⟨events, adds, covers.mono fun ungrouped other takes =>
      ungrouped other (.of_guest found takes)⟩

/-- What is told behind the scan of a line covers what the scan has left. -/
theorem finish_covers (tiles : Tiles registry tokenizeLine)
    (forward : Forward registry job.tokenizer) {departure : Departure}
    (done : outcome (job.handOver registry departure >>= finish tokenizeLine) trace =
      (.ok state, later)) :
    ∃ events, trace.Adds events later ∧
      Covers job.line job.shift (Ungrouped registry job.tokenizer)
        (job.host.point (job.host.departed departure)) (job.shift + job.line.size) events := by
  obtain ⟨⟨made, rest⟩, middle, hands, finishes⟩ := outcome_bind_eq_ok.1 done
  have silent := (quiet_handOver registry job departure).adds hands
  have reached : job.line.size ≤ job.host.departed departure → rest = none →
      ∃ events, trace.Adds events later ∧
        Covers job.line job.shift (Ungrouped registry job.tokenizer)
          (job.host.point (job.host.departed departure)) (job.shift + job.line.size) events := by
    intro behind nothing
    subst nothing
    cases finishes
    refine ⟨[], silent, .silent _ _ _ ?_ rfl⟩
    show job.shift + job.line.size ≤ job.shift + min _ job.line.size
    omega
  cases departure with
  | lineEnd stack embedded =>
    refine reached ?_ (handOver_lineEnd hands)
    show job.line.size ≤ job.host.textSize
    rw [job.host.textSize_eq]
    exact Text.size_le_of_isInfix (moderate_host forward).line.isInfix
  | enter name position stack =>
    rcases handOver_enter hands with ⟨nothing, behind⟩ | ⟨inside, line, cut, rfl⟩
    · exact reached behind nothing
    · have bytes := Text.size_of_drop? cut
      have nonempty : line ≠ [] := fun empty => by
        rw [empty, Text.size_nil] at bytes
        omega
      obtain ⟨events, adds, covers⟩ :=
        @tiles { job with line, state := made, shift := job.shift + position } _ _ _ forward
          nonempty finishes
      refine ⟨events, silent.trans adds, ?_⟩
      have start : job.host.point position = job.shift + position := by
        show job.shift + min position job.line.size = _
        omega
      have finish : job.shift + position + line.size = job.shift + job.line.size := by omega
      show Covers job.line job.shift _ (job.host.point position) _ events
      rw [start, ← finish]
      exact .of_drop? cut covers

/-- What is told for a line that starts with a scan covers it. -/
theorem scanHost_covers (tiles : Tiles registry tokenizeLine)
    (forward : Forward registry job.tokenizer)
    (done : outcome (job.scanHost registry steps tokenizeLine) trace = (.ok state, later)) :
    ∃ events, trace.Adds events later ∧
      Covers job.line job.shift (Ungrouped registry job.tokenizer) job.shift
        (job.shift + job.line.size) events := by
  rw [scanHost_eq] at done
  obtain ⟨departure, scanned, scans, finishes⟩ := outcome_bind_eq_ok.1 done
  obtain ⟨_, announced, announces, runs⟩ := outcome_bind_eq_ok.1 scans
  cases announces
  have moderate := moderate_host forward
  obtain ⟨events, adds, onwards, covers⟩ :=
    HostLine.run_covers moderate (ready_start job _) runs
  obtain ⟨more, addsMore, coversMore⟩ := finish_covers tiles forward finishes
  have start : job.host.point job.start.position = job.shift := by
    show job.shift + min 0 job.line.size = job.shift
    omega
  rw [start] at covers
  refine ⟨_, ((Trace.Adds.tell trace _).trans adds).trans addsMore, ?_⟩
  have announced : Covers job.line job.shift (Ungrouped registry job.tokenizer) job.shift
      (job.host.point (job.host.departed departure))
      ([.language job.tokenizer.language] ++ events) :=
    ⟨covers.increasing, covers.within, covers.first, covers.boundary⟩
  refine announced.append coversMore ?_ ?_
  · unfold HostLine.point
    exact Nat.le_add_right _ _
  · show job.shift + min _ job.line.size ≤ _
    omega

/-- The line of a scan is the line, or what is left of it behind the embedded language. -/
theorem openWith_covers (tiles : Tiles registry tokenizeLine)
    (forward : Forward registry job.tokenizer)
    (done : outcome (job.openWith registry tokenizeLine) trace = (.ok (.inr part), later)) :
    ∃ offset, job.line.drop? offset = some part.line ∧ part.shift = job.shift + offset ∧
      part.tokenizer = job.tokenizer ∧ part.ended = job.ended ∧
      ∃ events, trace.Adds events later ∧
        Covers job.line job.shift (Ungrouped registry job.tokenizer) job.shift part.shift
          events := by
  rcases openWith_inr done with ⟨-, rfl, rfl⟩ |
    ⟨embedded, offset, rest, -, -, cut, rfl, ⟨rfl, rfl⟩ | ⟨positive, line, left, taken, worked⟩⟩
  · exact ⟨0, Text.drop?_zero _, rfl, rfl, rfl, [], .refl _,
      .silent _ _ _ (Nat.le_refl _) rfl⟩
  · exact ⟨0, cut, rfl, rfl, rfl, [], .refl _, .silent _ _ _ (Nat.le_refl _) rfl⟩
  · obtain ⟨bytes, -⟩ := Text.take?_eq_some_iff.1 taken
    have nonempty : (job.guestPart line).line ≠ [] := fun empty => by
      rw [show line = [] from empty, Text.size_nil] at bytes
      omega
    have guestForward : Forward registry (job.guestPart line).tokenizer := forward
    obtain ⟨events, adds, covers⟩ := delegate_covers tiles guestForward nonempty worked
    refine ⟨offset, cut, rfl, rfl, rfl, events, adds, .of_take? taken ?_⟩
    show Covers line job.shift _ job.shift (job.shift + offset) events
    rw [← bytes]
    exact covers

/-- The tokens of a line that is not empty cover it. -/
theorem tokenizeWithin_covers (registry : Option Registry) (steps depth : Nat) :
    Tiles registry (tokenizeWithin registry steps depth) := by
  induction depth with
  | zero =>
    intro job trace later state _ _ done
    cases done
  | succ depth step =>
    intro job trace later state forward nonempty done
    rw [tokenizeWithin, advance_eq] at done
    obtain ⟨opened, middle, opens, rest⟩ := outcome_bind_eq_ok.1 done
    cases opened with
    | inl made =>
      obtain ⟨embedded, -, -, left, made, worked, silent⟩ := openWith_inl opens
      cases rest
      obtain ⟨events, adds, covers⟩ := delegate_covers step forward nonempty worked
      have told := adds.trans silent
      rw [List.append_nil] at told
      exact ⟨events, told, covers⟩
    | inr part =>
      obtain ⟨offset, cut, shift, tokenizer, -, events, adds, covers⟩ :=
        openWith_covers step forward opens
      have partForward : Forward registry part.tokenizer := by rwa [tokenizer]
      obtain ⟨more, addsMore, coversMore⟩ := scanHost_covers step partForward rest
      have bytes := Text.size_of_drop? cut
      have finish : part.shift + part.line.size = job.shift + job.line.size := by omega
      rw [finish, tokenizer] at coversMore
      have coversRest : Covers job.line job.shift (Ungrouped registry job.tokenizer) part.shift
          (job.shift + job.line.size) more := by
        rw [shift] at coversMore ⊢
        exact .of_drop? cut coversMore
      exact ⟨events ++ more, adds.trans addsMore,
        covers.append coversRest (by omega) (by omega)⟩

end Job

/-! ### What is told behind a step -/

namespace HostLine

variable {host : HostLine} {scan : Scan} {trace later : Trace} {found : Found} {offset : Nat}

/-- A step takes a match and tells one token for it, at an offset. -/
structure Reads (host : HostLine) (scan : Scan) (trace : Trace) (found : Found) (offset : Nat)
    (later : Trace) : Prop where
  takes : ∃ after middle, outcome (host.take scan) trace = (.ok (some (after, found)), middle)
  ends : ∃ next, outcome (host.step scan) trace = (.ok next, later)
  tells : ∃ classification side, trace.Adds [.token offset classification side] later

/-- A step that tells a token moves over the match that the token is for. -/
theorem Reads.moves {plain : Prop} (moderate : host.Moderate plain) (ready : host.Ready plain scan)
    (reads : host.Reads scan trace found offset later) {next : Next}
    (done : outcome (host.step scan) trace = (.ok next, later)) :
    host.shift + next.position = offset + found.matched.size := by
  obtain ⟨after, middle, takes⟩ := reads.takes
  obtain ⟨classification, side, tells⟩ := reads.tells
  have took := take_ok takes
  have silent := (quiet_take host scan).adds takes
  rw [step_eq, outcome_bind_of_ok takes] at done
  obtain ⟨events, adds, applied⟩ :=
    apply_ok (took.fits moderate ready).2 took.position done
  have same : events = [.token offset classification side] :=
    (silent.trans adds).unique tells
  cases applied with
  | split => cases same
  | stays => cases same
  | reads nonempty moves left =>
    unfold told at same
    split at same
    · cases same
      rw [moves]
      omega
    · cases same

/-- Before each turn a scan is ready, and events have only been added. -/
theorem turn?_ready {plain : Prop} {turns : Nat} {start : Scan} {before : Trace}
    (moderate : host.Moderate plain) (ready : host.Ready plain start)
    (comes : host.turn? turns start trace = some (scan, before)) :
    host.Ready plain scan ∧ ∃ events, trace.Adds events before := by
  refine turn?_invariant
    (fun scan before => host.Ready plain scan ∧ ∃ events, trace.Adds events before)
    (fun standing done => ?_) ⟨ready, [], .refl trace⟩ comes
  obtain ⟨still, events, adds⟩ := standing
  obtain ⟨more, addsMore, -, -, onwards, -⟩ := step_covers moderate still done
  exact ⟨onwards _ rfl, events ++ more, adds.trans addsMore⟩

/-- Behind a turn of a run that ends with a departure, what the run has left is told. -/
theorem run_behind {plain : Prop} {steps turns : Nat} {start : Scan} {before after : Trace}
    {departure : Departure} (moderate : host.Moderate plain) (ready : host.Ready plain start)
    (done : outcome (host.run steps start) trace = (.ok departure, later)) (allowed : turns < steps)
    (comes : host.turn? turns start trace = some (scan, before)) {next : Next}
    (leads : outcome (host.step scan) before = (.ok next, after)) :
    next.position ≤ host.textSize ∧
      ∃ events, after.Adds events later ∧ next.position ≤ host.departed departure ∧
        Covers host.line host.shift plain (host.point next.position)
          (host.point (host.departed departure)) events := by
  have standing := (turn?_ready moderate ready comes).1
  obtain ⟨left, rfl⟩ : ∃ left, steps = turns + (left + 1) := ⟨steps - turns - 1, by omega⟩
  rw [run_of_turn? _ comes, outcome_run_succ, if_pos (isDue_of_turn? comes), leads] at done
  obtain ⟨-, -, -, room, still, -⟩ := step_covers moderate standing leads
  refine ⟨room, ?_⟩
  cases next with
  | goOn next => exact run_covers moderate (still next rfl) done
  | enter name position stack =>
    cases done
    exact ⟨[], .refl _, Nat.le_refl _, .silent _ _ _ (Nat.le_refl _) rfl⟩

end HostLine

namespace Work

open Job

variable {registry : Option Registry} {steps : Nat} {work inner : Work} {host : HostLine}
  {scan : Scan} {before after later : Trace} {state : LineState} {next : Next}

/-- What is told behind a step of a scan, from where the step has moved to. -/
def Continues (registry : Option Registry) (host : HostLine) (next : Next) (after : Trace)
    (job : Job) (later : Trace) : Prop :=
  ∃ events, after.Adds events later ∧
    Covers job.line job.shift (Ungrouped registry job.tokenizer) (host.shift + next.position)
      (job.shift + job.line.size) events ∧
    (job.ended = false → host.shift + next.position ≤ job.shift + job.line.size)

/-- Where the scan of a line takes a turn, the rest of that line is told behind it. -/
theorem Scans.continues {depth : Nat} {job part : Job} {trace middle : Trace} {turns : Nat}
    (forward : Forward registry job.tokenizer)
    (done : outcome (tokenizeWithin registry steps (depth + 1) job) trace = (.ok state, later))
    (opens : outcome (job.openWith registry (tokenizeWithin registry steps depth)) trace =
      (.ok (.inr part), middle))
    (allowed : turns < steps)
    (comes : part.host.turn? turns part.start
      { middle with events := middle.events.push (.language part.tokenizer.language) } =
        some (scan, before))
    (leads : outcome (part.host.step scan) before = (.ok next, after)) :
    Continues registry part.host next after job later := by
  have tiles := tokenizeWithin_covers registry steps depth
  rw [outcome_of_opens opens] at done
  obtain ⟨offset, cut, shift, tokenizer, ended, -⟩ := openWith_covers tiles forward opens
  have partForward : Forward registry part.tokenizer := by rwa [tokenizer]
  have moderate := moderate_host partForward
  have bytes := Text.size_of_drop? cut
  have finish : part.shift + part.line.size = job.shift + job.line.size := by omega
  obtain ⟨departure, scanned, scans, finishes⟩ := outcome_bind_eq_ok.1 done
  obtain ⟨_, announced, announces, runs⟩ := outcome_bind_eq_ok.1 scans
  cases announces
  obtain ⟨room, events, adds, onwards, covers⟩ :=
    HostLine.run_behind moderate (ready_start part _) runs allowed comes leads
  obtain ⟨more, addsMore, coversMore⟩ := finish_covers tiles partForward finishes
  have whole : Covers part.line part.shift (Ungrouped registry part.tokenizer)
      (part.host.point next.position) (part.shift + part.line.size) (events ++ more) := by
    refine covers.append coversMore (HostLine.point_le onwards) ?_
    show part.shift + min _ part.line.size ≤ _
    omega
  refine ⟨events ++ more, adds.trans addsMore, ?_, fun unended => ?_⟩
  · have placed := Covers.of_min whole
    rw [host_lineSize, finish, tokenizer] at placed
    show Covers job.line job.shift _ (part.shift + next.position) _ _
    rw [shift] at placed ⊢
    exact .of_drop? cut placed
  · have size : part.host.textSize = part.line.size := by
      rw [part.host.textSize_eq, host_text_of_not_ended (ended.trans unended)]
    rw [size] at room
    show part.shift + next.position ≤ _
    omega

/-- Work on a line that is not empty, of tokenizers that read no characters again, comes to a
state. -/
structure Comes (registry : Option Registry) (steps : Nat) (work : Work) (state : LineState)
    (later : Trace) : Prop where
  forward : Forward registry work.job.tokenizer
  nonempty : work.job.line ≠ []
  done : outcome (tokenizeWithin registry steps work.depth work.job) work.trace = (.ok state, later)

/-- What the tokenizer of an embedded language continues with is part of the line. -/
theorem Continues.of_guest {job guest : Job} {embedded : Embedded}
    (known : job.guestJob? registry embedded = some guest)
    (continues : Continues registry host next after guest later) :
    Continues registry host next after job later := by
  obtain ⟨found, line, ended, shift⟩ := guestJob?_eq_some known
  obtain ⟨events, adds, covers, bounded⟩ := continues
  rw [line, shift] at covers bounded
  rw [ended] at bounded
  exact ⟨events, adds, covers.mono fun ungrouped other takes =>
    ungrouped other (.of_guest found takes), bounded⟩

/-- What is silent behind the work on a line adds nothing to what continues it. -/
theorem Continues.of_silent {job : Job} {middle : Trace} (silent : middle.Adds [] later)
    (continues : Continues registry host next after job middle) :
    Continues registry host next after job later := by
  obtain ⟨events, adds, covers, bounded⟩ := continues
  have told := adds.trans silent
  rw [List.append_nil] at told
  exact ⟨events, told, covers, bounded⟩

/-- What continues the rest of a line continues the line. -/
theorem Continues.of_drop? {job rest : Job} {offset : Nat}
    (cut : job.line.drop? offset = some rest.line) (shift : rest.shift = job.shift + offset)
    (tokenizer : rest.tokenizer = job.tokenizer) (ended : rest.ended = job.ended)
    (continues : Continues registry host next after rest later) :
    Continues registry host next after job later := by
  obtain ⟨events, adds, covers, bounded⟩ := continues
  have bytes := Text.size_of_drop? cut
  have finish : rest.shift + rest.line.size = job.shift + job.line.size := by omega
  rw [finish, tokenizer] at covers
  rw [finish, ended] at bounded
  rw [shift] at covers
  exact ⟨events, adds, .of_drop? cut covers, bounded⟩

/-- Work whose tokenizer is that of an embedded language comes to a state with the line's. -/
theorem comes_of_delegate {depth : Nat} {job guest : Job} {embedded : Embedded}
    {trace : Trace} {left : Option LineState} (forward : Forward registry job.tokenizer)
    (nonempty : job.line ≠ []) (known : job.guestJob? registry embedded = some guest)
    (short : guest.line.size ≤ guest.tokenizer.limits.lineLength)
    (done : outcome (job.delegate registry (tokenizeWithin registry steps depth) embedded) trace =
      (.ok left, later)) :
    ∃ state, Comes registry steps ⟨depth, guest, trace⟩ state later := by
  obtain ⟨found, line, -, -⟩ := guestJob?_eq_some known
  rcases delegate_ok done with ⟨unknown, -⟩ | ⟨other, state, same, worked⟩
  · rw [known] at unknown
    cases unknown
  · rw [known, Option.some.injEq] at same
    subst same
    rcases unlessLong_ok worked with ⟨long, -⟩ | ⟨-, tokenized⟩
    · omega
    · exact ⟨state, forward.guest found, by rwa [line], tokenized⟩

/-- A part of the work comes to a state, and what continues the part continues the work. -/
def Carries (registry : Option Registry) (steps : Nat) (work inner : Work) (later : Trace) : Prop :=
  ∃ made behind, Comes registry steps inner made behind ∧
    ∀ {host next after}, Continues registry host next after inner.job behind →
      Continues registry host next after work.job later

section

variable {depth : Nat} {job guest part rest : Job} {trace middle scanned : Trace}
  {embedded : Embedded}

/-- Where all of the line is in an embedded language, nothing is told behind that language. -/
theorem carries_whole (comes : Comes registry steps ⟨depth + 1, job, trace⟩ state later)
    (inside : job.state.embedded? = some embedded)
    (stays : job.tokenizer.leavingOffset? job.state.stack.state job.line = .ok none)
    (known : job.guestJob? registry embedded = some guest)
    (short : guest.line.size ≤ guest.tokenizer.limits.lineLength) :
    Carries registry steps ⟨depth + 1, job, trace⟩ ⟨depth, guest, trace⟩ later := by
  obtain ⟨forward, nonempty, done⟩ := comes
  rw [tokenizeWithin, advance_eq] at done
  obtain ⟨opened, middle, opens, ends⟩ := outcome_bind_eq_ok.1 done
  cases opened with
  | inl made =>
    cases ends
    obtain ⟨other, same, -, left, behind, worked, silent⟩ := openWith_inl opens
    rw [inside, Option.some.injEq] at same
    subst same
    obtain ⟨made, guestComes⟩ := comes_of_delegate forward nonempty known short worked
    exact ⟨made, behind, guestComes, fun continues => (continues.of_guest known).of_silent silent⟩
  | inr part =>
    rcases openWith_inr opens with ⟨outside, -⟩ | ⟨_, _, _, -, leaves, -⟩
    · rw [inside] at outside
      cases outside
    · rw [stays] at leaves
      cases leaves

/-- Where the first part of the line is in an embedded language, a scan tells the rest. -/
theorem carries_before {offset : Nat} {line : Text}
    (comes : Comes registry steps ⟨depth + 1, job, trace⟩ state later)
    (inside : job.state.embedded? = some embedded)
    (leaves : job.tokenizer.leavingOffset? job.state.stack.state job.line = .ok (some offset))
    (positive : 0 < offset) (taken : job.line.take? offset = some line)
    (known : (job.guestPart line).guestJob? registry embedded = some guest)
    (short : guest.line.size ≤ guest.tokenizer.limits.lineLength) :
    Carries registry steps ⟨depth + 1, job, trace⟩ ⟨depth, guest, trace⟩ later := by
  obtain ⟨forward, nonempty, done⟩ := comes
  rw [tokenizeWithin, advance_eq] at done
  obtain ⟨opened, middle, opens, scans⟩ := outcome_bind_eq_ok.1 done
  cases opened with
  | inl made =>
    obtain ⟨_, _, stays, -⟩ := openWith_inl opens
    rw [leaves] at stays
    cases stays
  | inr part =>
    rcases openWith_inr opens with ⟨outside, -⟩ |
      ⟨other, place, rest, same, found, cut, rfl, ⟨zero, -⟩ | ⟨-, first, left, took, worked⟩⟩
    · rw [inside] at outside
      cases outside
    · rw [leaves] at found
      cases found
      omega
    · rw [inside] at same
      cases same
      rw [leaves] at found
      cases found
      rw [taken] at took
      cases took
      have bytes := (Text.take?_eq_some_iff.1 taken).1
      have restBytes : offset + rest.size = job.line.size := Text.size_of_drop? cut
      have firstNonempty : (job.guestPart line).line ≠ [] := fun empty => by
        rw [show line = [] from empty, Text.size_nil] at bytes
        omega
      have firstForward : Forward registry (job.guestPart line).tokenizer := forward
      have restForward : Forward registry (job.hostPart rest offset).tokenizer := forward
      obtain ⟨made, guestComes⟩ :=
        comes_of_delegate firstForward firstNonempty known short worked
      refine ⟨made, middle, guestComes, fun continues => ?_⟩
      obtain ⟨events, adds, covers, bounded⟩ := continues.of_guest known
      obtain ⟨more, addsMore, coversMore⟩ :=
        scanHost_covers (tokenizeWithin_covers registry steps depth) restForward scans
      have near : _ ≤ job.shift + line.size := bounded rfl
      have coversFirst : Covers job.line job.shift (Ungrouped registry job.tokenizer) _
          (job.shift + line.size) events := .of_take? taken covers
      have coversRest : Covers job.line job.shift (Ungrouped registry job.tokenizer)
          (job.shift + offset) (job.shift + offset + rest.size) more := .of_drop? cut coversMore
      have finish : job.shift + offset + rest.size = job.shift + job.line.size := by omega
      rw [bytes] at coversFirst
      rw [finish] at coversRest
      show Continues registry _ _ _ job later
      exact ⟨events ++ more, adds.trans addsMore,
        coversFirst.append coversRest (by omega) (by omega), fun _ => by omega⟩

/-- Where the rest of the line is in another language, that language tells the rest. -/
theorem carries_behind {departure : Departure} {made : LineState} {handed : Trace}
    (comes : Comes registry steps ⟨depth + 1, job, trace⟩ state later)
    (scans : Scans registry steps ⟨depth + 1, job, trace⟩ part middle)
    (departs : outcome (part.scanOwn steps) middle = (.ok departure, scanned))
    (hands : outcome (part.handOver registry departure) scanned = (.ok (made, some rest), handed)) :
    Carries registry steps ⟨depth + 1, job, trace⟩ ⟨depth, rest, handed⟩ later := by
  obtain ⟨forward, nonempty, done⟩ := comes
  cases scans with
  | opens opens =>
    have tiles := tokenizeWithin_covers registry steps depth
    obtain ⟨offset, cut, shift, tokenizer, ended, -⟩ := openWith_covers tiles forward opens
    rw [outcome_of_opens opens, outcome_bind_of_ok departs, outcome_bind_of_ok hands] at done
    obtain ⟨name, position, stack, line, -, inside, dropped, rfl⟩ := rest_of_handOver hands
    have bytes := Text.size_of_drop? dropped
    have restNonempty : line ≠ [] := fun empty => by
      rw [empty, Text.size_nil] at bytes
      omega
    have restForward : Forward registry part.tokenizer := by rwa [tokenizer]
    refine ⟨state, later, ⟨restForward, restNonempty, done⟩, fun {host next after} behind => ?_⟩
    have continues : Continues registry host next after part later :=
      @Continues.of_drop? _ _ _ _ _ part
        { part with line, state := made, shift := part.shift + position } _ dropped rfl rfl rfl
        behind
    exact continues.of_drop? cut shift tokenizer ended

end

/-- Work that comes to a state has parts that do, and what continues a part continues the work. -/
theorem Gives.carries (gives : Gives registry steps work inner)
    (comes : Comes registry steps work state later) :
    Carries registry steps work inner later := by
  cases gives with
  | whole inside stays known short => exact carries_whole comes inside stays known short
  | before inside leaves positive taken known short =>
    exact carries_before comes inside leaves positive taken known short
  | behind scans departs hands => exact carries_behind comes scans departs hands

/-- Behind a step of a scan that belongs to the work on a line, what is left of the line is told
from where the step has moved to. -/
theorem told_behind (involves : Involves registry steps work inner)
    (comes : Comes registry steps work state later)
    (visits : inner.Visits registry steps host scan before)
    (leads : outcome (host.step scan) before = (.ok next, after)) :
    Continues registry host next after work.job later := by
  unfold Involves at involves
  induction involves using Relation.ReflTransGen.head_induction_on generalizing state later with
  | refl =>
    cases visits with
    | turn scans allowed turn =>
      cases scans with
      | opens opens => exact Scans.continues comes.forward comes.done opens allowed turn leads
  | head gives _ step =>
    obtain ⟨made, behind, innerComes, carries⟩ := gives.carries comes
    exact carries (step innerComes)

end Work

namespace Work

open Job

variable {registry : Option Registry} {steps : Nat} {work inner : Work} {host : HostLine}
  {scan : Scan} {before : Trace}

/-- Before each turn of the scan in the work on a line the scan is ready, and events have only been
added. -/
theorem Visits.ready (forward : Forward registry work.job.tokenizer)
    (visits : work.Visits registry steps host scan before) :
    (∃ plain, host.Moderate plain ∧ host.Ready plain scan) ∧
      ∃ events, work.trace.Adds events before := by
  cases visits with
  | @turn part middle scans turns allowed scan trace comes =>
    have partForward : Forward registry part.tokenizer := by rwa [scans.tokenizer]
    have moderate := moderate_host partForward
    obtain ⟨ready, events, adds⟩ :=
      HostLine.turn?_ready moderate (ready_start part _) comes
    refine ⟨⟨_, moderate, ready⟩, ?_⟩
    cases scans with
    | opens opens =>
      obtain ⟨-, -, -, -, -, opening, addsOpening, -⟩ :=
        openWith_covers (tokenizeWithin_covers registry steps _) forward opens
      exact ⟨_, (addsOpening.trans (.tell middle _)).trans adds⟩

/-- Before a part of the work on a line events have only been added. -/
theorem Gives.adds (forward : Forward registry work.job.tokenizer)
    (gives : Gives registry steps work inner) : ∃ events, work.trace.Adds events inner.trace := by
  cases gives with
  | whole => exact ⟨[], .refl _⟩
  | before => exact ⟨[], .refl _⟩
  | @behind depth job part rest trace middle scanned later departure state scans departs hands =>
    have partForward : Forward registry part.tokenizer := by rwa [scans.tokenizer]
    cases scans with
    | opens opens =>
      obtain ⟨-, -, -, -, -, opening, addsOpening, -⟩ :=
        openWith_covers (tokenizeWithin_covers registry steps _) forward opens
      obtain ⟨_, announced, announces, runs⟩ := outcome_bind_eq_ok.1 departs
      cases announces
      obtain ⟨events, adds, -⟩ :=
        HostLine.run_covers (moderate_host partForward) (ready_start part _) runs
      have silent := (quiet_handOver registry part departure).adds hands
      exact ⟨_, ((addsOpening.trans (.tell middle _)).trans adds).trans silent⟩

/-- Where no tokenizer of the work on a line reads characters again, none does in the work on a part
of it. -/
theorem Involves.forward (involves : Involves registry steps work inner)
    (forward : Forward registry work.job.tokenizer) : Forward registry inner.job.tokenizer :=
  fun other takes => forward other (involves.takesPart.trans takes)

/-- Before the work on a part of a line, of whatever depth, events have only been added. -/
theorem Involves.adds (forward : Forward registry work.job.tokenizer)
    (involves : Involves registry steps work inner) :
    ∃ events, work.trace.Adds events inner.trace := by
  unfold Involves at involves
  induction involves with
  | refl => exact ⟨[], .refl _⟩
  | @tail between inner reaches gives step =>
    obtain ⟨events, adds⟩ := step
    obtain ⟨more, addsMore⟩ := gives.adds (Involves.forward reaches forward)
    exact ⟨events ++ more, adds.trans addsMore⟩

end Work

/-- The tokens of a line tile it. Whatever the limits of the scans, where no tokenizer that may take
part makes characters be read again, the tokens that are told for a line start where the line
starts, increase, and stay inside the line; the token behind that of a reading starts where the
reading ends; and where no tokenizer splits matches into groups, tokens start between
characters. -/
theorem Job.tokens_tile_line {registry : Option Registry} {steps depth : Nat} {job : Job}
    {trace later : Trace} {state : LineState} (forward : Forward registry job.tokenizer)
    (nonempty : job.line ≠ [])
    (done : outcome (job.unlessLong (tokenizeWithin registry steps depth)) trace =
      (.ok state, later)) :
    ∃ events, trace.Adds events later ∧
      (offsets events).head? = some job.shift ∧
      (offsets events).Pairwise (· < ·) ∧
      (∀ offset ∈ offsets events, offset < job.shift + job.line.size) ∧
      (∀ {inner host scan before found offset after},
        job.line.size ≤ job.tokenizer.limits.lineLength →
        Work.Involves registry steps ⟨depth, job, trace⟩ inner →
        inner.Visits registry steps host scan before →
        host.Reads scan before found offset after →
        ∃ told classification side rest,
          events = told ++ .token offset classification side :: rest ∧
          ∀ next, (offsets rest).head? = some next → next = offset + found.matched.size) ∧
      (Ungrouped registry job.tokenizer →
        ∀ offset ∈ offsets events, ∃ before, job.line.take? (offset - job.shift) = some before) := by
  have positive : 0 < job.line.size :=
    Nat.pos_of_ne_zero fun zero => nonempty (Text.size_eq_zero_iff.1 zero)
  obtain ⟨events, adds, covers⟩ :=
    unlessLong_covers (tokenizeWithin_covers registry steps depth) forward nonempty done
  refine ⟨events, adds, covers.first (by omega), covers.increasing,
    fun offset inside => (covers.within offset inside).2, ?_, fun ungrouped offset inside => ?_⟩
  · intro inner host scan before found offset after short involves visits reads
    rcases unlessLong_ok done with ⟨long, -⟩ | ⟨-, worked⟩
    · omega
    · have innerForward := involves.forward forward
      obtain ⟨first, addsFirst⟩ := involves.adds forward
      obtain ⟨⟨plain, moderate, ready⟩, second, addsSecond⟩ := visits.ready innerForward
      obtain ⟨classification, side, tells⟩ := reads.tells
      obtain ⟨next, leads⟩ := reads.ends
      obtain ⟨rest, told, coversRest, -⟩ :=
        Work.told_behind involves ⟨forward, nonempty, worked⟩ visits leads
      have moved := reads.moves moderate ready leads
      have whole := adds.unique (((addsFirst.trans addsSecond).trans tells).trans told)
      refine ⟨first ++ second, classification, side, rest, ?_, fun place leading =>
        (coversRest.head_eq leading).trans moved⟩
      rw [whole, List.append_assoc, List.singleton_append]
  · obtain ⟨before, ⟨after, whole⟩, same⟩ := covers.boundary ungrouped offset inside
    exact ⟨before, Text.take?_eq_some_iff.2 ⟨by omega, after, whole⟩⟩

/-- A line of one grammar with a part of another one inside. -/
def nestedJob (outer : Grammar) : Job where
  tokenizer := { identity := 0, grammar := outer, linked := true }
  line := ['a', '<', 'b', 'c', 'é', '>', 'd']
  ended := true
  state := .host default (.root default outer.start)

/-- A registry that knows one grammar. -/
def registryOf (inner : Grammar) : Registry := .register {} { identity := 1, grammar := inner }

theorem Job.tokens_tile_nested_line :
    ∃ (registry : Registry) (job : Job) (state : LineState) (later : Trace),
      job.line = ['a', '<', 'b', 'c', 'é', '>', 'd'] ∧
      Forward (some registry) job.tokenizer ∧
      outcome (job.unlessLong (tokenizeWithin (some registry) 100 10)) {} = (.ok state, later) ∧
      ∃ events, Trace.Adds {} events later ∧ offsets events = [0, 1, 2, 3, 4, 6, 7] ∧
        (offsets events).head? = some job.shift ∧ (offsets events).Pairwise (· < ·) ∧
        ∀ offset ∈ offsets events, offset < job.shift + job.line.size := by
  obtain ⟨outer, -, passes⟩ := Grammar.exists_of_compiles
    (Grammar.compileText "outer"
      "\x7b\"tokenizer\": \x7b\"main\": [
        [\"<\", \x7b\"token\": \"tag\", \"nextEmbedded\": \"inner\"\x7d],
        [\">\", \x7b\"token\": \"tag\", \"nextEmbedded\": \"@pop\"\x7d],
        [\"a\", \"text\"]]\x7d\x7d" false)
    (fun outer => (Grammar.compileText "inner"
      "\x7b\"tokenizer\": \x7b\"main\": [[\"(b)(c)\", [\"odd\", \"even\"]]]\x7d\x7d"
      false).result.toOption.any fun inner =>
        !outer.anyAction Action.goesBack && !inner.anyAction Action.goesBack &&
          let ends := outcome ((nestedJob outer).unlessLong
            (tokenizeWithin (some (registryOf inner)) 100 10)) {}
          ends.1.toOption.any fun _ =>
            decide (offsets ends.2.events.toList = [0, 1, 2, 3, 4, 6, 7]))
    (by decide +kernel)
  obtain ⟨inner, -, passes⟩ := Grammar.exists_of_compiles _ _ passes
  rw [Bool.and_eq_true, Bool.and_eq_true, Bool.not_eq_true', Bool.not_eq_true'] at passes
  obtain ⟨⟨outerForward, innerForward⟩, ends⟩ := passes
  obtain ⟨state, later, done, placed⟩ := exists_of_outcome
    (fun _ later => decide (offsets later.events.toList = [0, 1, 2, 3, 4, 6, 7])) ends
  have forward : Forward (some (registryOf inner)) (nestedJob outer).tokenizer := by
    intro other takes
    refine takes.of_registered (fun other => other.grammar.anyAction _ = false)
      outerForward fun entry listed => ?_
    have same : entry = (inner.language, { identity := 1, grammar := inner }) :=
      List.mem_singleton.1 listed
    rw [same]
    exact innerForward
  obtain ⟨events, adds, first, increasing, within, -⟩ :=
    tokens_tile_line forward (List.cons_ne_nil _ _) done
  refine ⟨registryOf inner, nestedJob outer, state, later, rfl, forward, done, events, adds, ?_,
    first, increasing, within⟩
  have same : later.events.toList = events := adds
  rw [← same]
  exact of_decide_eq_true placed

end LineLexer
