import LineLexer.Proofs.Boundary
import LineLexer.Proofs.Consuming

/-!
**How deep the parts of a line nest.**

A part of a line is in a state that embeds fewer languages, or it is shorter than the line. Only
where a language starts before anything has been read, the part is all of the line again. Such a
restart leads into a state that embeds one language, so the parts nest without end only if there are
restarts without end.

* `LineState.nesting`, `Job.weight`: how many languages a state embeds, and what parts use up;
* `Work.Restarts`, `Work.Gives.weight`: restarts, and that other parts weigh less;
* `Work.Descends`, `Work.Descends.length_add_weight_le`: chains of parts, and how long they are;
* `Work.stops_exhausted_iff`: work that is stopped for want of depth;
* `Work.exhausted_iff_descends`: the same where every match reads something.
-/

namespace LineLexer

open Scanning

/-! ### How many languages a state embeds -/

namespace LineState

/-- The number of languages that are embedded in one another. -/
def nesting : LineState → Nat
  | host _ _ => 0
  | unknown _ _ _ => 0
  | embedding _ _ _ inner => inner.nesting + 1

theorem nesting_eq (state : LineState) :
    state.nesting =
      ((state.embedded?.bind Embedded.state).map fun inner => inner.nesting + 1).getD 0 := by
  cases state <;> rfl

end LineState

/-- A language starts in a state that embeds none. -/
theorem Tokenizer.nesting_of_initialState {tokenizer : Tokenizer} {state : LineState}
    {trace later : Trace}
    (done : outcome tokenizer.initialState trace = (.ok state, later)) : state.nesting = 0 := by
  obtain ⟨root, _, -, makes⟩ := outcome_bind_eq_ok.1 done
  rw [LineState.nesting_eq, (lineState_ok makes).2]
  rfl

theorem Tokenizer.nesting_of_embed {tokenizer : Tokenizer} {registry : Option Registry}
    {name : String} {embedded : Embedded} {inner : LineState} {trace later : Trace}
    (done : outcome (tokenizer.embed registry name) trace = (.ok embedded, later))
    (known : embedded.state = some inner) : inner.nesting = 0 := by
  unfold embed at done
  dsimp only at done
  split at done
  · obtain ⟨state, _, starts, ends⟩ := outcome_bind_eq_ok.1 done
    cases ends
    cases known
    exact nesting_of_initialState starts
  · cases done
    cases known

namespace Job

variable {registry : Option Registry} {job rest : Job} {trace later : Trace} {state : LineState}

/-- Behind a language that starts the state embeds that language alone. -/
theorem nesting_of_handOver {name : String} {position : Nat} {stack : Stack} {rest : Option Job}
    (done : outcome (job.handOver registry (.enter name position stack)) trace =
      (.ok (state, rest), later)) : state.nesting ≤ 1 := by
  obtain ⟨embedded, _, embeds, -, carries⟩ := made_of_handOver done
  rw [LineState.nesting_eq, carries, Option.bind_some]
  cases known : embedded.state with
  | none => exact Nat.zero_le 1
  | some inner =>
    rw [Option.map_some, Option.getD_some, Tokenizer.nesting_of_embed embeds known]

/-- What the parts of a line use up: its bytes, and the languages that its state embeds. -/
def weight (job : Job) : Nat := job.state.nesting + 2 * job.line.size

/-- The line as the tokenizer of an embedded language gets it weighs less. -/
theorem weight_guestJob? {embedded : Embedded} {guest : Job}
    (inside : job.state.embedded? = some embedded)
    (known : job.guestJob? registry embedded = some guest) : guest.weight < job.weight := by
  have deeper : job.state.nesting = guest.state.nesting + 1 := by
    rw [LineState.nesting_eq job.state, inside, Option.bind_some, guestJob?_state known]
    rfl
  unfold weight
  rw [deeper, (guestJob?_eq_some known).2.1]
  omega

end Job

namespace Work

open Job

variable {tokenizers : Set Tokenizer} {registry : Option Registry} {steps length restarts : Nat}
  {work between inner : Work} {part : Job} {middle : Trace}

/-- The scan in the work on a line is of a part of the line. -/
theorem Scans.size_le (scans : work.Scans registry steps part middle) :
    part.line.size ≤ work.job.line.size := by
  obtain ⟨offset, rest, cuts, rfl, -⟩ := scans.exists_drop?
  have bytes := Text.size_of_drop? cuts
  show rest.size ≤ _
  omega

/-! ### Parts that are all of the line again -/

/-- A language starts where the scan in the work on a line starts, and all of its text is in it. -/
inductive Restarts (registry : Option Registry) (steps : Nat) : Work → Work → Prop where
  | restarts {depth : Nat} {job part rest : Job} {trace middle scanned later : Trace}
      {name : String} {stack : Stack} {state : LineState}
      (scans : Scans registry steps ⟨depth + 1, job, trace⟩ part middle)
      (departs : outcome (part.scanOwn steps) middle = (.ok (.enter name 0 stack), scanned))
      (hands : outcome (part.handOver registry (.enter name 0 stack)) scanned =
        (.ok (state, some rest), later)) :
      Restarts registry steps ⟨depth + 1, job, trace⟩ ⟨depth, rest, later⟩

theorem Restarts.gives (restarts : Restarts registry steps work inner) :
    Gives registry steps work inner := by
  cases restarts with
  | restarts scans departs hands => exact .behind scans departs hands

/-- A part of a line is no longer than the line, and it weighs less, unless a language has started
before anything has been read. -/
theorem Gives.weight (gives : Gives registry steps work inner) :
    inner.job.line.size ≤ work.job.line.size ∧
      (inner.job.weight < work.job.weight ∨
        Restarts registry steps work inner ∧ inner.job.weight ≤ work.job.weight + 1) := by
  cases gives with
  | whole inside stays known short =>
    refine ⟨?_, Or.inl (weight_guestJob? inside known)⟩
    dsimp only
    rw [(guestJob?_eq_some known).2.1]
  | @before depth job guest trace embedded offset line inside leaves positive taken known short =>
    obtain ⟨rfl, rest, whole⟩ := Text.take?_eq_some_iff.1 taken
    have shorter : line.size ≤ job.line.size := by
      rw [← whole, Text.size_append]
      exact Nat.le_add_right _ _
    have lighter : guest.weight < (job.guestPart line).weight := weight_guestJob? inside known
    refine ⟨?_, Or.inl ?_⟩
    · dsimp only
      rw [(guestJob?_eq_some known).2.1]
      exact shorter
    · unfold Job.weight at lighter ⊢
      have same : (job.guestPart line).line = line := rfl
      have kept : (job.guestPart line).state = job.state := rfl
      rw [same, kept] at lighter
      dsimp only
      omega
  | @behind depth job part rest trace middle scanned later departure state scans departs hands =>
    have shorter := scans.size_le
    dsimp only at shorter ⊢
    obtain ⟨name, position, stack, line, rfl, inside, cuts, rest_eq⟩ := rest_of_handOver hands
    have shallow := nesting_of_handOver hands
    have bytes := Text.size_of_drop? cuts
    have carried : rest.weight = state.nesting + 2 * line.size ∧ rest.line = line := by
      rw [rest_eq]
      exact ⟨rfl, rfl⟩
    rw [carried.1, carried.2]
    unfold Job.weight
    refine ⟨by omega, ?_⟩
    rcases Nat.eq_zero_or_pos position with rfl | onward
    · exact Or.inr ⟨.restarts scans departs hands, by omega⟩
    · exact Or.inl (by omega)

/-! ### Chains of parts -/

/-- A chain of parts of a line, each a part of the one before it: how many there are, and how many
of them are restarts. -/
inductive Descends (registry : Option Registry) (steps : Nat) : Nat → Nat → Work → Work → Prop where
  | refl {work : Work} : Descends registry steps 0 0 work work
  | onward {length restarts : Nat} {work between inner : Work}
      (gives : Gives registry steps work between)
      (reads : ¬ Restarts registry steps work between)
      (follows : Descends registry steps length restarts between inner) :
      Descends registry steps (length + 1) restarts work inner
  | again {length restarts : Nat} {work between inner : Work}
      (starts : Restarts registry steps work between)
      (follows : Descends registry steps length restarts between inner) :
      Descends registry steps (length + 1) (restarts + 1) work inner

/-- Each part of a chain is either one that reads on or a restart. -/
theorem Gives.descends (gives : Gives registry steps work between)
    (follows : Descends registry steps length restarts between inner) :
    ∃ restarts, Descends registry steps (length + 1) restarts work inner := by
  by_cases starts : Restarts registry steps work between
  · exact ⟨_, .again starts follows⟩
  · exact ⟨_, .onward gives starts follows⟩

/-- Parts nest as deep as the weight of the line allows, and two deeper for each restart. -/
theorem Descends.length_add_weight_le
    (descends : Descends registry steps length restarts work inner) :
    length + inner.job.weight ≤ work.job.weight + 2 * restarts := by
  induction descends with
  | refl => omega
  | onward gives reads follows step =>
    rcases gives.weight.2 with less | ⟨starts, -⟩
    · omega
    · exact absurd starts reads
  | again starts follows step =>
    rcases starts.gives.weight.2 with less | ⟨-, more⟩ <;> omega

/-- Where no part is a restart there is none in a chain. -/
theorem Descends.restarts_eq_zero (descends : Descends registry steps length restarts work inner)
    (never : ∀ between inner, Involves registry steps work between →
      ¬ Restarts registry steps between inner) : restarts = 0 := by
  induction descends with
  | refl => rfl
  | onward gives reads follows step =>
    exact step fun between inner involves => never between inner (.head gives involves)
  | @again length restarts work between inner starts follows step =>
    exact absurd starts (never work between .refl)

/-- A part lies one deeper for each part of the chain. -/
theorem Descends.depth_add_length (descends : Descends registry steps length restarts work inner) :
    inner.depth + length = work.depth := by
  have deeper : ∀ {work between : Work}, Gives registry steps work between →
      between.depth + 1 = work.depth := by
    intro work between gives
    cases gives <;> rfl
  induction descends with
  | refl => rfl
  | onward gives reads follows step => rw [← deeper gives, ← step, Nat.add_assoc]
  | again starts follows step => rw [← deeper starts.gives, ← step, Nat.add_assoc]

/-- What stops the work on the last part of a chain stops the work on the line. -/
theorem Descends.stops {stop : Stop}
    (descends : Descends registry steps length restarts work inner)
    (stops : inner.Stops registry steps stop) : work.Stops registry steps stop := by
  induction descends with
  | refl => exact stops
  | onward gives reads follows step => exact gives.stops (step stops)
  | again starts follows step => exact starts.gives.stops (step stops)

/-- Where no part may nest in a line there is no work on it. -/
theorem stops_of_depth_eq_zero (flat : work.depth = 0) :
    work.Stops registry steps .exhausted := by
  refine ⟨work.trace, ?_⟩
  rw [flat]
  rfl

/-- Where no scan has too few steps, the work on a line is stopped for want of depth exactly where
there is a chain of parts as long as the parts may nest. -/
theorem stops_exhausted_iff
    (own : ∀ inner, Involves registry steps work inner →
      ¬ inner.StopsItself registry steps .exhausted) :
    work.Stops registry steps .exhausted ↔
      ∃ inner restarts, Descends registry steps work.depth restarts work inner := by
  constructor
  · intro stops
    induction level : work.depth generalizing work with
    | zero => exact ⟨work, 0, .refl⟩
    | succ depth step =>
      rcases stops.own_or_gives id (by omega) with itself | ⟨between, gives, deeper, stopsToo⟩
      · exact absurd itself (own work .refl)
      · obtain ⟨inner, restarts, follows⟩ :=
          step (fun inner involves => own inner (.head gives involves)) stopsToo (by omega)
        obtain ⟨more, descends⟩ := gives.descends follows
        exact ⟨inner, more, descends⟩
  · rintro ⟨inner, restarts, descends⟩
    have flat : inner.depth = 0 := by
      have deeper := descends.depth_add_length
      omega
    exact descends.stops (stops_of_depth_eq_zero flat)

/-- The same of a line that is passed over if it is too long. -/
theorem unlessLong_exhausted_iff
    (own : ∀ inner, Involves registry steps work inner →
      ¬ inner.StopsItself registry steps .exhausted) :
    (∃ later, outcome (work.job.unlessLong (tokenizeWithin registry steps work.depth)) work.trace =
        (.error .exhausted, later)) ↔
      work.job.line.size ≤ work.job.tokenizer.limits.lineLength ∧
        ∃ inner restarts, Descends registry steps work.depth restarts work inner := by
  rw [← stops_exhausted_iff own]
  constructor
  · rintro ⟨later, stopped⟩
    obtain ⟨short, works⟩ := unlessLong_stop_iff.1 stopped
    exact ⟨short, later, works⟩
  · rintro ⟨short, later, works⟩
    exact ⟨later, unlessLong_stop_iff.2 ⟨short, works⟩⟩

/-! ### Lines whose matches all read something -/

theorem Involves.size_le (involves : Involves registry steps work inner) :
    inner.job.line.size ≤ work.job.line.size := by
  unfold Involves at involves
  induction involves with
  | refl => exact Nat.le_refl _
  | tail _ gives step => exact Nat.le_trans gives.weight.1 step

/-- What the rules see of a line is the line, or one byte more. -/
theorem textSize_le (job : Job) : job.host.textSize ≤ job.line.size + 1 := by
  rw [job.host.textSize_eq]
  show Text.size (if _ then job.line ++ ['\n'] else job.line) ≤ _
  split
  · rw [Text.size_append]
    exact Nat.le_refl _
  · exact Nat.le_succ _

/-- The scan in the work on a line reads something with every match if the tokenizer does. -/
theorem Scans.consuming (scans : work.Scans registry steps part middle)
    (consuming : work.job.tokenizer.Consuming) : part.host.tokenizer.Consuming := by
  show part.tokenizer.Consuming
  rw [scans.tokenizer]
  exact consuming

/-- Where every match reads something, the work on a line is not stopped in itself for want of
steps. -/
theorem not_stopsItself (injective : tokenizers.InjOn Tokenizer.identity)
    (known : Known tokenizers registry work.job.tokenizer)
    (sound : work.trace.memories.Sound tokenizers) (consuming : work.job.tokenizer.Consuming)
    (enough : (work.job.tokenizer.grammar.widestGroup + 1) * (work.job.line.size + 1) + 1 < steps) :
    ¬ work.StopsItself registry steps .exhausted := by
  rintro (@⟨part, middle, later, scans, stopped⟩ |
    @⟨part, middle, scanned, later, departure, scans, departs, stopped⟩)
  · have room : part.host.textSize ≤ work.job.line.size + 1 :=
      Nat.le_trans (textSize_le part) (Nat.succ_le_succ scans.size_le)
    refine Job.not_exhausted injective (scans.member known) (scans.sound injective known sound)
      (scans.consuming consuming) ?_ stopped
    rw [scans.tokenizer]
    exact Nat.lt_of_le_of_lt (Nat.succ_le_succ (Nat.mul_le_mul_left _ room)) enough
  · exact never_handOver (by decide) registry part departure _ _ stopped

/-- And none of its parts is. -/
theorem not_stopsItself_of_involves (injective : tokenizers.InjOn Tokenizer.identity)
    (known : Known tokenizers registry work.job.tokenizer)
    (sound : work.trace.memories.Sound tokenizers)
    (consuming : ∀ other, TakesPart registry work.job.tokenizer other → other.Consuming)
    (enough : ∀ other, TakesPart registry work.job.tokenizer other →
      (other.grammar.widestGroup + 1) * (work.job.line.size + 1) + 1 < steps)
    (involves : Involves registry steps work inner) :
    ¬ inner.StopsItself registry steps .exhausted := by
  refine not_stopsItself injective (involves.known known) (involves.sound injective known sound)
    (consuming _ involves.takesPart) ?_
  have shorter : inner.job.line.size + 1 ≤ work.job.line.size + 1 :=
    Nat.succ_le_succ involves.size_le
  exact Nat.lt_of_le_of_lt (Nat.succ_le_succ (Nat.mul_le_mul_left _ shorter))
    (enough _ involves.takesPart)

/-- Where every match reads something, a language starts before anything has been read only with an
empty group. -/
theorem Restarts.startsEmpty (injective : tokenizers.InjOn Tokenizer.identity)
    (known : Known tokenizers registry work.job.tokenizer)
    (sound : work.trace.memories.Sound tokenizers) (consuming : work.job.tokenizer.Consuming)
    (restarts : Restarts registry steps work inner) : work.job.tokenizer.StartsEmpty := by
  cases restarts with
  | @restarts depth job part rest trace middle scanned later name stack state scans departs hands =>
    have member : part.host.tokenizer ∈ tokenizers := scans.member known
    have reads : part.host.tokenizer.Consuming := scans.consuming consuming
    have opened : middle.memories.Sound tokenizers := scans.sound injective known sound
    have nonempty : 0 < part.host.textSize := by
      rcases handOver_enter hands with ⟨nothing, -⟩ | ⟨inside, -⟩
      · cases nothing
      · refine Nat.lt_of_lt_of_le inside ?_
        have alone : Forward none part.tokenizer := forward_of_alone reads.forward
        have line := (moderate_host alone).line
        rw [part.host.textSize_eq]
        exact Text.size_le_of_isInfix line.isInfix
    rw [outcome_scanOwn] at departs
    obtain ⟨turns, -, reached, before, comes, enters⟩ := HostLine.exists_turn?_of_enter departs
    have kept := HostLine.turn?_sound injective member
      (show (part.opened middle).memories.Sound tokenizers from opened) comes
    obtain ⟨steady, -⟩ := HostLine.budget_turn? injective member
      (show (part.opened middle).memories.Sound tokenizers from opened) reads
      (HostLine.steady_start part) nonempty comes
    have inside := steady.inside nonempty (HostLine.isDue_of_turn? comes)
    have empty : part.tokenizer.StartsEmpty :=
      HostLine.startsEmpty_of_enter injective member kept reads steady inside enters
    rwa [scans.tokenizer] at empty

/-- How much work a line is of which every match reads something. In the work on a line after any
calls, a scan comes to no more turns than one and, for each byte of its text, the groups of a match
and one more. With more steps than that, the work is stopped for want of depth exactly where there
is a chain of parts as long as parts may nest. A chain is no longer than the weight of the line and
two more for each of its restarts, and a restart is due to a language that starts with an empty
group. So where no language starts with an empty group, the work comes to an end. -/
theorem exhausted_iff_descends (injective : tokenizers.InjOn Tokenizer.identity)
    {calls : List Call} (known : ∀ call ∈ calls, Known tokenizers call.registry call.tokenizer)
    (remembers : work.trace.memories = .after calls)
    (takesPart : Known tokenizers registry work.job.tokenizer)
    (consuming : ∀ other, TakesPart registry work.job.tokenizer other → other.Consuming) :
    (∀ {inner host start before turns reached}, Involves registry steps work inner →
      inner.Starts registry steps host start before → host.ComesTo start before turns reached →
      turns < (host.tokenizer.grammar.widestGroup + 1) * host.textSize + 1) ∧
    ((∀ other, TakesPart registry work.job.tokenizer other →
        (other.grammar.widestGroup + 1) * (work.job.line.size + 1) + 1 < steps) →
      ((∃ later, outcome (work.job.unlessLong (tokenizeWithin registry steps work.depth))
          work.trace = (.error .exhausted, later)) ↔
        work.job.line.size ≤ work.job.tokenizer.limits.lineLength ∧
          ∃ inner restarts, Descends registry steps work.depth restarts work inner)) ∧
    (∀ {length restarts inner}, Descends registry steps length restarts work inner →
      length + inner.job.weight ≤ work.job.weight + 2 * restarts) ∧
    (∀ {between inner}, Involves registry steps work between →
      Restarts registry steps between inner → between.job.tokenizer.StartsEmpty) ∧
    ((∀ other, TakesPart registry work.job.tokenizer other → ¬ other.StartsEmpty ∧
        (other.grammar.widestGroup + 1) * (work.job.line.size + 1) + 1 < steps) →
      work.job.weight < work.depth → ∀ later,
        outcome (work.job.unlessLong (tokenizeWithin registry steps work.depth)) work.trace ≠
          (.error .exhausted, later)) := by
  have sound : work.trace.memories.Sound tokenizers := by
    rw [remembers]
    exact sound_after injective known
  have reads : ∀ {inner : Work}, Involves registry steps work inner →
      inner.job.tokenizer.Consuming := fun involves => consuming _ involves.takesPart
  have exactly : (∀ other, TakesPart registry work.job.tokenizer other →
        (other.grammar.widestGroup + 1) * (work.job.line.size + 1) + 1 < steps) →
      ((∃ later, outcome (work.job.unlessLong (tokenizeWithin registry steps work.depth))
          work.trace = (.error .exhausted, later)) ↔
        work.job.line.size ≤ work.job.tokenizer.limits.lineLength ∧
          ∃ inner restarts, Descends registry steps work.depth restarts work inner) := by
    intro enough
    exact unlessLong_exhausted_iff fun inner involves =>
      not_stopsItself_of_involves injective takesPart sound consuming enough involves
  have empty : ∀ {between inner}, Involves registry steps work between →
      Restarts registry steps between inner → between.job.tokenizer.StartsEmpty :=
    fun involves starts => starts.startsEmpty injective (involves.known takesPart)
      (involves.sound injective takesPart sound) (reads involves)
  refine ⟨?_, exactly, Descends.length_add_weight_le, empty, ?_⟩
  · intro inner host start before turns reached involves starts comes
    have innerKnown := involves.known takesPart
    cases starts with
    | @starts part middle scans =>
      have opened : middle.memories.Sound tokenizers :=
        scans.sound injective innerKnown (involves.sound injective takesPart sound)
      exact Job.lt_of_comesTo injective (scans.member innerKnown)
        (show (part.opened middle).memories.Sound tokenizers from opened)
        (scans.consuming (reads involves)) comes
  · intro settled deep later exhausted
    obtain ⟨-, inner, restarts, descends⟩ :=
      (exactly fun other takes => (settled other takes).2).1 ⟨later, exhausted⟩
    have none : restarts = 0 := descends.restarts_eq_zero fun between inner involves starts =>
      (settled _ involves.takesPart).1 (empty involves starts)
    have most := descends.length_add_weight_le
    omega

end Work

/-! ### A grammar that starts itself again -/

namespace Regex

namespace Machine

variable {program : Program} {set : CodeRanges} {next : Nat}

/-- A program that waits for one character where a text starts, and then has matched, matches the
first character of a text if that is one of the set. -/
theorem run_of_one (first last : Thread)
    (waits : ∀ letter, follow program.code none (some letter) 0 (1 + 2 * program.code.size + 1)
      [⟨program.start, List.replicate program.slots none⟩] 0 [] = [first])
    (takes : program.code[first.place]? = some (.take set next))
    (ends : ∀ letter after, follow program.code (some letter) after 1
      (1 + 2 * program.code.size + 1) [⟨next, first.slots⟩] 0 [] = [last])
    (accepts : program.code[last.place]? = some .accept) (letter : Char) (rest : List Char) :
    run program none 0 (letter :: rest) = none ∨
      run program none 0 (letter :: rest) = some last.slots := by
  have waiting : untilMatch program.code [first] = ([first], none) := by
    simp only [untilMatch, takes]
  have matched : untilMatch program.code [last] = ([], some last.slots) := by
    simp only [untilMatch, accepts]
  unfold run runThreads
  simp only [List.length_singleton, waits, waiting, List.filterMap_cons, advance?, takes,
    List.filterMap_nil, Option.none_or]
  by_cases inside : set.contains letter.toNat = true
  · rw [if_pos inside]
    cases rest with
    | nil => simp only [runThreads, List.length_singleton, ends, matched, Option.some_or, or_true]
    | cons other rest =>
      simp only [runThreads, List.length_singleton, ends, matched, Option.some_or,
        List.filterMap_nil, or_true]
  · rw [if_neg inside]
    exact Or.inl rfl

end Machine

/-- A regular expression whose matches are one character where a text starts. -/
def TakesOne (regex : Regex) : Prop :=
  ∀ rest place, regex.find? rest = some place →
    ∃ letter tail, rest = letter :: tail ∧ (place.captures rest).headD [] = [letter]

theorem takesOne_of_run {regex : Regex} {slots : List (Option Nat)}
    (starts : regex.startsText = true) (nothing : Machine.run regex.program none 0 [] = none)
    (one : ∀ letter rest, Machine.run regex.program none 0 (letter :: rest) = none ∨
      Machine.run regex.program none 0 (letter :: rest) = some (some 0 :: some 1 :: slots)) :
    regex.TakesOne := by
  intro rest place found
  unfold find? at found
  cases rest with
  | nil =>
    rw [Machine.search?, nothing] at found
    cases found
  | cons letter tail =>
    refine ⟨letter, tail, rfl, ?_⟩
    rw [Machine.search?, starts] at found
    rcases one letter tail with none | some
    · rw [none] at found
      cases found
    · rw [some] at found
      cases found
      rfl

/-- What the pattern of an empty group and a group of one letter is compiled to. -/
def emptyFirst : Regex where
  pattern := "^(?:()(a))"
  program := {
    code := #[.accept, .save 1 0, .save 5 1, .take [(97, 97)] 2, .save 4 3, .save 3 4, .save 2 5,
      .check .textStart 6, .save 0 7]
    start := 8
    slots := 6 }
  startsText := true

theorem takesOne_emptyFirst : emptyFirst.TakesOne :=
  takesOne_of_run rfl (by decide) (Machine.run_of_one
    ⟨3, [some 0, none, some 0, some 0, some 0, none]⟩
    ⟨0, [some 0, some 1, some 0, some 0, some 0, some 1]⟩
    (fun _ => rfl) rfl (fun _ _ => rfl) rfl)

/-- What the pattern of one letter is compiled to. -/
def letterAlone : Regex where
  pattern := "^(?:z)"
  program := {
    code := #[.accept, .save 1 0, .take [(122, 122)] 1, .check .textStart 2, .save 0 3]
    start := 4
    slots := 2 }
  startsText := true

theorem takesOne_letterAlone : letterAlone.TakesOne :=
  takesOne_of_run rfl (by decide) (Machine.run_of_one ⟨2, [some 0, none]⟩ ⟨0, [some 0, some 1]⟩
    (fun _ => rfl) rfl (fun _ _ => rfl) rfl)

end Regex

/-- The description of a grammar whose rule splits a match into an empty group, with which the
language starts, and a letter. -/
def restlessSource : String :=
  "\x7b\"tokenizer\": \x7b\"main\": [
    [\"()(a)\", [\x7b\"token\": \"\", \"nextEmbedded\": \"toy\"\x7d, \"x\"]],
    [\"z\", \x7b\"token\": \"\", \"nextEmbedded\": \"@pop\"\x7d]]\x7d\x7d"

/-- A tokenizer for that grammar. -/
def restless (grammar : Grammar) : Tokenizer := { identity := 0, grammar, linked := true }

/-- A registry through which it finds itself. -/
def restlessRegistry (grammar : Grammar) : Registry := .register {} (restless grammar)

/-- A line of the letter. -/
def restlessJob (grammar : Grammar) (state : LineState) : Job where
  tokenizer := restless grammar
  line := ['a']
  ended := false
  state := state

/-- The state in which the language starts. -/
def restlessStart (grammar : Grammar) : LineState := .host default (.root default grammar.start)

/-- Whether a token is never one that asks for the matched text to be read again. -/
def TokenAction.isPlain (action : TokenAction) : Bool :=
  !action.substitute && action.token != rematchToken

theorem TokenAction.ne_of_isPlain {action : TokenAction} (plain : action.isPlain = true)
    (settings : Settings) (context : MatchContext) :
    action.text settings context ≠ rematchToken := by
  unfold isPlain at plain
  rw [Bool.and_eq_true, Bool.not_eq_true', bne_iff_ne] at plain
  unfold text
  rw [plain.1]
  exact plain.2

/-- Whether the rules of a grammar are the two of the description. -/
def hasRestlessRules (grammar : Grammar) : Bool :=
  match grammar.states with
  | [(_, [⟨_, ⟨_, .fixed first _⟩, .group [.token enters, .token reads], _⟩,
      ⟨_, ⟨_, .fixed second _⟩, .token leaves, _⟩])] =>
    decide (first = Regex.emptyFirst ∧ second = Regex.letterAlone) &&
      [enters, reads, leaves].all TokenAction.isPlain
  | _ => false

/-- The rules match one character each. One of them splits its match into two groups, and none asks
for the matched text to be read again. -/
theorem exists_restlessRules {grammar : Grammar} (declares : hasRestlessRules grammar = true) :
    ∃ enters reads leaves : TokenAction,
      enters.isPlain = true ∧ reads.isPlain = true ∧ leaves.isPlain = true ∧
      ∀ {state rule rest captures}, (restless grammar).Matches state rule rest captures →
        (∃ letter tail, rest = letter :: tail ∧ captures.headD [] = [letter]) ∧
          (rule.action = .group [.token enters, .token reads] ∨ rule.action = .token leaves) := by
  unfold hasRestlessRules at declares
  split at declares
  · next name firstName firstSource first firstSearch enters reads firstBound secondName
      secondSource second secondSearch leaves secondBound declared =>
    rw [Bool.and_eq_true, decide_eq_true_eq] at declares
    obtain ⟨⟨rfl, rfl⟩, plain⟩ := declares
    simp only [List.all_cons, List.all_nil, Bool.and_true, Bool.and_eq_true] at plain
    obtain ⟨plainEnters, plainReads, plainLeaves⟩ := plain
    refine ⟨enters, reads, leaves, plainEnters, plainReads, plainLeaves, ?_⟩
    rintro state rule rest _ ⟨holds, listed, own, fits⟩
    obtain ⟨_, inside⟩ := Grammar.mem_states holds
    rw [show (restless grammar).grammar.states = _ from declared, List.mem_singleton] at inside
    cases inside
    simp only [List.mem_cons, List.not_mem_nil, or_false] at listed
    rcases listed with rfl | rfl
    · cases own
      exact ⟨Regex.takesOne_emptyFirst _ _ fits, Or.inl rfl⟩
    · cases own
      exact ⟨Regex.takesOne_letterAlone _ _ fits, Or.inr rfl⟩
  · cases declares

/-- So every match reads something. -/
theorem consuming_restless {grammar : Grammar} (declares : hasRestlessRules grammar = true)
    (forward : grammar.anyAction Action.goesBack = false)
    (default : grammar.defaultToken ≠ TokenAction.rematchToken) : (restless grammar).Consuming := by
  obtain ⟨enters, reads, leaves, plainEnters, plainReads, plainLeaves, rules⟩ :=
    exists_restlessRules declares
  refine ⟨fun fits => ?_, fun fits => ?_, forward, fun {context action} chooses => ?_⟩
  · obtain ⟨⟨letter, tail, -, matched⟩, -⟩ := rules fits
    rw [matched]
    exact List.cons_ne_nil letter []
  · obtain ⟨⟨letter, tail, rfl, matched⟩, -⟩ := rules fits
    rw [matched]
    exact ⟨tail, rfl⟩
  · refine TokenAction.ne_of_isPlain ?_ _ _
    cases chooses with
    | rule fits leads =>
      rcases (rules fits).2 with group | token
      · rw [group] at leads
        cases leads
      · rw [token] at leads
        cases leads
        exact plainLeaves
    | member splits inside leads =>
      obtain ⟨atLineEnd, resolves⟩ := splits.leads
      rcases (rules splits.fits).2 with group | token
      · rw [group] at resolves
        cases resolves
        have listed := (List.of_mem_zip inside).1
        simp only [List.mem_cons, List.not_mem_nil, or_false] at listed
        rcases listed with first | second
        · rw [first] at leads
          cases leads
          exact plainEnters
        · rw [second] at leads
          cases leads
          exact plainReads
      · rw [token] at resolves
        cases resolves
    | default =>
      unfold TokenAction.isPlain
      rw [Bool.and_eq_true]
      exact ⟨rfl, bne_iff_ne.2 default⟩

/-- Nobody else takes part. -/
theorem eq_restless {grammar : Grammar} {other : Tokenizer}
    (takes : TakesPart (some (restlessRegistry grammar)) (restless grammar) other) :
    other = restless grammar := by
  refine takes.of_registered (fun other => other = restless grammar) rfl fun entry listed => ?_
  rw [List.mem_singleton.1 listed]

theorem known_restless (grammar : Grammar) :
    Known {restless grammar} (some (restlessRegistry grammar)) (restless grammar) :=
  fun _ takes => Set.mem_singleton_iff.2 (eq_restless takes)

/-- The tokenizer finds itself. -/
theorem tokenizer?_restless (grammar : Grammar) :
    (restlessRegistry grammar).tokenizer? grammar.language = some (restless grammar) := by
  show ((Table.put _ (restless grammar).language _).get? _) = _
  rw [Table.get?_put]
  exact if_pos rfl

/-- Whether the second step of the scan of the line starts the language where the scan starts, and
the language does not end in the line. -/
def startsAgain (grammar : Grammar) : Bool :=
  let job := restlessJob grammar (restlessStart grammar)
  (match job.tokenizer.leavingOffset? grammar.start job.line with
    | .ok none => true
    | _ => false) &&
  match job.host.turn? 1 job.start {} with
  | some (reached, before) =>
    match (outcome (job.host.step reached) before).1 with
    | .ok (.enter name 0 stack) =>
      decide (name = grammar.language ∧ stack.names = [grammar.start])
    | _ => false
  | none => false

section

variable {grammar : Grammar} {steps depth : Nat} {state : LineState} {stack : Stack}
  {embedded : Embedded} {trace later : Trace}

/-- In all states with the content of the first one, the second step of the scan of the line starts
the language where the scan starts. -/
theorem enters_of_startsAgain (starts : startsAgain grammar = true)
    (first : state.content = (restlessStart grammar).content)
    (sound : trace.memories.Sound {restless grammar}) :
    ∃ reached before stack later, (restlessJob grammar state).host.turn? 1
        (restlessJob grammar state).start trace = some (reached, before) ∧
      outcome ((restlessJob grammar state).host.step reached) before =
        (.ok (.enter grammar.language 0 stack), later) ∧ stack.names = [grammar.start] := by
  unfold startsAgain at starts
  dsimp only at starts
  rw [Bool.and_eq_true] at starts
  obtain ⟨-, starts⟩ := starts
  have injective : Set.InjOn Tokenizer.identity {restless grammar} := Set.injOn_singleton _ _
  have member : (restlessJob grammar state).host.tokenizer ∈ ({restless grammar} : Set Tokenizer) :=
    Set.mem_singleton _
  split at starts
  · next reached before comes =>
    split at starts
    · next name stack enters =>
      obtain ⟨rfl, names⟩ := of_decide_eq_true starts
      obtain ⟨below, outside⟩ := LineState.content_eq_iff.1 first.symm
      have alikeStart : (restlessJob grammar (restlessStart grammar)).start.Alike True
          ((restlessJob grammar (restlessStart grammar)).start.replay ≠ none)
          (restlessJob grammar state).start :=
        ⟨rfl, below, outside, rfl, fun _ => rfl, fun _ => rfl⟩
      have empty := Memories.sound_empty ({restless grammar} : Set Tokenizer)
      obtain ⟨reachedToo, beforeToo, comesToo, alike⟩ := HostLine.exists_turn?_of_alike injective
        member alikeStart ⟨empty, sound, False.elim, False.elim⟩ (Or.inl trivial) rfl comes
      have ends := HostLine.agree_step injective member alike before beforeToo
        ⟨HostLine.turn?_sound injective member empty comes,
          HostLine.turn?_sound injective member sound comesToo, False.elim, False.elim⟩
      rcases steps : outcome ((restlessJob grammar state).host.step reachedToo) beforeToo with
        ⟨ending, later⟩
      rw [steps] at ends
      rcases departs : outcome ((restlessJob grammar (restlessStart grammar)).host.step reached)
        before with ⟨canonical, behind⟩
      rw [departs] at enters
      change canonical = _ at enters
      subst enters
      rw [show outcome ((restlessJob grammar state).host.step reached) before = _ from departs]
        at ends
      cases ends with
      | result same traces =>
        cases same with
        | enter same => exact ⟨_, _, _, _, comesToo, steps, same.symm.trans names⟩
      | stallsRight lax stalls => exact absurd trivial lax
    · cases starts
  · cases starts

/-- The language starts in a state with the content of the first one. -/
theorem embed_restless
    (done : outcome ((restless grammar).embed (some (restlessRegistry grammar)) grammar.language)
      trace = (.ok embedded, later)) :
    ∃ inner, embedded = ⟨grammar.language, some inner⟩ ∧
      inner.content = (restlessStart grammar).content := by
  have resolves : (restlessRegistry grammar).resolve? grammar.language = some grammar.language := by
    unfold Registry.resolve?
    rw [tokenizer?_restless]
    rfl
  unfold Tokenizer.embed at done
  rw [show (restless grammar).languages? (some (restlessRegistry grammar)) =
    some (restlessRegistry grammar) from rfl] at done
  simp only [Option.bind_some, resolves, Option.getD_some, tokenizer?_restless] at done
  obtain ⟨inner, _, starts, ends⟩ := outcome_bind_eq_ok.1 done
  cases ends
  refine ⟨inner, rfl, ?_⟩
  obtain ⟨root, _, roots, makes⟩ := outcome_bind_eq_ok.1 starts
  obtain ⟨names, outside⟩ := lineState_ok makes
  have bottom : root.names = [grammar.start] := by
    cases roots
    exact StateCache.names_root _ _
  rw [LineState.content_eq_iff, names, bottom, outside]
  exact ⟨rfl, rfl⟩

/-- Behind the scan of the line all of it is in the language, which is in a state with the content
of the first one. -/
theorem handOver_restless (names : stack.names = [grammar.start]) (trace : Trace) :
    ∃ made inner later, outcome ((restlessJob grammar state).handOver
        (some (restlessRegistry grammar)) (.enter grammar.language 0 stack)) trace =
          (.ok (made, some (restlessJob grammar made)), later) ∧
      made.embedded? = some ⟨grammar.language, some inner⟩ ∧ made.stack.names = [grammar.start] ∧
      inner.content = (restlessStart grammar).content := by
  obtain ⟨embedded, middle, embeds⟩ := (restless grammar).exists_embed
    (some (restlessRegistry grammar)) grammar.language trace
  obtain ⟨inner, rfl, content⟩ := embed_restless embeds
  have made := StateCache.content_lineState
    (middle.memories.read (restless grammar).identity).cache stack
    (some ⟨grammar.language, some inner⟩)
  exact ⟨_, inner, _, (outcome_bind_of_ok embeds).trans rfl, made.2, made.1.trans names, content⟩

/-- In such a state there is nothing before the scan of the line. -/
theorem scans_restless (first : state.content = (restlessStart grammar).content) :
    Work.Scans (some (restlessRegistry grammar)) steps ⟨depth + 1, restlessJob grammar state, trace⟩
      (restlessJob grammar state) trace := by
  have outside : state.embedded? = none :=
    Option.map_eq_none_iff.1 (LineState.content_eq_iff.1 first).2
  refine .opens ?_
  unfold Job.openWith
  rw [show (restlessJob grammar state).state.embedded? = none from outside]
  rfl

/-- With two steps or more, the scan of the line leads to the language, and all of the line is in
it. -/
theorem gives_restless (starts : startsAgain grammar = true)
    (first : state.content = (restlessStart grammar).content)
    (sound : trace.memories.Sound {restless grammar}) :
    ∃ made inner later, Work.Restarts (some (restlessRegistry grammar)) (steps + 2)
        ⟨depth + 1, restlessJob grammar state, trace⟩ ⟨depth, restlessJob grammar made, later⟩ ∧
      made.embedded? = some ⟨grammar.language, some inner⟩ ∧ made.stack.names = [grammar.start] ∧
      inner.content = (restlessStart grammar).content := by
  obtain ⟨reached, before, stack, scanned, comes, enters, names⟩ :=
    enters_of_startsAgain starts first
      (show ((restlessJob grammar state).opened trace).memories.Sound _ from sound)
  have departs : outcome ((restlessJob grammar state).scanOwn (steps + 2)) trace =
      (.ok (.enter grammar.language 0 stack), scanned) := by
    rw [Job.outcome_scanOwn, show steps + 2 = 1 + (steps + 1) by omega,
      HostLine.run_of_turn? (steps + 1) comes, HostLine.outcome_run_succ,
      if_pos (HostLine.isDue_of_turn? comes), enters]
  obtain ⟨made, inner, later, hands, inside, onTop, content⟩ :=
    handOver_restless names scanned
  exact ⟨made, inner, later, .restarts (scans_restless first) departs hands, inside, onTop, content⟩

/-- Once the language has started it goes on as the line does. -/
theorem whole_restless (starts : startsAgain grammar = true) {made inner : LineState}
    (inside : made.embedded? = some ⟨grammar.language, some inner⟩)
    (onTop : made.stack.names = [grammar.start]) :
    Work.Gives (some (restlessRegistry grammar)) steps
      ⟨depth + 1, restlessJob grammar made, trace⟩ ⟨depth, restlessJob grammar inner, trace⟩ := by
  unfold startsAgain at starts
  dsimp only at starts
  rw [Bool.and_eq_true] at starts
  have state : made.stack.state = grammar.start := by
    have top := made.stack.head?_names
    rw [onTop] at top
    exact (Option.some.inj top).symm
  refine .whole inside ?_ ?_ (show Text.size ['a'] ≤ 20000 by decide)
  · show (restless grammar).leavingOffset? made.stack.state ['a'] = .ok none
    rw [state]
    obtain ⟨stays, -⟩ := starts
    split at stays
    · assumption
    · cases stays
  · exact Job.guestJob?_eq_of_known rfl (tokenizer?_restless grammar)

/-- With less than two steps the scan of the line does not come to an end. -/
theorem stopsItself_restless (starts : startsAgain grammar = true)
    (first : state.content = (restlessStart grammar).content)
    (sound : trace.memories.Sound {restless grammar}) (few : steps < 2) :
    Work.StopsItself (some (restlessRegistry grammar)) steps .exhausted
      ⟨depth + 1, restlessJob grammar state, trace⟩ := by
  obtain ⟨reached, before, -, -, comes, -⟩ := enters_of_startsAgain starts first
    (show ((restlessJob grammar state).opened trace).memories.Sound _ from sound)
  suffices stopped : ∃ later, outcome ((restlessJob grammar state).scanOwn steps) trace =
      (.error .exhausted, later) by
    obtain ⟨later, stopped⟩ := stopped
    exact .scan (scans_restless first) stopped
  rw [Job.outcome_scanOwn]
  match steps, few with
  | 0, _ => exact ⟨_, rfl⟩
  | 1, _ => exact ⟨_, HostLine.run_of_turn? 0 comes⟩

/-- The work on the line is never done, whatever the limits. -/
theorem stops_restless (starts : startsAgain grammar = true)
    (first : state.content = (restlessStart grammar).content)
    (sound : trace.memories.Sound {restless grammar}) :
    Work.Stops (some (restlessRegistry grammar)) steps .exhausted
      ⟨depth, restlessJob grammar state, trace⟩ := by
  induction depth using Nat.strongRecOn generalizing state trace with
  | ind depth step =>
    match depth with
    | 0 => exact Work.stops_of_depth_eq_zero rfl
    | depth + 1 =>
      rcases Nat.lt_or_ge steps 2 with few | enough
      · exact (stopsItself_restless starts first sound few).stops
      · obtain ⟨steps, rfl⟩ := Nat.exists_eq_add_of_le' enough
        obtain ⟨made, inner, later, restarts, inside, onTop, content⟩ :=
          gives_restless starts first sound
        refine restarts.gives.stops ?_
        match depth with
        | 0 => exact Work.stops_of_depth_eq_zero rfl
        | depth + 1 =>
          have kept : later.memories.Sound {restless grammar} :=
            restarts.gives.sound (Set.injOn_singleton _ _) (known_restless grammar) sound
          exact (whole_restless starts inside onTop).stops
            (step depth (by omega) content kept)

end

theorem exists_restless :
    ∃ grammar, (Grammar.compileText "toy" restlessSource false).result = .ok grammar ∧
      startsAgain grammar = true ∧ grammar.widestGroup = 2 ∧
      ∀ other, TakesPart (some (restlessRegistry grammar)) (restless grammar) other →
        other.Consuming := by
  obtain ⟨grammar, compiles, passes⟩ := Grammar.exists_of_compiles
    (Grammar.compileText "toy" restlessSource false)
    (fun grammar => hasRestlessRules grammar && startsAgain grammar &&
      !grammar.anyAction Action.goesBack &&
      decide (grammar.widestGroup = 2 ∧ grammar.defaultToken ≠ TokenAction.rematchToken))
    (by decide +kernel)
  rw [Bool.and_eq_true, Bool.and_eq_true, Bool.and_eq_true, Bool.not_eq_true',
    decide_eq_true_eq] at passes
  obtain ⟨⟨⟨declares, starts⟩, forward⟩, widest, default⟩ := passes
  refine ⟨grammar, compiles, starts, widest, fun other takes => ?_⟩
  rw [eq_restless takes]
  exact consuming_restless declares forward default

theorem Work.restlessJob_descends :
    ∃ grammar inner restarts, 4 ≤ restarts ∧
      Work.Descends (some (restlessRegistry grammar)) 10 9 restarts
        ⟨9, restlessJob grammar (restlessStart grammar), {}⟩ inner := by
  obtain ⟨grammar, -, starts, widest, consuming⟩ := exists_restless
  have uncalled : ∀ call ∈ ([] : List Call),
      Known {restless grammar} call.registry call.tokenizer := List.forall_mem_nil _
  obtain ⟨work, whole⟩ : ∃ work : Work,
      work = ⟨9, restlessJob grammar (restlessStart grammar), {}⟩ := ⟨_, rfl⟩
  have remembers : work.trace.memories = .after [] := by
    rw [whole]
    rfl
  have tokenizer : work.job.tokenizer = restless grammar := by
    rw [whole]
    rfl
  have alone : Known {restless grammar} (some (restlessRegistry grammar)) work.job.tokenizer := by
    rw [tokenizer]
    exact known_restless grammar
  have consumingAll : ∀ other,
      TakesPart (some (restlessRegistry grammar)) work.job.tokenizer other → other.Consuming := by
    rw [tokenizer]
    exact consuming
  have enough : ∀ other, TakesPart (some (restlessRegistry grammar)) work.job.tokenizer other →
      (other.grammar.widestGroup + 1) * (work.job.line.size + 1) + 1 < 10 := by
    intro other takes
    rw [tokenizer] at takes
    rw [eq_restless takes, show (restless grammar).grammar.widestGroup = 2 from widest, whole]
    exact show (2 + 1) * (Text.size ['a'] + 1) + 1 < 10 by decide
  obtain ⟨-, exactly, bounded, -, -⟩ := Work.exhausted_iff_descends (Set.injOn_singleton _ _)
    uncalled remembers alone consumingAll
  have stops : Work.Stops (some (restlessRegistry grammar)) 10 .exhausted work := by
    rw [whole]
    exact stops_restless starts rfl (show Memories.Sound _ {} from Memories.sound_empty _)
  obtain ⟨later, stopped⟩ := stops
  have short : work.job.line.size ≤ work.job.tokenizer.limits.lineLength := by
    rw [whole]
    exact show Text.size ['a'] ≤ 20000 by decide
  obtain ⟨-, inner, restarts, descends⟩ := (exactly enough).1
    ⟨later, Job.unlessLong_stop_iff.2 ⟨short, stopped⟩⟩
  have most := bounded descends
  subst whole
  have weight : (restlessJob grammar (restlessStart grammar)).weight = 2 := rfl
  dsimp only at most
  exact ⟨grammar, inner, restarts, by omega, descends⟩

/-- A line may never be done in which every match reads something. -/
theorem Job.not_forall_ends :
    ¬ ∀ (source : String) (grammar : Grammar) (registry : Option Registry) (job : Job),
      (Grammar.compileText "toy" source false).result = .ok grammar →
      job.tokenizer.grammar = grammar →
      (∀ other, TakesPart registry job.tokenizer other → other.Consuming) →
      ∃ steps depth, ∀ later,
        outcome (tokenizeWithin registry steps depth job) {} ≠ (.error .exhausted, later) := by
  intro ends
  obtain ⟨grammar, compiles, starts, -, consuming⟩ := exists_restless
  obtain ⟨steps, depth, done⟩ := ends restlessSource grammar (some (restlessRegistry grammar))
    (restlessJob grammar (restlessStart grammar)) compiles rfl consuming
  have stops : Work.Stops (some (restlessRegistry grammar)) steps .exhausted
      ⟨depth, restlessJob grammar (restlessStart grammar), {}⟩ :=
    stops_restless starts rfl (show Memories.Sound _ {} from Memories.sound_empty _)
  obtain ⟨later, exhausted⟩ := stops
  exact done later exhausted

end LineLexer
