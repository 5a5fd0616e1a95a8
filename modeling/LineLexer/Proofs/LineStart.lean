import LineLexer.Proofs.Anchoring
import LineLexer.Proofs.Exit

/-!
**Rules for the start of lines.**

A rule for the start of lines is tried where a scan starts, and nowhere else. A scan starts where
the line does unless a part of the line has gone to another language before, and a match begins
where the scan stands unless the pattern breaks out of the group around it. So the rule may match
inside a line: behind the end of an embedded language, and at the start of one.

* `Tokenizer.Prefers`, `Tokenizer.exists_prefers_iff`: the rule that is taken, and the place where
  it matches;
* `HostLine.TakesRule`, `HostLine.takesRule_or_fallback`: where a match without groups before it
  comes from;
* `Job.Within`: where in a line a part of it stands;
* `Work.Undivided`: no part of a line starts inside the line;
* `Work.begins_of_atLineStart`: where the matches of rules for the start of lines begin.
-/

namespace LineLexer

open Scanning

/-! ### The rule that is taken -/

namespace Tokenizer

variable {tokenizer : Tokenizer} {state : String} {atStart : Bool} {rest : Text}
  {rules : List Rule} {found : Found} {rule : Rule} {regex : Regex} {place : Regex.Match}
  {trace later : Trace}

/-- Of several rules, tried in order on a text, one is the first that matches, with its regular
expression and the place of the match. -/
inductive Prefers (tokenizer : Tokenizer) (state : String) (atStart : Bool) (rest : Text) :
    List Rule → Trace → Rule → Regex → Regex.Match → Prop where
  | first {rule : Rule} {rules : List Rule} {regex : Regex} {place : Regex.Match}
      {trace later : Trace} (free : (rule.atLineStart && !atStart) = false)
      (anchors : outcome (tokenizer.anchored state rule) trace = (.ok regex, later))
      (fits : regex.find? rest = some place) :
      Prefers tokenizer state atStart rest (rule :: rules) trace rule regex place
  | elsewhere {rule other : Rule} {rules : List Rule} {regex : Regex} {place : Regex.Match}
      {trace : Trace} (bound : (other.atLineStart && !atStart) = true)
      (follows : Prefers tokenizer state atStart rest rules trace rule regex place) :
      Prefers tokenizer state atStart rest (other :: rules) trace rule regex place
  | misses {rule other : Rule} {rules : List Rule} {regex failing : Regex} {place : Regex.Match}
      {trace middle : Trace} (free : (other.atLineStart && !atStart) = false)
      (anchors : outcome (tokenizer.anchored state other) trace = (.ok failing, middle))
      (fails : failing.find? rest = none)
      (follows : Prefers tokenizer state atStart rest rules middle rule regex place) :
      Prefers tokenizer state atStart rest (other :: rules) trace rule regex place

/-- The rule that is taken may match where the scan stands, and its regular expression does. -/
theorem Prefers.fits (prefers : Prefers tokenizer state atStart rest rules trace rule regex place) :
    rule ∈ rules ∧ (rule.atLineStart && !atStart) = false ∧ regex.find? rest = some place := by
  induction prefers with
  | first free anchors fits => exact ⟨List.mem_cons_self, free, fits⟩
  | elsewhere bound follows step => exact ⟨List.mem_cons_of_mem _ step.1, step.2⟩
  | misses free anchors fails follows step => exact ⟨List.mem_cons_of_mem _ step.1, step.2⟩

/-- The rules find what one of them does that is taken. -/
theorem exists_prefers_iff :
    (∃ later, outcome (tokenizer.firstMatch state atStart rest rules) trace =
        (.ok (some found), later)) ↔
      ∃ rule regex place, Prefers tokenizer state atStart rest rules trace rule regex place ∧
        found = rule.found place rest := by
  induction rules generalizing trace with
  | nil =>
    constructor
    · rintro ⟨later, done⟩
      cases done
    · rintro ⟨rule, regex, place, prefers, -⟩
      cases prefers
  | cons other rules step =>
    cases bound : other.atLineStart && !atStart with
    | true =>
      unfold firstMatch
      rw [if_pos bound, step]
      constructor
      · rintro ⟨rule, regex, place, prefers, same⟩
        exact ⟨rule, regex, place, .elsewhere bound prefers, same⟩
      · rintro ⟨rule, regex, place, prefers, same⟩
        cases prefers with
        | first free => cases bound.symm.trans free
        | elsewhere _ follows => exact ⟨rule, regex, place, follows, same⟩
        | misses free => cases bound.symm.trans free
    | false =>
      unfold firstMatch
      rw [if_neg (by rw [bound]; exact Bool.false_ne_true)]
      constructor
      · rintro ⟨later, done⟩
        obtain ⟨regex, middle, anchors, tried⟩ := outcome_bind_eq_ok.1 done
        split at tried
        · next place fits =>
          cases tried
          exact ⟨other, regex, place, .first bound anchors fits, rfl⟩
        · next fails =>
          obtain ⟨rule, regex, place, prefers, same⟩ := step.1 ⟨later, tried⟩
          exact ⟨rule, regex, place, .misses bound anchors fails prefers, same⟩
      · rintro ⟨rule, regex, place, prefers, rfl⟩
        cases prefers with
        | @first _ _ _ _ _ later free anchors fits =>
          refine ⟨later, ?_⟩
          rw [outcome_bind_of_ok anchors, fits]
          rfl
        | elsewhere free => cases bound.symm.trans free
        | misses free anchors fails follows =>
          rw [outcome_bind_of_ok anchors, fails]
          exact step.2 ⟨rule, regex, place, follows, rfl⟩

/-- A rule for the start of lines by which an embedded language ends does so at the start of the
text that is searched. -/
theorem exit?_of_atLineStart {line : Text} {offset : Nat} (bound : rule.atLineStart = true)
    (exits : tokenizer.exit? state line rule = .ok (some offset)) : offset = 0 := by
  unfold exit? at exits
  split at exits
  · cases exits
  · split at exits
    · cases exits
    · next place found =>
      rw [bound, Bool.true_and] at exits
      split at exits
      · cases exits
      · next start =>
        cases exits
        have first : place.start = 0 := by simpa using start
        rw [first, List.take_zero, Text.size_nil]

end Tokenizer

namespace HostLine

variable {host : HostLine} {scan after : Scan} {found : Found} {rule : Rule} {regex : Regex}
  {place : Regex.Match} {trace later : Trace}

/-- A step takes a rule: it is the first that matches the rest of the text. -/
structure TakesRule (host : HostLine) (scan : Scan) (trace : Trace) (rule : Rule) (regex : Regex)
    (place : Regex.Match) : Prop where
  unpended : scan.replay = none
  prefers : ∃ rules rest, host.tokenizer.grammar.findRules? scan.stack.state = some rules ∧
    host.text.drop? scan.position = some rest ∧
    host.tokenizer.Prefers scan.stack.state (scan.position == 0) rest rules trace rule regex place

/-- While no group is pending, a step takes a rule, or the character that none matches. -/
theorem takesRule_or_fallback (unpended : scan.replay = none)
    (takes : outcome (host.take scan) trace = (.ok (some (after, found)), later)) :
    ∃ rest, host.text.drop? scan.position = some rest ∧
      ((∃ rule regex place, host.TakesRule scan trace rule regex place ∧
          found = rule.found place rest) ∨
        found = host.tokenizer.fallback rest) := by
  obtain ⟨-, searched⟩ := take_rules unpended takes
  unfold Tokenizer.findAt at searched
  split at searched
  · cases searched
  · next rules holding =>
    obtain ⟨rest, _, cutting, tried⟩ := outcome_bind_eq_ok.1 searched
    obtain ⟨cuts, rfl⟩ := outcome_cut_eq_ok.1 cutting
    obtain ⟨picked, middle, matching, chosen⟩ := outcome_bind_eq_ok.1 tried
    cases chosen
    refine ⟨rest, cuts, ?_⟩
    cases picked with
    | none => exact Or.inr rfl
    | some found =>
      obtain ⟨rule, regex, place, prefers, same⟩ :=
        Tokenizer.exists_prefers_iff.1 ⟨_, matching⟩
      exact Or.inl ⟨rule, regex, place, ⟨unpended, rules, rest, holding, cuts, prefers⟩, same⟩

/-- Where the match of a rule begins, as tokens are told. -/
def matchStart (host : HostLine) (scan : Scan) (place : Regex.Match) : Nat :=
  host.shift + scan.position + place.offset ((host.text.drop? scan.position).getD [])

/-- A rule for the start of lines is taken where the scan starts. -/
theorem TakesRule.position_eq (takes : host.TakesRule scan trace rule regex place)
    (bound : rule.atLineStart = true) :
    scan.position = 0 ∧ regex.find? host.text = some place ∧
      host.matchStart scan place = host.shift + place.offset host.text := by
  obtain ⟨-, rules, rest, -, cuts, prefers⟩ := takes
  obtain ⟨-, free, fits⟩ := prefers.fits
  have start : scan.position = 0 := by
    rw [bound, Bool.true_and, Bool.not_eq_false', beq_iff_eq] at free
    exact free
  unfold matchStart
  rw [start, Text.drop?_zero] at cuts ⊢
  cases cuts
  exact ⟨rfl, fits, rfl⟩

end HostLine

/-! ### Where the parts of a line stand -/

/-- A line is a part of another one that stands behind so many bytes, and its tokens are told where
they stand in the other one. -/
structure Job.Within (inner outer : Job) (before : Nat) : Prop where
  stands : StandsAt outer.line before inner.line
  shift : inner.shift = outer.shift + before

namespace Job.Within

variable {job between inner outer : Job} {line : Text} {before behind offset : Nat}

theorem of_eq (line : inner.line = outer.line) (shift : inner.shift = outer.shift) :
    inner.Within outer 0 :=
  ⟨⟨[], [], by rw [line, List.nil_append, List.append_nil], rfl⟩, shift⟩

theorem of_take? (cut : outer.line.take? offset = some inner.line)
    (shift : inner.shift = outer.shift) : inner.Within outer 0 := by
  obtain ⟨-, behind, whole⟩ := Text.take?_eq_some_iff.1 cut
  exact ⟨⟨[], behind, whole, rfl⟩, shift⟩

theorem of_drop? (cut : outer.line.drop? offset = some inner.line)
    (shift : inner.shift = outer.shift + offset) : inner.Within outer offset := by
  obtain ⟨before, bytes, whole⟩ := Text.drop?_eq_some_iff.1 cut
  exact ⟨⟨before, [], by rw [List.append_nil, whole], bytes⟩, shift⟩

/-- A part of a part is a part. -/
theorem trans (first : between.Within outer before) (second : inner.Within between behind) :
    inner.Within outer (before + behind) := by
  obtain ⟨⟨left, right, whole, bytes⟩, shift⟩ := first
  obtain ⟨⟨more, rest, part, moreBytes⟩, moreShift⟩ := second
  refine ⟨⟨left ++ more, rest ++ right, ?_, ?_⟩, ?_⟩
  · rw [← whole, ← part]
    simp only [List.append_assoc]
  · rw [Text.size_append, bytes, moreBytes]
  · rw [moreShift, shift, Nat.add_assoc]

end Job.Within

namespace Work

open Job

variable {registry : Option Registry} {steps : Nat} {work inner : Work} {part : Job}
  {middle : Trace}

/-- No part of a line starts inside the line: embedded languages end where the line starts, and
languages start there or at its end. -/
structure Undivided (registry : Option Registry) (steps : Nat) (work : Work) : Prop where
  leaves : ∀ {inner embedded offset}, work.Involves registry steps inner →
    inner.job.state.embedded? = some embedded →
    inner.job.tokenizer.leavingOffset? inner.job.state.stack.state inner.job.line =
      .ok (some offset) → offset = 0
  enters : ∀ {inner part middle name position stack scanned}, work.Involves registry steps inner →
    inner.Scans registry steps part middle →
    outcome (part.scanOwn steps) middle = (.ok (.enter name position stack), scanned) →
    position = 0 ∨ part.line.size ≤ position

theorem Undivided.of_involves (undivided : work.Undivided registry steps)
    (involves : work.Involves registry steps inner) : inner.Undivided registry steps where
  leaves more := undivided.leaves (Relation.ReflTransGen.trans involves more)
  enters more := undivided.enters (Relation.ReflTransGen.trans involves more)

/-- What a scan is of stands behind the place where the embedded language ends. -/
theorem Scans.within (scans : work.Scans registry steps part middle) :
    ∃ before, part.Within work.job before ∧ (work.Undivided registry steps → before = 0) := by
  obtain ⟨offset, rest, cuts, rfl, ⟨-, start⟩ | ⟨embedded, inside, leaves⟩⟩ := scans.exists_drop?
  · exact ⟨offset, .of_drop? cuts rfl, fun _ => start⟩
  · exact ⟨offset, .of_drop? cuts rfl, fun undivided => undivided.leaves .refl inside leaves⟩

theorem Gives.within (gives : Gives registry steps work inner) :
    ∃ before, inner.job.Within work.job before ∧ (work.Undivided registry steps → before = 0) := by
  cases gives with
  | whole inside stays known short =>
    obtain ⟨-, line, -, shift⟩ := guestJob?_eq_some known
    exact ⟨0, .of_eq line shift, fun _ => rfl⟩
  | @before depth job guest trace embedded offset line inside leaves positive taken known short =>
    obtain ⟨-, same, -, shift⟩ := guestJob?_eq_some known
    exact ⟨0, .of_take? (taken.trans (congrArg some same.symm)) shift, fun _ => rfl⟩
  | @behind depth job part rest trace middle scanned later departure state scans departs hands =>
    obtain ⟨before, stands, first⟩ := scans.within
    obtain ⟨name, position, stack, line, rfl, inside, cuts, rfl⟩ := rest_of_handOver hands
    refine ⟨before + position, stands.trans (.of_drop? cuts rfl), fun undivided => ?_⟩
    have start := (undivided.enters .refl scans departs).resolve_right (Nat.not_le_of_lt inside)
    rw [first undivided, start]

/-- The parts of a line stand in it. -/
theorem Involves.within (involves : work.Involves registry steps inner) :
    ∃ before, inner.job.Within work.job before ∧ (work.Undivided registry steps → before = 0) := by
  induction involves with
  | refl => exact ⟨0, .of_eq rfl rfl, fun _ => rfl⟩
  | tail former gives step =>
    obtain ⟨before, stands, first⟩ := step
    obtain ⟨more, standsToo, second⟩ := gives.within
    refine ⟨before + more, stands.trans standsToo, fun undivided => ?_⟩
    rw [first undivided, second (undivided.of_involves former)]

/-- Where the matches of rules for the start of lines begin. Such a rule is taken only where a scan
starts, which is where the line starts unless an embedded language has ended or a language has
started inside the line; and the match begins there if the regular expression asks for the start of
the text. Where an embedded language ends by such a rule, it does at the start of the part of the
line that is searched. -/
theorem begins_of_atLineStart {rule : Rule} (bound : rule.atLineStart = true)
    (involves : work.Involves registry steps inner) :
    (∀ {host scan trace regex place}, inner.Visits registry steps host scan trace →
      host.TakesRule scan trace rule regex place →
      scan.position = 0 ∧ ∃ before, StandsAt work.job.line before host.line ∧
        host.matchStart scan place = work.job.shift + before + place.offset host.text ∧
        (work.Undivided registry steps → before = 0) ∧
        ∀ {ignoreCase pattern}, Regex.compile ignoreCase pattern = .ok regex →
          regex.startsText = true → place.offset host.text = 0) ∧
    ∀ {offset}, inner.job.tokenizer.exit? inner.job.state.stack.state inner.job.line rule =
        .ok (some offset) →
      offset = 0 ∧ ∃ before, inner.job.Within work.job before ∧
        (work.Undivided registry steps → before = 0) := by
  obtain ⟨before, stands, first⟩ := involves.within
  constructor
  · intro host scan trace regex place visits takes
    obtain @⟨part, middle, scans, turns, -, scan, trace, comes⟩ := visits
    obtain ⟨more, standsToo, second⟩ := scans.within
    obtain ⟨line, shift⟩ := stands.trans standsToo
    obtain ⟨start, fits, begins⟩ := takes.position_eq bound
    refine ⟨start, before + more, line, ?_, fun undivided => ?_, fun compiled starts => ?_⟩
    · rw [begins]
      exact congrArg (· + _) shift
    · rw [first undivided, second (undivided.of_involves involves)]
    · exact Regex.offset_eq_zero compiled starts fits
  · exact fun exits => ⟨Tokenizer.exit?_of_atLineStart bound exits, before, stands, first⟩

end Work

/-- The description of a grammar in which an embedded language ends at an angle, with a rule for one
at the start of a line. -/
def angleSource : String :=
  "\x7b\"tokenizer\": \x7b\"main\": [
    [\"<\", \x7b\"token\": \"open\", \"nextEmbedded\": \"js\"\x7d],
    [\"^>\", \x7b\"token\": \"start\", \"nextEmbedded\": \"@pop\"\x7d],
    [\">\", \x7b\"token\": \"close\", \"nextEmbedded\": \"@pop\"\x7d]]\x7d\x7d"

/-- A line that starts in a language that is not known and ends outside of it. -/
def angleJob (grammar : Grammar) : Job where
  tokenizer := { identity := 0, grammar }
  line := ['a', '>']
  ended := false
  state := .unknown default (.root default grammar.start) "js"

/-- Whether all rules of a grammar with a name are for the start of lines. -/
def Grammar.bindsToStart (grammar : Grammar) (name : String) : Bool :=
  grammar.states.all fun state => state.2.all fun rule => rule.name != name || rule.atLineStart

/-- Whether the first step of the scan in the line takes such a rule behind the first character. -/
def startsInside (grammar : Grammar) : Bool :=
  match outcome ((angleJob grammar).openWith none (Job.tokenizeWithin none 50 1)) {} with
  | (.ok (.inr part), middle) =>
    match (outcome (part.host.take part.start) (part.opened middle)).1 with
    | .ok (some (_, found)) =>
      decide (part.shift = 1) && (found.rule != Tokenizer.fallbackName) &&
        grammar.bindsToStart found.rule
    | _ => false
  | _ => false

/-- What the check says of the line. -/
theorem exists_of_startsInside {grammar : Grammar} (starts : startsInside grammar = true) :
    ∃ host scan trace rule regex place,
      Work.Visits none 50 ⟨2, angleJob grammar, {}⟩ host scan trace ∧
        host.TakesRule scan trace rule regex place ∧ rule.atLineStart = true ∧
        host.matchStart scan place ≠ (angleJob grammar).shift := by
  unfold startsInside at starts
  split at starts
  · next part middle opens =>
    split at starts
    · next after found takes =>
      rw [Bool.and_eq_true, Bool.and_eq_true, decide_eq_true_eq, bne_iff_ne] at starts
      obtain ⟨⟨shift, matched⟩, binds⟩ := starts
      have scans : Work.Scans none 50 ⟨2, angleJob grammar, {}⟩ part middle := .opens opens
      obtain ⟨rest, -, ⟨rule, regex, place, takesRule, same⟩ | same⟩ :=
        HostLine.takesRule_or_fallback rfl (Prod.ext takes rfl)
      · have bound : rule.atLineStart = true := by
          obtain ⟨-, rules, rest, holding, -, prefers⟩ := takesRule
          obtain ⟨name, listed⟩ := Grammar.mem_states holding
          have own : part.host.tokenizer.grammar = grammar :=
            congrArg Tokenizer.grammar scans.tokenizer
          rw [own] at listed
          have named := List.all_eq_true.1 (List.all_eq_true.1 binds _ listed) rule prefers.fits.1
          rw [same] at named
          simpa [Rule.found] using named
        refine ⟨part.host, part.start, part.opened middle, rule, regex, place,
          .turn scans (by decide) (HostLine.turn?_zero rfl), takesRule, bound, ?_⟩
        obtain ⟨-, -, begins⟩ := takesRule.position_eq bound
        rw [begins, show part.host.shift = 1 from shift]
        exact (Nat.succ_le_iff.1 (Nat.le_add_right _ _)).ne'
      · exact absurd (congrArg Found.rule same) matched
    · cases starts
  · cases starts

/-- The rule for the start of lines is taken in the line, and not where it starts. -/
theorem exists_startsInside :
    ∃ grammar, (Grammar.compileText "toy" angleSource false).result = .ok grammar ∧
      startsInside grammar = true :=
  Grammar.exists_of_compiles (Grammar.compileText "toy" angleSource false) startsInside
    (by decide +kernel)

theorem Work.angleJob_begins :
    ∃ (grammar : Grammar) (host : HostLine) (scan : Scan) (trace : Trace) (rule : Rule)
      (regex : Regex) (place : Regex.Match),
      Work.Visits none 50 ⟨2, angleJob grammar, {}⟩ host scan trace ∧
      host.TakesRule scan trace rule regex place ∧ rule.atLineStart = true ∧ scan.position = 0 ∧
      ∃ before, StandsAt (angleJob grammar).line before host.line ∧
        host.matchStart scan place =
          (angleJob grammar).shift + before + place.offset host.text := by
  obtain ⟨grammar, -, starts⟩ := exists_startsInside
  obtain ⟨host, scan, trace, rule, regex, place, visits, takes, bound, -⟩ :=
    exists_of_startsInside starts
  obtain ⟨start, before, stands, begins, -, -⟩ :=
    (Work.begins_of_atLineStart bound Relation.ReflTransGen.refl).1 visits takes
  exact ⟨grammar, host, scan, trace, rule, regex, place, visits, takes, bound, start, before,
    stands, begins⟩

/-- A rule for the start of lines may match inside a line. -/
theorem Work.not_forall_begins :
    ¬ ∀ (source : String) (grammar : Grammar) (registry : Option Registry) (steps : Nat)
      (work inner : Work) (host : HostLine) (scan : Scan) (trace : Trace) (rule : Rule)
      (regex : Regex) (place : Regex.Match),
      (Grammar.compileText "toy" source false).result = .ok grammar →
      work.job.tokenizer.grammar = grammar → work.Involves registry steps inner →
      inner.Visits registry steps host scan trace → host.TakesRule scan trace rule regex place →
      rule.atLineStart = true → host.matchStart scan place = work.job.shift := by
  intro begins
  obtain ⟨grammar, compiles, starts⟩ := exists_startsInside
  obtain ⟨host, scan, trace, rule, regex, place, visits, takes, bound, inside⟩ :=
    exists_of_startsInside starts
  exact inside (begins _ grammar none 50 ⟨2, angleJob grammar, {}⟩ _ host scan trace rule regex
    place compiles rfl .refl visits takes bound)

end LineLexer
