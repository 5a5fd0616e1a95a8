import LineLexer.Proofs.FirstMatch
import LineLexer.Proofs.Groups

/-!
**Where the groups of a match stand.**

A match is split if its groups have as many bytes as the match. That does not say that they make up
the match: a gap may be as long as an overlap. Groups that lie in order and do not overlap do make
it up, and then each group is told where it stands, unless one before it is read again.

* `Regex.Match.spans`: the groups that took part, each with the bytes before it;
* `Consecutive`, `InOrder`: spans without gaps and overlaps, and spans without overlaps;
* `consecutive_iff_inOrder`: spans that have the bytes of a stretch and lie in it in order fill it;
* `flatten_eq_of_consecutive`: spans that fill a stretch make up its text;
* `HostLine.Replays.position_eq`: groups that are not read again are moved over;
* `HostLine.groups_consecutive_iff`: which groups make up the match that is split.
-/

namespace LineLexer

open Scanning

/-! ### Spans -/

/-- The spans start at `start`, follow each other without gap or overlap, and end at `finish`. -/
def Consecutive (start finish : Nat) : List (Nat × Text) → Prop
  | [] => start = finish
  | (place, text) :: rest => place = start ∧ Consecutive (start + text.size) finish rest

/-- The spans lie between `start` and `finish`, in order and without overlap. -/
def InOrder (start finish : Nat) : List (Nat × Text) → Prop
  | [] => start ≤ finish
  | (place, text) :: rest => start ≤ place ∧ InOrder (place + text.size) finish rest

/-- The number of bytes of texts. -/
def sizes (texts : List Text) : Nat := (texts.map Text.size).foldr (· + ·) 0

@[simp] theorem sizes_nil : sizes [] = 0 := rfl

@[simp] theorem sizes_cons (text : Text) (texts : List Text) :
    sizes (text :: texts) = text.size + sizes texts := rfl

theorem size_flatten (texts : List Text) : Text.size texts.flatten = sizes texts := by
  induction texts with
  | nil => rfl
  | cons text rest step => rw [List.flatten_cons, Text.size_append, sizes_cons, step]

/-- A text stands in another one behind so many bytes. -/
def StandsAt (text : Text) (place : Nat) (part : Text) : Prop :=
  ∃ before after : Text, before ++ part ++ after = text ∧ before.size = place

section

variable {start middle finish place : Nat} {part other text : Text} {spans more : List (Nat × Text)}

theorem Consecutive.inOrder (consecutive : Consecutive start finish spans) :
    InOrder start finish spans := by
  induction spans generalizing start with
  | nil => exact Nat.le_of_eq consecutive
  | cons span rest step =>
    obtain ⟨rfl, follow⟩ := consecutive
    exact ⟨Nat.le_refl _, step follow⟩

/-- Spans in order have no more bytes than the stretch that they lie in. -/
theorem InOrder.sizes_le (inOrder : InOrder start finish spans) :
    start + sizes (spans.map Prod.snd) ≤ finish := by
  induction spans generalizing start with
  | nil => exact inOrder
  | cons span rest step =>
    obtain ⟨before, follow⟩ := inOrder
    have room := step follow
    rw [List.map_cons, sizes_cons]
    omega

/-- Spans that have the bytes of a stretch fill it exactly where they lie in it in order. -/
theorem consecutive_iff_inOrder (filled : start + sizes (spans.map Prod.snd) = finish) :
    Consecutive start finish spans ↔ InOrder start finish spans := by
  refine ⟨Consecutive.inOrder, fun inOrder => ?_⟩
  induction spans generalizing start with
  | nil => exact filled
  | cons span rest step =>
    obtain ⟨before, follow⟩ := inOrder
    rw [List.map_cons, sizes_cons] at filled
    have room := follow.sizes_le
    have same : span.1 = start := by omega
    rw [same] at follow
    exact ⟨same, step (by omega) follow⟩

/-- Spans that fill a stretch have its bytes. -/
theorem Consecutive.sizes_eq (consecutive : Consecutive start finish spans) :
    start + sizes (spans.map Prod.snd) = finish := by
  induction spans generalizing start with
  | nil => exact consecutive
  | cons span rest step =>
    obtain ⟨rfl, follow⟩ := consecutive
    rw [List.map_cons, sizes_cons, ← Nat.add_assoc]
    exact step follow

/-- Where spans fill a stretch, the first of them fill its first part. -/
theorem Consecutive.of_append (consecutive : Consecutive start finish (spans ++ more)) :
    Consecutive start (start + sizes (spans.map Prod.snd)) spans ∧
      Consecutive (start + sizes (spans.map Prod.snd)) finish more := by
  induction spans generalizing start with
  | nil => exact ⟨rfl, consecutive⟩
  | cons span rest step =>
    obtain ⟨rfl, follow⟩ := consecutive
    rw [List.map_cons, sizes_cons, ← Nat.add_assoc]
    exact ⟨⟨rfl, (step follow).1⟩, (step follow).2⟩

/-- Where a text stands there is a boundary between characters. -/
theorem StandsAt.boundary (stands : StandsAt text place part) : StandsAt text place [] := by
  obtain ⟨before, after, whole, bytes⟩ := stands
  exact ⟨before, part ++ after, by rw [List.append_nil, ← List.append_assoc, whole], bytes⟩

/-- Texts with equally many bytes that stand behind equally many bytes are equal. -/
theorem StandsAt.unique (stands : StandsAt text place part)
    (otherStands : StandsAt text place other) (bytes : part.size = other.size) : part = other := by
  obtain ⟨before, after, rfl, rfl⟩ := stands
  obtain ⟨otherBefore, otherAfter, whole, same⟩ := otherStands
  have cutBefore : (before ++ part ++ after).take? before.size = some before :=
    Text.take?_eq_some_iff.2 ⟨rfl, part ++ after, by rw [List.append_assoc]⟩
  have cutOther : (before ++ part ++ after).take? before.size = some otherBefore :=
    Text.take?_eq_some_iff.2 ⟨same, other ++ otherAfter, by rw [← whole, List.append_assoc]⟩
  rw [cutBefore, Option.some.injEq] at cutOther
  subst cutOther
  rw [List.append_assoc, List.append_assoc, List.append_cancel_left_eq] at whole
  have cutPart : (part ++ after).take? part.size = some part :=
    Text.take?_eq_some_iff.2 ⟨rfl, after, rfl⟩
  have cutThis : (part ++ after).take? part.size = some other :=
    Text.take?_eq_some_iff.2 ⟨bytes.symm, otherAfter, whole⟩
  rw [cutPart, Option.some.injEq] at cutThis
  exact cutThis

/-- Spans that fill a stretch make up the text that stands there. -/
theorem standsAt_flatten (between : StandsAt text start [])
    (stand : ∀ span ∈ spans, StandsAt text span.1 span.2)
    (consecutive : Consecutive start finish spans) :
    StandsAt text start (spans.map Prod.snd).flatten := by
  induction spans generalizing start with
  | nil => exact between
  | cons span rest step =>
    obtain ⟨rfl, follow⟩ := consecutive
    obtain ⟨before, after, whole, bytes⟩ := stand span List.mem_cons_self
    have behind : StandsAt text (span.1 + span.2.size) [] :=
      ⟨before ++ span.2, after, by rw [List.append_nil, whole], by rw [Text.size_append, bytes]⟩
    obtain ⟨longer, rests, wholeToo, bytesToo⟩ :=
      step behind (fun other inside => stand other (List.mem_cons_of_mem _ inside)) follow
    have same : longer = before ++ span.2 := by
      have cut : text.take? (span.1 + span.2.size) = some (before ++ span.2) :=
        Text.take?_eq_some_iff.2 ⟨by rw [Text.size_append, bytes], after, whole⟩
      have cutToo : text.take? (span.1 + span.2.size) = some longer :=
        Text.take?_eq_some_iff.2 ⟨bytesToo, _, by rw [← List.append_assoc]; exact wholeToo⟩
      rw [cut, Option.some.injEq] at cutToo
      exact cutToo.symm
    subst same
    refine ⟨before, rests, ?_, bytes⟩
    rw [List.map_cons, List.flatten_cons, ← List.append_assoc]
    exact wholeToo

end

/-! ### The groups of a match -/

namespace Regex.Match

variable {text : Text}

/-- The place of a group and its text, if it took part and its text is not empty. -/
def span? (text : Text) : Option (Nat × Nat) → Option (Nat × Text)
  | none => none
  | some (start, finish) =>
    if textOf text (some (start, finish)) = [] then none
    else some (Text.size (text.take start), textOf text (some (start, finish)))

/-- The groups of a match whose texts are not empty, each with the bytes before it. -/
def spans (found : Match) (text : Text) : List (Nat × Text) :=
  (found.groups.drop 1).filterMap (span? text)

/-- The number of bytes before a match. -/
def offset (found : Match) (text : Text) : Nat := Text.size (text.take found.start)

/-- A group stands where its place says. -/
theorem standsAt_textOf (text : Text) (start finish : Nat) :
    StandsAt text (Text.size (text.take start)) (textOf text (some (start, finish))) := by
  refine ⟨text.take start, (text.drop start).drop (finish - start), ?_, rfl⟩
  unfold textOf
  rw [List.append_assoc, List.take_append_drop, List.take_append_drop]

/-- Each of the spans of a match stands in the text. -/
theorem standsAt_of_mem_spans {found : Match} {span : Nat × Text}
    (inside : span ∈ found.spans text) : StandsAt text span.1 span.2 := by
  obtain ⟨group, -, same⟩ := List.mem_filterMap.1 inside
  unfold span? at same
  split at same
  · cases same
  · split at same
    · cases same
    · cases same
      exact standsAt_textOf text _ _

/-- A group without a span has no text. -/
theorem textOf_of_span?_none {group : Option (Nat × Nat)} (none : span? text group = .none) :
    textOf text group = [] := by
  unfold span? at none
  split at none
  · rfl
  · split at none
    · next empty => exact empty
    · cases none

theorem textOf_of_span?_some {group : Option (Nat × Nat)} {span : Nat × Text}
    (some : span? text group = .some span) : span.2 = textOf text group := by
  unfold span? at some
  split at some
  · cases some
  · split at some
    · cases some
    · cases some
      rfl

/-- Groups without a span have no bytes. -/
theorem sizes_spans (text : Text) (groups : List (Option (Nat × Nat))) :
    sizes ((groups.filterMap (span? text)).map Prod.snd) = sizes (groups.map (textOf text)) := by
  induction groups with
  | nil => rfl
  | cons group rest step =>
    rw [List.filterMap_cons, List.map_cons, sizes_cons]
    cases spans : span? text group with
    | none =>
      rw [textOf_of_span?_none spans, Text.size_nil, Nat.zero_add]
      exact step
    | some span =>
      rw [List.map_cons, sizes_cons, step, textOf_of_span?_some spans]

/-- Groups without a span have no characters. -/
theorem flatten_spans (text : Text) (groups : List (Option (Nat × Nat))) :
    ((groups.filterMap (span? text)).map Prod.snd).flatten =
      (groups.map (textOf text)).flatten := by
  induction groups with
  | nil => rfl
  | cons group rest step =>
    rw [List.filterMap_cons, List.map_cons, List.flatten_cons]
    cases spans : span? text group with
    | none =>
      rw [textOf_of_span?_none spans, List.nil_append]
      exact step
    | some span =>
      rw [List.map_cons, List.flatten_cons, step, textOf_of_span?_some spans]

end Regex.Match

/-! ### Groups that are taken one by one -/

/-- No characters of a group are read again. -/
def Taken.Onward (taken : Taken) : Prop :=
  taken.action.goBack.getD 0 = 0 ∧ taken.token ≠ TokenAction.rematchToken

namespace HostLine

variable {host : HostLine} {scan next reached : Scan} {found : Found} {members : List Action}
  {trace middle later behind : Trace} {replay : Replay} {taken : List Taken} {offset : Nat}

/-- Groups of which no characters are read again are moved over. -/
theorem Replays.position_eq (replays : host.Replays replay taken scan trace reached later)
    (onward : ∀ group ∈ taken, group.Onward) :
    reached.position = scan.position + sizeOf (taken.map Taken.group) := by
  induction replays with
  | nil => rfl
  | @cons first rest left scan next reached trace middle later inside pends performs follows step =>
    obtain ⟨forward, read⟩ := onward first List.mem_cons_self
    obtain ⟨position, rewinds, moves⟩ := performs.moves
    rw [forward, Text.rewind?, if_pos rfl, Option.some.injEq] at rewinds
    rw [if_neg (by simpa using read)] at moves
    rw [step fun group inside => onward group (List.mem_cons_of_mem _ inside), moves, ← rewinds,
      List.map_cons, sizeOf_cons, Nat.add_assoc]
    rfl

/-- A step tells its token where the scan stands. -/
theorem Reads.offset_eq (reads : host.Reads scan trace found offset later) :
    offset = host.shift + scan.position := by
  obtain ⟨next, leads⟩ := reads.ends
  obtain ⟨classification, side, tells⟩ := reads.tells
  cases step_cases leads with
  | empty first none same silent =>
    subst silent
    cases (Trace.Adds.refl _).unique tells
  | splits splits same =>
    obtain ⟨takes, -, -⟩ := splits
    cases ((quiet_take host scan).adds takes).unique tells
  | @acts found action acts =>
    obtain @⟨after, changed, entering, behind, noted, takes, resolves, transits, concludes⟩ := acts
    have before := ((quiet_take host scan).adds takes).trans transits.adds
    cases (tells_of_conclude concludes).2 with
    | silent unread adds => cases (before.trans adds).unique tells
    | audible read classifies adds =>
      have same := (before.trans adds).unique tells
      unfold told at same
      rw [List.append_nil, List.nil_append] at same
      split at same
      · cases same
        exact Nat.add_comm _ _
      · cases same

/-- What is split is what a rule finds. -/
theorem Splits.exists_match (splits : host.Splits scan trace found members next later) :
    ∃ rest rules rule regex place, host.text.drop? scan.position = some rest ∧
      host.tokenizer.grammar.findRules? scan.stack.state = some rules ∧ rule ∈ rules ∧
      Regex.find? regex rest = some place ∧ found = Rule.found rule place rest := by
  obtain ⟨takes, leads, splitting⟩ := splits
  obtain ⟨-, searched⟩ := take_rules (splitGroups_ok splitting).1 takes
  obtain ⟨rules, rest, picked, holding, cuts, picks, chosen⟩ :=
    Tokenizer.picks_of_findAt (fun {rule regex _ _} _ _ => ⟨trivial, trivial⟩) trivial searched
  cases picked with
  | none =>
    subst chosen
    cases leads
  | some found =>
    cases chosen
    obtain ⟨rule, listed, regex, place, -, fits, rfl⟩ := picks.exists_rule
    exact ⟨rest, rules, rule, regex, place, cuts, holding, listed, fits, rfl⟩

/-- The groups of a match that is split have the bytes of the match. -/
theorem Splits.sizes_eq (splits : host.Splits scan trace found members next later) :
    members.length = (found.captures.drop 1).length ∧
      sizes (found.captures.drop 1) = found.matched.size := by
  obtain ⟨-, -, fits⟩ := splits
  obtain ⟨-, counted, filled, -⟩ := splitGroups_ok fits
  refine ⟨?_, filled⟩
  rw [List.length_drop, counted]
  omega

/-- A split leaves the scan where it stands, with the groups of the match pending. -/
theorem Splits.leaves (splits : host.Splits scan trace found members next later) :
    next.position = scan.position ∧ next.replay = some (found.replay members) := by
  refine ⟨?_, splits.pends.2⟩
  obtain ⟨-, -, fits⟩ := splits
  obtain ⟨-, -, -, emptyGroup, rfl⟩ := splitGroups_ok fits
  rfl

/-- The first groups of a match have the bytes of its first captures. -/
theorem Splits.sizeOf_taken (splits : host.Splits scan trace found members next later)
    (first : taken.map Taken.group <+: (found.replay members).members) :
    sizeOf (taken.map Taken.group) = sizes ((found.captures.drop 1).take taken.length) := by
  have enough := splits.sizes_eq.1
  have same : taken.map Taken.group =
      (members.take taken.length).zip ((found.captures.drop 1).take taken.length) := by
    have whole := List.prefix_iff_eq_take.1 first
    rw [List.length_map] at whole
    rw [whole]
    exact List.take_zipWith
  rw [same, sizeOf_zip (by rw [List.length_take, List.length_take, enough])]
  rfl

end HostLine

namespace Regex.Match

variable {place : Regex.Match} {rest : Text}

/-- A match stands where it starts. -/
theorem standsAt_match (place : Regex.Match) (rest : Text) :
    StandsAt rest (place.offset rest) ((place.captures rest).headD []) := by
  rcases place with ⟨_ | ⟨_ | ⟨start, finish⟩, groups⟩⟩
  · exact ⟨[], rest, rfl, rfl⟩
  · exact ⟨[], rest, rfl, rfl⟩
  · exact standsAt_textOf rest start finish

/-- The spans of a match have the bytes of its groups, and their characters. -/
theorem spans_eq (place : Regex.Match) (rest : Text) :
    sizes ((place.spans rest).map Prod.snd) = sizes ((place.captures rest).drop 1) ∧
      ((place.spans rest).map Prod.snd).flatten = ((place.captures rest).drop 1).flatten := by
  have groups : (place.captures rest).drop 1 = (place.groups.drop 1).map (textOf rest) :=
    List.map_drop.symm
  rw [groups]
  exact ⟨sizes_spans rest _, flatten_spans rest _⟩

/-- Groups that fill the match make it up. -/
theorem flatten_captures
    (consecutive : Consecutive (place.offset rest)
      (place.offset rest + ((place.captures rest).headD []).size) (place.spans rest)) :
    ((place.captures rest).drop 1).flatten = (place.captures rest).headD [] := by
  have whole := standsAt_match place rest
  have parts := standsAt_flatten whole.boundary (fun span inside => standsAt_of_mem_spans inside)
    consecutive
  have bytes := consecutive.sizes_eq
  rw [(spans_eq place rest).2] at parts
  refine parts.unique whole ?_
  rw [size_flatten, ← (spans_eq place rest).1]
  omega

/-- Where groups fill the match, each of them stands behind those before it. -/
theorem offset_of_group (consecutive : Consecutive (place.offset rest)
      (place.offset rest + ((place.captures rest).headD []).size) (place.spans rest))
    {index first last : Nat} (group : (place.groups.drop 1)[index]? = some (some (first, last)))
    (nonempty : textOf rest (some (first, last)) ≠ []) :
    Text.size (rest.take first) =
      place.offset rest + sizes (((place.captures rest).drop 1).take index) := by
  have inside := (List.getElem?_eq_some_iff.1 group).1
  have cut : place.groups.drop 1 = (place.groups.drop 1).take index ++
      some (first, last) :: (place.groups.drop 1).drop (index + 1) := by
    have here := (List.getElem?_eq_some_iff.1 group).2
    rw [← here, ← List.drop_eq_getElem_cons inside, List.take_append_drop]
  have parted := consecutive
  unfold spans at parted
  rw [cut, List.filterMap_append, List.filterMap_cons] at parted
  have span : span? rest (some (first, last)) =
      some (Text.size (rest.take first), textOf rest (some (first, last))) := if_neg nonempty
  rw [span] at parted
  obtain ⟨-, stands, -⟩ := parted.of_append
  rw [stands, sizes_spans, List.map_take]
  exact congrArg _ (congrArg sizes (congrArg (List.take index) List.map_drop))

end Regex.Match

/-! ### Which groups make up a match -/

/-- Which groups make up the match that is split. They do exactly where they lie in order inside the
match and do not overlap. Then their texts put together are the matched text, and a group is told
where it stands behind the start of the match, unless characters of one before it are read
again. -/
theorem HostLine.groups_consecutive_iff {host : HostLine} {scan next : Scan} {found : Found}
    {members : List Action} {trace later : Trace}
    (splits : host.Splits scan trace found members next later) :
    ∃ rest rules rule regex place, host.text.drop? scan.position = some rest ∧
      host.tokenizer.grammar.findRules? scan.stack.state = some rules ∧ rule ∈ rules ∧
      Regex.find? regex rest = some place ∧ found = Rule.found rule place rest ∧
      (Consecutive (place.offset rest) (place.offset rest + found.matched.size)
          (place.spans rest) ↔
        InOrder (place.offset rest) (place.offset rest + found.matched.size)
          (place.spans rest)) ∧
      (Consecutive (place.offset rest) (place.offset rest + found.matched.size)
          (place.spans rest) →
        (found.captures.drop 1).flatten = found.matched ∧
        ∀ {taken reached behind other offset last first final},
          host.Replays (found.replay members) taken next later reached behind →
          (∀ group ∈ taken, group.Onward) → host.Reads reached behind other offset last →
          (place.groups.drop 1)[taken.length]? = some (some (first, final)) →
          Regex.Match.textOf rest (some (first, final)) ≠ [] →
          offset + place.offset rest =
            host.shift + scan.position + Text.size (rest.take first)) := by
  obtain ⟨rest, rules, rule, regex, place, cuts, holding, listed, fits, rfl⟩ :=
    splits.exists_match
  obtain ⟨counted, filled⟩ := splits.sizes_eq
  refine ⟨rest, rules, rule, regex, place, cuts, holding, listed, fits, rfl,
    consecutive_iff_inOrder ?_, fun consecutive => ⟨Regex.Match.flatten_captures consecutive, ?_⟩⟩
  · rw [(Regex.Match.spans_eq place rest).1]
    exact congrArg _ filled
  · intro taken reached behind other offset last first final replays onward reads group nonempty
    obtain ⟨stands, pends⟩ := splits.leaves
    have moved := replays.position_eq onward
    rw [splits.sizeOf_taken (replays.isPrefix pends), stands] at moved
    rw [reads.offset_eq, moved, Regex.Match.offset_of_group consecutive group nonempty]
    show host.shift + (scan.position + sizes (((place.captures rest).drop 1).take taken.length)) +
      place.offset rest = _
    omega

/-- The description of a grammar whose rule has a gap before its first group and a second group
inside the first one. -/
def nestedSource : String :=
  "\x7b\"tokenizer\": \x7b\"main\": [[\"a((b))\", [\"first\", \"second\"]]]\x7d\x7d"

/-- Whether the first step of the scan of the line splits the match "ab" into the groups "b" and
"b". -/
def splitsOverlap (grammar : Grammar) : Bool :=
  let job := pairJob grammar
  match outcome (job.host.step job.start) {} with
  | (.ok (.goOn next), _) =>
    next.replay.any fun replay => decide (replay.captures = [['a', 'b'], ['b'], ['b']])
  | _ => false

/-- The groups of the match are both the second character. -/
theorem exists_splitsOverlap :
    ∃ grammar, (Grammar.compileText "toy" nestedSource false).result = .ok grammar ∧
      splitsOverlap grammar = true :=
  Grammar.exists_of_compiles (Grammar.compileText "toy" nestedSource false) splitsOverlap
    (by decide +kernel)

/-- A match is split whose groups are not the match. -/
theorem exists_splits_of_splitsOverlap {grammar : Grammar}
    (overlap : splitsOverlap grammar = true) :
    ∃ (found : Found) (members : List Action) (next : Scan) (later : Trace),
      (pairJob grammar).host.Splits (pairJob grammar).start {} found members next later ∧
        (found.captures.drop 1).flatten ≠ (found.captures.headD []) := by
  unfold splitsOverlap at overlap
  dsimp only at overlap
  split at overlap
  · next next later leads =>
    obtain ⟨replay, pends, decided⟩ := (Option.any_eq_true _ _).1 overlap
    have captures := of_decide_eq_true decided
    obtain ⟨found, members, splits⟩ :=
      HostLine.exists_splits rfl (by rw [pends]; rfl) leads
    refine ⟨found, members, next, later, splits, ?_⟩
    have same := splits.pends.2
    rw [pends, Option.some.injEq] at same
    rw [same] at captures
    rw [show found.captures = [['a', 'b'], ['b'], ['b']] from captures]
    decide
  · cases overlap

theorem HostLine.pairJob_overlaps :
    ∃ (grammar : Grammar) (found : Found) (members : List Action) (next : Scan) (later : Trace),
      (pairJob grammar).host.Splits (pairJob grammar).start {} found members next later ∧
        ∃ rest place, found.captures = Regex.Match.captures place rest ∧
          ¬ InOrder (place.offset rest) (place.offset rest + found.matched.size)
            (place.spans rest) := by
  obtain ⟨grammar, -, overlap⟩ := exists_splitsOverlap
  obtain ⟨found, members, next, later, splits, apart⟩ := exists_splits_of_splitsOverlap overlap
  obtain ⟨rest, rules, rule, regex, place, -, -, -, -, rfl, exactly, fills⟩ :=
    HostLine.groups_consecutive_iff splits
  refine ⟨grammar, _, members, next, later, splits, rest, place, rfl, fun inOrder => ?_⟩
  exact apart (fills (exactly.2 inOrder)).1

/-- The groups of a match that is split need not make it up. -/
theorem HostLine.not_forall_flatten :
    ¬ ∀ (source : String) (grammar : Grammar) (job : Job) (found : Found) (members : List Action)
      (trace later : Trace) (next : Scan),
      (Grammar.compileText "toy" source false).result = .ok grammar →
      job.tokenizer.grammar = grammar →
      job.host.Splits job.start trace found members next later →
      (found.captures.drop 1).flatten = found.captures.headD [] := by
  intro fills
  obtain ⟨grammar, compiles, overlap⟩ := exists_splitsOverlap
  obtain ⟨found, members, next, later, splits, apart⟩ := exists_splits_of_splitsOverlap overlap
  exact apart (fills _ grammar (pairJob grammar) found members _ _ next compiles rfl splits)

end LineLexer
