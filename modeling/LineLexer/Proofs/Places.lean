import LineLexer.Characters
import LineLexer.Proofs.Coalescing
import LineLexer.Proofs.Incremental
import LineLexer.Proofs.Tiling

/-!
**Places in characters.**

The characters before the tokens of a line are counted in one pass, which never goes back in the
line. So a token is told with the number of characters before the furthest token so far, which is
its own number exactly if no token before it lies further on.

* `Text.charactersBefore`: the number of characters before a place;
* `Text.furthest`, `Text.exists_take?_furthest`: where the pass stands, and what it counts there;
* `Text.count_eq_iff`: the pass counts the characters before a place, unless it is past that place;
* `Report.offsets_increase`: tokens come in the order of their places where no action goes back;
* `Workspace.tokenizeByCharacters_exact_iff`: which tokens of a line are told with their places.
-/

namespace LineLexer

open Scanning

namespace Text

/-! ### Numbers of characters -/

/-- The number of characters of a line that end at a place or before it. -/
def charactersBefore : Text → Nat → Nat
  | [], _ => 0
  | first :: rest, offset =>
    if first.utf8Size ≤ offset then charactersBefore rest (offset - first.utf8Size) + 1 else 0

/-- The part of a line before a place has that many characters. -/
theorem length_of_take? {line before : Text} {offset : Nat}
    (cuts : line.take? offset = some before) : before.length = line.charactersBefore offset := by
  induction line generalizing offset before with
  | nil =>
    obtain ⟨-, same⟩ := Option.ite_none_right_eq_some.1 cuts
    cases same
    rfl
  | cons first rest step =>
    have positive := first.utf8Size_pos
    rw [take?] at cuts
    unfold charactersBefore
    split at cuts
    · cases cuts
      rw [if_neg (by omega), List.length_nil]
    · split at cuts
      · next fits =>
        obtain ⟨shorter, found, rfl⟩ := Option.map_eq_some_iff.1 cuts
        rw [if_pos fits, List.length_cons, step found]
      · cases cuts

/-- A place past the end of a line counts as its end. -/
theorem charactersBefore_min (line : Text) (offset : Nat) :
    line.charactersBefore (min offset line.size) = line.charactersBefore offset := by
  induction line generalizing offset with
  | nil => rfl
  | cons first rest step =>
    unfold charactersBefore
    rw [size_cons]
    split
    · next fits =>
      have left : min offset (first.utf8Size + size rest) - first.utf8Size =
          min (offset - first.utf8Size) (size rest) := by omega
      rw [if_pos (by omega), left, step]
    · next cut => rw [if_neg (by omega)]

/-- Before a place where a character starts there are more characters than before earlier places. -/
theorem charactersBefore_lt {line before : Text} {offset further : Nat}
    (cuts : line.take? further = some before) (ahead : offset < further) :
    line.charactersBefore offset < line.charactersBefore further := by
  induction line generalizing offset further before with
  | nil =>
    have start : further = 0 := (Option.ite_none_right_eq_some.1 cuts).1
    omega
  | cons first rest step =>
    rw [take?, if_neg (by omega)] at cuts
    obtain ⟨fits, cutsRest⟩ := Option.ite_none_right_eq_some.1 cuts
    obtain ⟨shorter, found, -⟩ := Option.map_eq_some_iff.1 cutsRest
    unfold charactersBefore
    rw [if_pos fits]
    split
    · exact Nat.succ_lt_succ (step found (by omega))
    · exact Nat.succ_pos _

/-! ### One pass over a line -/

/-- The furthest of several places, in a line of which a part has been passed. -/
def furthest (line : Text) (reached : Nat) (offsets : List Nat) : Nat :=
  offsets.foldl (fun reached offset => max reached (min offset line.size)) reached

theorem furthest_concat (line : Text) (reached offset : Nat) (offsets : List Nat) :
    line.furthest reached (offsets ++ [offset]) =
      max (line.furthest reached offsets) (min offset line.size) := by
  unfold furthest
  rw [List.foldl_append, List.foldl_cons, List.foldl_nil]

/-- The furthest place is not past a place that no other one is past. -/
theorem furthest_le_iff {line : Text} {reached place : Nat} {offsets : List Nat} :
    line.furthest reached offsets ≤ place ↔
      reached ≤ place ∧ ∀ offset ∈ offsets, min offset line.size ≤ place := by
  induction offsets generalizing reached with
  | nil => simp [furthest]
  | cons offset later step =>
    show line.furthest (max reached (min offset line.size)) later ≤ place ↔ _
    rw [step, List.forall_mem_cons, Nat.max_le, and_assoc]

/-- The pass counts the characters before the furthest place so far, which is not inside any. -/
theorem exists_take?_furthest {line : Text} {reached : Nat} {offsets counts : List Nat}
    (counted : line.characterOffsets? reached offsets = some counts) {index count : Nat}
    (found : counts[index]? = some count) :
    ∃ before, line.take? (line.furthest reached (offsets.take (index + 1))) = some before ∧
      count = before.length := by
  induction offsets generalizing reached counts index with
  | nil =>
    cases counted
    cases found
  | cons offset later step =>
    obtain ⟨before, cuts, following⟩ := Option.bind_eq_some_iff.1 counted
    obtain ⟨others, rest, same⟩ := Option.bind_eq_some_iff.1 following
    cases same
    cases index with
    | zero =>
      cases found
      exact ⟨before, cuts, rfl⟩
    | succ index => exact step rest found

theorem length_of_characterOffsets? {line : Text} {reached : Nat} {offsets counts : List Nat}
    (counted : line.characterOffsets? reached offsets = some counts) :
    counts.length = offsets.length := by
  induction offsets generalizing reached counts with
  | nil =>
    cases counted
    rfl
  | cons offset later step =>
    obtain ⟨before, -, following⟩ := Option.bind_eq_some_iff.1 counted
    obtain ⟨others, rest, same⟩ := Option.bind_eq_some_iff.1 following
    cases same
    rw [List.length_cons, List.length_cons, step rest]

/-- The pass counts the characters before a place exactly if it has not passed that place. -/
theorem count_eq_iff {line : Text} {offsets counts : List Nat}
    (counted : line.characterOffsets? 0 offsets = some counts) {index offset count : Nat}
    (listed : offsets[index]? = some offset) (found : counts[index]? = some count) :
    count = line.charactersBefore offset ↔
      ∀ earlier ∈ offsets.take index, min earlier line.size ≤ offset := by
  obtain ⟨before, cuts, rfl⟩ := exists_take?_furthest counted found
  rw [length_of_take? cuts]
  rw [List.take_add_one, listed, Option.toList_some, furthest_concat] at cuts ⊢
  have passed : line.furthest 0 (offsets.take index) ≤ min offset line.size ↔
      ∀ earlier ∈ offsets.take index, min earlier line.size ≤ offset := by
    rw [furthest_le_iff, and_iff_right (Nat.zero_le _)]
    refine forall₂_congr fun earlier _ => ?_
    omega
  rw [← passed]
  constructor
  · intro same
    by_contra further
    rw [max_eq_left (by omega)] at cuts same
    have fewer := charactersBefore_lt cuts (Nat.lt_of_not_le further)
    rw [charactersBefore_min] at fewer
    omega
  · intro reached
    rw [max_eq_right reached, charactersBefore_min]

end Text

/-! ### Tokens in order -/

/-- Where the tokens are that events tell. -/
theorem offsets_eq_map_told (language : String) (events : List Event) :
    offsets events = (Event.told language events).map Token.offset := by
  induction events generalizing language with
  | nil => rfl
  | cons event later step =>
    cases event with
    | language name => exact step name
    | token offset classification side => exact congrArg (offset :: ·) (step language)

/-- Where no action goes back, the tokens of a line come in the order of their places. -/
theorem Report.offsets_increase {workspace : Workspace} {job : Job} {behind : LineState}
    (forward : Forward workspace.registry job.tokenizer) (nonempty : job.line ≠ [])
    (done : (workspace.tokenize job).1.result = .ok behind) :
    ((workspace.tokenize job).1.tokens.map Token.offset).Pairwise (· < ·) := by
  have ends : outcome (job.tokenize workspace.registry) { memories := workspace.memories } =
      (.ok behind, _) := Prod.ext done rfl
  obtain ⟨events, adds, covers⟩ := Job.unlessLong_covers
    (Job.tokenizeWithin_covers workspace.registry (Job.stepLimit job.line) Job.nestingLimit) forward
    nonempty ends
  have told : (workspace.tokenize job).1.events.toList = events := adds
  unfold tokens
  rw [Runs.tokens_ofEvents, told]
  refine List.Pairwise.sublist ((List.destutter_sublist _ _).map Token.offset) ?_
  rw [← offsets_eq_map_told]
  exact covers.increasing

/-- So no token is further on in the line than a later one. -/
theorem Report.min_le_of_forward {workspace : Workspace} {job : Job} {behind : LineState}
    (forward : Forward workspace.registry job.tokenizer)
    (done : (workspace.tokenize job).1.result = .ok behind) {index : Nat} {token : Token}
    (listed : (workspace.tokenize job).1.tokens[index]? = some token) :
    ∀ earlier ∈ (workspace.tokenize job).1.tokens.take index,
      min earlier.offset job.line.size ≤ token.offset := by
  intro earlier before
  by_cases nonempty : job.line = []
  · rw [nonempty, Text.size_nil, Nat.min_zero]
    exact Nat.zero_le _
  · have increase := List.pairwise_map.1 (offsets_increase forward nonempty done)
    rw [← List.take_append_drop index (workspace.tokenize job).1.tokens] at increase
    have later : token ∈ (workspace.tokenize job).1.tokens.drop index := by
      refine List.mem_of_getElem? (i := 0) ?_
      rwa [List.getElem?_drop, Nat.add_zero]
    exact (Nat.min_le_left _ _).trans
      (Nat.le_of_lt ((List.pairwise_append.1 increase).2.2 earlier before token later))

/-- The places of tokens, for a caller that counts characters. Where a line returns, its tokens are
told in order with their classifications, and a token is told with the number of characters before
its place exactly if no token before it lies further on in the line. That is so of all tokens where
no action goes back. -/
theorem Workspace.tokenizeByCharacters_exact_iff {workspace later : Workspace}
    {tokenizer : Tokenizer} {line : Text} {ended : Bool} {state behind : LineState}
    {pairs : List (Nat × String)}
    (returns : workspace.tokenizeByCharacters tokenizer line ended state =
      (.ok (pairs, behind), later)) :
    let report := (workspace.tokenize { tokenizer, line, ended, state }).1
    report.result = .ok behind ∧ pairs.map Prod.snd = report.tokens.map Token.classification ∧
      (∀ (index : Nat) (token : Token) (pair : Nat × String), report.tokens[index]? = some token →
        pairs[index]? = some pair →
          (pair.1 = line.charactersBefore token.offset ↔
            ∀ earlier ∈ report.tokens.take index, min earlier.offset line.size ≤ token.offset)) ∧
      (Forward workspace.registry tokenizer → pairs = report.tokens.map fun token =>
        (line.charactersBefore token.offset, token.classification)) := by
  intro report
  obtain ⟨reached, behindReached, placed⟩ := exceptBind_eq_ok.1 (Prod.mk.inj returns).1
  have placing : line.pairs? report.tokens = some pairs ∧ reached = behind := by
    split at placed
    · next found =>
      cases placed
      exact ⟨found, rfl⟩
    · cases placed
  obtain ⟨found, rfl⟩ := placing
  obtain ⟨counts, counted, rfl⟩ := Option.map_eq_some_iff.1 found
  have many : counts.length = report.tokens.length := by
    rw [Text.length_of_characterOffsets? counted, List.length_map]
  have classified : (counts.zip (report.tokens.map Token.classification)).map Prod.snd =
      report.tokens.map Token.classification :=
    List.map_snd_zip (by rw [List.length_map, many])
  have exact_iff : ∀ (index : Nat) (token : Token) (pair : Nat × String),
      report.tokens[index]? = some token →
        (counts.zip (report.tokens.map Token.classification))[index]? = some pair →
          (pair.1 = line.charactersBefore token.offset ↔
            ∀ earlier ∈ report.tokens.take index, min earlier.offset line.size ≤ token.offset) := by
    intro index token pair told paired
    have listed : (report.tokens.map Token.offset)[index]? = some token.offset := by
      rw [List.getElem?_map, told, Option.map_some]
    rw [Text.count_eq_iff counted listed (List.getElem?_zip_eq_some.1 paired).1, ← List.map_take,
      List.forall_mem_map]
  refine ⟨behindReached, classified, exact_iff, fun forward => ?_⟩
  refine List.ext_getElem (by simp [many]) fun index inside insideTokens => ?_
  rw [List.length_map] at insideTokens
  have told := List.getElem?_eq_getElem insideTokens
  rw [List.getElem_map]
  refine Prod.ext ?_ (by rw [List.getElem_zip, List.getElem_map])
  exact (exact_iff index _ _ told (List.getElem?_eq_getElem inside)).2
    (Report.min_le_of_forward forward behindReached told)

/-- Whether a line comes to given pairs, of tokens at given places. -/
def comesToPairs (grammar : Grammar) (line : Text) (pairs : List (Nat × String))
    (places : List Nat) : Bool :=
  let workspace : Workspace := { registry := none }
  let job := soleJob grammar line
  (match workspace.tokenizeByCharacters job.tokenizer line true job.state with
    | (.ok (told, _), _) => told == pairs
    | _ => false) &&
  (workspace.tokenize job).1.tokens.map Token.offset == places

theorem exists_of_comesToPairs {grammar : Grammar} {line : Text} {pairs : List (Nat × String)}
    {places : List Nat} (comes : comesToPairs grammar line pairs places = true) :
    ∃ behind later, ({ registry := none } : Workspace).tokenizeByCharacters
        (soleJob grammar line).tokenizer line true (soleJob grammar line).state =
          (.ok (pairs, behind), later) ∧
      (({ registry := none } : Workspace).tokenize (soleJob grammar line)).1.tokens.map
        Token.offset = places := by
  unfold comesToPairs at comes
  rw [Bool.and_eq_true, beq_iff_eq] at comes
  obtain ⟨returns, placed⟩ := comes
  split at returns
  · next told behind later ends =>
    rw [beq_iff_eq] at returns
    exact ⟨behind, later, returns ▸ ends, placed⟩
  · cases returns

/-- A letter of two bytes counts as one character. -/
theorem Workspace.tokenizeByCharacters_exact_iff_two_letters :
    ∃ (grammar : Grammar) (behind : LineState) (later : Workspace),
      let workspace : Workspace := { registry := none }
      let job := soleJob grammar ['é', 'b']
      let report := (workspace.tokenize job).1
      workspace.tokenizeByCharacters job.tokenizer ['é', 'b'] true job.state =
        (.ok ([(0, "x.toy"), (1, "y.toy")], behind), later) ∧
      report.tokens.map Token.offset = [0, 2] ∧ Forward workspace.registry job.tokenizer ∧
      [(0, "x.toy"), (1, "y.toy")] = report.tokens.map fun token =>
        (Text.charactersBefore ['é', 'b'] token.offset, token.classification) := by
  obtain ⟨grammar, -, passes⟩ := Grammar.exists_of_compiles
    (Grammar.compileText "toy"
      "\x7b\"tokenizer\": \x7b\"main\": [[\"é\", \"x\"], [\"b\", \"y\"]]\x7d\x7d" false)
    (fun grammar => !grammar.anyAction Action.goesBack &&
      comesToPairs grammar ['é', 'b'] [(0, "x.toy"), (1, "y.toy")] [0, 2])
    (by decide +kernel)
  rw [Bool.and_eq_true, Bool.not_eq_true'] at passes
  obtain ⟨behind, later, returns, places⟩ := exists_of_comesToPairs passes.2
  have forward : Forward none (soleJob grammar ['é', 'b']).tokenizer := by
    intro other takes
    rw [takes.eq_of_alone]
    exact passes.1
  exact ⟨grammar, behind, later, returns, places, forward,
    (Workspace.tokenizeByCharacters_exact_iff returns).2.2.2 forward⟩

/-- With an action that goes back, a token may be told with the place of one before it. -/
theorem Workspace.not_forall_tokenizeByCharacters_exact :
    ¬ ∀ {workspace later : Workspace} {tokenizer : Tokenizer} {line : Text} {ended : Bool}
        {state behind : LineState} {pairs : List (Nat × String)},
      workspace.tokenizeByCharacters tokenizer line ended state = (.ok (pairs, behind), later) →
        pairs.map Prod.fst =
          (workspace.tokenize { tokenizer, line, ended, state }).1.tokens.map fun token =>
            line.charactersBefore token.offset := by
  intro holds
  obtain ⟨grammar, -, passes⟩ := Grammar.exists_of_compiles
    (Grammar.compileText "toy" "\x7b\"tokenizer\": \x7b
      \"main\": [[\"a\", \"x\"],
        [\"b\", \x7b\"token\": \"y\", \"goBack\": 2, \"next\": \"@second\"\x7d]],
      \"second\": [[\"ab\", \"z\"]]\x7d\x7d" false)
    (fun grammar => comesToPairs grammar ['a', 'b']
      [(0, "x.toy"), (1, "y.toy"), (1, "z.toy")] [0, 1, 0])
    (by decide +kernel)
  obtain ⟨behind, later, returns, places⟩ := exists_of_comesToPairs passes
  have counts := congrArg (List.map (Text.charactersBefore ['a', 'b'])) places
  rw [List.map_map] at counts
  cases (holds returns).trans counts

end LineLexer
