import LineLexer.Proofs.Coalescing

/-!
**Runs only merge.**

The runs of events are compared with the token that was kept last, while languages come and go
between the tokens. What is kept last has the label of what was told last all the same, so a token
is kept exactly if its label is not that of the token told before it.

* `Token.changesAfter`: the tokens whose label is not that of the token before them;
* `Token.labelAt`: the label that tokens give to an offset;
* `Runs.tokens_eq_changes`, `Runs.tokens_foldl_isPrefix`: what is kept, and that it stays;
* `Token.labelAt_changes`: the tokens that are left out change no label;
* `Runs.merges_ofEvents`: the runs of all events.
-/

namespace LineLexer

/-! ### Changes of label -/

namespace Token

/-- The tokens whose label is not that of the token before them. What the label before the first of
them is, if there is one, is given. -/
def changesAfter : Option (String × String × Option Side) → List Token → List Token
  | _, [] => []
  | label, token :: later =>
    if label = some token.label then changesAfter (some token.label) later
    else token :: changesAfter (some token.label) later

variable {label : Option (String × String × Option Side)} {first : Token} {tokens : List Token}

theorem destutter'_eq_changesAfter :
    tokens.destutter' (fun left right => left.label ≠ right.label) first =
      first :: changesAfter (some first.label) tokens := by
  induction tokens generalizing first with
  | nil => rfl
  | cons token later step =>
    rw [List.destutter'_cons, changesAfter]
    by_cases same : first.label = token.label
    · rw [if_neg (not_not.2 same), if_pos (congrArg some same), step, same]
    · rw [if_pos same, if_neg fun equal => same (Option.some.inj equal), step]

/-- Nothing stands before the first of some tokens. -/
theorem destutter_eq_changesAfter :
    tokens.destutter (fun left right => left.label ≠ right.label) = changesAfter none tokens := by
  cases tokens with
  | nil => rfl
  | cons first later => exact destutter'_eq_changesAfter

theorem changesAfter_sublist : (changesAfter label tokens).Sublist tokens := by
  induction tokens generalizing label with
  | nil => exact .slnil
  | cons token later step =>
    rw [changesAfter]
    split
    · exact step.cons _
    · exact step.cons_cons _

/-! ### Labels of offsets -/

/-- The tokens at or before an offset. -/
def upTo (offset : Nat) (tokens : List Token) : List Token :=
  tokens.filter (·.offset ≤ offset)

/-- The label that tokens give to an offset: that of the last one at or before it. -/
def labelAt (offset : Nat) (tokens : List Token) : Option (String × String × Option Side) :=
  (upTo offset tokens).getLast?.map Token.label

/-- Whether the offsets of tokens never decrease. -/
def Ascends (tokens : List Token) : Prop :=
  tokens.Pairwise fun earlier later => earlier.offset ≤ later.offset

instance : DecidablePred Ascends := fun tokens =>
  inferInstanceAs (Decidable (tokens.Pairwise fun earlier later => earlier.offset ≤ later.offset))

theorem upTo_eq_nil {offset : Nat} (beyond : ∀ token ∈ tokens, offset < token.offset) :
    upTo offset tokens = [] :=
  List.filter_eq_nil_iff.2 fun token inside => by simpa using beyond token inside

/-- Where offsets never decrease, the changes up to an offset are the changes of the tokens up to
it: behind a token that is left out for its offset all are. -/
theorem upTo_changesAfter (ascends : Ascends tokens) (offset : Nat) :
    upTo offset (changesAfter label tokens) = changesAfter label (upTo offset tokens) := by
  induction tokens generalizing label with
  | nil => rfl
  | cons token later step =>
    obtain ⟨below, ascends⟩ := List.pairwise_cons.1 ascends
    by_cases reached : token.offset ≤ offset
    · have kept : upTo offset (token :: later) = token :: upTo offset later :=
        List.filter_cons_of_pos (decide_eq_true reached)
      rw [kept, changesAfter, changesAfter, ← step ascends]
      split
      · rfl
      · exact List.filter_cons_of_pos (decide_eq_true reached)
    · have beyond : ∀ other ∈ token :: later, offset < other.offset := by
        refine List.forall_mem_cons.2 ⟨Nat.lt_of_not_le reached, fun other inside => ?_⟩
        exact Nat.lt_of_lt_of_le (Nat.lt_of_not_le reached) (below other inside)
      rw [upTo_eq_nil beyond,
        upTo_eq_nil fun other inside => beyond other (changesAfter_sublist.mem inside)]
      rfl

/-- The tokens that are left out change no label. -/
theorem labelAt_changes (ascends : Ascends tokens) (offset : Nat) :
    labelAt offset (changesAfter none tokens) = labelAt offset tokens := by
  rw [labelAt, upTo_changesAfter ascends, ← destutter_eq_changesAfter, getLast?_destutter]
  rfl

end Token

/-! ### Runs -/

namespace Runs

variable {runs : Runs} {events : List Event}

/-- The tokens that are kept are those whose label is not that of the token told before them. -/
theorem tokens_eq_changes (events : List Event) :
    (ofEvents events).tokens.toList = Token.changesAfter none (Event.told "" events) := by
  rw [tokens_ofEvents, Token.destutter_eq_changesAfter]

/-- An event leaves the tokens as they are or adds one at the end. -/
theorem tokens_add_isPrefix (event : Event) :
    runs.tokens.toList.IsPrefix (runs.add event).tokens.toList := by
  cases event with
  | language name => exact List.prefix_refl _
  | token offset classification side =>
    rw [add]
    split
    · exact List.prefix_refl _
    · rw [Array.toList_push]
      exact List.prefix_append _ _

theorem tokens_foldl_isPrefix :
    runs.tokens.toList.IsPrefix (events.foldl add runs).tokens.toList := by
  induction events generalizing runs with
  | nil => exact List.prefix_refl _
  | cons event events step => exact (tokens_add_isPrefix event).trans step

/-- What holds of the runs of events, compared with the tokens that the events tell. -/
structure Merges (events : List Event) : Prop where
  /-- A token is kept exactly if its label is not that of the token before it. -/
  kept : (ofEvents events).tokens.toList = Token.changesAfter none (Event.told "" events)
  /-- Neighbours differ. -/
  apart : (ofEvents events).tokens.toList.IsChain fun left right => left.label ≠ right.label
  /-- What is kept of the first events stays. -/
  stays : ∀ earlier : List Event, earlier.IsPrefix events →
    (ofEvents earlier).tokens.toList.IsPrefix (ofEvents events).tokens.toList
  /-- If offsets never decrease, each one has the label that the tokens told give it. -/
  labels : Token.Ascends (Event.told "" events) → ∀ offset,
    Token.labelAt offset (ofEvents events).tokens.toList =
      Token.labelAt offset (Event.told "" events)

/-- The runs of events are the tokens that they tell but for those with the label of the token told
before them. No two neighbours agree, what is kept stays, and no offset gets another label. -/
theorem merges_ofEvents (events : List Event) : Merges events where
  kept := tokens_eq_changes events
  apart := by
    rw [tokens_ofEvents]
    exact List.isChain_destutter _ _
  stays := by
    rintro earlier ⟨later, rfl⟩
    rw [ofEvents_append]
    exact tokens_foldl_isPrefix
  labels := by
    intro ascends offset
    rw [tokens_eq_changes, Token.labelAt_changes ascends]

/-- A token in a language that was left and entered again is left out, one in another language is
kept, and the text between them has the label that was told. -/
theorem merges_language_left : ∃ events : List Event, Token.Ascends (Event.told "" events) ∧
    (Event.told "" events).map (·.offset) = [0, 1, 2, 2, 5] ∧
    (ofEvents events).tokens.map (·.offset) = #[0, 2, 2] ∧
    (∀ offset, Token.labelAt offset (ofEvents events).tokens.toList =
      Token.labelAt offset (Event.told "" events)) ∧
    Token.labelAt 1 (ofEvents events).tokens.toList = some ("text", "toy", none) := by
  refine ⟨[.language "toy", .token 0 "text" none, .language "js", .language "toy",
    .token 1 "text" none, .language "js", .token 2 "text" none, .language "toy",
    .token 2 "delimiter" (some .opening), .token 5 "delimiter" (some .opening)], ?_⟩
  have ascends : Token.Ascends (Event.told "" [.language "toy", .token 0 "text" none,
      .language "js", .language "toy", .token 1 "text" none, .language "js",
      .token 2 "text" none, .language "toy", .token 2 "delimiter" (some .opening),
      .token 5 "delimiter" (some .opening)]) := by decide
  have labels := (merges_ofEvents _).labels ascends
  exact ⟨ascends, rfl, by decide +kernel, labels, (labels 1).trans (by decide +kernel)⟩

end Runs

end LineLexer
