import LineLexer.Token.Encoded
import LineLexer.Token.Runs
import Mathlib.Data.List.Destutter

/-!
**Runs and encoded runs of the same events.**

Both ways to collect tokens leave out what says nothing new, and they keep different things in mind:
runs look at the token kept last, encoded runs at the number told last in the language that holds.
So a language that starts and ends between two tokens with the same label, and is not told of by a
token of its own, makes the encoded runs tell the number once more.

* `Event.told`: all tokens that events tell;
* `Runs.tokens_ofEvents`: the runs are these tokens without repetitions;
* `EncodedRuns.merged_ofEvents`: and so are the encoded ones, once repetitions are left out;
* `EncodedRuns.last_behind_token`: the number that is kept in mind behind a token;
* `EncodedRuns.agrees_iff`: the encoded runs are the runs, encoded, unless a language intervenes.
-/

namespace LineLexer

/-! ### Lists without repetitions -/

section Keys

variable {Item Key : Type} [DecidableEq Key] (key : Item → Key)

/-- What is left of a list without repetitions ends with the key that the list ends with. -/
theorem getLast?_destutter' (first : Item) (items : List Item) :
    (items.destutter' (fun left right => key left ≠ key right) first).getLast?.map key =
      (first :: items).getLast?.map key := by
  induction items generalizing first with
  | nil => rfl
  | cons item items step =>
    rw [List.destutter'_cons, List.getLast?_cons_cons, ← step item]
    split
    · obtain ⟨kept, rest, nonempty⟩ := List.exists_cons_of_ne_nil
        (List.destutter'_ne_nil items (fun left right => key left ≠ key right) (a := item))
      rw [nonempty, List.getLast?_cons_cons]
    · next same =>
      rw [step first, step item]
      cases items with
      | nil => exact congrArg some (not_not.1 same)
      | cons other items => rfl

/-- One item more is kept unless it has the key that the list ends with. -/
theorem destutter'_concat (first item : Item) (items : List Item) :
    (items ++ [item]).destutter' (fun left right => key left ≠ key right) first =
      if (first :: items).getLast?.map key = some (key item) then
        items.destutter' (fun left right => key left ≠ key right) first
      else items.destutter' (fun left right => key left ≠ key right) first ++ [item] := by
  induction items generalizing first with
  | nil =>
    by_cases same : key first = key item <;> simp [same]
  | cons other items step =>
    have last : ∀ replaced : Item, key replaced = key other →
        (replaced :: items).getLast?.map key = (other :: items).getLast?.map key := by
      intro replaced same
      cases items with
      | nil => exact congrArg some same
      | cons next items => rfl
    rw [List.cons_append, List.destutter'_cons, List.destutter'_cons, List.getLast?_cons_cons]
    split
    · rw [step other]
      split <;> rfl
    · next same => rw [step first, last first (not_not.1 same)]

theorem getLast?_destutter (items : List Item) :
    (items.destutter fun left right => key left ≠ key right).getLast?.map key =
      items.getLast?.map key := by
  cases items with
  | nil => rfl
  | cons first items => exact getLast?_destutter' key first items

theorem destutter_concat (items : List Item) (item : Item) :
    (items ++ [item]).destutter (fun left right => key left ≠ key right) =
      if items.getLast?.map key = some (key item) then
        items.destutter fun left right => key left ≠ key right
      else items.destutter (fun left right => key left ≠ key right) ++ [item] := by
  cases items with
  | nil => simp
  | cons first items => exact destutter'_concat key first item items

end Keys

/-! ### The tokens that events tell -/

namespace Event

/-- The language that holds behind events. -/
def languageBehind (language : String) : List Event → String
  | [] => language
  | .language name :: later => languageBehind name later
  | .token _ _ _ :: later => languageBehind language later

/-- All tokens that events tell, each in the language that holds. -/
def told (language : String) : List Event → List Token
  | [] => []
  | .language name :: later => told name later
  | .token offset classification side :: later =>
    { offset, classification, language, side } :: told language later

variable {language : String} {earlier later : List Event}

theorem languageBehind_append :
    languageBehind language (earlier ++ later) =
      languageBehind (languageBehind language earlier) later := by
  induction earlier generalizing language with
  | nil => rfl
  | cons event earlier step => cases event <;> exact step

theorem told_append :
    told language (earlier ++ later) =
      told language earlier ++ told (languageBehind language earlier) later := by
  induction earlier generalizing language with
  | nil => rfl
  | cons event earlier step =>
    cases event with
    | language name => exact step
    | token offset classification side => exact congrArg _ step

/-- Where only languages are told, no token is. -/
theorem told_languages (names : List String) : told language (names.map .language) = [] := by
  induction names generalizing language with
  | nil => rfl
  | cons name names step => exact step

theorem languageBehind_languages (names : List String) :
    languageBehind language (names.map .language) = names.getLast?.getD language := by
  induction names generalizing language with
  | nil => rfl
  | cons name names step =>
    show languageBehind name (names.map .language) = _
    rw [step, List.getLast?_cons, Option.getD_some]

/-- Events tell no token, or there is a last one with only languages behind it. -/
theorem exists_last_token (language : String) (events : List Event) :
    told language events = [] ∨ ∃ (before : List Event) (offset : Nat) (classification : String)
      (side : Option Side) (names : List String),
        events = before ++ .token offset classification side :: names.map .language := by
  induction events using List.reverseRecOn with
  | nil => exact Or.inl rfl
  | append_singleton events event step =>
    cases event with
    | token offset classification side =>
      exact Or.inr ⟨events, offset, classification, side, [], rfl⟩
    | language name =>
      rcases step with silent | ⟨before, offset, classification, side, names, rfl⟩
      · exact Or.inl (by rw [told_append, silent]; rfl)
      · refine Or.inr ⟨before, offset, classification, side, names ++ [name], ?_⟩
        rw [List.append_assoc, List.cons_append, List.map_append]
        rfl

end Event

/-! ### Runs -/

namespace Runs

theorem ofEvents_concat (events : List Event) (event : Event) :
    ofEvents (events ++ [event]) = (ofEvents events).add event := by
  rw [ofEvents_append]
  rfl

theorem language_ofEvents (events : List Event) :
    (ofEvents events).language = Event.languageBehind "" events := by
  induction events using List.reverseRecOn with
  | nil => rfl
  | append_singleton events event step =>
    rw [ofEvents_concat, Event.languageBehind_append]
    cases event with
    | language name => rfl
    | token offset classification side =>
      rw [add]
      split <;> exact step

/-- The runs of events are the tokens that they tell, without repetitions. -/
theorem tokens_ofEvents (events : List Event) :
    (ofEvents events).tokens.toList =
      (Event.told "" events).destutter fun left right => left.label ≠ right.label := by
  induction events using List.reverseRecOn with
  | nil => rfl
  | append_singleton events event step =>
    rw [ofEvents_concat, Event.told_append]
    cases event with
    | language name =>
      show (ofEvents events).tokens.toList = List.destutter _ (_ ++ [])
      rw [step, List.append_nil]
    | token offset classification side =>
      have last : (ofEvents events).tokens.back?.map Token.label =
          (Event.told "" events).getLast?.map Token.label := by
        rw [← Array.getLast?_toList, step, getLast?_destutter]
      rw [Event.told, Event.told, destutter_concat, ← last, ← language_ofEvents, add]
      split
      · exact step
      · rw [Array.toList_push, step]

end Runs

/-! ### Encoded runs -/

namespace Encoder

/-- The number of a token. -/
def number (encoder : Encoder) (token : Token) : UInt32 :=
  encoder token.language token.classification token.side

/-- A token with its number in place of its label. -/
def encode (encoder : Encoder) (token : Token) : EncodedToken where
  offset := token.offset
  metadata := encoder.number token

/-- Whether the tokens that events tell have the same label wherever they have the same number. -/
def SeparatesLabels (encoder : Encoder) (events : List Event) : Prop :=
  ∀ token ∈ Event.told "" events, ∀ other ∈ Event.told "" events,
    encoder.number token = encoder.number other → token.label = other.label

theorem number_eq_of_label (encoder : Encoder) {token other : Token}
    (same : token.label = other.label) : encoder.number token = encoder.number other := by
  simp only [Token.label, Prod.mk.injEq] at same
  obtain ⟨classification, language, side⟩ := same
  unfold number
  rw [classification, language, side]

/-- Labels that are told later are told. -/
theorem SeparatesLabels.of_append {encoder : Encoder} {earlier later : List Event}
    (separates : encoder.SeparatesLabels (earlier ++ later)) :
    encoder.SeparatesLabels earlier := by
  intro token inside other insideOther
  rw [SeparatesLabels, Event.told_append] at separates
  exact separates token (List.mem_append_left _ inside) other (List.mem_append_left _ insideOther)

end Encoder

namespace EncodedRuns

variable {encoder : Encoder} {events : List Event}

theorem ofEvents_concat (events : List Event) (event : Event) :
    ofEvents encoder (events ++ [event]) = (ofEvents encoder events).add encoder event := by
  rw [ofEvents_append]
  rfl

variable (encoder) in
theorem language_ofEvents (events : List Event) :
    (ofEvents encoder events).language = Event.languageBehind "" events := by
  induction events using List.reverseRecOn with
  | nil => rfl
  | append_singleton events event step =>
    rw [ofEvents_concat, Event.languageBehind_append]
    cases event with
    | language name =>
      rw [add]
      split
      · next same => exact same
      · rfl
    | token offset classification side =>
      rw [add]
      split <;> exact step

/-- The number kept in mind, if there is one, is that of the token kept last. -/
theorem last_ofEvents {metadata : UInt32} (kept : (ofEvents encoder events).last = some metadata) :
    (ofEvents encoder events).tokens.toList.getLast?.map EncodedToken.metadata = some metadata := by
  induction events using List.reverseRecOn with
  | nil => cases kept
  | append_singleton events event step =>
    rw [ofEvents_concat] at kept ⊢
    cases event with
    | language name =>
      rw [add] at kept ⊢
      split at kept
      · next same => rw [if_pos same]; exact step kept
      · cases kept
    | token offset classification side =>
      rw [add] at kept ⊢
      split at kept
      · next same => rw [if_pos same]; exact step kept
      · next other =>
        rw [if_neg other, Array.toList_push, List.getLast?_concat]
        exact kept

variable (encoder) in
/-- The encoded runs of events, without repetitions, are the numbers of the tokens that they tell,
without repetitions. -/
theorem merged_ofEvents (events : List Event) :
    (ofEvents encoder events).tokens.toList.destutter
        (fun left right => left.metadata ≠ right.metadata) =
      ((Event.told "" events).map encoder.encode).destutter
        fun left right => left.metadata ≠ right.metadata := by
  induction events using List.reverseRecOn with
  | nil => rfl
  | append_singleton events event step =>
    rw [ofEvents_concat, Event.told_append, List.map_append]
    cases event with
    | language name =>
      show (add encoder (ofEvents encoder events) (.language name)).tokens.toList.destutter _ =
        (_ ++ []).destutter _
      rw [List.append_nil, ← step, add]
      split <;> rfl
    | token offset classification side =>
      have last := getLast?_destutter EncodedToken.metadata (ofEvents encoder events).tokens.toList
      rw [step, getLast?_destutter] at last
      rw [Event.told, Event.told, List.map_singleton, destutter_concat, last,
        ← language_ofEvents encoder, add]
      split
      · next kept =>
        rw [step]
        exact (if_pos (last_ofEvents kept)).symm
      · rw [Array.toList_push, destutter_concat, step]
        rfl

/-- Where languages follow a token, its number is kept in mind as long as they are all its own. -/
theorem last_behind_token (before : List Event) (offset : Nat) (classification : String)
    (side : Option Side) (names : List String) :
    (ofEvents encoder
        (before ++ .token offset classification side :: names.map .language)).last =
      if ∀ name ∈ names, name = Event.languageBehind "" before then
        some (encoder (Event.languageBehind "" before) classification side)
      else none := by
  induction names using List.reverseRecOn with
  | nil =>
    show (ofEvents encoder (before ++ [.token offset classification side])).last = _
    rw [ofEvents_concat, add, language_ofEvents]
    split
    · next kept => simpa using kept
    · simp
  | append_singleton names name step =>
    have behind : (ofEvents encoder
        (before ++ .token offset classification side :: names.map .language)).language =
          names.getLast?.getD (Event.languageBehind "" before) := by
      rw [language_ofEvents, Event.languageBehind_append]
      exact Event.languageBehind_languages names
    rw [List.map_append, ← List.cons_append, ← List.append_assoc]
    show (ofEvents encoder (_ ++ [.language name])).last = _
    rw [ofEvents_concat, add, behind]
    by_cases stayed : ∀ name ∈ names, name = Event.languageBehind "" before
    · have held : names.getLast?.getD (Event.languageBehind "" before) =
          Event.languageBehind "" before := by
        cases last : names.getLast? with
        | none => rfl
        | some held => exact stayed held (List.mem_of_getLast? last)
      rw [held]
      by_cases same : name = Event.languageBehind "" before
      · rw [if_pos same.symm, step, if_pos stayed, if_pos]
        intro other inside
        rcases List.mem_append.1 inside with earlier | latest
        · exact stayed other earlier
        · rw [List.mem_singleton.1 latest, same]
      · rw [if_neg fun held => same held.symm, if_neg]
        intro all
        exact same (all name (by simp))
    · have left : ¬ ∀ other ∈ names ++ [name], other = Event.languageBehind "" before :=
        fun all => stayed fun other inside => all other (List.mem_append_left _ inside)
      rw [if_neg left]
      split
      · rw [step, if_neg stayed]
      · rfl

/-! ### Languages that intervene -/

/-- A language comes between two tokens with the same label: behind the first one only languages are
told, one of which is not that of the tokens, while the last one is. -/
structure Intervenes (before : List Event) (names : List String) : Prop where
  leaves : ∃ name ∈ names, name ≠ Event.languageBehind "" before
  returns : names.getLast? = some (Event.languageBehind "" before)

/-- Somewhere among events a language comes between two tokens with the same label. -/
def Interrupted (events : List Event) : Prop :=
  ∃ before names after offset later classification side, Intervenes before names ∧
    events = before ++ .token offset classification side :: (names.map .language ++
      .token later classification side :: after)

/-- One more token comes behind a language that intervenes. -/
def Resumed (events : List Event) (classification : String) (side : Option Side) : Prop :=
  ∃ before names offset, Intervenes before names ∧
    events = before ++ .token offset classification side :: names.map .language

/-- A language intervenes among more events if it does so before or with the last one. -/
theorem interrupted_concat {event : Event} :
    Interrupted (events ++ [event]) ↔ Interrupted events ∨
      ∃ offset classification side, event = .token offset classification side ∧
        Resumed events classification side := by
  constructor
  · rintro ⟨before, names, after, offset, later, classification, side, intervenes, same⟩
    cases after using List.reverseRecOn with
    | nil =>
      have parts : events ++ [event] = (before ++ .token offset classification side ::
          names.map .language) ++ [.token later classification side] := by
        rw [same, List.append_assoc, List.cons_append]
      obtain ⟨rfl, last⟩ := List.append_inj' parts rfl
      exact Or.inr ⟨later, classification, side, List.singleton_inj.1 last, before, names, offset,
        intervenes, rfl⟩
    | append_singleton after last =>
      have parts : events ++ [event] = (before ++ .token offset classification side ::
          (names.map .language ++ .token later classification side :: after)) ++ [last] := by
        rw [same, List.append_assoc, List.cons_append, List.append_assoc, List.cons_append]
      obtain ⟨rfl, -⟩ := List.append_inj' parts rfl
      exact Or.inl ⟨before, names, after, offset, later, classification, side, intervenes, rfl⟩
  · rintro (⟨before, names, after, offset, later, classification, side, intervenes, rfl⟩ |
      ⟨later, classification, side, rfl, before, names, offset, intervenes, rfl⟩)
    · refine ⟨before, names, after ++ [event], offset, later, classification, side, intervenes, ?_⟩
      rw [List.append_assoc, List.cons_append, List.append_assoc, List.cons_append]
    · refine ⟨before, names, [], offset, later, classification, side, intervenes, ?_⟩
      rw [List.append_assoc, List.cons_append]

/-- A token repeats the number of the token kept last exactly behind a language that intervenes. -/
theorem repeats_iff_resumed {offset : Nat} {classification : String} {side : Option Side}
    (separates : encoder.SeparatesLabels (events ++ [.token offset classification side])) :
    ((ofEvents encoder events).last ≠
          some (encoder (Event.languageBehind "" events) classification side) ∧
        (ofEvents encoder events).tokens.toList.getLast?.map EncodedToken.metadata =
          some (encoder (Event.languageBehind "" events) classification side)) ↔
      Resumed events classification side := by
  have kept : (ofEvents encoder events).tokens.toList.getLast?.map EncodedToken.metadata =
      (Event.told "" events).getLast?.map encoder.number := by
    have merged := congrArg (fun items => items.getLast?.map EncodedToken.metadata)
      (merged_ofEvents encoder events)
    simp only [getLast?_destutter] at merged
    rw [merged, List.getLast?_map, Option.map_map]
    rfl
  have last : ∀ {before : List Event} {offset : Nat} {classification : String} {side : Option Side}
      {names : List String},
      Event.told "" (before ++ .token offset classification side :: names.map .language) =
        Event.told "" before ++
          [⟨offset, classification, Event.languageBehind "" before, side⟩] := by
    intro before offset classification side names
    rw [Event.told_append, Event.told, Event.told_languages]
  have behind : ∀ {before : List Event} {offset : Nat} {classification : String}
      {side : Option Side} {names : List String},
      Event.languageBehind ""
          (before ++ .token offset classification side :: names.map .language) =
        names.getLast?.getD (Event.languageBehind "" before) := by
    intro before offset classification side names
    rw [Event.languageBehind_append]
    exact Event.languageBehind_languages names
  rw [kept]
  constructor
  · rintro ⟨forgotten, repeats⟩
    rcases Event.exists_last_token "" events with
      silent | ⟨before, earlier, kind, bracket, names, rfl⟩
    · rw [silent] at repeats
      cases repeats
    · rw [last, List.getLast?_concat, Option.map_some, Option.some.injEq] at repeats
      have labels : (kind, Event.languageBehind "" before, bracket) = (classification,
          Event.languageBehind "" (before ++ .token earlier kind bracket :: names.map .language),
          side) := by
        refine separates ⟨earlier, kind, Event.languageBehind "" before, bracket⟩ ?_
          ⟨offset, classification, _, side⟩ ?_ repeats
        · rw [Event.told_append, last]
          simp
        · rw [Event.told_append]
          simp [Event.told]
      simp only [Prod.mk.injEq] at labels
      obtain ⟨rfl, language, rfl⟩ := labels
      refine ⟨before, names, earlier, ⟨?_, ?_⟩, rfl⟩
      · by_contra stayed
        push Not at stayed
        rw [last_behind_token, if_pos stayed, ← language] at forgotten
        exact forgotten rfl
      · rw [behind] at language
        cases held : names.getLast? with
        | some name =>
          rw [held, Option.getD_some] at language
          rw [language]
        | none =>
          -- Without a language behind it the number of the token would still be kept in mind.
          rw [List.getLast?_eq_none_iff] at held
          subst held
          rw [last_behind_token, if_pos (List.forall_mem_nil _)] at forgotten
          rw [behind] at forgotten
          exact absurd rfl forgotten
  · rintro ⟨before, names, earlier, ⟨⟨name, inside, other⟩, returns⟩, rfl⟩
    have left : ¬ ∀ name ∈ names, name = Event.languageBehind "" before :=
      fun all => other (all name inside)
    rw [last_behind_token, if_neg left, behind, returns, Option.getD_some, last,
      List.getLast?_concat]
    exact ⟨Option.some_ne_none _ ∘ Eq.symm, rfl⟩

/-- No two neighbours among the encoded runs have one number exactly if no language intervenes. -/
theorem isChain_iff (separates : encoder.SeparatesLabels events) :
    (ofEvents encoder events).tokens.toList.IsChain
        (fun left right => left.metadata ≠ right.metadata) ↔ ¬ Interrupted events := by
  induction events using List.reverseRecOn with
  | nil =>
    refine iff_of_true List.isChain_nil ?_
    rintro ⟨before, names, after, offset, later, classification, side, -, same⟩
    simp at same
  | append_singleton events event step =>
    rw [interrupted_concat, not_or, ← step separates.of_append, ofEvents_concat]
    cases event with
    | language name =>
      have unchanged : (add encoder (ofEvents encoder events) (.language name)).tokens =
          (ofEvents encoder events).tokens := by
        rw [add]
        split <;> rfl
      rw [unchanged]
      simp
    | token offset classification side =>
      have resumed : (∃ later kind bracket, Event.token offset classification side =
          .token later kind bracket ∧ Resumed events kind bracket) ↔
            Resumed events classification side := by
        constructor
        · rintro ⟨later, kind, bracket, same, resumed⟩
          cases same
          exact resumed
        · exact fun resumed => ⟨offset, classification, side, rfl, resumed⟩
      rw [resumed, ← repeats_iff_resumed separates, add, language_ofEvents]
      split
      · next kept => simp [kept]
      · next forgotten =>
        rw [Array.toList_push, List.isChain_append]
        simp [forgotten]

/-- The two ways to collect tokens. With an encoder that gives different numbers to the labels that
events tell, the encoded runs without repetitions are the runs, encoded. They are the runs exactly
where no language comes between two tokens with the same label. -/
theorem agrees_iff (separates : encoder.SeparatesLabels events) :
    (ofEvents encoder events).tokens.toList.destutter
        (fun left right => left.metadata ≠ right.metadata) =
          (Runs.ofEvents events).tokens.toList.map encoder.encode ∧
      ((ofEvents encoder events).tokens = (Runs.ofEvents events).tokens.map encoder.encode ↔
        ¬ Interrupted events) := by
  have merged : (ofEvents encoder events).tokens.toList.destutter
      (fun left right => left.metadata ≠ right.metadata) =
        (Runs.ofEvents events).tokens.toList.map encoder.encode := by
    rw [merged_ofEvents, Runs.tokens_ofEvents]
    refine (List.map_destutter fun token inside other insideOther => not_congr ?_).symm
    exact ⟨encoder.number_eq_of_label, separates token inside other insideOther⟩
  refine ⟨merged, ?_⟩
  rw [← isChain_iff separates, ← List.destutter_eq_self_iff, merged, ← Array.toList_inj,
    Array.toList_map]
  exact eq_comm

/-- Three runs in two languages, the first of two tokens and the last with the classification and
the side of the run before it. -/
theorem agrees_two_languages :
    ∃ events : List Event, Encoder.fingerprint.SeparatesLabels events ∧ ¬ Interrupted events ∧
      (Runs.ofEvents events).tokens.map (·.offset) = #[0, 2, 3] ∧
      (ofEvents .fingerprint events).tokens =
        (Runs.ofEvents events).tokens.map Encoder.fingerprint.encode := by
  refine ⟨[.language "toy", .token 0 "text" none, .token 1 "text" none,
    .token 2 "delimiter" (some .closing), .language "js", .token 3 "delimiter" (some .closing)], ?_⟩
  have separates : Encoder.fingerprint.SeparatesLabels [.language "toy", .token 0 "text" none,
      .token 1 "text" none, .token 2 "delimiter" (some .closing), .language "js",
      .token 3 "delimiter" (some .closing)] := by
    unfold Encoder.SeparatesLabels
    decide +kernel
  have agrees := agrees_iff separates
  exact ⟨separates, agrees.2.1 (by decide +kernel), by decide +kernel,
    agrees.2.2 (agrees.2.1 (by decide +kernel))⟩

/-- A language that starts and ends between two tokens with one label, without a token of its own,
splits the encoded run, but not the run. -/
theorem not_forall_agrees :
    ¬ ∀ (encoder : Encoder) (events : List Event), encoder.SeparatesLabels events →
      (ofEvents encoder events).tokens = (Runs.ofEvents events).tokens.map encoder.encode := by
  intro agrees
  have separates : Encoder.fingerprint.SeparatesLabels [.language "toy", .token 0 "a" none,
      .language "js", .language "toy", .token 1 "a" none] := by
    unfold Encoder.SeparatesLabels
    decide +kernel
  exact absurd (agrees .fingerprint _ separates) (by decide +kernel)

end EncodedRuns

end LineLexer
