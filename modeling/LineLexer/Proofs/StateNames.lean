import LineLexer.Proofs.Templates
import LineLexer.Proofs.Wrapping

/-!
**Patterns that refer to state names.**

A pattern may refer to the parts of the name of the state it is tried in. One scanner decides
whether it does, and another one puts the parts in. Both see the same references, so what is
compiled once would be compiled to the same in every state; and what is kept of the other patterns
is looked at for the state that it was kept for only.

* `Pattern.StatePiece`, `Pattern.ReadsState`: the references of a pattern, and that there is one way
  to read them;
* `Pattern.refersToState_iff`, `Pattern.substituteState_eq`: what the two scanners come to;
* `Pattern.Call`, `Pattern.answers`: a sequence of calls, and what is kept between them;
* `Pattern.answers_eq_built`: each call is answered by what its own state gives.
-/

namespace LineLexer.Pattern

open Scanning Template

/-! ### References to state names -/

/-- A piece of a pattern, as far as state names go. -/
inductive StatePiece where
  /-- A character that stands for itself. -/
  | letter (letter : Char)
  /-- A reference to a part of the state name. -/
  | component (index : Nat)
  deriving DecidableEq, Repr

/-- The pieces of a text, from the left. A dollar sign that starts no reference to a part of a state
name stands for itself. -/
inductive ReadsState : Text → List StatePiece → Prop where
  | nil : ReadsState [] []
  | reference {text rest : Text} {index : Nat} {pieces : List StatePiece}
      (refers : Refers text (.component index) rest) (later : ReadsState rest pieces) :
      ReadsState ('$' :: text) (.component index :: pieces)
  | letter {letter : Char} {rest : Text} {pieces : List StatePiece}
      (nothing : letter = '$' → ∀ index behind, ¬ Refers rest (.component index) behind)
      (later : ReadsState rest pieces) : ReadsState (letter :: rest) (.letter letter :: pieces)

/-- What a piece becomes in a state: a reference becomes the text that matches the part of the state
name literally, in lowercase where case is ignored. What is missing becomes nothing. -/
def StatePiece.become (settings : Settings) (state : String) : StatePiece → Text
  | .letter character => [character]
  | .component index =>
    Regex.escape (settings.foldText ((stateComponents state)[index]?.getD "").toList)

/-- What pieces become in a state. -/
def inState (settings : Settings) (pieces : List StatePiece) (state : String) : String :=
  String.ofList (pieces.flatMap (StatePiece.become settings state))

variable {settings : Settings} {text rest behind other : Text} {pieces others : List StatePiece}
  {index place steps : Nat} {state : String}

/-- The references are those that are looked for. -/
theorem stateReference?_eq_some_iff :
    stateReference? text = some (index, rest) ↔ Refers text (.component index) rest := by
  constructor
  · intro found
    unfold stateReference? at found
    split at found
    · split at found
      · next either =>
        obtain ⟨digits, number, rfl, rfl⟩ := index?_eq_some_iff.1 found
        exact .component either number
      · cases found
    · cases found
  · intro refers
    cases refers with
    | @component letter digits rest either number =>
      rw [stateReference?, if_pos either]
      exact index?_eq_some_iff.2 ⟨digits, number, rfl, rfl⟩

/-- A text starts one reference at most. -/
theorem refers_unique (refers : Refers text (.component index) behind)
    (refersToo : Refers text (.component place) other) : index = place ∧ behind = other := by
  have found := stateReference?_eq_some_iff.2 refers
  rw [stateReference?_eq_some_iff.2 refersToo] at found
  cases found
  exact ⟨rfl, rfl⟩

/-- A text is read in one way. -/
theorem ReadsState.unique (reads : ReadsState text pieces) (readsToo : ReadsState text others) :
    pieces = others := by
  induction reads generalizing others with
  | nil =>
    cases readsToo
    rfl
  | reference refers later step =>
    cases readsToo with
    | reference refersToo laterToo =>
      obtain ⟨rfl, rfl⟩ := refers_unique refers refersToo
      rw [step laterToo]
    | letter nothing => exact absurd refers (nothing rfl _ _)
  | letter nothing later step =>
    cases readsToo with
    | reference refers => exact absurd refers (nothing rfl _ _)
    | letter _ laterToo => rw [step laterToo]

theorem exists_readsState (text : Text) : ∃ pieces, ReadsState text pieces := by
  -- what follows a piece is shorter
  induction short : text.length using Nat.strong_induction_on generalizing text with
  | _ length step =>
    subst short
    cases text with
    | nil => exact ⟨[], .nil⟩
    | cons letter rest =>
      obtain ⟨pieces, later⟩ := step rest.length (Nat.lt_succ_self _) rest rfl
      by_cases starts : letter = '$' ∧ ∃ index behind, Refers rest (.component index) behind
      · obtain ⟨rfl, index, behind, refers⟩ := starts
        have less : behind.length < ('$' :: rest).length :=
          Nat.lt_succ_of_le refers.suffix.length_le
        obtain ⟨pieces, later⟩ := step behind.length less behind rfl
        exact ⟨_, .reference refers later⟩
      · exact ⟨_, .letter (fun dollar index behind refers =>
          starts ⟨dollar, index, behind, refers⟩) later⟩

/-! ### The two scanners -/

/-- A reference starts with a letter and a digit. -/
theorem exists_refers_iff :
    (∃ index behind, Refers text (.component index) behind) ↔
      ∃ letter digit rest, text = letter :: digit :: rest ∧ (letter = 's' ∨ letter = 'S') ∧
        Digit.isDecimal digit = true := by
  constructor
  · rintro ⟨index, behind, refers⟩
    have found := stateReference?_eq_some_iff.2 refers
    unfold stateReference? at found
    split at found
    · next letter later =>
      split at found
      · next either =>
        have some := isSome_index? later
        rw [found] at some
        cases later with
        | nil => cases some
        | cons digit rest => exact ⟨letter, digit, rest, rfl, either, by simpa using some.symm⟩
      · cases found
    · cases found
  · rintro ⟨letter, digit, rest, rfl, either, decimal⟩
    have some := isSome_index? (digit :: rest)
    rw [List.head?_cons, Option.any_some, decimal] at some
    obtain ⟨⟨index, behind⟩, found⟩ := Option.isSome_iff_exists.1 some
    refine ⟨index, behind, stateReference?_eq_some_iff.1 ?_⟩
    rw [stateReference?, if_pos either, found]

/-- A dollar sign is looked at for a reference, and any other character is passed over. -/
theorem refersToState_cons (letter : Char) (rest : Text) :
    refersToState (letter :: rest) = true ↔
      (letter = '$' ∧ ∃ index behind, Refers rest (.component index) behind) ∨
        refersToState rest = true := by
  rw [exists_refers_iff, refersToState.eq_def]
  split
  · next mark digit later same =>
    cases same
    simp
  · next first later other same =>
    cases same
    refine (or_iff_right ?_).symm
    rintro ⟨rfl, mark, digit, rest, rfl, -, -⟩
    exact other mark digit rest rfl rfl
  · next same => cases same

/-- A reference is found where one is read. -/
theorem refersToState_iff (reads : ReadsState text pieces) :
    refersToState text = true ↔ ∃ index, .component index ∈ pieces := by
  induction reads with
  | nil => simp [refersToState]
  | reference refers later step =>
    rw [refersToState_cons]
    exact iff_of_true (.inl ⟨rfl, _, _, refers⟩) ⟨_, List.mem_cons_self⟩
  | letter nothing later step =>
    rw [refersToState_cons, step]
    simp only [List.mem_cons, reduceCtorEq, false_or, or_iff_right_iff_imp]
    rintro ⟨dollar, index, behind, refers⟩
    exact absurd refers (nothing dollar _ _)

/-- The parts of a state name are put in where a reference is read. -/
theorem substituteWithin_eq (reads : ReadsState text pieces) (room : text.length ≤ steps) :
    substituteWithin settings (stateComponents state) steps text =
      pieces.flatMap (StatePiece.become settings state) := by
  induction reads generalizing steps with
  | nil => cases steps <;> rfl
  | @reference text rest index pieces refers later step =>
    cases steps with
    | zero => cases room
    | succ steps =>
      have less := refers.suffix.length_le
      rw [List.length_cons] at room
      rw [substituteWithin, if_pos rfl, stateReference?_eq_some_iff.2 refers]
      dsimp only
      rw [step (by omega)]
      rfl
  | @letter letter rest pieces nothing later step =>
    cases steps with
    | zero => cases room
    | succ steps =>
      have shorter := step (Nat.le_of_succ_le_succ room)
      rw [substituteWithin]
      by_cases dollar : letter = '$'
      · have none : stateReference? rest = none := by
          refine Option.eq_none_iff_forall_not_mem.2 fun found inside => ?_
          exact nothing dollar _ _ (stateReference?_eq_some_iff.1 inside)
        rw [if_pos dollar, none, shorter, dollar]
        rfl
      · rw [if_neg dollar, shorter]
        rfl

theorem substituteState_eq {source : String} (reads : ReadsState source.toList pieces)
    (state : String) : substituteState settings source state = inState settings pieces state := by
  rw [substituteState, substituteWithin_eq reads (Nat.le_refl _), inState]

/-- A part that is missing, or empty, becomes nothing. -/
theorem become_of_nameless (index : Nat) :
    StatePiece.become settings "" (.component index) = [] := by
  have nameless : (stateComponents "")[index]?.getD "" = "" := by
    match index with
    | 0 => rfl
    | 1 => rfl
    | _ + 2 => rfl
  rw [StatePiece.become, nameless, Settings.foldText]
  split <;> rfl

/-- Without references a text stays as it is, whatever the state. -/
theorem flatMap_of_letters (reads : ReadsState text pieces) (state : String)
    (letters : ∀ index, .component index ∉ pieces) :
    pieces.flatMap (StatePiece.become settings state) = text := by
  induction reads with
  | nil => rfl
  | reference => exact absurd List.mem_cons_self (letters _)
  | letter nothing later step =>
    rw [List.flatMap_cons, step fun index inside => letters index (List.mem_cons_of_mem _ inside)]
    rfl

/-- A text with a reference gets shorter in a state without a name. -/
theorem length_flatMap_nameless (settings : Settings) (reads : ReadsState text pieces) :
    (pieces.flatMap (StatePiece.become settings "")).length ≤ text.length ∧
      ∀ index, .component index ∈ pieces →
        (pieces.flatMap (StatePiece.become settings "")).length < text.length := by
  induction reads with
  | nil => exact ⟨Nat.le_refl _, fun index inside => absurd inside List.not_mem_nil⟩
  | reference refers later step =>
    have less := refers.suffix.length_le
    rw [List.flatMap_cons, become_of_nameless, List.nil_append, List.length_cons]
    exact ⟨by omega, fun _ _ => by omega⟩
  | letter nothing later step =>
    rw [List.flatMap_cons, StatePiece.become, List.singleton_append, List.length_cons,
      List.length_cons]
    refine ⟨Nat.succ_le_succ step.1, fun index inside => Nat.succ_lt_succ (step.2 index ?_)⟩
    exact List.mem_of_ne_of_mem (by simp) inside

/-- A text is the same in all states exactly if it has no reference. -/
theorem inState_eq_iff (settings : Settings) {source : String}
    (reads : ReadsState source.toList pieces) :
    (∀ state, inState settings pieces state = source) ↔ ∀ index, .component index ∉ pieces := by
  constructor
  · intro same index inside
    have less := (length_flatMap_nameless settings reads).2 index inside
    have whole := congrArg String.toList (same "")
    rw [inState, String.toList_ofList] at whole
    rw [whole] at less
    exact Nat.lt_irrefl _ less
  · intro letters state
    rw [inState, flatMap_of_letters reads state letters, String.ofList_toList]

/-! ### Sequences of calls -/

/-- What a pattern is asked for. -/
inductive Call where
  /-- The regular expression for the scan position, as seen from a state. -/
  | anchored (state : String)
  /-- The regular expression for a whole line, as seen from a state. -/
  | search (state : String)
  deriving DecidableEq, Repr

/-- What a call is answered, and what is kept then. -/
def Call.answer (pattern : Pattern) (settings : Settings) (memo : Memo) :
    Call → Except Regex.Rejection Regex × Memo
  | .anchored state => pattern.anchored settings state memo
  | .search state => (pattern.search settings state, memo)

/-- What calls are answered, one after the other, and what is kept in the end. -/
def answers (pattern : Pattern) (settings : Settings) :
    Memo → List Call → List (Except Regex.Rejection Regex) × Memo
  | memo, [] => ([], memo)
  | memo, call :: calls =>
    let (answer, memo) := call.answer pattern settings memo
    let (others, memo) := answers pattern settings memo calls
    (answer :: others, memo)

/-- What the pieces of a pattern are compiled to for a call, in the state of the call. -/
def Call.built (settings : Settings) (pieces : List StatePiece) :
    Call → Except Regex.Rejection Regex
  | .anchored state => Regex.compile settings.ignoreCase (anchor (inState settings pieces state))
  | .search state => Regex.compile settings.ignoreCase (inState settings pieces state)

variable {pattern : Pattern} {written : String} {searched : Bool} {memo : Memo}

/-- One call is answered by what its state gives, from a sound memo, which stays sound. -/
theorem Call.answer_eq_built (compiled : compile settings written searched = .ok pattern)
    (reads : ReadsState pattern.source.toList pieces)
    (sound : MemoSound settings pattern.source memo) (call : Call) :
    (call.answer pattern settings memo).1 = call.built settings pieces ∧
      MemoSound settings pattern.source (call.answer pattern settings memo).2 := by
  obtain ⟨-, ⟨form, -⟩ | ⟨regex, search, form, plain, anchored, searches⟩⟩ :=
    form_of_compile compiled
  · cases call with
    | anchored state =>
      obtain ⟨same, kept⟩ := @anchored_of_memoSound pattern settings state memo sound
      refine ⟨?_, kept⟩
      rw [built, ← substituteState_eq reads]
      refine same.trans ((fresh_of_compile compiled state).2.trans ?_)
      rw [bodyIn, form]
    | search state =>
      refine ⟨?_, sound⟩
      rw [built, ← substituteState_eq reads]
      show pattern.search settings state = _
      unfold Pattern.search
      rw [form]
  · have letters : ∀ index, .component index ∉ pieces := by
      rw [← not_exists, ← refersToState_iff reads, plain]
      exact Bool.false_ne_true
    have same := (inState_eq_iff settings reads).2 letters
    cases call with
    | anchored state =>
      rw [built, same, anchored]
      show (pattern.anchored settings state memo).1 = _ ∧
        MemoSound settings pattern.source (pattern.anchored settings state memo).2
      unfold Pattern.anchored
      rw [form]
      exact ⟨rfl, sound⟩
    | search state =>
      refine ⟨?_, sound⟩
      rw [built, same]
      show pattern.search settings state = _
      unfold Pattern.search
      rw [form]
      cases search with
      | none => rfl
      | some other => exact (searches other rfl).symm

/-- All calls are. -/
theorem answers_eq (compiled : compile settings written searched = .ok pattern)
    (reads : ReadsState pattern.source.toList pieces)
    (sound : MemoSound settings pattern.source memo) (calls : List Call) :
    (answers pattern settings memo calls).1 = calls.map (Call.built settings pieces) ∧
      MemoSound settings pattern.source (answers pattern settings memo calls).2 := by
  induction calls generalizing memo with
  | nil => exact ⟨rfl, sound⟩
  | cons call calls step =>
    obtain ⟨same, kept⟩ := call.answer_eq_built compiled reads sound
    obtain ⟨others, left⟩ := step kept
    refine ⟨?_, left⟩
    rw [List.map_cons, ← same, ← others]
    rfl

/-- **A pattern is answered for the state that it is asked for.** Let a pattern be compiled, and let
its source be the text with attributes spliced in. The source is read in one way as letters and
references to parts of a state name. Then

* every call in any sequence of calls, for the scan position or for a whole line, is answered by the
  regular expression, or the rejection, of the source in which each reference is replaced by what
  matches that part of the call's own state literally, in lowercase where case is ignored;
* a pattern that is compiled once is one that is the same in all states, and the other way round;
* what is kept after any calls is what the pattern is compiled to for the state it is kept for. -/
theorem answers_eq_built (settings : Settings) (written : String) (searched : Bool)
    (pattern : Pattern) (compiled : compile settings written searched = .ok pattern) :
    expand settings written = .ok pattern.source ∧
    ∃ pieces, (∀ others, ReadsState pattern.source.toList others ↔ others = pieces) ∧
      (∀ calls, (answers pattern settings none calls).1 =
        calls.map (Call.built settings pieces)) ∧
      ((∃ regex search, pattern.form = .fixed regex search) ↔
        ∀ state, substituteState settings pattern.source state = pattern.source) ∧
      ∀ calls state regex, (answers pattern settings none calls).2 = some (state, regex) →
        Call.built settings pieces (.anchored state) = .ok regex := by
  obtain ⟨expanded, forms⟩ := form_of_compile compiled
  obtain ⟨pieces, reads⟩ := exists_readsState pattern.source.toList
  have sound : MemoSound settings pattern.source none := nofun
  refine ⟨expanded, pieces, fun others => ⟨fun readsToo => readsToo.unique reads, ?_⟩,
    fun calls => (answers_eq compiled reads sound calls).1, ?_, fun calls state regex kept => ?_⟩
  · rintro rfl
    exact reads
  · simp only [substituteState_eq reads]
    rw [inState_eq_iff settings reads, ← not_exists, ← refersToState_iff reads]
    rcases forms with ⟨form, refers⟩ | ⟨regex, search, form, plain, -⟩
    · rw [form, refers]
      exact iff_of_false (by rintro ⟨_, _, other⟩; cases other) (not_not.2 rfl)
    · rw [plain]
      exact iff_of_true ⟨regex, search, form⟩ Bool.false_ne_true
  · rw [Call.built, ← substituteState_eq reads]
    exact (answers_eq compiled reads sound calls).2 state regex kept

/-- A class of one part of the state name, which is a class only where the part is not empty. -/
def bracketed : Pattern where
  source := "[$S2]"
  form := .perState

/-- Calls in states that take turns, one of which has no such part. -/
def turns : List Call :=
  [.anchored "list.a", .anchored "list", .search "list.b", .anchored "list.a"]

theorem answers_eq_built_turns :
    compile plainSettings "[$S2]" false = .ok bracketed ∧
      (answers bracketed plainSettings none turns).1 =
        turns.map (Call.built plainSettings [.letter '[', .component 2, .letter ']']) ∧
      Call.built plainSettings [.letter '[', .component 2, .letter ']'] (.anchored "list") =
        .error .malformed := by
  have compiled : compile plainSettings "[$S2]" false = .ok bracketed := by decide +kernel
  have shown : bracketed.source.toList = ['[', '$', 'S', '2', ']'] := by decide +kernel
  have refers : Refers ['S', '2', ']'] (.component 2) [']'] :=
    .component (.inr rfl)
      (show OneOrTwo ['2'] _ from ⟨List.forall_mem_singleton.2 rfl, .inr ⟨rfl, rfl⟩⟩)
  have reads : ReadsState bracketed.source.toList [.letter '[', .component 2, .letter ']'] := by
    rw [shown]
    exact .letter (by simp) (.reference refers (.letter (by simp) .nil))
  obtain ⟨-, pieces, unique, answered, -⟩ :=
    answers_eq_built plainSettings "[$S2]" false bracketed compiled
  cases (unique _).1 reads
  exact ⟨compiled, answered turns, by decide +kernel⟩

/-- Settings of a grammar that ignores case. -/
def caseless : Settings where
  language := "toy"
  ignoreCase := true
  unicode := false
  attributes := []

/-- A part of a state name, and nothing else. -/
def partAlone : Pattern where
  source := "$S2"
  form := .perState

/-- Whether what is answered and what the part of the state name gives as it is written tell a text
apart. -/
def tellsApart (settings : Settings) (pattern : Pattern) (pieces : List StatePiece)
    (state : String) (text : Text) : Bool :=
  match (pattern.anchored settings state none).1, Regex.compile settings.ignoreCase
    (anchor (inState { settings with ignoreCase := false } pieces state)) with
  | .ok regex, .ok other => regex.isMatch text != other.isMatch text
  | _, _ => false

/-- Where case is ignored, the part of a state name is not put in as it is written, and then what is
answered may not match the part itself. -/
theorem not_forall_as_written :
    ¬ ∀ settings written searched pattern pieces,
      compile settings written searched = .ok pattern → ReadsState pattern.source.toList pieces →
      ∀ state regex other, (pattern.anchored settings state none).1 = .ok regex →
        Regex.compile settings.ignoreCase
          (anchor (inState { settings with ignoreCase := false } pieces state)) = .ok other →
        ∀ text, regex.isMatch text = other.isMatch text := by
  intro same
  have compiled : compile caseless "$S2" false = .ok partAlone := by decide +kernel
  have shown : partAlone.source.toList = ['$', 'S', '2'] := by decide +kernel
  have refers : Refers ['S', '2'] (.component 2) [] :=
    .component (.inr rfl)
      (show OneOrTwo ['2'] _ from ⟨List.forall_mem_singleton.2 rfl, .inr ⟨rfl, rfl⟩⟩)
  have reads : ReadsState partAlone.source.toList [.component 2] := by
    rw [shown]
    exact .reference refers .nil
  have apart : tellsApart caseless partAlone [.component 2] "sub.İ" ['İ'] = true := by
    decide +kernel
  unfold tellsApart at apart
  split at apart
  · next regex other answered written =>
    have agrees := same _ _ _ _ _ compiled reads _ _ _ answered written ['İ']
    rw [agrees, bne_self_eq_false] at apart
    cases apart
  · cases apart

end LineLexer.Pattern
