import LineLexer.Proofs.Targets

/-!
**Tokens that are directives.**

Two tokens are directives: one asks for the match to be read again, and one stands for the token of
a bracket. A token that refers to the match is filled in before it is looked at. So where no token
of a grammar has an at-sign, a text of the match or of the state name may still be taken for a
directive, but only one that the token starts with.

* `Action.tokens`, `Grammar.Unmarked`: the tokens of a grammar, and that none has an at-sign;
* `Template.BorrowsMark`, `Template.marked_fill_iff`: how a template comes to start with an at-sign;
* `TokenAction.Borrows`, `TokenAction.borrows_of_directive`: how a token comes to be a directive;
* `HostLine.ActsPlainly`, `HostLine.Acts.plainly_or_borrows`: a step that uses its token as a text;
* `HostLine.exists_of_missingBracket`: the steps that fail for want of a bracket;
* `Work.directive_borrowed`: where the work on a line comes to a directive.
-/

namespace LineLexer

open Scanning

/-! ### The tokens of a grammar -/

namespace Action

mutual

/-- The tokens inside an action, with those that choices fall back on. -/
def tokens : Action → List String
  | .token action => [action.token]
  | .group members => tokensOf members
  | .cases branches fallback => fallback :: tokensOfBranches branches

/-- The tokens inside several actions. -/
def tokensOf : List Action → List String
  | [] => []
  | member :: rest => member.tokens ++ tokensOf rest

/-- The tokens inside several branches. -/
def tokensOfBranches : List (Branch Action) → List String
  | [] => []
  | ⟨_, _, target⟩ :: rest => target.tokens ++ tokensOfBranches rest

end

/-- The tokens inside what an action has led to. -/
def Resolved.tokens : Resolved → List String
  | .token action => [action.token]
  | .group members => tokensOf members

theorem tokens_subset_of_mem {members : List Action} {member : Action} (inside : member ∈ members) :
    member.tokens ⊆ tokensOf members := by
  induction members with
  | nil => cases inside
  | cons first rest step =>
    rw [tokensOf]
    rcases List.mem_cons.1 inside with rfl | later
    · exact List.subset_append_left _ _
    · exact List.subset_append_of_subset_right _ (step later)

variable {settings : Settings} {context : MatchContext}

mutual

/-- An action leads to tokens that are inside it. -/
theorem tokens_resolve : ∀ (action : Action) {resolved : Resolved},
    action.resolve settings context = .ok resolved → resolved.tokens ⊆ action.tokens
  | .token action, resolved, done => by
    rw [resolve, Except.ok.injEq] at done
    subst done
    exact List.Subset.refl _
  | .group members, resolved, done => by
    rw [resolve, Except.ok.injEq] at done
    subst done
    exact List.Subset.refl _
  | .cases branches fallback, resolved, done => tokens_resolveBranches branches done

theorem tokens_resolveBranches : ∀ (branches : List (Branch Action)) {fallback : String}
    {resolved : Resolved}, resolveBranches settings context fallback branches = .ok resolved →
      resolved.tokens ⊆ fallback :: tokensOfBranches branches
  | [], fallback, resolved, done => by
    rw [resolveBranches, Except.ok.injEq] at done
    subst done
    exact List.Subset.refl _
  | ⟨_, guard, target⟩ :: rest, fallback, resolved, done => by
    rw [resolveBranches] at done
    rw [tokensOfBranches]
    split at done
    · cases done
    · exact List.subset_cons_of_subset _
        (List.subset_append_of_subset_left _ (tokens_resolve target done))
    · refine List.Subset.trans (tokens_resolveBranches rest done) ?_
      exact List.cons_subset_cons _ (List.subset_append_right _ _)

end

/-- No token inside an action has an at-sign. -/
def Unmarked (action : Action) : Prop := ∀ token ∈ action.tokens, '@' ∉ token.toList

/-- What an action without at-signs leads to has none either. -/
theorem Unmarked.resolve {action : Action} (unmarked : action.Unmarked) {resolved : Resolved}
    (leads : action.resolve settings context = .ok resolved) :
    ∀ token ∈ resolved.tokens, '@' ∉ token.toList :=
  fun token inside => unmarked token (tokens_resolve action leads inside)

/-- The members of a group without at-signs have none either. -/
theorem Unmarked.members {action : Action} (unmarked : action.Unmarked) {members : List Action}
    (leads : action.resolve settings context = .ok (.group members)) :
    ∀ member ∈ members, member.Unmarked :=
  fun _ inside token listed => unmarked.resolve leads token (tokens_subset_of_mem inside listed)

end Action

/-- No token of a grammar has an at-sign, and the default token has none. -/
def Grammar.Unmarked (grammar : Grammar) : Prop :=
  ∀ action, grammar.HasAction action → action.Unmarked

/-- Whether some token of a grammar has an at-sign. -/
def Grammar.isMarked (grammar : Grammar) : Bool :=
  grammar.defaultToken.toList.contains '@' ||
    grammar.anyAction fun action => action.tokens.any fun token => token.toList.contains '@'

theorem Grammar.unmarked_of_isMarked {grammar : Grammar} (none : grammar.isMarked = false) :
    grammar.Unmarked := by
  unfold isMarked at none
  rw [Bool.or_eq_false_iff] at none
  intro action has token inside marked
  have default : (defaultAction grammar).tokens.any (fun token => token.toList.contains '@') =
      false := by simpa [defaultAction, Action.tokens] using none.1
  have property := eq_false_of_anyAction none.2 default has
  rw [List.any_eq_false] at property
  exact property token inside (List.contains_iff_mem.2 marked)

/-! ### Templates without at-signs -/

/-- Whether a piece takes its text from the match or from the state name. -/
def Piece.borrows : Piece → Bool
  | matched | capture _ | component _ => true
  | letter _ | attributeText _ => false

/-- A piece that is no at-sign and takes its text from no attribute. -/
def Piece.Unmarked (piece : Piece) : Prop :=
  piece.borrows = true ∨ ∃ letter, letter ≠ '@' ∧ piece = .letter letter

namespace Template

/-- What follows a number is an end of the text. -/
theorem suffix_of_index? {text rest : Text} {index : Nat}
    (found : index? text = some (index, rest)) : rest <:+ text := by
  unfold index? at found
  split at found
  · next first second later =>
    split at found
    · split at found
      · cases found
        exact ⟨[first, second], rfl⟩
      · cases found
        exact ⟨[first], rfl⟩
    · cases found
  · next first =>
    split at found
    · cases found
      exact ⟨[first], rfl⟩
    · cases found
  · cases found

/-- A reference without an at-sign refers to no attribute. -/
theorem reference?_unmarked {text rest : Text} {piece : Piece} (unmarked : '@' ∉ text)
    (found : reference? text = some (piece, rest)) : piece.Unmarked ∧ '@' ∉ rest := by
  cases text with
  | nil => cases found
  | cons letter later =>
    rw [List.mem_cons, not_or] at unmarked
    rw [reference?] at found
    split at found
    · cases found
      exact ⟨Or.inr ⟨'$', by decide, rfl⟩, unmarked.2⟩
    split at found
    · cases found
      exact ⟨Or.inl rfl, unmarked.2⟩
    split at found
    · obtain ⟨⟨index, behind⟩, counted, same⟩ := Option.map_eq_some_iff.1 found
      cases same
      exact ⟨Or.inl rfl, fun marked => unmarked.2 ((suffix_of_index? counted).subset marked)⟩
    split at found
    · next sign => exact absurd sign.symm unmarked.1
    · obtain ⟨⟨index, behind⟩, counted, same⟩ := Option.map_eq_some_iff.1 found
      cases same
      refine ⟨Or.inl rfl, fun marked => ?_⟩
      rcases List.mem_cons.1 ((suffix_of_index? counted).subset marked) with sign | inside
      · exact unmarked.1 sign
      · exact unmarked.2 inside

/-- The pieces of a text without at-signs are no at-signs and refer to no attributes. -/
theorem piecesWithin_unmarked {steps : Nat} {text : Text} (unmarked : '@' ∉ text) :
    ∀ piece ∈ piecesWithin steps text, piece.Unmarked := by
  induction steps generalizing text with
  | zero => exact nofun
  | succ steps step =>
    cases text with
    | nil => exact nofun
    | cons letter rest =>
      rw [List.mem_cons, not_or] at unmarked
      have plain : (Piece.letter letter).Unmarked := Or.inr ⟨letter, Ne.symm unmarked.1, rfl⟩
      unfold piecesWithin
      split
      · next dollar =>
        split
        · next piece later found =>
          obtain ⟨refers, behind⟩ := reference?_unmarked unmarked.2 found
          exact List.forall_mem_cons.2 ⟨refers, step behind⟩
        · rw [← dollar]
          exact List.forall_mem_cons.2 ⟨plain, step unmarked.2⟩
      · exact List.forall_mem_cons.2 ⟨plain, step unmarked.2⟩

/-- The first text that a template takes from the match or the state name starts with an at-sign,
and the template has nothing before it. -/
def BorrowsMark (settings : Settings) (template : String) (context : MatchContext) : Prop :=
  ∃ before piece after rest, pieces template = before ++ piece :: after ∧
    (∀ empty ∈ before, fillPiece settings context empty = []) ∧ piece.borrows = true ∧
    fillPiece settings context piece = '@' :: rest

/-- A template without at-signs becomes a text that starts with one exactly if it borrows it. -/
theorem marked_fill_iff {template : String} (unmarked : '@' ∉ template.toList) (settings : Settings)
    (context : MatchContext) :
    Marked (fill settings template context) ↔ BorrowsMark settings template context := by
  have plain : ∀ piece ∈ pieces template, piece.Unmarked := piecesWithin_unmarked unmarked
  unfold Marked fill BorrowsMark
  rw [String.toList_ofList, List.flatMap_def]
  constructor
  · rintro ⟨rest, starts⟩
    obtain ⟨silent, text, later, parts, empty, -⟩ := List.flatten_eq_cons_iff.1 starts
    obtain ⟨before, others, whole, rfl, split⟩ := List.map_eq_append_iff.1 parts
    obtain ⟨piece, after, rfl, filled, -⟩ := List.map_eq_cons_iff.1 split
    refine ⟨before, piece, after, text, whole, List.forall_mem_map.1 empty, ?_, filled⟩
    have listed : piece ∈ pieces template := by
      rw [whole]
      exact List.mem_append_right _ List.mem_cons_self
    rcases plain piece listed with borrows | ⟨letter, other, rfl⟩
    · exact borrows
    · exact absurd (List.cons.inj filled).1 other
  · rintro ⟨before, piece, after, rest, whole, empty, -, filled⟩
    refine ⟨_, List.flatten_eq_cons_iff.2
      ⟨before.map _, rest, after.map (fillPiece settings context), ?_,
        List.forall_mem_map.2 empty, rfl⟩⟩
    rw [whole, List.map_append, List.map_cons, filled]

end Template

/-! ### Tokens that become directives -/

/-- A token asks for the match to be read again, or it stands for the token of a bracket. -/
def IsDirective (token : String) : Prop :=
  token = TokenAction.rematchToken ∨ (TokenAction.bracketsSuffix? token).isSome

/-- Directives start with an at-sign. -/
theorem IsDirective.marked {token : String} (directive : IsDirective token) : Marked token := by
  rcases directive with rfl | stands
  · exact ⟨_, rfl⟩
  · obtain ⟨suffix, found⟩ := Option.isSome_iff_exists.1 stands
    obtain ⟨rest, starts, -⟩ := Option.map_eq_some_iff.1 found
    exact ⟨_, (List.isPrefixOf?_eq_some_iff_append_eq.1 starts).symm⟩

namespace TokenAction

variable {action : TokenAction} {settings : Settings} {context : MatchContext}

/-- The token starts with a text of the match or of the state name, and that text with an at-sign.
-/
def Borrows (action : TokenAction) (settings : Settings) (context : MatchContext) : Prop :=
  action.substitute = true ∧ Template.BorrowsMark settings action.token context

/-- A token without an at-sign only becomes a directive with one that it borrows. -/
theorem borrows_of_directive (unmarked : '@' ∉ action.token.toList)
    (directive : IsDirective (action.text settings context)) :
    action.Borrows settings context := by
  have marked := directive.marked
  unfold text at marked
  split at marked
  · next substitutes => exact ⟨substitutes, (Template.marked_fill_iff unmarked _ _).1 marked⟩
  · obtain ⟨rest, starts⟩ := marked
    rw [starts] at unmarked
    exact absurd List.mem_cons_self unmarked

end TokenAction

/-- The classification that a token is if it is used as a text. -/
def Grammar.classification (grammar : Grammar) (token : String) : String :=
  if token = "" then "" else Classification.sanitize (token ++ grammar.tokenPostfix)

/-- A token that stands for no bracket is used as a text. -/
theorem TokenAction.classify_of_text {action : TokenAction} {grammar : Grammar} {token : String}
    (plain : bracketsSuffix? token = none) (matched : Text) :
    action.classify grammar token matched = .ok (grammar.classification token, action.side) := by
  unfold classify Grammar.classification
  rw [plain]
  dsimp only
  split <;> rfl

/-! ### Steps -/

namespace HostLine

variable {host : HostLine} {scan after changed : Scan} {found : Found} {action : TokenAction}
  {context : MatchContext} {entering : Option String} {next : Next} {trace later : Trace}
  {language text token : String}

/-- A step that makes the changes that come with its token, moves behind what it has read, and tells
the token as a classification of that. -/
inductive ActsPlainly (host : HostLine) (scan : Scan) (trace : Trace) (found : Found)
    (action : TokenAction) (next : Next) (later : Trace) : Prop where
  | acts {after changed : Scan} {entering : Option String} {taken noted : Trace} {token : String}
      (takes : outcome (host.take scan) trace = (.ok (some (after, found)), taken))
      (fills : action.text host.settings (host.context scan after found) = token)
      (transits : host.Transits { after with position := after.position + found.matched.size }
        found (host.context scan after found) action taken changed entering noted)
      (moves : next = .ofScan changed entering)
      (tells : noted.Adds (if found.matched = [] then [] else
        host.told scan.position (host.tokenizer.grammar.classification token) action.side) later)

/-- Unless its token is a directive, a step uses it as a text. -/
theorem Acts.plainly_or_directive (acts : host.Acts scan trace found action next later) :
    host.ActsPlainly scan trace found action next later ∨
      ∃ context, host.Meets scan trace context action ∧
        IsDirective (action.text host.settings context) := by
  obtain @⟨after, changed, entering, taken, noted, takes, leads, transits, concludes⟩ := acts
  by_cases directive : IsDirective (action.text host.settings (host.context scan after found))
  · exact Or.inr ⟨_, ⟨after, found, taken, takes, rfl, leads⟩, directive⟩
  unfold IsDirective at directive
  rw [not_or, Option.not_isSome_iff_eq_none] at directive
  have once : (action.text host.settings (host.context scan after found) ==
      TokenAction.rematchToken) = false := beq_eq_false_iff_ne.2 directive.1
  refine Or.inl (.acts takes rfl transits ?_ ?_)
  · rw [conclude_leads concludes, behind, once]
    rfl
  · cases (tells_of_conclude concludes).2 with
    | silent unread adds =>
      have empty : found.matched = [] := by simpa [once] using unread
      rwa [if_pos empty]
    | audible read classifies adds =>
      have some : found.matched ≠ [] := by simpa [once] using read
      rw [TokenAction.classify_of_text directive.2] at classifies
      cases classifies
      rwa [if_neg some]

/-- A step fails for want of a bracket where its token stands for one and the match is none. -/
theorem exists_of_missingBracket
    (stopped : outcome (host.step scan) trace =
      (.error (.fault ⟨language, .missingBracket text⟩), later)) :
    ∃ context action, host.Meets scan trace context action ∧
      (TokenAction.bracketsSuffix? (action.text host.settings context)).isSome ∧
      host.tokenizer.grammar.findBracket? context.matched = none ∧
      language = host.tokenizer.language ∧ text = String.ofList context.matched := by
  obtain ⟨fails, speaks⟩ := fails_of_step stopped
  generalize same : Fault.missingBracket text = fault at fails
  cases fails with
  | bracket meets stands unknown =>
    cases same
    exact ⟨_, _, meets, stands, unknown, speaks, rfl⟩
  | target meets misses => cases misses <;> cases same
  | _ => cases same

end HostLine

/-! ### The work on a line -/

namespace Work

variable {registry : Option Registry} {steps : Nat} {work inner : Work} {host : HostLine}
  {scan : Scan} {before : Trace} {context : MatchContext} {action : TokenAction}

/-- What all actions of a grammar have, those of the pending groups have before each turn. -/
theorem Visits.carries {holds : Action → Prop}
    (always : ∀ action, work.job.tokenizer.grammar.HasAction action → holds action)
    (inherited : ∀ {settings action context members}, holds action →
      action.resolve settings context = .ok (.group members) → ∀ member ∈ members, holds member)
    (visits : work.Visits registry steps host scan before) :
    (∀ action, host.tokenizer.grammar.HasAction action → holds action) ∧
      HostLine.Carries holds scan := by
  obtain @⟨part, middle, scans, turns, -, scan, trace, comes⟩ := visits
  have same : part.host.tokenizer = work.job.tokenizer := scans.tokenizer
  rw [← same] at always
  refine ⟨always, HostLine.turn?_invariant (fun scan _ => HostLine.Carries holds scan)
    (fun kept leads => HostLine.carries_step always inherited kept leads) ?_ comes⟩
  exact nofun

/-- A token action that the work on a line comes to has no at-sign in its token. -/
theorem Visits.unmarked (unmarked : work.job.tokenizer.grammar.Unmarked)
    (visits : work.Visits registry steps host scan before)
    (meets : host.Meets scan before context action) : '@' ∉ action.token.toList := by
  obtain ⟨always, carries⟩ :=
    visits.carries unmarked fun unmarked leads => unmarked.members leads
  obtain ⟨after, found, taken, takes, -, leads⟩ := meets
  exact (HostLine.holds_of_take always carries takes).1.resolve leads _ List.mem_cons_self

/-- Work that fails for want of a bracket fails at a turn. -/
theorem Fails.turn_of_missing {language text : String}
    (fails : work.Fails registry steps ⟨language, .missingBracket text⟩) :
    ∃ host scan before later, work.Visits registry steps host scan before ∧
      outcome (host.step scan) before =
        (.error (.fault ⟨language, .missingBracket text⟩), later) := by
  cases fails with
  | leaving fails same =>
    subst same
    rcases Tokenizer.leavingOffset?_eq_error fails with ⟨-, other⟩ | other | ⟨_, _, other⟩
    · cases other
    · cases other
    · cases other
  | turn visits fails => exact ⟨_, _, _, _, visits, fails⟩

/-- Borrowed directives. No token of the grammars that take part has an at-sign, default tokens
included. In the work on a line a token is then a directive only where it starts with a text of the
match or of the state name that starts with an at-sign. Every other step that comes to a result uses
its token as a text: it makes the changes that come with it, reads on behind them, and tells the
token as the classification of what it has read. And where a line fails for want of a bracket, it
does so at a turn at which such a text makes its token stand for a bracket. -/
theorem directive_borrowed {depth : Nat} {job : Job} {trace : Trace}
    (unmarked : ∀ other, TakesPart registry job.tokenizer other → other.grammar.Unmarked) :
    (∀ {inner host scan before context action},
      Involves registry steps ⟨depth, job, trace⟩ inner →
      inner.Visits registry steps host scan before → host.Meets scan before context action →
      IsDirective (action.text host.settings context) → action.Borrows host.settings context) ∧
    (∀ {inner host scan before found action next later},
      Involves registry steps ⟨depth, job, trace⟩ inner →
      inner.Visits registry steps host scan before →
      host.Acts scan before found action next later →
      host.ActsPlainly scan before found action next later ∨
        ∃ context, host.Meets scan before context action ∧
          IsDirective (action.text host.settings context) ∧ action.Borrows host.settings context) ∧
    ∀ {language text later},
      outcome (job.unlessLong (Job.tokenizeWithin registry steps depth)) trace =
        (.error (.fault ⟨language, .missingBracket text⟩), later) →
      ∃ inner host scan before context action,
        Involves registry steps ⟨depth, job, trace⟩ inner ∧
        inner.Visits registry steps host scan before ∧ host.Meets scan before context action ∧
        action.Borrows host.settings context ∧
        (TokenAction.bracketsSuffix? (action.text host.settings context)).isSome ∧
        host.tokenizer.grammar.findBracket? context.matched = none ∧
        text = String.ofList context.matched := by
  have borrowed : ∀ {inner host scan before context action},
      Involves registry steps ⟨depth, job, trace⟩ inner →
      inner.Visits registry steps host scan before → host.Meets scan before context action →
      IsDirective (action.text host.settings context) → action.Borrows host.settings context :=
    fun involves visits meets directive => TokenAction.borrows_of_directive
      (visits.unmarked (unmarked _ involves.takesPart) meets) directive
  refine ⟨borrowed, fun involves visits acts => ?_, fun {language text later} stopped => ?_⟩
  · rcases acts.plainly_or_directive with plainly | ⟨context, meets, directive⟩
    · exact Or.inl plainly
    · exact Or.inr ⟨context, meets, directive, borrowed involves visits meets directive⟩
  · obtain ⟨-, stopped⟩ := Job.unlessLong_stop_iff.1 stopped
    have stops : Stops registry steps (.fault ⟨language, .missingBracket text⟩)
      ⟨depth, job, trace⟩ := ⟨later, stopped⟩
    obtain ⟨inner, involves, fails⟩ := exists_fails stops
    obtain ⟨host, scan, before, _, visits, fails⟩ := fails.turn_of_missing
    obtain ⟨context, action, meets, stands, unknown, -, same⟩ :=
      HostLine.exists_of_missingBracket fails
    exact ⟨inner, host, scan, before, context, action, involves, visits, meets,
      borrowed involves visits meets (Or.inr stands), stands, unknown, same⟩

end Work

/-- Whether a line fails with an error. -/
def Job.failsBy (error : TokenizeError) (job : Job) : Bool :=
  match outcome (job.unlessLong (tokenizeWithin none 50 5)) {} with
  | (.error (.fault other), _) => decide (other = error)
  | _ => false

theorem Job.of_failsBy {error : TokenizeError} {job : Job} (fails : job.failsBy error = true) :
    ∃ later, outcome (job.unlessLong (tokenizeWithin none 50 5)) {} =
      (.error (.fault error), later) := by
  unfold failsBy at fails
  split at fails
  · next other later stopped =>
    rw [decide_eq_true_eq] at fails
    exact ⟨later, fails ▸ stopped⟩
  · cases fails

/-- A language whose tokens are the texts that they match. -/
def echoSource : String := "\x7b\"tokenizer\": \x7b\"main\": [[\"@@[a-z]+\", \"$0\"]]\x7d\x7d"

/-- A text of the line stands for the token of a bracket. -/
theorem Work.directive_borrowed_echo :
    ∃ (grammar : Grammar) (later : Trace), grammar.Unmarked ∧
      let job := soleJob grammar "@bracketsx".toList
      outcome (job.unlessLong (Job.tokenizeWithin none 50 5)) {} =
        (.error (.fault ⟨"toy", .missingBracket "@bracketsx"⟩), later) ∧
      ∃ inner host scan before context action, Involves none 50 ⟨5, job, {}⟩ inner ∧
        inner.Visits none 50 host scan before ∧ host.Meets scan before context action ∧
        action.Borrows host.settings context ∧
        (TokenAction.bracketsSuffix? (action.text host.settings context)).isSome ∧
        host.tokenizer.grammar.findBracket? context.matched = none ∧
        "@bracketsx" = String.ofList context.matched := by
  obtain ⟨grammar, -, passes⟩ := Grammar.exists_of_compiles
    (Grammar.compileText "toy" echoSource false)
    (fun grammar => !grammar.isMarked && (soleJob grammar "@bracketsx".toList).failsBy
      ⟨"toy", .missingBracket "@bracketsx"⟩) (by decide +kernel)
  rw [Bool.and_eq_true, Bool.not_eq_true'] at passes
  have unmarked := Grammar.unmarked_of_isMarked passes.1
  obtain ⟨later, stopped⟩ := Job.of_failsBy passes.2
  refine ⟨grammar, later, unmarked, stopped, ?_⟩
  refine (directive_borrowed fun other takes => ?_).2.2 stopped
  rw [takes.eq_of_alone]
  exact unmarked

/-- Whether the first token of a line asks for the match to be read again. -/
def Job.startsAgain (job : Job) : Bool :=
  match outcome (job.host.take job.start) { events := #[.language job.tokenizer.language] } with
  | (.ok (some (after, found)), _) =>
    let context := job.host.context job.start after found
    match found.action.resolve job.host.settings context with
    | .ok (.token action) => action.text job.host.settings context == TokenAction.rematchToken
    | _ => false
  | _ => false

theorem Job.of_startsAgain {job : Job} (again : job.startsAgain = true) :
    ∃ context action,
      job.host.Meets job.start { events := #[.language job.tokenizer.language] } context action ∧
      action.text job.host.settings context = TokenAction.rematchToken := by
  unfold startsAgain at again
  split at again
  · next after found taken takes =>
    dsimp only at again
    split at again
    · next action leads =>
      exact ⟨_, action, ⟨after, found, taken, takes, rfl, leads⟩, beq_iff_eq.1 again⟩
    · cases again
  · cases again

/-- Texts of the line are taken for either directive. -/
theorem Work.not_forall_undirected :
    (¬ ∀ {job : Job} {steps depth : Nat} {trace later : Trace} {language text : String},
      job.tokenizer.grammar.Unmarked →
      outcome (job.unlessLong (Job.tokenizeWithin none steps depth)) trace ≠
        (.error (.fault ⟨language, .missingBracket text⟩), later)) ∧
    ¬ ∀ {job : Job} {steps depth : Nat} {trace : Trace} {host : HostLine} {scan : Scan}
        {before : Trace} {context : MatchContext} {action : TokenAction},
      job.tokenizer.grammar.Unmarked →
      Visits none steps ⟨depth, job, trace⟩ host scan before →
      host.Meets scan before context action →
      action.text host.settings context ≠ TokenAction.rematchToken := by
  obtain ⟨grammar, -, passes⟩ := Grammar.exists_of_compiles
    (Grammar.compileText "toy" echoSource false)
    (fun grammar => !grammar.isMarked && ((soleJob grammar "@bracketsx".toList).failsBy
      ⟨"toy", .missingBracket "@bracketsx"⟩ && (soleJob grammar "@rematch".toList).startsAgain))
    (by decide +kernel)
  rw [Bool.and_eq_true, Bool.and_eq_true, Bool.not_eq_true'] at passes
  obtain ⟨none, fails, again⟩ := passes
  have unmarked := Grammar.unmarked_of_isMarked none
  constructor
  · intro never
    obtain ⟨later, stopped⟩ := Job.of_failsBy fails
    exact never unmarked stopped
  · intro never
    obtain ⟨context, action, meets, same⟩ := Job.of_startsAgain again
    have visits : Visits .none 1 ⟨1, soleJob grammar "@rematch".toList, {}⟩ _ _ _ :=
      .turn (.opens rfl) Nat.zero_lt_one (HostLine.turn?_zero rfl)
    exact never unmarked visits meets same

end LineLexer
