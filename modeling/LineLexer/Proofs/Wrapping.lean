import LineLexer.Proofs.Enclosing
import LineLexer.Proofs.Expansion
import LineLexer.Proofs.LineStart
import LineLexer.Proofs.Revisit
import LineLexer.Proofs.Spans

/-!
**What the group around a pattern confines.**

The body of a rule is put into a group behind the start of the text, and the body of a guard's
regular expression between the start and the end. Only the whole is read. If the body can be read by
itself, it is what the group holds: what matches begins where it is looked for, and a guard takes
all of a text. Any other body may close the group before it ends, and then a choice behind the group
is not bound to the start.

* `Regex.read?_anchor`, `Regex.read?_wholePattern`: the whole, for a body that can be read alone;
* `Regex.startsText_of_anchor`, `Regex.matchesWhole_of_isMatch`: what the whole matches;
* `Pattern.bodyIn`, `Guard.bodyFor`: the bodies of rules and of guards;
* `Work.wrapping_confines`: where the matches of rules and guards are.
-/

namespace LineLexer

open Scanning

namespace Regex

/-- A sequence that begins with the start of the text matches only there. -/
theorem Expr.startsText_sequenceOf (exprs : List Expr) :
    (sequenceOf (.check .textStart :: exprs)).startsText = true := by
  unfold sequenceOf
  rw [List.flatMap_cons]
  show (ofParts (.check .textStart :: (exprs.flatMap parts).foldr consPart [])).startsText = true
  cases (exprs.flatMap parts).foldr consPart [] <;> rfl

namespace Reader

variable {ignoreCase : Bool} {body tail : List Char} {steps : Nat} {part : Part} {cursor : Cursor}

theorem parts?_hat (steps : Nat) (rest : List Char) :
    parts? (steps + 1) { rest := '^' :: rest, flags := { ignoreCase } } [] [] =
      parts? steps { rest, flags := { ignoreCase } }
        [{ expr := .check .textStart, height := 0 }] [] := rfl

theorem parts?_group (steps : Nat) (rest : List Char) (parts : List Part) :
    parts? (steps + 1) { rest := '(' :: '?' :: ':' :: rest, flags := { ignoreCase } } parts [] =
      parts? steps { rest, flags := { ignoreCase } } [] [] >>= fun (body, after) =>
        match after.rest with
        | ')' :: rest =>
          parts? steps { after with rest, flags := { ignoreCase } }
            ({ expr := body.expr, height := body.height + 1 } :: parts) []
        | _ => none := by
  rfl

/-- What is read of a pattern that is put into a group at the start of the text, behind the
group: the pattern itself has been read as it is read alone. -/
theorem exists_of_parts?_wrapped (quiet : Quiet tail)
    (read : parts? (body.length + 1) { rest := body, flags := { ignoreCase } } [] [] =
      some (part, cursor))
    (ends : cursor.rest = []) (enough : body.length + 1 ≤ steps) {whole : Part} {last : Cursor}
    (wrapped : parts? (steps + 2)
      { rest := '^' :: '(' :: '?' :: ':' :: (body ++ ')' :: tail), flags := { ignoreCase } } [] [] =
        some (whole, last)) :
    parts? steps { cursor with rest := tail, flags := { ignoreCase } }
      [{ expr := part.expr, height := part.height + 1 },
        { expr := .check .textStart, height := 0 }] [] = some (whole, last) := by
  rw [parts?_hat, parts?_group] at wrapped
  obtain ⟨⟨_, _⟩, within, ⟨more, same, behind⟩⟩ :=
    follows_parts? quiet (.kept body) enough (part, cursor) read
  cases same
  rw [within] at wrapped
  rw [ends] at behind
  cases behind with
  | kept => exact wrapped
  | taken => cases wrapped

end Reader

/-! ### Wrapped patterns -/

section Wrapped

variable {ignoreCase : Bool} {body : String} {expr whole : Expr} {regex : Regex} {text : Text}
  {place : Match}

/-- A pattern that is put into a group at the start of the text is read as it is read alone, and
what stands behind the group is read behind it. -/
theorem exists_of_read?_wrapped {pattern : String} {tail : List Char} (quiet : Quiet tail)
    (spelled : pattern.toList = '^' :: '(' :: '?' :: ':' :: (body.toList ++ ')' :: tail))
    (alone : Expr.read? { ignoreCase } body = some expr)
    (wrapped : Expr.read? { ignoreCase } pattern = some whole) :
    ∃ (height : Nat) (part : Reader.Part) (cursor last : Reader.Cursor),
      Reader.parts? (body.toList.length + tail.length + 4)
        { cursor with rest := tail, flags := { ignoreCase } }
        [{ expr, height }, { expr := .check .textStart, height := 0 }] [] = some (part, last) ∧
        whole = part.expr := by
  unfold Expr.read? at alone wrapped
  dsimp only at alone wrapped
  obtain ⟨⟨inner, cursor⟩, read, chosen⟩ := Option.bind_eq_some_iff.1 alone
  obtain ⟨⟨outer, last⟩, readToo, chosenToo⟩ := Option.bind_eq_some_iff.1 wrapped
  dsimp only at chosen chosenToo
  split at chosen
  · next fits =>
    cases chosen
    split at chosenToo
    · cases chosenToo
      refine ⟨inner.height + 1, outer, cursor, last, ?_, rfl⟩
      have steps : pattern.toList.length + 1 = body.toList.length + tail.length + 4 + 2 := by
        rw [spelled]
        simp only [List.length_cons, List.length_append]
        omega
      rw [steps, spelled] at readToo
      exact Reader.exists_of_parts?_wrapped quiet read fits.1 (by omega) readToo
    · cases chosenToo
  · cases chosen

/-- A pattern for the scan position is the pattern behind the start of the text. -/
theorem read?_anchor (alone : Expr.read? { ignoreCase } body = some expr)
    (wrapped : Expr.read? { ignoreCase } (Pattern.anchor body) = some whole) :
    whole = .sequenceOf [.check .textStart, expr] := by
  have spelled : (Pattern.anchor body).toList =
      '^' :: '(' :: '?' :: ':' :: (body.toList ++ [')']) := by
    unfold Pattern.anchor
    rw [String.toList_append, String.toList_append]
    rfl
  have quiet : Quiet [] := ⟨List.not_mem_nil, List.not_mem_nil⟩
  obtain ⟨height, part, cursor, last, read, rfl⟩ :=
    exists_of_read?_wrapped quiet spelled alone wrapped
  cases read
  rfl

theorem toList_wholePattern (body : String) : (Guard.wholePattern body).toList =
    '^' :: '(' :: '?' :: ':' :: (body.toList ++ [')', '$']) := by
  unfold Guard.wholePattern
  rw [String.toList_append, String.toList_append]
  rfl

/-- A pattern for whole texts is the pattern between the start and the end of the text. -/
theorem read?_wholePattern (alone : Expr.read? { ignoreCase } body = some expr)
    (wrapped : Expr.read? { ignoreCase } (Guard.wholePattern body) = some whole) :
    whole = .sequenceOf [.check .textStart, expr, .check .textEnd] := by
  have quiet : Quiet ['$'] := ⟨by decide, by decide⟩
  obtain ⟨height, part, cursor, last, read, rfl⟩ :=
    exists_of_read?_wrapped quiet (toList_wholePattern body) alone wrapped
  cases read
  rfl

/-- What a pattern for the scan position matches can only begin there. -/
theorem startsText_of_anchor (alone : Expr.read? { ignoreCase } body = some expr)
    (compiled : compile ignoreCase (Pattern.anchor body) = .ok regex) :
    regex.startsText = true := by
  unfold compile at compiled
  split at compiled
  · cases compiled
  · next whole wrapped =>
    split at compiled
    · cases compiled
      show whole.startsText = true
      rw [read?_anchor alone wrapped]
      exact Expr.startsText_sequenceOf [expr]
    · cases compiled

/-- A match with nothing before it takes a beginning of the text. -/
theorem captures_of_offset (start : place.offset text = 0) :
    (place.captures text).headD [] <+: text := by
  have first : text.drop place.start = text := by
    have none : text.take place.start = [] := Text.size_eq_zero_iff.1 start
    have whole := List.take_append_drop place.start text
    rw [none] at whole
    exact whole
  obtain ⟨groups⟩ := place
  cases groups with
  | nil => exact List.nil_prefix
  | cons group groups =>
    cases group with
    | none => exact List.nil_prefix
    | some bounds =>
      show (text.drop bounds.1).take (bounds.2 - bounds.1) <+: text
      rw [show text.drop bounds.1 = text from first]
      exact List.take_prefix _ _

/-- A body that is a regular expression by itself. -/
def IsPattern (ignoreCase : Bool) (body : String) : Prop :=
  ∃ expr, Expr.read? { ignoreCase } body = some expr

/-- A body matches the whole of a text, from the first character to the last. -/
def MatchesWhole (ignoreCase : Bool) (body : String) (text : Text) : Prop :=
  ∃ expr, Expr.read? { ignoreCase } body = some expr ∧
    expr.Spans ⟨none, text⟩ ⟨text.getLast?, []⟩

/-- Where a pattern for whole texts matches, its body matches the whole of the text. -/
theorem matchesWhole_of_isMatch (alone : Expr.read? { ignoreCase } body = some expr)
    (compiled : compile ignoreCase (Guard.wholePattern body) = .ok regex)
    (matched : regex.isMatch text = true) : MatchesWhole ignoreCase body text := by
  obtain ⟨whole, wrapped, skipped, later, finish, rfl, starts, spans⟩ :=
    exists_spans_of_isMatch compiled matched
  have listed := read?_wholePattern alone wrapped
  cases starts (listed ▸ Expr.startsText_sequenceOf _)
  rw [listed, Expr.spans_sequenceOf] at spans
  obtain ⟨_, ⟨-, rfl⟩, finish, inner, _, ⟨ends, rfl⟩, rfl⟩ := spans
  obtain ⟨taken, same, before⟩ := inner.between
  obtain ⟨last, rest⟩ := finish
  have none : rest = [] := List.head?_eq_none_iff.1 (Option.isNone_iff_eq_none.1 ends)
  subst none
  dsimp only at same before
  rw [List.append_nil] at same
  subst same
  rw [before, List.getLast?_nil, Option.or_none] at inner
  exact ⟨expr, alone, inner⟩

end Wrapped

end Regex

/-! ### Bodies of rules -/

namespace Pattern

variable {settings : Settings} {written : String} {searched : Bool} {pattern : Pattern}

/-- The body of a pattern in a state: attributes are spliced in, and where the pattern refers to
them the parts of the name of the state. -/
def bodyIn (pattern : Pattern) (settings : Settings) (state : String) : String :=
  match pattern.form with
  | .fixed _ _ => pattern.source
  | .perState => substituteState settings pattern.source state

theorem compile_of_regexOf {text : String} {regex : Regex}
    (made : regexOf settings text = .ok regex) :
    Regex.compile settings.ignoreCase text = .ok regex := by
  unfold regexOf at made
  split at made
  · next compiled =>
    cases made
    exact compiled
  · cases made

/-- What is compiled: the form tells whether there are references, and what is compiled once is what
the source is compiled to. -/
theorem form_of_compile (compiled : compile settings written searched = .ok pattern) :
    expand settings written = .ok pattern.source ∧
      ((pattern.form = .perState ∧ refersToState pattern.source.toList = true) ∨
        ∃ regex search, pattern.form = .fixed regex search ∧
          refersToState pattern.source.toList = false ∧
          Regex.compile settings.ignoreCase (anchor pattern.source) = .ok regex ∧
          ∀ other, search = some other →
            Regex.compile settings.ignoreCase pattern.source = .ok other) := by
  unfold compile at compiled
  obtain ⟨source, expanded, compiled⟩ := exceptBind_eq_ok.1 compiled
  split at compiled
  · next refers =>
    cases compiled
    exact ⟨expanded, .inl ⟨rfl, refers⟩⟩
  · next lacks =>
    have plain : refersToState source.toList = false := Bool.eq_false_iff.2 lacks
    obtain ⟨regex, made, compiled⟩ := exceptBind_eq_ok.1 compiled
    split at compiled
    · obtain ⟨other, madeToo, compiled⟩ := exceptBind_eq_ok.1 compiled
      cases compiled
      refine ⟨expanded, .inr ⟨regex, some other, rfl, plain, compile_of_regexOf made, ?_⟩⟩
      intro found same
      rw [← Option.some.inj same]
      exact compile_of_regexOf madeToo
    · cases compiled
      exact ⟨expanded, .inr ⟨regex, none, rfl, plain, compile_of_regexOf made, nofun⟩⟩

/-- The regular expression of a pattern in a state is that of the group around its body there. -/
theorem fresh_of_compile (compiled : compile settings written searched = .ok pattern)
    (state : String) : expand settings written = .ok pattern.source ∧
      pattern.fresh settings state =
        Regex.compile settings.ignoreCase (anchor (pattern.bodyIn settings state)) := by
  obtain ⟨expanded, ⟨form, -⟩ | ⟨regex, search, form, -, built, -⟩⟩ := form_of_compile compiled
  · refine ⟨expanded, ?_⟩
    unfold fresh anchored bodyIn
    rw [form]
    dsimp only
    cases Regex.compile settings.ignoreCase
      (anchor (substituteState settings pattern.source state)) <;> rfl
  · refine ⟨expanded, ?_⟩
    unfold fresh anchored bodyIn
    rw [form]
    exact built.symm

end Pattern

namespace Description

/-- The pattern of a rule is compiled from what is written in the rule. -/
theorem yields_pattern (description : Description) (place : String) (value : Json) :
    Compiling.Yields (description.compileRule place value) fun rule =>
      ∃ written searched, Pattern.compile description.settings written searched =
        .ok rule.pattern := by
  unfold compileRule
  refine Compiling.yields_then fun raw => Compiling.yields_then fun action => ?_
  dsimp only
  refine Compiling.yields_bind (Compiling.yields_liftM fun pattern made => made) ?_
  intro pattern made
  exact Compiling.yields_pure ⟨_, _, made⟩

end Description

namespace Grammar

open Compiling Description

variable {language source : String} {tolerant : Bool} {grammar : Grammar} {rules : List Rule}
  {rule : Rule}

/-- The pattern of a rule of a compiled grammar has been compiled from what is written. -/
theorem exists_compile_of_rule
    (compiled : (compileText language source tolerant).result = .ok grammar) {state : String}
    (holding : grammar.findRules? state = some rules) (listed : rule ∈ rules) :
    ∃ written searched, Pattern.compile grammar.settings written searched = .ok rule.pattern := by
  obtain ⟨value, made⟩ := exists_compile_of_compileText compiled
  obtain ⟨name, inside⟩ := mem_states holding
  obtain ⟨description, place, item, same, compiles⟩ := exists_compileRule_of_mem made inside listed
  rw [← same]
  exact yields_pattern description place item {} rule _ (Prod.ext compiles rfl)

end Grammar

/-! ### Bodies of guards -/

/-- Whether a test asks for a match of a regular expression. -/
def Test.asksRegex : Test → Bool
  | .regex _ | .filledRegex _ => true
  | .words _ | .equals _ | .filledEquals _ => false

namespace Guard

variable {settings : Settings} {rule key : String} {subject : Subject} {test : Test}
  {negated : Bool} {operand text : Text} {context : MatchContext}

/-- The body of the regular expression for which an operand asks in a match: references are filled
in, and then attributes are spliced in. -/
def bodyFor (settings : Settings) (operand : Text) (context : MatchContext) :
    Except Problem String :=
  let text := String.ofList operand
  Pattern.expand settings
    (if operand.contains '$' then Template.fill settings text context else text)

/-- What is tested by a guard that asks for a regular expression. -/
theorem exists_operand (compiled : compile settings rule key = .ok (.test subject test negated))
    (asks : test.asksRegex = true) :
    ∃ operand, splitOperator (splitSubject key.toList).2 = (.matching, negated, operand) ∧
      compileTest settings rule .matching operand = .ok test := by
  unfold compile at compiled
  split at compiled
  · cases compiled
  · split at compiled
    · cases compiled
    · dsimp only at compiled
      generalize splitOperator (splitSubject key.toList).2 = parts at compiled
      obtain ⟨operator, negated, operand⟩ := parts
      obtain ⟨test, made, same⟩ := exceptBind_eq_ok.1 compiled
      cases same
      cases operator with
      | matching => exact ⟨operand, rfl, made⟩
      | member =>
        unfold compileTest at made
        dsimp only at made
        split at made
        · cases made
        · split at made
          · cases made
          · cases made
            cases asks
      | equal =>
        unfold compileTest at made
        dsimp only at made
        split at made
        · cases made
          cases asks
        · cases made
          cases asks

/-- The test of a regular expression succeeds on a text only if it is that of the group around its
body, from the start of the text to its end. -/
theorem exists_regex_of_succeeds
    (compiled : compileTest settings rule .matching operand = .ok test)
    (asks : test.asksRegex = true) (succeeds : succeeds settings context text test = .ok true) :
    ∃ body regex, bodyFor settings operand context = .ok body ∧
      Regex.compile settings.ignoreCase (wholePattern body) = .ok regex ∧
        regex.isMatch text = true := by
  unfold compileTest at compiled
  dsimp only [bodyFor] at compiled ⊢
  split at compiled
  · cases compiled
    cases asks
  · split at compiled
    · next refers =>
      cases compiled
      rw [if_pos refers]
      unfold Guard.succeeds filledRegex at succeeds
      dsimp only at succeeds ⊢
      split at succeeds
      · cases succeeds
      · next body expanded =>
        split at succeeds
        · next regex built =>
          exact ⟨body, regex, expanded, built, Except.ok.inj succeeds⟩
        · cases succeeds
    · next fixed =>
      rw [if_neg fixed]
      obtain ⟨body, expanded, compiled⟩ := exceptBind_eq_ok.1 compiled
      obtain ⟨regex, made, same⟩ := exceptBind_eq_ok.1 compiled
      cases same
      exact ⟨body, regex, expanded, Pattern.compile_of_regexOf made, Except.ok.inj succeeds⟩

end Guard

/-! ### Matches where they are looked for -/

namespace Work

variable {tokenizers : Set Tokenizer} {registry : Option Registry} {steps : Nat}
  {work inner : Work} {host : HostLine} {scan : Scan} {trace : Trace}

/-- Memories are sound at every turn of a scan. -/
theorem Visits.sound (injective : tokenizers.InjOn Tokenizer.identity)
    (known : Known tokenizers registry work.job.tokenizer)
    (sound : work.trace.memories.Sound tokenizers)
    (visits : work.Visits registry steps host scan trace) :
    host.tokenizer ∈ tokenizers ∧ trace.memories.Sound tokenizers := by
  cases visits with
  | @turn part middle scans turns allowed scan trace comes =>
    have member : part.host.tokenizer ∈ tokenizers := scans.member known
    have opened : middle.memories.Sound tokenizers := scans.sound injective known sound
    exact ⟨member, HostLine.turn?_sound injective member
      (show (part.opened middle).memories.Sound tokenizers from opened) comes⟩

end Work

/-- The regular expression of the rule that is taken is the one that its pattern is compiled to. -/
theorem Tokenizer.Prefers.isFresh {tokenizers : Set Tokenizer} {tokenizer : Tokenizer}
    {state : String} {atStart : Bool} {rest : Text} {rules : List Rule} {trace : Trace}
    {rule : Rule} {regex : Regex} {place : Regex.Match}
    (injective : tokenizers.InjOn Tokenizer.identity) (known : tokenizer ∈ tokenizers)
    (sound : trace.memories.Sound tokenizers)
    (prefers : tokenizer.Prefers state atStart rest rules trace rule regex place) :
    tokenizer.IsFresh state rule regex := by
  induction prefers with
  | first free anchors fits => exact (fresh_of_anchored injective known sound anchors).1
  | elsewhere bound follows step => exact step sound
  | misses free anchors fails follows step =>
    exact step (fresh_of_anchored injective known sound anchors).2

/-- A test of a regular expression whose body is one by itself succeeds on texts that the body
matches from the first character to the last. -/
theorem Guard.matchesWhole_of_succeeds {settings : Settings} {rule key : String} {subject : Subject}
    {test : Test} {negated : Bool} {text : Text} {context : MatchContext}
    (compiled : Guard.compile settings rule key = .ok (.test subject test negated))
    (asks : test.asksRegex = true)
    (succeeds : Guard.succeeds settings context text test = .ok true) :
    ∃ operand body, splitOperator (splitSubject key.toList).2 = (.matching, negated, operand) ∧
      bodyFor settings operand context = .ok body ∧
      (Regex.IsPattern settings.ignoreCase body →
        Regex.MatchesWhole settings.ignoreCase body text) := by
  obtain ⟨operand, splits, made⟩ := exists_operand compiled asks
  obtain ⟨body, regex, filled, built, matched⟩ := exists_regex_of_succeeds made asks succeeds
  exact ⟨operand, body, splits, filled, fun ⟨expr, alone⟩ =>
    Regex.matchesWhole_of_isMatch alone built matched⟩

/-- A rule whose body is a regular expression by itself matches where the scan stands, as does any
whose regular expression can only match at the start of the text. -/
theorem HostLine.TakesRule.confined {tokenizers : Set Tokenizer} {host : HostLine} {scan : Scan}
    {trace : Trace} {rule : Rule} {regex : Regex} {place : Regex.Match} {language source : String}
    {tolerant : Bool} (injective : tokenizers.InjOn Tokenizer.identity)
    (known : host.tokenizer ∈ tokenizers) (sound : trace.memories.Sound tokenizers)
    (compiled : (Grammar.compileText language source tolerant).result =
      .ok host.tokenizer.grammar) (takes : host.TakesRule scan trace rule regex place) :
    ∃ written rest, Pattern.expand host.settings written = .ok rule.pattern.source ∧
      host.text.drop? scan.position = some rest ∧
      (Regex.IsPattern host.settings.ignoreCase
            (rule.pattern.bodyIn host.settings scan.stack.state) ∨ regex.startsText = true →
        host.matchStart scan place = host.shift + scan.position ∧
          (rule.found place rest).matched <+: rest) := by
  obtain ⟨-, rules, rest, holding, cuts, prefers⟩ := takes
  obtain ⟨listed, -, found⟩ := prefers.fits
  obtain ⟨written, searched, made⟩ := Grammar.exists_compile_of_rule compiled holding listed
  obtain ⟨expands, fresh⟩ := Pattern.fresh_of_compile made scan.stack.state
  have built := fresh.symm.trans (prefers.isFresh injective known sound)
  refine ⟨written, rest, expands, cuts, fun bound => ?_⟩
  have starts : regex.startsText = true := by
    rcases bound with ⟨expr, alone⟩ | starts
    · exact Regex.startsText_of_anchor alone built
    · exact starts
  have start := Regex.offset_eq_zero built starts found
  refine ⟨?_, Regex.captures_of_offset start⟩
  unfold matchStart
  rw [cuts, Option.getD_some, start, Nat.add_zero]

/-- What the group around a body confines. In the work on a line after any calls, a rule of a
compiled grammar is taken for a match that begins where the scan stands, and which is a beginning of
what is left of the text, if its body as it stands in the state is a regular expression by itself,
or if the whole can only match at the start of the text anyway. And if the body of a guard's regular
expression is one by itself, the test succeeds only on texts that the body matches from the first
character to the last. -/
theorem Work.wrapping_confines {tokenizers : Set Tokenizer} {registry : Option Registry}
    {steps : Nat} {work inner : Work} {host : HostLine} {scan : Scan} {trace : Trace}
    {language source : String} {tolerant : Bool} (injective : tokenizers.InjOn Tokenizer.identity)
    {calls : List Call} (known : ∀ call ∈ calls, Known tokenizers call.registry call.tokenizer)
    (remembers : work.trace.memories = .after calls)
    (takesPart : Known tokenizers registry work.job.tokenizer)
    (involves : work.Involves registry steps inner)
    (visits : inner.Visits registry steps host scan trace)
    (compiled : (Grammar.compileText language source tolerant).result =
      .ok host.tokenizer.grammar) :
    (∀ {rule regex place}, host.TakesRule scan trace rule regex place →
      ∃ written rest, Pattern.expand host.settings written = .ok rule.pattern.source ∧
        host.text.drop? scan.position = some rest ∧
        (Regex.IsPattern host.settings.ignoreCase
              (rule.pattern.bodyIn host.settings scan.stack.state) ∨ regex.startsText = true →
          host.matchStart scan place = host.shift + scan.position ∧
            (rule.found place rest).matched <+: rest)) ∧
    ∀ {name key subject test negated context text},
      Guard.compile host.settings name key = .ok (.test subject test negated) →
      test.asksRegex = true → Guard.succeeds host.settings context text test = .ok true →
      ∃ operand body,
        Guard.splitOperator (Guard.splitSubject key.toList).2 = (.matching, negated, operand) ∧
        Guard.bodyFor host.settings operand context = .ok body ∧
        (Regex.IsPattern host.settings.ignoreCase body →
          Regex.MatchesWhole host.settings.ignoreCase body text) := by
  have sound : work.trace.memories.Sound tokenizers := by
    rw [remembers]
    exact sound_after injective known
  obtain ⟨member, remembered⟩ := visits.sound injective (involves.known takesPart)
    (involves.sound injective takesPart sound)
  exact ⟨fun takes => takes.confined injective member remembered compiled,
    fun made asks succeeds => Guard.matchesWhole_of_succeeds made asks succeeds⟩

/-! ### Two bodies -/

/-- The description of a grammar with one rule. -/
def singleSource (body : String) : String :=
  "\x7b\"tokenizer\": \x7b\"main\": [[\"" ++ body ++ "\", \"x\"]]\x7d\x7d"

/-- What the first step finds in the line of two characters. -/
def pairFound? (grammar : Grammar) : Option Found :=
  match (outcome ((pairJob grammar).host.take (pairJob grammar).start) (pairTrace grammar)).1 with
  | .ok (some (_, found)) => some found
  | _ => none

/-- What a rule finds there is found at a turn of the scan. -/
theorem exists_takesRule_of_pairFound? {grammar : Grammar} {found : Found}
    (finds : pairFound? grammar = some found) (matched : found.rule ≠ Tokenizer.fallbackName) :
    Work.Visits none 8 ⟨1, pairJob grammar, {}⟩ (pairJob grammar).host (pairJob grammar).start
        (pairTrace grammar) ∧
      ∃ rule regex place, (pairJob grammar).host.TakesRule (pairJob grammar).start
          (pairTrace grammar) rule regex place ∧
        ∀ rest, (pairJob grammar).host.text.drop? 0 = some rest →
          found = rule.found place rest := by
  have scans : Work.Scans none 8 ⟨1, pairJob grammar, {}⟩ (pairJob grammar) {} := .opens rfl
  refine ⟨.turn scans (by decide) (HostLine.turn?_zero rfl), ?_⟩
  unfold pairFound? at finds
  split at finds
  · next after other takes =>
    cases finds
    obtain ⟨rest, cuts, ⟨rule, regex, place, takesRule, same⟩ | same⟩ :=
      HostLine.takesRule_or_fallback rfl (Prod.ext takes rfl)
    · refine ⟨rule, regex, place, takesRule, fun other cutsToo => ?_⟩
      cases cuts.symm.trans cutsToo
      exact same
    · exact absurd (congrArg Found.rule same) matched
  · cases finds

/-- A match of the line of two characters. -/
def pairContext : MatchContext where
  matched := ['a', 'b']
  captures := [['a', 'b']]
  state := "main"
  atLineEnd := true

/-- The body of the regular expression for which a guard asks, where the guard holds of a text. -/
def succeedingBody? (settings : Settings) (key : String) (text : Text) : Option String :=
  match Guard.compile settings "rule" key with
  | .ok (.test _ test _) =>
    match Guard.succeeds settings pairContext text test with
    | .ok true =>
      if test.asksRegex then
        (Guard.bodyFor settings (Guard.splitOperator (Guard.splitSubject key.toList).2).2.2
          pairContext).toOption
      else none
    | _ => none
  | _ => none

/-- Whether the bodies of all rules are regular expressions by themselves in the start state, and
what is found in the line. -/
def standsAlone (grammar : Grammar) : Bool :=
  (pairFound? grammar).any (fun found =>
      (found.rule != Tokenizer.fallbackName) && (found.matched == ['a'])) &&
    (grammar.states.all fun state => state.2.all fun rule =>
      (Regex.Expr.read? { ignoreCase := grammar.settings.ignoreCase }
        (rule.pattern.bodyIn grammar.settings grammar.start)).isSome) &&
    (succeedingBody? grammar.settings "~b|a+" ['a', 'a'] == some "b|a+") &&
    (Regex.Expr.read? { ignoreCase := grammar.settings.ignoreCase } "b|a+").isSome

/-- Whether what is found in the line is not where the line begins. -/
def standsApart (grammar : Grammar) : Bool :=
  (pairFound? grammar).any fun found =>
    (found.rule != Tokenizer.fallbackName) && !found.matched.isPrefixOf (pairJob grammar).host.text

/-- A choice of a letter or of another one is a regular expression by itself. -/
theorem exists_standsAlone :
    ∃ grammar, (Grammar.compileText "toy" (singleSource "b|a+") false).result = .ok grammar ∧
      standsAlone grammar = true :=
  Grammar.exists_of_compiles (Grammar.compileText "toy" (singleSource "b|a+") false)
    standsAlone (by decide +kernel)

/-- What the check says of the guard. -/
theorem exists_of_succeedingBody? {settings : Settings} {key body : String} {text : Text}
    (holds : succeedingBody? settings key text = some body) :
    ∃ subject test negated, Guard.compile settings "rule" key = .ok (.test subject test negated) ∧
      test.asksRegex = true ∧ Guard.succeeds settings pairContext text test = .ok true ∧
      Guard.bodyFor settings (Guard.splitOperator (Guard.splitSubject key.toList).2).2.2
        pairContext = .ok body := by
  unfold succeedingBody? at holds
  split at holds
  · next subject test negated made =>
    split at holds
    · next succeeds =>
      split at holds
      · next asks =>
        refine ⟨subject, test, negated, made, asks, succeeds, ?_⟩
        cases filled : Guard.bodyFor settings
            (Guard.splitOperator (Guard.splitSubject key.toList).2).2.2 pairContext with
        | error problem =>
          rw [filled] at holds
          cases holds
        | ok body =>
          rw [filled] at holds
          cases holds
          rfl
      · cases holds
    · cases holds
  · cases holds

/-- The rule matches at the start of the line, and the guard's body matches all of a text. -/
theorem Work.pairJob_confines :
    ∃ (grammar : Grammar) (rule : Rule) (regex : Regex) (place : Regex.Match) (rest : Text),
      (pairJob grammar).host.TakesRule (pairJob grammar).start (pairTrace grammar) rule regex
        place ∧
      (pairJob grammar).host.matchStart (pairJob grammar).start place = 0 ∧
      (rule.found place rest).matched = ['a'] ∧ (rule.found place rest).matched <+: rest ∧
      Regex.MatchesWhole grammar.settings.ignoreCase "b|a+" ['a', 'a'] := by
  obtain ⟨grammar, compiles, stands⟩ := exists_standsAlone
  unfold standsAlone at stands
  rw [Bool.and_eq_true, Bool.and_eq_true, Bool.and_eq_true] at stands
  obtain ⟨⟨⟨finds, bodies⟩, holds⟩, reads⟩ := stands
  obtain ⟨found, finds, known⟩ := (Option.any_eq_true _ _).1 finds
  rw [Bool.and_eq_true, bne_iff_ne, beq_iff_eq] at known
  obtain ⟨visits, rule, regex, place, takes, same⟩ := exists_takesRule_of_pairFound? finds known.1
  have alone : Known {(pairJob grammar).tokenizer} none (pairJob grammar).tokenizer :=
    known_of_alone
  have uncalled : ∀ call ∈ ([] : List Call),
      Known {(pairJob grammar).tokenizer} call.registry call.tokenizer :=
    List.forall_mem_nil _
  obtain ⟨rules, guarded⟩ := Work.wrapping_confines (Set.injOn_singleton _ _) uncalled rfl alone
    Relation.ReflTransGen.refl visits compiles
  obtain ⟨written, rest, -, cuts, confined⟩ := rules takes
  obtain ⟨begins, taken⟩ := confined (Or.inl <| by
    obtain ⟨-, rules, rest, holding, -, prefers⟩ := takes
    obtain ⟨name, listed⟩ := Grammar.mem_states holding
    exact Option.isSome_iff_exists.1
      (List.all_eq_true.1 (List.all_eq_true.1 bodies _ listed) rule prefers.fits.1))
  obtain ⟨subject, test, negated, made, asks, succeeds, filled⟩ :=
    exists_of_succeedingBody? (eq_of_beq holds)
  obtain ⟨operand, other, splits, filledToo, whole⟩ := guarded made asks succeeds
  refine ⟨grammar, rule, regex, place, rest, takes, begins, ?_, taken, ?_⟩
  · rw [← same rest cuts]
    exact known.2
  · rw [splits] at filled
    cases filled.symm.trans filledToo
    exact whole (Option.isSome_iff_exists.1 reads)

/-- The first of two choices ends the group, and the second one starts another. -/
theorem exists_standsApart :
    ∃ grammar, (Grammar.compileText "toy" (singleSource "c)|(?:b") false).result = .ok grammar ∧
      standsApart grammar = true :=
  Grammar.exists_of_compiles (Grammar.compileText "toy" (singleSource "c)|(?:b") false)
    standsApart (by decide +kernel)

/-- Settings that say nothing. -/
def plainSettings : Settings where
  language := "toy"
  ignoreCase := false
  unicode := false
  attributes := []

/-- Whether the regular expression of a guard takes something else than the whole text. -/
def takesPart (key : String) (text : Text) : Bool :=
  match Guard.compile plainSettings "rule" key with
  | .ok (.test _ (.regex regex) _) =>
    (regex.find? text).any fun place => (place.captures text).headD [] != text
  | _ => false

/-- A rule may match behind the place where the scan stands, and the regular expression of a guard
may match a text of which it takes a part only. -/
theorem Work.not_forall_confined :
    (¬ ∀ (source : String) (grammar : Grammar) (registry : Option Registry) (steps : Nat)
      (work : Work) (host : HostLine) (scan : Scan) (trace : Trace) (rule : Rule) (regex : Regex)
      (place : Regex.Match),
      (Grammar.compileText "toy" source false).result = .ok grammar →
      host.tokenizer.grammar = grammar → work.trace = {} →
      work.Visits registry steps host scan trace → host.TakesRule scan trace rule regex place →
      host.matchStart scan place = host.shift + scan.position) ∧
    ¬ ∀ (settings : Settings) (name key : String) (subject : Subject) (regex : Regex)
      (negated : Bool) (text : Text) (place : Regex.Match),
      Guard.compile settings name key = .ok (.test subject (.regex regex) negated) →
      regex.find? text = some place → (place.captures text).headD [] = text := by
  constructor
  · intro begins
    obtain ⟨grammar, compiles, stands⟩ := exists_standsApart
    obtain ⟨found, finds, apart⟩ := (Option.any_eq_true _ _).1 stands
    rw [Bool.and_eq_true, bne_iff_ne, Bool.not_eq_true'] at apart
    obtain ⟨visits, rule, regex, place, takes, same⟩ :=
      exists_takesRule_of_pairFound? finds apart.1
    have start := begins _ grammar none 8 _ _ _ _ rule regex place compiles rfl rfl visits takes
    have offset : place.offset (pairJob grammar).host.text = 0 := by
      unfold HostLine.matchStart at start
      rw [show (pairJob grammar).start.position = 0 from rfl, Text.drop?_zero] at start
      exact Nat.add_left_cancel start
    have taken := Regex.captures_of_offset offset
    rw [same _ (Text.drop?_zero _)] at apart
    exact Bool.false_ne_true (apart.2.symm.trans (List.isPrefixOf_iff_prefix.2 taken))
  · intro whole
    have checked : takesPart "~a)|(?:b" ['a', 'b'] = true := by decide +kernel
    unfold takesPart at checked
    split at checked
    · next subject regex negated made =>
      obtain ⟨place, found, differs⟩ := (Option.any_eq_true _ _).1 checked
      exact bne_iff_ne.1 differs (whole _ _ _ subject regex negated _ place made found)
    · cases checked

end LineLexer
