import LineLexer.Proofs.Agreement

/-!
**Which rule is taken.**

The rules of a state are tried in order, each with the regular expression that its pattern has in
the state, and the first one that matches is taken. From sound memories that regular expression is
the one that the pattern is compiled to afresh.

* `Tokenizer.Picks`: the first of several rules that matches;
* `Tokenizer.picks_of_firstMatch`, `Tokenizer.picks_of_findAt`: what is found is what that rule
  finds, or a character that no rule matches;
* `Tokenizer.fresh_of_anchored`: the regular expression of a rule.
-/

namespace LineLexer

open Scanning

/-- What a rule finds with a match in a text. -/
def Rule.found (rule : Rule) (place : Regex.Match) (rest : Text) : Found where
  rule := rule.name
  captures := place.captures rest
  matched := (place.captures rest).headD []
  action := rule.action

namespace Tokenizer

variable {tokenizer : Tokenizer} {state : String} {atStart : Bool} {rest text : Text}
  {rules : List Rule} {found : Found} {picked : Option Found} {trace later : Trace}
  {built : Rule → Regex → Prop} {good : Trace → Prop} {position : Nat}

/-- What the first of several rules finds that matches a text, each with a regular expression that
is `built` for it. A rule for the start of lines is passed over elsewhere. -/
inductive Picks (built : Rule → Regex → Prop) (atStart : Bool) (rest : Text) :
    List Rule → Option Found → Prop where
  | none : Picks built atStart rest [] .none
  | elsewhere {rule : Rule} {rules : List Rule} {found : Option Found}
      (bound : (rule.atLineStart && !atStart) = true)
      (follows : Picks built atStart rest rules found) :
      Picks built atStart rest (rule :: rules) found
  | misses {rule : Rule} {rules : List Rule} {found : Option Found} {regex : Regex}
      (free : (rule.atLineStart && !atStart) = false) (own : built rule regex)
      (fails : regex.find? rest = .none) (follows : Picks built atStart rest rules found) :
      Picks built atStart rest (rule :: rules) found
  | takes {rule : Rule} {rules : List Rule} {regex : Regex} {place : Regex.Match}
      (free : (rule.atLineStart && !atStart) = false) (own : built rule regex)
      (fits : regex.find? rest = some place) :
      Picks built atStart rest (rule :: rules) (some (rule.found place rest))

/-- What is picked is what one of the rules finds. -/
theorem Picks.exists_rule (picks : Picks built atStart rest rules (some found)) :
    ∃ rule ∈ rules, ∃ regex place, built rule regex ∧ regex.find? rest = some place ∧
      found = rule.found place rest := by
  generalize same : some found = picked at picks
  induction picks with
  | none => cases same
  | elsewhere bound follows step =>
    obtain ⟨rule, listed, finds⟩ := step same
    exact ⟨rule, List.mem_cons_of_mem _ listed, finds⟩
  | misses free own fails follows step =>
    obtain ⟨rule, listed, finds⟩ := step same
    exact ⟨rule, List.mem_cons_of_mem _ listed, finds⟩
  | @takes rule rules regex place free own fits =>
    cases same
    exact ⟨rule, List.mem_cons_self, regex, place, own, fits, rfl⟩

/-- The first rule that matches is taken. -/
theorem picks_of_firstMatch
    (anchors : ∀ {rule regex trace later}, good trace →
      outcome (tokenizer.anchored state rule) trace = (.ok regex, later) →
        built rule regex ∧ good later)
    (holds : good trace)
    (done : outcome (tokenizer.firstMatch state atStart rest rules) trace = (.ok picked, later)) :
    Picks built atStart rest rules picked := by
  induction rules generalizing trace with
  | nil =>
    cases done
    exact .none
  | cons rule rules step =>
    unfold firstMatch at done
    split at done
    · next bound => exact .elsewhere bound (step holds done)
    · next free =>
      have allowed : (rule.atLineStart && !atStart) = false := by simpa using free
      obtain ⟨regex, middle, anchoring, tried⟩ := outcome_bind_eq_ok.1 done
      obtain ⟨own, kept⟩ := anchors holds anchoring
      split at tried
      · next place fits =>
        cases tried
        exact .takes allowed own fits
      · next fails => exact .misses allowed own fails (step kept tried)

/-- What matches at a position is what the first rule finds that matches, or a character that none
does. -/
theorem picks_of_findAt
    (anchors : ∀ {rule regex trace later}, good trace →
      outcome (tokenizer.anchored state rule) trace = (.ok regex, later) →
        built rule regex ∧ good later)
    (holds : good trace)
    (done : outcome (tokenizer.findAt text position state) trace = (.ok found, later)) :
    ∃ rules rest picked, tokenizer.grammar.findRules? state = some rules ∧
      text.drop? position = some rest ∧ Picks built (position == 0) rest rules picked ∧
      found = picked.getD (tokenizer.fallback rest) := by
  unfold findAt at done
  split at done
  · cases done
  · next rules holding =>
    obtain ⟨rest, _, cutting, searched⟩ := outcome_bind_eq_ok.1 done
    obtain ⟨cuts, rfl⟩ := outcome_cut_eq_ok.1 cutting
    obtain ⟨picked, _, matching, chosen⟩ := outcome_bind_eq_ok.1 searched
    cases chosen
    exact ⟨rules, rest, picked, holding, cuts, picks_of_firstMatch anchors holds matching, rfl⟩

/-- The regular expression that a rule's pattern is compiled to in a state. -/
def IsFresh (tokenizer : Tokenizer) (state : String) (rule : Rule) (regex : Regex) : Prop :=
  rule.pattern.fresh tokenizer.grammar.settings state = .ok regex

/-- From sound memories a rule has the regular expression that its pattern is compiled to. -/
theorem fresh_of_anchored {tokenizers : Set Tokenizer}
    (injective : tokenizers.InjOn identity) (known : tokenizer ∈ tokenizers) {rule : Rule}
    {regex : Regex} (sound : trace.memories.Sound tokenizers)
    (done : outcome (tokenizer.anchored state rule) trace = (.ok regex, later)) :
    tokenizer.IsFresh state rule regex ∧ later.memories.Sound tokenizers := by
  have self : Agree tokenizers True True Eq (tokenizer.anchored state rule)
      (tokenizer.anchored state rule) := agree_anchored injective known state rule
  refine ⟨?_, self.sound sound done⟩
  obtain ⟨result, middle, remembering, settling⟩ := outcome_bind_eq_ok.1 done
  have compiled : Pattern.MemoSound tokenizer.grammar.settings rule.pattern.source
      ((trace.memories.read tokenizer.identity).memos.get? rule.pattern.source) :=
    fun state regex kept => sound tokenizer known _ state regex kept
  rw [outcome_remember] at remembering
  cases remembering
  unfold IsFresh
  rw [← (Pattern.anchored_of_memoSound compiled).1]
  exact mapError_eq_ok.1 (outcome_settle_eq_ok.1 settling).1

end Tokenizer

end LineLexer
