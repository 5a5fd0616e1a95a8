import LineLexer.Proofs.Expansion

/-!
**What tolerance leaves out.**

A compilation with tolerance gives a grammar unless nothing at all can be made of the description.
Each item of a state is then kept or left out by itself: a rule that can be compiled is kept, even
where one of its targets is not declared, an include is spliced in unless it is refused, and nothing
else is kept. The same holds of brackets.

* `Problem.OfTarget`, `Elsewhere`: problems of targets, and computations that have others only;
* `Compiling.NotesTargets`: compilations that tolerate problems of targets and no others, with one
  lemma for each operation;
* `Description.notesTargets_compileRule`: all that is tolerated inside a rule is a target;
* `Description.keptBrackets`, `result_compileBrackets`: the brackets that are kept;
* `Grammar.tolerant_compile`: what is kept of a description.
-/

namespace LineLexer

/-- A problem is that a target of a rule is not declared. -/
inductive Problem.OfTarget : Problem → Prop
  | undefinedState (state rule : String) : OfTarget (.undefinedState state rule)

/-! ### Problems of other kinds -/

section Elsewhere

variable {Result Other : Type}

/-- A computation does not end with a problem of a target. -/
def Elsewhere (value : Except Problem Result) : Prop :=
  ∀ problem, value = .error problem → ¬ problem.OfTarget

theorem elsewhere_ok (result : Result) : Elsewhere (.ok result : Except Problem Result) := nofun

theorem elsewhere_error {problem : Problem} (other : ¬ problem.OfTarget) :
    Elsewhere (.error problem : Except Problem Result) := by
  intro ends same
  cases same
  exact other

theorem elsewhere_bind {first : Except Problem Other} {next : Other → Except Problem Result}
    (one : Elsewhere first) (each : ∀ other, Elsewhere (next other)) :
    Elsewhere (first >>= next) := by
  cases first with
  | error problem =>
    intro other same
    cases same
    exact one problem rfl
  | ok other => exact each other

theorem elsewhere_map {first : Except Problem Other} (one : Elsewhere first)
    (change : Other → Result) : Elsewhere (first.map change) := by
  cases first with
  | error problem =>
    intro other same
    cases same
    exact one problem rfl
  | ok other => exact elsewhere_ok _

theorem elsewhere_spliceAttribute (settings : Settings) (pattern name : Text) :
    Elsewhere (Pattern.spliceAttribute settings pattern name) := by
  unfold Pattern.spliceAttribute
  dsimp only
  split
  · exact elsewhere_error nofun
  · split
    · exact elsewhere_error nofun
    · split
      · exact elsewhere_ok _
      · exact elsewhere_ok _

theorem elsewhere_expandOnce (settings : Settings) (pattern : Text) (steps : Nat) (text : Text) :
    Elsewhere (Pattern.expandOnce settings pattern steps text) := by
  induction steps generalizing text with
  | zero => exact elsewhere_ok _
  | succ steps step =>
    cases text with
    | nil => exact elsewhere_ok _
    | cons letter rest =>
      unfold Pattern.expandOnce
      split
      · split
        · exact elsewhere_map (step _) _
        · refine elsewhere_bind (elsewhere_spliceAttribute settings pattern _) fun spliced => ?_
          exact elsewhere_bind (step _) fun found => elsewhere_ok _
      · exact elsewhere_map (step _) _

theorem elsewhere_expand (settings : Settings) (pattern : String) :
    Elsewhere (Pattern.expand settings pattern) := by
  have rounds : ∀ rounds text, Elsewhere (Pattern.expandRounds settings rounds text) := by
    intro rounds
    induction rounds with
    | zero => exact fun text => elsewhere_ok _
    | succ rounds step =>
      intro text
      refine elsewhere_bind (elsewhere_expandOnce settings text _ text) fun expanded => ?_
      dsimp only
      split
      · exact step _
      · exact elsewhere_ok _
  exact elsewhere_bind (rounds _ _) fun expanded => elsewhere_ok _

theorem elsewhere_regexOf (settings : Settings) (pattern : String) :
    Elsewhere (Pattern.regexOf settings pattern) := by
  unfold Pattern.regexOf
  split
  · exact elsewhere_ok _
  · exact elsewhere_error nofun

theorem elsewhere_pattern (settings : Settings) (body : String) (searched : Bool) :
    Elsewhere (Pattern.compile settings body searched) := by
  refine elsewhere_bind (elsewhere_expand settings body) fun source => ?_
  split
  · exact elsewhere_ok _
  · refine elsewhere_bind (elsewhere_regexOf settings _) fun anchored => ?_
    split
    · exact elsewhere_bind (elsewhere_regexOf settings _) fun search => elsewhere_ok _
    · exact elsewhere_ok _

theorem elsewhere_guard (settings : Settings) (rule key : String) :
    Elsewhere (Guard.compile settings rule key) := by
  have test : ∀ operator operand,
      Elsewhere (Guard.compileTest settings rule operator operand) := by
    intro operator operand
    unfold Guard.compileTest
    cases operator with
    | member =>
      dsimp only
      split
      · exact elsewhere_error nofun
      · split
        · exact elsewhere_error nofun
        · exact elsewhere_ok _
    | matching =>
      dsimp only
      split
      · exact elsewhere_ok _
      · split
        · exact elsewhere_ok _
        · refine elsewhere_bind (elsewhere_expand settings _) fun expanded => ?_
          exact elsewhere_bind (elsewhere_regexOf settings _) fun regex => elsewhere_ok _
    | equal =>
      dsimp only
      split
      · exact elsewhere_ok _
      · exact elsewhere_ok _
  unfold Guard.compile
  split
  · exact elsewhere_ok _
  · split
    · exact elsewhere_ok _
    · exact elsewhere_map (test _ _) _

theorem elsewhere_readRule (place : String) (value : Json) :
    Elsewhere (Description.readRule place value) := by
  have action : ∀ items, Elsewhere (Description.positionalAction place items) := by
    intro items
    unfold Description.positionalAction
    split
    · exact elsewhere_ok _
    · exact elsewhere_ok _
    · exact elsewhere_ok _
    · exact elsewhere_ok _
    · exact elsewhere_error nofun
  unfold Description.readRule
  split
  · split
    · exact elsewhere_error nofun
    · split
      · exact elsewhere_map (action _) _
      · exact elsewhere_error nofun
  · dsimp only
    split
    · exact elsewhere_ok _
    · exact elsewhere_error nofun
    · exact elsewhere_error nofun
  · exact elsewhere_error nofun

end Elsewhere

/-! ### Kinds of notes -/

namespace Compiling

variable {Result Other : Type}

/-- A compilation only adds to its notes. It notes nothing but problems of targets, and it does not
end with one. -/
structure NotesTargets (part : Compiling Result) : Prop where
  plain : Plain part
  noted : ∀ problem ∈ part.notes.tolerated, problem.OfTarget
  elsewhere : Elsewhere part.result

theorem notesTargets_pure (result : Result) : NotesTargets (pure result) :=
  ⟨plain_pure result, List.forall_mem_nil _, elsewhere_ok result⟩

theorem notesTargets_throw {problem : Problem} (other : ¬ problem.OfTarget) :
    NotesTargets (throw problem : Compiling Result) :=
  ⟨plain_throw problem, List.forall_mem_nil _, elsewhere_error other⟩

theorem notesTargets_liftM {value : Except Problem Result} (other : Elsewhere value) :
    NotesTargets (liftM value : Compiling Result) := by
  cases value with
  | error problem => exact notesTargets_throw (other problem rfl)
  | ok result => exact notesTargets_pure result

theorem notesTargets_bind {first : Compiling Other} {next : Other → Compiling Result}
    (one : NotesTargets first) (each : ∀ other, NotesTargets (next other)) :
    NotesTargets (first >>= next) := by
  refine ⟨plain_bind one.plain fun other => (each other).plain, ?_, ?_⟩
  · intro problem noted
    cases ends : first.result with
    | error other =>
      rw [notes_bind_of_error ends] at noted
      exact one.noted problem noted
    | ok other =>
      rw [notes_bind_of_ok (fun other => (each other).plain) ends] at noted
      rcases List.mem_append.1 noted with later | before
      · exact (each other).noted problem later
      · exact one.noted problem before
  · rw [result_bind one.plain fun other => (each other).plain]
    exact elsewhere_bind one.elsewhere fun other => (each other).elsewhere

theorem notesTargets_map {first : Compiling Other} (one : NotesTargets first)
    (change : Other → Result) : NotesTargets (change <$> first) := by
  rw [map_eq_pure_bind]
  exact notesTargets_bind one fun other => notesTargets_pure _

theorem notesTargets_mapM {compile : Other → Compiling Result}
    (each : ∀ value, NotesTargets (compile value)) (values : List Other) :
    NotesTargets (values.mapM compile) := by
  induction values with
  | nil => exact notesTargets_pure []
  | cons value values step =>
    rw [List.mapM_cons]
    exact notesTargets_bind (each value) fun result =>
      notesTargets_bind step fun results => notesTargets_pure _

end Compiling

namespace Description

open Compiling

variable {description : Description}

/-! ### Rules -/

theorem notesTargets_checkTarget (description : Description) (rule target : String) :
    NotesTargets (description.tolerantly.checkTarget rule target) := by
  have plain := (tolerates_checkTarget description rule target).plain
  unfold checkTarget at plain ⊢
  dsimp only at plain ⊢
  split
  · exact notesTargets_pure ()
  · next undeclared =>
    rw [if_neg undeclared] at plain
    refine ⟨plain, ?_, elsewhere_ok ()⟩
    exact List.forall_mem_singleton.2 (.undefinedState target rule)

theorem notesTargets_compileNextAttribute (description : Description) (rule : String)
    (value : Option Json) :
    NotesTargets (description.tolerantly.compileNextAttribute rule value) := by
  unfold compileNextAttribute
  split
  · exact notesTargets_pure _
  · exact notesTargets_pure _
  · exact notesTargets_pure _
  · refine notesTargets_map ?_ some
    unfold compileNext
    split
    · exact notesTargets_pure _
    · split
      · exact notesTargets_pure _
      · split
        · exact notesTargets_pure _
        · exact notesTargets_bind (notesTargets_checkTarget description rule _) fun _ =>
            notesTargets_pure _
  · exact notesTargets_throw nofun

theorem notesTargets_compileSwitch (description : Description) (rule : String)
    (value : Option Json) :
    NotesTargets (description.tolerantly.compileSwitch rule value) := by
  unfold compileSwitch
  split
  · exact notesTargets_pure _
  · exact notesTargets_bind (notesTargets_checkTarget description rule _) fun _ =>
      notesTargets_pure _

theorem notesTargets_compileSide (rule : String) (value : Option Json) :
    NotesTargets (compileSide rule value) := by
  unfold compileSide
  split
  · exact notesTargets_pure _
  · exact notesTargets_pure _
  · exact notesTargets_pure _
  · exact notesTargets_throw nofun

theorem notesTargets_compileEmbedding (value : Option Json) :
    NotesTargets (compileEmbedding value) := by
  refine ⟨(tolerates_compileEmbedding value).plain, ?_, ?_⟩
  · unfold compileEmbedding
    split
    · exact List.forall_mem_nil _
    · exact List.forall_mem_nil _
  · unfold compileEmbedding
    split
    · exact elsewhere_ok _
    · exact elsewhere_ok _

theorem notesTargets_compileToken (description : Description) (rule token : String)
    (members : Json.Members) :
    NotesTargets (description.tolerantly.compileToken rule token members) := by
  unfold compileToken
  refine notesTargets_bind (notesTargets_compileSide rule _) fun side => ?_
  refine notesTargets_bind (notesTargets_compileNextAttribute description rule _) fun next => ?_
  refine notesTargets_bind (notesTargets_compileSwitch description rule _) fun switchTo => ?_
  exact notesTargets_bind (notesTargets_compileEmbedding _) fun embedding => notesTargets_pure _

theorem notesTargets_compileBranches (settings : Settings) (rule : String)
    {compileTarget : Json → Compiling Action}
    (each : ∀ value, NotesTargets (compileTarget value)) (members : Json.Members) :
    NotesTargets (compileBranches settings rule compileTarget members) := by
  induction members with
  | nil => exact notesTargets_pure _
  | cons member members step =>
    obtain ⟨key, value⟩ := member
    unfold compileBranches
    refine notesTargets_bind (each value) fun target => ?_
    refine notesTargets_bind (notesTargets_liftM (elsewhere_guard _ _ _)) fun guard => ?_
    exact notesTargets_bind step fun branches => notesTargets_pure _

theorem notesTargets_compileWithin (description : Description) (rule : String) (depth : Nat)
    (value : Json) :
    NotesTargets (description.tolerantly.compileWithin rule depth value) := by
  induction depth generalizing value with
  | zero => exact notesTargets_throw (by rintro ⟨⟩)
  | succ depth step =>
    unfold compileWithin
    split
    · exact notesTargets_pure _
    · exact notesTargets_pure _
    · exact notesTargets_throw (by rintro ⟨⟩)
    · exact notesTargets_map (notesTargets_mapM step _) Action.group
    · split
      · exact notesTargets_map (notesTargets_compileToken description rule _ _) Action.token
      · exact notesTargets_throw (by rintro ⟨⟩)
      · exact notesTargets_bind (notesTargets_compileBranches _ rule step _) fun branches =>
          notesTargets_pure _
      · exact notesTargets_throw (by rintro ⟨⟩)
      · split
        · exact notesTargets_map (notesTargets_compileToken description rule _ _) Action.token
        · exact notesTargets_throw (by rintro ⟨⟩)
    · exact notesTargets_throw (by rintro ⟨⟩)

/-- All that is tolerated inside a rule is that its targets are not declared. -/
theorem notesTargets_compileRule (description : Description) (place : String) (value : Json) :
    NotesTargets (description.tolerantly.compileRule place value) := by
  unfold compileRule
  refine notesTargets_bind (notesTargets_liftM (elsewhere_readRule _ _)) fun raw => ?_
  refine notesTargets_bind (notesTargets_compileWithin description _ _ _) fun action => ?_
  exact notesTargets_bind (notesTargets_liftM (elsewhere_pattern _ _ _)) fun pattern =>
    notesTargets_pure _

/-- A rule comes to the same without tolerance, unless a target is not declared. -/
theorem result_strictly_compileRule (description : Description) (place : String) (value : Json) :
    (description.strictly.compileRule place value).result =
        (description.tolerantly.compileRule place value).result ∨
      ∃ problem, problem.OfTarget ∧
        (description.strictly.compileRule place value).result = .error problem := by
  have tolerates := tolerates_compileRule description place value
  have noted := (notesTargets_compileRule description place value).noted
  cases first : (description.tolerantly.compileRule place value).notes.tolerated.getLast? with
  | none => exact .inl (tolerates.agrees (List.getLast?_eq_none_iff.1 first)).1
  | some problem =>
    exact .inr ⟨problem, noted problem (List.mem_of_getLast? first), tolerates.fails problem first⟩

/-! ### States -/

/-- With tolerance a declared state has exactly the rules that its items become. -/
theorem expands_iff_of_expandState (tolerant : description.tolerant = true)
    {member : String × Json} (present : member ∈ description.states) {compiled : List Rule}
    (ends : (description.expandState member).result = .ok compiled) (rules : List Rule) :
    description.Expands ("tokenizer." ++ member.1) [member.1] (member.2.asArray?.getD []) rules ↔
      rules = compiled := by
  have enough := statesOff_singleton_lt present
  obtain ⟨items, asArray, expands⟩ := (result_expand_iff enough).1 ends
  rw [itemsOf?, if_pos tolerant] at asArray
  cases asArray
  constructor
  · intro expandsToo
    exact expandsToo.unique expands
  · rintro rfl
    exact expands

/-- With tolerance nothing ends the compilation of the states. -/
theorem exists_result_compileStates (description : Description)
    (tolerant : description.tolerant = true) (states : Json.Members) :
    ∃ compiled, (description.compileStates states).result = .ok compiled := by
  induction states with
  | nil => exact ⟨[], rfl⟩
  | cons state states step =>
    obtain ⟨later, rest⟩ := step
    obtain ⟨compiled, ends⟩ := exists_result_expand tolerant description.states.length
      ("tokenizer." ++ state.1) [state.1] state.2
    refine ⟨(state.1, compiled) :: later, ?_⟩
    rw [result_compileStates_cons, expandState, ends, rest]
    rfl

/-! ### Brackets -/

/-- The bracket that a value describes, if it is one: three texts, the first two of them different.
-/
def keptBracket? (settings : Settings) (postfixText : String) (value : Json) : Option Bracket :=
  match bracketParts? value with
  | some (some opening, some closing, some token) =>
    if opening = closing then none else some (bracket settings postfixText opening closing token)
  | _ => none

theorem toOption_compileBracket (description : Description) (postfixText : String) (value : Json) :
    (description.compileBracket postfixText value).toOption =
      keptBracket? description.settings postfixText value := by
  unfold compileBracket keptBracket?
  rcases bracketParts? value with _ | ⟨_ | opening, _ | closing, token⟩
  · rfl
  · rfl
  · rfl
  · rfl
  · dsimp only
    by_cases identical : opening = closing
    · rw [if_pos identical]
      cases token with
      | none => rfl
      | some token =>
        dsimp only
        rw [if_pos identical]
        rfl
    · rw [if_neg identical]
      cases token with
      | none => rfl
      | some token =>
        dsimp only
        rw [if_neg identical]
        rfl

/-- The brackets that are kept of a description: those of the default table where there is no other
one, and otherwise all that are brackets, in order. -/
def keptBrackets (description : Description) (postfixText : String) : List Bracket :=
  match description.settings.attributes.get? "brackets" with
  | none | some .null =>
    defaultBrackets.map fun (opening, closing, token) =>
      bracket description.settings postfixText opening closing token
  | some (.array values) => values.filterMap (keptBracket? description.settings postfixText)
  | some _ => []

theorem result_collectBrackets (description : Description) (postfixText : String)
    (values : List Json) :
    (description.tolerantly.collectBrackets postfixText values).result =
      .ok (values.filterMap (keptBracket? description.settings postfixText)) := by
  induction values with
  | nil => rfl
  | cons value values step =>
    have later : Plain (description.tolerantly.collectBrackets postfixText values) :=
      (tolerates_collectBrackets description postfixText values).plain
    have one : Tolerates (([·]) <$> liftM (description.compileBracket postfixText value))
        (([·]) <$> liftM (description.compileBracket postfixText value)) :=
      tolerates_map (tolerates_liftM _) ([·])
    show (description.tolerantly.tolerating
        (([·]) <$> liftM (description.compileBracket postfixText value)) >>= fun found =>
      description.tolerantly.collectBrackets postfixText values >>= fun later =>
        pure (found ++ later)).result = _
    rw [result_bind (tolerates_tolerating description one).plain fun found =>
        plain_bind later fun brackets => plain_pure _,
      result_tolerating, result_map (plain_liftM _), result_liftM]
    show (description.tolerantly.collectBrackets postfixText values >>= fun later =>
      pure (_ ++ later)).result = _
    rw [result_bind later fun brackets => plain_pure _, step, List.filterMap_cons,
      ← toOption_compileBracket]
    cases description.compileBracket postfixText value <;> rfl

theorem result_compileBrackets (tolerant : description.tolerant = true) (postfixText : String) :
    (description.compileBrackets postfixText).result =
      .ok (description.keptBrackets postfixText) := by
  have same : description.tolerantly = description := by
    unfold tolerantly
    rw [← tolerant]
  unfold compileBrackets keptBrackets
  rcases description.settings.attributes.get? "brackets" with _ | value
  · rfl
  · cases value with
    | null => rfl
    | array values =>
      dsimp only
      rw [← same]
      exact result_collectBrackets description postfixText values
    | bool | number | string | object =>
      dsimp only
      rw [tolerate, if_pos tolerant]
      rfl

end Description

/-! ### Descriptions with tolerance -/

namespace Grammar

open Description

variable {language start : String} {value : Json} {attributes states : Json.Members}

/-- What is kept of a description that is compiled with tolerance. -/
structure Keeps (description : Description) (postfixText : String) (grammar : Grammar) : Prop where
  /-- The states are the declared ones, each with exactly what its items become one by one. -/
  states : List.Forall₂ (fun declared made => made.1 = declared.1 ∧ ∀ rules,
    description.Expands ("tokenizer." ++ declared.1) [declared.1] (declared.2.asArray?.getD [])
      rules ↔ rules = made.2) description.states grammar.states
  /-- A rule by itself comes to what it comes to without tolerance, except that its targets need not
  be declared. -/
  alone : ∀ place value,
    ((description.strictly.compileRule place value).result =
        (description.compileRule place value).result ∨
      ∃ problem, problem.OfTarget ∧
        (description.strictly.compileRule place value).result = .error problem) ∧
    Elsewhere (description.compileRule place value).result
  /-- The brackets are those that are brackets. -/
  brackets : grammar.brackets = description.keptBrackets postfixText

theorem keeps_of_compile (usable : Usable value attributes states start) {grammar : Grammar}
    (compiled : (compile language value true).result = .ok grammar) :
    Keeps (describe language true attributes states) (Description.postfixText language attributes)
      grammar := by
  obtain ⟨made, sides⟩ := parts_of_compile usable compiled
  refine ⟨?_, ?_, ?_⟩
  · have pairs := (List.forall₂_and_left _ _).2
      ⟨fun member (present : member ∈ states) => present, forall₂_compileStates made⟩
    refine pairs.imp ?_
    rintro member state ⟨present, same, ends⟩
    exact ⟨same, expands_iff_of_expandState rfl present ends⟩
  · intro place value
    exact ⟨result_strictly_compileRule (describe language true attributes states) place value,
      (notesTargets_compileRule (describe language true attributes states) place value).elsewhere⟩
  · rw [result_compileBrackets rfl] at sides
    exact (Except.ok.inj sides).symm

/-- With tolerance a description that can be used has a grammar. -/
theorem exists_compile_of_usable (language : String)
    (usable : Usable value attributes states start) :
    ∃ grammar, (compile language value true).result = .ok grammar := by
  rw [result_compile_of_usable usable, result_compileParts, result_compileBrackets rfl]
  obtain ⟨compiled, ends⟩ := exists_result_compileStates
    (describe language true attributes states) rfl states
  rw [show (describe language true attributes states).states = states from rfl, ends]
  exact ⟨_, rfl⟩

/-- A compilation with tolerance fails only where nothing can be made of the description. Where the
description is compiled without tolerance, the grammar is the same and nothing is tolerated. And in
any case each item of a state and each bracket is kept or left out by itself. -/
theorem tolerant_compile (language : String) (value : Json) :
    (∀ error, (compile language value true).result = .error error ↔
      ∃ problem, Unusable value problem ∧ error = { language, problem }) ∧
    (∀ grammar, (compile language value false).result = .ok grammar →
      (compile language value true).result = .ok grammar ∧
        (compile language value true).tolerated = []) ∧
    ∀ attributes states start, Usable value attributes states start →
      ∃ grammar, (compile language value true).result = .ok grammar ∧
        Keeps (describe language true attributes states)
          (Description.postfixText language attributes) grammar := by
  refine ⟨?_, ?_, ?_⟩
  · intro error
    constructor
    · intro fails
      rcases usable_or_unusable value with ⟨attributes, states, start, usable⟩ | unusable
      · obtain ⟨grammar, compiled⟩ := exists_compile_of_usable language usable
        rw [fails] at compiled
        cases compiled
      · obtain ⟨problem, unusable⟩ := unusable
        rw [compile_of_unusable unusable] at fails
        cases fails
        exact ⟨problem, unusable, rfl⟩
    · rintro ⟨problem, unusable, rfl⟩
      rw [compile_of_unusable unusable]
  · intro grammar compiled
    rw [result_strict_eq] at compiled
    cases first : (compile language value true).tolerated.head? with
    | none =>
      rw [first] at compiled
      exact ⟨compiled, List.head?_eq_none_iff.1 first⟩
    | some problem =>
      rw [first] at compiled
      cases compiled
  · intro attributes states start usable
    obtain ⟨grammar, compiled⟩ := exists_compile_of_usable language usable
    exact ⟨grammar, compiled, keeps_of_compile usable compiled⟩

/-- States with rules that can be kept and others that cannot. -/
def faultyStates : Json.Members := [
  ("root", .array [
    .object [("include", .string "nowhere")],
    .object [("include", .string "@other")],
    .array [.string "(", .string "letter"],
    .array [.string "a", .string "letter", .string "missing"],
    .bool true]),
  ("other", .array [
    .object [("include", .string "root")],
    .array [.string "b", .string "letter"]])]

/-- Brackets the first of which is one. -/
def faultyBrackets : Json := .array [
  .array [.string "<", .string ">", .string "angle"],
  .array [.string "|", .string "|", .string "bar"],
  .string "()"]

/-- The attributes of a description with problems in its states and brackets. -/
def faultyAttributes : Json.Members :=
  [("tokenizer", .object faultyStates), ("brackets", faultyBrackets)]

/-- Of the faulty description the rules and brackets with nothing wrong are kept, and the rule whose
target is not declared. -/
theorem tolerant_compile_faulty :
    ∃ grammar, (compile "toy" (.object faultyAttributes) true).result = .ok grammar ∧
      (grammar.rules? "root").map (·.map (·.pattern.source)) = some ["b", "a"] ∧
      (grammar.rules? "other").map (·.map (·.pattern.source)) = some ["a", "b"] ∧
      grammar.brackets = [{ token := "angle.toy", opening := "<", closing := ">" }] := by
  obtain ⟨grammar, compiled, keeps⟩ := (tolerant_compile "toy" (.object faultyAttributes)).2.2
    faultyAttributes faultyStates "root" ⟨rfl, rfl, rfl⟩
  obtain ⟨other, same, passes⟩ :=
    exists_of_compiles (compile "toy" (.object faultyAttributes) true)
      (fun grammar => (grammar.rules? "root").map (·.map (·.pattern.source)) == some ["b", "a"] &&
        (grammar.rules? "other").map (·.map (·.pattern.source)) == some ["a", "b"])
      (by decide +kernel)
  rw [compiled] at same
  cases same
  rw [Bool.and_eq_true, beq_iff_eq, beq_iff_eq] at passes
  refine ⟨grammar, compiled, passes.1, passes.2, ?_⟩
  rw [keeps.brackets]
  decide +kernel

end Grammar

end LineLexer
