import LineLexer.Proofs.Actions

/-!
**What a compilation that tolerates no problems settles.**

A target of an action that depends on no match is checked against the declared states. So a grammar
that has been compiled without tolerance has no such target in which no rules hold, in whatever
group or branch the action stands, and its start state is one of the declared states.

* `Compiling.Yields`: what holds of the results of a compilation, with one lemma for each operation;
* `Description.Refuses`, `yields_compileRule`: what no token that is compiled has, none inside the
  action of a rule has, in whatever group or branch;
* `TokenAction.dangles`: whether a target of a token action depends on no match and has no rules;
* `Description.refuses_dangling`, `yields_expand`: no action that is compiled has such a target;
* `Grammar.stateExists_eq_declares`: the compiled states are the declared ones;
* `Grammar.settled_of_compile`: what holds of a compiled grammar.
-/

namespace LineLexer

/-! ### What holds of results -/

namespace Compiling

variable {Result Other : Type} {holds : Result → Prop}

/-- Every result of a compilation has a property. -/
def Yields (part : Compiling Result) (holds : Result → Prop) : Prop :=
  ∀ progress result later, part.run.run progress = (.ok result, later) → holds result

theorem yields_pure {result : Result} (established : holds result) :
    Yields (pure result) holds := by
  intro progress other later done
  cases done
  exact established

theorem yields_throw (problem : Problem) : Yields (throw problem : Compiling Result) holds := by
  intro progress other later done
  cases done

theorem Yields.mono {part : Compiling Result} {weaker : Result → Prop} (yields : Yields part holds)
    (implies : ∀ result, holds result → weaker result) : Yields part weaker :=
  fun progress result later done => implies result (yields progress result later done)

/-- Nothing is asked of the results. -/
theorem yields_trivial (part : Compiling Result) : Yields part fun _ => True :=
  fun _ _ _ _ => trivial

theorem run_bind (part : Compiling Other) (next : Other → Compiling Result) (progress : Progress) :
    (part >>= next).run.run progress =
      match part.run.run progress with
      | (.ok result, later) => (next result).run.run later
      | (.error problem, later) => (.error problem, later) := by
  show (ExceptT.bind part next).run.run progress = _
  simp only [ExceptT.bind, ExceptT.run, ExceptT.mk, StateT.run, bind, StateT.bind]
  rcases part progress with ⟨_ | _, _⟩ <;> rfl

/-- The results of two parts are those of the second one behind a result of the first one. -/
theorem yields_bind {part : Compiling Other} {next : Other → Compiling Result}
    {middle : Other → Prop} (first : Yields part middle)
    (second : ∀ other, middle other → Yields (next other) holds) :
    Yields (part >>= next) holds := by
  intro progress result later done
  rw [run_bind] at done
  rcases ends : part.run.run progress with ⟨_ | other, between⟩
  · rw [ends] at done
    cases done
  · rw [ends] at done
    exact second other (first progress other between ends) between result later done

/-- Nothing is known of the first of two parts. -/
theorem yields_then {part : Compiling Other} {next : Other → Compiling Result}
    (second : ∀ other, Yields (next other) holds) : Yields (part >>= next) holds :=
  yields_bind (yields_trivial part) fun other _ => second other

theorem yields_map {part : Compiling Other} {change : Other → Result} {before : Other → Prop}
    (yields : Yields part before) (kept : ∀ other, before other → holds (change other)) :
    Yields (change <$> part) holds := by
  rw [map_eq_pure_bind]
  exact yields_bind yields fun other fits => yields_pure (kept other fits)

theorem yields_liftM {result : Except Problem Result}
    (established : ∀ value, result = .ok value → holds value) :
    Yields (liftM result) holds := by
  cases result with
  | error problem => exact yields_throw problem
  | ok value => exact yields_pure (established value rfl)

theorem run_tryCatch (part : Compiling Result) (handle : Problem → Compiling Result)
    (progress : Progress) :
    (tryCatch part handle : Compiling Result).run.run progress =
      match part.run.run progress with
      | (.ok result, later) => (.ok result, later)
      | (.error problem, later) => (handle problem).run.run later := by
  show (ExceptT.tryCatch part handle).run.run progress = _
  simp only [ExceptT.tryCatch, ExceptT.run, ExceptT.mk, StateT.run, bind, StateT.bind]
  rcases part progress with ⟨_ | _, _⟩ <;> rfl

/-- The results of a part that is tried are its own or those of what is done about its problem. -/
theorem yields_tryCatch {part : Compiling Result} {handle : Problem → Compiling Result}
    (own : Yields part holds) (handled : ∀ problem, Yields (handle problem) holds) :
    Yields (tryCatch part handle) holds := by
  intro progress result later done
  rw [run_tryCatch] at done
  rcases ends : part.run.run progress with ⟨problem | own, between⟩
  · rw [ends] at done
    exact handled problem between result later done
  · rw [ends] at done
    cases done
    exact own progress result later ends

/-- Each result in a list of results has the property that all of them have. -/
theorem yields_mapM {values : List Other} {compile : Other → Compiling Result}
    (each : ∀ value ∈ values, Yields (compile value) holds) :
    Yields (values.mapM compile) fun results => ∀ result ∈ results, holds result := by
  induction values with
  | nil => exact yields_pure (List.forall_mem_nil _)
  | cons value values step =>
    rw [List.mapM_cons]
    refine yields_bind (each value List.mem_cons_self) fun result fits => ?_
    refine yields_bind (step fun other inside => each other (List.mem_cons_of_mem _ inside))
      fun results rest => yields_pure ?_
    exact List.forall_mem_cons.2 ⟨fits, rest⟩

end Compiling

/-! ### What no token of a rule has -/

namespace Action

variable {property : TokenAction → Bool}

theorem anyTokenOf_eq_false {members : List Action}
    (never : ∀ member ∈ members, member.anyToken property = false) :
    anyTokenOf property members = false := by
  induction members with
  | nil => rfl
  | cons member members step =>
    rw [List.forall_mem_cons] at never
    rw [anyTokenOf, never.1, step never.2]
    rfl

end Action

namespace Description

open Compiling

variable {description : Description}

/-- No token that is compiled has a property: neither one with attributes, nor one alone. -/
structure Refuses (description : Description) (property : TokenAction → Bool) : Prop where
  token : ∀ rule token members,
    Yields (description.compileToken rule token members) fun action => property action = false
  alone : ∀ token, property { token, substitute := token.toList.contains '$' } = false

variable {property : TokenAction → Bool}

/-- No token in the branches of a choice has the property if none in a target of them has. -/
theorem yields_compileBranches (settings : Settings) (rule : String)
    {compileTarget : Json → Compiling Action}
    (each : ∀ value, Yields (compileTarget value) fun action => action.anyToken property = false)
    (members : Json.Members) :
    Yields (compileBranches settings rule compileTarget members) fun branches =>
      Action.anyTokenOfBranches property branches = false := by
  induction members with
  | nil => exact yields_pure rfl
  | cons member members step =>
    obtain ⟨key, value⟩ := member
    unfold compileBranches
    refine yields_bind (each value) fun target without => ?_
    refine yields_then fun guard => ?_
    refine yields_bind step fun branches rest => yields_pure ?_
    rw [Action.anyTokenOfBranches, rest, without]
    rfl

/-- No token inside an action that is compiled has the property, in whatever group or branch it
stands. -/
theorem yields_compileWithin (refuses : description.Refuses property) (rule : String) (depth : Nat)
    (value : Json) :
    Yields (description.compileWithin rule depth value) fun action =>
      action.anyToken property = false := by
  induction depth generalizing value with
  | zero => exact yields_throw _
  | succ depth step =>
    have token : ∀ token members,
        Yields (Action.token <$> description.compileToken rule token members) fun action =>
          action.anyToken property = false := fun token members =>
      yields_map (refuses.token rule token members) fun _ without => without
    unfold compileWithin
    split
    · exact yields_pure (refuses.alone "")
    · exact yields_pure (refuses.alone _)
    · exact yields_throw _
    · exact yields_map (yields_mapM fun item _ => step item) fun members without =>
        Action.anyTokenOf_eq_false without
    · split
      · exact token _ _
      · exact yields_throw _
      · refine yields_bind (yields_compileBranches _ rule step _) fun branches without => ?_
        exact yields_pure without
      · exact yields_throw _
      · split
        · exact token _ _
        · exact yields_throw _
    · exact yields_throw _

theorem yields_compileRule (refuses : description.Refuses property) (place : String)
    (value : Json) :
    Yields (description.compileRule place value) fun rule =>
      rule.action.anyToken property = false := by
  unfold compileRule
  refine yields_then fun raw => ?_
  refine yields_bind (yields_compileWithin refuses _ _ _) fun action without => ?_
  exact yields_then fun pattern => yields_pure without

end Description

/-! ### Targets that depend on no match -/

/-- Whether a target depends on the match or is a name that is known. -/
def settles (known : String → Bool) (target : String) : Bool :=
  target.toList.contains '$' || known target

/-- Whether a target of a token action depends on no match and is no name that is known. -/
def TokenAction.dangles (known : String → Bool) (action : TokenAction) : Bool :=
  (match action.next with
    | some (.goto template) => !settles known template
    | _ => false) ||
  match action.switchTo with
  | some template => !settles known (withoutAtSign template)
  | none => false

/-- A token alone has no target. -/
theorem TokenAction.dangles_plain (known : String → Bool) (token : String) :
    dangles known { token } = false := rfl

/-- No target in an action depends on no match and is no name that is known. -/
def Action.Settled (known : String → Bool) (action : Action) : Prop :=
  action.anyToken (TokenAction.dangles known) = false

/-- The same of rules. -/
def Rule.Settled (known : String → Bool) (rule : Rule) : Prop := rule.action.Settled known

namespace Description

open Compiling

variable {description : Description}

/-- A target that is accepted without tolerance depends on the match or is declared. -/
theorem yields_checkTarget (strict : description.tolerant = false) (rule target : String) :
    Yields (description.checkTarget rule target) fun _ =>
      settles description.declares (withoutAtSign target) = true := by
  unfold checkTarget settles
  dsimp only
  split
  · next accepted => exact yields_pure accepted
  · unfold tolerate
    rw [strict]
    exact yields_throw _

/-- A next state is stored without the at-sign that it may start with, and it is settled. -/
theorem yields_compileNext (strict : description.tolerant = false) (rule next : String) :
    Yields (description.compileNext rule next) fun made => ∀ template, made = .goto template →
      template = withoutAtSign next ∧ settles description.declares template = true := by
  unfold compileNext
  split
  · exact yields_pure nofun
  · split
    · exact yields_pure nofun
    · split
      · exact yields_pure nofun
      · refine yields_bind (yields_checkTarget strict rule next) fun _ settled => yields_pure ?_
        intro template same
        cases same
        exact ⟨rfl, settled⟩

theorem yields_compileNextAttribute (strict : description.tolerant = false) (rule : String)
    (value : Option Json) :
    Yields (description.compileNextAttribute rule value) fun made =>
      ∀ template, made = some (.goto template) → settles description.declares template = true := by
  unfold compileNextAttribute
  split
  · exact yields_pure nofun
  · exact yields_pure nofun
  · exact yields_pure nofun
  · refine yields_map (yields_compileNext strict rule _) fun made settled template same => ?_
    exact (settled template (Option.some.inj same)).2
  · exact yields_throw _

theorem yields_compileSwitch (strict : description.tolerant = false) (rule : String)
    (value : Option Json) :
    Yields (description.compileSwitch rule value) fun made =>
      ∀ template, made = some template →
        settles description.declares (withoutAtSign template) = true := by
  unfold compileSwitch
  split
  · exact yields_pure nofun
  · refine yields_bind (yields_checkTarget strict rule _) fun _ settled => yields_pure ?_
    intro template same
    cases same
    exact settled

/-- No target of a token action that is compiled without tolerance dangles. -/
theorem yields_compileToken (strict : description.tolerant = false) (rule token : String)
    (members : Json.Members) :
    Yields (description.compileToken rule token members) fun action =>
      action.dangles description.declares = false := by
  unfold compileToken
  refine yields_then fun side => ?_
  refine yields_bind (yields_compileNextAttribute strict rule _) fun next settledNext => ?_
  refine yields_bind (yields_compileSwitch strict rule _) fun switchTo settledSwitch => ?_
  refine yields_then fun embedding => yields_pure ?_
  unfold TokenAction.dangles
  dsimp only
  rw [Bool.or_eq_false_iff]
  constructor
  · split
    · rw [settledNext _ rfl]
      rfl
    · rfl
  · split
    · rw [settledSwitch _ rfl]
      rfl
    · rfl

/-- No target dangles in what is compiled without tolerance. -/
theorem refuses_dangling (strict : description.tolerant = false) :
    description.Refuses (TokenAction.dangles description.declares) where
  token := yields_compileToken strict
  alone _ := rfl

/-! ### Rules and states -/

/-- Where a problem of a part is tolerated, the part has no results. -/
theorem yields_tolerating {Result : Type} {holds : Result → Prop} {part : Compiling (List Result)}
    (own : Yields part fun results => ∀ result ∈ results, holds result) :
    Yields (description.tolerating part) fun results => ∀ result ∈ results, holds result :=
  yields_tryCatch own fun _ => yields_then fun _ => yields_pure (List.forall_mem_nil _)

/-- The rules that are collected are settled if the included ones are. -/
theorem yields_collect (strict : description.tolerant = false) (place : String)
    {expandInclude : Json → Compiling (List Rule)}
    (included : ∀ target, Yields (expandInclude target) fun rules =>
      ∀ rule ∈ rules, rule.Settled description.declares) (values : List Json) :
    Yields (description.collect place expandInclude values) fun rules =>
      ∀ rule ∈ rules, rule.Settled description.declares := by
  induction values with
  | nil => exact yields_pure (List.forall_mem_nil _)
  | cons value values step =>
    unfold collect
    refine yields_bind (yields_tolerating (?own : Yields _ fun rules : List Rule =>
      ∀ rule ∈ rules, rule.Settled description.declares)) fun found settled => ?_
    case own =>
      split
      · exact included _
      · exact yields_map (yields_compileRule (refuses_dangling strict) place value)
          fun rule settled => List.forall_mem_singleton.2 settled
    refine yields_bind step fun later rest => yields_pure ?_
    exact List.forall_mem_append.2 ⟨settled, rest⟩

/-- The rules of a state, the included ones among them, are settled. -/
theorem yields_expand (strict : description.tolerant = false) (steps : Nat) (place : String)
    (path : List String) (rules : Json) :
    Yields (description.expand steps place path rules) fun rules =>
      ∀ rule ∈ rules, rule.Settled description.declares := by
  induction steps generalizing place path rules with
  | zero => exact yields_pure (List.forall_mem_nil _)
  | succ steps step =>
    unfold expand
    split
    · exact yields_then fun _ => yields_pure (List.forall_mem_nil _)
    · refine yields_collect strict place (fun target => ?_) _
      split
      · exact yields_throw _
      · dsimp only
        split
        · exact yields_throw _
        · split
          · exact yields_throw _
          · exact step _ _ _

/-- The compiled states have the names of the declared ones, and their rules are settled. -/
theorem yields_compileStates (strict : description.tolerant = false) (states : Json.Members) :
    Yields (description.compileStates states) fun compiled =>
      compiled.map Prod.fst = states.map Prod.fst ∧
        ∀ state ∈ compiled, ∀ rule ∈ state.2, rule.Settled description.declares := by
  induction states with
  | nil => exact yields_pure ⟨rfl, List.forall_mem_nil _⟩
  | cons member states step =>
    obtain ⟨state, rules⟩ := member
    unfold compileStates
    refine yields_bind (yields_expand strict _ _ _ rules) fun compiled settled => ?_
    refine yields_bind step fun later rest => yields_pure ⟨?_, ?_⟩
    · rw [List.map_cons, List.map_cons, rest.1]
    · exact List.forall_mem_cons.2 ⟨settled, rest.2⟩

end Description

/-! ### Grammars -/

/-- A name is looked up with success in lists of the same names. -/
theorem isSome_lookup_of_names {Value Other : Type} {entries : List (String × Value)}
    {others : List (String × Other)} (same : entries.map Prod.fst = others.map Prod.fst)
    (name : String) : (entries.lookup name).isSome = (others.lookup name).isSome := by
  induction entries generalizing others with
  | nil =>
    cases others with
    | nil => rfl
    | cons other others => cases same
  | cons entry entries step =>
    cases others with
    | nil => cases same
    | cons other others =>
      obtain ⟨first, value⟩ := entry
      obtain ⟨otherFirst, otherValue⟩ := other
      rw [List.map_cons, List.map_cons, List.cons.injEq] at same
      obtain ⟨same, rest⟩ := same
      have same : first = otherFirst := same
      subst same
      rw [List.lookup_cons, List.lookup_cons]
      split
      · rfl
      · exact step rest

namespace Grammar

/-- Rules hold in a state of a compiled grammar exactly if it is declared, by itself or by a shorter
form of its name. -/
theorem stateExists_eq_declares {grammar : Grammar} {description : Description}
    (same : grammar.states.map Prod.fst = description.states.map Prod.fst) :
    grammar.stateExists = description.declares := by
  funext state
  unfold stateExists findRules? Description.declares
  rw [List.isSome_findSome?]
  refine congrArg (List.any (lineage state)) (funext fun name => ?_)
  exact isSome_lookup_of_names same name

/-- The forms of a name start with the name itself. -/
theorem mem_lineage {state : String} (named : state ≠ "") : state ∈ lineage state := by
  unfold lineage
  cases letters : state.toList with
  | nil => exact absurd (String.toList_eq_nil_iff.1 letters) named
  | cons letter rest =>
    rw [List.length_cons, lineageWithin, if_neg (List.cons_ne_nil _ _), ← letters,
      String.ofList_toList]
    exact List.mem_cons_self

/-- The start state of a description is one of the declared states. -/
theorem contains_of_startState {attributes states : Json.Members} {start : String}
    (declared : declaredStates attributes = .ok states)
    (starts : startState attributes states = .ok start) : states.contains start = true := by
  unfold startState at starts
  split at starts
  · split at starts
    · next declares =>
      cases starts
      exact declares
    · cases starts
  · cases starts
    unfold declaredStates at declared
    split at declared
    · cases declared
    · cases declared
    · next other nonempty _ =>
      cases declared
      cases states with
      | nil => exact absurd rfl nonempty
      | cons first rest =>
        unfold Json.Members.contains Json.Members.get?
        rw [List.head?_cons, Option.map_some, Option.getD_some, List.lookup_cons, beq_self_eq_true]
        rfl

/-- What holds of a grammar that has been compiled without tolerance: no target that depends on no
match is a state without rules, and the start state has rules unless it has no name. -/
structure Settled (grammar : Grammar) : Prop where
  targets : ∀ action, grammar.HasAction action → action.Settled grammar.stateExists
  start : grammar.start ≠ "" → grammar.stateExists grammar.start = true

theorem settled_of_description {grammar : Grammar} {description : Description}
    (same : grammar.states.map Prod.fst = description.states.map Prod.fst)
    (settled : ∀ state ∈ grammar.states, ∀ rule ∈ state.2, rule.Settled description.declares)
    (declared : description.states.contains grammar.start = true) : grammar.Settled := by
  have exactly := stateExists_eq_declares same
  constructor
  · rintro action (rfl | ⟨state, inStates, rule, inRules, rfl⟩)
    · rfl
    · rw [exactly]
      exact settled state inStates rule inRules
  · intro named
    rw [exactly]
    exact List.any_eq_true.2 ⟨grammar.start, mem_lineage named, declared⟩

open Compiling in
theorem yields_ofDescription (language : String) (value : Json) :
    Yields (ofDescription language false value) Settled := by
  unfold ofDescription
  refine yields_then fun attributes => ?_
  refine yields_bind (yields_liftM fun states declared => declared) fun states declared => ?_
  refine yields_bind (yields_liftM fun start starts => starts) fun start starts => ?_
  dsimp only
  refine yields_bind (Description.yields_compileStates rfl states) fun compiled settled => ?_
  refine yields_then fun brackets => yields_then fun progress => yields_pure ?_
  exact settled_of_description settled.1 settled.2 (contains_of_startState declared starts)

/-- The text of a description is compiled as the description that is read from it. -/
theorem exists_compile_of_compileText {language text : String} {tolerant : Bool}
    {grammar : Grammar} (compiled : (compileText language text tolerant).result = .ok grammar) :
    ∃ value, (compile language value tolerant).result = .ok grammar := by
  unfold compileText at compiled
  split at compiled
  · next value _ => exact ⟨value, compiled⟩
  · cases compiled

/-- A grammar that has been compiled without tolerance is settled. -/
theorem settled_of_compile {language : String} {value : Json} {grammar : Grammar}
    (compiled : (compile language value false).result = .ok grammar) : grammar.Settled := by
  unfold compile at compiled
  rcases ends : (ofDescription language false value).run.run {} with ⟨_ | made, progress⟩
  · rw [ends] at compiled
    cases compiled
  · rw [ends] at compiled
    cases compiled
    exact yields_ofDescription language value {} grammar progress ends

end Grammar

end LineLexer
