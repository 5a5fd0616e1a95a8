import LineLexer.Proofs.Expansion
import Mathlib.Logic.Relation

/-!
**Includes are spliced in where they stand.**

A grammar that is compiled without tolerance has no state that includes itself, directly or through
others. Then the rules of a state are what a depth-first walk of its items finds: a rule is itself,
and an include is the rules of its target, each time that it is included. Where nothing else is
wrong with a description, a cycle of includes is what ends its compilation.

* `Compiling.Alike`: compilations that differ in what their problems say only, with one lemma for
  each operation;
* `Description.alike_compileRule`: what a rule is does not depend on its place;
* `Description.Includes`, `Description.Splices`: the includes of states, and the walk of the items;
* `Expands.not_reaches`, `Expands.splices`: expansions without tolerance have no cycles, and they
  come to what the walk finds;
* `Grammar.includes_flatten`: the same of whole descriptions.
-/

namespace LineLexer

/-! ### Compilations beside each other -/

namespace Compiling

variable {Result Other : Type}

/-- Two compilations come to the same result, or neither comes to any. -/
structure Alike (one other : Compiling Result) : Prop where
  plain : Plain one
  otherPlain : Plain other
  same : one.result.toOption = other.result.toOption

theorem alike_refl {part : Compiling Result} (plain : Plain part) : Alike part part :=
  ⟨plain, plain, rfl⟩

theorem alike_pure (result : Result) : Alike (pure result) (pure result) :=
  alike_refl (plain_pure result)

theorem alike_throw (problem other : Problem) :
    Alike (throw problem : Compiling Result) (throw other) :=
  ⟨plain_throw problem, plain_throw other, rfl⟩

theorem alike_liftM {value other : Except Problem Result}
    (same : value.toOption = other.toOption) :
    Alike (liftM value : Compiling Result) (liftM other) := by
  refine ⟨plain_liftM value, plain_liftM other, ?_⟩
  rw [result_liftM, result_liftM, same]

theorem alike_bind {first second : Compiling Other} {next nextToo : Other → Compiling Result}
    (one : Alike first second) (each : ∀ other, Alike (next other) (nextToo other)) :
    Alike (first >>= next) (second >>= nextToo) := by
  have plains : ∀ other, Plain (next other) := fun other => (each other).plain
  have plainsToo : ∀ other, Plain (nextToo other) := fun other => (each other).otherPlain
  refine ⟨plain_bind one.plain plains, plain_bind one.otherPlain plainsToo, ?_⟩
  rw [result_bind one.plain plains, result_bind one.otherPlain plainsToo]
  have same := one.same
  cases ends : first.result with
  | error problem =>
    cases endsToo : second.result with
    | error other => rfl
    | ok other =>
      rw [ends, endsToo] at same
      cases same
  | ok result =>
    cases endsToo : second.result with
    | error other =>
      rw [ends, endsToo] at same
      cases same
    | ok other =>
      rw [ends, endsToo] at same
      cases same
      exact (each result).same

theorem alike_map {first second : Compiling Other} (one : Alike first second)
    (change : Other → Result) : Alike (change <$> first) (change <$> second) := by
  rw [map_eq_pure_bind, map_eq_pure_bind]
  exact alike_bind one fun other => alike_pure _

theorem alike_mapM {compile other : Other → Compiling Result}
    (each : ∀ value, Alike (compile value) (other value)) (values : List Other) :
    Alike (values.mapM compile) (values.mapM other) := by
  induction values with
  | nil => exact alike_pure []
  | cons value values step =>
    rw [List.mapM_cons, List.mapM_cons]
    exact alike_bind (each value) fun result => alike_bind step fun results => alike_pure _

end Compiling

/-! ### Rules at any place -/

theorem toOption_map {Result Other : Type} (value : Except Problem Other)
    (change : Other → Result) : (value.map change).toOption = value.toOption.map change := by
  cases value <;> rfl

/-- A guard does not depend on what its rule is called. -/
theorem Guard.toOption_compile (settings : Settings) (rule other key : String) :
    (Guard.compile settings rule key).toOption = (Guard.compile settings other key).toOption := by
  have test : ∀ operator operand, (compileTest settings rule operator operand).toOption =
      (compileTest settings other operator operand).toOption := by
    intro operator operand
    unfold compileTest
    cases operator with
    | member =>
      dsimp only
      split
      · rfl
      · split
        · rfl
        · rfl
    | matching => rfl
    | equal => rfl
  unfold Guard.compile
  split
  · rfl
  · split
    · rfl
    · dsimp only
      rw [toOption_map, toOption_map, test]

/-- What a rule is apart from its name. -/
def Rule.content (rule : Rule) : Pattern × Action × Bool :=
  (rule.pattern, rule.action, rule.atLineStart)

namespace Description

open Compiling

variable {description : Description}

theorem alike_tolerate (description : Description) (problem other : Problem) :
    Alike (description.tolerate problem) (description.tolerate other) := by
  rcases strictly_or_tolerantly description with same | same
  · rw [same]
    exact alike_throw problem other
  · rw [same]
    exact ⟨(tolerates_tolerate description problem).plain,
      (tolerates_tolerate description other).plain, rfl⟩

theorem alike_checkTarget (description : Description) (rule other target : String) :
    Alike (description.checkTarget rule target) (description.checkTarget other target) := by
  unfold checkTarget
  dsimp only
  split
  · exact alike_pure ()
  · exact alike_tolerate description _ _

theorem alike_compileNextAttribute (description : Description) (rule other : String)
    (value : Option Json) : Alike (description.compileNextAttribute rule value)
      (description.compileNextAttribute other value) := by
  unfold compileNextAttribute
  split
  · exact alike_pure _
  · exact alike_pure _
  · exact alike_pure _
  · refine alike_map ?_ some
    unfold compileNext
    split
    · exact alike_pure _
    · split
      · exact alike_pure _
      · split
        · exact alike_pure _
        · exact alike_bind (alike_checkTarget description rule other _) fun _ => alike_pure _
  · exact alike_throw _ _

theorem alike_compileSide (rule other : String) (value : Option Json) :
    Alike (compileSide rule value) (compileSide other value) := by
  unfold compileSide
  split
  · exact alike_pure _
  · exact alike_pure _
  · exact alike_pure _
  · exact alike_throw _ _

theorem alike_compileSwitch (description : Description) (rule other : String)
    (value : Option Json) :
    Alike (description.compileSwitch rule value) (description.compileSwitch other value) := by
  unfold compileSwitch
  split
  · exact alike_pure _
  · exact alike_bind (alike_checkTarget description rule other _) fun _ => alike_pure _

theorem alike_compileToken (description : Description) (rule other token : String)
    (members : Json.Members) : Alike (description.compileToken rule token members)
      (description.compileToken other token members) := by
  unfold compileToken
  refine alike_bind (alike_compileSide rule other _) fun side => ?_
  refine alike_bind (alike_compileNextAttribute description rule other _) fun next => ?_
  refine alike_bind (alike_compileSwitch description rule other _) fun switchTo => ?_
  have embedding := (tolerates_compileEmbedding (members.get? "nextEmbedded")).plain
  exact alike_bind (alike_refl embedding) fun _ => alike_pure _

theorem alike_compileBranches (settings : Settings) (rule other : String)
    {compileTarget compileToo : Json → Compiling Action}
    (each : ∀ value, Alike (compileTarget value) (compileToo value)) (members : Json.Members) :
    Alike (compileBranches settings rule compileTarget members)
      (compileBranches settings other compileToo members) := by
  induction members with
  | nil => exact alike_pure _
  | cons member members step =>
    obtain ⟨key, value⟩ := member
    unfold compileBranches
    refine alike_bind (each value) fun target => ?_
    refine alike_bind (alike_liftM (Guard.toOption_compile settings rule other key)) fun guard => ?_
    exact alike_bind step fun branches => alike_pure _

theorem alike_compileWithin (description : Description) (rule other : String) (depth : Nat)
    (value : Json) : Alike (description.compileWithin rule depth value)
      (description.compileWithin other depth value) := by
  induction depth generalizing value with
  | zero => exact alike_throw _ _
  | succ depth step =>
    unfold compileWithin
    split
    · exact alike_pure _
    · exact alike_pure _
    · exact alike_throw _ _
    · exact alike_map (alike_mapM step _) Action.group
    · split
      · exact alike_map (alike_compileToken description rule other _ _) Action.token
      · exact alike_throw _ _
      · exact alike_bind (alike_compileBranches _ rule other step _) fun branches => alike_pure _
      · exact alike_throw _ _
      · split
        · exact alike_map (alike_compileToken description rule other _ _) Action.token
        · exact alike_throw _ _
    · exact alike_throw _ _

theorem toOption_readRule (place other : String) (value : Json) :
    (readRule place value).toOption = (readRule other value).toOption := by
  have action : ∀ items, (positionalAction place items).toOption =
      (positionalAction other items).toOption := by
    intro items
    unfold positionalAction
    split <;> rfl
  unfold readRule
  split
  · split
    · rfl
    · split
      · rw [toOption_map, toOption_map, action]
      · rfl
  · dsimp only
    split <;> rfl
  · rfl

/-- What a rule is does not depend on its place. -/
theorem alike_compileRule (description : Description) (place other : String) (value : Json) :
    Alike (Rule.content <$> description.compileRule place value)
      (Rule.content <$> description.compileRule other value) := by
  unfold compileRule
  rw [map_bind, map_bind]
  refine alike_bind (alike_liftM (toOption_readRule place other value)) fun raw => ?_
  dsimp only
  rw [map_bind, map_bind]
  refine alike_bind (alike_compileWithin description _ _ _ _) fun action => ?_
  rw [map_bind, map_bind]
  exact alike_bind (alike_liftM rfl) fun pattern => alike_pure _

theorem content_eq_of_compileRule {place other : String} {value : Json} {rule ruleToo : Rule}
    (compiles : (description.compileRule place value).result = .ok rule)
    (compilesToo : (description.compileRule other value).result = .ok ruleToo) :
    rule.content = ruleToo.content := by
  have same := (alike_compileRule description place other value).same
  rw [result_map (plain_compileRule _ _ _), result_map (plain_compileRule _ _ _), compiles,
    compilesToo] at same
  exact Option.some.inj same

/-- A rule that is compiled at one place is compiled at any other. -/
theorem exists_compileRule {place : String} {value : Json} {rule : Rule}
    (compiles : (description.compileRule place value).result = .ok rule) (other : String) :
    ∃ ruleToo, (description.compileRule other value).result = .ok ruleToo := by
  have same := (alike_compileRule description place other value).same
  rw [result_map (plain_compileRule _ _ _), result_map (plain_compileRule _ _ _), compiles] at same
  cases compilesToo : (description.compileRule other value).result with
  | ok ruleToo => exact ⟨ruleToo, rfl⟩
  | error problem =>
    rw [compilesToo] at same
    cases same

/-! ### Actions -/

theorem mapM_congr_of_mem {Other Result : Type} {compile compileToo : Other → Compiling Result}
    {values : List Other} (same : ∀ value ∈ values, compile value = compileToo value) :
    values.mapM compile = values.mapM compileToo := by
  induction values with
  | nil => rfl
  | cons value values step =>
    obtain ⟨first, rest⟩ := List.forall_mem_cons.1 same
    rw [List.mapM_cons, List.mapM_cons, first, step rest]

theorem compileBranches_congr {settings : Settings} {rule : String}
    {compileTarget compileToo : Json → Compiling Action} {members : Json.Members}
    (same : ∀ member ∈ members, compileTarget member.2 = compileToo member.2) :
    compileBranches settings rule compileTarget members =
      compileBranches settings rule compileToo members := by
  induction members with
  | nil => rfl
  | cons member members step =>
    obtain ⟨first, rest⟩ := List.forall_mem_cons.1 same
    unfold compileBranches
    rw [first, step rest]

/-- An action is compiled to the bottom of its value: more depth changes nothing. -/
theorem compileWithin_depth {depth more : Nat} {value : Json} (enough : value.height < depth)
    (enoughToo : value.height < more) (rule : String) :
    description.compileWithin rule depth value = description.compileWithin rule more value := by
  induction depth generalizing more value with
  | zero => exact absurd enough (Nat.not_lt_zero _)
  | succ depth step =>
    cases more with
    | zero => exact absurd enoughToo (Nat.not_lt_zero _)
    | succ more =>
      unfold compileWithin
      split
      · rfl
      · rfl
      · rfl
      · refine congrArg (Action.group <$> ·) (mapM_congr_of_mem fun item present => ?_)
        have lower := Json.height_lt_of_mem_array present
        exact step (by omega) (by omega)
      · next members =>
        split
        · rfl
        · rfl
        · next branches _ found =>
          have lower := Json.height_lt_of_mem_object (Json.Members.mem_of_get? found)
          refine congrArg (· >>= _) (compileBranches_congr fun member present => ?_)
          have lowest := Json.height_lt_of_mem_object present
          exact step (by omega) (by omega)
        · rfl
        · rfl
      · rfl

/-! ### Cycles -/

variable {place state target : String} {path : List String} {items : List Json} {rules : List Rule}

/-- A state has an item that includes a declared state. -/
def Includes (description : Description) (state target : String) : Prop :=
  ∃ items item name rules, description.states.get? state = some (.array items) ∧ item ∈ items ∧
    includeOf? item = some (.string name) ∧ withoutAtSign name = target ∧
    description.states.get? target = some rules

/-- Without tolerance only an array has items. -/
theorem eq_array_of_itemsOf? (strict : description.tolerant = false) {value : Json}
    (declared : description.itemsOf? value = some items) : value = .array items := by
  rw [itemsOf?, strict, if_neg Bool.false_ne_true] at declared
  cases value with
  | array inner =>
    cases declared
    rfl
  | null | bool | number | string | object => cases declared

/-- Without tolerance whatever is included is not being expanded, and it is expanded in turn. -/
theorem Expands.within (strict : description.tolerant = false)
    (expands : description.Expands place path items rules) {item : Json} (present : item ∈ items)
    {name : String} (includes : includeOf? item = some (.string name)) :
    withoutAtSign name ∉ path ∧ ∃ inner place found,
      description.states.get? (withoutAtSign name) = some (.array inner) ∧
        description.Expands place (withoutAtSign name :: path) inner found := by
  induction expands with
  | nil => cases present
  | rule no_include compiles later rest =>
    rcases List.mem_cons.1 present with rfl | present
    · rw [no_include] at includes
      cases includes
    · exact rest present
  | @included place path other value items opened openedRules inner found rules includesToo opens
      declared within later _ rest =>
    rcases List.mem_cons.1 present with rfl | present
    · rw [includes] at includesToo
      cases includesToo
      obtain ⟨known, off_path⟩ := opens
      cases eq_array_of_itemsOf? strict declared
      exact ⟨off_path, inner, _, found, known, within⟩
    · exact rest present
  | offending tolerant =>
    rw [strict] at tolerant
    cases tolerant
  | refused tolerant =>
    rw [strict] at tolerant
    cases tolerant

/-- No state that is being expanded is included, directly or through other states. -/
theorem Expands.not_reaches (strict : description.tolerant = false)
    (expands : description.Expands place path items rules)
    (declared : description.states.get? state = some (.array items)) (on_path : target ∈ path) :
    ¬ Relation.TransGen description.Includes state target := by
  intro reaches
  induction reaches using Relation.TransGen.head_induction_on generalizing place path items rules
  case single state includes =>
    obtain ⟨items, item, name, stateRules, known, present, included, rfl, -⟩ := includes
    rw [declared] at known
    cases known
    exact (expands.within strict present included).1 on_path
  case head state middle includes _ step =>
    obtain ⟨items, item, name, stateRules, known, present, included, rfl, -⟩ := includes
    rw [declared] at known
    cases known
    obtain ⟨-, inner, innerPlace, found, declaredToo, within⟩ :=
      expands.within strict present included
    exact step within declaredToo (List.mem_cons_of_mem _ on_path)

/-! ### Walks -/

/-- What a depth-first walk of the items of a state finds: each rule, and for each include what the
walk of its target finds. -/
inductive Splices (description : Description) : List Json → List (Pattern × Action × Bool) → Prop
  | nil : Splices description [] []
  | rule {item : Json} {items : List Json} {place : String} {rule : Rule}
    {contents : List (Pattern × Action × Bool)} (no_include : includeOf? item = none)
    (compiles : (description.compileRule place item).result = .ok rule)
    (later : Splices description items contents) :
    Splices description (item :: items) (rule.content :: contents)
  | included {item : Json} {items inner : List Json} {name : String}
    {found contents : List (Pattern × Action × Bool)}
    (includes : includeOf? item = some (.string name))
    (declared : description.states.get? (withoutAtSign name) = some (.array inner))
    (within : Splices description inner found) (later : Splices description items contents) :
    Splices description (item :: items) (found ++ contents)

/-- A walk finds one thing at most. -/
theorem Splices.unique {contents others : List (Pattern × Action × Bool)}
    (splices : description.Splices items contents)
    (splicesToo : description.Splices items others) : contents = others := by
  induction splices generalizing others with
  | nil =>
    cases splicesToo
    rfl
  | rule no_include compiles later rest =>
    cases splicesToo with
    | rule _ compilesToo laterToo =>
      rw [content_eq_of_compileRule compiles compilesToo, rest laterToo]
    | included includes =>
      rw [no_include] at includes
      cases includes
  | included includes declared within later inner rest =>
    cases splicesToo with
    | rule no_include =>
      rw [no_include] at includes
      cases includes
    | included includesToo declaredToo withinToo laterToo =>
      rw [includes] at includesToo
      cases includesToo
      rw [declared] at declaredToo
      cases declaredToo
      rw [inner withinToo, rest laterToo]

/-- Without tolerance items become what the walk finds. -/
theorem Expands.splices (strict : description.tolerant = false)
    (expands : description.Expands place path items rules) :
    description.Splices items (rules.map Rule.content) := by
  induction expands with
  | nil => exact .nil
  | rule no_include compiles later rest => exact .rule no_include compiles rest
  | @included place path item value items opened openedRules inner found rules includes opens
      declared within later splices rest =>
    rw [List.map_append]
    obtain ⟨known, -⟩ := opens
    cases eq_array_of_itemsOf? strict declared
    exact .included includes known splices rest
  | offending tolerant =>
    rw [strict] at tolerant
    cases tolerant
  | refused tolerant =>
    rw [strict] at tolerant
    cases tolerant

/-- The rules that are expanded are exactly what the walk finds. -/
theorem Expands.splices_iff (strict : description.tolerant = false)
    (expands : description.Expands place path items rules)
    (contents : List (Pattern × Action × Bool)) :
    description.Splices items contents ↔ contents = rules.map Rule.content := by
  constructor
  · intro splices
    exact splices.unique (expands.splices strict)
  · rintro rfl
    exact expands.splices strict

/-! ### Descriptions with nothing wrong but cycles -/

/-- An item of a state is a rule that can be compiled, or it includes a declared state. -/
def Proper (description : Description) (state : String) (item : Json) : Prop :=
  match includeOf? item with
  | some value => ∃ name, value = .string name ∧
      description.states.contains (withoutAtSign name) = true
  | none => ∃ rule, (description.compileRule ("tokenizer." ++ state) item).result = .ok rule

/-- Nothing is wrong with the states of a description, except that they may include one another in
cycles. -/
def CyclesOnly (description : Description) : Prop :=
  ∀ state rules, (state, rules) ∈ description.states →
    ∃ items, rules = .array items ∧ ∀ item ∈ items, description.Proper state item

/-- All that can go wrong with proper items is a cycle. -/
theorem cycle_of_expandItems (strict : description.tolerant = false)
    (only : description.CyclesOnly) {steps : Nat} {problem : Problem}
    (proper : ∀ item ∈ items, ∃ state, description.Proper state item)
    (ends : (description.expandItems steps place path items).result = .error problem) :
    ∃ target place, problem = .includeCycle target place := by
  induction steps using Nat.strongRecOn generalizing place path items with
  | ind steps inner =>
    induction items with
    | nil => cases ends
    | cons item items step =>
      obtain ⟨⟨state, first⟩, rest⟩ := List.forall_mem_cons.1 proper
      rw [result_expandItems_cons, allowance, strict, if_neg Bool.false_ne_true] at ends
      rcases exceptBind_eq_error.1 ends with own | ⟨found, -, later⟩
      · unfold Proper at first
        cases includes : includeOf? item with
        | none =>
          rw [includes] at first
          obtain ⟨rule, compiles⟩ := first
          obtain ⟨ruleToo, compilesToo⟩ := exists_compileRule compiles place
          rw [result_expandItem_of_rule includes, compilesToo] at own
          cases own
        | some value =>
          rw [includes] at first
          obtain ⟨name, rfl, known⟩ := first
          rcases opens_or_refused description place path (.string name) with
            ⟨opened, openedRules, opens⟩ | ⟨reason, refused⟩
          · rw [result_expandItem_of_opens includes opens] at own
            obtain ⟨declared, -⟩ := opens
            obtain ⟨within, rfl, properToo⟩ := only _ _ (Json.Members.mem_of_get? declared)
            cases steps with
            | zero => cases own
            | succ steps =>
              rw [result_expand_succ, itemsOf?, strict, if_neg Bool.false_ne_true] at own
              exact inner steps (Nat.lt_succ_self _) (fun item present =>
                ⟨_, properToo item present⟩) own
          · rw [result_expandItem_of_refused includes refused] at own
            cases own
            cases refused with
            | notString other => cases other
            | undeclared undeclared =>
              rw [Json.Members.contains, undeclared] at known
              cases known
            | cycle => exact ⟨_, _, rfl⟩
      · exact step rest (exceptMap_eq_error.1 later)

/-- All that can go wrong with a state is a cycle. -/
theorem cycle_of_expandState (strict : description.tolerant = false)
    (only : description.CyclesOnly) {member : String × Json} (present : member ∈ description.states)
    {problem : Problem} (ends : (description.expandState member).result = .error problem) :
    ∃ target place, problem = .includeCycle target place := by
  obtain ⟨state, rules⟩ := member
  obtain ⟨items, rfl, proper⟩ := only state rules present
  have some_state : description.states.length ≠ 0 := by
    intro none
    rw [List.length_eq_zero_iff.1 none] at present
    cases present
  obtain ⟨steps, counted⟩ := Nat.exists_eq_succ_of_ne_zero some_state
  unfold expandState at ends
  rw [counted, result_expand_succ, itemsOf?, strict, if_neg Bool.false_ne_true] at ends
  exact cycle_of_expandItems strict only (fun item present => ⟨state, proper item present⟩) ends

/-! ### Compiled states -/

variable {compiled : List (String × List Rule)}

/-- A compiled state has the rules that its items become. -/
theorem exists_expands_of_compileStates (strict : description.tolerant = false)
    (ends : (description.compileStates description.states).result = .ok compiled) {rules : Json}
    (declared : description.states.get? state = some rules) :
    ∃ items found, rules = .array items ∧ compiled.lookup state = some found ∧
      description.Expands ("tokenizer." ++ state) [state] items found := by
  obtain ⟨found, listed, expands⟩ := lookup_of_forall₂
    (fun member rules => (description.expandState member).result = .ok rules)
    (forall₂_compileStates ends) declared
  have enough := statesOff_singleton_lt (Json.Members.mem_of_get? declared)
  obtain ⟨items, asArray, expands⟩ := (result_expand_iff enough).1 expands
  exact ⟨items, found, eq_array_of_itemsOf? strict asArray, listed, expands⟩

/-- States that are compiled without tolerance have no cycles. -/
theorem acyclic_of_compileStates (strict : description.tolerant = false)
    (ends : (description.compileStates description.states).result = .ok compiled) (state : String) :
    ¬ Relation.TransGen description.Includes state state := by
  intro cycle
  obtain ⟨first, includes, -⟩ := Relation.TransGen.head'_iff.1 cycle
  obtain ⟨items, -, -, -, declared, -⟩ := includes
  obtain ⟨inner, found, same, -, expands⟩ := exists_expands_of_compileStates strict ends declared
  cases same
  exact expands.not_reaches strict declared (List.mem_singleton_self state) cycle

end Description

/-! ### Descriptions without tolerance -/

namespace Grammar

open Description

variable {language start : String} {value : Json} {attributes states : Json.Members}

/-- How the includes of a description are spliced in when it is compiled without tolerance. -/
structure Flattens (description : Description) (result : Except CompileError Grammar) : Prop where
  /-- Expansions do not call for one another without end. -/
  ends : WellFounded fun inner outer => description.Nests outer inner
  /-- More steps, and more depth for an action, change nothing. -/
  enough : ∀ member ∈ description.states, ∀ steps, description.states.length ≤ steps →
    description.expand steps ("tokenizer." ++ member.1) [member.1] member.2 =
      description.expandState member
  deep : ∀ rule action depth, Json.height action < depth →
    description.compileWithin rule depth action = description.compileAction rule (some action)
  /-- A state of a grammar does not include itself, directly or through other states. -/
  acyclic : ∀ grammar, result = .ok grammar → ∀ state,
    ¬ Relation.TransGen description.Includes state state
  /-- Each declared state of a grammar has the rules that a depth-first walk of its items finds. -/
  splices : ∀ grammar, result = .ok grammar → ∀ state rules,
    description.states.get? state = some rules → ∃ items compiled, rules = .array items ∧
      grammar.rules? state = some compiled ∧ ∀ contents,
        description.Splices items contents ↔ contents = compiled.map Rule.content
  /-- Where nothing else is wrong with the states, a cycle ends the compilation. -/
  cycles : description.CyclesOnly → ∀ state, Relation.TransGen description.Includes state state →
    ∃ target place, result = .error {
      language := description.settings.language, problem := .includeCycle target place }

/-- Includes are spliced in where they stand. Without tolerance every compilation ends; if it gives
a grammar, no state includes itself and each state has the rules that a depth-first walk of its
items finds; and a cycle of includes is reported as such where nothing else is wrong. -/
theorem includes_flatten (usable : Usable value attributes states start) :
    Flattens (describe language false attributes states) (compile language value false).result := by
  have strict : (describe language false attributes states).tolerant = false := rfl
  refine ⟨wellFounded_nests _, ?_, ?_, ?_, ?_, ?_⟩
  · intro member present steps more
    have enough := statesOff_singleton_lt present
    exact expand_steps (Nat.lt_of_lt_of_le enough more) enough _ _
  · intro rule action depth enough
    exact compileWithin_depth enough (Nat.lt_succ_self _) rule
  · intro grammar compiled
    exact acyclic_of_compileStates strict (parts_of_compile usable compiled).1
  · intro grammar compiled state rules declared
    obtain ⟨items, found, same, listed, expands⟩ :=
      exists_expands_of_compileStates strict (parts_of_compile usable compiled).1 declared
    exact ⟨items, found, same, listed, expands.splices_iff strict⟩
  · intro only state cycle
    cases ends : ((describe language false attributes states).compileStates states).result with
    | ok compiled => exact absurd cycle (acyclic_of_compileStates strict ends state)
    | error problem =>
      obtain ⟨member, present, fails⟩ := exists_of_compileStates_error ends
      obtain ⟨target, place, rfl⟩ := cycle_of_expandState strict only present fails
      exact ⟨target, place, result_compile_of_error usable ends⟩

/-- States that all include a next one, and two of which lead to the same one. -/
def diamondStates : Json.Members := [
  ("root", .array [
    .object [("include", .string "@left")], .object [("include", .string "@right")]]),
  ("left", .array [.object [("include", .string "@common")]]),
  ("right", .array [.array [.string "b", .string "letter"],
    .object [("include", .string "@common")]]),
  ("common", .array [.array [.string "a", .string "letter"]])]

/-- States three of which include one another in a cycle. -/
def ringStates : Json.Members := [
  ("root", .array [.object [("include", .string "one")]]),
  ("one", .array [.object [("include", .string "@two")]]),
  ("two", .array [.object [("include", .string "@three")]]),
  ("three", .array [.array [.string "a", .string "letter"],
    .object [("include", .string "@one")]])]

/-- A description of states alone. -/
def statesAlone (states : Json.Members) : Json := .object [("tokenizer", .object states)]

theorem usable_diamond : Usable (statesAlone diamondStates) [("tokenizer", .object diamondStates)]
    diamondStates "root" := ⟨rfl, rfl, rfl⟩

theorem usable_ring : Usable (statesAlone ringStates) [("tokenizer", .object ringStates)]
    ringStates "root" := ⟨rfl, rfl, rfl⟩

/-- The description of the states of the ring. -/
def ringDescription : Description :=
  Description.describe "toy" false [("tokenizer", .object ringStates)] ringStates

theorem cyclesOnly_ring : ringDescription.CyclesOnly := by
  have compiles : ((ringDescription.compileRule "tokenizer.three"
      (.array [.string "a", .string "letter"])).result.toOption.isSome) = true := by decide +kernel
  have rule : ringDescription.Proper "three" (.array [.string "a", .string "letter"]) := by
    unfold Proper
    show ∃ rule, (ringDescription.compileRule _ _).result = .ok rule
    cases made : (ringDescription.compileRule "tokenizer.three"
      (.array [.string "a", .string "letter"])).result with
    | ok rule => exact ⟨rule, made⟩
    | error problem =>
      rw [made] at compiles
      cases compiles
  have includes : ∀ state name, ringDescription.states.contains (withoutAtSign name) = true →
      ringDescription.Proper state (.object [("include", .string name)]) := by
    intro state name known
    exact ⟨name, rfl, known⟩
  suffices each : ∀ member ∈ ringStates, ∃ items, member.2 = .array items ∧
      ∀ item ∈ items, ringDescription.Proper member.1 item from
    fun state rules present => each (state, rules) present
  have alone : ∀ state name, ringDescription.states.contains (withoutAtSign name) = true →
      ∀ item ∈ [Json.object [("include", .string name)]], ringDescription.Proper state item := by
    intro state name known
    exact List.forall_mem_singleton.2 (includes state name known)
  refine List.forall_mem_cons.2 ⟨⟨_, rfl, alone _ "one" rfl⟩, ?_⟩
  refine List.forall_mem_cons.2 ⟨⟨_, rfl, alone _ "@two" rfl⟩, ?_⟩
  refine List.forall_mem_cons.2 ⟨⟨_, rfl, alone _ "@three" rfl⟩, ?_⟩
  exact List.forall_mem_singleton.2 ⟨_, rfl,
    List.forall_mem_cons.2 ⟨rule, alone _ "@one" rfl⟩⟩

/-- The states of the ring include one another. -/
theorem reaches_ring : Relation.TransGen ringDescription.Includes "one" "one" := by
  have one : ringDescription.Includes "one" "two" :=
    ⟨_, _, _, _, rfl, List.mem_singleton_self _, rfl, rfl, rfl⟩
  have two : ringDescription.Includes "two" "three" :=
    ⟨_, _, _, _, rfl, List.mem_singleton_self _, rfl, rfl, rfl⟩
  have three : ringDescription.Includes "three" "one" :=
    ⟨_, _, _, _, rfl, List.mem_cons_of_mem _ (List.mem_singleton_self _), rfl, rfl, rfl⟩
  exact .head one (.head two (.single three))

/-- The rules of the state that both sides include are there twice, and the ring has no grammar. -/
theorem includes_flatten_diamond_ring :
    (∃ grammar compiled, (compile "toy" (statesAlone diamondStates) false).result = .ok grammar ∧
      grammar.rules? "root" = some compiled ∧ compiled.map (·.pattern.source) = ["a", "b", "a"] ∧
      (Description.describe "toy" false [("tokenizer", .object diamondStates)]
        diamondStates).Splices [.object [("include", .string "@left")],
          .object [("include", .string "@right")]] (compiled.map Rule.content)) ∧
    ∃ target place, (compile "toy" (statesAlone ringStates) false).result =
      .error { language := "toy", problem := .includeCycle target place } := by
  constructor
  · obtain ⟨grammar, compiled, passes⟩ :=
      exists_of_compiles (compile "toy" (statesAlone diamondStates) false)
        (fun grammar => (grammar.rules? "root").map (·.map (·.pattern.source)) ==
          some ["a", "b", "a"]) (by decide +kernel)
    obtain ⟨items, found, same, listed, exactly⟩ :=
      (includes_flatten usable_diamond).splices grammar compiled "root" _ rfl
    cases same
    rw [listed] at passes
    exact ⟨grammar, found, compiled, listed, Option.some.inj (eq_of_beq passes),
      (exactly _).2 rfl⟩
  · exact (includes_flatten usable_ring).cycles cyclesOnly_ring "one" reaches_ring

end Grammar

end LineLexer
