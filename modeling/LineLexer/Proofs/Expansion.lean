import LineLexer.Proofs.Notes
import Mathlib.Data.List.Forall2

/-!
**What the items of a state become.**

The rules of a state are those of its items one after another. An include becomes the rules of the
state that it names, unless that state is being expanded already. So no state comes on the path
twice, the number of declared states off the path goes down, and the steps never run out.

* `Description.Opens`, `Description.Refused`: includes that are spliced in, and those that are not;
* `Description.Expands`: what the items of a state become, item by item;
* `wellFounded_nests`, `expand_steps`: expansions end, and more steps change nothing;
* `result_expand_iff`: the expansion of a state comes to what its items become;
* `forall₂_compileStates`, `Grammar.parts_of_compile`: the same of all states of a grammar;
* `Grammar.exists_compileRule_of_mem`: the rules of a grammar are rules that have been compiled.
-/

namespace LineLexer

/-- A value that is found under a name is a member of that name. -/
theorem Json.Members.mem_of_get? {members : Json.Members} {name : String} {value : Json}
    (found : members.get? name = some value) : (name, value) ∈ members := by
  obtain ⟨before, after, listed, -⟩ := List.lookup_eq_some_iff.1 found
  rw [listed]
  exact List.mem_append_right before List.mem_cons_self

namespace Description

open Compiling

variable {description : Description} {steps more : Nat} {place state : String} {path : List String}
  {value item rules : Json} {items : List Json} {problem : Problem}

/-! ### Parts of a description -/

/-- A description has tolerance or it has none. -/
theorem strictly_or_tolerantly (description : Description) :
    description = description.strictly ∨ description = description.tolerantly := by
  obtain ⟨settings, states, tolerant, defaultToken⟩ := description
  cases tolerant with
  | false => exact .inl rfl
  | true => exact .inr rfl

theorem plain_of_tolerates {Result : Type} (part : Description → Compiling Result)
    (tolerates : Tolerates (part description.strictly) (part description.tolerantly)) :
    Plain (part description) := by
  rcases strictly_or_tolerantly description with same | same
  · rw [same]
    exact tolerates.strictPlain
  · rw [same]
    exact tolerates.plain

theorem plain_compileRule (description : Description) (place : String) (value : Json) :
    Plain (description.compileRule place value) :=
  plain_of_tolerates (fun made => made.compileRule place value)
    (tolerates_compileRule description place value)

theorem plain_tolerating_expandItem (description : Description) (steps : Nat) (place : String)
    (path : List String) (item : Json) :
    Plain (description.tolerating (description.expandItem steps place path item)) :=
  plain_of_tolerates (fun made => made.tolerating (made.expandItem steps place path item))
    (tolerates_tolerating description
      (tolerates_expandItem description (tolerates_expand description steps) place path item))

theorem plain_expandItems (description : Description) (steps : Nat) (place : String)
    (path : List String) (items : List Json) :
    Plain (description.expandItems steps place path items) :=
  plain_of_tolerates (fun made => made.expandItems steps place path items)
    (tolerates_expandItems description (tolerates_expand description steps) place path items)

theorem plain_expand (description : Description) (steps : Nat) (place : String)
    (path : List String) (rules : Json) : Plain (description.expand steps place path rules) :=
  plain_of_tolerates (fun made => made.expand steps place path rules)
    (tolerates_expand description steps place path rules)

/-- What a part with a problem comes to. -/
def allowance {Result : Type} (description : Description) (result : Except Problem (List Result)) :
    Except Problem (List Result) :=
  if description.tolerant then .ok (result.toOption.getD []) else result

theorem result_tolerating_eq {Result : Type} (description : Description)
    (part : Compiling (List Result)) :
    (description.tolerating part).result = description.allowance part.result := by
  rcases strictly_or_tolerantly description with same | same
  · rw [same, strictly_tolerating]
    rfl
  · rw [same, result_tolerating]
    rfl

theorem result_expandItems_cons (description : Description) (steps : Nat) (place : String)
    (path : List String) (item : Json) (items : List Json) :
    (description.expandItems steps place path (item :: items)).result =
      (description.allowance (description.expandItem steps place path item).result).bind
        fun found => (description.expandItems steps place path items).result.map (found ++ ·) := by
  have joined : ∀ found : List Rule, Plain (description.expandItems steps place path items >>=
      fun later => pure (found ++ later)) := by
    intro found
    exact plain_bind (plain_expandItems _ _ _ _ _) fun later => plain_pure _
  rw [expandItems_cons, result_bind (plain_tolerating_expandItem _ _ _ _ _) joined,
    result_tolerating_eq]
  refine congrArg _ (funext fun found => ?_)
  rw [result_bind (plain_expandItems _ _ _ _ _) fun later => plain_pure _]
  cases (description.expandItems steps place path items).result <;> rfl

/-! ### Includes -/

/-- An include is spliced in: its target is a declared state that is not being expanded. -/
inductive Opens (description : Description) (path : List String) : Json → String → Json → Prop
  | target {name : String} {rules : Json}
    (declared : description.states.get? (withoutAtSign name) = some rules)
    (off_path : withoutAtSign name ∉ path) :
    Opens description path (.string name) (withoutAtSign name) rules

/-- Why an include is not spliced in. -/
inductive Refused (description : Description) (place : String) (path : List String) :
    Json → Problem → Prop
  | notString {value : Json} (other : value.asString? = none) :
    Refused description place path value (.includeNotString place)
  | undeclared {name : String} (undeclared : description.states.get? (withoutAtSign name) = none) :
    Refused description place path (.string name) (.undefinedInclude (withoutAtSign name) place)
  | cycle {name : String} {rules : Json}
    (declared : description.states.get? (withoutAtSign name) = some rules)
    (on_path : withoutAtSign name ∈ path) :
    Refused description place path (.string name) (.includeCycle (withoutAtSign name) place)

theorem opens_or_refused (description : Description) (place : String) (path : List String)
    (value : Json) : (∃ state rules, description.Opens path value state rules) ∨
      ∃ problem, description.Refused place path value problem := by
  cases value with
  | string name =>
    cases declared : description.states.get? (withoutAtSign name) with
    | none => exact .inr ⟨_, .undeclared declared⟩
    | some rules =>
      by_cases on_path : withoutAtSign name ∈ path
      · exact .inr ⟨_, .cycle declared on_path⟩
      · exact .inl ⟨_, rules, .target declared on_path⟩
  | null | bool | number | array | object => exact .inr ⟨_, .notString rfl⟩

theorem expandInclude_of_opens (opens : description.Opens path value state rules) (steps : Nat)
    (place : String) : description.expandInclude steps place path value =
      description.expand steps (place ++ "." ++ state) (state :: path) rules := by
  obtain ⟨declared, off_path⟩ := opens
  unfold expandInclude
  rw [Json.asString?]
  dsimp only
  rw [declared]
  exact if_neg fun contains => off_path (List.contains_iff_mem.1 contains)

theorem expandInclude_of_refused (refused : description.Refused place path value problem)
    (steps : Nat) : description.expandInclude steps place path value = throw problem := by
  unfold expandInclude
  cases refused with
  | notString other =>
    rw [other]
  | undeclared undeclared =>
    rw [Json.asString?]
    dsimp only
    rw [undeclared]
  | cycle declared on_path =>
    rw [Json.asString?]
    dsimp only
    rw [declared]
    exact if_pos (List.contains_iff_mem.2 on_path)

/-! ### Expansions end -/

/-- The number of declared states that are not on a path. -/
def statesOff (description : Description) (path : List String) : Nat :=
  (description.states.filter fun state => !path.contains state.1).length

/-- A declared state that is not on the path is there, and it is not there any more once it is on
the path. -/
theorem statesOff_cons_lt (declared : description.states.get? state = some rules)
    (off_path : state ∉ path) :
    description.statesOff (state :: path) < description.statesOff path := by
  unfold statesOff
  have shorter : (description.states.filter fun other => !(state :: path).contains other.1) =
      (description.states.filter fun other => !path.contains other.1).filter
        fun other => other.1 != state := by
    rw [List.filter_filter]
    refine List.filter_congr fun other _ => ?_
    rw [List.contains_cons, Bool.not_or]
    rfl
  rw [shorter, List.length_filter_lt_length_iff_exists]
  refine ⟨(state, rules), List.mem_filter.2 ⟨Json.Members.mem_of_get? declared, ?_⟩, ?_⟩
  · rw [Bool.not_eq_true', ← Bool.not_eq_true, List.contains_iff_mem]
    exact off_path
  · rw [bne_self_eq_false]
    exact Bool.false_ne_true

theorem Opens.statesOff_lt (opens : description.Opens path value state rules) :
    description.statesOff (state :: path) < description.statesOff path := by
  obtain ⟨declared, off_path⟩ := opens
  exact statesOff_cons_lt declared off_path

/-- There are fewer states off the path of a declared state than there are states. -/
theorem statesOff_singleton_lt (declared : (state, rules) ∈ description.states) :
    description.statesOff [state] < description.states.length := by
  unfold statesOff
  rw [List.length_filter_lt_length_iff_exists]
  refine ⟨(state, rules), declared, ?_⟩
  rw [List.contains_cons, beq_self_eq_true]
  exact Bool.false_ne_true

/-- The expansion of a state on one path calls for that of another state on a longer path. -/
def Nests (description : Description) (outer inner : List String) : Prop :=
  ∃ value state rules, description.Opens outer value state rules ∧ inner = state :: outer

/-- Expansions do not call for one another without end. -/
theorem wellFounded_nests (description : Description) :
    WellFounded fun inner outer => description.Nests outer inner := by
  refine Subrelation.wf (r := InvImage (· < ·) description.statesOff) ?_
    (InvImage.wf description.statesOff Nat.lt_wfRel.wf)
  rintro inner outer ⟨value, state, rules, opens, rfl⟩
  exact opens.statesOff_lt

/-- More steps than there are states off the path change nothing. -/
theorem expand_steps (enough : description.statesOff path < steps)
    (enoughToo : description.statesOff path < more) (place : String) (rules : Json) :
    description.expand steps place path rules = description.expand more place path rules := by
  induction steps generalizing more place path rules with
  | zero => exact absurd enough (Nat.not_lt_zero _)
  | succ steps step =>
    cases more with
    | zero => exact absurd enoughToo (Nat.not_lt_zero _)
    | succ more =>
      have same : description.expandInclude steps place path =
          description.expandInclude more place path := by
        funext value
        rcases opens_or_refused description place path value with
          ⟨state, inner, opens⟩ | ⟨problem, refused⟩
        · have fewer := opens.statesOff_lt
          rw [expandInclude_of_opens opens, expandInclude_of_opens opens]
          exact step (by omega) (by omega) _ inner
        · rw [expandInclude_of_refused refused, expandInclude_of_refused refused]
      rw [expand_succ, expand_succ]
      unfold expandItems
      rw [same]

/-! ### What items become -/

/-- The items of a state; where problems are tolerated, whatever is no array has none. -/
def itemsOf? (description : Description) (rules : Json) : Option (List Json) :=
  if description.tolerant then some (rules.asArray?.getD []) else rules.asArray?

/-- What the items of a state become. A rule becomes what is compiled of it, and an include the
rules of its target. With tolerance, what is neither a rule nor an include to splice in is left
out. -/
inductive Expands (description : Description) :
    String → List String → List Json → List Rule → Prop
  | nil {place : String} {path : List String} : Expands description place path [] []
  | rule {place : String} {path : List String} {item : Json} {items : List Json} {rule : Rule}
    {rules : List Rule} (no_include : includeOf? item = none)
    (compiles : (description.compileRule place item).result = .ok rule)
    (later : Expands description place path items rules) :
    Expands description place path (item :: items) (rule :: rules)
  | included {place : String} {path : List String} {item value : Json} {items : List Json}
    {state : String} {stateRules : Json} {inner : List Json} {found rules : List Rule}
    (includes : includeOf? item = some value)
    (opens : description.Opens path value state stateRules)
    (declared : description.itemsOf? stateRules = some inner)
    (within : Expands description (place ++ "." ++ state) (state :: path) inner found)
    (later : Expands description place path items rules) :
    Expands description place path (item :: items) (found ++ rules)
  | offending {place : String} {path : List String} {item : Json} {items : List Json}
    {problem : Problem} {rules : List Rule} (tolerant : description.tolerant = true)
    (no_include : includeOf? item = none)
    (offends : (description.compileRule place item).result = .error problem)
    (later : Expands description place path items rules) :
    Expands description place path (item :: items) rules
  | refused {place : String} {path : List String} {item value : Json} {items : List Json}
    {problem : Problem} {rules : List Rule} (tolerant : description.tolerant = true)
    (includes : includeOf? item = some value)
    (refused : description.Refused place path value problem)
    (later : Expands description place path items rules) :
    Expands description place path (item :: items) rules

/-! ### The results of expansions -/

theorem result_expandItem_of_rule (no_include : includeOf? item = none) (steps : Nat)
    (place : String) (path : List String) : (description.expandItem steps place path item).result =
      (description.compileRule place item).result.map ([·]) := by
  unfold expandItem
  rw [no_include]
  exact result_map (plain_compileRule description place item) _

theorem result_expandItem_of_opens (includes : includeOf? item = some value)
    (opens : description.Opens path value state rules) (steps : Nat) (place : String) :
    (description.expandItem steps place path item).result =
      (description.expand steps (place ++ "." ++ state) (state :: path) rules).result := by
  unfold expandItem
  rw [includes]
  exact congrArg result (expandInclude_of_opens opens steps place)

theorem result_expandItem_of_refused (includes : includeOf? item = some value)
    (refused : description.Refused place path value problem) (steps : Nat) :
    (description.expandItem steps place path item).result = .error problem := by
  unfold expandItem
  rw [includes]
  exact congrArg result (expandInclude_of_refused refused steps)

/-- The rules of a state come to those of its items; without items there is a problem, or nothing
where it is tolerated. -/
theorem result_expand_succ (description : Description) (steps : Nat) (place : String)
    (path : List String) (rules : Json) :
    (description.expand (steps + 1) place path rules).result =
      match description.itemsOf? rules with
      | none => .error (.rulesNotArray place)
      | some items => (description.expandItems steps place path items).result := by
  rw [expand_succ]
  unfold itemsOf?
  cases rules.asArray? with
  | some items =>
    cases description.tolerant <;> rfl
  | none =>
    dsimp only
    rcases strictly_or_tolerantly description with same | same
    · rw [same]
      rfl
    · rw [same]
      rfl

/-- Where problems are tolerated, nothing ends an expansion. -/
theorem exists_result_expandItems (tolerant : description.tolerant = true) (steps : Nat)
    (place : String) (path : List String) (items : List Json) :
    ∃ compiled, (description.expandItems steps place path items).result = .ok compiled := by
  induction items with
  | nil => exact ⟨[], rfl⟩
  | cons item items step =>
    obtain ⟨later, ends⟩ := step
    refine ⟨(description.expandItem steps place path item).result.toOption.getD [] ++ later, ?_⟩
    rw [result_expandItems_cons, ends, allowance, if_pos tolerant]
    rfl

theorem exists_result_expand (tolerant : description.tolerant = true) (steps : Nat)
    (place : String) (path : List String) (rules : Json) :
    ∃ compiled, (description.expand steps place path rules).result = .ok compiled := by
  cases steps with
  | zero => exact ⟨[], rfl⟩
  | succ steps =>
    rw [result_expand_succ, itemsOf?, if_pos tolerant]
    exact exists_result_expandItems tolerant steps place path _

/-- What is left of a part is its own result, or nothing where its problem is tolerated. -/
theorem allowance_eq_ok {Result : Type} {result : Except Problem (List Result)}
    {results : List Result} (allowed : description.allowance result = .ok results) :
    result = .ok results ∨
      description.tolerant = true ∧ results = [] ∧ ∃ problem, result = .error problem := by
  unfold allowance at allowed
  split at allowed
  · next tolerant =>
    cases result with
    | ok own => exact .inl allowed
    | error problem =>
      cases allowed
      exact .inr ⟨tolerant, rfl, problem, rfl⟩
  · exact .inl allowed

theorem allowance_ok {Result : Type} (description : Description) (results : List Result) :
    description.allowance (.ok results) = .ok results := by
  unfold allowance
  split <;> rfl

theorem allowance_error {Result : Type} (tolerant : description.tolerant = true)
    (problem : Problem) : description.allowance (.error problem : Except Problem (List Result)) =
      .ok [] := by
  unfold allowance
  exact if_pos tolerant

/-- The results of several items are those of the first one and those of the others. -/
theorem result_expandItems_eq_ok {compiled : List Rule}
    (ends : (description.expandItems steps place path (item :: items)).result = .ok compiled) :
    ∃ found later, description.allowance (description.expandItem steps place path item).result =
        .ok found ∧ (description.expandItems steps place path items).result = .ok later ∧
      compiled = found ++ later := by
  rw [result_expandItems_cons] at ends
  obtain ⟨found, first, ends⟩ := exceptBind_eq_ok.1 ends
  obtain ⟨later, rest, rfl⟩ := exceptMap_eq_ok.1 ends
  exact ⟨found, later, first, rest, rfl⟩

/-- One item puts its rules in front of what the later items become. -/
theorem expands_cons {found later : List Rule}
    (within : ∀ value state rules found, description.Opens path value state rules →
      (description.expand steps (place ++ "." ++ state) (state :: path) rules).result = .ok found →
      ∃ inner, description.itemsOf? rules = some inner ∧
        description.Expands (place ++ "." ++ state) (state :: path) inner found)
    (first : description.allowance (description.expandItem steps place path item).result =
      .ok found)
    (rest : description.Expands place path items later) :
    description.Expands place path (item :: items) (found ++ later) := by
  cases includes : includeOf? item with
  | none =>
    rw [result_expandItem_of_rule includes] at first
    cases compiled : (description.compileRule place item).result with
    | ok rule =>
      rw [compiled, Except.map, allowance_ok] at first
      cases first
      exact .rule includes compiled rest
    | error problem =>
      rw [compiled] at first
      rcases allowance_eq_ok first with own | ⟨tolerant, rfl, -⟩
      · cases own
      · exact .offending tolerant includes compiled rest
  | some value =>
    rcases opens_or_refused description place path value with
      ⟨state, rules, opens⟩ | ⟨problem, refused⟩
    · rw [result_expandItem_of_opens includes opens] at first
      rcases allowance_eq_ok first with own | ⟨tolerant, -, problem, fails⟩
      · obtain ⟨inner, declared, expands⟩ := within value state rules found opens own
        exact .included includes opens declared expands rest
      · -- with tolerance the expansion of a state never ends with a problem
        obtain ⟨compiled, ends⟩ := exists_result_expand tolerant steps (place ++ "." ++ state)
          (state :: path) rules
        rw [fails] at ends
        cases ends
    · rw [result_expandItem_of_refused includes refused] at first
      rcases allowance_eq_ok first with own | ⟨tolerant, rfl, -⟩
      · cases own
      · exact .refused tolerant includes refused rest

/-- What an expansion of items comes to is what the items become. -/
theorem expands_of_result (enough : description.statesOff path ≤ steps) {compiled : List Rule}
    (ends : (description.expandItems steps place path items).result = .ok compiled) :
    description.Expands place path items compiled := by
  induction steps using Nat.strongRecOn generalizing place path items compiled with
  | ind steps inner =>
    induction items generalizing compiled with
    | nil =>
      cases ends
      exact .nil
    | cons item items step =>
      obtain ⟨found, later, first, rest, rfl⟩ := result_expandItems_eq_ok ends
      refine expands_cons (fun value state rules found opens ends => ?_) first (step rest)
      have fewer := opens.statesOff_lt
      obtain ⟨fewerSteps, rfl⟩ : ∃ fewerSteps, steps = fewerSteps + 1 :=
        Nat.exists_eq_add_one.2 (by omega)
      rw [result_expand_succ] at ends
      cases declared : description.itemsOf? rules with
      | none =>
        rw [declared] at ends
        cases ends
      | some items =>
        rw [declared] at ends
        exact ⟨items, rfl, inner fewerSteps (by omega) (by omega) ends⟩

/-- What items become is what their expansion comes to. -/
theorem Expands.result_eq {compiled : List Rule}
    (expands : description.Expands place path items compiled)
    (enough : description.statesOff path ≤ steps) :
    (description.expandItems steps place path items).result = .ok compiled := by
  induction expands generalizing steps with
  | nil => rfl
  | rule no_include compiles later rest =>
    rw [result_expandItems_cons, result_expandItem_of_rule no_include, compiles, rest enough,
      Except.map, allowance_ok]
    rfl
  | included includes opens declared within later inner rest =>
    have fewer := opens.statesOff_lt
    obtain ⟨fewerSteps, rfl⟩ : ∃ fewerSteps, steps = fewerSteps + 1 :=
      Nat.exists_eq_add_one.2 (by omega)
    rw [result_expandItems_cons, result_expandItem_of_opens includes opens, result_expand_succ,
      declared, rest enough]
    dsimp only
    rw [inner (by omega), allowance_ok]
    rfl
  | offending tolerant no_include offends later rest =>
    rw [result_expandItems_cons, result_expandItem_of_rule no_include, offends, rest enough,
      Except.map, allowance_error tolerant]
    rfl
  | refused tolerant includes refused later rest =>
    rw [result_expandItems_cons, result_expandItem_of_refused includes refused, rest enough,
      allowance_error tolerant]
    rfl

/-- The expansion of a state comes to what its items become. -/
theorem result_expand_iff (enough : description.statesOff path < steps) {compiled : List Rule} :
    (description.expand steps place path rules).result = .ok compiled ↔
      ∃ items, description.itemsOf? rules = some items ∧
        description.Expands place path items compiled := by
  obtain ⟨fewerSteps, rfl⟩ : ∃ fewerSteps, steps = fewerSteps + 1 :=
    Nat.exists_eq_add_one.2 (by omega)
  rw [result_expand_succ]
  cases description.itemsOf? rules with
  | none =>
    constructor
    · exact nofun
    · exact nofun
  | some items =>
    constructor
    · intro ends
      exact ⟨items, rfl, expands_of_result (Nat.le_of_lt_succ enough) ends⟩
    · rintro ⟨inner, same, expands⟩
      cases same
      exact expands.result_eq (Nat.le_of_lt_succ enough)

/-- Items become one list of rules at most. -/
theorem Expands.unique {compiled other : List Rule}
    (expands : description.Expands place path items compiled)
    (expandsToo : description.Expands place path items other) : compiled = other := by
  have same := (expands.result_eq (Nat.le_refl _)).symm.trans (expandsToo.result_eq (Nat.le_refl _))
  exact Except.ok.inj same

/-! ### States -/

theorem plain_compileStates (description : Description) (states : Json.Members) :
    Plain (description.compileStates states) :=
  plain_of_tolerates (fun made => made.compileStates states)
    (tolerates_compileStates description states)

theorem plain_compileBrackets (description : Description) (postfixText : String) :
    Plain (description.compileBrackets postfixText) :=
  plain_of_tolerates (fun made => made.compileBrackets postfixText)
    (tolerates_compileBrackets description postfixText)

/-- The expansion of a declared state. -/
def expandState (description : Description) (state : String × Json) : Compiling (List Rule) :=
  description.expand description.states.length ("tokenizer." ++ state.1) [state.1] state.2

theorem plain_expandState (description : Description) (state : String × Json) :
    Plain (description.expandState state) :=
  plain_expand description _ _ _ _

theorem result_compileStates_cons (description : Description) (state : String × Json)
    (states : Json.Members) : (description.compileStates (state :: states)).result =
      (description.expandState state).result.bind fun compiled =>
        (description.compileStates states).result.map ((state.1, compiled) :: ·) := by
  have joined : ∀ compiled : List Rule, Plain (description.compileStates states >>=
      fun later => pure ((state.1, compiled) :: later)) := by
    intro compiled
    exact plain_bind (plain_compileStates _ _) fun later => plain_pure _
  show (description.expandState state >>= fun compiled => description.compileStates states >>=
    fun later => pure ((state.1, compiled) :: later)).result = _
  rw [result_bind (plain_expandState _ _) joined]
  refine congrArg _ (funext fun compiled => ?_)
  rw [result_bind (plain_compileStates _ _) fun later => plain_pure _]
  cases (description.compileStates states).result <;> rfl

/-- The compiled states are the declared ones, each with what its expansion comes to. -/
theorem forall₂_compileStates {states : Json.Members} {compiled : List (String × List Rule)}
    (ends : (description.compileStates states).result = .ok compiled) :
    List.Forall₂ (fun declared made => made.1 = declared.1 ∧
      (description.expandState declared).result = .ok made.2) states compiled := by
  induction states generalizing compiled with
  | nil =>
    cases ends
    exact .nil
  | cons state states step =>
    rw [result_compileStates_cons] at ends
    obtain ⟨rules, first, ends⟩ := exceptBind_eq_ok.1 ends
    obtain ⟨later, rest, rfl⟩ := exceptMap_eq_ok.1 ends
    exact .cons ⟨rfl, first⟩ (step rest)

/-- What is found in one of two lists of the same names has its counterpart in the other one. -/
theorem lookup_of_forall₂ {Value Other : Type} (related : String × Value → Other → Prop)
    {entries : List (String × Value)} {others : List (String × Other)}
    (pairs : List.Forall₂ (fun entry other => other.1 = entry.1 ∧ related entry other.2) entries
      others) {name : String} {value : Value} (found : entries.lookup name = some value) :
    ∃ other, others.lookup name = some other ∧ related (name, value) other := by
  induction pairs with
  | nil => cases found
  | @cons entry other entries others pair pairs step =>
    obtain ⟨first, entryValue⟩ := entry
    obtain ⟨otherFirst, otherValue⟩ := other
    obtain ⟨same, holds⟩ := pair
    dsimp only at same
    subst same
    rw [List.lookup_cons] at found ⊢
    by_cases here : name = otherFirst
    · subst here
      rw [beq_self_eq_true] at found ⊢
      cases found
      exact ⟨otherValue, rfl, holds⟩
    · rw [beq_eq_false_iff_ne.2 here] at found ⊢
      exact step found

/-- A problem of the states is one of some state. -/
theorem exists_of_compileStates_error {states : Json.Members} {problem : Problem}
    (ends : (description.compileStates states).result = .error problem) :
    ∃ state ∈ states, (description.expandState state).result = .error problem := by
  induction states with
  | nil => cases ends
  | cons state states step =>
    rw [result_compileStates_cons] at ends
    rcases exceptBind_eq_error.1 ends with first | ⟨rules, -, ends⟩
    · exact ⟨state, List.mem_cons_self, first⟩
    · obtain ⟨later, present, fails⟩ := step (exceptMap_eq_error.1 ends)
      exact ⟨later, List.mem_cons_of_mem _ present, fails⟩

theorem result_compileParts (description : Description) (postfixText : String) :
    (description.compileParts postfixText).result =
      (description.compileStates description.states).result.bind fun states =>
        (description.compileBrackets postfixText).result.map (states, ·) := by
  have joined : ∀ states : List (String × List Rule),
      Plain (description.compileBrackets postfixText >>= fun brackets =>
        pure (states, brackets)) := by
    intro states
    exact plain_bind (plain_compileBrackets _ _) fun brackets => plain_pure _
  unfold compileParts
  rw [result_bind (plain_compileStates _ _) joined]
  refine congrArg _ (funext fun states => ?_)
  rw [result_bind (plain_compileBrackets _ _) fun brackets => plain_pure _]
  cases (description.compileBrackets postfixText).result <;> rfl

/-- What items become are rules that have been compiled. -/
theorem Expands.exists_compileRule {description : Description} {place : String}
    {path : List String} {items : List Json} {rules : List Rule} {rule : Rule}
    (expands : description.Expands place path items rules) (listed : rule ∈ rules) :
    ∃ place value, (description.compileRule place value).result = .ok rule := by
  induction expands with
  | nil => cases listed
  | rule no_include compiles later step =>
    rcases List.mem_cons.1 listed with rfl | rest
    · exact ⟨_, _, compiles⟩
    · exact step rest
  | included includes opens declared within later inner step =>
    rcases List.mem_append.1 listed with here | rest
    · exact inner here
    · exact step rest
  | offending tolerant no_include offends later step => exact step listed
  | refused tolerant includes refused later step => exact step listed

end Description

/-- What stands in the second of two related lists has its counterpart in the first one. -/
theorem exists_mem_of_forall₂ {Value Other : Type} {related : Value → Other → Prop}
    {values : List Value} {others : List Other} (pairs : List.Forall₂ related values others)
    {other : Other} (inside : other ∈ others) : ∃ value ∈ values, related value other := by
  induction pairs with
  | nil => cases inside
  | @cons value _ values others first pairs step =>
    rcases List.mem_cons.1 inside with rfl | rest
    · exact ⟨value, List.mem_cons_self, first⟩
    · obtain ⟨later, present, holds⟩ := step rest
      exact ⟨later, List.mem_cons_of_mem _ present, holds⟩

namespace Grammar

open Compiling Description

variable {language start : String} {value : Json} {attributes states : Json.Members}
  {tolerant : Bool} {grammar : Grammar}

theorem result_compile_of_usable (usable : Usable value attributes states start)
    (tolerant : Bool) : (compile language value tolerant).result =
      (((describe language tolerant attributes states).compileParts
        (postfixText language attributes)).result.map fun made =>
          ofParts language start attributes states made
            ((describe language tolerant attributes states).compileParts
              (postfixText language attributes)).notes.usesEmbedded).mapError
        fun problem => { language, problem } := by
  rw [compile_of_usable usable]
  rfl

/-- A compiled grammar has the states and the brackets that those of the description become. -/
theorem parts_of_compile (usable : Usable value attributes states start)
    (compiled : (compile language value tolerant).result = .ok grammar) :
    ((describe language tolerant attributes states).compileStates states).result =
        .ok grammar.states ∧
      ((describe language tolerant attributes states).compileBrackets
        (postfixText language attributes)).result = .ok grammar.brackets := by
  rw [result_compile_of_usable usable, Scanning.mapError_eq_ok, result_compileParts] at compiled
  obtain ⟨parts, made, rfl⟩ := exceptMap_eq_ok.1 compiled
  obtain ⟨compiledStates, statesMade, made⟩ := exceptBind_eq_ok.1 made
  obtain ⟨brackets, bracketsMade, rfl⟩ := exceptMap_eq_ok.1 made
  exact ⟨statesMade, bracketsMade⟩

/-- A problem of the states ends the compilation. -/
theorem result_compile_of_error (usable : Usable value attributes states start)
    {problem : Problem}
    (ends : ((describe language tolerant attributes states).compileStates states).result =
      .error problem) :
    (compile language value tolerant).result = .error { language, problem } := by
  rw [result_compile_of_usable usable, result_compileParts]
  rw [show (describe language tolerant attributes states).states = states from rfl, ends]
  rfl

theorem settings_of_compile (usable : Usable value attributes states start)
    (compiled : (compile language value tolerant).result = .ok grammar) :
    grammar.settings = (Description.describe language tolerant attributes states).settings := by
  rw [result_compile_of_usable usable, Scanning.mapError_eq_ok] at compiled
  obtain ⟨parts, -, rfl⟩ := exceptMap_eq_ok.1 compiled
  rfl

/-- A rule of a compiled grammar has been compiled from a value, with the settings of the grammar.
-/
theorem exists_compileRule_of_mem
    (compiled : (compile language value tolerant).result = .ok grammar) {name : String}
    {rules : List Rule} {rule : Rule} (inside : (name, rules) ∈ grammar.states)
    (listed : rule ∈ rules) :
    ∃ description place item, description.settings = grammar.settings ∧
      (compileRule description place item).result = .ok rule := by
  rcases usable_or_unusable value with ⟨attributes, states, start, usable⟩ | ⟨problem, unusable⟩
  · obtain ⟨declared, present, -, ends⟩ :=
      exists_mem_of_forall₂ (forall₂_compileStates (parts_of_compile usable compiled).1) inside
    obtain ⟨items, -, expands⟩ := (result_expand_iff (statesOff_singleton_lt present)).1 ends
    obtain ⟨place, item, compiles⟩ := expands.exists_compileRule listed
    exact ⟨_, place, item, (settings_of_compile usable compiled).symm, compiles⟩
  · rw [compile_of_unusable unusable] at compiled
    cases compiled

end Grammar

end LineLexer
