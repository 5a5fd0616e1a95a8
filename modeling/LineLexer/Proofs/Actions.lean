import LineLexer.Grammar.Compile

/-!
**What the actions of a grammar lead to.**

An action after all its choices is a token or a group that stands in it, or the token that a choice
falls back on. So what no token of a grammar has, no step of a scan meets:

* `Grammar.anyAction`: whether some action of a grammar has a property;
* `Action.goesBack`, `Action.hasGroup`: tokens that read characters again, and groups;
* `Action.anyToken_resolve`: no choice leads to a token that does not stand in the action;
* `Action.Holds`: the tokens that stand inside an action.
-/

namespace LineLexer

namespace Action

/-- Whether some token inside an action makes characters be read again. -/
def goesBack (action : Action) : Bool := action.anyToken fun token => token.goBack.isSome

mutual

/-- Whether an action may lead to a group. -/
def hasGroup : Action → Bool
  | .token _ => false
  | .group _ => true
  | .cases branches _ => hasGroupOfBranches branches

/-- Whether one of several branches may lead to a group. -/
def hasGroupOfBranches : List (Branch Action) → Bool
  | [] => false
  | ⟨_, _, target⟩ :: rest => target.hasGroup || hasGroupOfBranches rest

end

/-- Whether a token that an action has led to, or some token inside the group, has a property. -/
def Resolved.anyToken (property : TokenAction → Bool) : Resolved → Bool
  | .token action => property action
  | .group members => anyTokenOf property members

variable {settings : Settings} {context : MatchContext} {property : TokenAction → Bool}

theorem anyToken_of_mem {members : List Action} (never : anyTokenOf property members = false)
    {member : Action} (inside : member ∈ members) : member.anyToken property = false := by
  induction members with
  | nil => cases inside
  | cons first rest step =>
    rw [anyTokenOf, Bool.or_eq_false_iff] at never
    rcases List.mem_cons.1 inside with rfl | later
    · exact never.1
    · exact step never.2 later

mutual

/-- No choice leads to a token that does not stand in the action, fallbacks apart. -/
theorem anyToken_resolve (plain : ∀ token, property { token } = false) :
    ∀ (action : Action) {resolved : Resolved}, action.anyToken property = false →
      action.resolve settings context = .ok resolved → resolved.anyToken property = false
  | .token action, resolved, never, done => by
    rw [resolve, Except.ok.injEq] at done
    subst done
    exact never
  | .group members, resolved, never, done => by
    rw [resolve, Except.ok.injEq] at done
    subst done
    exact never
  | .cases branches fallback, resolved, never, done =>
    anyToken_resolveBranches plain branches never done

theorem anyToken_resolveBranches (plain : ∀ token, property { token } = false) :
    ∀ (branches : List (Branch Action)) {fallback : String} {resolved : Resolved},
      anyTokenOfBranches property branches = false →
      resolveBranches settings context fallback branches = .ok resolved →
      resolved.anyToken property = false
  | [], fallback, resolved, _, done => by
    rw [resolveBranches, Except.ok.injEq] at done
    subst done
    exact plain fallback
  | ⟨_, guard, target⟩ :: rest, fallback, resolved, never, done => by
    rw [anyTokenOfBranches, Bool.or_eq_false_iff] at never
    rw [resolveBranches] at done
    split at done
    · cases done
    · exact anyToken_resolve plain target never.1 done
    · exact anyToken_resolveBranches plain rest never.2 done

end

mutual

/-- An action without groups leads to a token. -/
theorem ne_group_of_resolve :
    ∀ (action : Action) {members : List Action}, action.hasGroup = false →
      action.resolve settings context ≠ .ok (.group members)
  | .token action, members, _ => by simp [resolve]
  | .group _, members, never => by cases never
  | .cases branches fallback, members, never => ne_group_of_resolveBranches branches never

theorem ne_group_of_resolveBranches :
    ∀ (branches : List (Branch Action)) {fallback : String} {members : List Action},
      hasGroupOfBranches branches = false →
      resolveBranches settings context fallback branches ≠ .ok (.group members)
  | [], fallback, members, _ => by simp [resolveBranches]
  | ⟨_, guard, target⟩ :: rest, fallback, members, never => by
    rw [hasGroupOfBranches, Bool.or_eq_false_iff] at never
    rw [resolveBranches]
    split
    · simp
    · exact ne_group_of_resolve target never.1
    · exact ne_group_of_resolveBranches rest never.2

end

/-! ### Tokens inside actions -/

theorem anyTokenOf_eq_any (property : TokenAction → Bool) (members : List Action) :
    anyTokenOf property members = members.any (anyToken property) := by
  induction members with
  | nil => rfl
  | cons member rest step => rw [anyTokenOf, List.any_cons, step]

theorem anyTokenOfBranches_eq_any (property : TokenAction → Bool)
    (branches : List (Branch Action)) :
    anyTokenOfBranches property branches =
      branches.any fun branch => branch.target.anyToken property := by
  induction branches with
  | nil => rfl
  | cons branch rest step => rw [anyTokenOfBranches, List.any_cons, step]

/-- A token stands inside an action, in whatever group or branch. -/
inductive Holds (token : TokenAction) : Action → Prop where
  | token : Holds token (.token token)
  | group {members : List Action} {member : Action} (listed : member ∈ members)
      (inside : Holds token member) : Holds token (.group members)
  | cases {branches : List (Branch Action)} {fallback : String} {branch : Branch Action}
      (listed : branch ∈ branches) (inside : Holds token branch.target) :
      Holds token (.cases branches fallback)

/-- What no token inside an action has, a token that stands in it does not have. -/
theorem Holds.eq_false {token : TokenAction} {action : Action} (holds : action.Holds token)
    (never : action.anyToken property = false) : property token = false := by
  induction holds with
  | token => exact never
  | group listed inside step => exact step (anyToken_of_mem never listed)
  | cases listed inside step =>
    rw [anyToken, anyTokenOfBranches_eq_any, List.any_eq_false] at never
    exact step ((Bool.not_eq_true _).mp (never _ listed))

end Action

namespace Grammar

/-- Whether the action of some rule has a property. -/
def anyAction (property : Action → Bool) (grammar : Grammar) : Bool :=
  grammar.states.any fun state => state.2.any fun rule => property rule.action

/-- The actions of the rules, and the one where no rule matches. -/
def HasAction (grammar : Grammar) (action : Action) : Prop :=
  action = grammar.defaultAction ∨ ∃ state ∈ grammar.states, ∃ rule ∈ state.2, rule.action = action

/-- What no rule's action has, and what the action without a rule does not have either. -/
theorem eq_false_of_anyAction {grammar : Grammar} {property : Action → Bool}
    (never : grammar.anyAction property = false)
    (atDefault : property grammar.defaultAction = false) {action : Action}
    (has : grammar.HasAction action) : property action = false := by
  rcases has with rfl | ⟨state, inStates, rule, inRules, rfl⟩
  · exact atDefault
  · unfold anyAction at never
    rw [List.any_eq_false] at never
    have none := never state inStates
    rw [Bool.not_eq_true, List.any_eq_false] at none
    exact Bool.not_eq_true _ ▸ none rule inRules

/-- Rules that hold in a state are those of a declared one. -/
theorem mem_states {grammar : Grammar} {state : String} {rules : List Rule}
    (found : grammar.findRules? state = some rules) : ∃ name, (name, rules) ∈ grammar.states := by
  obtain ⟨name, _, declared⟩ := List.exists_of_findSome?_eq_some found
  obtain ⟨before, after, listed, _⟩ := List.lookup_eq_some_iff.1 declared
  exact ⟨name, by rw [listed]; simp⟩

/-- Rules that hold in a state are rules of a declared state. -/
theorem hasAction_of_findRules? {grammar : Grammar} {state : String} {rules : List Rule}
    (found : grammar.findRules? state = some rules) {rule : Rule} (inRules : rule ∈ rules) :
    grammar.HasAction rule.action := by
  obtain ⟨name, inStates⟩ := mem_states found
  exact Or.inr ⟨(name, rules), inStates, rule, inRules, rfl⟩

/-- A description that passes a check once it is compiled is one of a grammar. -/
theorem exists_of_compiles (compilation : Compilation) (check : Grammar → Bool)
    (passes : compilation.result.toOption.any check = true) :
    ∃ grammar, compilation.result = .ok grammar ∧ check grammar = true := by
  cases made : compilation.result with
  | error problem =>
    rw [made] at passes
    cases passes
  | ok grammar =>
    rw [made] at passes
    exact ⟨grammar, rfl, passes⟩

end Grammar

end LineLexer
