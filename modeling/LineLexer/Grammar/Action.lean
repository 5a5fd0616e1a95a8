import LineLexer.Grammar.Guard
import LineLexer.Token.Basic

/-!
**Actions of rules.**

What happens when a rule has matched: one token with changes of state attached, a token for each
group of the pattern, or one of several actions that guards choose between.

* `Action.resolve`: the action after all choices, a token or a group;
* `Action.anyToken`: whether some token inside an action has a property.
-/

namespace LineLexer

/-- A change of the stack of states. -/
inductive NextState where
  /-- The state on top goes on top once more. -/
  | push
  /-- The state on top goes away. -/
  | pop
  /-- All states above the bottom go away. -/
  | popAll
  /-- The state that a template becomes goes on top. -/
  | goto (template : String)
  deriving DecidableEq, Repr

/-- A change of the embedded language. -/
inductive Embedding where
  /-- The language that a template becomes starts. -/
  | enter (template : String)
  /-- The embedded language ends. -/
  | leave
  deriving DecidableEq, Repr

/-- A token and the changes that come with it. -/
structure TokenAction where
  /-- The token, which may be a template. -/
  token : String
  /-- Whether the token is a template that refers to the match. -/
  substitute : Bool := false
  /-- The side of the bracket that the token is. -/
  side : Option Side := none
  /-- What happens to the stack. -/
  next : Option NextState := none
  /-- The template for the state that takes the place of the one on top. -/
  switchTo : Option String := none
  /-- How many characters are read again. -/
  goBack : Option Nat := none
  /-- What happens to the embedded language. -/
  embedding : Option Embedding := none
  /-- The template of a message. -/
  log : Option String := none
  deriving DecidableEq, Repr, Inhabited

/-- A branch of a choice: its key, the guard that the key says, and what it leads to. -/
structure Branch (Target : Type) where
  key : String
  guard : Guard
  target : Target
  deriving Repr

/-- What happens when a rule has matched. -/
inductive Action where
  /-- One token. -/
  | token (action : TokenAction)
  /-- One action for each group of the pattern. -/
  | group (members : List Action)
  /-- The action of the first branch whose guard holds, or else a token without changes. -/
  | cases (branches : List (Branch Action)) (fallback : String)
  deriving Repr

namespace Action

/-- An action after all choices. -/
inductive Resolved where
  | token (action : TokenAction)
  | group (members : List Action)
  deriving Repr

mutual

/-- Follows the choices of an action for a match. -/
def resolve (settings : Settings) (context : MatchContext) : Action → Except GuardFault Resolved
  | .token action => .ok (.token action)
  | .group members => .ok (.group members)
  | .cases branches fallback => resolveBranches settings context fallback branches

/-- Follows the first branch whose guard holds. -/
def resolveBranches (settings : Settings) (context : MatchContext) (fallback : String) :
    List (Branch Action) → Except GuardFault Resolved
  | [] => .ok (.token { token := fallback })
  | ⟨_, guard, target⟩ :: rest =>
    match guard.holds settings context with
    | .error fault => .error fault
    | .ok true => target.resolve settings context
    | .ok false => resolveBranches settings context fallback rest

end

mutual

/-- Whether some token inside an action, in whatever group or branch, has a property. -/
def anyToken (property : TokenAction → Bool) : Action → Bool
  | .token action => property action
  | .group members => anyTokenOf property members
  | .cases branches _ => anyTokenOfBranches property branches

/-- Whether some token inside one of several actions has a property. -/
def anyTokenOf (property : TokenAction → Bool) : List Action → Bool
  | [] => false
  | member :: rest => member.anyToken property || anyTokenOf property rest

/-- Whether some token inside one of several branches has a property. -/
def anyTokenOfBranches (property : TokenAction → Bool) : List (Branch Action) → Bool
  | [] => false
  | ⟨_, _, target⟩ :: rest => target.anyToken property || anyTokenOfBranches property rest

end

/-- Whether an action is a token by which an embedded language ends. -/
def leavesEmbedded : Action → Bool
  | .token action => action.embedding == some .leave
  | _ => false

end Action

end LineLexer
