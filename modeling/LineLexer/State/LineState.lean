import LineLexer.State.Stack

/-!
**Line states.**

What is carried from the end of a line to the start of the next: the stack of states, and the
embedded language if one is active, with that language's own line state unless the language is
unknown.

* `LineState.stack`, `LineState.embedded?`: the two parts;
* `LineState.same`: whether two line states are one object, while `==` compares their content;
* `LineState.agrees`: a comparison that looks into no object that it finds on both sides;
* `beq_iff`: equality is that of the names and the languages at every level of embedding.
-/

namespace LineLexer

/-- The state between two lines. -/
inductive LineState where
  /-- No language is embedded. -/
  | host (identity : Identity) (stack : Stack)
  /-- An unknown language is embedded. -/
  | unknown (identity : Identity) (stack : Stack) (language : String)
  /-- A language is embedded that is in a state of its own. -/
  | embedding (identity : Identity) (stack : Stack) (language : String) (inner : LineState)
  deriving Repr, Inhabited

/-- An embedded language, with its own line state unless the language is unknown. -/
structure Embedded where
  language : String
  state : Option LineState
  deriving Repr, Inhabited

namespace LineState

/-- The line state of a stack and an embedded language, as a new object. -/
def make (identity : Identity) (stack : Stack) : Option Embedded → LineState
  | none => host identity stack
  | some ⟨language, none⟩ => unknown identity stack language
  | some ⟨language, some inner⟩ => embedding identity stack language inner

/-- The identity of the object. -/
def identity : LineState → Identity
  | host identity _ => identity
  | unknown identity _ _ => identity
  | embedding identity _ _ _ => identity

/-- The stack of states. -/
def stack : LineState → Stack
  | host _ stack => stack
  | unknown _ stack _ => stack
  | embedding _ stack _ _ => stack

/-- The embedded language, if there is one. -/
def embedded? : LineState → Option Embedded
  | host _ _ => none
  | unknown _ _ language => some ⟨language, none⟩
  | embedding _ _ language inner => some ⟨language, some inner⟩

/-- Whether two line states are one object. -/
def same (left right : LineState) : Bool := left.identity == right.identity

/-- The content of a line state: at each level of embedding the names of the stack and the language
embedded there. The last level embeds a language only if that is unknown. -/
def content : LineState → List (List String × Option String)
  | host _ stack => [(stack.names, none)]
  | unknown _ stack language => [(stack.names, some language)]
  | embedding _ stack language inner => (stack.names, some language) :: inner.content

/-- Whether two line states have equal stacks and embed equal languages in equal states. -/
def equal : LineState → LineState → Bool
  | host _ stack, host _ other => stack == other
  | unknown _ stack language, unknown _ other language' => stack == other && language == language'
  | embedding _ stack language inner, embedding _ other language' inner' =>
    stack == other && language == language' && inner.equal inner'
  | _, _ => false

/-- Line states are equal if their content is. -/
instance : BEq LineState where
  beq := equal

/-- Whether two line states agree: they are one object, or their stacks agree and they embed equal
languages in states that agree. -/
def agrees (left right : LineState) : Bool :=
  left.same right ||
    (left.stack.agrees right.stack &&
      match left, right with
      | host _ _, host _ _ => true
      | unknown _ _ language, unknown _ _ other => language == other
      | embedding _ _ language inner, embedding _ _ other innerOther =>
        language == other && inner.agrees innerOther
      | _, _ => false)

/-- What a hash of a line state is computed from: the fingerprints of the stacks, each with the
language embedded there, and whether that language has a state. -/
def fingerprint : LineState → List ((Nat × List String) × Option (String × Bool))
  | host _ stack => [(stack.fingerprint, none)]
  | unknown _ stack language => [(stack.fingerprint, some (language, false))]
  | embedding _ stack language inner =>
    (stack.fingerprint, some (language, true)) :: inner.fingerprint

/-- A line state for the reader of a log. -/
def describe : LineState → String
  | host _ stack =>
    "LexicalState \x7b stack: " ++ stack.describe ++ ", embedded: None \x7d"
  | unknown _ stack language =>
    "LexicalState \x7b stack: " ++ stack.describe ++
      ", embedded: Some(EmbeddedContext \x7b language_id: " ++ Quoted.literal language ++
      ", state: None \x7d) \x7d"
  | embedding _ stack language inner =>
    "LexicalState \x7b stack: " ++ stack.describe ++
      ", embedded: Some(EmbeddedContext \x7b language_id: " ++ Quoted.literal language ++
      ", state: Some(" ++ inner.describe ++ ") \x7d) \x7d"

/-- A line state in one short term: the names from the top, and the embedded language. -/
def brief (state : LineState) : String :=
  let embedded := state.embedded?.map fun embedded =>
    ", embedded=" ++ Quoted.literal embedded.language
  "LineState([" ++ ", ".intercalate state.stack.names ++ "]" ++ embedded.getD "" ++ ")"

@[simp] theorem stack_make (identity : Identity) (stack : Stack) (embedded : Option Embedded) :
    (make identity stack embedded).stack = stack := by
  rcases embedded with _ | ⟨language, _ | inner⟩ <;> rfl

@[simp] theorem embedded?_make (identity : Identity) (stack : Stack) (embedded : Option Embedded) :
    (make identity stack embedded).embedded? = embedded := by
  rcases embedded with _ | ⟨language, _ | inner⟩ <;> rfl

theorem content_ne_nil (state : LineState) : state.content ≠ [] := by
  cases state <;> simp [content]

/-- Equal line states are those with equal content. -/
theorem beq_iff {left right : LineState} :
    (left == right) = true ↔ left.content = right.content := by
  show left.equal right = true ↔ left.content = right.content
  induction left generalizing right with
  | host identity stack => cases right <;> simp [equal, content, Stack.beq_iff]
  | unknown identity stack language =>
    cases right with
    | embedding other below target inner =>
      simp [equal, content, content_ne_nil inner]
    | _ => simp [equal, content, Stack.beq_iff]
  | embedding identity stack language inner step =>
    cases right with
    | embedding other stack' language' inner' =>
      simp [equal, content, Stack.beq_iff, step]
    | _ => simp [equal, content, content_ne_nil inner]

end LineState

end LineLexer
