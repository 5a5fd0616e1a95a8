import LineLexer.Text.Casing
import LineLexer.Tokenizer.Basic

/-!
**Registries of languages.**

A registry knows tokenizers by their languages, and further names for languages. A name is first
taken for a language itself, and only then for a further name, where case does not matter:

* `Registry.register`, `Registry.unregister`, `Registry.addAlias`: changes;
* `Registry.resolve?`, `Registry.tokenizer?`, `Registry.get?`: the language for a name, the
  tokenizer for a language, and the tokenizer for a name;
* `Registry.languages`: the registered languages in order.
-/

namespace LineLexer

/-- Tokenizers by language, and further names for languages. -/
structure Registry where
  tokenizers : Table String Tokenizer := {}
  /-- Languages by further names, which are in lowercase. -/
  aliases : Table String String := {}
  deriving Repr, Inhabited

namespace Registry

/-- A text in lowercase. -/
def lowercase (name : String) : String := String.ofList (Text.lower name.toList)

/-- Adds a tokenizer, in place of one for the same language. -/
def register (registry : Registry) (tokenizer : Tokenizer) : Registry :=
  { registry with tokenizers := registry.tokenizers.put tokenizer.language tokenizer }

/-- Removes the tokenizer for a language. -/
def unregister (registry : Registry) (language : String) : Registry :=
  { registry with tokenizers := registry.tokenizers.erase language }

/-- Adds a further name for a language, in place of the same name for another one. -/
def addAlias (registry : Registry) (name language : String) : Registry :=
  { registry with aliases := registry.aliases.put (lowercase name) language }

/-- The tokenizer for a language. -/
def tokenizer? (registry : Registry) (language : String) : Option Tokenizer :=
  registry.tokenizers.get? language

/-- The language for a name. -/
def resolve? (registry : Registry) (name : String) : Option String :=
  if (registry.tokenizer? name).isSome then some name
  else registry.aliases.get? (lowercase name)

/-- The tokenizer for a name. -/
def get? (registry : Registry) (name : String) : Option Tokenizer :=
  (registry.resolve? name).bind registry.tokenizer?

/-- The registered languages in order: character by character, which is also the order of their
bytes in UTF-8. -/
def languages (registry : Registry) : List String :=
  registry.tokenizers.keys.mergeSort fun left right => decide (left ≤ right)

end Registry

end LineLexer
