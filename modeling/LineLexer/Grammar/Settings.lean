import LineLexer.Json.Basic
import LineLexer.Text.Casing

/-!
**Settings of a grammar.**

What templates, guards and patterns consult about the grammar they belong to:

* `Settings.foldText`: the text itself, or its lowercase form in a grammar that ignores case;
* `Settings.textAttribute?`: the text of an attribute of the description.
-/

namespace LineLexer

/-- What a grammar's parts consult about it. -/
structure Settings where
  /-- The language that the grammar describes. -/
  language : String
  /-- Whether patterns and word lists ignore case. -/
  ignoreCase : Bool
  /-- Whether the description asks for patterns over all characters, which they are anyway. -/
  unicode : Bool
  /-- The attributes of the description. -/
  attributes : Json.Members
  deriving Repr, Inhabited

namespace Settings

/-- The form in which texts are compared: lowercase where case is ignored. -/
def foldText (settings : Settings) (text : Text) : Text :=
  if settings.ignoreCase then text.lower else text

/-- The form in which names and words are compared. -/
def fold (settings : Settings) (text : String) : String :=
  String.ofList (settings.foldText text.toList)

/-- The text of an attribute, if it has one. -/
def textAttribute? (settings : Settings) (name : String) : Option String :=
  (settings.attributes.get? name).bind Json.asString?

/-- Nothing is changed where case counts. -/
theorem fold_of_not_ignoreCase {settings : Settings} (counts : settings.ignoreCase = false)
    (text : String) : settings.fold text = text := by
  simp [fold, foldText, counts]

end Settings

end LineLexer
