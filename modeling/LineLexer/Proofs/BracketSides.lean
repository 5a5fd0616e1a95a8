import LineLexer.Proofs.Lowercase
import LineLexer.Proofs.Tolerance

/-!
**The two sides of a bracket.**

A description may not write the same text for both sides of a bracket. The table holds the forms in
which texts are compared, and where case is ignored two different texts can have the same form: the
brackets `BEGIN` and `begin` are one text in the table, and that is an opening bracket then.

* `Description.writtenBrackets`: the brackets as a description writes them;
* `Description.keptBrackets_eq`: the table holds those of them that are written with two texts;
* `Grammar.findBracket?_of_alone`: what a text is that a single entry has as its closing side;
* `Grammar.sides_of_brackets`: when the sides of an entry are apart, and what follows for look-up.
-/

namespace LineLexer

namespace Settings

/-- The form in which texts are compared is its own form. -/
theorem foldText_foldText (settings : Settings) (text : Text) :
    settings.foldText (settings.foldText text) = settings.foldText text := by
  unfold foldText
  split
  · exact Text.lower_lower text
  · rfl

theorem fold_fold (settings : Settings) (text : String) :
    settings.fold (settings.fold text) = settings.fold text := by
  unfold fold
  rw [String.toList_ofList, foldText_foldText]

/-- An empty text stays empty. -/
theorem fold_empty (settings : Settings) : settings.fold "" = "" := by
  unfold fold foldText
  split <;> rfl

end Settings

namespace Description

/-! ### Brackets as they are written -/

/-- The opening text, the closing text and the token of a bracket. -/
def writtenBracket? (value : Json) : Option (String × String × String) :=
  match bracketParts? value with
  | some (some opening, some closing, some token) => some (opening, closing, token)
  | _ => none

/-- The brackets that a description writes: those of the default table where it has no other one. -/
def writtenBrackets (attributes : Json.Members) : List (String × String × String) :=
  match attributes.get? "brackets" with
  | none | some .null => defaultBrackets
  | some (.array values) => values.filterMap writtenBracket?
  | some _ => []

/-- The entry of the table for a bracket that is written with two different texts. -/
def foldedBracket? (settings : Settings) (postfixText : String) :
    String × String × String → Option Bracket
  | (opening, closing, token) =>
    if opening = closing then none else some (bracket settings postfixText opening closing token)

theorem keptBracket?_eq (settings : Settings) (postfixText : String) (value : Json) :
    keptBracket? settings postfixText value =
      (writtenBracket? value).bind (foldedBracket? settings postfixText) := by
  unfold keptBracket? writtenBracket?
  rcases bracketParts? value with _ | ⟨_ | opening, _ | closing, _ | token⟩ <;> rfl

/-- The table holds the brackets that are written with two different texts. -/
theorem keptBrackets_eq (description : Description) (postfixText : String) :
    description.keptBrackets postfixText =
      (writtenBrackets description.settings.attributes).filterMap
        (foldedBracket? description.settings postfixText) := by
  unfold keptBrackets writtenBrackets
  rcases description.settings.attributes.get? "brackets" with _ | value
  · rfl
  · cases value with
    | null => rfl
    | array values =>
      dsimp only
      rw [List.filterMap_filterMap]
      exact congrArg (values.filterMap ·) (funext (keptBracket?_eq _ _))
    | bool | number | string | object => rfl

/-- A bracket has an entry exactly if its two texts are written differently. -/
theorem foldedBracket?_eq_some {settings : Settings} {postfixText : String}
    {written : String × String × String} {found : Bracket} :
    foldedBracket? settings postfixText written = some found ↔
      written.1 ≠ written.2.1 ∧
        bracket settings postfixText written.1 written.2.1 written.2.2 = found := by
  obtain ⟨opening, closing, token⟩ := written
  unfold foldedBracket?
  dsimp only
  split
  · next same => exact iff_of_false nofun fun both => both.1 same
  · next apart => exact ⟨fun made => ⟨apart, Option.some.inj made⟩, fun both => congrArg _ both.2⟩

/-- The sides of the default brackets have different forms. -/
theorem lower_defaultBrackets : ∀ written ∈ defaultBrackets,
    written.1 ≠ written.2.1 ∧ Text.lower written.1.toList ≠ Text.lower written.2.1.toList := by
  decide +kernel

theorem fold_defaultBrackets (settings : Settings) {written : String × String × String}
    (listed : written ∈ defaultBrackets) :
    settings.fold written.1 ≠ settings.fold written.2.1 := by
  obtain ⟨apart, lowered⟩ := lower_defaultBrackets written listed
  unfold Settings.fold Settings.foldText
  split
  · exact fun same => lowered (String.ofList_injective same)
  · rwa [String.ofList_toList, String.ofList_toList]

end Description

namespace Grammar

open Description

variable {language : String} {value : Json} {tolerant : Bool} {grammar : Grammar}

/-! ### The table of a grammar -/

/-- The table of a grammar holds the brackets that its description writes with two texts. -/
theorem brackets_of_compile (compiled : (compile language value tolerant).result = .ok grammar) :
    grammar.brackets = (writtenBrackets grammar.settings.attributes).filterMap
      (foldedBracket? grammar.settings grammar.tokenPostfix) := by
  have tolerated : (compile language value true).result = .ok grammar := by
    cases tolerant with
    | true => exact compiled
    | false =>
      rw [result_strict_eq] at compiled
      split at compiled
      · cases compiled
      · exact compiled
  rcases usable_or_unusable value with ⟨attributes, states, start, usable⟩ | ⟨problem, unusable⟩
  · rw [(keeps_of_compile usable tolerated).brackets, keptBrackets_eq,
      ← settings_of_compile usable tolerated]
    rw [result_compile_of_usable usable, Scanning.mapError_eq_ok] at tolerated
    obtain ⟨parts, -, rfl⟩ := exceptMap_eq_ok.1 tolerated
    rfl
  · rw [compile_of_unusable unusable] at compiled
    cases compiled

/-- A text that is compared as the closing side of an entry, and as neither side of any other, is
that side of the entry, unless the entry has the same text on both sides. -/
theorem findBracket?_of_alone {before after : List Bracket} {entry : Bracket}
    (table : grammar.brackets = before ++ entry :: after) (some_text : entry.closing ≠ "")
    (alone : ∀ other ∈ before ++ after,
      other.opening ≠ entry.closing ∧ other.closing ≠ entry.closing)
    {text : String} (compared : grammar.settings.fold text = entry.closing) :
    grammar.findBracket? text.toList =
      some (entry.token, if entry.opening = entry.closing then .opening else .closing) := by
  have nonempty : text.toList ≠ [] := by
    intro empty
    rw [String.toList_eq_nil_iff.1 empty, Settings.fold_empty] at compared
    exact some_text compared.symm
  have form : String.ofList (grammar.settings.foldText text.toList) = entry.closing := compared
  unfold findBracket?
  rw [if_neg nonempty]
  dsimp only
  have passed : ∀ other ∈ before,
      (if other.opening = entry.closing then some (other.token, Side.opening)
      else if other.closing = entry.closing then some (other.token, Side.closing)
      else none) = none := by
    intro other listed
    obtain ⟨opens, closes⟩ := alone other (List.mem_append_left _ listed)
    rw [if_neg opens, if_neg closes]
  rw [form, table, List.findSome?_append, List.findSome?_eq_none_iff.2 passed, Option.none_or,
    List.findSome?_cons]
  by_cases same : entry.opening = entry.closing
  · rw [if_pos same, if_pos same]
  · rw [if_neg same, if_neg same, if_pos rfl]

/-- How a table of brackets keeps the sides of its entries apart. -/
structure Sides (grammar : Grammar) : Prop where
  /-- The entries are the brackets that are written with two texts, in order. -/
  table : grammar.brackets = (writtenBrackets grammar.settings.attributes).filterMap
    (foldedBracket? grammar.settings grammar.tokenPostfix)
  /-- The sides of an entry are apart exactly if its two texts are not compared as one. -/
  apart : ∀ written entry,
    foldedBracket? grammar.settings grammar.tokenPostfix written = some entry →
    (entry.opening ≠ entry.closing ↔
      grammar.settings.fold written.1 ≠ grammar.settings.fold written.2.1)
  /-- Where case counts they always are. -/
  cased : grammar.settings.ignoreCase = false →
    ∀ entry ∈ grammar.brackets, entry.opening ≠ entry.closing
  /-- So are those of the default table. -/
  byDefault : grammar.settings.attributes.get? "brackets" = none →
    ∀ entry ∈ grammar.brackets, entry.opening ≠ entry.closing
  /-- A closing text is compared as it stands in the table. -/
  compared : ∀ entry ∈ grammar.brackets, grammar.settings.fold entry.closing = entry.closing
  /-- A text that is compared as the closing side of a single entry is that side of it exactly if
  its sides are apart. -/
  found : ∀ before entry after, grammar.brackets = before ++ entry :: after →
    entry.closing ≠ "" →
    (∀ other ∈ before ++ after,
      other.opening ≠ entry.closing ∧ other.closing ≠ entry.closing) →
    ∀ text, grammar.settings.fold text = entry.closing →
      grammar.findBracket? text.toList =
        some (entry.token, if entry.opening = entry.closing then .opening else .closing)

/-- The sides of a bracket are apart in the table exactly if its two texts are compared in different
forms, and a closing text that only one entry has is found as its closing side exactly then. -/
theorem sides_of_brackets (language : String) (value : Json) (tolerant : Bool) (grammar : Grammar)
    (compiled : (compile language value tolerant).result = .ok grammar) : Sides grammar := by
  have table := brackets_of_compile compiled
  have origin : ∀ entry ∈ grammar.brackets,
      ∃ written ∈ writtenBrackets grammar.settings.attributes, written.1 ≠ written.2.1 ∧
        bracket grammar.settings grammar.tokenPostfix written.1 written.2.1 written.2.2 =
          entry := by
    intro entry listed
    rw [table] at listed
    obtain ⟨written, inside, made⟩ := List.mem_filterMap.1 listed
    exact ⟨written, inside, foldedBracket?_eq_some.1 made⟩
  refine ⟨table, ?_, ?_, ?_, ?_, ?_⟩
  · intro written entry made
    obtain ⟨-, rfl⟩ := foldedBracket?_eq_some.1 made
    exact Iff.rfl
  · intro counts entry listed
    obtain ⟨written, -, differ, rfl⟩ := origin entry listed
    show grammar.settings.fold written.1 ≠ grammar.settings.fold written.2.1
    rwa [Settings.fold_of_not_ignoreCase counts, Settings.fold_of_not_ignoreCase counts]
  · intro missing entry listed
    obtain ⟨written, inside, -, rfl⟩ := origin entry listed
    unfold writtenBrackets at inside
    rw [missing] at inside
    exact fold_defaultBrackets _ inside
  · intro entry listed
    obtain ⟨written, -, -, rfl⟩ := origin entry listed
    exact grammar.settings.fold_fold written.2.1
  · intro before entry after same some_text alone text compared
    exact findBracket?_of_alone same some_text alone compared

/-- A description without rules that ignores case and has one bracket. -/
def blockBracket (opening closing : String) : Json := .object [
  ("ignoreCase", .bool true),
  ("brackets", .array [.array [.string opening, .string closing, .string "block"]]),
  ("tokenizer", .object [("main", .array [])])]

/-- The closing text is found in any case where its bracket has two texts, and as an opening one
where the bracket has two forms of one text. -/
theorem sides_of_brackets_block :
    (∃ grammar, (compile "toy" (blockBracket "BEGIN" "END") false).result = .ok grammar ∧
      grammar.findBracket? "End".toList = some ("block.toy", .closing)) ∧
    ∃ grammar, (compile "toy" (blockBracket "BEGIN" "begin") false).result = .ok grammar ∧
      grammar.findBracket? "Begin".toList = some ("block.toy", .opening) := by
  have finds : ∀ opening closing text form forms side,
      (compile "toy" (blockBracket opening closing) false).result.toOption.any (fun grammar =>
        grammar.brackets == [⟨"block.toy", form, forms⟩] &&
          grammar.settings.fold text == forms) = true →
      forms ≠ "" → (if form = forms then Side.opening else .closing) = side →
      ∃ grammar, (compile "toy" (blockBracket opening closing) false).result = .ok grammar ∧
        grammar.findBracket? text.toList = some ("block.toy", side) := by
    rintro opening closing text form forms _ passes some_text rfl
    obtain ⟨grammar, compiled, holds⟩ := exists_of_compiles _ _ passes
    rw [Bool.and_eq_true, beq_iff_eq, beq_iff_eq] at holds
    exact ⟨grammar, compiled, (sides_of_brackets _ _ _ grammar compiled).found [] _ [] holds.1
      some_text (List.forall_mem_nil _) text holds.2⟩
  exact ⟨finds "BEGIN" "END" "End" "begin" "end" _ (by decide +kernel) (by decide) rfl,
    finds "BEGIN" "begin" "Begin" "begin" "begin" _ (by decide +kernel) (by decide) rfl⟩

/-- The sides of an entry need not be apart, and its closing text need not be found as one. -/
theorem not_forall_sides_apart :
    (¬ ∀ language value tolerant grammar, (compile language value tolerant).result = .ok grammar →
      ∀ entry ∈ grammar.brackets, entry.opening ≠ entry.closing) ∧
    ¬ ∀ language value tolerant grammar, (compile language value tolerant).result = .ok grammar →
      ∀ before entry after, grammar.brackets = before ++ entry :: after → entry.closing ≠ "" →
        (∀ other ∈ before ++ after,
          other.opening ≠ entry.closing ∧ other.closing ≠ entry.closing) →
        grammar.findBracket? entry.closing.toList = some (entry.token, .closing) := by
  obtain ⟨grammar, compiled, passes⟩ :=
    exists_of_compiles (compile "toy" (blockBracket "BEGIN" "begin") false)
      (fun grammar => grammar.brackets == [⟨"block.toy", "begin", "begin"⟩] &&
        grammar.findBracket? "begin".toList == some ("block.toy", .opening)) (by decide +kernel)
  rw [Bool.and_eq_true, beq_iff_eq, beq_iff_eq] at passes
  obtain ⟨table, found⟩ := passes
  constructor
  · intro apart
    refine apart _ _ _ grammar compiled ⟨"block.toy", "begin", "begin"⟩ ?_ rfl
    rw [table]
    exact List.mem_singleton_self _
  · intro closes
    have other := closes _ _ _ grammar compiled [] _ [] table (by decide) (List.forall_mem_nil _)
    rw [found] at other
    cases other

end Grammar

end LineLexer
