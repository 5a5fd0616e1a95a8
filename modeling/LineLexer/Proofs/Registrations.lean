import LineLexer.Proofs.ByteOrder
import LineLexer.Registry
import Mathlib.Data.List.Induction
import Mathlib.Data.List.Nodup
import Mathlib.Tactic.ByContra

/-!
**What a registry knows.**

A registry is changed by registering a tokenizer, by adding a further name and by removing a
tokenizer. Of all changes so far the last one that concerns a language decides whether that language
is known and by which tokenizer, and the last one that concerns a name, up to its case, decides for
which language the name stands.

* `Registry.Change`, `Registry.after`: changes, and the registry behind a history of them;
* `Registry.Latest`, `Registry.latest_concat`: the last change of a kind;
* `Registry.tokenizer?_after`, `Registry.alias?_after`: the two tables behind a history;
* `Registry.reflects_history`: the answers of a registry behind a history.
-/

namespace LineLexer

namespace Table

variable {Key Value : Type} [DecidableEq Key] {table : Table Key Value}

/-- Nothing else is left where a key has been removed. -/
theorem keys_erase (table : Table Key Value) (key : Key) :
    (table.erase key).keys = table.keys.filter (· != key) := by
  unfold keys erase
  rw [List.filter_map]
  rfl

theorem nodup_keys_erase (distinct : table.keys.Nodup) (key : Key) :
    (table.erase key).keys.Nodup := by
  rw [keys_erase]
  exact distinct.filter _

/-- A key that is set stands in the table once. -/
theorem nodup_keys_put (distinct : table.keys.Nodup) (key : Key) (value : Value) :
    (table.put key value).keys.Nodup := by
  show (key :: (table.erase key).keys).Nodup
  refine List.nodup_cons.2 ⟨?_, nodup_keys_erase distinct key⟩
  rw [keys_erase, List.mem_filter]
  simp

end Table

namespace Registry

/-! ### Histories -/

/-- A change of a registry. -/
inductive Change where
  | register (tokenizer : Tokenizer)
  | addAlias (name language : String)
  | unregister (language : String)

/-- A registry behind a change. -/
def change (registry : Registry) : Change → Registry
  | .register tokenizer => registry.register tokenizer
  | .addAlias name language => registry.addAlias name language
  | .unregister language => registry.unregister language

/-- The registry behind a history of changes, the first change first. -/
def after (changes : List Change) : Registry := changes.foldl change {}

theorem after_concat (changes : List Change) (last : Change) :
    after (changes ++ [last]) = (after changes).change last := by
  unfold after
  rw [List.foldl_append, List.foldl_cons, List.foldl_nil]

/-- A change is the last one in a history that is of a kind. -/
def Latest (kind : Change → Prop) (changes : List Change) (change : Change) : Prop :=
  ∃ earlier later, changes = earlier ++ change :: later ∧ kind change ∧
    ∀ other ∈ later, ¬ kind other

theorem not_latest_nil {kind : Change → Prop} {change : Change} : ¬ Latest kind [] change := by
  rintro ⟨earlier, later, split, -⟩
  cases earlier <;> cases split

/-- A change at the end of a history is the last one of its kind, and leaves the last ones of other
kinds. -/
theorem latest_concat {kind : Change → Prop} {changes : List Change} {last change : Change} :
    Latest kind (changes ++ [last]) change ↔
      (kind last ∧ change = last) ∨ (¬ kind last ∧ Latest kind changes change) := by
  constructor
  · rintro ⟨earlier, later, split, ofKind, others⟩
    rcases List.eq_nil_or_concat' later with rfl | ⟨between, final, rfl⟩
    · obtain ⟨-, same⟩ := List.append_inj' split rfl
      cases same
      exact Or.inl ⟨ofKind, rfl⟩
    · rw [← List.cons_append, ← List.append_assoc] at split
      obtain ⟨before, same⟩ := List.append_inj' split rfl
      cases same
      rw [List.forall_mem_append, List.forall_mem_singleton] at others
      exact Or.inr ⟨others.2, earlier, between, before, ofKind, others.1⟩
  · rintro (⟨ofKind, rfl⟩ | ⟨otherKind, earlier, later, rfl, ofKind, others⟩)
    · exact ⟨changes, [], rfl, ofKind, List.forall_mem_nil _⟩
    · refine ⟨earlier, later ++ [last], by simp, ofKind, ?_⟩
      rw [List.forall_mem_append, List.forall_mem_singleton]
      exact ⟨others, otherKind⟩

/-! ### The two tables -/

/-- A change decides by which tokenizer a language is known, if it is. -/
def Change.Concerns (language : String) : Change → Prop
  | register tokenizer => tokenizer.language = language
  | addAlias _ _ => False
  | unregister other => other = language

/-- A change decides for which language a name stands that is no language itself. -/
def Change.Names (name : String) : Change → Prop
  | addAlias other _ => lowercase other = lowercase name
  | _ => False

/-- A language is known by a tokenizer: it was registered last, and has not been removed. -/
def Stands (changes : List Change) (language : String) (tokenizer : Tokenizer) : Prop :=
  Latest (Change.Concerns language) changes (.register tokenizer)

/-- A name stands for a language: that is what the latest one of its aliases says. -/
def Means (changes : List Change) (name language : String) : Prop :=
  ∃ written, Latest (Change.Names name) changes (.addAlias written language)

theorem Stands.language {changes : List Change} {language : String} {tokenizer : Tokenizer}
    (stands : Stands changes language tokenizer) : tokenizer.language = language := by
  obtain ⟨_, _, _, same, _⟩ := stands
  exact same

/-- The tokenizer for a language is the one that was registered last and not removed since. -/
theorem tokenizer?_after {changes : List Change} {language : String} {tokenizer : Tokenizer} :
    (after changes).tokenizer? language = some tokenizer ↔ Stands changes language tokenizer := by
  unfold Stands
  induction changes using List.reverseRecOn with
  | nil => exact iff_of_false (fun found => by cases found) not_latest_nil
  | append_singleton changes last step =>
    rw [after_concat, latest_concat, ← step]
    cases last with
    | register other =>
      show (Table.put _ _ _).get? language = some tokenizer ↔ _
      rw [Table.get?_put]
      by_cases same : language = other.language
      · simp [Change.Concerns, same, eq_comm]
      · simp [Change.Concerns, same, Ne.symm same, tokenizer?]
    | addAlias name other => simp [Change.Concerns, change, addAlias, tokenizer?]
    | unregister other =>
      show (Table.erase _ _).get? language = some tokenizer ↔ _
      rw [Table.get?_erase]
      by_cases same : language = other
      · simp [Change.Concerns, same]
      · simp [Change.Concerns, same, Ne.symm same, tokenizer?]

/-- A further name stands for what the latest one says that is the same up to case. -/
theorem alias?_after {changes : List Change} {name language : String} :
    (after changes).aliases.get? (lowercase name) = some language ↔
      Means changes name language := by
  unfold Means
  induction changes using List.reverseRecOn with
  | nil => exact iff_of_false (fun found => by cases found) fun ⟨_, said⟩ => not_latest_nil said
  | append_singleton changes last step =>
    rw [after_concat]
    simp only [latest_concat]
    cases last with
    | register other => simpa [Change.Names, change, register] using step
    | unregister other => simpa [Change.Names, change, unregister] using step
    | addAlias other target =>
      show (Table.put _ _ _).get? (lowercase name) = some language ↔ _
      rw [Table.get?_put]
      by_cases same : lowercase name = lowercase other
      · simp [Change.Names, same, eq_comm]
      · simp [Change.Names, same, Ne.symm same, step]

/-- Each language that is known stands in the table once. -/
theorem nodup_keys_after (changes : List Change) : (after changes).tokenizers.keys.Nodup := by
  induction changes using List.reverseRecOn with
  | nil => exact List.nodup_nil
  | append_singleton changes last step =>
    rw [after_concat]
    cases last with
    | register tokenizer => exact Table.nodup_keys_put step _ _
    | addAlias name language => exact step
    | unregister language => exact Table.nodup_keys_erase step _

/-! ### Answers -/

/-- A language that is known is its own name, and any other name is one of the further names. -/
theorem resolve?_after (changes : List Change) (name : String) :
    ((∃ tokenizer, Stands changes name tokenizer) ∧ (after changes).resolve? name = some name) ∨
      ((∀ tokenizer, ¬ Stands changes name tokenizer) ∧
        (after changes).resolve? name = (after changes).aliases.get? (lowercase name)) := by
  unfold resolve?
  cases found : (after changes).tokenizer? name with
  | some tokenizer => exact Or.inl ⟨⟨tokenizer, tokenizer?_after.1 found⟩, rfl⟩
  | none =>
    refine Or.inr ⟨fun tokenizer stands => ?_, rfl⟩
    rw [tokenizer?_after.2 stands] at found
    cases found

/-- The languages are listed in order. -/
theorem pairwise_languages (registry : Registry) :
    registry.languages.Pairwise (· ≤ ·) := by
  have sorted : registry.languages.Pairwise fun left right => decide (left ≤ right) = true := by
    refine List.pairwise_mergeSort (fun first second third => ?_) (fun left right => ?_) _
    · simp only [decide_eq_true_eq]
      exact String.le_trans
    · simp only [Bool.or_eq_true, decide_eq_true_eq]
      exact String.le_total left right
  exact sorted.imp of_decide_eq_true

theorem mem_languages_iff (registry : Registry) (language : String) :
    language ∈ registry.languages ↔ (registry.tokenizer? language).isSome := by
  unfold languages
  rw [List.mem_mergeSort]
  exact Table.mem_keys_iff _ _

/-- What a registry answers behind a history of changes. -/
structure Reflects (changes : List Change) : Prop where
  /-- A language that is known is its own name. -/
  resolves_language : ∀ {name tokenizer}, Stands changes name tokenizer →
    (after changes).resolve? name = some name
  /-- Any other name stands for what the latest one of its aliases says, or for nothing. -/
  resolves_alias : ∀ {name}, (∀ tokenizer, ¬ Stands changes name tokenizer) →
    ∀ language, (after changes).resolve? name = some language ↔ Means changes name language
  /-- The tokenizer for a name is the one by which the language is known that the name stands for. -/
  gets : ∀ {name tokenizer}, (after changes).get? name = some tokenizer ↔
    ∃ language, (after changes).resolve? name = some language ∧ Stands changes language tokenizer
  /-- It is a tokenizer of that language. -/
  gets_language : ∀ {name tokenizer}, (after changes).get? name = some tokenizer →
    (after changes).resolve? name = some tokenizer.language
  /-- The languages that are known are listed. -/
  lists : ∀ {language}, language ∈ (after changes).languages ↔
    ∃ tokenizer, Stands changes language tokenizer
  /-- Each one is listed once. -/
  lists_once : (after changes).languages.Nodup
  /-- They are listed in the order of their bytes. -/
  lists_in_order : (after changes).languages.Pairwise fun left right =>
    Text.utf8 left < Text.utf8 right

/-- Look-ups reflect the history of a registry: after any changes, in any order, its answers are
those that the last change about the language or the name in question says. -/
theorem reflects_history (changes : List Change) : Reflects changes := by
  have gets : ∀ {name tokenizer}, (after changes).get? name = some tokenizer ↔
      ∃ language, (after changes).resolve? name = some language ∧
        Stands changes language tokenizer := by
    intro name tokenizer
    unfold get?
    simp only [Option.bind_eq_some_iff, tokenizer?_after]
  have once : (after changes).languages.Nodup :=
    (List.mergeSort_perm _ _).nodup_iff.2 (nodup_keys_after changes)
  refine ⟨?_, ?_, gets, ?_, ?_, once, ?_⟩
  · intro name tokenizer stands
    rcases resolve?_after changes name with ⟨-, own⟩ | ⟨unknown, -⟩
    · exact own
    · exact absurd stands (unknown tokenizer)
  · intro name unknown language
    rcases resolve?_after changes name with ⟨⟨tokenizer, stands⟩, -⟩ | ⟨-, further⟩
    · exact absurd stands (unknown tokenizer)
    · rw [further, alias?_after]
  · intro name tokenizer found
    obtain ⟨language, resolves, stands⟩ := gets.1 found
    rw [resolves, stands.language]
  · intro language
    rw [mem_languages_iff, Option.isSome_iff_exists]
    exact exists_congr fun tokenizer => tokenizer?_after
  · refine List.Pairwise.imp ?_ ((pairwise_languages (after changes)).and once)
    rintro left right ⟨inOrder, different⟩
    have less : left < right := by
      by_contra other
      exact different (String.le_antisymm inOrder (String.not_lt.1 other))
    exact Text.utf8_lt_of_lt less

/-- A tokenizer of a grammar without states. -/
def bareTokenizer (language : String) (identity : Nat) : Tokenizer where
  identity
  grammar := {
    settings := { language, ignoreCase := false, unicode := false, attributes := {} }
    start := "main", includeLineFeed := false, defaultToken := "source", tokenPostfix := ""
    usesEmbedded := false, brackets := [], states := [] }

/-- A language that is registered twice, one that is removed and has been the further name of
another one all along, and a further name that is left of it. -/
theorem reflects_history_removed : ∃ changes : List Change,
    (after changes).resolve? "TEXT/javascript" = some "javascript" ∧
    (after changes).resolve? "JavaScript" = none ∧
    (after changes).resolve? "css" = some "javascript" ∧
    (after changes).resolve? "stylesheet" = some "css" ∧
    ((after changes).get? "css").map Tokenizer.identity = some 2 ∧
    ((after changes).get? "stylesheet").map Tokenizer.identity = none ∧
    (after changes).languages = ["javascript", "été"] ∧ Reflects changes := by
  refine ⟨[.register (bareTokenizer "été" 3), .register (bareTokenizer "javascript" 0),
    .register (bareTokenizer "css" 1), .addAlias "text/JavaScript" "javascript",
    .addAlias "CSS" "javascript", .addAlias "StyleSheet" "css",
    .register (bareTokenizer "javascript" 2), .unregister "css"], by decide +kernel,
    by decide +kernel, by decide +kernel, by decide +kernel, by decide +kernel,
    by decide +kernel, ?_, reflects_history _⟩
  show List.mergeSort ["javascript", "été"] _ = _
  exact List.mergeSort_of_pairwise (by decide +kernel)

end Registry

end LineLexer
