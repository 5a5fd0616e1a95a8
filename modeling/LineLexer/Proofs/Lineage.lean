import LineLexer.Proofs.Declared
import LineLexer.Proofs.Expansion
import Mathlib.Data.List.TakeWhile

/-!
**The declared state whose rules hold.**

A state has the rules of the longest declared state that its name is, or is cut to before one of its
dots. The compiler and the grammar look for it from the longest name down, and a name that is empty
counts for neither.

* `Cuts`: a name, or the part of it before one of its dots;
* `cuts_iff`, `mem_lineage_iff`, `pairwise_lineage`: the forms of a name are its cuts, the longest
  first;
* `Grammar.Longest`, `Grammar.findRules?_eq_some_iff`: the rules that are found;
* `Grammar.resolves_of_compile`: what holds of every grammar that is compiled.
-/

namespace LineLexer

/-! ### Names and their cuts -/

/-- Whether a name is another one, or the part of it before one of its dots. -/
def Cuts (state name : Text) : Prop := name = state ∨ ∃ rest, state = name ++ '.' :: rest

variable {state name before after : Text}

/-- A name without a dot has no parent. -/
theorem parentName_of_plain (plain : '.' ∉ state) : parentName state = [] := by
  have passed : state.reverse.dropWhile (· != '.') = [] := by
    rw [List.dropWhile_eq_nil_iff]
    intro letter inside
    have other : letter ≠ '.' := fun same => plain (List.mem_reverse.1 (same ▸ inside))
    simpa using other
  unfold parentName
  rw [passed]
  rfl

/-- The parent of a name is what stands before its last dot. -/
theorem parentName_append (plain : '.' ∉ after) : parentName (before ++ '.' :: after) = before := by
  have passed : ∀ letter ∈ after.reverse, (letter != '.') = true := by
    intro letter inside
    have other : letter ≠ '.' := fun same => plain (List.mem_reverse.1 (same ▸ inside))
    simpa using other
  unfold parentName
  rw [List.reverse_append, List.reverse_cons, List.append_assoc,
    List.dropWhile_append_of_pos passed, List.singleton_append,
    List.dropWhile_cons_of_neg (by simp)]
  simp

/-- A name has no dot, or a last one. -/
theorem exists_last_dot (state : Text) :
    '.' ∉ state ∨ ∃ before after, '.' ∉ after ∧ state = before ++ '.' :: after := by
  by_cases dotted : '.' ∈ state
  · obtain ⟨after, before, same, plain⟩ := List.eq_append_cons_of_mem (List.mem_reverse.2 dotted)
    refine .inr ⟨before.reverse, after.reverse, by simpa using plain, ?_⟩
    rw [← List.reverse_reverse state, same]
    simp
  · exact .inl dotted

/-- Cuts of a name with a last dot are the name itself and the cuts of what is before the dot. -/
theorem cuts_append_iff (plain : '.' ∉ after) :
    Cuts (before ++ '.' :: after) name ↔ name = before ++ '.' :: after ∨ Cuts before name := by
  refine or_congr_right ?_
  constructor
  · rintro ⟨rest, same⟩
    rcases List.append_eq_append_iff.1 same with ⟨more, rfl, ends⟩ | ⟨more, rfl, ends⟩
    · cases more with
      | nil => exact .inl (List.append_nil _)
      | cons letter more =>
        -- another dot would come behind the last one
        obtain ⟨-, rfl⟩ := List.cons_eq_cons.1 ends
        exact absurd (by simp) plain
    · cases more with
      | nil => exact .inl (List.append_nil _).symm
      | cons letter more =>
        obtain ⟨rfl, -⟩ := List.cons_eq_cons.1 ends
        exact .inr ⟨more, rfl⟩
  · rintro (rfl | ⟨rest, rfl⟩)
    · exact ⟨after, rfl⟩
    · exact ⟨rest ++ '.' :: after, by simp⟩

/-- A cut of a name is the name itself or a cut of its parent. -/
theorem cuts_iff (named : name ≠ []) :
    Cuts state name ↔ name = state ∨ Cuts (parentName state) name := by
  rcases exists_last_dot state with plain | ⟨before, after, plain, rfl⟩
  · rw [parentName_of_plain plain]
    refine or_congr_right ⟨?_, ?_⟩
    · rintro ⟨rest, rfl⟩
      exact absurd (by simp) plain
    · rintro (none | ⟨rest, none⟩)
      · exact absurd none named
      · simp at none
  · rw [parentName_append plain, cuts_append_iff plain]

/-- A cut is not longer than the name. -/
theorem Cuts.length_le (cuts : Cuts state name) : name.length ≤ state.length := by
  rcases cuts with rfl | ⟨rest, rfl⟩
  · exact Nat.le_refl _
  · simp

theorem length_parentName_lt (named : state ≠ []) : (parentName state).length < state.length := by
  rcases exists_last_dot state with plain | ⟨before, after, plain, rfl⟩
  · rw [parentName_of_plain plain]
    exact List.length_pos_of_ne_nil named
  · rw [parentName_append plain, List.length_append, List.length_cons]
    omega

/-! ### The forms of a name -/

/-- The forms of a name are its cuts, but for the empty one. -/
theorem mem_lineageWithin_iff {steps : Nat} (bound : state.length ≤ steps) {form : String} :
    form ∈ lineageWithin steps state ↔ form ≠ "" ∧ Cuts state form.toList := by
  have nothing : ¬ (form ≠ "" ∧ Cuts [] form.toList) := by
    rintro ⟨named, none | ⟨rest, none⟩⟩
    · exact named (String.toList_eq_nil_iff.1 none)
    · simp at none
  induction steps generalizing state with
  | zero =>
    rw [List.eq_nil_of_length_eq_zero (Nat.le_zero.1 bound)]
    exact iff_of_false List.not_mem_nil nothing
  | succ steps step =>
    rw [lineageWithin]
    split
    · next none =>
      rw [none]
      exact iff_of_false List.not_mem_nil nothing
    · next named =>
      have shorter := length_parentName_lt named
      have form_eq : form = String.ofList state ↔ form ≠ "" ∧ form.toList = state := by
        constructor
        · rintro rfl
          rw [String.toList_ofList]
          exact ⟨fun none => named (by simpa using none), rfl⟩
        · rintro ⟨-, same⟩
          rw [← same, String.ofList_toList]
      have below : form ∈ lineageWithin steps (parentName state) ↔
          form ≠ "" ∧ Cuts (parentName state) form.toList := step (by omega)
      rw [List.mem_cons, below, form_eq, ← and_or_left]
      refine and_congr_right fun formNamed => (cuts_iff fun none => ?_).symm
      exact formNamed (String.toList_eq_nil_iff.1 none)

/-- The longest form comes first. -/
theorem pairwise_lineageWithin {steps : Nat} (bound : state.length ≤ steps) :
    (lineageWithin steps state).Pairwise fun longer shorter =>
      shorter.toList.length < longer.toList.length := by
  induction steps generalizing state with
  | zero => exact .nil
  | succ steps step =>
    rw [lineageWithin]
    split
    · exact .nil
    · next named =>
      have shorter := length_parentName_lt named
      refine .cons (fun form inside => ?_) (step (by omega))
      have cuts := ((mem_lineageWithin_iff (by omega)).1 inside).2.length_le
      rw [String.toList_ofList]
      omega

/-- The forms of a state name are its cuts, but for the empty one. -/
theorem mem_lineage_iff {state form : String} :
    form ∈ lineage state ↔ form ≠ "" ∧ Cuts state.toList form.toList :=
  mem_lineageWithin_iff (Nat.le_refl _)

theorem pairwise_lineage (state : String) : (lineage state).Pairwise fun longer shorter =>
    shorter.toList.length < longer.toList.length :=
  pairwise_lineageWithin (Nat.le_refl _)

/-! ### The rules that are found -/

namespace Grammar

/-- Whether a form of a state name is the longest one that is declared. The empty name is none. -/
structure Longest (declared : String → Prop) (state form : String) : Prop where
  named : form ≠ ""
  cuts : Cuts state.toList form.toList
  declares : declared form
  longest : ∀ other, other ≠ "" → Cuts state.toList other.toList → declared other →
    other.toList.length ≤ form.toList.length

variable {grammar : Grammar} {state : String} {rules : List Rule}

/-- The rules that are found for a state are those of its longest form that has rules. -/
theorem findRules?_eq_some_iff :
    grammar.findRules? state = some rules ↔
      ∃ form, Longest (fun name => (grammar.rules? name).isSome) state form ∧
        grammar.rules? form = some rules := by
  have ordered := pairwise_lineage state
  unfold findRules?
  rw [List.findSome?_eq_some_iff]
  constructor
  · rintro ⟨longer, form, shorter, forms, found, none⟩
    have inside : form ∈ lineage state := by
      rw [forms]
      simp
    obtain ⟨named, cuts⟩ := mem_lineage_iff.1 inside
    refine ⟨form, ⟨named, cuts, Option.isSome_iff_exists.2 ⟨rules, found⟩, ?_⟩, found⟩
    intro other namedToo cutsToo declared
    have other_mem := mem_lineage_iff.2 ⟨namedToo, cutsToo⟩
    rw [forms] at other_mem ordered
    rcases List.mem_append.1 other_mem with before | here
    · rw [none other before] at declared
      cases declared
    · rcases List.mem_cons.1 here with rfl | behind
      · exact Nat.le_refl _
      · have less := (List.pairwise_append.1 ordered).2.1
        exact Nat.le_of_lt ((List.pairwise_cons.1 less).1 other behind)
  · rintro ⟨form, longest, found⟩
    obtain ⟨longer, shorter, forms⟩ :=
      List.append_of_mem (mem_lineage_iff.2 ⟨longest.named, longest.cuts⟩)
    refine ⟨longer, form, shorter, forms, found, fun other before => ?_⟩
    have inside : other ∈ lineage state := by
      rw [forms]
      exact List.mem_append_left _ before
    obtain ⟨namedToo, cutsToo⟩ := mem_lineage_iff.1 inside
    rw [forms] at ordered
    have less := (List.pairwise_append.1 ordered).2.2 other before form List.mem_cons_self
    by_contra has
    have most := longest.longest other namedToo cutsToo (Option.isSome_iff_ne_none.2 has)
    omega

/-- Rules hold in a state if some form of its name has rules. -/
theorem stateExists_iff :
    grammar.stateExists state = true ↔
      ∃ form, form ≠ "" ∧ Cuts state.toList form.toList ∧ (grammar.rules? form).isSome := by
  unfold stateExists findRules?
  rw [List.isSome_findSome?, List.any_eq_true]
  simp only [mem_lineage_iff, and_assoc]

/-- What is found for a state of a grammar, and what its description declares. -/
structure Resolves (description : Description) (grammar : Grammar) : Prop where
  /-- The description and the grammar know the same states. -/
  declares : ∀ state, description.declares state = grammar.stateExists state
  /-- A state is known if it, or the part of its name before some dot, is declared. -/
  known : ∀ state, grammar.stateExists state = true ↔
    ∃ form, form ≠ "" ∧ Cuts state.toList form.toList ∧ description.states.contains form = true
  /-- The rules of a state are those of the longest such form. -/
  found : ∀ state rules, grammar.findRules? state = some rules ↔
    ∃ form, Longest (fun name => description.states.contains name = true) state form ∧
      grammar.rules? form = some rules

theorem resolves_of_names {description : Description}
    (same : grammar.states.map Prod.fst = description.states.map Prod.fst) :
    Resolves description grammar := by
  have declared : ∀ name, (grammar.rules? name).isSome = description.states.contains name :=
    isSome_lookup_of_names same
  constructor
  · exact fun state => (congrFun (stateExists_eq_declares same) state).symm
  · intro state
    simp only [stateExists_iff, declared]
  · intro state rules
    simp only [findRules?_eq_some_iff, declared]

end Grammar

namespace Description

/-- The compiled states have the names of the declared ones. -/
theorem names_compileStates {description : Description} {states : Json.Members}
    {compiled : List (String × List Rule)}
    (ends : (description.compileStates states).result = .ok compiled) :
    compiled.map Prod.fst = states.map Prod.fst := by
  have pairs := forall₂_compileStates ends
  clear ends
  induction pairs with
  | nil => rfl
  | cons pair pairs step => rw [List.map_cons, List.map_cons, pair.1, step]

end Description

namespace Grammar

/-- The states of every grammar that is compiled. The description declares a state exactly if the
grammar has rules for it, and exactly if the state, or the part of its name before some dot, is the
name of a declared state that is not empty. The rules are those of the longest one. -/
theorem resolves_of_compile (language : String) (value : Json) (tolerant : Bool) (grammar : Grammar)
    (compiled : (compile language value tolerant).result = .ok grammar) :
    ∃ attributes states start, Usable value attributes states start ∧
      Resolves (Description.describe language tolerant attributes states) grammar := by
  rcases usable_or_unusable value with ⟨attributes, states, start, usable⟩ | ⟨problem, unusable⟩
  · refine ⟨attributes, states, start, usable, resolves_of_names ?_⟩
    exact Description.names_compileStates (parts_of_compile usable compiled).1
  · rw [compile_of_unusable unusable] at compiled
    cases compiled

/-- States of which one is cut to another one, one has no name, and one ends in a dot. -/
def dottedStates : Json.Members :=
  [("main", .array []), ("", .array []), ("a", .array [.array [.string "x", .string "short"]]),
    ("a.b.", .array [.array [.string "x", .string "long"], .array [.string "y", .string "long"]])]

theorem longest_dotted :
    Longest (fun name => dottedStates.contains name = true) "a.b..c" "a.b." where
  named := by decide
  cuts := .inr ⟨['c'], rfl⟩
  declares := by decide +kernel
  longest := by
    have forms : ∀ form ∈ lineage "a.b..c", dottedStates.contains form = true →
        form.toList.length ≤ "a.b.".toList.length := by decide +kernel
    exact fun other named cuts => forms other (mem_lineage_iff.2 ⟨named, cuts⟩)

/-- A state with two dots in a row has the rules of the longest form that is declared, and one that
starts with a dot has none, although the empty name is declared. -/
theorem resolves_of_compile_dotted :
    ∃ grammar rules,
      (compile "toy" (.object [("tokenizer", .object dottedStates)]) false).result = .ok grammar ∧
      grammar.rules? "a.b." = some rules ∧ grammar.findRules? "a.b..c" = some rules ∧
      grammar.stateExists ".a" = false := by
  obtain ⟨grammar, compiled, passes⟩ := exists_of_compiles
    (compile "toy" (.object [("tokenizer", .object dottedStates)]) false)
    (fun grammar => (grammar.rules? "a.b.").isSome) (by decide +kernel)
  obtain ⟨rules, held⟩ := Option.isSome_iff_exists.1 passes
  obtain ⟨attributes, states, start, ⟨object, declared, -⟩, resolves⟩ :=
    resolves_of_compile "toy" _ false grammar compiled
  cases object
  cases declared
  have unknown : grammar.stateExists ".a" = false := by
    rw [← resolves.declares]
    decide +kernel
  exact ⟨grammar, rules, compiled, held,
    (resolves.found "a.b..c" rules).2 ⟨"a.b.", longest_dotted, held⟩, unknown⟩

end Grammar

end LineLexer
