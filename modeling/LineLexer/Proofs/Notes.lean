import LineLexer.Proofs.Declared
import LineLexer.Proofs.Scanning

/-!
**What is noted, and what would have ended the compilation.**

A compilation only adds to its notes and never looks at them. So it can be taken by itself: it has a
result, and notes that are put behind whatever was noted before. A compilation without tolerance
ends with the first problem that the same compilation with tolerance notes, and where nothing is
noted the two come to the same.

* `Compiling.result`, `Compiling.notes`: what a compilation by itself comes to;
* `Compiling.Plain`: compilations that only add to their notes, with one lemma for each operation;
* `Compiling.Tolerates`: a compilation that notes the problems with which another one ends;
* `Description.tolerates_compileRule`, `tolerates_expand`, `tolerates_compileBrackets`: the parts of
  a description with and without tolerance;
* `Grammar.result_strict_eq`: a grammar with and without tolerance.
-/

namespace LineLexer

/-- Notes put behind earlier ones. -/
def Progress.followedBy (earlier later : Progress) : Progress where
  tolerated := later.tolerated ++ earlier.tolerated
  usesEmbedded := earlier.usesEmbedded || later.usesEmbedded

namespace Progress

@[simp] theorem empty_followedBy (later : Progress) : followedBy {} later = later := by
  simp [followedBy]

@[simp] theorem followedBy_empty (earlier : Progress) : earlier.followedBy {} = earlier := by
  simp [followedBy]

theorem followedBy_assoc (first second third : Progress) :
    (first.followedBy second).followedBy third = first.followedBy (second.followedBy third) := by
  simp [followedBy, Bool.or_assoc]

end Progress

namespace Compiling

variable {Result Other : Type} {part strict tolerant : Compiling Result}

/-! ### Compilations by themselves -/

/-- The result of a compilation by itself. -/
def result (part : Compiling Result) : Except Problem Result := (part.run.run {}).1

/-- What a compilation by itself notes. -/
def notes (part : Compiling Result) : Progress := (part.run.run {}).2

/-- A compilation has one result and puts its notes behind whatever was noted before. -/
def Plain (part : Compiling Result) : Prop :=
  ∀ progress, part.run.run progress = (part.result, progress.followedBy part.notes)

@[simp] theorem result_pure (result : Result) :
    (pure result : Compiling Result).result = .ok result := rfl

@[simp] theorem notes_pure (result : Result) : (pure result : Compiling Result).notes = {} := rfl

@[simp] theorem result_throw (problem : Problem) :
    (throw problem : Compiling Result).result = .error problem := rfl

@[simp] theorem notes_throw (problem : Problem) : (throw problem : Compiling Result).notes = {} :=
  rfl

@[simp] theorem result_liftM (value : Except Problem Result) :
    (liftM value : Compiling Result).result = value := by
  cases value <;> rfl

@[simp] theorem notes_liftM (value : Except Problem Result) :
    (liftM value : Compiling Result).notes = {} := by
  cases value <;> rfl

theorem plain_pure (result : Result) : Plain (pure result) := by
  intro progress
  rw [result_pure, notes_pure, Progress.followedBy_empty]
  rfl

theorem plain_throw (problem : Problem) : Plain (throw problem : Compiling Result) := by
  intro progress
  rw [result_throw, notes_throw, Progress.followedBy_empty]
  rfl

theorem plain_liftM (value : Except Problem Result) : Plain (liftM value : Compiling Result) := by
  cases value with
  | error problem => exact plain_throw problem
  | ok result => exact plain_pure result

theorem liftM_ok_bind (other : Other) (next : Other → Compiling Result) :
    (liftM (.ok other : Except Problem Other) : Compiling Other) >>= next = next other := rfl

section Bind

variable {first : Compiling Other} {next : Other → Compiling Result}

/-- The result of two parts. -/
theorem result_bind (plain : Plain first) (plains : ∀ other, Plain (next other)) :
    (first >>= next).result = first.result.bind fun other => (next other).result := by
  show ((first >>= next).run.run {}).1 = _
  rw [run_bind, plain]
  cases ends : first.result with
  | error problem => rfl
  | ok other =>
    dsimp only
    rw [plains]
    rfl

/-- Where the first of two parts ends with a problem, its notes are all. -/
theorem notes_bind_of_error {problem : Problem} (ends : first.result = .error problem) :
    (first >>= next).notes = first.notes := by
  unfold result at ends
  unfold notes
  rw [run_bind]
  split
  · next same =>
    rw [same] at ends
    cases ends
  · next same => rw [same]

/-- Otherwise those of the second part are put behind them. -/
theorem notes_bind_of_ok {other : Other} (plains : ∀ other, Plain (next other))
    (ends : first.result = .ok other) :
    (first >>= next).notes = first.notes.followedBy (next other).notes := by
  unfold result at ends
  unfold notes
  rw [run_bind]
  split
  · next other' later same =>
    rw [same] at ends
    cases ends
    rw [plains, same]
    rfl
  · next same =>
    rw [same] at ends
    cases ends

theorem plain_bind (plain : Plain first) (plains : ∀ other, Plain (next other)) :
    Plain (first >>= next) := by
  intro progress
  rw [result_bind plain plains, run_bind, plain]
  cases ends : first.result with
  | error problem =>
    rw [notes_bind_of_error ends]
    rfl
  | ok other =>
    dsimp only
    rw [plains, notes_bind_of_ok plains ends, Progress.followedBy_assoc]
    rfl

end Bind

theorem result_map {first : Compiling Other} (plain : Plain first) (change : Other → Result) :
    (change <$> first).result = first.result.map change := by
  rw [map_eq_pure_bind, result_bind plain fun other => plain_pure _]
  cases first.result <;> rfl

/-! ### Compilations beside each other -/

/-- One compilation notes what another one ends with: without notes they come to the same, and
otherwise the other one ends with the problem that is noted first. -/
structure Tolerates (strict tolerant : Compiling Result) : Prop where
  strictPlain : Plain strict
  plain : Plain tolerant
  agrees : tolerant.notes.tolerated = [] →
    strict.result = tolerant.result ∧ strict.notes = tolerant.notes
  fails : ∀ problem, tolerant.notes.tolerated.getLast? = some problem →
    strict.result = .error problem

/-- A compilation that notes no problem tolerates itself. -/
theorem tolerates_self (plain : Plain part) (silent : part.notes.tolerated = []) :
    Tolerates part part where
  strictPlain := plain
  plain := plain
  agrees _ := ⟨rfl, rfl⟩
  fails problem first := by
    rw [silent] at first
    cases first

theorem tolerates_pure (result : Result) : Tolerates (pure result) (pure result) :=
  tolerates_self (plain_pure result) rfl

theorem tolerates_throw (problem : Problem) :
    Tolerates (throw problem : Compiling Result) (throw problem) :=
  tolerates_self (plain_throw problem) rfl

theorem tolerates_liftM (value : Except Problem Result) :
    Tolerates (liftM value : Compiling Result) (liftM value) :=
  tolerates_self (plain_liftM value) (by rw [notes_liftM])

theorem tolerates_bind {first relaxed : Compiling Other}
    {next relaxedNext : Other → Compiling Result}
    (one : Tolerates first relaxed) (each : ∀ other, Tolerates (next other) (relaxedNext other)) :
    Tolerates (first >>= next) (relaxed >>= relaxedNext) := by
  have strictly := result_bind one.strictPlain fun other => (each other).strictPlain
  have leniently := result_bind one.plain fun other => (each other).plain
  have plains : ∀ other, Plain (relaxedNext other) := fun other => (each other).plain
  refine ⟨plain_bind one.strictPlain fun other => (each other).strictPlain,
    plain_bind one.plain plains, ?_, ?_⟩
  · intro silent
    cases ends : relaxed.result with
    | error problem =>
      rw [notes_bind_of_error ends] at silent ⊢
      obtain ⟨same, notes⟩ := one.agrees silent
      rw [strictly, leniently, notes_bind_of_error (same.trans ends), same, ends]
      exact ⟨rfl, notes⟩
    | ok other =>
      rw [notes_bind_of_ok plains ends] at silent ⊢
      obtain ⟨later, before⟩ := List.append_eq_nil_iff.1 silent
      obtain ⟨same, notes⟩ := one.agrees before
      obtain ⟨sameToo, notesToo⟩ := (each other).agrees later
      rw [strictly, leniently, notes_bind_of_ok (fun other => (each other).strictPlain)
        (same.trans ends), same, ends, notes, notesToo]
      exact ⟨sameToo, rfl⟩
  · intro problem first
    rw [strictly]
    cases ends : relaxed.result with
    | error other =>
      rw [notes_bind_of_error ends] at first
      rw [one.fails problem first]
      rfl
    | ok other =>
      rw [notes_bind_of_ok plains ends] at first
      -- the problem noted first is one of the first part, if that notes any
      have noted := List.getLast?_append.symm.trans first
      rcases Option.or_eq_some_iff.1 noted with earlier | ⟨none, later⟩
      · rw [one.fails problem earlier]
        rfl
      · obtain ⟨same, -⟩ := one.agrees (List.getLast?_eq_none_iff.1 none)
        rw [same, ends]
        exact (each other).fails problem later

theorem tolerates_map {first relaxed : Compiling Other} (one : Tolerates first relaxed)
    (change : Other → Result) : Tolerates (change <$> first) (change <$> relaxed) := by
  rw [map_eq_pure_bind, map_eq_pure_bind]
  exact tolerates_bind one fun other => tolerates_pure _

theorem tolerates_mapM {compile relaxed : Other → Compiling Result}
    (each : ∀ value, Tolerates (compile value) (relaxed value)) (values : List Other) :
    Tolerates (values.mapM compile) (values.mapM relaxed) := by
  induction values with
  | nil => exact tolerates_pure []
  | cons value values step =>
    rw [List.mapM_cons, List.mapM_cons]
    exact tolerates_bind (each value) fun result =>
      tolerates_bind step fun results => tolerates_pure _

end Compiling

namespace Description

open Compiling

/-- The description without tolerance. -/
def strictly (description : Description) : Description := { description with tolerant := false }

/-- The description with tolerance. -/
def tolerantly (description : Description) : Description := { description with tolerant := true }

/-! ### Tolerance -/

theorem tolerates_tolerate (description : Description) (problem : Problem) :
    Tolerates (description.strictly.tolerate problem)
      (description.tolerantly.tolerate problem) where
  strictPlain := plain_throw problem
  plain progress := by
    show (_, _) = (_, _)
    rw [Progress.followedBy]
    show (Except.ok (), ({ progress with tolerated := problem :: progress.tolerated } : Progress)) =
      (Except.ok (), ⟨problem :: progress.tolerated, progress.usesEmbedded || false⟩)
    rw [Bool.or_false]
  agrees := nofun
  fails other first := by
    cases first
    rfl

/-- Without tolerance a part ends as it does by itself. -/
theorem strictly_tolerating {Result : Type} (description : Description)
    (part : Compiling (List Result)) : description.strictly.tolerating part = part := by
  funext progress
  show (description.strictly.tolerating part).run.run progress = part.run.run progress
  unfold tolerating
  rw [run_tryCatch]
  rcases part.run.run progress with ⟨_ | _, _⟩ <;> rfl

section Tolerating

variable {Result : Type} {part relaxed : Compiling (List Result)}

theorem run_tolerating (description : Description) (part : Compiling (List Result))
    (progress : Progress) :
    (description.tolerantly.tolerating part).run.run progress =
      match part.run.run progress with
      | (.ok results, later) => (.ok results, later)
      | (.error problem, later) =>
        (.ok [], { later with tolerated := problem :: later.tolerated }) := by
  unfold tolerating
  rw [run_tryCatch]
  rcases part.run.run progress with ⟨_ | _, _⟩ <;> rfl

/-- With tolerance a part that ends with a problem has no results. -/
theorem result_tolerating (description : Description) (part : Compiling (List Result)) :
    (description.tolerantly.tolerating part).result = .ok (part.result.toOption.getD []) := by
  unfold result
  rw [run_tolerating]
  rcases part.run.run {} with ⟨_ | _, _⟩ <;> rfl

theorem tolerates_tolerating (description : Description) (one : Tolerates part relaxed) :
    Tolerates (description.strictly.tolerating part)
      (description.tolerantly.tolerating relaxed) := by
  rw [strictly_tolerating]
  have runs := run_tolerating description relaxed
  have start := runs {}
  rw [one.plain, Progress.empty_followedBy] at start
  cases ends : relaxed.result with
  | ok results =>
    rw [ends] at start
    dsimp only at start
    have same : (description.tolerantly.tolerating relaxed).result = relaxed.result :=
      (congrArg Prod.fst start).trans ends.symm
    have notes : (description.tolerantly.tolerating relaxed).notes = relaxed.notes := by
      show ((description.tolerantly.tolerating relaxed).run.run {}).2 = _
      rw [start]
    refine ⟨one.strictPlain, fun progress => ?_, ?_, ?_⟩
    · rw [runs, one.plain, ends, same, notes, ends]
    · rw [same, notes]
      exact one.agrees
    · rw [notes]
      exact one.fails
  | error problem =>
    rw [ends] at start
    dsimp only at start
    have same : (description.tolerantly.tolerating relaxed).result = .ok [] :=
      congrArg Prod.fst start
    have notes : (description.tolerantly.tolerating relaxed).notes =
        { relaxed.notes with tolerated := problem :: relaxed.notes.tolerated } :=
      congrArg Prod.snd start
    refine ⟨one.strictPlain, fun progress => ?_, ?_, ?_⟩
    · rw [runs, one.plain, ends, same, notes]
      rfl
    · rw [notes]
      exact nofun
    · intro first noted
      rw [notes] at noted
      -- what ends the part is noted behind everything that the part itself notes
      by_cases silent : relaxed.notes.tolerated = []
      · rw [(one.agrees silent).1, ends]
        simpa [silent] using noted
      · refine one.fails first ?_
        rwa [List.getLast?_cons_of_ne_nil silent] at noted

end Tolerating

/-! ### Actions and rules -/

theorem tolerates_checkTarget (description : Description) (rule target : String) :
    Tolerates (description.strictly.checkTarget rule target)
      (description.tolerantly.checkTarget rule target) := by
  unfold checkTarget
  dsimp only
  rw [show description.strictly.declares = description.declares from rfl,
    show description.tolerantly.declares = description.declares from rfl]
  by_cases accepted : ((withoutAtSign target).toList.contains '$' ||
    description.declares (withoutAtSign target)) = true
  · rw [if_pos accepted, if_pos accepted]
    exact tolerates_pure ()
  · rw [if_neg accepted, if_neg accepted]
    exact tolerates_tolerate description _

theorem tolerates_compileNext (description : Description) (rule next : String) :
    Tolerates (description.strictly.compileNext rule next)
      (description.tolerantly.compileNext rule next) := by
  unfold compileNext
  split
  · exact tolerates_pure _
  · split
    · exact tolerates_pure _
    · split
      · exact tolerates_pure _
      · exact tolerates_bind (tolerates_checkTarget description rule next) fun _ =>
          tolerates_pure _

theorem tolerates_compileSide (rule : String) (value : Option Json) :
    Tolerates (compileSide rule value) (compileSide rule value) := by
  unfold compileSide
  split
  · exact tolerates_pure _
  · exact tolerates_pure _
  · exact tolerates_pure _
  · exact tolerates_throw _

theorem tolerates_compileNextAttribute (description : Description) (rule : String)
    (value : Option Json) :
    Tolerates (description.strictly.compileNextAttribute rule value)
      (description.tolerantly.compileNextAttribute rule value) := by
  unfold compileNextAttribute
  split
  · exact tolerates_pure _
  · exact tolerates_pure _
  · exact tolerates_pure _
  · exact tolerates_map (tolerates_compileNext description rule _) some
  · exact tolerates_throw _

theorem tolerates_compileSwitch (description : Description) (rule : String)
    (value : Option Json) :
    Tolerates (description.strictly.compileSwitch rule value)
      (description.tolerantly.compileSwitch rule value) := by
  unfold compileSwitch
  split
  · exact tolerates_pure _
  · exact tolerates_bind (tolerates_checkTarget description rule _) fun _ => tolerates_pure _

theorem tolerates_compileEmbedding (value : Option Json) :
    Tolerates (compileEmbedding value) (compileEmbedding value) := by
  unfold compileEmbedding
  split
  · exact tolerates_pure _
  · refine tolerates_self (fun progress => ?_) rfl
    show (_, ({ progress with usesEmbedded := true } : Progress)) =
      (_, ⟨[] ++ progress.tolerated, progress.usesEmbedded || true⟩)
    rw [Bool.or_true]
    rfl

theorem tolerates_compileToken (description : Description) (rule token : String)
    (members : Json.Members) :
    Tolerates (description.strictly.compileToken rule token members)
      (description.tolerantly.compileToken rule token members) := by
  unfold compileToken
  refine tolerates_bind (tolerates_compileSide rule _) fun side => ?_
  refine tolerates_bind (tolerates_compileNextAttribute description rule _) fun next => ?_
  refine tolerates_bind (tolerates_compileSwitch description rule _) fun switchTo => ?_
  exact tolerates_bind (tolerates_compileEmbedding _) fun embedding => tolerates_pure _

theorem tolerates_compileBranches (settings : Settings) (rule : String)
    {compileTarget relaxed : Json → Compiling Action}
    (each : ∀ value, Tolerates (compileTarget value) (relaxed value)) (members : Json.Members) :
    Tolerates (compileBranches settings rule compileTarget members)
      (compileBranches settings rule relaxed members) := by
  induction members with
  | nil => exact tolerates_pure _
  | cons member members step =>
    obtain ⟨key, value⟩ := member
    unfold compileBranches
    refine tolerates_bind (each value) fun target => ?_
    refine tolerates_bind (tolerates_liftM _) fun guard => ?_
    exact tolerates_bind step fun branches => tolerates_pure _

/-- An action with and without tolerance, by the depth of its value. -/
theorem tolerates_compileWithin (description : Description) (rule : String) (depth : Nat)
    (value : Json) :
    Tolerates (description.strictly.compileWithin rule depth value)
      (description.tolerantly.compileWithin rule depth value) := by
  induction depth generalizing value with
  | zero => exact tolerates_throw _
  | succ depth step =>
    unfold compileWithin
    split
    · exact tolerates_pure _
    · exact tolerates_pure _
    · exact tolerates_throw _
    · exact tolerates_map (tolerates_mapM step _) Action.group
    · split
      · exact tolerates_map (tolerates_compileToken description rule _ _) Action.token
      · exact tolerates_throw _
      · exact tolerates_bind (tolerates_compileBranches _ rule step _) fun branches =>
          tolerates_pure _
      · exact tolerates_throw _
      · split
        · exact tolerates_map (tolerates_compileToken description rule _ _) Action.token
        · exact tolerates_throw _
    · exact tolerates_throw _

theorem tolerates_compileRule (description : Description) (place : String) (value : Json) :
    Tolerates (description.strictly.compileRule place value)
      (description.tolerantly.compileRule place value) := by
  unfold compileRule
  refine tolerates_bind (tolerates_liftM _) fun raw => ?_
  refine tolerates_bind (tolerates_compileWithin description _ _ _) fun action => ?_
  exact tolerates_bind (tolerates_liftM _) fun pattern => tolerates_pure _

/-! ### States and brackets -/

/-- The rules of the state that a value names, where it is the target of an include. -/
def expandInclude (description : Description) (steps : Nat) (place : String) (path : List String)
    (value : Json) : Compiling (List Rule) :=
  match value.asString? with
  | none => throw (.includeNotString place)
  | some name =>
    match description.states.get? (withoutAtSign name) with
    | none => throw (.undefinedInclude (withoutAtSign name) place)
    | some included =>
      if path.contains (withoutAtSign name) then throw (.includeCycle (withoutAtSign name) place)
      else description.expand steps (place ++ "." ++ withoutAtSign name)
        (withoutAtSign name :: path) included

/-- The target of an item of a state, if the item is an include. -/
def includeOf? (item : Json) : Option Json := item.asObject?.bind (·.get? "include")

/-- The rules of one item of a state. -/
def expandItem (description : Description) (steps : Nat) (place : String) (path : List String)
    (item : Json) : Compiling (List Rule) :=
  match includeOf? item with
  | some target => description.expandInclude steps place path target
  | none => ([·]) <$> description.compileRule place item

/-- The rules of the items of a state. -/
def expandItems (description : Description) (steps : Nat) (place : String) (path : List String)
    (items : List Json) : Compiling (List Rule) :=
  description.collect place (description.expandInclude steps place path) items

theorem expandItems_cons (description : Description) (steps : Nat) (place : String)
    (path : List String) (item : Json) (items : List Json) :
    description.expandItems steps place path (item :: items) = (do
      let found ← description.tolerating (description.expandItem steps place path item)
      let later ← description.expandItems steps place path items
      pure (found ++ later)) := rfl

theorem expand_succ (description : Description) (steps : Nat) (place : String)
    (path : List String) (rules : Json) :
    description.expand (steps + 1) place path rules =
      match rules.asArray? with
      | none => description.tolerate (.rulesNotArray place) >>= fun _ => pure []
      | some items => description.expandItems steps place path items := rfl

section Expanding

variable {steps : Nat}

theorem tolerates_expandItem (description : Description)
    (inner : ∀ place path rules, Tolerates (description.strictly.expand steps place path rules)
      (description.tolerantly.expand steps place path rules))
    (place : String) (path : List String) (item : Json) :
    Tolerates (description.strictly.expandItem steps place path item)
      (description.tolerantly.expandItem steps place path item) := by
  unfold expandItem
  split
  · unfold expandInclude
    rw [show description.strictly.states = description.states from rfl,
      show description.tolerantly.states = description.states from rfl]
    split
    · exact tolerates_throw _
    · split
      · exact tolerates_throw _
      · split
        · exact tolerates_throw _
        · exact inner _ _ _
  · exact tolerates_map (tolerates_compileRule description place item) ([·])

theorem tolerates_expandItems (description : Description)
    (inner : ∀ place path rules, Tolerates (description.strictly.expand steps place path rules)
      (description.tolerantly.expand steps place path rules))
    (place : String) (path : List String) (items : List Json) :
    Tolerates (description.strictly.expandItems steps place path items)
      (description.tolerantly.expandItems steps place path items) := by
  induction items with
  | nil => exact tolerates_pure _
  | cons item items step =>
    rw [expandItems_cons, expandItems_cons]
    have one := tolerates_expandItem description inner place path item
    refine tolerates_bind (tolerates_tolerating description one) fun found => ?_
    exact tolerates_bind step fun later => tolerates_pure _

end Expanding

theorem tolerates_expand (description : Description) (steps : Nat) (place : String)
    (path : List String) (rules : Json) :
    Tolerates (description.strictly.expand steps place path rules)
      (description.tolerantly.expand steps place path rules) := by
  induction steps generalizing place path rules with
  | zero => exact tolerates_pure _
  | succ steps step =>
    rw [expand_succ, expand_succ]
    split
    · exact tolerates_bind (tolerates_tolerate description _) fun _ => tolerates_pure _
    · exact tolerates_expandItems description step place path _

theorem tolerates_compileStates (description : Description) (states : Json.Members) :
    Tolerates (description.strictly.compileStates states)
      (description.tolerantly.compileStates states) := by
  induction states with
  | nil => exact tolerates_pure _
  | cons member states step =>
    obtain ⟨state, rules⟩ := member
    unfold compileStates
    refine tolerates_bind (tolerates_expand description _ _ _ rules) fun compiled => ?_
    exact tolerates_bind step fun later => tolerates_pure _

theorem tolerates_collectBrackets (description : Description) (postfixText : String)
    (values : List Json) :
    Tolerates (description.strictly.collectBrackets postfixText values)
      (description.tolerantly.collectBrackets postfixText values) := by
  induction values with
  | nil => exact tolerates_pure _
  | cons value values step =>
    unfold collectBrackets
    refine tolerates_bind (tolerates_tolerating description ?_) fun found => ?_
    · exact tolerates_map (tolerates_liftM _) ([·])
    · exact tolerates_bind step fun later => tolerates_pure _

theorem tolerates_compileBrackets (description : Description) (postfixText : String) :
    Tolerates (description.strictly.compileBrackets postfixText)
      (description.tolerantly.compileBrackets postfixText) := by
  unfold compileBrackets
  rw [show description.strictly.settings = description.settings from rfl,
    show description.tolerantly.settings = description.settings from rfl]
  split
  · exact tolerates_pure _
  · exact tolerates_pure _
  · exact tolerates_collectBrackets description postfixText _
  · exact tolerates_bind (tolerates_tolerate description _) fun _ => tolerates_pure _

/-! ### Grammars -/

/-- The description that is compiled for the attributes of a language. -/
def describe (language : String) (tolerant : Bool) (attributes states : Json.Members) :
    Description where
  settings := {
    language
    ignoreCase := Grammar.flag attributes "ignoreCase"
    unicode := Grammar.flag attributes "unicode"
    attributes }
  states
  tolerant
  defaultToken := ((attributes.get? "defaultToken").bind Json.asString?).getD "source"

/-- What every token of the language ends with. -/
def postfixText (language : String) (attributes : Json.Members) : String :=
  ((attributes.get? "tokenPostfix").bind Json.asString?).getD ("." ++ language)

/-- The states and the brackets of a description. -/
def compileParts (description : Description) (postfixText : String) :
    Compiling (List (String × List Rule) × List Bracket) := do
  let states ← description.compileStates description.states
  let brackets ← description.compileBrackets postfixText
  pure (states, brackets)

theorem tolerates_compileParts (description : Description) (postfixText : String) :
    Tolerates (description.strictly.compileParts postfixText)
      (description.tolerantly.compileParts postfixText) := by
  unfold compileParts
  refine tolerates_bind (tolerates_compileStates description _) fun states => ?_
  exact tolerates_bind (tolerates_compileBrackets description postfixText) fun brackets =>
    tolerates_pure _

end Description

namespace Grammar

open Compiling

variable {language start : String} {value : Json} {attributes states : Json.Members}
  {problem : Problem}

/-- Why nothing can be made of a description, whatever is tolerated. -/
inductive Unusable : Json → Problem → Prop
  | notAnObject {value : Json} (other : value.asObject? = none) : Unusable value .notAnObject
  | missingTokenizer {attributes : Json.Members}
    (missing : (attributes.get? "tokenizer").bind Json.asObject? = none) :
    Unusable (.object attributes) .missingTokenizer
  | emptyTokenizer {attributes : Json.Members}
    (empty : (attributes.get? "tokenizer").bind Json.asObject? = some []) :
    Unusable (.object attributes) .emptyTokenizer
  | undefinedStart {attributes states : Json.Members} {start : String}
    (declared : (attributes.get? "tokenizer").bind Json.asObject? = some states)
    (some_state : states ≠ []) (named : (attributes.get? "start").bind Json.asString? = some start)
    (undeclared : states.contains start = false) :
    Unusable (.object attributes) (.undefinedStart start)

/-- A description has attributes, states and a start state. -/
structure Usable (value : Json) (attributes states : Json.Members) (start : String) : Prop where
  object : value = .object attributes
  declared : declaredStates attributes = .ok states
  starts : startState attributes states = .ok start

theorem declaredStates_of_cons (tokenizer : (attributes.get? "tokenizer").bind Json.asObject? =
    some states) (some_state : states ≠ []) : declaredStates attributes = .ok states := by
  unfold declaredStates
  rw [tokenizer]
  cases states with
  | nil => exact absurd rfl some_state
  | cons => rfl

/-- A description can be used, or there is a reason why not. -/
theorem usable_or_unusable (value : Json) :
    (∃ attributes states start, Usable value attributes states start) ∨
      ∃ problem, Unusable value problem := by
  cases value with
  | object attributes =>
    cases tokenizer : (Json.Members.get? attributes "tokenizer").bind Json.asObject? with
    | none => exact .inr ⟨_, .missingTokenizer tokenizer⟩
    | some states =>
      by_cases none : states = []
      · rw [none] at tokenizer
        exact .inr ⟨_, .emptyTokenizer tokenizer⟩
      · have declared := declaredStates_of_cons tokenizer none
        cases named : (Json.Members.get? attributes "start").bind Json.asString? with
        | none =>
          refine .inl ⟨attributes, states, (states.head?.map (·.1)).getD "", rfl, declared, ?_⟩
          unfold startState
          rw [named]
        | some start =>
          cases known : states.contains start with
          | false => exact .inr ⟨_, .undefinedStart tokenizer none named known⟩
          | true =>
            refine .inl ⟨attributes, states, start, rfl, declared, ?_⟩
            unfold startState
            rw [named]
            exact if_pos known
  | null | bool | number | string | array => exact .inr ⟨_, .notAnObject rfl⟩

/-- What is unusable has no grammar. -/
theorem compile_of_unusable (unusable : Unusable value problem) (tolerant : Bool) :
    compile language value tolerant =
      { result := .error { language, problem }, tolerated := [] } := by
  suffices ends : ofDescription language tolerant value = throw problem by
    unfold compile
    rw [ends]
    rfl
  unfold ofDescription
  cases unusable with
  | notAnObject other =>
    rw [other]
    rfl
  | @missingTokenizer attributes missing =>
    have declared : declaredStates attributes = .error .missingTokenizer := by
      unfold declaredStates
      rw [missing]
    rw [Json.asObject?, liftM_ok_bind, declared]
    rfl
  | @emptyTokenizer attributes empty =>
    have declared : declaredStates attributes = .error .emptyTokenizer := by
      unfold declaredStates
      rw [empty]
    rw [Json.asObject?, liftM_ok_bind, declared]
    rfl
  | @undefinedStart attributes states start tokenizer some_state named undeclared =>
    have starts : startState attributes states = .error (.undefinedStart start) := by
      unfold startState
      rw [named]
      exact if_neg (by rw [undeclared]; exact Bool.false_ne_true)
    rw [Json.asObject?, liftM_ok_bind, declaredStates_of_cons tokenizer some_state, liftM_ok_bind,
      starts]
    rfl

/-- The grammar of a language from its compiled states and brackets. -/
def ofParts (language start : String) (attributes states : Json.Members)
    (parts : List (String × List Rule) × List Bracket) (usesEmbedded : Bool) : Grammar where
  settings := (Description.describe language true attributes states).settings
  start
  includeLineFeed := flag attributes "includeLF" || flag attributes "includeLineFeed"
  defaultToken := (Description.describe language true attributes states).defaultToken
  tokenPostfix := Description.postfixText language attributes
  usesEmbedded
  brackets := parts.2
  states := parts.1

/-- What the compilation of the states and the brackets of a language comes to. -/
def finish (language start : String) (attributes states : Json.Members)
    (parts : Compiling (List (String × List Rule) × List Bracket)) : Compilation where
  result := (parts.result.map fun made =>
    ofParts language start attributes states made parts.notes.usesEmbedded).mapError
      fun problem => { language, problem }
  tolerated := parts.notes.tolerated.reverse

/-- What can be used is compiled from its states and brackets. -/
theorem compile_of_usable (usable : Usable value attributes states start) (tolerant : Bool) :
    compile language value tolerant = finish language start attributes states
      ((Description.describe language tolerant attributes states).compileParts
        (Description.postfixText language attributes)) := by
  obtain ⟨rfl, declared, starts⟩ := usable
  generalize same : (Description.describe language tolerant attributes states).compileParts
    (Description.postfixText language attributes) = parts
  have whole : ofDescription language tolerant (.object attributes) = (do
      let made ← parts
      let progress ← get
      pure (ofParts language start attributes states made progress.usesEmbedded)) := by
    unfold ofDescription
    rw [Json.asObject?, liftM_ok_bind, declared, liftM_ok_bind, starts, liftM_ok_bind, ← same]
    unfold Description.compileParts
    rw [bind_assoc]
    refine bind_congr fun compiled => ?_
    rw [bind_assoc]
    rfl
  unfold compile
  rw [whole, run_bind]
  unfold finish result notes
  rcases parts.run.run {} with ⟨_ | made, progress⟩ <;> rfl

/-- Without tolerance parts come to what they come to with it, unless something is tolerated. -/
theorem result_finish {strict tolerant : Compiling (List (String × List Rule) × List Bracket)}
    (tolerates : Tolerates strict tolerant) :
    (finish language start attributes states strict).result =
      match (finish language start attributes states tolerant).tolerated.head? with
      | some problem => .error { language, problem }
      | none => (finish language start attributes states tolerant).result := by
  unfold finish
  dsimp only
  rw [List.head?_reverse]
  cases first : tolerant.notes.tolerated.getLast? with
  | some problem =>
    rw [tolerates.fails problem first]
    rfl
  | none =>
    obtain ⟨same, notes⟩ := tolerates.agrees (List.getLast?_eq_none_iff.1 first)
    rw [same, notes]

/-- A grammar is compiled without tolerance exactly as it is with tolerance where nothing has to be
tolerated. Otherwise the first problem that is tolerated ends the compilation. -/
theorem result_strict_eq (language : String) (value : Json) :
    (compile language value false).result =
      match (compile language value true).tolerated.head? with
      | some problem => .error { language, problem }
      | none => (compile language value true).result := by
  rcases usable_or_unusable value with ⟨attributes, states, start, usable⟩ | ⟨problem, unusable⟩
  · rw [compile_of_usable usable false, compile_of_usable usable true]
    exact result_finish (Description.tolerates_compileParts
      (Description.describe language true attributes states) _)
  · rw [compile_of_unusable unusable false, compile_of_unusable unusable true]
    rfl

end Grammar

end LineLexer
