import LineLexer.Proofs.Includes

/-!
**Whether a grammar changes the embedded language.**

The flag is noted while actions are compiled, and notes outlive problems. So it says that some rule
of the grammar changes the embedded language, or that some rule does which tolerance has left out:
one whose compilation came to such a token before it came to the problem. Without tolerance no rule
is left out, and the flag is exact.

* `Compiling.embeds_bind_iff`, `embeds_mapM_iff`: what several parts note, as far as they are
  reached;
* `Description.Comes`, `embeds_compileAction_iff`: the tokens that the compilation of an action
  comes to;
* `Description.tells_compileRule`: a rule that is compiled notes exactly what it does;
* `Description.Visits`, `embeds_expandItems_iff`: the rules that the items of a state lead to;
* `Grammar.usesEmbedded_of_compile`: what the flag of a grammar says.
-/

namespace LineLexer

/-- Whether some token inside an action changes the embedded language. -/
def Action.embeds (action : Action) : Bool := action.anyToken fun token => token.embedding.isSome

/-! ### What several parts note -/

namespace Compiling

variable {Result Other : Type} {first : Compiling Other} {next : Other → Compiling Result}

/-- Whether a compilation notes a change of the embedded language. -/
def embeds (part : Compiling Result) : Bool := part.notes.usesEmbedded

theorem embeds_bind_of_error {problem : Problem} (ends : first.result = .error problem) :
    (first >>= next).embeds = first.embeds := by
  unfold embeds
  rw [notes_bind_of_error ends]

theorem embeds_bind_of_ok (plains : ∀ other, Plain (next other)) {other : Other}
    (ends : first.result = .ok other) :
    (first >>= next).embeds = (first.embeds || (next other).embeds) := by
  unfold embeds
  rw [notes_bind_of_ok plains ends]
  rfl

/-- The second of two parts notes something only where the first one has a result. -/
theorem embeds_bind_iff (plains : ∀ other, Plain (next other)) : (first >>= next).embeds = true ↔
    first.embeds = true ∨ ∃ other, first.result = .ok other ∧ (next other).embeds = true := by
  cases ends : first.result with
  | error problem =>
    rw [embeds_bind_of_error ends]
    exact ⟨.inl, fun either => either.resolve_right nofun⟩
  | ok other =>
    rw [embeds_bind_of_ok plains ends, Bool.or_eq_true]
    refine or_congr_right ⟨fun later => ⟨other, rfl, later⟩, ?_⟩
    rintro ⟨_, same, later⟩
    cases same
    exact later

@[simp] theorem embeds_pure (result : Result) : (pure result : Compiling Result).embeds = false :=
  rfl

@[simp] theorem embeds_throw (problem : Problem) :
    (throw problem : Compiling Result).embeds = false := rfl

@[simp] theorem embeds_liftM (value : Except Problem Result) :
    (liftM value : Compiling Result).embeds = false := by
  unfold embeds
  rw [notes_liftM]

/-- What is made of a result notes nothing more. -/
theorem embeds_bind_pure (change : Other → Result) :
    (first >>= fun other => pure (change other)).embeds = first.embeds := by
  cases ends : first.result with
  | error problem => exact embeds_bind_of_error ends
  | ok other => rw [embeds_bind_of_ok (fun other => plain_pure _) ends, embeds_pure, Bool.or_false]

theorem embeds_map (change : Other → Result) : (change <$> first).embeds = first.embeds := by
  rw [map_eq_pure_bind, embeds_bind_pure]

theorem plain_mapM {compile : Other → Compiling Result} (each : ∀ value, Plain (compile value))
    (values : List Other) : Plain (values.mapM compile) := by
  induction values with
  | nil => exact plain_pure []
  | cons value values step =>
    rw [List.mapM_cons]
    exact plain_bind (each value) fun result => plain_bind step fun results => plain_pure _

/-- One of several values is reached if all before it have results. -/
theorem embeds_mapM_iff {compile : Other → Compiling Result} (each : ∀ value, Plain (compile value))
    (values : List Other) : (values.mapM compile).embeds = true ↔
      ∃ before value after, values = before ++ value :: after ∧
        (∀ earlier ∈ before, ∃ result, (compile earlier).result = .ok result) ∧
        (compile value).embeds = true := by
  induction values with
  | nil =>
    refine iff_of_false Bool.false_ne_true ?_
    rintro ⟨before, value, after, same, -⟩
    exact List.append_ne_nil_of_right_ne_nil before (List.cons_ne_nil _ _) same.symm
  | cons value values step =>
    rw [List.mapM_cons, embeds_bind_iff fun result =>
      plain_bind (plain_mapM each values) fun results => plain_pure _]
    constructor
    · rintro (own | ⟨result, ends, later⟩)
      · exact ⟨[], value, values, rfl, List.forall_mem_nil _, own⟩
      · rw [embeds_bind_pure] at later
        obtain ⟨before, other, after, rfl, reached, noted⟩ := step.1 later
        exact ⟨value :: before, other, after, rfl,
          List.forall_mem_cons.2 ⟨⟨result, ends⟩, reached⟩, noted⟩
    · rintro ⟨before, other, after, same, reached, noted⟩
      cases before with
      | nil =>
        cases same
        exact .inl noted
      | cons first before =>
        cases same
        obtain ⟨⟨result, ends⟩, reached⟩ := List.forall_mem_cons.1 reached
        refine .inr ⟨result, ends, ?_⟩
        rw [embeds_bind_pure]
        exact step.2 ⟨before, other, after, rfl, reached, noted⟩

/-- Two parts that note nothing note nothing together. -/
theorem embeds_bind_of_silent (plains : ∀ other, Plain (next other)) (silent : first.embeds = false)
    (each : ∀ other, (next other).embeds = false) : (first >>= next).embeds = false := by
  cases ends : first.result with
  | error problem => rw [embeds_bind_of_error ends, silent]
  | ok other => rw [embeds_bind_of_ok plains ends, silent, each, Bool.false_or]

/-- A compilation that has a result notes a change of the embedded language exactly if the result
has one. -/
def Tells (part : Compiling Result) (flag : Result → Bool) : Prop :=
  ∀ result, part.result = .ok result → part.embeds = flag result

theorem tells_pure {flag : Result → Bool} {result : Result} (never : flag result = false) :
    Tells (pure result) flag := by
  intro other same
  cases same
  exact never.symm

theorem tells_throw (problem : Problem) (flag : Result → Bool) : Tells (throw problem) flag :=
  nofun

/-- The notes of two parts are told by what is made of their results. -/
theorem tells_bind {flag : Result → Bool} {flagged : Other → Bool} (plain : Plain first)
    (plains : ∀ other, Plain (next other)) (one : Tells first flagged)
    (each : ∀ other result, (next other).result = .ok result →
      (flagged other || (next other).embeds) = flag result) : Tells (first >>= next) flag := by
  intro result ends
  rw [result_bind plain plains] at ends
  obtain ⟨other, begins, later⟩ := exceptBind_eq_ok.1 ends
  rw [embeds_bind_of_ok plains begins, one other begins, each other result later]

theorem tells_map {flag : Result → Bool} {flagged : Other → Bool} (plain : Plain first)
    (one : Tells first flagged) {change : Other → Result}
    (same : ∀ other, flag (change other) = flagged other) : Tells (change <$> first) flag := by
  intro result ends
  rw [result_map plain] at ends
  obtain ⟨other, begins, rfl⟩ := exceptMap_eq_ok.1 ends
  rw [embeds_map, same, one other begins]

theorem tells_mapM {compile : Other → Compiling Result} {flag : Result → Bool}
    (plains : ∀ value, Plain (compile value)) (each : ∀ value, Tells (compile value) flag)
    (values : List Other) : Tells (values.mapM compile) (·.any flag) := by
  induction values with
  | nil => exact tells_pure rfl
  | cons value values step =>
    rw [List.mapM_cons]
    refine tells_bind (plains value) (fun result => plain_bind (plain_mapM plains values) fun _ =>
      plain_pure _) (each value) fun result results ends => ?_
    rw [result_bind (plain_mapM plains values) fun _ => plain_pure _] at ends
    obtain ⟨rest, later, same⟩ := exceptBind_eq_ok.1 ends
    cases same
    rw [embeds_bind_pure, step rest later, List.any_cons]

/-- A compilation notes a change of the embedded language exactly if it has a result with one. -/
def Reports (part : Compiling Result) (flag : Result → Bool) : Prop :=
  part.embeds = true ↔ ∃ result, part.result = .ok result ∧ flag result = true

theorem Reports.tells {part : Compiling Result} {flag : Result → Bool}
    (reports : Reports part flag) : Tells part flag := by
  intro result ends
  refine Bool.eq_iff_iff.2 (reports.trans ⟨?_, fun holds => ⟨result, ends, holds⟩⟩)
  rintro ⟨other, same, holds⟩
  rw [ends] at same
  cases same
  exact holds

/-- What notes nothing may go first. -/
theorem reports_bind {flag : Result → Bool} (plain : Plain first)
    (plains : ∀ other, Plain (next other)) (silent : first.embeds = false)
    (each : ∀ other, Reports (next other) flag) : Reports (first >>= next) flag := by
  unfold Reports
  rw [embeds_bind_iff plains, silent, or_iff_right Bool.false_ne_true, result_bind plain plains]
  constructor
  · rintro ⟨other, begins, later⟩
    rw [begins]
    exact (each other).1 later
  · rintro ⟨result, ends, holds⟩
    obtain ⟨other, begins, later⟩ := exceptBind_eq_ok.1 ends
    exact ⟨other, begins, (each other).2 ⟨result, later, holds⟩⟩

end Compiling

namespace Description

open Compiling

variable {description : Description} {rule place : String} {path : List String}
  {items : List Json}

/-! ### Tokens -/

theorem plain_compileToken (description : Description) (rule token : String)
    (members : Json.Members) : Plain (description.compileToken rule token members) :=
  plain_of_tolerates (fun made => made.compileToken rule token members)
    (tolerates_compileToken description rule token members)

theorem embeds_checkTarget (description : Description) (rule target : String) :
    (description.checkTarget rule target).embeds = false := by
  unfold checkTarget
  dsimp only
  split
  · rfl
  · unfold tolerate
    split <;> rfl

theorem embeds_compileSide (rule : String) (value : Option Json) :
    (compileSide rule value).embeds = false := by
  unfold compileSide
  split <;> rfl

theorem embeds_compileNextAttribute (description : Description) (rule : String)
    (value : Option Json) : (description.compileNextAttribute rule value).embeds = false := by
  unfold compileNextAttribute
  split
  · rfl
  · rfl
  · rfl
  · rw [embeds_map]
    unfold compileNext
    split
    · rfl
    · split
      · rfl
      · split
        · rfl
        · exact (embeds_bind_pure _).trans (embeds_checkTarget description rule _)
  · rfl

theorem embeds_compileSwitch (description : Description) (rule : String) (value : Option Json) :
    (description.compileSwitch rule value).embeds = false := by
  unfold compileSwitch
  split
  · rfl
  · exact (embeds_bind_pure _).trans (embeds_checkTarget description rule _)

/-- A change of the embedded language is noted where it is compiled, which always works. -/
theorem exists_compileEmbedding (value : Option Json) : ∃ embedding,
    (compileEmbedding value).result = .ok embedding ∧
      (compileEmbedding value).embeds = embedding.isSome := by
  unfold compileEmbedding
  split
  · exact ⟨none, rfl, rfl⟩
  · exact ⟨some _, rfl, rfl⟩

/-- The embedding is compiled behind all that can go wrong with a token. -/
theorem reports_compileToken (description : Description) (rule token : String)
    (members : Json.Members) :
    Reports (description.compileToken rule token members) (·.embedding.isSome) := by
  have sides := (tolerates_compileSide rule (members.get? "bracket")).plain
  have nexts : Plain (description.compileNextAttribute rule (members.get? "next")) :=
    plain_of_tolerates (fun made => made.compileNextAttribute rule _)
      (tolerates_compileNextAttribute description rule _)
  have switches : Plain (description.compileSwitch rule (members.get? "switchTo")) :=
    plain_of_tolerates (fun made => made.compileSwitch rule _)
      (tolerates_compileSwitch description rule _)
  have embeddings := (tolerates_compileEmbedding (members.get? "nextEmbedded")).plain
  unfold compileToken
  refine reports_bind sides (fun _ => plain_bind nexts fun _ => plain_bind switches fun _ =>
    plain_bind embeddings fun _ => plain_pure _) (embeds_compileSide rule _) fun side => ?_
  refine reports_bind nexts (fun _ => plain_bind switches fun _ =>
    plain_bind embeddings fun _ => plain_pure _) (embeds_compileNextAttribute _ rule _)
    fun next => ?_
  refine reports_bind switches (fun _ => plain_bind embeddings fun _ => plain_pure _)
    (embeds_compileSwitch _ rule _) fun switchTo => ?_
  obtain ⟨embedding, compiles, noted⟩ := exists_compileEmbedding (members.get? "nextEmbedded")
  unfold Reports
  rw [embeds_bind_pure, noted, result_bind embeddings fun _ => plain_pure _, compiles]
  refine ⟨fun holds => ⟨_, rfl, holds⟩, ?_⟩
  rintro ⟨action, same, holds⟩
  cases same
  exact holds

/-! ### Actions -/

theorem plain_compileWithin (description : Description) (rule : String) (depth : Nat)
    (value : Json) : Plain (description.compileWithin rule depth value) :=
  plain_of_tolerates (fun made => made.compileWithin rule depth value)
    (tolerates_compileWithin description rule depth value)

/-- A branch of a choice, its action compiled before its guard. -/
def compileBranch (settings : Settings) (rule : String) (compileTarget : Json → Compiling Action)
    (member : String × Json) : Compiling (Branch Action) := do
  let target ← compileTarget member.2
  let guard ← liftM (Guard.compile settings rule member.1)
  pure ⟨member.1, guard, target⟩

section Branches

variable {settings : Settings} {compileTarget : Json → Compiling Action}

theorem compileBranches_eq_mapM (members : Json.Members) :
    compileBranches settings rule compileTarget members =
      members.mapM (compileBranch settings rule compileTarget) := by
  induction members with
  | nil => rfl
  | cons member members step =>
    rw [List.mapM_cons, compileBranch, bind_assoc, compileBranches, step]
    refine bind_congr fun target => ?_
    rw [bind_assoc]
    exact bind_congr fun guard => (pure_bind _ _).symm

theorem plain_compileBranch (each : ∀ value, Plain (compileTarget value))
    (member : String × Json) : Plain (compileBranch settings rule compileTarget member) :=
  plain_bind (each _) fun _ => plain_bind (plain_liftM _) fun _ => plain_pure _

/-- The guard of a branch notes nothing. -/
theorem embeds_compileBranch (member : String × Json) :
    (compileBranch settings rule compileTarget member).embeds =
      (compileTarget member.2).embeds := by
  have silent : ∀ target : Action,
      (liftM (Guard.compile settings rule member.1) >>= fun guard =>
        (pure ⟨member.1, guard, target⟩ : Compiling (Branch Action))).embeds = false := by
    intro target
    rw [embeds_bind_pure, embeds_liftM]
  unfold compileBranch
  cases ends : (compileTarget member.2).result with
  | error problem => exact embeds_bind_of_error ends
  | ok target =>
    rw [embeds_bind_of_ok (fun _ => plain_bind (plain_liftM _) fun _ => plain_pure _) ends, silent,
      Bool.or_false]

theorem tells_compileBranch (each : ∀ value, Plain (compileTarget value))
    (tells : ∀ value, Tells (compileTarget value) Action.embeds) (member : String × Json) :
    Tells (compileBranch settings rule compileTarget member) (·.target.embeds) := by
  intro branch ends
  rw [embeds_compileBranch]
  rw [compileBranch, result_bind (each _) fun _ =>
    plain_bind (plain_liftM _) fun _ => plain_pure _] at ends
  obtain ⟨target, begins, ends⟩ := exceptBind_eq_ok.1 ends
  rw [result_bind (plain_liftM _) fun _ => plain_pure _] at ends
  obtain ⟨guard, -, same⟩ := exceptBind_eq_ok.1 ends
  cases same
  exact tells _ target begins

end Branches

/-- An action that is compiled notes a change of the embedded language exactly if some token inside
it has one. -/
theorem tells_compileWithin (description : Description) (rule : String) (depth : Nat)
    (value : Json) : Tells (description.compileWithin rule depth value) Action.embeds := by
  induction depth generalizing value with
  | zero => exact tells_throw _ _
  | succ depth step =>
    have plains := plain_compileWithin description rule depth
    have token : ∀ name members,
        Tells (.token <$> description.compileToken rule name members) Action.embeds := by
      intro name members
      exact tells_map (plain_compileToken _ _ _ _) (reports_compileToken _ _ _ _).tells
        fun action => rfl
    unfold compileWithin
    split
    · exact tells_pure rfl
    · exact tells_pure rfl
    · exact tells_throw _ _
    · exact tells_map (plain_mapM plains _) (tells_mapM plains step _)
        (Action.anyTokenOf_eq_any _)
    · split
      · exact token _ _
      · exact tells_throw _ _
      · next branches _ _ =>
        rw [compileBranches_eq_mapM, bind_pure_comp]
        exact tells_map (plain_mapM (plain_compileBranch plains) branches)
          (tells_mapM (plain_compileBranch plains) (tells_compileBranch plains step) branches)
          (Action.anyTokenOfBranches_eq_any _)
      · exact tells_throw _ _
      · split
        · exact token _ _
        · exact tells_throw _ _
    · exact tells_throw _ _

/-- The token of an object that stands for a single token. -/
def tokenOf? (members : Json.Members) : Option String :=
  match Json.Members.get? members "token", Json.Members.get? members "cases" with
  | some (.string token), _ => some token
  | none, none => if directives.any (Json.Members.contains members) then some "" else none
  | _, _ => none

/-- The branches of an object that is a choice. -/
def branchesOf? (members : Json.Members) : Option Json.Members :=
  match Json.Members.get? members "token", Json.Members.get? members "cases" with
  | none, some (.object branches) => some branches
  | _, _ => none

/-- The compilation of a value comes to a token that changes the embedded language: nothing is wrong
with that token, nor with what stands before it. -/
inductive Comes (description : Description) (rule : String) : Json → Prop
  | token {members : Json.Members} {token : String} {action : TokenAction}
    (named : tokenOf? members = some token)
    (compiles : (description.compileToken rule token members).result = .ok action)
    (embeds : action.embedding.isSome = true) : Comes description rule (.object members)
  | group {items before after : List Json} {item : Json} (listed : items = before ++ item :: after)
    (reached : ∀ earlier ∈ before,
      ∃ action, (description.compileAction rule (some earlier)).result = .ok action)
    (comes : Comes description rule item) : Comes description rule (.array items)
  | branch {members branches before after : Json.Members} {member : String × Json}
    (listed : branchesOf? members = some branches) (split : branches = before ++ member :: after)
    (reached : ∀ earlier ∈ before, ∃ branch, (compileBranch description.settings rule
      (fun value => description.compileAction rule (some value)) earlier).result = .ok branch)
    (comes : Comes description rule member.2) : Comes description rule (.object members)

theorem embeds_compileWithin_object (description : Description) (rule : String) (depth : Nat)
    (members : Json.Members) :
    (description.compileWithin rule (depth + 1) (.object members)).embeds = true ↔
      (∃ token, tokenOf? members = some token ∧
        (description.compileToken rule token members).embeds = true) ∨
      ∃ branches, branchesOf? members = some branches ∧
        (compileBranches description.settings rule (description.compileWithin rule depth)
          branches).embeds = true := by
  unfold compileWithin tokenOf? branchesOf?
  dsimp only
  generalize Json.Members.get? members "token" = named
  generalize Json.Members.get? members "cases" = chosen
  cases named with
  | some value =>
    cases value with
    | string token => simp [embeds_map]
    | null | bool | number | array | object => simp
  | none =>
    cases chosen with
    | some value =>
      cases value with
      | object branches => simp [embeds_map]
      | null | bool | number | string | array => simp
    | none =>
      dsimp only
      split
      · simp [embeds_map]
      · simp

theorem get?_of_branchesOf? {members branches : Json.Members}
    (listed : branchesOf? members = some branches) :
    members.get? "cases" = some (.object branches) := by
  unfold branchesOf? at listed
  split at listed
  · next chosen =>
    rw [chosen]
    exact congrArg (some ∘ Json.object) (Option.some.inj listed)
  · cases listed

section Parts

variable {members branches : Json.Members}

/-- The parts of a value are compiled as values by themselves. -/
theorem compileWithin_eq_compileAction {depth : Nat} {value : Json} (enough : value.height < depth)
    (rule : String) : description.compileWithin rule depth value =
      description.compileAction rule (some value) :=
  compileWithin_depth enough (Nat.lt_succ_self _) rule

theorem plain_compileAction (description : Description) (rule : String) (value : Json) :
    Plain (description.compileAction rule (some value)) :=
  plain_compileWithin description rule _ value

theorem height_lt_of_branchesOf? (listed : branchesOf? members = some branches)
    {member : String × Json} (present : member ∈ branches) :
    member.2.height < (Json.object members).height := by
  have below := Json.height_lt_of_mem_object present
  have whole := Json.height_lt_of_mem_object
    (Json.Members.mem_of_get? (get?_of_branchesOf? listed))
  omega

theorem embeds_compileAction_array (description : Description) (rule : String)
    (items : List Json) : (description.compileAction rule (some (.array items))).embeds = true ↔
      ∃ before item after, items = before ++ item :: after ∧
        (∀ earlier ∈ before,
          ∃ action, (description.compileAction rule (some earlier)).result = .ok action) ∧
        (description.compileAction rule (some item)).embeds = true := by
  rw [← embeds_mapM_iff (plain_compileAction description rule)]
  have same : items.mapM (description.compileWithin rule (Json.array items).height) =
      items.mapM fun item => description.compileAction rule (some item) :=
    mapM_congr_of_mem fun item present =>
      compileWithin_eq_compileAction (Json.height_lt_of_mem_array present) rule
  rw [← same]
  show (description.compileWithin rule ((Json.array items).height + 1) (.array items)).embeds =
    true ↔ _
  cases items with
  | nil => exact Iff.rfl
  | cons => rw [← embeds_map Action.group]; exact Iff.rfl

theorem embeds_compileAction_object (description : Description) (rule : String)
    (members : Json.Members) :
    (description.compileAction rule (some (.object members))).embeds = true ↔
      (∃ token, tokenOf? members = some token ∧
        (description.compileToken rule token members).embeds = true) ∨
      ∃ branches, branchesOf? members = some branches ∧
        ∃ before member after, branches = before ++ member :: after ∧
          (∀ earlier ∈ before, ∃ branch, (compileBranch description.settings rule
            (fun value => description.compileAction rule (some value)) earlier).result =
              .ok branch) ∧
          (description.compileAction rule (some member.2)).embeds = true := by
  refine (embeds_compileWithin_object description rule _ members).trans (or_congr_right ?_)
  refine exists_congr fun branches => and_congr_right fun listed => ?_
  have same : compileBranches description.settings rule
      (description.compileWithin rule (Json.object members).height) branches =
        branches.mapM (compileBranch description.settings rule fun value =>
          description.compileAction rule (some value)) := by
    rw [← compileBranches_eq_mapM]
    refine compileBranches_congr fun member present => compileWithin_eq_compileAction ?_ rule
    exact height_lt_of_branchesOf? listed present
  show (compileBranches description.settings rule
    (description.compileWithin rule (Json.object members).height) branches).embeds = true ↔ _
  rw [same, embeds_mapM_iff (plain_compileBranch (plain_compileAction description rule))]
  simp only [embeds_compileBranch]

end Parts

/-- The compilation of an action notes a change of the embedded language exactly if it comes to a
token with one. -/
theorem embeds_compileAction_iff (description : Description) (rule : String) (value : Json) :
    (description.compileAction rule (some value)).embeds = true ↔
      description.Comes rule value := by
  induction height : value.height using Nat.strongRecOn generalizing value with
  | ind height step =>
    subst height
    cases value with
    | null | bool | number | string => exact iff_of_false Bool.false_ne_true nofun
    | array items =>
      rw [embeds_compileAction_array]
      constructor
      · rintro ⟨before, item, after, rfl, reached, noted⟩
        have lower : item.height < (Json.array (before ++ item :: after)).height :=
          Json.height_lt_of_mem_array (List.mem_append_right before List.mem_cons_self)
        exact .group rfl reached ((step _ lower item rfl).1 noted)
      · rintro (_ | @⟨_, before, after, item, rfl, reached, comes⟩)
        have lower : item.height < (Json.array (before ++ item :: after)).height :=
          Json.height_lt_of_mem_array (List.mem_append_right before List.mem_cons_self)
        exact ⟨before, item, after, rfl, reached, (step _ lower item rfl).2 comes⟩
    | object members =>
      rw [embeds_compileAction_object]
      constructor
      · rintro (⟨token, named, noted⟩ | ⟨_, listed, before, member, after, rfl, reached, noted⟩)
        · obtain ⟨action, compiles, embeds⟩ := (reports_compileToken _ _ _ _).1 noted
          exact .token named compiles embeds
        · have lower : member.2.height < (Json.object members).height :=
            height_lt_of_branchesOf? listed (List.mem_append_right before List.mem_cons_self)
          exact .branch listed rfl reached ((step _ lower member.2 rfl).1 noted)
      · rintro (⟨named, compiles, embeds⟩ | _ |
          @⟨_, _, before, after, member, listed, rfl, reached, comes⟩)
        · exact .inl ⟨_, named, (reports_compileToken _ _ _ _).2 ⟨_, compiles, embeds⟩⟩
        · have lower : member.2.height < (Json.object members).height :=
            height_lt_of_branchesOf? listed (List.mem_append_right before List.mem_cons_self)
          exact .inr ⟨_, listed, before, member, after, rfl, reached,
            (step _ lower member.2 rfl).2 comes⟩

/-! ### Rules -/

/-- The compilation of a rule comes to a token that changes the embedded language. -/
def ComesInRule (description : Description) (place : String) (value : Json) : Prop :=
  ∃ raw, readRule place value = .ok raw ∧
    description.Comes (raw.name.getD place ++ ": " ++ raw.pattern) (raw.action.getD .null)

/-- The rule of a recognised form. -/
def compileRaw (description : Description) (place : String) (raw : RawRule) : Compiling Rule := do
  let name := raw.name.getD place ++ ": " ++ raw.pattern
  let action ← description.compileAction name raw.action
  let pattern ← liftM (Pattern.compile description.settings (lineStartMark raw.pattern).1
    action.leavesEmbedded)
  pure { name, pattern, action, atLineStart := raw.atLineStart || (lineStartMark raw.pattern).2 }

theorem compileRule_eq (description : Description) (place : String) (value : Json) :
    description.compileRule place value =
      liftM (readRule place value) >>= description.compileRaw place := rfl

theorem plain_compileRaw (description : Description) (place : String) (raw : RawRule) :
    Plain (description.compileRaw place raw) :=
  plain_bind (plain_compileWithin description _ _ _) fun _ =>
    plain_bind (plain_liftM _) fun _ => plain_pure _

theorem embeds_compileRaw_iff (description : Description) (place : String) (raw : RawRule) :
    (description.compileRaw place raw).embeds = true ↔
      description.Comes (raw.name.getD place ++ ": " ++ raw.pattern) (raw.action.getD .null) := by
  unfold compileRaw
  rw [embeds_bind_iff fun _ => plain_bind (plain_liftM _) fun _ => plain_pure _]
  refine (or_iff_left ?_).trans (embeds_compileAction_iff _ _ (raw.action.getD .null))
  rintro ⟨action, -, noted⟩
  rw [embeds_bind_pure, embeds_liftM] at noted
  cases noted

theorem embeds_compileRule_iff (description : Description) (place : String) (value : Json) :
    (description.compileRule place value).embeds = true ↔ description.ComesInRule place value := by
  rw [compileRule_eq, embeds_bind_iff (plain_compileRaw description place), embeds_liftM,
    or_iff_right Bool.false_ne_true, result_liftM]
  exact exists_congr fun raw => and_congr_right fun _ => embeds_compileRaw_iff _ _ _

theorem tells_compileRaw (description : Description) (place : String) (raw : RawRule) :
    Tells (description.compileRaw place raw) (·.action.embeds) := by
  unfold compileRaw
  refine tells_bind (plain_compileWithin description _ _ _) (fun _ =>
    plain_bind (plain_liftM _) fun _ => plain_pure _) (tells_compileWithin description _ _ _)
    fun action rule ends => ?_
  rw [result_bind (plain_liftM _) fun _ => plain_pure _] at ends
  obtain ⟨pattern, -, same⟩ := exceptBind_eq_ok.1 ends
  cases same
  rw [embeds_bind_pure, embeds_liftM, Bool.or_false]

/-- A rule that is compiled notes exactly what it does. -/
theorem tells_compileRule (description : Description) (place : String) (value : Json) :
    Tells (description.compileRule place value) (·.action.embeds) := by
  rw [compileRule_eq]
  have silent : Tells (liftM (readRule place value) : Compiling RawRule) fun _ => false :=
    fun _ _ => embeds_liftM _
  refine tells_bind (plain_liftM _) (plain_compileRaw _ _) silent fun raw rule ends => ?_
  rw [Bool.false_or, tells_compileRaw _ _ _ rule ends]

/-! ### States -/

/-- The expansion of items leads to a rule at a place, in the state itself or in one that is spliced
in. -/
inductive Visits (description : Description) :
    String → List String → List Json → String → Json → Prop
  | rule {place : String} {path : List String} {items : List Json} {item : Json}
    (present : item ∈ items) (no_include : includeOf? item = none) :
    Visits description place path items place item
  | included {place innerPlace state : String} {path : List String} {items inner : List Json}
    {item value stateRules innerItem : Json} (present : item ∈ items)
    (includes : includeOf? item = some value)
    (opens : description.Opens path value state stateRules)
    (declared : description.itemsOf? stateRules = some inner)
    (within : Visits description (place ++ "." ++ state) (state :: path) inner innerPlace
      innerItem) : Visits description place path items innerPlace innerItem

section Visiting

variable {steps : Nat} {innerPlace state : String} {item value innerItem stateRules : Json}
  {inner : List Json} {problem : Problem} {rules : List Rule}

/-- Items lead to what the first one leads to and to what the others lead to. -/
theorem visits_cons : description.Visits place path (item :: items) innerPlace innerItem ↔
    description.Visits place path [item] innerPlace innerItem ∨
      description.Visits place path items innerPlace innerItem := by
  constructor
  · rintro (⟨present, no_include⟩ | ⟨present, includes, opens, declared, within⟩)
    · rcases List.mem_cons.1 present with rfl | later
      · exact .inl (.rule (List.mem_singleton_self _) no_include)
      · exact .inr (.rule later no_include)
    · rcases List.mem_cons.1 present with rfl | later
      · exact .inl (.included (List.mem_singleton_self _) includes opens declared within)
      · exact .inr (.included later includes opens declared within)
  · rintro (own | later)
    · cases own with
      | rule present no_include =>
        rw [List.mem_singleton.1 present]
        exact .rule List.mem_cons_self (List.mem_singleton.1 present ▸ no_include)
      | included present includes opens declared within =>
        refine .included List.mem_cons_self ?_ opens declared within
        exact List.mem_singleton.1 present ▸ includes
    · cases later with
      | rule present no_include => exact .rule (List.mem_cons_of_mem _ present) no_include
      | included present includes opens declared within =>
        exact .included (List.mem_cons_of_mem _ present) includes opens declared within

theorem not_visits_nil : ¬ description.Visits place path [] innerPlace innerItem := by
  rintro (⟨present, -⟩ | ⟨present, -⟩)
  · cases present
  · cases present

theorem visits_rule (no_include : includeOf? item = none) :
    description.Visits place path [item] innerPlace innerItem ↔
      innerPlace = place ∧ innerItem = item := by
  constructor
  · rintro (⟨present, -⟩ | ⟨present, includes, -⟩)
    · exact ⟨rfl, List.mem_singleton.1 present⟩
    · rw [List.mem_singleton.1 present, no_include] at includes
      cases includes
  · rintro ⟨rfl, rfl⟩
    exact .rule (List.mem_singleton_self _) no_include

theorem visits_included (includes : includeOf? item = some value)
    (opens : description.Opens path value state stateRules)
    (declared : description.itemsOf? stateRules = some inner) :
    description.Visits place path [item] innerPlace innerItem ↔
      description.Visits (place ++ "." ++ state) (state :: path) inner innerPlace innerItem := by
  constructor
  · rintro (⟨present, no_include⟩ | ⟨present, includesToo, opensToo, declaredToo, within⟩)
    · rw [List.mem_singleton.1 present, includes] at no_include
      cases no_include
    · rw [List.mem_singleton.1 present, includes] at includesToo
      cases includesToo
      obtain ⟨known, -⟩ := opens
      cases opensToo with
      | target knownToo =>
        rw [known] at knownToo
        cases knownToo
        rw [declared] at declaredToo
        cases declaredToo
        exact within
  · exact .included (List.mem_singleton_self _) includes opens declared

theorem not_visits_refused (includes : includeOf? item = some value)
    (refused : description.Refused place path value problem) :
    ¬ description.Visits place path [item] innerPlace innerItem := by
  rintro (⟨present, no_include⟩ | ⟨present, includesToo, opens, -⟩)
  · rw [List.mem_singleton.1 present, includes] at no_include
    cases no_include
  · rw [List.mem_singleton.1 present, includes] at includesToo
    cases includesToo
    cases opens with
    | target known off_path =>
      cases refused with
      | notString other => cases other
      | undeclared undeclared =>
        rw [undeclared] at known
        cases known
      | cycle _ on_path => exact off_path on_path

/-- The rules that items become are those of the items they lead to that are compiled. -/
theorem Expands.mem_iff {rule : Rule} (expands : description.Expands place path items rules) :
    rule ∈ rules ↔ ∃ innerPlace item, description.Visits place path items innerPlace item ∧
      (description.compileRule innerPlace item).result = .ok rule := by
  induction expands with
  | nil => exact iff_of_false (by simp) fun ⟨_, _, visits, _⟩ => not_visits_nil visits
  | rule no_include compiles later step =>
    rw [List.mem_cons, step]
    simp only [visits_cons, visits_rule no_include, or_and_right, exists_or]
    refine or_congr_left ⟨?_, ?_⟩
    · rintro rfl
      exact ⟨_, _, ⟨rfl, rfl⟩, compiles⟩
    · rintro ⟨_, _, ⟨rfl, rfl⟩, compilesToo⟩
      rw [compiles] at compilesToo
      exact (Except.ok.inj compilesToo).symm
  | included includes opens declared within later inner step =>
    rw [List.mem_append, step, inner]
    simp only [visits_cons, visits_included includes opens declared, or_and_right, exists_or]
  | offending tolerant no_include offends later step =>
    rw [step]
    simp only [visits_cons, visits_rule no_include, or_and_right, exists_or]
    refine (or_iff_right ?_).symm
    rintro ⟨_, _, ⟨rfl, rfl⟩, compiles⟩
    rw [offends] at compiles
    cases compiles
  | refused tolerant includes refused later step =>
    rw [step]
    simp only [visits_cons, not_visits_refused includes refused, false_or]

/-- Without tolerance all rules that items lead to are compiled. -/
theorem Expands.tolerant_of_visits (expands : description.Expands place path items rules)
    (visits : description.Visits place path items innerPlace innerItem)
    (fails : (description.compileRule innerPlace innerItem).result = .error problem) :
    description.tolerant = true := by
  induction expands with
  | nil => exact absurd visits not_visits_nil
  | rule no_include compiles later step =>
    rcases visits_cons.1 visits with own | rest
    · obtain ⟨rfl, rfl⟩ := (visits_rule no_include).1 own
      rw [compiles] at fails
      cases fails
    · exact step rest
  | included includes opens declared within later inner step =>
    rcases visits_cons.1 visits with own | rest
    · exact inner ((visits_included includes opens declared).1 own)
    · exact step rest
  | offending tolerant => exact tolerant
  | refused tolerant => exact tolerant

theorem embeds_tolerating {Result : Type} (description : Description)
    (part : Compiling (List Result)) :
    (description.tolerating part).embeds = part.embeds := by
  rcases strictly_or_tolerantly description with same | same
  · rw [same, strictly_tolerating]
  · rw [same]
    show ((description.tolerantly.tolerating part).run.run {}).2.usesEmbedded =
      (part.run.run {}).2.usesEmbedded
    rw [run_tolerating]
    rcases part.run.run {} with ⟨_ | _, _⟩ <;> rfl

theorem embeds_expandItems_cons {found : List Rule} (first : description.allowance
      (description.expandItem steps place path item).result = .ok found) :
    (description.expandItems steps place path (item :: items)).embeds =
      ((description.expandItem steps place path item).embeds ||
        (description.expandItems steps place path items).embeds) := by
  rw [← result_tolerating_eq] at first
  rw [expandItems_cons, embeds_bind_of_ok (fun _ => plain_bind (plain_expandItems _ _ _ _ _)
    fun _ => plain_pure _) first, embeds_tolerating, embeds_bind_pure]

theorem embeds_expandItem_of_rule (no_include : includeOf? item = none) (steps : Nat)
    (place : String) (path : List String) :
    (description.expandItem steps place path item).embeds =
      (description.compileRule place item).embeds := by
  unfold expandItem
  rw [no_include]
  exact embeds_map _

theorem embeds_expandItem_of_refused (includes : includeOf? item = some value)
    (refused : description.Refused place path value problem) (steps : Nat) :
    (description.expandItem steps place path item).embeds = false := by
  unfold expandItem
  rw [includes]
  exact congrArg embeds (expandInclude_of_refused refused steps)

theorem embeds_expandItem_of_opens (includes : includeOf? item = some value)
    (opens : description.Opens path value state stateRules) (steps : Nat) (place : String) :
    (description.expandItem steps place path item).embeds =
      (description.expand steps (place ++ "." ++ state) (state :: path) stateRules).embeds := by
  unfold expandItem
  rw [includes]
  exact congrArg embeds (expandInclude_of_opens opens steps place)

theorem embeds_expand_succ (declared : description.itemsOf? stateRules = some inner) (steps : Nat)
    (place : String) (path : List String) :
    (description.expand (steps + 1) place path stateRules).embeds =
      (description.expandItems steps place path inner).embeds := by
  unfold itemsOf? at declared
  rw [expand_succ]
  cases array : stateRules.asArray? with
  | some items =>
    rw [array] at declared
    split at declared
    · cases declared
      rfl
    · cases declared
      rfl
  | none =>
    rw [array] at declared
    split at declared
    · next tolerant =>
      cases declared
      dsimp only
      rw [tolerate, if_pos tolerant]
      rfl
    · cases declared

/-- What is noted while items are expanded is noted by the rules that they lead to. -/
theorem Expands.embeds_iff (expands : description.Expands place path items rules)
    (enough : description.statesOff path ≤ steps) :
    (description.expandItems steps place path items).embeds = true ↔
      ∃ innerPlace item, description.Visits place path items innerPlace item ∧
        (description.compileRule innerPlace item).embeds = true := by
  induction expands generalizing steps with
  | nil => exact iff_of_false Bool.false_ne_true fun ⟨_, _, visits, _⟩ => not_visits_nil visits
  | rule no_include compiles later step =>
    rw [embeds_expandItems_cons (by rw [result_expandItem_of_rule no_include, compiles,
        Except.map, allowance_ok]), embeds_expandItem_of_rule no_include, Bool.or_eq_true,
      step enough]
    simp only [visits_cons, visits_rule no_include, or_and_right, exists_or, and_assoc,
      exists_and_left, exists_eq_left]
  | included includes opens declared within later inner step =>
    have fewer := opens.statesOff_lt
    obtain ⟨fewerSteps, rfl⟩ : ∃ fewerSteps, steps = fewerSteps + 1 :=
      Nat.exists_eq_add_one.2 (by omega)
    have made : (description.expandItems fewerSteps _ _ _).result = _ :=
      within.result_eq (by omega)
    rw [embeds_expandItems_cons (by rw [result_expandItem_of_opens includes opens,
        result_expand_succ, declared]; dsimp only; rw [made, allowance_ok]),
      embeds_expandItem_of_opens includes opens, embeds_expand_succ declared, Bool.or_eq_true,
      inner (by omega), step enough]
    simp only [visits_cons, visits_included includes opens declared, or_and_right, exists_or]
  | offending tolerant no_include offends later step =>
    rw [embeds_expandItems_cons (by rw [result_expandItem_of_rule no_include, offends,
        Except.map, allowance_error tolerant]), embeds_expandItem_of_rule no_include,
      Bool.or_eq_true, step enough]
    simp only [visits_cons, visits_rule no_include, or_and_right, exists_or, and_assoc,
      exists_and_left, exists_eq_left]
  | refused tolerant includes refused later step =>
    rw [embeds_expandItems_cons (by rw [result_expandItem_of_refused includes refused,
        allowance_error tolerant]), embeds_expandItem_of_refused includes refused,
      Bool.false_or, step enough]
    simp only [visits_cons, not_visits_refused includes refused, false_or]

/-- A rule that items lead to is left out although its compilation came to a token that changes the
embedded language. -/
def LeavesOut (description : Description) (place : String) (path : List String)
    (items : List Json) : Prop :=
  ∃ innerPlace item problem, description.Visits place path items innerPlace item ∧
    (description.compileRule innerPlace item).result = .error problem ∧
    description.ComesInRule innerPlace item

/-- What is noted is what the rules do that the items become, and what those do that are left out.
-/
theorem Expands.embeds_iff_any (expands : description.Expands place path items rules)
    (enough : description.statesOff path ≤ steps) :
    (description.expandItems steps place path items).embeds = true ↔
      rules.any (·.action.embeds) = true ∨ description.LeavesOut place path items := by
  rw [expands.embeds_iff enough, List.any_eq_true]
  constructor
  · rintro ⟨innerPlace, item, visits, noted⟩
    cases ends : (description.compileRule innerPlace item).result with
    | ok rule =>
      refine .inl ⟨rule, expands.mem_iff.2 ⟨innerPlace, item, visits, ends⟩, ?_⟩
      exact (tells_compileRule _ _ _ rule ends).symm.trans noted
    | error problem =>
      exact .inr ⟨innerPlace, item, problem, visits, ends, (embeds_compileRule_iff _ _ _).1 noted⟩
  · rintro (⟨rule, listed, embeds⟩ | ⟨innerPlace, item, problem, visits, -, comes⟩)
    · obtain ⟨innerPlace, item, visits, ends⟩ := expands.mem_iff.1 listed
      exact ⟨innerPlace, item, visits, (tells_compileRule _ _ _ rule ends).trans embeds⟩
    · exact ⟨innerPlace, item, visits, (embeds_compileRule_iff _ _ _).2 comes⟩

/-- Without tolerance nothing is left out. -/
theorem Expands.not_leavesOut (strict : description.tolerant = false)
    (expands : description.Expands place path items rules) :
    ¬ description.LeavesOut place path items := by
  rintro ⟨innerPlace, item, problem, visits, fails, -⟩
  rw [expands.tolerant_of_visits visits fails] at strict
  cases strict

end Visiting

/-- A declared state leaves out a rule that changes the embedded language. -/
def StateLeavesOut (description : Description) (declared : String × Json) : Prop :=
  ∃ items, description.itemsOf? declared.2 = some items ∧
    description.LeavesOut ("tokenizer." ++ declared.1) [declared.1] items

theorem embeds_expandState_iff {declared : String × Json}
    (present : declared ∈ description.states) {rules : List Rule}
    (ends : (description.expandState declared).result = .ok rules) :
    (description.expandState declared).embeds = true ↔
      rules.any (·.action.embeds) = true ∨ description.StateLeavesOut declared := by
  have enough := statesOff_singleton_lt present
  obtain ⟨items, asArray, expands⟩ := (result_expand_iff enough).1 ends
  obtain ⟨steps, counted⟩ : ∃ steps, description.states.length = steps + 1 :=
    Nat.exists_eq_add_one.2 (by omega)
  unfold expandState
  rw [counted, embeds_expand_succ asArray, expands.embeds_iff_any (by omega)]
  refine or_congr_right ⟨fun leaves => ⟨items, asArray, leaves⟩, ?_⟩
  rintro ⟨others, same, leaves⟩
  rw [asArray] at same
  cases same
  exact leaves

theorem not_stateLeavesOut (strict : description.tolerant = false) {declared : String × Json}
    (present : declared ∈ description.states) {rules : List Rule}
    (ends : (description.expandState declared).result = .ok rules) :
    ¬ description.StateLeavesOut declared := by
  obtain ⟨items, asArray, expands⟩ :=
    (result_expand_iff (statesOff_singleton_lt present)).1 ends
  rintro ⟨others, same, leaves⟩
  rw [asArray] at same
  cases same
  exact expands.not_leavesOut strict leaves

theorem embeds_compileStates {states : Json.Members} {compiled : List (String × List Rule)}
    (ends : (description.compileStates states).result = .ok compiled) :
    (description.compileStates states).embeds =
      states.any fun declared => (description.expandState declared).embeds := by
  induction states generalizing compiled with
  | nil => rfl
  | cons state states step =>
    rw [result_compileStates_cons] at ends
    obtain ⟨rules, first, ends⟩ := exceptBind_eq_ok.1 ends
    obtain ⟨later, rest, -⟩ := exceptMap_eq_ok.1 ends
    show (description.expandState state >>= fun compiled => description.compileStates states >>=
      fun later => pure ((state.1, compiled) :: later)).embeds = _
    rw [embeds_bind_of_ok (fun _ => plain_bind (plain_compileStates _ _) fun _ => plain_pure _)
      first, embeds_bind_pure, step rest, List.any_cons]

theorem embeds_collectBrackets (description : Description) (postfixText : String)
    (values : List Json) : (description.collectBrackets postfixText values).embeds = false := by
  induction values with
  | nil => rfl
  | cons value values step =>
    have later : Plain (description.collectBrackets postfixText values) :=
      plain_of_tolerates (fun made => made.collectBrackets postfixText values)
        (tolerates_collectBrackets description postfixText values)
    unfold collectBrackets
    refine embeds_bind_of_silent (fun _ => plain_bind later fun _ => plain_pure _) ?_ fun _ => ?_
    · rw [embeds_tolerating, embeds_map, embeds_liftM]
    · rw [embeds_bind_pure, step]

theorem embeds_compileBrackets (description : Description) (postfixText : String) :
    (description.compileBrackets postfixText).embeds = false := by
  unfold compileBrackets
  split
  · rfl
  · rfl
  · exact embeds_collectBrackets description postfixText _
  · unfold tolerate
    split <;> rfl

theorem embeds_compileParts {postfixText : String}
    {parts : List (String × List Rule) × List Bracket}
    (ends : (description.compileParts postfixText).result = .ok parts) :
    (description.compileParts postfixText).embeds =
      (description.compileStates description.states).embeds := by
  rw [result_compileParts] at ends
  obtain ⟨compiled, first, -⟩ := exceptBind_eq_ok.1 ends
  unfold compileParts
  rw [embeds_bind_of_ok (fun _ => plain_bind (plain_compileBrackets _ _) fun _ => plain_pure _)
    first, embeds_bind_pure, embeds_compileBrackets, Bool.or_false]

end Description

/-! ### Grammars -/

namespace Grammar

open Compiling Description

variable {language start : String} {value : Json} {attributes states : Json.Members}
  {tolerant : Bool} {grammar : Grammar}

theorem any_iff_of_forall₂ {Value Other : Type} {test : Value → Bool} {testToo : Other → Bool}
    {extra : Value → Prop} {values : List Value} {others : List Other}
    (pairs : List.Forall₂
      (fun value other => test value = true ↔ testToo other = true ∨ extra value) values others) :
    values.any test = true ↔ others.any testToo = true ∨ ∃ value ∈ values, extra value := by
  induction pairs with
  | nil => simp
  | cons first pairs step =>
    rw [List.any_cons, List.any_cons, Bool.or_eq_true, Bool.or_eq_true, first, step,
      List.exists_mem_cons_iff, or_or_or_comm]

/-- The flag of a grammar is what is noted while its states are compiled. -/
theorem usesEmbedded_eq (usable : Usable value attributes states start)
    (compiled : (compile language value tolerant).result = .ok grammar) :
    grammar.usesEmbedded =
      ((describe language tolerant attributes states).compileStates states).embeds := by
  rw [result_compile_of_usable usable, Scanning.mapError_eq_ok] at compiled
  obtain ⟨parts, made, rfl⟩ := exceptMap_eq_ok.1 compiled
  exact embeds_compileParts made

/-- What the flag of a grammar says, if it has been compiled from a description. -/
structure FlagOf (description : Description) (grammar : Grammar) : Prop where
  /-- Some rule of the grammar changes the embedded language, or some rule that was left out. -/
  meaning : grammar.usesEmbedded = true ↔ grammar.anyAction Action.embeds = true ∨
    ∃ declared ∈ description.states, description.StateLeavesOut declared
  /-- Without tolerance some rule of the grammar does. -/
  exact_of_strict : description.tolerant = false →
    grammar.usesEmbedded = grammar.anyAction Action.embeds

theorem flagOf_of_usable (usable : Usable value attributes states start)
    (compiled : (compile language value tolerant).result = .ok grammar) :
    FlagOf (describe language tolerant attributes states) grammar := by
  have made := (parts_of_compile usable compiled).1
  have pairs := (List.forall₂_and_left _ _).2
    ⟨fun declared (present : declared ∈ states) => present, forall₂_compileStates made⟩
  have meaning : grammar.usesEmbedded = true ↔ grammar.anyAction Action.embeds = true ∨
      ∃ declared ∈ states,
        (describe language tolerant attributes states).StateLeavesOut declared := by
    rw [usesEmbedded_eq usable compiled, embeds_compileStates made]
    refine any_iff_of_forall₂ (pairs.imp ?_)
    rintro declared state ⟨present, -, ends⟩
    exact embeds_expandState_iff present ends
  refine ⟨meaning, fun strict => ?_⟩
  have none : ¬ ∃ declared ∈ states,
      (describe language tolerant attributes states).StateLeavesOut declared := by
    rintro ⟨declared, present, leaves⟩
    obtain ⟨state, -, -, -, ends⟩ := exists_mem_of_forall₂ pairs.flip present
    exact not_stateLeavesOut strict present ends leaves
  exact Bool.eq_iff_iff.2 (meaning.trans (or_iff_left none))

/-- A compiled grammar has some rule that changes the embedded language exactly if its flag says so,
unless tolerance has left out a rule whose compilation came to such a token before it came to a
problem. Nothing is left out without tolerance, nor where there was nothing to tolerate. -/
theorem usesEmbedded_of_compile (language : String) (value : Json) (tolerant : Bool)
    (grammar : Grammar) (compiled : (compile language value tolerant).result = .ok grammar) :
    (∃ attributes states start, Usable value attributes states start ∧
      FlagOf (describe language tolerant attributes states) grammar) ∧
    ((compile language value true).tolerated = [] →
      grammar.usesEmbedded = grammar.anyAction Action.embeds) := by
  rcases usable_or_unusable value with ⟨attributes, states, start, usable⟩ | ⟨problem, unusable⟩
  · refine ⟨⟨attributes, states, start, usable, flagOf_of_usable usable compiled⟩, ?_⟩
    intro silent
    have same := result_strict_eq language value
    rw [silent, List.head?_nil] at same
    dsimp only at same
    cases tolerant with
    | false => exact (flagOf_of_usable usable compiled).exact_of_strict rfl
    | true => exact (flagOf_of_usable usable (same.trans compiled)).exact_of_strict rfl
  · rw [compile_of_unusable unusable] at compiled
    cases compiled

/-- A state with a rule that starts an embedded language and another one that changes nothing. -/
def startingStates (pattern : String) : Json.Members := [
  ("main", .array [
    .array [.string pattern,
      .object [("token", .string "x"), ("nextEmbedded", .string "js")]],
    .array [.string "a", .string "b"]])]

theorem exists_starting_left_out :
    ∃ grammar, (compile "toy" (statesAlone (startingStates "(")) true).result = .ok grammar ∧
      grammar.usesEmbedded = true ∧ grammar.anyAction Action.embeds = false := by
  obtain ⟨grammar, compiled, passes⟩ :=
    exists_of_compiles (compile "toy" (statesAlone (startingStates "(")) true)
      (fun grammar => grammar.usesEmbedded && !grammar.anyAction Action.embeds) (by decide +kernel)
  rw [Bool.and_eq_true, Bool.not_eq_true'] at passes
  exact ⟨grammar, compiled, passes⟩

/-- The flag of a grammar with the rule is right, and where the pattern of the rule cannot be read
the flag stays although the rule is left out. -/
theorem usesEmbedded_of_compile_starting :
    (∃ grammar, (compile "toy" (statesAlone (startingStates "<")) false).result = .ok grammar ∧
      grammar.usesEmbedded = true ∧ grammar.anyAction Action.embeds = true) ∧
    ∃ grammar attributes states start,
      (compile "toy" (statesAlone (startingStates "(")) true).result = .ok grammar ∧
        Usable (statesAlone (startingStates "(")) attributes states start ∧
        grammar.anyAction Action.embeds = false ∧ ∃ declared ∈ states,
          (describe "toy" true attributes states).StateLeavesOut declared := by
  constructor
  · obtain ⟨grammar, compiled, flagged⟩ :=
      exists_of_compiles (compile "toy" (statesAlone (startingStates "<")) false)
        (fun grammar => grammar.usesEmbedded) (by decide +kernel)
    obtain ⟨-, silent⟩ := usesEmbedded_of_compile "toy" _ false grammar compiled
    have same := silent (by decide +kernel)
    exact ⟨grammar, compiled, flagged, same.symm.trans flagged⟩
  · obtain ⟨grammar, compiled, flagged, never⟩ := exists_starting_left_out
    obtain ⟨⟨attributes, states, start, usable, flag⟩, -⟩ :=
      usesEmbedded_of_compile "toy" _ true grammar compiled
    refine ⟨grammar, attributes, states, start, compiled, usable, never, ?_⟩
    refine (flag.meaning.1 flagged).resolve_left ?_
    rw [never]
    exact Bool.false_ne_true

/-- The flag need not say what the rules of the grammar do. -/
theorem not_forall_usesEmbedded_iff :
    ¬ ∀ language value tolerant grammar, (compile language value tolerant).result = .ok grammar →
      (grammar.usesEmbedded = true ↔ grammar.anyAction Action.embeds = true) := by
  intro exactly
  obtain ⟨grammar, compiled, flagged, never⟩ := exists_starting_left_out
  have embeds := (exactly _ _ _ grammar compiled).1 flagged
  rw [never] at embeds
  cases embeds

end Grammar

end LineLexer
