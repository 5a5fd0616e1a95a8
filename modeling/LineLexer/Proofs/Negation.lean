import LineLexer.Proofs.Keys

/-!
**Keys and their negated forms.**

A key and its negated form look at the same text of a match and ask the same of it, whatever they
name and whatever the operator is. So either both have a guard or neither has one, and where one
guard says yes the other one says no.

* `Guard.keyOf`: a key that is put together from its parts;
* `Guard.Shows`: the text of a match that a subject stands for;
* `Guard.holds_of_test`: what a guard answers, once its test has been made or has failed;
* `Guard.opposite_of_negated`: a key beside its negated form.
-/

namespace LineLexer.Guard

/-! ### Keys -/

/-- The key that names a subject, asks for an operator and has an operand. -/
def keyOf (front : Text) (operator : Operator) (negated : Bool) (operand : Text) : String :=
  String.ofList (front ++ (operator.written negated ++ operand))

/-- The keys with a meaning of their own that look like keys with an operator. -/
def specialKeys : List String := ["@", "@default", "@eos"]

variable {front operand : Text} {subject : Subject} {operator : Operator} {negated : Bool}
  {settings : Settings} {context : MatchContext} {test : Test}

/-- A key that only looks like one with an operator has an operand that is reserved. -/
theorem not_mem_reserved (ordinary : keyOf front operator false operand ∉ specialKeys) :
    front = [] → operator = .member → negated = false → operand ∉ reserved := by
  rintro rfl rfl - listed
  refine ordinary ?_
  rcases List.mem_cons.1 listed with rfl | listed
  · decide
  rcases List.mem_cons.1 listed with rfl | listed
  · decide
  · rw [List.mem_singleton.1 listed]
    decide

/-! ### Subjects -/

/-- The text of a match that a subject stands for. A group that the rule does not have, and a part
that the state name does not have, count as the empty text. -/
inductive Shows (context : MatchContext) : Subject → Text → Prop where
  | matched : Shows context .matched context.matched
  | capture {index : Nat} {text : Text} (found : context.captures[index]? = some text) :
      Shows context (.capture index) text
  | noCapture {index : Nat} (missing : context.captures.length ≤ index) :
      Shows context (.capture index) []
  | component {index : Nat} {part : String}
      (found : (stateComponents context.state)[index]? = some part) :
      Shows context (.component index) part.toList
  | noComponent {index : Nat} (missing : (stateComponents context.state).length ≤ index) :
      Shows context (.component index) []

/-- A guard looks at the text that its subject stands for. -/
theorem shows_select (context : MatchContext) (subject : Subject) :
    Shows context subject (subject.select context) := by
  cases subject with
  | matched => exact .matched
  | capture index =>
    cases found : context.captures[index]? with
    | some text =>
      rw [Subject.select, found]
      exact .capture found
    | none =>
      rw [Subject.select, found]
      exact .noCapture (List.getElem?_eq_none_iff.1 found)
  | component index =>
    cases found : (stateComponents context.state)[index]? with
    | some part =>
      rw [Subject.select, found]
      exact .component found
    | none =>
      rw [Subject.select, found]
      exact .noComponent (List.getElem?_eq_none_iff.1 found)

/-! ### Guards -/

/-- Once its test has come to an answer, a guard answers that, or the opposite if it is negated. -/
theorem holds_of_answer {answer : Bool}
    (succeeds : succeeds settings context (subject.select context) test = .ok answer) :
    (Guard.test subject test negated).holds settings context = .ok (answer != negated) := by
  rw [holds, succeeds]
  rfl

/-- A guard fails as its test fails, negated or not. -/
theorem holds_of_fault {fault : GuardFault}
    (fails : succeeds settings context (subject.select context) test = .error fault) :
    (Guard.test subject test negated).holds settings context = .error fault := by
  rw [holds, fails]
  rfl

/-- **A key and its negated form.** Whatever an operator asks with an operand, either no key that
asks for it has a guard, negated or not, and all for the same reason; or there is one test for all
of them. Then a key and its negated form both have guards. In every match both look at the text that
the key names, and they either answer the opposite or fail with the same fault, as the test does on
that text. -/
theorem opposite_of_negated (settings : Settings) (rule : String) (operator : Operator)
    (operand : Text) :
    (∃ problem, ∀ front subject negated, Names front subject →
      keyOf front operator false operand ∉ specialKeys →
      compile settings rule (keyOf front operator negated operand) = .error problem) ∨
    ∃ test, ∀ front subject, Names front subject →
      keyOf front operator false operand ∉ specialKeys →
      ∃ positive negative,
        compile settings rule (keyOf front operator false operand) = .ok positive ∧
        compile settings rule (keyOf front operator true operand) = .ok negative ∧
        ∀ context, ∃ text, Shows context subject text ∧
          ((∃ answer, succeeds settings context text test = .ok answer ∧
              positive.holds settings context = .ok answer ∧
              negative.holds settings context = .ok !answer) ∨
            ∃ fault, succeeds settings context text test = .error fault ∧
              positive.holds settings context = .error fault ∧
              negative.holds settings context = .error fault) := by
  cases made : compileTest settings rule operator operand with
  | error problem =>
    refine .inl ⟨problem, fun front subject negated names ordinary => ?_⟩
    rw [keyOf, compile_key settings rule names (not_mem_reserved ordinary), made]
    rfl
  | ok test =>
    refine .inr ⟨test, fun front subject names ordinary => ?_⟩
    have compiled : ∀ negated, compile settings rule (keyOf front operator negated operand) =
        .ok (.test subject test negated) := by
      intro negated
      rw [keyOf, compile_key settings rule names (not_mem_reserved ordinary), made]
      rfl
    refine ⟨_, _, compiled false, compiled true, fun context => ?_⟩
    refine ⟨subject.select context, shows_select context subject, ?_⟩
    cases asked : succeeds settings context (subject.select context) test with
    | ok answer =>
      refine .inl ⟨answer, rfl, ?_, ?_⟩
      · rw [holds_of_answer asked, Bool.bne_false]
      · rw [holds_of_answer asked, Bool.bne_true]
    | error fault => exact .inr ⟨fault, rfl, holds_of_fault asked, holds_of_fault asked⟩

/-- Settings with a list of words. -/
def wordSettings : Settings where
  language := "toy"
  ignoreCase := false
  unicode := false
  attributes := [("keywords", .array [.string "if", .string "else"])]

/-- A match whose group is an opening parenthesis, in a state whose name has one part. -/
def openMatch : MatchContext where
  matched := ['(']
  captures := [['('], ['(']]
  state := "root"
  atLineEnd := true

/-- A part that the state name does not have is none of the words, and a group that is no regular
expression makes a key fail like its negated form. -/
theorem opposite_of_negated_missing :
    Names ['$', 'S', '2'] (.component 2) ∧
      (∃ positive negative,
        compile wordSettings "rule" "$S2@keywords" = .ok positive ∧
        compile wordSettings "rule" "$S2!@keywords" = .ok negative ∧
        positive.holds wordSettings openMatch = .ok false ∧
        negative.holds wordSettings openMatch = .ok true) ∧
      ∃ positive negative fault,
        compile wordSettings "rule" "$S2~$1" = .ok positive ∧
        compile wordSettings "rule" "$S2!~$1" = .ok negative ∧
        positive.holds wordSettings openMatch = .error fault ∧
        negative.holds wordSettings openMatch = .error fault := by
  have names : Names ['$', 'S', '2'] (.component 2) :=
    @Names.component 'S' ['2'] (.inr rfl) (List.forall_mem_singleton.2 rfl) (.inl rfl)
  refine ⟨names, ?_, ?_⟩
  · have made : compile wordSettings "rule" "$S2@keywords" =
        .ok (.test (.component 2) (.words ["if", "else"]) false) := by decide +kernel
    rcases opposite_of_negated wordSettings "rule" .member "keywords".toList with
      ⟨problem, fails⟩ | ⟨test, agree⟩
    · cases made.symm.trans (fails _ _ false names (by decide +kernel))
    · obtain ⟨positive, negative, compiled, compiledToo, opposite⟩ :=
        agree _ _ names (by decide +kernel)
      cases made.symm.trans compiled
      obtain ⟨-, -, ⟨answer, -, holds, holdsToo⟩ | ⟨fault, -, fails, -⟩⟩ := opposite openMatch
      · have refused : answer = false := Except.ok.inj (holds.symm.trans (by decide +kernel))
        subst refused
        exact ⟨_, _, made, compiledToo, holds, holdsToo⟩
      · cases fails
  · have made : compile wordSettings "rule" "$S2~$1" =
        .ok (.test (.component 2) (.filledRegex "$1") false) := by decide +kernel
    rcases opposite_of_negated wordSettings "rule" .matching "$1".toList with
      ⟨problem, fails⟩ | ⟨test, agree⟩
    · cases made.symm.trans (fails _ _ false names (by decide +kernel))
    · obtain ⟨positive, negative, compiled, compiledToo, opposite⟩ :=
        agree _ _ names (by decide +kernel)
      cases made.symm.trans compiled
      have malformed : (Guard.test (.component 2) (.filledRegex "$1") false).holds wordSettings
          openMatch = .error { pattern := "^(?:()$", detail := none } := by decide +kernel
      obtain ⟨-, -, ⟨answer, -, holds, -⟩ | ⟨fault, -, fails, failsToo⟩⟩ := opposite openMatch
      · cases malformed.symm.trans holds
      · exact ⟨_, _, fault, made, compiledToo, fails, failsToo⟩

end LineLexer.Guard
