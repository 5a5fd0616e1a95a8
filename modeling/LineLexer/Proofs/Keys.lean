import LineLexer.Proofs.Templates

/-!
**How keys are written.**

The key of a branch is a name of what to look at, an operator and an operand, one behind the other.
No operator starts like the end of a name, and none goes on with a character that makes it another
one, so a key is taken apart where it was put together.

* `Guard.Names`: how a subject is written;
* `Guard.Operator.written`: how an operator is written;
* `Guard.compile_key`: the guard of a key that is put together from its parts.
-/

namespace LineLexer

/-! ### Characters of names -/

namespace Template

theorem ascii_of_isDecimal {letter : Char} (decimal : Digit.isDecimal letter = true) :
    letter.toNat < 128 := by
  have bounds := isDecimal_iff.1 decimal
  omega

/-- Characters of names are ASCII letters, ASCII digits and the low line. -/
theorem bounds_of_isNameChar {letter : Char} (word : isNameChar letter = true) :
    48 ≤ letter.toNat ∧ letter.toNat ≤ 57 ∨ 65 ≤ letter.toNat ∧ letter.toNat ≤ 90 ∨
      letter.toNat = 95 ∨ 97 ≤ letter.toNat ∧ letter.toNat ≤ 122 := by
  unfold isNameChar Char.isAlphanum Char.isAlpha Char.isUpper Char.isLower Char.isDigit at word
  simp only [Bool.or_eq_true, Bool.and_eq_true, decide_eq_true_eq, beq_iff_eq, ge_iff_le,
    UInt32.le_iff_toNat_le] at word
  rcases word with (((upper | lower) | digit) | rfl)
  · exact .inr (.inl upper)
  · exact .inr (.inr (.inr lower))
  · exact .inl digit
  · exact .inr (.inr (.inl rfl))

theorem ascii_of_isNameChar {letter : Char} (word : isNameChar letter = true) :
    letter.toNat < 128 := by
  have bounds := bounds_of_isNameChar word
  omega

end Template

namespace Guard

open Template

/-! ### The parts of keys -/

/-- How a subject is written in front of an operator. The matched text needs no name. -/
inductive Names : Text → Subject → Prop where
  | nameless : Names [] .matched
  | matched : Names ['$', '#'] .matched
  | capture {digits : Text} (decimal : ∀ digit ∈ digits, Digit.isDecimal digit = true)
      (count : digits.length = 1 ∨ digits.length = 2) :
      Names ('$' :: digits) (.capture (Digit.number digits))
  | component {letter : Char} {digits : Text} (either : letter = 's' ∨ letter = 'S')
      (decimal : ∀ digit ∈ digits, Digit.isDecimal digit = true)
      (count : digits.length = 1 ∨ digits.length = 2) :
      Names ('$' :: letter :: digits) (.component (Digit.number digits))

/-- How an operator is written. -/
def Operator.written : Operator → Bool → Text
  | .member, false => ['@']
  | .member, true => ['!', '@']
  | .matching, false => ['~']
  | .matching, true => ['!', '~']
  | .equal, false => ['=', '=']
  | .equal, true => ['!', '=']

variable {front digits rest operand : Text} {subject : Subject} {operator : Operator}
  {negated : Bool} {sign : Char} {settings : Settings} {rule : String}

/-- The characters that operators start with. -/
def signs : List Char := ['@', '!', '~', '=']

theorem eq_of_mem_signs (listed : sign ∈ signs) :
    sign = '@' ∨ sign = '!' ∨ sign = '~' ∨ sign = '=' := by
  simpa only [signs, List.mem_cons, List.not_mem_nil, or_false] using listed

theorem Operator.exists_written (operator : Operator) (negated : Bool) :
    ∃ sign ∈ signs, ∃ more, operator.written negated = sign :: more := by
  cases operator <;> cases negated <;> exact ⟨_, by decide, _, rfl⟩

/-- One or two digits in front of an operator are read as their number. -/
theorem index?_digits (decimal : ∀ digit ∈ digits, Digit.isDecimal digit = true)
    (count : digits.length = 1 ∨ digits.length = 2) (listed : sign ∈ signs) :
    index? (digits ++ sign :: rest) = some (Digit.number digits, sign :: rest) := by
  have ends : (sign :: rest).head?.any Digit.isDecimal = false := by
    rcases eq_of_mem_signs listed with rfl | rfl | rfl | rfl <;> rfl
  exact index?_eq_some_iff.2 ⟨digits, ⟨decimal, count.symm.imp_right (⟨·, ends⟩)⟩, rfl, rfl⟩

/-- A name in front of an operator is read as the subject that it names. -/
theorem splitSubject_append (names : Names front subject) (listed : sign ∈ signs) :
    splitSubject (front ++ sign :: rest) = (subject, sign :: rest) := by
  cases names with
  | nameless =>
    have plain : sign ≠ '$' := by
      rcases eq_of_mem_signs listed with rfl | rfl | rfl | rfl <;> decide
    rw [List.nil_append, splitSubject.eq_def]
    split
    · next same => cases same; exact absurd rfl plain
    · next same => cases same; exact absurd rfl plain
    · rfl
  | matched => rfl
  | @capture digits decimal count =>
    have found : index? (digits ++ sign :: rest) = _ := index?_digits decimal count listed
    cases digits with
    | nil => exact absurd count (by decide)
    | cons first digits =>
      obtain ⟨-, noSign, noComponent, -⟩ := ne_of_isDecimal (decimal first List.mem_cons_self)
      rw [List.cons_append, List.cons_append, splitSubject, if_neg noComponent,
        ← List.cons_append, found]
      exact noSign
  | @component letter digits either decimal count =>
    have found : index? (digits ++ sign :: rest) = _ := index?_digits decimal count listed
    have noSign : letter ≠ '#' := by rcases either with rfl | rfl <;> decide
    rw [List.cons_append, List.cons_append, splitSubject, if_pos either, found]
    exact noSign

/-- An operator is read as itself, whatever its operand starts with. -/
theorem splitOperator_append :
    splitOperator (operator.written negated ++ operand) = (operator, negated, operand) := by
  cases operator <;> cases negated <;> rfl

/-- What stands behind the at-sign in the keys that have a meaning of their own. -/
def reserved : List Text := ["default".toList, [], "eos".toList]

/-- A key without a meaning of its own is taken apart into what it looks at, an operator and an
operand. -/
theorem compile_eq (settings : Settings) (rule : String) {key : Text} (nonempty : key ≠ [])
    (ordinary : ∀ word ∈ reserved, key ≠ '@' :: word) :
    compile settings rule (String.ofList key) =
      (compileTest settings rule (splitOperator (splitSubject key).2).1
        (splitOperator (splitSubject key).2).2.2).map fun test =>
          .test (splitSubject key).1 test (splitOperator (splitSubject key).2).2.1 := by
  have other : ∀ word ∈ reserved, String.ofList key ≠ String.ofList ('@' :: word) :=
    fun word listed same => ordinary word listed (String.ofList_injective same)
  have noDefault : String.ofList key ≠ "@default" := other _ (by decide)
  have noSign : String.ofList key ≠ "@" := other [] (by decide)
  have noEnd : String.ofList key ≠ "@eos" := other "eos".toList (by decide)
  have noEmpty : String.ofList key ≠ "" := fun same => nonempty (String.ofList_injective same)
  rw [compile, if_neg (by simp only [noDefault, noSign, noEmpty, or_self, not_false_eq_true]),
    if_neg noEnd, String.toList_ofList]

/-- The guard of a key tests what it names for what its operator and its operand ask for. -/
theorem compile_key (settings : Settings) (rule : String) (names : Names front subject)
    (ordinary : front = [] → operator = .member → negated = false → operand ∉ reserved) :
    compile settings rule (String.ofList (front ++ (operator.written negated ++ operand))) =
      (compileTest settings rule operator operand).map fun test => .test subject test negated := by
  obtain ⟨sign, listed, more, written⟩ := operator.exists_written negated
  have split : splitSubject (front ++ (operator.written negated ++ operand)) =
      (subject, operator.written negated ++ operand) := by
    rw [written]
    exact splitSubject_append names listed
  rw [compile_eq, split]
  · dsimp only
    rw [splitOperator_append]
  · rw [written]
    exact List.append_ne_nil_of_right_ne_nil _ (List.cons_ne_nil _ _)
  · rintro word reserve same
    cases names with
    | nameless =>
      cases operator <;> cases negated <;> cases same
      exact ordinary rfl rfl rfl reserve
    | matched => cases same
    | capture => cases same
    | component => cases same

end Guard

end LineLexer
