import LineLexer.Proofs.Captures

/-!
**Where matches start.**

The first slot of a program holds the position where the match starts: the first instruction saves
it there, and no other one does, because the groups of a pattern are numbered from one. A regular
expression whose matches can only start with the text is tried at the start of the text only, so
its matches have nothing before them.

* `Expr.Numbered`, `Expr.numbered_of_read?`: the groups of a pattern are not group zero;
* `Program.Closed`, `Program.sound_write`: instructions that lead to each other and leave the first
  slot alone;
* `Program.SavesStart`: the first instruction saves the first slot, and no later one does;
* `Machine.Started`, `Machine.getElem?_of_run`: threads that remember where the match starts;
* `Regex.offset_eq_zero`: matches that start with the text.
-/

namespace LineLexer.Regex

/-! ### Numbers of groups -/

namespace Expr

/-- No group is group zero. -/
def Numbered : Expr → Prop
  | empty | literal _ | one _ _ | check _ => True
  | sequence first second | either first second => first.Numbered ∧ second.Numbered
  | times body _ _ _ => body.Numbered
  | group index body => index ≠ 0 ∧ body.Numbered

variable {expr : Expr} {exprs others : List Expr}

theorem numbered_ofSet (set : CodeRanges) (ascii : Bool) : (ofSet set ascii).Numbered := by
  unfold ofSet
  split
  · trivial
  · split <;> trivial
  · trivial

/-- The groups of a sequence are those of its parts. -/
theorem numbered_parts (numbered : expr.Numbered) : ∀ part ∈ expr.parts, part.Numbered := by
  induction expr with
  | empty => exact List.forall_mem_nil _
  | sequence first rest _ step =>
    rw [parts, List.forall_mem_cons]
    exact ⟨numbered.1, step numbered.2⟩
  | literal | one | check | either | times | group =>
    exact List.forall_mem_singleton.2 numbered

theorem numbered_ofParts (each : ∀ part ∈ exprs, part.Numbered) : (ofParts exprs).Numbered := by
  induction exprs with
  | nil => trivial
  | cons first rest step =>
    rw [List.forall_mem_cons] at each
    cases rest with
    | nil => exact each.1
    | cons second rest => exact ⟨each.1, step each.2⟩

theorem numbered_consPart (numbered : expr.Numbered) (each : ∀ part ∈ exprs, part.Numbered) :
    ∀ part ∈ consPart expr exprs, part.Numbered := by
  unfold consPart
  split
  · rw [List.forall_mem_cons] at each ⊢
    exact ⟨trivial, each.2⟩
  · exact List.forall_mem_cons.2 ⟨numbered, each⟩

theorem numbered_sequenceOf (each : ∀ expr ∈ exprs, expr.Numbered) :
    (sequenceOf exprs).Numbered := by
  refine numbered_ofParts ?_
  have parts : ∀ part ∈ exprs.flatMap parts, part.Numbered := by
    intro part inside
    obtain ⟨expr, listed, inside⟩ := List.mem_flatMap.1 inside
    exact numbered_parts (each expr listed) part inside
  generalize exprs.flatMap Expr.parts = listed at parts
  induction listed with
  | nil => exact List.forall_mem_nil _
  | cons first rest step =>
    rw [List.forall_mem_cons] at parts
    exact numbered_consPart parts.1 (step parts.2)

/-- The groups of a choice are those of its branches. -/
theorem numbered_branches (numbered : expr.Numbered) :
    ∀ branch ∈ expr.branches, branch.Numbered := by
  induction expr with
  | either first rest _ step =>
    rw [branches, List.forall_mem_cons]
    exact ⟨numbered.1, step numbered.2⟩
  | empty | literal | one | check | sequence | times | group =>
    exact List.forall_mem_singleton.2 numbered

theorem numbered_ofBranches (each : ∀ branch ∈ exprs, branch.Numbered) :
    (ofBranches exprs).Numbered := by
  induction exprs with
  | nil => trivial
  | cons first rest step =>
    rw [List.forall_mem_cons] at each
    cases rest with
    | nil => exact each.1
    | cons second rest => exact ⟨each.1, step each.2⟩

theorem numbered_choice (each : ∀ branch ∈ exprs, branch.Numbered) : (choice exprs).Numbered := by
  unfold choice
  split
  · exact numbered_ofSet _ _
  · exact numbered_ofBranches each

/-- A beginning that lists share is one of the first list. -/
theorem sharedStart_subset (exprs others : List Expr) : sharedStart exprs others ⊆ exprs := by
  induction exprs generalizing others with
  | nil => cases others <;> exact List.Subset.refl _
  | cons first rest step =>
    cases others with
    | nil => exact List.nil_subset _
    | cons second others =>
      unfold sharedStart
      split
      · exact List.cons_subset_cons _ (step others)
      · exact List.nil_subset _

/-- What is only ever shortened stays a part of what it was. -/
theorem foldl_subset {shorten : List Expr → Expr → List Expr}
    (shorter : ∀ shared branch, shorten shared branch ⊆ shared) (branches shared : List Expr) :
    branches.foldl shorten shared ⊆ shared := by
  induction branches generalizing shared with
  | nil => exact List.Subset.refl _
  | cons branch branches step => exact List.Subset.trans (step _) (shorter shared branch)

/-- What alternatives share are parts of the first one. -/
theorem sharedParts_subset (first : Expr) (rest : List Expr) :
    sharedParts (first :: rest) ⊆ first.parts := by
  cases first with
  | sequence first second =>
    refine foldl_subset (fun shared branch => ?_) rest _
    split
    · exact sharedStart_subset _ _
    · exact List.nil_subset _
  | empty | literal | one | check | either | times | group => exact List.nil_subset _

theorem numbered_eitherOf (each : ∀ expr ∈ exprs, expr.Numbered) : (eitherOf exprs).Numbered := by
  have branches : ∀ branch ∈ exprs.flatMap branches, branch.Numbered := by
    intro branch inside
    obtain ⟨expr, listed, inside⟩ := List.mem_flatMap.1 inside
    exact numbered_branches (each expr listed) branch inside
  unfold eitherOf
  split
  · exact numbered_ofBranches (List.forall_mem_nil _)
  · next expr same =>
    rw [same] at branches
    exact branches expr List.mem_cons_self
  · split
    · exact numbered_choice branches
    · refine numbered_sequenceOf fun expr inside => ?_
      rcases List.mem_append.1 inside with shared | last
      · cases alternatives : exprs.flatMap Expr.branches with
        | nil =>
          rw [alternatives] at shared
          cases shared
        | cons first rest =>
          rw [alternatives] at shared branches
          exact numbered_parts (branches first List.mem_cons_self) expr
            (sharedParts_subset first rest shared)
      · rw [List.mem_singleton.1 last]
        refine numbered_choice fun branch inside => ?_
        obtain ⟨whole, listed, inside⟩ := List.mem_flatMap.1 inside
        refine numbered_branches (numbered_ofParts fun part inside => ?_) branch inside
        exact numbered_parts (branches whole listed) part (List.mem_of_mem_drop inside)

theorem numbered_repeated (numbered : expr.Numbered) (least : Nat) (most : Option Nat)
    (greedy : Bool) : (expr.repeated least most greedy).Numbered := by
  unfold repeated
  dsimp only
  generalize (if expr.matchesOnlyEmpty then min least 1 else least) = least
  generalize (if expr.matchesOnlyEmpty then _ else most) = most
  split
  · trivial
  · split
    · exact numbered
    · exact numbered

theorem numbered_letterExpr (flags : Flags) (letter : Char) :
    (Primitive.letterExpr flags letter).Numbered := by
  unfold Primitive.letterExpr
  split
  · trivial
  · split
    · exact numbered_ofSet _ _
    · split
      · exact numbered_ofSet _ _
      · trivial

/-- A primitive has no groups. -/
theorem numbered_primitive {flags : Flags} {primitive : Primitive}
    (means : primitive.expr? flags = some expr) : expr.Numbered := by
  cases primitive with
  | literal letter byte =>
    unfold Primitive.expr? at means
    dsimp only at means
    split at means
    · cases means
    · rw [← Option.some.inj means]
      exact numbered_letterExpr _ _
  | dot =>
    unfold Primitive.expr? at means
    dsimp only at means
    split at means
    · cases means
    · split at means
      · rw [← Option.some.inj means]
        exact numbered_ofSet _ _
      · split at means
        · rw [← Option.some.inj means]
          exact numbered_ofSet _ _
        · rw [← Option.some.inj means]
          exact numbered_ofSet _ _
  | check | lineEdge | wordEdge =>
    rw [← Option.some.inj means]
    trivial
  | lettered | named =>
    obtain ⟨set, -, rfl⟩ := Option.map_eq_some_iff.1 means
    exact numbered_ofSet _ _

end Expr

namespace Reader

variable {part : Part} {parts branches : List Part} {cursor inside after : Cursor}

/-- The parts of a sequence, or the branches of a choice, have no group zero. -/
def Numbered (parts : List Part) : Prop := ∀ part ∈ parts, part.expr.Numbered

theorem numbered_assemble {join : List Expr → Expr}
    (joins : ∀ {exprs}, (∀ expr ∈ exprs, expr.Numbered) → (join exprs).Numbered)
    (numbered : Numbered parts) : (assemble join parts).expr.Numbered := by
  unfold assemble
  split
  · trivial
  · next part => exact numbered part List.mem_cons_self
  · refine joins fun expr inside => ?_
    obtain ⟨part, listed, rfl⟩ := List.mem_map.1 inside
    exact numbered part (List.mem_reverse.1 listed)

/-- The whole of what has been read has no group zero. -/
theorem numbered_alternatives (numbered : Numbered parts) (others : Numbered branches) :
    (alternatives (sequence parts :: branches)).expr.Numbered :=
  numbered_assemble Expr.numbered_eitherOf
    (List.forall_mem_cons.2 ⟨numbered_assemble Expr.numbered_sequenceOf numbered, others⟩)

theorem numbered_repeatLast? {flags : Flags} {least : Nat} {most : Option Nat} {isLazy : Bool}
    {changed : List Part} (numbered : Numbered parts)
    (repeats : repeatLast? flags least most isLazy parts = some changed) : Numbered changed := by
  unfold repeatLast? at repeats
  split at repeats
  · cases repeats
  · split at repeats
    · cases repeats
      have each := List.forall_mem_cons.1 numbered
      exact List.forall_mem_cons.2 ⟨Expr.numbered_repeated each.1 _ _ _, each.2⟩
    · cases repeats

/-- What a parenthesis opens is not group zero, and no later group is. -/
theorem open?_positive {opening : Opening} (positive : cursor.nextGroup ≠ 0)
    (opens : cursor.open? = some (opening, inside)) :
    inside.nextGroup ≠ 0 ∧ ∀ flags number, opening = .group flags (some number) → number ≠ 0 := by
  have named : ∀ {text}, cursor.openNamed? text = some (opening, inside) →
      inside.nextGroup ≠ 0 ∧
        ∀ flags number, opening = .group flags (some number) → number ≠ 0 := by
    intro text opens
    obtain ⟨⟨name, rest⟩, -, opens⟩ := Option.bind_eq_some_iff.1 opens
    dsimp only at opens
    split at opens
    · cases opens
    · cases opens
      refine ⟨Nat.succ_ne_zero _, fun flags number same => ?_⟩
      cases same
      exact positive
  unfold Cursor.open? at opens
  dsimp only at opens
  split at opens
  · cases opens
  · cases opens
  · cases opens
  · cases opens
  · exact named opens
  · exact named opens
  · obtain ⟨⟨flags, opensGroup, rest⟩, -, same⟩ := Option.map_eq_some_iff.1 opens
    cases same
    refine ⟨positive, fun flags number same => ?_⟩
    split at same <;> cases same
  · cases opens
    refine ⟨Nat.succ_ne_zero _, fun flags number same => ?_⟩
    cases same
    exact positive

/-- What is read has no group zero, and no later group is. -/
theorem parts?_numbered {steps : Nat} (positive : cursor.nextGroup ≠ 0)
    (numbered : Numbered parts) (others : Numbered branches)
    (read : parts? steps cursor parts branches = some (part, after)) :
    part.expr.Numbered ∧ after.nextGroup ≠ 0 := by
  induction steps generalizing cursor parts branches part after with
  | zero => cases read
  | succ steps step =>
    unfold parts? at read
    dsimp only at read
    split at read
    · cases read
      exact ⟨numbered_alternatives numbered others, positive⟩
    · cases read
      exact ⟨numbered_alternatives numbered others, positive⟩
    · refine step ?_ ?_ ?_ read
      · exact positive
      · exact List.forall_mem_nil _
      · exact List.forall_mem_cons.2
          ⟨numbered_assemble Expr.numbered_sequenceOf numbered, others⟩
    · obtain ⟨⟨opening, opened⟩, opens, read⟩ := Option.bind_eq_some_iff.1 read
      obtain ⟨kept, numbers⟩ := open?_positive (by exact positive) opens
      cases opening with
      | flags flags =>
        refine step ?_ (List.forall_mem_cons.2 ⟨?_, numbered⟩) others read
        · exact kept
        · trivial
      | group flags number =>
        obtain ⟨⟨body, closed⟩, reads, read⟩ := Option.bind_eq_some_iff.1 read
        obtain ⟨inner, left⟩ := step (by exact kept) (List.forall_mem_nil _)
          (List.forall_mem_nil _) reads
        dsimp only at read
        split at read
        · refine step ?_ (List.forall_mem_cons.2 ⟨?_, numbered⟩) others read
          · exact left
          · cases number with
            | none => exact inner
            | some index => exact ⟨numbers _ _ rfl, inner⟩
        · cases read
    · obtain ⟨⟨nested, rest⟩, -, read⟩ := Option.bind_eq_some_iff.1 read
      refine step ?_ (List.forall_mem_cons.2 ⟨?_, numbered⟩) others read
      · exact positive
      · exact Expr.numbered_ofSet _ _
    · obtain ⟨changed, repeats, read⟩ := Option.bind_eq_some_iff.1 read
      exact step (by exact positive) (numbered_repeatLast? numbered repeats) others read
    · obtain ⟨changed, repeats, read⟩ := Option.bind_eq_some_iff.1 read
      exact step (by exact positive) (numbered_repeatLast? numbered repeats) others read
    · obtain ⟨changed, repeats, read⟩ := Option.bind_eq_some_iff.1 read
      exact step (by exact positive) (numbered_repeatLast? numbered repeats) others read
    · obtain ⟨⟨least, most, rest⟩, -, read⟩ := Option.bind_eq_some_iff.1 read
      obtain ⟨changed, repeats, read⟩ := Option.bind_eq_some_iff.1 read
      exact step (by exact positive) (numbered_repeatLast? numbered repeats) others read
    · obtain ⟨⟨primitive, rest⟩, -, read⟩ := Option.bind_eq_some_iff.1 read
      obtain ⟨expr, means, read⟩ := Option.bind_eq_some_iff.1 read
      refine step ?_ (List.forall_mem_cons.2 ⟨?_, numbered⟩) others read
      · exact positive
      · exact Expr.numbered_primitive means

end Reader

/-- A pattern has no group zero of its own. -/
theorem Expr.numbered_of_read? {flags : Flags} {pattern : String} {expr : Expr}
    (read : Expr.read? flags pattern = some expr) : expr.Numbered := by
  unfold Expr.read? at read
  obtain ⟨⟨whole, cursor⟩, reads, ends⟩ := Option.bind_eq_some_iff.1 read
  dsimp only at ends
  split at ends
  · cases ends
    exact (Reader.parts?_numbered Nat.one_ne_zero (List.forall_mem_nil _) (List.forall_mem_nil _)
      reads).1
  · cases ends

/-! ### Programs -/

/-- An instruction leads to ones before a place, and it leaves the first slot alone. -/
def Instruction.Below (bound : Nat) : Instruction → Prop
  | take _ next | check _ next => next < bound
  | branch first second => first < bound ∧ second < bound
  | save slot next => slot ≠ 0 ∧ next < bound
  | accept => True

theorem Instruction.Below.mono {instruction : Instruction} {bound larger : Nat}
    (below : instruction.Below bound) (le : bound ≤ larger) : instruction.Below larger := by
  cases instruction with
  | take set next => exact Nat.lt_of_lt_of_le below le
  | check assertion next => exact Nat.lt_of_lt_of_le below le
  | branch first second =>
    exact ⟨Nat.lt_of_lt_of_le below.1 le, Nat.lt_of_lt_of_le below.2 le⟩
  | save slot next => exact ⟨below.1, Nat.lt_of_lt_of_le below.2 le⟩
  | accept => trivial

namespace Program

variable {code : Array Instruction} {instruction : Instruction} {next : Nat} {body : Writer}

/-- The instructions lead to each other only, and they leave the first slot alone. -/
def Closed (code : Array Instruction) : Prop :=
  ∀ instruction ∈ code, instruction.Below code.size

/-- What is written behind instructions: none is lost, the new ones are like them, and one of them
all is where the part starts. -/
structure Written (code : Array Instruction) (written : Nat × Array Instruction) : Prop where
  entry : written.1 < written.2.size
  closed : Closed written.2
  grows : code.size ≤ written.2.size

/-- A writer that keeps instructions closed. -/
def Writer.Sound (body : Writer) : Prop :=
  ∀ {next : Nat} {code : Array Instruction}, Closed code → next < code.size →
    Written code (body next code)

theorem written_here (closed : Closed code) (inside : next < code.size) :
    Written code (next, code) := ⟨inside, closed, Nat.le_refl _⟩

theorem written_emit (closed : Closed code) (below : instruction.Below code.size) :
    Written code (emit code instruction) := by
  refine ⟨?_, fun other inside => ?_, ?_⟩
  · exact Array.size_push _ ▸ Nat.lt_succ_self _
  · show other.Below (code.push instruction).size
    rw [Array.size_push]
    rcases Array.mem_push.1 inside with earlier | same
    · exact (closed other earlier).mono (Nat.le_succ _)
    · rw [same]
      exact below.mono (Nat.le_succ _)
  · exact Array.size_push _ ▸ Nat.le_succ _

theorem Written.trans {written : Nat × Array Instruction} {more : Nat × Array Instruction}
    (first : Written code written) (second : Written written.2 more) : Written code more :=
  ⟨second.entry, second.closed, Nat.le_trans first.grows second.grows⟩

theorem below_choice {greedy : Bool} {entry bound : Nat} (first : entry < bound)
    (second : next < bound) : (choice greedy entry next).Below bound := by
  unfold choice
  split
  · exact ⟨first, second⟩
  · exact ⟨second, first⟩

theorem sound_replicate (sound : body.Sound) (count : Nat) : (replicate body count).Sound := by
  intro next code closed inside
  induction count with
  | zero => exact written_here closed inside
  | succ count step => exact step.trans (sound step.closed step.entry)

theorem written_optional (sound : body.Sound) (greedy : Bool) (closed : Closed code)
    (inside : next < code.size) (count : Nat) :
    Written code (optional body greedy next count code) := by
  induction count with
  | zero => exact written_here closed inside
  | succ count step =>
    have entered := step.trans (sound step.closed step.entry)
    refine entered.trans (written_emit entered.closed (below_choice entered.entry ?_))
    exact Nat.lt_of_lt_of_le inside entered.grows

/-- A loop keeps instructions closed, also where its branch is put in the reserved place. -/
theorem written_loop (sound : body.Sound) (greedy : Bool) (closed : Closed code)
    (inside : next < code.size) :
    Written code ((loop body greedy next code).1, (loop body greedy next code).2.2) ∧
      (loop body greedy next code).2.1 < (loop body greedy next code).2.2.size := by
  have reserved : Written code (emit code .accept) := written_emit closed trivial
  have filled := sound reserved.closed reserved.entry
  have entered := reserved.trans filled
  unfold loop
  dsimp only
  rw [Array.size_setIfInBounds]
  refine ⟨⟨?_, fun other within => ?_, ?_⟩, Nat.lt_of_lt_of_le reserved.entry filled.grows⟩
  · rw [Array.size_setIfInBounds]
    exact entered.entry
  · rw [Array.size_setIfInBounds]
    rcases Array.mem_or_eq_of_mem_setIfInBounds within with earlier | same
    · exact entered.closed other earlier
    · rw [same]
      exact below_choice entered.entry (Nat.lt_of_lt_of_le inside entered.grows)
  · rw [Array.size_setIfInBounds]
    exact entered.grows

/-- The instructions of an expression are like those before which they are written. -/
theorem sound_write {expr : Expr} (numbered : expr.Numbered) : Writer.Sound (write expr) := by
  induction expr with
  | empty =>
    intro next code closed inside
    exact written_here closed inside
  | literal text =>
    intro next code closed inside
    unfold write
    induction text with
    | nil => exact written_here closed inside
    | cons letter rest step =>
      have written := step trivial
      exact written.trans (written_emit written.closed written.entry)
  | one set ascii =>
    intro next code closed inside
    exact written_emit closed inside
  | check assertion =>
    intro next code closed inside
    exact written_emit closed inside
  | sequence first second former latter =>
    intro next code closed inside
    have written := latter numbered.2 closed inside
    exact written.trans (former numbered.1 written.closed written.entry)
  | either first second former latter =>
    intro next code closed inside
    have left := former numbered.1 closed inside
    have right := latter numbered.2 left.closed (Nat.lt_of_lt_of_le inside left.grows)
    refine (left.trans right).trans (written_emit right.closed ⟨?_, right.entry⟩)
    exact Nat.lt_of_lt_of_le left.entry right.grows
  | times body least most greedy step =>
    -- the cases are those of the writer: a bound, no bound, and no bound behind required times
    intro next code closed inside
    have sound : Writer.Sound (write body) := step numbered
    cases most with
    | some most =>
      have written := written_optional sound greedy closed inside (most - least)
      exact written.trans (sound_replicate sound least written.closed written.entry)
    | none =>
      obtain ⟨looped, again⟩ := written_loop sound greedy closed inside
      cases least with
      | zero =>
        unfold write
        dsimp only
        split
        · refine looped.trans (written_emit looped.closed (below_choice looped.entry ?_))
          exact Nat.lt_of_lt_of_le inside looped.grows
        · exact ⟨again, looped.closed, looped.grows⟩
      | succ least => exact looped.trans (sound_replicate sound least looped.closed looped.entry)
  | group index body step =>
    intro next code closed inside
    have close : Written code (emit code (.save (2 * index + 1) next)) :=
      written_emit closed ⟨Nat.succ_ne_zero _, inside⟩
    have written := close.trans (step numbered.2 close.closed close.entry)
    refine written.trans (written_emit written.closed ⟨?_, written.entry⟩)
    exact Nat.mul_ne_zero (Nat.succ_ne_zero _) numbered.1

/-- A program starts with the instruction that saves the first slot. All others lead to instructions
before that one and leave that slot alone. -/
structure SavesStart (program : Program) : Prop where
  saves : ∃ next < program.start, program.code[program.start]? = some (.save 0 next)
  below : ∀ {place instruction}, place < program.start →
    program.code[place]? = some instruction → instruction.Below program.start
  slots : program.slots ≠ 0

theorem groupCount_ne_zero (expr : Expr) : expr.groupCount ≠ 0 := by
  induction expr with
  | empty | literal | one | check => exact Nat.one_ne_zero
  | sequence first second step | either first second step =>
    exact (Nat.lt_of_lt_of_le (Nat.pos_of_ne_zero step) (Nat.le_max_left _ _)).ne'
  | times body _ _ _ step => exact step
  | group index body => exact (Nat.lt_of_lt_of_le (Nat.succ_pos _) (Nat.le_max_left _ _)).ne'

theorem savesStart_ofExpr {expr : Expr} (numbered : expr.Numbered) : (ofExpr expr).SavesStart := by
  have final : Written #[] (emit #[] .accept) := written_emit (by simp [Closed]) trivial
  have close : Written #[.accept] (emit #[.accept] (.save 1 0)) :=
    written_emit final.closed ⟨Nat.one_ne_zero, Nat.one_pos⟩
  have written := sound_write numbered close.closed close.entry
  refine ⟨⟨_, written.entry, ?_⟩, fun {place instruction} inside here => ?_, ?_⟩
  · exact Array.getElem?_push_size
  · have same := (Array.getElem?_push_lt inside).symm.trans here
    rw [← Option.some.inj same]
    exact written.closed _ (Array.getElem_mem inside)
  · exact Nat.mul_ne_zero (Nat.succ_ne_zero _) (groupCount_ne_zero expr)

end Program

/-! ### Threads -/

namespace Machine

variable {program : Program} {thread : Thread} {threads todo reached : List Thread}
  {position here steps seen : Nat} {before after : Option Char} {slots : List (Option Nat)}
  {best : Option (List (Option Nat))} {rest : List Char}

/-- A thread is behind the first instruction, and its first slot holds the position where the match
starts. -/
def Started (program : Program) (position : Nat) (thread : Thread) : Prop :=
  thread.place < program.start ∧ thread.slots[0]? = some (some position)

/-- Threads that have started stay so while they take no character. -/
theorem started_follow (saves : program.SavesStart)
    (waiting : ∀ thread ∈ todo, Started program position thread)
    (done : ∀ thread ∈ reached, Started program position thread) :
    ∀ thread ∈ follow program.code before after here steps todo seen reached,
      Started program position thread := by
  induction steps generalizing todo seen reached with
  | zero => exact fun thread inside => done thread (List.mem_reverse.1 inside)
  | succ steps step =>
    cases todo with
    | nil => exact fun thread inside => done thread (List.mem_reverse.1 inside)
    | cons thread todo =>
      obtain ⟨⟨inside, stands⟩, others⟩ := List.forall_mem_cons.1 waiting
      unfold follow
      split
      · exact step others done
      · dsimp only
        split
        · next first second leads =>
          obtain ⟨former, latter⟩ := saves.below inside leads
          exact step (List.forall_mem_cons.2 ⟨⟨former, stands⟩,
            List.forall_mem_cons.2 ⟨⟨latter, stands⟩, others⟩⟩) done
        · next assertion next leads =>
          split
          · exact step (List.forall_mem_cons.2 ⟨⟨saves.below inside leads, stands⟩, others⟩) done
          · exact step others done
        · next slot next leads =>
          -- behind the first instruction only other slots are saved
          obtain ⟨later, earlier⟩ := saves.below inside leads
          refine step (List.forall_mem_cons.2 ⟨⟨earlier, ?_⟩, others⟩) done
          rw [List.getElem?_set_ne later]
          exact stands
        · exact step others (List.forall_mem_cons.2 ⟨⟨inside, stands⟩, done⟩)
        · exact step others (List.forall_mem_cons.2 ⟨⟨inside, stands⟩, done⟩)
        · exact step others done

/-- The thread that starts a run has started behind the first instruction. -/
theorem started_follow_first (saves : program.SavesStart) :
    ∀ thread ∈ follow program.code before after position steps
        [{ place := program.start, slots := List.replicate program.slots none }] 0 [],
      Started program position thread := by
  cases steps with
  | zero => exact List.forall_mem_nil _
  | succ steps =>
    obtain ⟨next, earlier, first⟩ := saves.saves
    -- the first step saves the first slot, and from there on the thread has started
    unfold follow
    rw [if_neg (by simp)]
    dsimp only
    rw [first]
    dsimp only
    refine started_follow saves (List.forall_mem_singleton.2 ⟨earlier, ?_⟩) (List.forall_mem_nil _)
    rw [List.getElem?_set_self]
    rw [List.length_replicate]
    exact Nat.pos_of_ne_zero saves.slots

/-- Threads that are left before a match are among the threads, and the match is one of them. -/
theorem untilMatch_subset (code : Array Instruction) (threads : List Thread) :
    (untilMatch code threads).1 ⊆ threads ∧
      ∀ slots, (untilMatch code threads).2 = some slots →
        ∃ thread ∈ threads, thread.slots = slots := by
  induction threads with
  | nil => exact ⟨List.Subset.refl _, fun slots found => by cases found⟩
  | cons thread threads step =>
    unfold untilMatch
    split
    · refine ⟨List.nil_subset _, fun slots found => ⟨thread, List.mem_cons_self, ?_⟩⟩
      exact Option.some.inj found
    · refine ⟨List.cons_subset_cons _ step.1, fun slots found => ?_⟩
      obtain ⟨other, listed, same⟩ := step.2 slots found
      exact ⟨other, List.mem_cons_of_mem _ listed, same⟩

theorem started_advance? {letter : Char} {moved : Thread} (saves : program.SavesStart)
    (started : Started program position thread)
    (moves : advance? program.code letter thread = some moved) :
    Started program position moved := by
  unfold advance? at moves
  split at moves
  · next set next leads =>
    split at moves
    · cases moves
      exact ⟨saves.below started.1 leads, started.2⟩
    · cases moves
  · cases moves

theorem getElem?_of_untilMatch {code : Array Instruction}
    (starts : ∀ thread ∈ threads, Started program position thread)
    (earlier : ∀ slots, best = some slots → slots[0]? = some (some position))
    (found : (untilMatch code threads).2.or best = some slots) :
    slots[0]? = some (some position) := by
  rcases Option.or_eq_some_iff.1 found with here | ⟨-, before⟩
  · obtain ⟨thread, listed, rfl⟩ := (untilMatch_subset code threads).2 _ here
    exact (starts thread listed).2
  · exact earlier _ before

/-- The slots of a run whose threads start at a position hold it in the first slot. -/
theorem getElem?_of_runThreads (saves : program.SavesStart)
    (starts : ∀ {after}, ∀ thread ∈ follow program.code before after here
      (threads.length + 2 * program.code.size + 1) threads 0 [], Started program position thread)
    (earlier : ∀ slots, best = some slots → slots[0]? = some (some position))
    (found : runThreads program before here threads best rest = some slots) :
    slots[0]? = some (some position) := by
  induction rest generalizing before here threads best with
  | nil => exact getElem?_of_untilMatch starts earlier found
  | cons letter rest step =>
    unfold runThreads at found
    dsimp only at found
    split at found
    · exact getElem?_of_untilMatch starts earlier found
    · refine step ?_ (fun slots found => getElem?_of_untilMatch starts earlier found) found
      intro after
      refine started_follow saves (fun moved inside => ?_) (List.forall_mem_nil _)
      obtain ⟨thread, waits, moves⟩ := List.mem_filterMap.1 inside
      exact started_advance? saves (starts thread ((untilMatch_subset _ _).1 waits)) moves

/-- A run remembers the position where it starts. -/
theorem getElem?_of_run (saves : program.SavesStart)
    (found : run program before position rest = some slots) : slots[0]? = some (some position) :=
  getElem?_of_runThreads saves (started_follow_first saves) (fun _ none => by cases none) found

/-- Where matches can only start with the text, the match found does. -/
theorem getElem?_of_search? (saves : program.SavesStart)
    (found : search? program true before position rest = some slots) :
    slots[0]? = some (some position) := by
  cases rest with
  | nil => exact getElem?_of_run saves found
  | cons letter rest =>
    unfold search? at found
    split at found
    · next slots ran =>
      cases found
      exact getElem?_of_run saves ran
    · cases found

end Machine

/-- A match whose first slot holds the start of the text has nothing before it. -/
theorem Match.start_ofSlots {slots : List (Option Nat)} (first : slots[0]? = some (some 0)) :
    Match.start ⟨Match.ofSlots slots⟩ = 0 := by
  rcases slots with _ | ⟨start, _ | ⟨_ | finish, rest⟩⟩
  · rfl
  · cases start <;> rfl
  · cases start <;> rfl
  · cases first
    rfl

/-- A compiled regular expression whose matches can only start with the text finds matches with
nothing before them. -/
theorem offset_eq_zero {regex : Regex} {ignoreCase : Bool} {pattern : String} {text : Text}
    {place : Match} (compiled : compile ignoreCase pattern = .ok regex)
    (starts : regex.startsText = true) (found : regex.find? text = some place) :
    place.offset text = 0 := by
  have saves : regex.program.SavesStart := by
    unfold compile at compiled
    split at compiled
    · cases compiled
    · next expr read =>
      split at compiled
      · cases compiled
        exact Program.savesStart_ofExpr (Expr.numbered_of_read? read)
      · cases compiled
  unfold find? at found
  rw [starts] at found
  obtain ⟨slots, searched, rfl⟩ := Option.map_eq_some_iff.1 found
  unfold Match.offset
  rw [Match.start_ofSlots (Machine.getElem?_of_search? saves searched), List.take_zero,
    Text.size_nil]

end LineLexer.Regex
