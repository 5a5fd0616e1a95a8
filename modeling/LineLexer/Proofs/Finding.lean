import LineLexer.Proofs.Spans

/-!
**What a regular expression finds.**

The converse of what a match says of a text: what an expression spans is accepted by the
instructions that are written for it, and threads that run through instructions reach all places
there are. A place that is closed to a thread at a position was reached there by another one, which
goes on to wherever the place leads, and the number of steps suffices for the threads to reach every
place.

* `Program.Admits`, `Program.admits_write`: instructions that go on behind every spanned part;
* `Machine.exists_ready_follow`: what accepts is not lost where threads meet;
* `Machine.isSome_search?`: a match is found where there is one;
* `isMatch_iff_spans`: a regular expression matches a text exactly if it spans a part of it.
-/

namespace LineLexer.Regex

/-! ### Ways through instructions -/

namespace Program

variable {code full : Array Instruction} {place next steps : Nat} {spot finish : Spot}
  {writer first second body : Writer} {relates relatesToo stronger : Spot → Spot → Prop}

/-- In every program that has what is written, the part of a text that is related to it leads from
its entry to the next instruction. -/
structure Admits (writer : Writer) (relates : Spot → Spot → Prop) : Prop where
  complete : ∀ {next code full steps spot finish}, Agrees full (writer next code).2 code.size →
    relates spot finish → Accepts full steps next finish →
    ∃ more, Accepts full more (writer next code).1 spot

theorem Admits.mono (admits : Admits writer relates)
    (implies : ∀ start finish, stronger start finish → relates start finish) :
    Admits writer stronger where
  complete agrees related accepts := admits.complete agrees (implies _ _ related) accepts

theorem accepts_of_take {set : CodeRanges} {letter : Char} {rest : List Char}
    (here : full[place]? = some (.take set next)) (stands : spot.rest = letter :: rest)
    (inside : set.contains letter.toNat = true)
    (accepts : Accepts full steps next (.past letter rest)) :
    Accepts full (steps + 1) place spot := by
  rw [Accepts, here]
  exact ⟨letter, rest, stands, inside, accepts⟩

theorem accepts_of_check {assertion : Assertion}
    (here : full[place]? = some (.check assertion next))
    (holds : assertion.holds spot.before spot.rest.head? = true)
    (accepts : Accepts full steps next spot) : Accepts full (steps + 1) place spot := by
  rw [Accepts, here]
  exact ⟨holds, accepts⟩

theorem accepts_of_save {slot : Nat} (here : full[place]? = some (.save slot next))
    (accepts : Accepts full steps next spot) : Accepts full (steps + 1) place spot := by
  rw [Accepts, here]
  exact accepts

theorem accepts_of_branch {left right : Nat}
    (here : full[place]? = some (.branch left right))
    (leads : (∃ steps, Accepts full steps left spot) ∨ ∃ steps, Accepts full steps right spot) :
    ∃ more, Accepts full more place spot := by
  rcases leads with ⟨steps, accepts⟩ | ⟨steps, accepts⟩
  · refine ⟨steps + 1, ?_⟩
    rw [Accepts, here]
    exact .inl accepts
  · refine ⟨steps + 1, ?_⟩
    rw [Accepts, here]
    exact .inr accepts

theorem accepts_of_choice {greedy : Bool} {entry : Nat}
    (here : full[place]? = some (choice greedy entry next))
    (leads : (∃ steps, Accepts full steps entry spot) ∨ ∃ steps, Accepts full steps next spot) :
    ∃ more, Accepts full more place spot := by
  unfold choice at here
  split at here
  · exact accepts_of_branch here leads
  · exact accepts_of_branch here leads.symm

/-! ### Instructions for expressions -/

theorem admits_nothing : Admits (fun next code => (next, code)) (· = ·) where
  complete := by
    rintro next code full steps spot _ - rfl accepts
    exact ⟨steps, accepts⟩

theorem admits_both (former : Realizes first relates) (latter : Realizes second relatesToo)
    (admits : Admits first relates) (admitsToo : Admits second relatesToo) :
    Admits (both first second) fun start finish =>
      ∃ middle, relates start middle ∧ relatesToo middle finish where
  complete := by
    rintro next code full steps spot finish agrees ⟨middle, related, relatedToo⟩ accepts
    obtain ⟨behind, within⟩ := agrees_of_both former latter agrees
    obtain ⟨more, goes⟩ := admitsToo.complete within relatedToo accepts
    exact admits.complete behind related goes

theorem admits_take (set : CodeRanges) :
    Admits (fun next code => emit code (.take set next)) fun start finish =>
      ∃ letter rest, start.rest = letter :: rest ∧ set.contains letter.toNat = true ∧
        finish = .past letter rest where
  complete := by
    rintro next code full steps spot _ agrees ⟨letter, rest, stands, inside, rfl⟩ accepts
    exact ⟨_, accepts_of_take (getElem?_of_agrees agrees) stands inside accepts⟩

theorem admits_check (assertion : Assertion) :
    Admits (fun next code => emit code (.check assertion next)) fun start finish =>
      assertion.holds start.before start.rest.head? = true ∧ start = finish where
  complete := by
    rintro next code full steps spot _ agrees ⟨holds, rfl⟩ accepts
    exact ⟨_, accepts_of_check (getElem?_of_agrees agrees) holds accepts⟩

theorem admits_save (slot : Nat) :
    Admits (fun next code => emit code (.save slot next)) (· = ·) where
  complete := by
    rintro next code full steps spot _ agrees rfl accepts
    exact ⟨_, accepts_of_save (getElem?_of_agrees agrees) accepts⟩

theorem admits_literal (text : List Char) : Admits (write (.literal text)) (Spot.Takes text) := by
  induction text with
  | nil => exact admits_nothing
  | cons letter text step =>
    have one := admits_both (realizes_take (.single letter.toNat)) (realizes_literal text)
      (admits_take _) step
    refine (show Admits (write (.literal (letter :: text))) _ from one).mono ?_
    rintro start finish ⟨rest, stands, takes⟩
    exact ⟨_, ⟨letter, rest, stands, contains_single.2 rfl, rfl⟩, takes⟩

theorem admits_either (former : Realizes first relates) (latter : Realizes second relatesToo)
    (admits : Admits first relates) (admitsToo : Admits second relatesToo) :
    Admits (fun next code => emit (second next (first next code).2).2
        (.branch (first next code).1 (second next (first next code).2).1))
      fun start finish => relates start finish ∨ relatesToo start finish where
  complete := by
    rintro next code full steps spot finish agrees related accepts
    obtain ⟨here, withinLeft, withinRight⟩ := agrees_of_either former latter agrees
    refine accepts_of_branch here ?_
    rcases related with related | related
    · exact .inl (admits.complete withinLeft related accepts)
    · exact .inr (admitsToo.complete withinRight related accepts)

section Repeating

variable (realizes : Realizes body relates) (admits : Admits body relates)
include realizes admits

theorem admits_replicate (count : Nat) :
    Admits (replicate body count) (Iterates relates count) := by
  induction count with
  | zero => exact admits_nothing
  | succ count step => exact admits_both realizes (realizes_replicate realizes count) admits step

theorem admits_skippable (greedy : Bool) :
    Admits (fun next code => emit (body next code).2 (choice greedy (body next code).1 next))
      fun start finish => start = finish ∨ relates start finish where
  complete := by
    rintro next code full steps spot finish agrees related accepts
    obtain ⟨here, within⟩ := agrees_of_emit (realizes.grows next code) agrees
    refine accepts_of_choice here ?_
    rcases related with rfl | related
    · exact .inr ⟨steps, accepts⟩
    · exact .inl (admits.complete within related accepts)

theorem admits_optional (greedy : Bool) (count : Nat) :
    Admits (fun next code => optional body greedy next count code) fun start finish =>
      ∃ passed ≤ count, Iterates relates passed start finish := by
  induction count with
  | zero =>
    refine admits_nothing.mono ?_
    rintro start finish ⟨passed, less, iterates⟩
    cases Nat.le_zero.1 less
    exact iterates
  | succ count step =>
    have inner := realizes_optional realizes greedy count
    refine (show Admits (fun next code => optional body greedy next (count + 1) code) _ from
      admits_skippable (realizes_both realizes inner) (admits_both realizes inner admits step)
        greedy).mono ?_
    rintro start finish ⟨passed, less, iterates⟩
    cases passed with
    | zero => exact .inl iterates
    | succ passed =>
      obtain ⟨middle, related, others⟩ := iterates
      exact .inr ⟨middle, related, passed, Nat.le_of_succ_le_succ less, others⟩

/-- A loop goes on behind any number of passages from its branch. -/
theorem accepts_loop (greedy : Bool) {count : Nat}
    (agrees : Agrees full (loop body greedy next code).2.2 code.size)
    (iterates : Iterates relates count spot finish) (accepts : Accepts full steps next finish) :
    ∃ more, Accepts full more code.size spot := by
  obtain ⟨here, within⟩ := agrees_of_loop realizes agrees
  induction count generalizing spot with
  | zero =>
    cases iterates
    exact accepts_of_choice here (.inr ⟨steps, accepts⟩)
  | succ count step =>
    obtain ⟨middle, related, others⟩ := iterates
    obtain ⟨more, goes⟩ := step others
    exact accepts_of_choice here (.inl (admits.complete within related goes))

theorem admits_loop (greedy : Bool) :
    Admits (fun next code =>
        ((loop body greedy next code).1, (loop body greedy next code).2.2))
      fun start finish => ∃ count, Iterates relates (count + 1) start finish where
  complete := by
    rintro next code full steps spot finish agrees ⟨count, middle, related, others⟩ accepts
    obtain ⟨more, goes⟩ := accepts_loop realizes admits greedy agrees others accepts
    exact admits.complete (agrees_of_loop realizes agrees).2 related goes

theorem admits_loop_again (greedy : Bool) :
    Admits (fun next code => (loop body greedy next code).2) fun start finish =>
      ∃ count, Iterates relates count start finish where
  complete := by
    rintro next code full steps spot finish agrees ⟨count, iterates⟩ accepts
    exact accepts_loop realizes admits greedy agrees iterates accepts

omit realizes admits

theorem exists_iterates_of_add {count more : Nat} {start : Spot}
    (iterates : Iterates relates (count + more) start finish) :
    ∃ middle, Iterates relates count start middle ∧ Iterates relates more middle finish := by
  induction count generalizing start with
  | zero =>
    rw [Nat.zero_add] at iterates
    exact ⟨start, rfl, iterates⟩
  | succ count step =>
    rw [Nat.add_right_comm] at iterates
    obtain ⟨between, related, others⟩ := iterates
    obtain ⟨middle, former, latter⟩ := step others
    exact ⟨middle, ⟨between, related, former⟩, latter⟩

end Repeating

/-- The instructions of an expression accept whatever it spans, if what follows accepts behind
it. -/
theorem admits_write (expr : Expr) : Admits (write expr) expr.Spans := by
  induction expr with
  | empty => exact admits_nothing
  | literal text => exact admits_literal text
  | one set ascii => exact admits_take set
  | check assertion => exact admits_check assertion
  | sequence first second former latter =>
    exact admits_both (realizes_write first) (realizes_write second) former latter
  | either first second former latter =>
    exact admits_either (realizes_write first) (realizes_write second) former latter
  | times body least most greedy step =>
    have realizes := realizes_write body
    cases most with
    | some most =>
      have whole := admits_both (realizes_replicate realizes least)
        (realizes_optional realizes greedy (most - least)) (admits_replicate realizes step least)
        (admits_optional realizes step greedy (most - least))
      refine (show Admits (write (.times body least (some most) greedy)) _ from whole).mono ?_
      rintro start finish ⟨count, enough, bounded, iterates⟩
      have within := bounded most rfl
      obtain ⟨more, rfl⟩ := Nat.exists_eq_add_of_le enough
      obtain ⟨middle, required, optional⟩ := exists_iterates_of_add iterates
      exact ⟨middle, required, more, by omega, optional⟩
    | none =>
      cases least with
      | zero =>
        cases empty : body.matchesEmpty with
        | true =>
          rw [write_star_of_empty empty]
          refine (admits_skippable (realizes_loop realizes greedy)
            (admits_loop realizes step greedy) greedy).mono ?_
          rintro start finish ⟨count, -, -, iterates⟩
          cases count with
          | zero => exact .inl iterates
          | succ count => exact .inr ⟨count, iterates⟩
        | false =>
          rw [write_star_of_filled empty]
          refine (admits_loop_again realizes step greedy).mono ?_
          rintro start finish ⟨count, -, -, iterates⟩
          exact ⟨count, iterates⟩
      | succ least =>
        have whole := admits_both (realizes_replicate realizes least)
          (realizes_loop realizes greedy) (admits_replicate realizes step least)
          (admits_loop realizes step greedy)
        refine (show Admits (write (.times body (least + 1) none greedy)) _ from whole).mono ?_
        rintro start finish ⟨count, enough, -, iterates⟩
        obtain ⟨more, rfl⟩ := Nat.exists_eq_add_of_le enough
        rw [Nat.add_assoc, Nat.add_comm 1] at iterates
        obtain ⟨middle, required, looped⟩ := exists_iterates_of_add iterates
        exact ⟨middle, required, more, looped⟩
  | group index body step =>
    have inner := admits_both (realizes_write body) (realizes_save (2 * index + 1)) step
      (admits_save (2 * index + 1))
    have whole := admits_both (realizes_save (2 * index))
      (realizes_both (realizes_write body) (realizes_save (2 * index + 1)))
      (admits_save (2 * index)) inner
    refine (show Admits (write (.group index body)) _ from whole).mono ?_
    intro start finish spans
    exact ⟨start, rfl, finish, spans, rfl⟩

/-- The program of an expression accepts from where the expression spans a part. -/
theorem exists_accepts_of_spans {expr : Expr} (spans : expr.Spans spot finish) :
    ∃ steps, Accepts (ofExpr expr).code steps (ofExpr expr).start spot := by
  have accepts : Accepts (ofExpr expr).code 0 0 finish :=
    (realizes_write (.group 0 expr)).keeps 0 #[.accept] 0 Nat.zero_lt_one
  have agrees : Agrees (ofExpr expr).code (write (.group 0 expr) 0 #[.accept]).2
      (#[.accept] : Array Instruction).size := fun place low high => rfl
  exact (admits_write (.group 0 expr)).complete agrees spans accepts

end Program

/-! ### Places that are closed -/

namespace Machine

open Program

/-- How many of the first places are open. -/
def unseen (seen : Nat) : Nat → Nat
  | 0 => 0
  | count + 1 => unseen seen count + if seen.testBit count then 0 else 1

variable {seen place other count : Nat}

theorem testBit_mark :
    (seen ||| 1 <<< place).testBit other = true ↔ seen.testBit other = true ∨ other = place := by
  rw [Nat.testBit_or, Bool.or_eq_true, Nat.shiftLeft_eq, Nat.one_mul, Nat.testBit_two_pow,
    decide_eq_true_eq, eq_comm (a := place)]

/-- No place is opened. -/
theorem opened_mark_le (seen place other : Nat) :
    (if (seen ||| 1 <<< place).testBit other then 0 else 1) ≤
      if seen.testBit other then 0 else 1 := by
  by_cases before : seen.testBit other = true
  · rw [if_pos before, if_pos (testBit_mark.2 (.inl before))]
  · rw [if_neg before]
    split <;> decide

theorem unseen_mark_le (seen place count : Nat) :
    unseen (seen ||| 1 <<< place) count ≤ unseen seen count := by
  induction count with
  | zero => exact Nat.le_refl _
  | succ count step => exact Nat.add_le_add step (opened_mark_le seen place count)

/-- A place that gets closed was one of the open ones. -/
theorem unseen_mark_lt (inside : place < count) (opened : ¬ seen.testBit place = true) :
    unseen (seen ||| 1 <<< place) count < unseen seen count := by
  induction count with
  | zero => cases inside
  | succ count step =>
    rw [unseen, unseen]
    rcases Nat.lt_succ_iff_lt_or_eq.1 inside with less | rfl
    · exact Nat.add_lt_add_of_lt_of_le (step less) (opened_mark_le seen place count)
    · rw [if_pos (testBit_mark.2 (.inr rfl)), if_neg opened]
      exact Nat.lt_succ_of_le (unseen_mark_le seen place place)

theorem unseen_zero_le (count : Nat) : unseen 0 count ≤ count := by
  induction count with
  | zero => exact Nat.le_refl _
  | succ count step =>
    rw [unseen]
    split <;> omega

/-! ### Threads -/

variable {program : Program} {code : Array Instruction} {thread : Thread}
  {threads todo more reached found : List Thread} {position here steps : Nat} {before : Option Char}
  {slots : List (Option Nat)} {best : Option (List (Option Nat))} {rest : List Char} {spot : Spot}

/-- A thread has matched, or waits for the next character on a way that accepts. -/
def Ready (code : Array Instruction) (spot : Spot) (thread : Thread) : Prop :=
  code[thread.place]? = some .accept ∨
    ∃ set next letter rest steps, code[thread.place]? = some (.take set next) ∧
      spot.rest = letter :: rest ∧ set.contains letter.toNat = true ∧
      Accepts code steps next (.past letter rest)

/-- Some thread has reached where it is ready, or one that is still to be followed accepts in fewer
than a number of steps. -/
def Caught (code : Array Instruction) (spot : Spot) (todo reached : List Thread) (bound : Nat) :
    Prop :=
  (∃ thread ∈ reached, Ready code spot thread) ∨
    ∃ thread ∈ todo, ∃ fewer < bound, Accepts code fewer thread.place spot

/-- Whatever accepts from where a thread stands is caught by what the thread becomes. -/
def Handles (code : Array Instruction) (spot : Spot) (thread : Thread)
    (todo reached : List Thread) : Prop :=
  ∀ steps, Accepts code steps thread.place spot → Caught code spot todo reached steps

/-- What accepts from a place that is closed is not lost: the thread that closed it has been
followed from there. -/
def Kept (code : Array Instruction) (spot : Spot) (seen : Nat)
    (todo reached : List Thread) : Prop :=
  ∀ steps place, seen.testBit place = true → Accepts code steps place spot →
    Caught code spot todo reached steps

theorem Caught.mono {fewer bound : Nat} (caught : Caught code spot todo reached fewer)
    (less : fewer ≤ bound) : Caught code spot todo reached bound := by
  rcases caught with ready | ⟨thread, listed, fewest, lesser, goes⟩
  · exact .inl ready
  · exact .inr ⟨thread, listed, fewest, Nat.lt_of_lt_of_le lesser less, goes⟩

/-- What has been caught still is when a thread is followed. -/
theorem Caught.follow {bound : Nat} (caught : Caught code spot (thread :: todo) reached bound)
    (handles : Handles code spot thread (more ++ todo) (found ++ reached)) :
    Caught code spot (more ++ todo) (found ++ reached) bound := by
  rcases caught with ⟨other, listed, ready⟩ | ⟨other, listed, fewer, less, goes⟩
  · exact .inl ⟨other, List.mem_append_right _ listed, ready⟩
  rcases List.mem_cons.1 listed with rfl | listed
  · exact (handles fewer goes).mono (Nat.le_of_lt less)
  · exact .inr ⟨other, List.mem_append_right _ listed, fewer, less, goes⟩

/-- A thread that is followed from where it stands closes the place. -/
theorem Kept.follow (kept : Kept code spot seen (thread :: todo) reached)
    (handles : Handles code spot thread (more ++ todo) (found ++ reached)) :
    Kept code spot (seen ||| 1 <<< thread.place) (more ++ todo) (found ++ reached) := by
  intro steps place closed accepts
  rcases testBit_mark.1 closed with before | rfl
  · exact (kept steps place before accepts).follow handles
  · exact handles steps accepts

/-- A thread that comes to a place that is closed is handled by the others. -/
theorem Kept.handles (kept : Kept code spot seen (thread :: todo) reached)
    (late : seen.testBit thread.place = true) : Handles code spot thread todo reached := by
  intro steps
  -- what is left to the thread itself takes fewer steps from the same place
  induction steps using Nat.strongRecOn with
  | ind steps step =>
    intro accepts
    rcases kept steps thread.place late accepts with ready | ⟨other, listed, fewer, less, goes⟩
    · exact .inl ready
    rcases List.mem_cons.1 listed with rfl | listed
    · exact (step fewer less goes).mono (Nat.le_of_lt less)
    · exact .inr ⟨other, listed, fewer, less, goes⟩

theorem Kept.drop (kept : Kept code spot seen (thread :: todo) reached)
    (late : seen.testBit thread.place = true) : Kept code spot seen todo reached := by
  have handles : Handles code spot thread ([] ++ todo) ([] ++ reached) := kept.handles late
  exact fun steps place closed accepts => (kept steps place closed accepts).follow handles

section Instructions

variable {first second next slot : Nat} {assertion : Assertion} {set : CodeRanges}
  {slotsToo : List (Option Nat)}

/-- Both ways from a branch are followed. -/
theorem handles_branch (stands : code[thread.place]? = some (.branch first second)) :
    Handles code spot thread (⟨first, slots⟩ :: ⟨second, slotsToo⟩ :: todo) reached := by
  intro count accepts
  obtain ⟨fewer, less, goes | goes⟩ := accepts_branch accepts stands
  · exact .inr ⟨_, List.mem_cons_self, fewer, less, goes⟩
  · exact .inr ⟨_, List.mem_cons_of_mem _ List.mem_cons_self, fewer, less, goes⟩

theorem handles_check (stands : code[thread.place]? = some (.check assertion next)) :
    Handles code spot thread (⟨next, slots⟩ :: todo) reached := by
  intro count accepts
  obtain ⟨fewer, less, -, goes⟩ := accepts_check accepts stands
  exact .inr ⟨_, List.mem_cons_self, fewer, less, goes⟩

/-- Nothing accepts behind an assertion that does not hold. -/
theorem handles_failed (stands : code[thread.place]? = some (.check assertion next))
    (fails : ¬ assertion.holds spot.before spot.rest.head? = true) :
    Handles code spot thread todo reached := by
  intro count accepts
  obtain ⟨-, -, holds, -⟩ := accepts_check accepts stands
  exact absurd holds fails

theorem handles_save (stands : code[thread.place]? = some (.save slot next)) :
    Handles code spot thread (⟨next, slots⟩ :: todo) reached := by
  intro count accepts
  obtain ⟨fewer, less, goes⟩ := accepts_save accepts stands
  exact .inr ⟨_, List.mem_cons_self, fewer, less, goes⟩

/-- A thread that waits for a character on a way that accepts is ready. -/
theorem handles_take (stands : code[thread.place]? = some (.take set next)) :
    Handles code spot thread todo (thread :: reached) := by
  intro count accepts
  obtain ⟨fewer, -, letter, rest, behind, inside, goes⟩ := accepts_take accepts stands
  exact .inl ⟨thread, List.mem_cons_self,
    .inr ⟨set, next, letter, rest, fewer, stands, behind, inside, goes⟩⟩

theorem handles_accept (stands : code[thread.place]? = some .accept) :
    Handles code spot thread todo (thread :: reached) :=
  fun _ _ => .inl ⟨thread, List.mem_cons_self, .inl stands⟩

/-- Nothing accepts from behind the program. -/
theorem handles_nowhere (nowhere : code[thread.place]? = none) :
    Handles code spot thread todo reached := by
  intro count accepts
  cases count with
  | zero => rw [Accepts, nowhere] at accepts; cases accepts
  | succ count => rw [Accepts, nowhere] at accepts; cases accepts

end Instructions

/-- What accepts is not lost: if a thread accepts from where it stands, some thread is followed to
where it is ready. -/
theorem exists_ready_follow {bound : Nat} (kept : Kept code spot seen todo reached)
    (caught : Caught code spot todo reached bound)
    (room : todo.length + 2 * unseen seen code.size ≤ steps) :
    ∃ thread ∈ follow code spot.before spot.rest.head? here steps todo seen reached,
      Ready code spot thread := by
  have done : ∀ {reached}, Caught code spot [] reached bound →
      ∃ other ∈ reached.reverse, Ready code spot other := by
    rintro reached (⟨thread, listed, ready⟩ | ⟨thread, listed, -⟩)
    · exact ⟨thread, List.mem_reverse.2 listed, ready⟩
    · cases listed
  induction steps generalizing todo seen reached with
  | zero =>
    cases List.eq_nil_of_length_eq_zero (show todo.length = 0 by omega)
    exact done caught
  | succ steps step =>
    cases todo with
    | nil => exact done caught
    | cons thread todo =>
      rw [List.length_cons] at room
      unfold follow
      split
      · next late =>
        have handles : Handles code spot thread ([] ++ todo) ([] ++ reached) := kept.handles late
        exact step (kept.drop late) (caught.follow handles) (by omega)
      · next opened =>
        -- closing a place makes room for the two threads that may come of it
        have further : ∀ more found {instruction}, code[thread.place]? = some instruction →
            more.length ≤ 2 → Handles code spot thread (more ++ todo) (found ++ reached) →
            ∃ other ∈ Machine.follow code spot.before spot.rest.head? here steps (more ++ todo)
              (seen ||| 1 <<< thread.place) (found ++ reached), Ready code spot other := by
          intro more found instruction stands few handles
          have inside := (Array.getElem?_eq_some_iff.1 stands).1
          have fewer := unseen_mark_lt inside opened
          refine step (kept.follow handles) (caught.follow handles) ?_
          rw [List.length_append]
          omega
        dsimp only
        split
        · next first second stands =>
          exact further [⟨first, _⟩, ⟨second, _⟩] [] stands (Nat.le_refl 2) (handles_branch stands)
        · next assertion next stands =>
          split
          · exact further [⟨next, _⟩] [] stands (Nat.le_succ 1) (handles_check stands)
          · next fails => exact further [] [] stands (Nat.zero_le 2) (handles_failed stands fails)
        · next slot next stands =>
          exact further [⟨next, _⟩] [] stands (Nat.le_succ 1) (handles_save stands)
        · next set next stands =>
          exact further [] [thread] stands (Nat.zero_le 2) (handles_take stands)
        · next stands =>
          exact further [] [thread] stands (Nat.zero_le 2) (handles_accept stands)
        · next nowhere =>
          have handles : Handles code spot thread ([] ++ todo) ([] ++ reached) :=
            handles_nowhere nowhere
          have fewer := unseen_mark_le seen thread.place code.size
          exact step (kept.follow handles) (caught.follow handles) (by omega)

/-- Of the threads that are followed at a position, one is ready if one accepts. -/
theorem exists_ready_of_accepts (here : Nat) (listed : thread ∈ threads)
    (accepts : Accepts code steps thread.place spot) :
    ∃ ready ∈ follow code spot.before spot.rest.head? here (threads.length + 2 * code.size + 1)
      threads 0 [], Ready code spot ready := by
  have kept : Kept code spot 0 threads [] := by
    intro count place closed
    rw [Nat.zero_testBit] at closed
    cases closed
  have room := unseen_zero_le code.size
  exact exists_ready_follow kept (.inr ⟨thread, listed, steps, Nat.lt_succ_self _, accepts⟩)
    (by omega)

theorem untilMatch_cons (other : code[thread.place]? ≠ some .accept) (threads : List Thread) :
    untilMatch code (thread :: threads) =
      (thread :: (untilMatch code threads).1, (untilMatch code threads).2) := by
  rw [untilMatch]
  split
  · next accepts => exact absurd accepts other
  · rfl

/-- Where no thread has matched, all of them wait. -/
theorem untilMatch_of_none (none : (untilMatch code threads).2 = none) :
    (untilMatch code threads).1 = threads ∧
      ∀ thread ∈ threads, code[thread.place]? ≠ some .accept := by
  induction threads with
  | nil => exact ⟨rfl, List.forall_mem_nil _⟩
  | cons thread threads step =>
    have other : code[thread.place]? ≠ some .accept := by
      intro accepts
      rw [untilMatch, accepts] at none
      cases none
    rw [untilMatch_cons other] at none ⊢
    obtain ⟨waiting, others⟩ := step none
    exact ⟨congrArg _ waiting, List.forall_mem_cons.2 ⟨other, others⟩⟩

/-- Behind the next character, a run has found a match, or a thread still accepts. -/
theorem alive_advance {letter : Char} (spotted : spot.rest = letter :: rest)
    (ready : ∃ thread ∈ reached, Ready code spot thread) :
    (untilMatch code reached).2.isSome = true ∨
      ∃ thread ∈ (untilMatch code reached).1.filterMap (advance? code letter), ∃ steps,
        Accepts code steps thread.place (.past letter rest) := by
  cases none : (untilMatch code reached).2 with
  | some slots => exact .inl rfl
  | none =>
    obtain ⟨waiting, others⟩ := untilMatch_of_none none
    obtain ⟨thread, listed, accepted | ⟨set, next, _, _, steps, stands, behind, inside, accepts⟩⟩ :=
      ready
    · exact absurd accepted (others thread listed)
    rw [spotted] at behind
    cases behind
    refine .inr ⟨{ thread with place := next }, ?_, steps, accepts⟩
    rw [waiting]
    refine List.mem_filterMap.2 ⟨thread, listed, ?_⟩
    rw [advance?, stands]
    exact if_pos inside

/-- A run that has found a match, or a thread of which accepts, ends with a match. -/
theorem isSome_runThreads (alive : best.isSome = true ∨ ∃ thread ∈ threads, ∃ steps,
      Accepts program.code steps thread.place ⟨before, rest⟩) :
    (runThreads program before position threads best rest).isSome = true := by
  induction rest generalizing before position threads best with
  | nil =>
    unfold runThreads
    dsimp only
    rw [Option.isSome_or, Bool.or_eq_true]
    rcases alive with earlier | ⟨thread, listed, steps, accepts⟩
    · exact .inr earlier
    · obtain ⟨ready, inside, accepted | ⟨_, _, _, _, _, -, behind, -⟩⟩ :=
        exists_ready_of_accepts position listed accepts
      · refine .inl (Option.isSome_iff_ne_none.2 fun none => ?_)
        exact (untilMatch_of_none none).2 ready inside accepted
      · cases behind
  | cons letter rest step =>
    have further : ((untilMatch program.code (follow program.code before (some letter) position
        (threads.length + 2 * program.code.size + 1) threads 0 [])).2.or best).isSome = true ∨
        ∃ thread ∈ (untilMatch program.code (follow program.code before (some letter) position
          (threads.length + 2 * program.code.size + 1) threads 0 [])).1.filterMap
            (advance? program.code letter), ∃ steps,
          Accepts program.code steps thread.place ⟨some letter, rest⟩ := by
      rw [Option.isSome_or, Bool.or_eq_true]
      rcases alive with earlier | ⟨thread, listed, steps, accepts⟩
      · exact .inl (.inr earlier)
      · rcases alive_advance rfl (exists_ready_of_accepts position listed accepts) with
          found | moved
        · exact .inl (.inl found)
        · exact .inr moved
    unfold runThreads
    dsimp only
    split
    · next none =>
      rcases further with found | ⟨thread, listed, -⟩
      · exact found
      · rw [none] at listed
        cases listed
    · exact step further

/-- A match is found that starts at a position. -/
theorem isSome_run (accepts : Accepts program.code steps program.start ⟨before, rest⟩) :
    (run program before position rest).isSome = true :=
  isSome_runThreads (.inr ⟨_, List.mem_cons_self, steps, accepts⟩)

/-- A match is found that starts anywhere, or with the text where matches have to. -/
theorem isSome_search? {startsText : Bool} {skipped later : List Char}
    (starts : startsText = true → skipped = [])
    (accepts : Accepts program.code steps program.start ⟨skipped.getLast?.or before, later⟩) :
    (search? program startsText before position (skipped ++ later)).isSome = true := by
  induction skipped generalizing before position with
  | nil =>
    have ran : (run program before position later).isSome = true := isSome_run accepts
    cases later with
    | nil => exact ran
    | cons letter later =>
      obtain ⟨slots, found⟩ := Option.isSome_iff_exists.1 ran
      rw [List.nil_append, search?,
        show run program before position (letter :: later) = _ from found]
      rfl
  | cons letter skipped step =>
    rw [List.cons_append, search?]
    split
    · rfl
    · rw [if_neg fun always => List.cons_ne_nil _ _ (starts always)]
      refine step (fun always => absurd (starts always) (List.cons_ne_nil _ _)) ?_
      rw [List.getLast?_cons, Option.some_or] at accepts
      have last : skipped.getLast?.or (some letter) = some (skipped.getLast?.getD letter) := by
        cases skipped.getLast? <;> rfl
      rwa [last]

end Machine

/-! ### Matches -/

namespace Expr

variable {expr : Expr} {start finish : Spot}

theorem eq_of_iterates {relates : Spot → Spot → Prop}
    (each : ∀ {start finish}, relates start finish → start = finish) {count : Nat}
    (iterates : Iterates relates count start finish) : start = finish := by
  induction count generalizing start with
  | zero => exact iterates
  | succ count step =>
    obtain ⟨middle, first, others⟩ := iterates
    exact (each first).trans (step others)

/-- What never takes a character spans nothing. -/
theorem eq_of_matchesOnlyEmpty (only : expr.matchesOnlyEmpty = true)
    (spans : expr.Spans start finish) : start = finish := by
  induction expr generalizing start finish with
  | empty => exact spans
  | literal text => cases only
  | one set ascii => cases only
  | check assertion => exact spans.2
  | sequence first second former latter =>
    obtain ⟨both, bothToo⟩ := Bool.and_eq_true_iff.1 only
    obtain ⟨middle, first, second⟩ := spans
    exact (former both first).trans (latter bothToo second)
  | either first second former latter =>
    obtain ⟨both, bothToo⟩ := Bool.and_eq_true_iff.1 only
    exact spans.elim (former both) (latter bothToo)
  | times body least most greedy step =>
    obtain ⟨count, -, -, iterates⟩ := spans
    exact eq_of_iterates (step only) iterates
  | group index body step => exact step only spans

/-- What can only match where the text starts has nothing before it. -/
theorem before_of_startsText (starts : expr.startsText = true) (spans : expr.Spans start finish) :
    start.before = none := by
  induction expr generalizing start finish with
  | empty | literal | one => cases starts
  | check assertion =>
    cases assertion with
    | textStart => exact Option.isNone_iff_eq_none.1 spans.1
    | _ => cases starts
  | sequence first second former latter =>
    obtain ⟨middle, spansFirst, spansSecond⟩ := spans
    rcases Bool.or_eq_true_iff.1 starts with starts | starts
    · exact former starts spansFirst
    · obtain ⟨only, starts⟩ := Bool.and_eq_true_iff.1 starts
      rw [eq_of_matchesOnlyEmpty only spansFirst]
      exact latter starts spansSecond
  | either first second former latter =>
    obtain ⟨both, bothToo⟩ := Bool.and_eq_true_iff.1 starts
    exact spans.elim (former both) (latter bothToo)
  | times body least most greedy step =>
    obtain ⟨some, starts⟩ := Bool.and_eq_true_iff.1 starts
    obtain ⟨count, enough, -, iterates⟩ := spans
    cases count with
    | zero => exact absurd (Nat.le_zero.1 enough) (by simpa using some)
    | succ count =>
      obtain ⟨middle, first, -⟩ := iterates
      exact step starts first
  | group index body step => exact step starts spans

end Expr

/-- A regular expression matches a text exactly if it spans a part of it, wherever that is. -/
theorem isMatch_iff_spans {regex : Regex} {ignoreCase : Bool} {pattern : String} {expr : Expr}
    {text : Text} (compiled : compile ignoreCase pattern = .ok regex)
    (read : Expr.read? { ignoreCase } pattern = some expr) :
    regex.isMatch text = true ↔ ∃ skipped later finish, text = skipped ++ later ∧
      expr.Spans ⟨skipped.getLast?, later⟩ finish := by
  constructor
  · intro matched
    obtain ⟨other, readToo, skipped, later, finish, whole, -, spans⟩ :=
      exists_spans_of_isMatch compiled matched
    cases read.symm.trans readToo
    exact ⟨skipped, later, finish, whole, spans⟩
  · rintro ⟨skipped, later, finish, rfl, spans⟩
    unfold compile at compiled
    rw [read] at compiled
    dsimp only at compiled
    split at compiled
    · cases compiled
      obtain ⟨steps, accepts⟩ := Program.exists_accepts_of_spans spans
      unfold isMatch find?
      rw [Option.isSome_map]
      have nothing : skipped.getLast?.or none = skipped.getLast? := Option.or_none
      rw [← nothing] at accepts
      refine Machine.isSome_search? (fun starts => ?_) accepts
      exact List.getLast?_eq_none_iff.1 (Expr.before_of_startsText starts spans)
    · cases compiled

end LineLexer.Regex
