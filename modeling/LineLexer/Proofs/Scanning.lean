import LineLexer.Tokenizer.Scanning

/-!
**Computations that scan, taken apart.**

A computation that comes to a result has come to a result in each of its parts, and what it tells is
what its parts tell, one after the other:

* `Trace.Adds`: the events that lie between two traces;
* `exceptBind_eq_ok`, `exceptBind_eq_error`: how what goes on from a result ends;
* `outcome_bind_eq_ok`, `outcome_bind_eq_error`: how a computation of two parts ends;
* `outcome_settle_eq_ok`, `outcome_cut_eq_ok`: what it takes to pass a check or a cut;
* `Scanning.Quiet`: the computations that tell no event.
-/

namespace LineLexer

/-- The events of the later trace are those of the earlier one, and then those told in between. -/
def Trace.Adds (trace : Trace) (told : List Event) (later : Trace) : Prop :=
  later.events.toList = trace.events.toList ++ told

namespace Trace.Adds

variable {trace middle later : Trace} {told toldLater : List Event}

@[simp] theorem nil_iff : trace.Adds [] later ↔ later.events = trace.events := by
  unfold Adds
  rw [List.append_nil, Array.toList_inj]

theorem refl (trace : Trace) : trace.Adds [] trace := by simp

theorem tell (trace : Trace) (event : Event) :
    trace.Adds [event] { trace with events := trace.events.push event } := Array.toList_push

/-- What is told first comes first. -/
theorem trans (first : trace.Adds told middle) (second : middle.Adds toldLater later) :
    trace.Adds (told ++ toldLater) later := by
  unfold Adds at first second ⊢
  rw [second, first, List.append_assoc]

/-- Two traces say which events lie between them. -/
theorem unique (one : trace.Adds told later) (other : trace.Adds toldLater later) :
    told = toldLater := by
  unfold Adds at one other
  exact List.append_cancel_left (one.symm.trans other)

end Trace.Adds

/-! ### Results and problems -/

section Results

variable {Cause Other Result : Type} {before : Except Cause Other} {change : Other → Result}
  {next : Other → Except Cause Result} {value : Result} {cause : Cause}

/-- A changed result is one of the results before the change. -/
theorem exceptMap_eq_ok :
    before.map change = .ok value ↔ ∃ result, before = .ok result ∧ change result = value := by
  cases before <;> simp [Except.map]

/-- A changed result fails where the one before the change does. -/
theorem exceptMap_eq_error : before.map change = .error cause ↔ before = .error cause := by
  cases before <;> simp [Except.map]

/-- What goes on from a result comes to a result if both parts do. -/
theorem exceptBind_eq_ok :
    before.bind next = .ok value ↔ ∃ result, before = .ok result ∧ next result = .ok value := by
  cases before <;> simp [Except.bind]

/-- It ends with the problem of the first part, or with one of the second part. -/
theorem exceptBind_eq_error :
    before.bind next = .error cause ↔
      before = .error cause ∨ ∃ result, before = .ok result ∧ next result = .error cause := by
  cases before <;> simp [Except.bind]

end Results

namespace Scanning

variable {Result Other : Type} {trace later : Trace}

/-! ### Parts of a computation -/

/-- What follows a result starts with what the first part has left behind. -/
theorem outcome_bind_of_ok {first : Scanning Other} {next : Other → Scanning Result}
    {value : Other} (ends : outcome first trace = (.ok value, later)) :
    outcome (first >>= next) trace = outcome (next value) later := by
  rw [outcome_bind, ends]

/-- A computation of two parts comes to a result if both parts do. -/
theorem outcome_bind_eq_ok {first : Scanning Other} {next : Other → Scanning Result}
    {result : Result} :
    outcome (first >>= next) trace = (.ok result, later) ↔
      ∃ value middle, outcome first trace = (.ok value, middle) ∧
        outcome (next value) middle = (.ok result, later) := by
  rw [outcome_bind]
  rcases outcome first trace with ⟨_ | value, middle⟩
  · simp
  · constructor
    · intro done
      exact ⟨value, middle, rfl, done⟩
    · rintro ⟨_, _, same, done⟩
      obtain ⟨⟨rfl⟩, rfl⟩ := Prod.mk.inj same
      exact done

/-- A computation of two parts stops in one of them. -/
theorem outcome_bind_eq_error {first : Scanning Other} {next : Other → Scanning Result}
    {stop : Stop} :
    outcome (first >>= next) trace = (.error stop, later) ↔
      outcome first trace = (.error stop, later) ∨
        ∃ value middle, outcome first trace = (.ok value, middle) ∧
          outcome (next value) middle = (.error stop, later) := by
  rw [outcome_bind]
  rcases outcome first trace with ⟨_ | value, middle⟩
  · simp
  · constructor
    · intro stopped
      exact Or.inr ⟨value, middle, rfl, stopped⟩
    · rintro (same | ⟨_, _, same, stopped⟩)
      · cases (Prod.mk.inj same).1
      · obtain ⟨⟨rfl⟩, rfl⟩ := Prod.mk.inj same
        exact stopped

/-- A computation that passes a check of its result and of what it leaves behind has a result. -/
theorem exists_of_outcome {scanning : Scanning Result} (check : Result → Trace → Bool)
    (passes : ((outcome scanning trace).1.toOption.any fun result =>
      check result (outcome scanning trace).2) = true) :
    ∃ result later, outcome scanning trace = (.ok result, later) ∧ check result later = true := by
  rcases ends : outcome scanning trace with ⟨_ | result, later⟩
  · rw [ends] at passes
    cases passes
  · rw [ends] at passes
    exact ⟨result, later, rfl, passes⟩

theorem outcome_map (scanning : Scanning Other) (change : Other → Result) (trace : Trace) :
    outcome (change <$> scanning) trace =
      ((outcome scanning trace).1.map change, (outcome scanning trace).2) := by
  rw [map_eq_pure_bind, outcome_bind]
  rcases outcome scanning trace with ⟨_ | value, middle⟩ <;> rfl

theorem outcome_map_eq_ok {scanning : Scanning Other} {change : Other → Result}
    {result : Result} :
    outcome (change <$> scanning) trace = (.ok result, later) ↔
      ∃ value, outcome scanning trace = (.ok value, later) ∧ change value = result := by
  rw [outcome_map]
  rcases outcome scanning trace with ⟨_ | value, middle⟩
  · simp [Except.map]
  · simp only [Except.map, Prod.mk.injEq, Except.ok.injEq]
    constructor
    · rintro ⟨changed, rfl⟩
      exact ⟨value, ⟨rfl, rfl⟩, changed⟩
    · rintro ⟨_, ⟨rfl, rfl⟩, changed⟩
      exact ⟨changed, rfl⟩

theorem outcome_map_eq_error {scanning : Scanning Other} {change : Other → Result}
    {stop : Stop} :
    outcome (change <$> scanning) trace = (.error stop, later) ↔
      outcome scanning trace = (.error stop, later) := by
  rw [outcome_map]
  rcases outcome scanning trace with ⟨_ | value, middle⟩ <;> simp [Except.map]

/-! ### Checks and cuts -/

section

variable {Cause Wording : Type} (change : Cause → Wording)

@[simp] theorem mapError_ok (value : Result) :
    (Except.ok value : Except Cause Result).mapError change = .ok value := rfl

@[simp] theorem mapError_error (cause : Cause) :
    (Except.error cause : Except Cause Result).mapError change = .error (change cause) := rfl

end

/-- Another wording for a fault leaves results alone. -/
theorem mapError_eq_ok {Cause Wording : Type} {change : Cause → Wording}
    {result : Except Cause Result} {value : Result} :
    result.mapError change = .ok value ↔ result = .ok value := by
  cases result <;> simp

theorem outcome_settle (tokenizer : Tokenizer) (result : Except Fault Result) (trace : Trace) :
    outcome (settle tokenizer result) trace =
      (result.mapError fun fault => .fault { language := tokenizer.language, fault }, trace) := by
  cases result <;> rfl

theorem outcome_settle_eq_ok {tokenizer : Tokenizer} {result : Except Fault Result}
    {value : Result} :
    outcome (settle tokenizer result) trace = (.ok value, later) ↔
      result = .ok value ∧ later = trace := by
  rw [outcome_settle]
  cases result <;> simp [eq_comm]

/-- A check that fails stops with a fault of the grammar. -/
theorem outcome_settle_eq_error {tokenizer : Tokenizer} {result : Except Fault Result}
    {stop : Stop} :
    outcome (settle tokenizer result) trace = (.error stop, later) ↔
      (∃ fault, result = .error fault ∧ stop = .fault { language := tokenizer.language, fault }) ∧
        later = trace := by
  rw [outcome_settle]
  cases result <;> simp [eq_comm]

theorem outcome_cut_eq_ok {part : Option Result} {value : Result} :
    outcome (cut part) trace = (.ok value, later) ↔ part = some value ∧ later = trace := by
  cases part <;> simp [cut, eq_comm]

/-- A cut that fails is a stop of its own kind. -/
theorem outcome_cut_eq_error {part : Option Result} {stop : Stop} :
    outcome (cut part) trace = (.error stop, later) ↔
      part = none ∧ stop = .cut ∧ later = trace := by
  cases part <;> simp [cut, eq_comm]

/-- What a cache hands out depends on the cache alone, and there is always something. -/
theorem outcome_share (tokenizer : Tokenizer) (operation : StateCache → Result × StateCache)
    (trace : Trace) :
    outcome (share tokenizer operation) trace =
      (.ok (operation (trace.memories.read tokenizer.identity).cache).1,
        { trace with
          memories := trace.memories.store tokenizer.identity
            { trace.memories.read tokenizer.identity with
              cache := (operation (trace.memories.read tokenizer.identity).cache).2 } }) := rfl

/-! ### Quiet computations -/

/-- A computation that tells no event. -/
def Quiet (scanning : Scanning Result) : Prop :=
  ∀ trace : Trace, trace.Adds [] (outcome scanning trace).2

theorem Quiet.adds {scanning : Scanning Result} (quiet : Quiet scanning)
    {ending : Except Stop Result} (ends : outcome scanning trace = (ending, later)) :
    trace.Adds [] later := by
  have silent := quiet trace
  rw [ends] at silent
  exact silent

theorem quiet_pure (result : Result) : Quiet (pure result) := fun trace => by simp

theorem quiet_throw (stop : Stop) : Quiet (throw stop : Scanning Result) := fun trace => by simp

theorem quiet_note (entry : Note) : Quiet (note entry) := fun trace => by simp

theorem quiet_remember (tokenizer : Tokenizer) (operation : Memory → Result × Memory) :
    Quiet (remember tokenizer operation) := fun trace => by simp

theorem quiet_share (tokenizer : Tokenizer) (operation : StateCache → Result × StateCache) :
    Quiet (share tokenizer operation) := quiet_remember tokenizer _

theorem quiet_settle (tokenizer : Tokenizer) (result : Except Fault Result) :
    Quiet (settle tokenizer result) := fun trace => by simp [outcome_settle]

theorem quiet_cut (part : Option Result) : Quiet (cut part) := by
  cases part
  · exact quiet_throw .cut
  · exact quiet_pure _

/-- Quiet parts make a quiet whole. -/
theorem quiet_bind {first : Scanning Other} {next : Other → Scanning Result} (quiet : Quiet first)
    (quietNext : ∀ value, Quiet (next value)) : Quiet (first >>= next) := by
  intro trace
  rw [outcome_bind]
  rcases ends : outcome first trace with ⟨_ | value, middle⟩
  · exact quiet.adds ends
  · exact (quiet.adds ends).trans (quietNext value middle)

end Scanning

end LineLexer
