import LineLexer.Unicode.CodeRanges

/-!
**Sets of ranges.**

Look-up in a list of ranges stops at the first range behind the code point, and ranges that touch
are joined when sets are put together. Both need ranges in the order of their starts, and keep them
so: a set that is put together from orderly ones contains what they contain.

* `CodeRanges.Orderly`, `CodeRanges.contains_iff`: look-up in ranges that are in order;
* `CodeRanges.contains_union`, `CodeRanges.contains_unions`: what is in several sets;
* `CodeRanges.contains_ofList`, `CodeRanges.contains_ofCodes`: what is in ranges that stand in any
  order, and in sets of single code points.
-/

namespace LineLexer.CodeRanges

variable {set left right ranges rest : CodeRanges} {range next other : Nat × Nat} {code : Nat}
  {others : CodeRanges → CodeRanges}

/-! ### Look-up -/

/-- Some range has a code point. -/
def Covers (ranges : List (Nat × Nat)) (code : Nat) : Prop :=
  ∃ range ∈ ranges, range.1 ≤ code ∧ code ≤ range.2

/-- Ranges in the order of their starts. -/
def Sorted (ranges : List (Nat × Nat)) : Prop := ranges.Pairwise fun range next => range.1 ≤ next.1

/-- Ranges in the order of their starts, which are characters. -/
structure Orderly (set : CodeRanges) : Prop where
  sorted : Sorted set
  starts : ∀ range ∈ set, range.1.isValidChar

theorem covers_cons :
    Covers (range :: ranges) code ↔ (range.1 ≤ code ∧ code ≤ range.2) ∨ Covers ranges code := by
  simp only [Covers, List.mem_cons, or_and_right, exists_or, exists_eq_left]

theorem covers_append :
    Covers (left ++ right) code ↔ Covers left code ∨ Covers right code := by
  simp only [Covers, List.mem_append, or_and_right, exists_or]

/-- A code point is found exactly if a range has it. -/
theorem contains_iff (sorted : Sorted set) : set.contains code = true ↔ Covers set code := by
  induction set with
  | nil => exact iff_of_false Bool.false_ne_true fun covers => List.not_mem_nil covers.choose_spec.1
  | cons range set step =>
    obtain ⟨first, last⟩ := range
    obtain ⟨above, sorted⟩ := List.pairwise_cons.1 sorted
    rw [contains, covers_cons]
    split
    · next small =>
      refine iff_of_false Bool.false_ne_true ?_
      rintro (⟨large, -⟩ | ⟨range, listed, large, -⟩)
      · exact absurd large (Nat.not_le.2 small)
      · exact absurd (Nat.le_trans (above range listed) large) (Nat.not_le.2 small)
    · next large =>
      split
      · next small => exact iff_of_true rfl (.inl ⟨Nat.le_of_not_lt large, small⟩)
      · next beyond =>
        rw [step sorted]
        exact (or_iff_right fun inside => beyond inside.2).symm

/-! ### Merging -/

theorem mem_mergeRange (known : ∀ ranges, other ∈ others ranges ↔ other ∈ rest ∨ other ∈ ranges) :
    other ∈ mergeRange range others ranges ↔ other ∈ range :: rest ∨ other ∈ ranges := by
  induction ranges with
  | nil => rw [mergeRange, List.mem_cons, known, ← or_assoc, ← List.mem_cons]
  | cons next ranges step =>
    rw [mergeRange]
    split
    · rw [List.mem_cons, known, ← or_assoc, ← List.mem_cons]
    · rw [List.mem_cons, step, List.mem_cons (b := next), or_left_comm]

/-- Merged lists have the ranges of both. -/
theorem mem_merge : other ∈ merge left right ↔ other ∈ left ∨ other ∈ right := by
  induction left generalizing right with
  | nil => exact (or_iff_right List.not_mem_nil).symm
  | cons range left step => exact mem_mergeRange fun ranges => step

theorem sorted_mergeRange (above : ∀ other ∈ rest, range.1 ≤ other.1)
    (known : ∀ ranges other, other ∈ others ranges ↔ other ∈ rest ∨ other ∈ ranges)
    (keeps : ∀ ranges, Sorted ranges → Sorted (others ranges)) (sorted : Sorted ranges) :
    Sorted (mergeRange range others ranges) := by
  induction ranges with
  | nil =>
    refine List.pairwise_cons.2 ⟨fun other inside => ?_, keeps [] sorted⟩
    exact above other (((known [] other).1 inside).resolve_right List.not_mem_nil)
  | cons next ranges step =>
    obtain ⟨aboveNext, later⟩ := List.pairwise_cons.1 sorted
    rw [mergeRange]
    split
    · next less =>
      refine List.pairwise_cons.2 ⟨fun other inside => ?_, keeps _ sorted⟩
      rcases (known _ other).1 inside with inside | inside
      · exact above other inside
      rcases List.mem_cons.1 inside with rfl | inside
      · exact less
      · exact Nat.le_trans less (aboveNext other inside)
    · next more =>
      refine List.pairwise_cons.2 ⟨fun other inside => ?_, step later⟩
      rcases (mem_mergeRange fun ranges => known ranges other).1 inside with inside | inside
      · rcases List.mem_cons.1 inside with rfl | inside
        · omega
        · have less := above other inside
          omega
      · exact aboveNext other inside

theorem sorted_merge (sorted : Sorted left) (sortedToo : Sorted right) :
    Sorted (merge left right) := by
  induction left generalizing right with
  | nil => exact sortedToo
  | cons range left step =>
    obtain ⟨above, sorted⟩ := List.pairwise_cons.1 sorted
    exact sorted_mergeRange above (fun ranges other => mem_merge) (fun ranges => step sorted)
      sortedToo

/-! ### Joining -/

/-- Ranges are joined to ranges that start where some of them start. -/
theorem starts_go (inside : other ∈ joined.go range ranges) :
    ∃ next ∈ range :: ranges, other.1 = next.1 := by
  induction ranges generalizing range with
  | nil => exact ⟨other, inside, rfl⟩
  | cons next ranges step =>
    unfold joined.go at inside
    split at inside
    · obtain ⟨first, listed, same⟩ := step inside
      rcases List.mem_cons.1 listed with rfl | listed
      · exact ⟨range, List.mem_cons_self, same⟩
      · exact ⟨first, List.mem_cons_of_mem _ (List.mem_cons_of_mem _ listed), same⟩
    · rcases List.mem_cons.1 inside with rfl | inside
      · exact ⟨other, List.mem_cons_self, rfl⟩
      · obtain ⟨first, listed, same⟩ := step inside
        exact ⟨first, List.mem_cons_of_mem _ listed, same⟩

theorem sorted_go (sorted : Sorted (range :: ranges)) : Sorted (joined.go range ranges) := by
  induction ranges generalizing range with
  | nil => exact sorted
  | cons next ranges step =>
    obtain ⟨above, later⟩ := List.pairwise_cons.1 sorted
    unfold joined.go
    split
    · exact step (List.pairwise_cons.2
        ⟨fun other listed => above other (List.mem_cons_of_mem _ listed), later.of_cons⟩)
    · refine List.pairwise_cons.2 ⟨fun other inside => ?_, step later⟩
      obtain ⟨first, listed, same⟩ := starts_go inside
      rw [same]
      exact above first listed

/-- Joined ranges have the code points that the ranges have. -/
theorem covers_go (sorted : Sorted (range :: ranges)) :
    Covers (joined.go range ranges) code ↔ Covers (range :: ranges) code := by
  induction ranges generalizing range with
  | nil => exact Iff.rfl
  | cons next ranges step =>
    obtain ⟨above, later⟩ := List.pairwise_cons.1 sorted
    have less := above next List.mem_cons_self
    unfold joined.go
    split
    · next touch =>
      have sortedToo : Sorted ((range.1, max range.2 next.2) :: ranges) := List.pairwise_cons.2
        ⟨fun other listed => above other (List.mem_cons_of_mem _ listed), later.of_cons⟩
      rw [step sortedToo, covers_cons, covers_cons, covers_cons, ← or_assoc]
      refine or_congr_left ?_
      dsimp only
      omega
    · rw [covers_cons, step later, ← covers_cons]

theorem covers_joined (sorted : Sorted ranges) :
    Covers (joined ranges) code ↔ Covers ranges code := by
  cases ranges with
  | nil => exact Iff.rfl
  | cons range ranges => exact covers_go sorted

theorem orderly_joined (orderly : Orderly ranges) : Orderly (joined ranges) := by
  cases ranges with
  | nil => exact orderly
  | cons range ranges =>
    refine ⟨sorted_go orderly.sorted, fun other inside => ?_⟩
    obtain ⟨next, listed, same⟩ := starts_go inside
    rw [same]
    exact orderly.starts next listed

/-! ### Sets of several -/

theorem orderly_merge (orderly : Orderly left) (orderlyToo : Orderly right) :
    Orderly (merge left right) :=
  ⟨sorted_merge orderly.sorted orderlyToo.sorted, fun range inside =>
    (mem_merge.1 inside).elim (orderly.starts range) (orderlyToo.starts range)⟩

theorem covers_merge : Covers (merge left right) code ↔ Covers left code ∨ Covers right code := by
  rw [← covers_append]
  simp only [Covers, mem_merge, List.mem_append]

theorem orderly_union (orderly : Orderly left) (orderlyToo : Orderly right) :
    Orderly (union left right) := orderly_joined (orderly_merge orderly orderlyToo)

/-- What is in one of two sets. -/
theorem contains_union (orderly : Orderly left) (orderlyToo : Orderly right) :
    (union left right).contains code = true ↔
      left.contains code = true ∨ right.contains code = true := by
  rw [contains_iff (orderly_union orderly orderlyToo).sorted, contains_iff orderly.sorted,
    contains_iff orderlyToo.sorted, ← covers_merge]
  exact covers_joined (orderly_merge orderly orderlyToo).sorted

theorem orderly_nil : Orderly [] := ⟨List.Pairwise.nil, List.forall_mem_nil _⟩

theorem orderly_unions {sets : List CodeRanges} (orderly : ∀ set ∈ sets, Orderly set) :
    Orderly (unions sets) := by
  induction sets with
  | nil => exact orderly_nil
  | cons set sets step =>
    obtain ⟨first, others⟩ := List.forall_mem_cons.1 orderly
    exact orderly_union first (step others)

/-- What is in one of several sets. -/
theorem contains_unions {sets : List CodeRanges} (orderly : ∀ set ∈ sets, Orderly set) :
    (unions sets).contains code = true ↔ ∃ set ∈ sets, set.contains code = true := by
  induction sets with
  | nil => simp [unions, contains]
  | cons set sets step =>
    obtain ⟨first, others⟩ := List.forall_mem_cons.1 orderly
    refine (contains_union first (orderly_unions others)).trans ?_
    rw [step others]
    simp only [List.mem_cons, or_and_right, exists_or, exists_eq_left]

theorem orderly_single (valid : range.1.isValidChar) : Orderly [range] :=
  ⟨List.pairwise_singleton _ _, List.forall_mem_singleton.2 valid⟩

theorem sorting (code : Nat) (starts : ∀ range ∈ ranges, range.1.isValidChar) :
    Orderly (ranges.foldr (fun range sorted => merge [range] sorted) []) ∧
      (Covers (ranges.foldr (fun range sorted => merge [range] sorted) []) code ↔
        Covers ranges code) := by
  induction ranges with
  | nil => exact ⟨orderly_nil, Iff.rfl⟩
  | cons range ranges step =>
    obtain ⟨first, others⟩ := List.forall_mem_cons.1 starts
    obtain ⟨orderly, same⟩ := step others
    refine ⟨orderly_merge (orderly_single first) orderly, ?_⟩
    rw [List.foldr_cons, covers_merge, same, ← covers_append]
    rfl

theorem orderly_ofList (starts : ∀ range ∈ ranges, range.1.isValidChar) : Orderly (ofList ranges) :=
  orderly_joined (sorting 0 starts).1

/-- What is in ranges that stand in any order. -/
theorem contains_ofList (starts : ∀ range ∈ ranges, range.1.isValidChar) :
    (ofList ranges).contains code = true ↔ Covers ranges code := by
  obtain ⟨orderly, same⟩ := sorting code starts
  rw [contains_iff (orderly_ofList starts).sorted, ← same]
  exact covers_joined orderly.sorted

section Codes

variable {codes : List Nat} (valid : ∀ code ∈ codes, code.isValidChar)

include valid

theorem starts_ofCodes : ∀ range ∈ codes.map fun code => (code, code), range.1.isValidChar := by
  intro range listed
  obtain ⟨code, inside, rfl⟩ := List.mem_map.1 listed
  exact valid code inside

theorem orderly_ofCodes : Orderly (ofList (codes.map fun code => (code, code))) :=
  orderly_ofList (starts_ofCodes valid)

/-- What is in the set of some code points. -/
theorem contains_ofCodes :
    (ofList (codes.map fun code => (code, code))).contains code = true ↔ code ∈ codes := by
  rw [contains_ofList (starts_ofCodes valid)]
  constructor
  · rintro ⟨range, listed, least, most⟩
    obtain ⟨other, inside, rfl⟩ := List.mem_map.1 listed
    have same : other = code := Nat.le_antisymm least most
    rwa [same] at inside
  · exact fun inside => ⟨_, List.mem_map_of_mem inside, Nat.le_refl _, Nat.le_refl _⟩

end Codes

end LineLexer.CodeRanges
