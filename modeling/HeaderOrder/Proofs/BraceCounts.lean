import HeaderOrder.Proofs.GreedyBlocks
import HeaderOrder.Proofs.Reassembly

/-!
# Two counts of braces

Where a definition ends is found out twice, by two counts of braces.  The scanner counts the first
line as one open brace, whatever it holds.  The search that locates the definition again begins
with nothing open and counts the first line as it stands.

So the second count differs from the first by a constant, from the first line to the last, and the
constant is zero if the first line opens one brace more than it closes.  As the first count comes to
zero at the end of the block and not before, the second does the same exactly in that case; and the
definition's text, which is what was counted, then closes as many braces as it opens.
-/

namespace HeaderOrder

/-- How many braces are open after the line `index`, if none was open in front of the line
`start`. -/
def balanceTo (lines : List Text) (start index : Nat) : Int :=
  (((Span.mk start (index + 1)).slice lines).map braceBalance).sum

/-- The first line from `start` on after which no brace is open, if none was open in front of it. -/
structure FirstBalanced (lines : List Text) (start last : Nat) : Prop where
  reached : start ≤ last
  within : last < lines.length
  balanced : balanceTo lines start last = 0
  first : ∀ index, start ≤ index → index < last → balanceTo lines start index ≠ 0

/-! ## The search for the end of a definition -/

/-- The search for the end comes to zero at a line exactly if it stops there with nothing open.
It also stops at the end of the file, but then braces may be open. -/
theorem closes_take_iff_extent {depth : Int} {lines : List Text} {count : Nat}
    (within : count < lines.length) :
    Closes depth (lines.take (count + 1)) ↔
      extent depth lines = count + 1 ∧
        depth + ((lines.take (count + 1)).map braceBalance).sum = 0 := by
  constructor
  · intro closes
    refine ⟨?_, ((closes_take_iff within).1 closes).1⟩
    have stops := extent_append_of_closes closes (lines.drop (count + 1))
    rwa [List.take_append_drop, List.length_take_of_le within] at stops
  · rintro ⟨stops, zero⟩
    induction lines generalizing depth count with
    | nil => exact absurd within (Nat.not_lt_zero _)
    | cons line rest ih =>
        rw [List.take_succ_cons, List.map_cons, List.sum_cons, ← Int.add_assoc] at zero
        rw [List.take_succ_cons, Closes]
        rw [extent] at stops
        split
        · next closed =>
            rw [if_pos closed] at stops
            obtain rfl : count = 0 := by omega
            rfl
        · next stillOpen =>
            rw [if_neg stillOpen] at stops
            cases count with
            | zero => exact absurd (by simpa using zero) stillOpen
            | succ count => exact ih (Nat.lt_of_succ_lt_succ within) (by omega) zero

theorem firstBalanced_iff_rangeFrom {lines : List Text} {start last : Nat} (reached : start ≤ last)
    (within : last < lines.length) :
    FirstBalanced lines start last ↔
      rangeFrom lines start = ⟨start, last + 1⟩ ∧ balanceTo lines start last = 0 := by
  obtain ⟨count, rfl⟩ := Nat.exists_eq_add_of_le reached
  have inside : count < (lines.drop start).length := by
    rw [List.length_drop]
    omega
  have sums : ∀ further, balanceTo lines start (start + further) =
      (((lines.drop start).take (further + 1)).map braceBalance).sum := by
    intro further
    rw [balanceTo, Span.slice, Nat.add_assoc, Nat.add_sub_cancel_left]
  have stops : rangeFrom lines start = ⟨start, start + count + 1⟩ ↔
      extent 0 (lines.drop start) = count + 1 := by
    rw [rangeFrom, Span.mk.injEq, Nat.add_assoc, Nat.add_left_cancel_iff]
    exact and_iff_right rfl
  have scanned : Closes 0 ((lines.drop start).take (count + 1)) ↔ _ := closes_take_iff_extent inside
  rw [closes_take_iff inside, Int.zero_add, ← sums, ← stops] at scanned
  rw [← scanned]
  constructor
  · intro first
    refine ⟨first.balanced, fun earlier before => ?_⟩
    rw [Int.zero_add, ← sums]
    exact first.first _ (Nat.le_add_right _ _) (Nat.add_lt_add_left before start)
  · rintro ⟨zero, others⟩
    refine ⟨reached, within, zero, fun index behind before => ?_⟩
    obtain ⟨earlier, rfl⟩ := Nat.exists_eq_add_of_le behind
    rw [sums, ← Int.zero_add (List.sum _)]
    exact others earlier (Nat.lt_of_add_lt_add_left before)

/-! ## The braces of a definition's text -/

theorem braceBalance_append (left right : Text) :
    braceBalance (left ++ right) = braceBalance left + braceBalance right := by
  simp only [braceBalance, List.count_append]
  omega

theorem braceBalance_eq_zero_iff (text : Text) :
    braceBalance text = 0 ↔ text.count '{' = text.count '}' := by
  rw [braceBalance]
  omega

/-- Line breaks are no braces. -/
theorem braceBalance_unlines (lines : List Text) :
    braceBalance (Text.unlines lines) = (lines.map braceBalance).sum := by
  induction lines with
  | nil => rfl
  | cons line rest ih =>
      cases rest with
      | nil => simp
      | cons next others =>
          have joined : Text.unlines (line :: next :: others) =
              line ++ (['\n'] ++ Text.unlines (next :: others)) := by
            simp [Text.unlines, List.intercalate_cons_cons]
          have unbraced : braceBalance ['\n'] = 0 := by decide
          rw [joined, braceBalance_append, braceBalance_append, ih, unbraced, Int.zero_add]
          exact List.sum_cons.symm

theorem braceBalance_spanText (source : Text) (start last : Nat) :
    braceBalance (spanText source ⟨start, last + 1⟩) = balanceTo (Text.lines source) start last :=
  braceBalance_unlines _

/-! ## The two counts -/

section Counts

variable {lines : List Text} {start last : Nat} {first : Text}

/-- From the first line on, the two counts differ by what the first line opens beyond one brace. -/
theorem balanceTo_eq (here : lines[start]? = some first) {index : Nat} (reached : start ≤ index) :
    balanceTo lines start index = braceBalance first - 1 + depthAt lines start index := by
  rw [balanceTo, slice_eq_cons here (Nat.lt_add_one_of_le reached), List.map_cons, List.sum_cons,
    depthAt]
  omega

theorem balanceTo_eq_zero_iff (here : lines[start]? = some first)
    (ends : NextEnd lines start last) :
    balanceTo lines start last = 0 ↔ braceBalance first = 1 := by
  rw [balanceTo_eq here (Nat.le_of_lt ends.later), ends.balanced]
  omega

/-- The count of the first line as it stands comes to zero where the block ends, and not before,
exactly if the first line opens one brace. -/
theorem NextEnd.firstBalanced_iff (ends : NextEnd lines start last)
    (here : lines[start]? = some first) :
    FirstBalanced lines start last ↔ braceBalance first = 1 := by
  constructor
  · intro balanced
    exact (balanceTo_eq_zero_iff here ends).1 balanced.balanced
  · intro opensOne
    have same :
        ∀ index, start ≤ index → balanceTo lines start index = depthAt lines start index := by
      intro index reached
      rw [balanceTo_eq here reached, opensOne]
      omega
    refine ⟨Nat.le_of_lt ends.later, ends.within, (balanceTo_eq_zero_iff here ends).2 opensOne, ?_⟩
    intro index reached before
    rw [same index reached]
    rcases Nat.eq_or_lt_of_le reached with rfl | behind
    · -- Only the first line is counted so far, and the scanner took it for one brace.
      simp [depthAt, Span.slice]
    · exact ends.first index behind before

end Counts

/-! ## The definitions of a file -/

theorem GreedyCut.exists_nextEnd {lines : List Text} {position : Nat} {spans : List Span}
    (cut : GreedyCut lines position spans) :
    ∀ span ∈ spans, ∃ last, span = ⟨span.start, last + 1⟩ ∧ NextEnd lines span.start last := by
  induction cut with
  | noStart _ => exact List.forall_mem_nil _
  | noEnd _ _ => exact List.forall_mem_nil _
  | block _ ends _ ih => exact List.forall_mem_cons.2 ⟨⟨_, rfl, ends⟩, ih⟩

/-- The lines of a definition's text are those of its block. -/
theorem range_eq_of_text {source : Text} {definition : Definition} {span : Span}
    (starts : definition.line = span.start) (text : definition.text = spanText source span)
    (proper : span.start < span.stop) (within : span.stop ≤ (Text.lines source).length) :
    definition.range = span := by
  have length : (span.slice (Text.lines source)).length = span.stop - span.start := by
    rw [Span.slice, List.length_take, List.length_drop]
    omega
  have some : span.slice (Text.lines source) ≠ [] := by
    rw [← List.length_pos_iff, length]
    omega
  have cut : Text.lines definition.text = span.slice (Text.lines source) := by
    rw [text]
    exact Text.lines_unlines
      (fun line member => Text.newline_notMem_of_mem_lines (mem_of_mem_slice member)) some
  rw [Definition.range, starts, Int.toNat_natCast, cut, length,
    Nat.add_sub_cancel' (Nat.le_of_lt proper)]

/-- For every definition of a file, these are the same: the search for its end, which begins with
nothing open, stops at the last line of the block with nothing open, so that it comes to zero
there for the first time; the first line opens exactly one brace more than it closes; the text of
the definition closes as many braces as it opens. -/
theorem end_found_again_iff (header source : Text) :
    ∃ definitions, Definition.ofSource (Declarations.ofHeader header) source = .ok definitions ∧
      ∀ definition ∈ definitions, ∃ start last first,
        definition.range = ⟨start, last + 1⟩ ∧
        definition.text = spanText source ⟨start, last + 1⟩ ∧
        (Text.lines source)[start]? = some first ∧
        (rangeFrom (Text.lines source) start = ⟨start, last + 1⟩ ∧
          balanceTo (Text.lines source) start last = 0 ↔
            FirstBalanced (Text.lines source) start last) ∧
        (FirstBalanced (Text.lines source) start last ↔
          first.count '{' = first.count '}' + 1) ∧
        (first.count '{' = first.count '}' + 1 ↔
          definition.text.count '{' = definition.text.count '}') := by
  obtain ⟨spans, cut, found⟩ := Definition.ofSource_eq_filterMap header source
  refine ⟨_, found, fun definition member => ?_⟩
  obtain ⟨span, inCut, made⟩ := List.mem_filterMap.1 member
  obtain ⟨first, _, _, here, _, _, rfl⟩ := Definition.of_ofSpan? made
  obtain ⟨last, whole, ends⟩ := cut.exists_nextEnd span inCut
  have bounds := cut.bounds span inCut
  have opensOne : braceBalance first = 1 ↔ first.count '{' = first.count '}' + 1 := by
    rw [braceBalance]
    omega
  refine ⟨span.start, last, first, ?_, ?_, here, ?_, ?_, ?_⟩
  · rw [← whole]
    exact range_eq_of_text rfl rfl (by omega) bounds.2.2
  · rw [← whole]
    rfl
  · exact (firstBalanced_iff_rangeFrom (Nat.le_of_lt ends.later) ends.within).symm
  · rw [ends.firstBalanced_iff here, opensOne]
  · rw [← opensOne, ← balanceTo_eq_zero_iff here ends, ← braceBalance_spanText, ← whole,
      braceBalance_eq_zero_iff]
    rfl

/-- A file with two definitions, of which the first opens two braces on its first line. -/
def unevenSource : Text :=
  "int A::f() \x7b \x7b\n\x7d\n\x7d\nint A::g() \x7b\n\x7d".toList

theorem end_found_again_iff_uneven :
    ∃ uneven even, Definition.ofSource (Declarations.ofHeader sampleHeader) unevenSource =
        .ok [uneven, even] ∧
      uneven.range = ⟨0, 2⟩ ∧ ¬ FirstBalanced (Text.lines unevenSource) 0 1 ∧
      uneven.text.count '{' ≠ uneven.text.count '}' ∧
      even.range = ⟨3, 5⟩ ∧ FirstBalanced (Text.lines unevenSource) 3 4 ∧
      even.text.count '{' = even.text.count '}' := by
  have found : Definition.ofSource (Declarations.ofHeader sampleHeader) unevenSource =
      .ok [⟨"A::f".toList, "A::f()".toList, "int A::f() \x7b \x7b\n\x7d".toList, 0⟩,
        ⟨"A::g".toList, "A::g()".toList, "int A::g() \x7b\n\x7d".toList, 3⟩] := by
    decide +kernel
  obtain ⟨definitions, listed, agree⟩ := end_found_again_iff sampleHeader unevenSource
  obtain rfl := Except.ok.inj (found.symm.trans listed)
  obtain ⟨start, last, first, range, -, -, -, closes, balanced⟩ :=
    agree _ (List.mem_cons_self ..)
  obtain ⟨start', last', first', range', -, -, -, closes', balanced'⟩ :=
    agree _ (List.mem_cons_of_mem _ (List.mem_cons_self ..))
  have uneven : (Span.mk 0 2) = ⟨start, last + 1⟩ := range ▸ by decide +kernel
  have even : (Span.mk 3 5) = ⟨start', last' + 1⟩ := range' ▸ by decide +kernel
  cases uneven
  cases even
  refine ⟨_, _, found, range, ?_, by decide +kernel, range', ?_, by decide +kernel⟩
  · rw [closes, balanced]
    decide +kernel
  · rw [closes', balanced']
    decide +kernel

end HeaderOrder
