import HeaderOrder.Proofs.Preservation
import Mathlib.Tactic.SplitIfs

/-!
# Which lines an arrangement loses

The gaps that located definitions leave never overlap, even if the located ranges do.  So each
line of a file lies in one gap or is taken for a definition.  The gaps are kept whole; what was
taken is given back as the texts of the definitions.  An arrangement therefore keeps the nonblank
lines of a file exactly if these texts give back what was taken.
-/

namespace HeaderOrder

/-- Every nonblank line occurs in `others` at least as often as in `lines`. -/
def SurviveIn (lines others : List Text) : Prop :=
  ∀ line, Text.trim line ≠ [] → lines.count line ≤ others.count line

theorem survive_iff_forall_mem (lines others : List Text) :
    SurviveIn lines others ↔
      ∀ line ∈ lines, Text.trim line ≠ [] → lines.count line ≤ others.count line := by
  constructor
  · intro survive line _
    exact survive line
  · intro survive line nonblank
    by_cases member : line ∈ lines
    · exact survive line member nonblank
    · rw [List.count_eq_zero_of_not_mem member]
      exact Nat.zero_le _

instance (lines others : List Text) : Decidable (SurviveIn lines others) :=
  decidable_of_iff _ (survive_iff_forall_mem lines others).symm

theorem count_nonblank (lines : List Text) {line : Text} (nonblank : Text.trim line ≠ []) :
    (Text.nonblank lines).count line = lines.count line := by
  rw [Text.nonblank, List.count_filter]
  rw [ne_eq, Text.trim_eq_nil_iff] at nonblank
  simpa using nonblank

/-! ## Spans that stand apart -/

variable {α : Type}

theorem map_filter_zipIdx_span (span : Span) (items : List α) :
    (items.zipIdx.filter fun entry =>
      span.start ≤ entry.2 && entry.2 < span.stop).map (·.1) = span.slice items := by
  let before := items.take span.start
  let after := (items.drop span.start).drop (span.stop - span.start)
  have whole : items = before ++ (span.slice items ++ after) := by
    rw [Span.slice, List.take_append_drop, List.take_append_drop]
  have beforeLength : before.length = min span.start items.length := List.length_take
  have sliceLength : (span.slice items).length =
      min (span.stop - span.start) (items.length - span.start) := by
    rw [Span.slice, List.length_take, List.length_drop]
  have afterLength : after.length = items.length - span.start - (span.stop - span.start) := by
    rw [List.length_drop, List.length_drop]
  have outBefore : (before.zipIdx 0).filter (fun entry =>
      span.start ≤ entry.2 && entry.2 < span.stop) = [] := by
    apply List.filter_eq_nil_iff.2
    intro entry member
    have bounds := List.mem_zipIdx member
    simp only [Bool.and_eq_true, decide_eq_true_eq]
    omega
  have inside : ((span.slice items).zipIdx before.length).filter (fun entry =>
      span.start ≤ entry.2 && entry.2 < span.stop) =
        (span.slice items).zipIdx before.length := by
    apply List.filter_eq_self.2
    intro entry member
    have bounds := List.mem_zipIdx member
    simp only [Bool.and_eq_true, decide_eq_true_eq]
    omega
  have outAfter : (after.zipIdx (before.length + (span.slice items).length)).filter (fun entry =>
      span.start ≤ entry.2 && entry.2 < span.stop) = [] := by
    apply List.filter_eq_nil_iff.2
    intro entry member
    have bounds := List.mem_zipIdx member
    simp only [Bool.and_eq_true, decide_eq_true_eq]
    omega
  conv_lhs => rw [whole]
  rw [List.zipIdx_append, List.zipIdx_append, List.filter_append, List.filter_append, outBefore,
    Nat.zero_add, inside, outAfter, List.nil_append, List.append_nil, List.zipIdx_map_fst]

theorem filter_or_perm {items : List α} {first second : α → Bool}
    (apart : ∀ item ∈ items, first item = true → second item = false) :
    (items.filter fun item => first item || second item).Perm
      (items.filter first ++ items.filter second) := by
  induction items with
  | nil => exact List.Perm.nil
  | cons item rest ih =>
      have later := ih fun other member => apart other (List.mem_cons_of_mem _ member)
      cases one : first item with
      | true =>
          have other := apart item (List.mem_cons_self ..) one
          simpa [one, other] using later
      | false =>
          cases two : second item with
          | false => simpa [one, two] using later
          | true =>
              simpa [one, two] using (later.cons item).trans List.perm_middle.symm

/-- Spans in order, each of which starts no earlier than those before it end. -/
def Apart (spans : List Span) : Prop :=
  spans.Pairwise fun left right => left.stop ≤ right.start

/-- The items that spans cover are those of their slices. -/
theorem map_filter_covered_perm {spans : List Span} (apart : Apart spans) (items : List α) :
    ((items.zipIdx.filter fun entry => covered spans entry.2).map (·.1)).Perm
      (spans.flatMap (·.slice items)) := by
  induction spans with
  | nil => simp [covered]
  | cons span rest ih =>
      obtain ⟨before, restApart⟩ := List.pairwise_cons.1 apart
      have disjoint : ∀ entry ∈ items.zipIdx,
          (decide (span.start ≤ entry.2) && decide (entry.2 < span.stop)) = true →
            covered rest entry.2 = false := by
        intro entry _ inside
        rw [Bool.and_eq_true, decide_eq_true_eq, decide_eq_true_eq] at inside
        rw [covered, List.any_eq_false]
        intro other member
        have start := before other member
        simp
        omega
      have split := (filter_or_perm disjoint).map (·.1)
      rw [List.map_append, map_filter_zipIdx_span] at split
      exact split.trans ((ih restApart).append_left _)

/-! ## Located ranges -/

theorem of_headLine? {lines : List Text} {ranges : List Span} {text : Text} {start : Nat}
    (found : headLine? lines ranges text = some start) :
    covered ranges start = false ∧ ∃ line, lines[start]? = some line ∧
      beginsDefinition line = true ∧ line <+: text := by
  obtain ⟨⟨line, index⟩, located, rfl⟩ := Option.map_eq_some_iff.1 found
  have member := List.mem_zipIdx_iff_getElem?.1 (List.mem_of_find?_eq_some located)
  have accepted := List.find?_some located
  rw [Bool.and_eq_true, Bool.and_eq_true, List.isPrefixOf_iff_prefix, Bool.not_eq_true',
    Head.isSome_ofLine?] at accepted
  exact ⟨accepted.1.2, line, member, accepted.2, accepted.1.1⟩

theorem extent_pos (depth : Int) {lines : List Text} (some : lines ≠ []) :
    0 < extent depth lines := by
  cases lines with
  | nil => exact absurd rfl some
  | cons line rest =>
      simp only [extent]
      split_ifs <;> omega

/-- Ranges at which definitions were located: each starts at a line that begins one of the
definitions and ends where its braces are closed, and no two start at one line. -/
structure Located (lines : List Text) (definitions : List Definition) (ranges : List Span) :
    Prop where
  found : ∀ range ∈ ranges, range = rangeFrom lines range.start ∧
    ∃ definition ∈ definitions, ∃ line, lines[range.start]? = some line ∧
      beginsDefinition line = true ∧ line <+: definition.text
  distinct : (ranges.map Span.start).Nodup

section Locating

variable {lines : List Text} {definitions : List Definition} {ranges : List Span}

theorem Located.lt_stop (located : Located lines definitions ranges) :
    ∀ range ∈ ranges, range.start < range.stop := by
  intro range member
  obtain ⟨made, _, _, _, here, _⟩ := located.found range member
  have left : lines.drop range.start ≠ [] := by
    rw [ne_eq, List.drop_eq_nil_iff, Nat.not_le]
    exact (List.getElem?_eq_some_iff.1 here).1
  have positive := extent_pos 0 left
  rw [made]
  exact Nat.lt_add_of_pos_right positive

/-- The next definition is located at a line that no range covers, so at no start of one. -/
theorem Located.locate (located : Located lines definitions ranges) {definition : Definition}
    (listed : definition ∈ definitions) {start : Nat}
    (found : headLine? lines ranges definition.text = some start) :
    Located lines definitions (ranges ++ [rangeFrom lines start]) := by
  obtain ⟨free, line, here, begins, shared⟩ := of_headLine? found
  refine ⟨?_, ?_⟩
  · refine List.forall_mem_append.2 ⟨located.found, List.forall_mem_singleton.2 ⟨rfl, ?_⟩⟩
    exact ⟨definition, listed, line, here, begins, shared⟩
  · rw [List.map_append, List.map_singleton, List.nodup_append]
    refine ⟨located.distinct, List.pairwise_singleton _ _, ?_⟩
    intro other member last isLast same
    obtain ⟨range, inRanges, rfl⟩ := List.mem_map.1 member
    have taken : covered ranges start = true := by
      have here : range.start = start := same.trans (List.mem_singleton.1 isLast)
      refine List.any_eq_true.2 ⟨range, inRanges, ?_⟩
      rw [← here, Bool.and_eq_true, decide_eq_true_eq, decide_eq_true_eq]
      exact ⟨Nat.le_refl _, located.lt_stop range inRanges⟩
    rw [free] at taken
    cases taken

theorem Located.locateAll (located : Located lines definitions ranges) {rest : List Definition}
    (listed : ∀ definition ∈ rest, definition ∈ definitions) :
    Located lines definitions (HeaderOrder.locateAll lines ranges rest) := by
  induction rest generalizing ranges with
  | nil => exact located
  | cons definition others ih =>
      have here := listed definition (List.mem_cons_self ..)
      have later := fun other member => listed other (List.mem_cons_of_mem definition member)
      rw [HeaderOrder.locateAll]
      cases found : headLine? lines ranges definition.text with
      | none => exact ih located later
      | some start => exact ih (located.locate here found) later

theorem located_locateAll (lines : List Text) (definitions : List Definition) :
    Located lines definitions (locateAll lines [] definitions) :=
  Located.locateAll ⟨List.forall_mem_nil _, List.nodup_nil⟩ fun _ member => member

end Locating

/-! ## The gaps of any definitions -/

theorem le_start_of_mem_gapsFrom {total position bound : Nat} {ranges : List Span}
    (here : bound ≤ position) (later : ∀ range ∈ ranges, bound ≤ range.stop) :
    ∀ gap ∈ gapsFrom total position ranges, bound ≤ gap.start := by
  induction ranges generalizing position with
  | nil =>
      intro gap member
      rw [gapsFrom] at member
      split_ifs at member
      · rw [List.mem_singleton.1 member]
        exact here
      · exact absurd member List.not_mem_nil
  | cons range rest ih =>
      intro gap member
      rw [gapsFrom, List.mem_append] at member
      cases member with
      | inl first =>
          split_ifs at first
          · rw [List.mem_singleton.1 first]
            exact here
          · exact absurd first List.not_mem_nil
      | inr other =>
          have passed := later range (List.mem_cons_self ..)
          exact ih passed (fun next member => later next (List.mem_cons_of_mem _ member)) gap other

theorem apart_gapsFrom {total position : Nat} {ranges : List Span}
    (sorted : ranges.Pairwise fun left right => left.start ≤ right.start)
    (proper : ∀ range ∈ ranges, range.start < range.stop) :
    Apart (gapsFrom total position ranges) := by
  induction ranges generalizing position with
  | nil =>
      rw [gapsFrom]
      split_ifs
      · exact List.pairwise_singleton _ _
      · exact List.Pairwise.nil
  | cons range rest ih =>
      obtain ⟨first, restSorted⟩ := List.pairwise_cons.1 sorted
      have properRest : ∀ next ∈ rest, next.start < next.stop :=
        fun next member => proper next (List.mem_cons_of_mem _ member)
      have restApart : Apart (gapsFrom total range.stop rest) := ih restSorted properRest
      rw [gapsFrom]
      split_ifs
      · refine List.pairwise_cons.2 ⟨?_, restApart⟩
        -- A range that ends before an earlier one sets the position back, but not before its start.
        apply le_start_of_mem_gapsFrom
        · exact Nat.le_of_lt (proper range (List.mem_cons_self ..))
        · intro next member
          exact Nat.le_trans (first next member) (Nat.le_of_lt (properRest next member))
      · exact restApart

theorem locatedRanges_perm (lines : List Text) (definitions : List Definition) :
    (locatedRanges lines definitions).Perm (locateAll lines [] definitions) := by
  rw [locatedRanges, stableSort_eq_mergeSort _ (keyLe_trans Span.start) (keyLe_total Span.start)]
  exact List.mergeSort_perm ..

theorem pairwise_locatedRanges (lines : List Text) (definitions : List Definition) :
    (locatedRanges lines definitions).Pairwise fun left right => left.start ≤ right.start := by
  rw [locatedRanges, stableSort_eq_mergeSort _ (keyLe_trans Span.start) (keyLe_total Span.start)]
  have sorted := List.pairwise_mergeSort (keyLe_trans Span.start) (keyLe_total Span.start)
    (locateAll lines [] definitions)
  exact sorted.imp of_decide_eq_true

/-- The gaps that definitions leave stand apart, wherever the definitions are located. -/
theorem apart_gaps (lines : List Text) (definitions : List Definition) :
    Apart (gaps lines definitions) := by
  have proper := (located_locateAll lines definitions).lt_stop
  rw [gaps]
  apply apart_gapsFrom (pairwise_locatedRanges lines definitions)
  intro range member
  exact proper range ((locatedRanges_perm lines definitions).mem_iff.1 member)

/-! ## What is taken and what is given back -/

/-- The lines of a file that lie in none of the gaps that definitions leave. -/
def takenLines (source : Text) (definitions : List Definition) : List Text :=
  ((Text.lines source).zipIdx.filter fun entry =>
    !covered (gaps (Text.lines source) definitions) entry.2).map (·.1)

/-- Each line of a file lies in a gap or is taken. -/
theorem lines_perm (source : Text) (definitions : List Definition) :
    (Text.lines source).Perm
      ((gapSlices source definitions).flatten ++ takenLines source definitions) := by
  have inGaps := map_filter_covered_perm (apart_gaps (Text.lines source) definitions)
    (Text.lines source)
  have split := (List.filter_append_perm
    (fun entry => covered (gaps (Text.lines source) definitions) entry.2)
    (Text.lines source).zipIdx).map (·.1)
  rw [List.map_append, List.zipIdx_map_fst] at split
  rw [gapSlices, ← List.flatMap_def]
  exact split.symm.trans (inGaps.append_right _)

/-- An arrangement keeps the nonblank lines of a file exactly if the texts of the definitions give
back the nonblank lines that were taken. -/
theorem survive_arrange_iff (source : Text) (ranking : Ranking) (definitions : List Definition) :
    SurviveIn (Text.lines source) (Text.lines (arrange source ranking definitions)) ↔
      SurviveIn (takenLines source definitions)
        (definitions.flatMap (Text.lines ·.text)) := by
  apply forall_congr'
  intro line
  apply forall_congr'
  intro nonblank
  have before := (lines_perm source definitions).count_eq line
  have after := (nonblankLines_arrange_perm source ranking definitions).count_eq line
  have gapLines : (gapSlices source definitions).flatMap Text.nonblank =
      Text.nonblank (gapSlices source definitions).flatten := by
    rw [← List.flatMap_id, Text.nonblank_flatMap]
    rfl
  have texts : definitions.flatMap (Text.nonblankLines ·.text) =
      Text.nonblank (definitions.flatMap (Text.lines ·.text)) :=
    (Text.nonblank_flatMap definitions _).symm
  rw [gapLines, texts, ← Text.nonblank_append, Text.nonblankLines, count_nonblank _ nonblank,
    count_nonblank _ nonblank, List.count_append] at after
  rw [List.count_append] at before
  rw [before, after]
  exact Nat.add_le_add_iff_left

/-- What arrangement permutes survives it. -/
theorem survive_of_perm {before after : Text}
    (permuted : (Text.nonblankLines after).Perm (Text.nonblankLines before)) :
    SurviveIn (Text.lines before) (Text.lines after) := by
  intro line nonblank
  have counts := permuted.count_eq line
  rw [Text.nonblankLines, Text.nonblankLines, count_nonblank _ nonblank,
    count_nonblank _ nonblank] at counts
  exact Nat.le_of_eq counts.symm

/-- A file without definitions is arranged as it stands. -/
theorem arrange_nil (source : Text) (ranking : Ranking) : arrange source ranking [] = source := by
  have some : 0 < (Text.lines source).length :=
    List.length_pos_of_ne_nil (Text.lines_ne_nil source)
  have whole : gapSlices source [] = [Text.lines source] := by
    have gap : gaps (Text.lines source) [] = [⟨0, (Text.lines source).length⟩] := if_pos some
    rw [gapSlices, gap, List.map_singleton, Span.slice, List.drop_zero, Nat.sub_zero,
      List.take_length]
  rw [arrange, arrangedParts_eq, whole]
  have alone : sortByRank ranking [] = [] := rfl
  simp [alone, Text.unlines_lines]

end HeaderOrder
