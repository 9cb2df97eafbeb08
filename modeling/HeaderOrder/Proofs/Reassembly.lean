import HeaderOrder.Proofs.Accounting
import Mathlib.Data.List.Perm.Basic

/-!
# What is put together again

An arrangement takes any list of definitions, whether they come from the file or not.  It locates
those that it can, and located ranges may overlap, since the end of one is looked for over lines
that another has taken.  The position behind a range may then go back.

Still nothing is skipped.  No two ranges start at one line.  A line in no range lies behind the
ends of all ranges that start before it, so the gap in front of the next range, or behind the last
one, holds it.  Gaps never overlap, so no other gap does.
-/

namespace HeaderOrder

/-! ## Sorting by rank -/

/-- Definitions in the order of their ranks, those without a rank last, and those of one rank in the
order in which they were given. -/
structure SortedStably (ranking : Ranking) (definitions sorted : List Definition) : Prop where
  perm : sorted.Perm definitions
  ordered : sorted.Pairwise fun left right => ranking.mayPrecede left right = true
  stable : ∀ rank, sorted.filter (fun definition => ranking.get? definition.signature = rank) =
    definitions.filter fun definition => ranking.get? definition.signature = rank

theorem rankLe_refl (rank : Option Int) : rankLe rank rank = true := by
  have either := rankLe_total rank rank
  rwa [Bool.or_self] at either

theorem Ranking.mayPrecede_trans (ranking : Ranking) (first second third : Definition)
    (left : ranking.mayPrecede first second = true)
    (right : ranking.mayPrecede second third = true) : ranking.mayPrecede first third = true :=
  rankLe_trans _ _ _ left right

theorem Ranking.mayPrecede_total (ranking : Ranking) (left right : Definition) :
    (ranking.mayPrecede left right || ranking.mayPrecede right left) = true :=
  rankLe_total _ _

theorem sortedStably_sortByRank (ranking : Ranking) (definitions : List Definition) :
    SortedStably ranking definitions (sortByRank ranking definitions) where
  perm := sortByRank_perm ranking definitions
  ordered := by
    rw [sortByRank_eq_mergeSort]
    exact List.pairwise_mergeSort ranking.mayPrecede_trans ranking.mayPrecede_total definitions
  stable rank := by
    let hasRank : Definition → Bool := fun definition => ranking.get? definition.signature = rank
    have rankOf : ∀ definition ∈ definitions.filter hasRank,
        ranking.get? definition.signature = rank :=
      fun definition member => of_decide_eq_true (List.mem_filter.1 member).2
    -- Definitions of one rank are in order as they stand, so the sort keeps them in that order.
    have inOrder : (definitions.filter hasRank).Pairwise fun left right =>
        ranking.mayPrecede left right = true := by
      refine List.pairwise_of_forall_mem_list fun left leftIn right rightIn => ?_
      rw [Ranking.mayPrecede, rankOf left leftIn, rankOf right rightIn]
      exact rankLe_refl rank
    have kept : (definitions.filter hasRank).Sublist (sortByRank ranking definitions) := by
      rw [sortByRank_eq_mergeSort]
      exact List.sublist_mergeSort ranking.mayPrecede_trans ranking.mayPrecede_total inOrder
        List.filter_sublist
    have part := kept.filter hasRank
    rw [List.filter_eq_self.2 fun definition member => (List.mem_filter.1 member).2] at part
    have length := ((sortByRank_perm ranking definitions).filter hasRank).length_eq
    exact (part.eq_of_length length.symm).symm

/-! ## Gaps -/

/-- Two spans of a list that stand apart are one if they hold the same item. -/
theorem Apart.eq_of_mem {spans : List Span} (apart : Apart spans) {left right : Span}
    (leftIn : left ∈ spans) (rightIn : right ∈ spans) {index : Nat}
    (inLeft : left.start ≤ index ∧ index < left.stop)
    (inRight : right.start ≤ index ∧ index < right.stop) : left = right := by
  induction spans with
  | nil => cases leftIn
  | cons span rest ih =>
      obtain ⟨before, restApart⟩ := List.pairwise_cons.1 apart
      rcases List.mem_cons.1 leftIn with rfl | leftLater
      · rcases List.mem_cons.1 rightIn with rfl | rightLater
        · rfl
        · have bound := before right rightLater
          omega
      · rcases List.mem_cons.1 rightIn with rfl | rightLater
        · have bound := before left leftLater
          omega
        · exact ih restApart leftLater rightLater

/-- A gap is not empty and lies in the file. -/
theorem bounds_of_mem_gapsFrom {total position : Nat} {ranges : List Span}
    (within : ∀ range ∈ ranges, range.start ≤ total) :
    ∀ gap ∈ gapsFrom total position ranges, gap.start < gap.stop ∧ gap.stop ≤ total := by
  induction ranges generalizing position with
  | nil =>
      rw [gapsFrom]
      split
      · next before => exact List.forall_mem_singleton.2 ⟨before, Nat.le_refl _⟩
      · exact List.forall_mem_nil _
  | cons range rest ih =>
      obtain ⟨here, later⟩ := List.forall_mem_cons.1 within
      rw [gapsFrom, List.forall_mem_append]
      refine ⟨?_, ih later⟩
      split
      · next before => exact List.forall_mem_singleton.2 ⟨before, here⟩
      · exact List.forall_mem_nil _

/-- A line that no range covers lies in a gap, however the ranges lie. -/
theorem exists_gap_of_not_covered {total position index : Nat} {ranges : List Span}
    (reached : position ≤ index) (within : index < total) (free : covered ranges index = false) :
    ∃ gap ∈ gapsFrom total position ranges, gap.start ≤ index ∧ index < gap.stop := by
  induction ranges generalizing position with
  | nil =>
      refine ⟨⟨position, total⟩, ?_, reached, within⟩
      rw [gapsFrom, if_pos (Nat.lt_of_le_of_lt reached within)]
      exact List.mem_singleton_self _
  | cons range rest ih =>
      rw [covered, List.any_cons, Bool.or_eq_false_iff, Bool.and_eq_false_iff,
        decide_eq_false_iff_not, decide_eq_false_iff_not] at free
      rw [gapsFrom]
      by_cases before : index < range.start
      · refine ⟨⟨position, range.start⟩, List.mem_append_left _ ?_, reached, before⟩
        rw [if_pos (Nat.lt_of_le_of_lt reached before)]
        exact List.mem_singleton_self _
      · have passed : range.stop ≤ index :=
          Nat.le_of_not_lt (free.1.resolve_left fun outside => outside (Nat.le_of_not_lt before))
        obtain ⟨gap, member, holds⟩ := ih passed free.2
        exact ⟨gap, List.mem_append_right _ member, holds⟩

theorem covered_locatedRanges (lines : List Text) (definitions : List Definition) (index : Nat) :
    covered (locatedRanges lines definitions) index =
      covered (locateAll lines [] definitions) index :=
  (locatedRanges_perm lines definitions).any_eq

theorem mem_slice_of_getElem? {span : Span} {lines : List Text} {index : Nat} {line : Text}
    (here : lines[index]? = some line) (start : span.start ≤ index) (stop : index < span.stop) :
    line ∈ span.slice lines := by
  have place : (span.slice lines)[index - span.start]? = some line := by
    rw [Span.slice, List.getElem?_take, if_pos (by omega), List.getElem?_drop,
      Nat.add_sub_cancel' start]
    exact here
  exact List.mem_of_getElem? place

/-- A span begins with the line at its start. -/
theorem slice_eq_cons {lines : List Text} {start stop : Nat} {first : Text}
    (here : lines[start]? = some first) (proper : start < stop) :
    (Span.mk start stop).slice lines = first :: (Span.mk (start + 1) stop).slice lines := by
  obtain ⟨within, rfl⟩ := List.getElem?_eq_some_iff.1 here
  obtain ⟨count, rfl⟩ := Nat.exists_eq_add_of_le (Nat.succ_le_of_lt proper)
  rw [Span.slice, List.drop_eq_getElem_cons within, Span.slice, Nat.add_sub_cancel_left,
    Nat.succ_eq_add_one, Nat.add_assoc, Nat.add_sub_cancel_left, Nat.add_comm 1,
    List.take_succ_cons]

/-- Each line that is in no located range is in one gap. -/
theorem existsUnique_gap {lines : List Text} {definitions : List Definition} {index : Nat}
    (within : index < lines.length)
    (free : covered (locateAll lines [] definitions) index = false) :
    ∃! gap, gap ∈ gaps lines definitions ∧ gap.start ≤ index ∧ index < gap.stop := by
  rw [← covered_locatedRanges] at free
  obtain ⟨gap, member, holds⟩ := exists_gap_of_not_covered (Nat.zero_le index) within free
  refine ⟨gap, ⟨member, holds⟩, ?_⟩
  rintro other ⟨otherMember, otherHolds⟩
  exact (apart_gaps lines definitions).eq_of_mem otherMember member otherHolds holds

theorem bounds_of_mem_gaps (lines : List Text) (definitions : List Definition) :
    ∀ gap ∈ gaps lines definitions, gap.start < gap.stop ∧ gap.stop ≤ lines.length := by
  apply bounds_of_mem_gapsFrom
  intro range member
  rw [(locatedRanges_perm lines definitions).mem_iff] at member
  obtain ⟨-, _, _, _, here, _⟩ := (located_locateAll lines definitions).found range member
  exact Nat.le_of_lt (List.getElem?_eq_some_iff.1 here).1

/-! ## The parts of an arranged file -/

def spanText (source : Text) (span : Span) : Text :=
  Text.unlines (span.slice (Text.lines source))

/-- The gaps that stand behind the definitions in an arranged file: all but the first, without those
that are blank. -/
def trailingGaps (source : Text) (definitions : List Definition) : List Span :=
  ((gaps (Text.lines source) definitions).drop 1).filter fun gap =>
    !Text.isBlankText (spanText source gap)

theorem arrangedParts_eq_spans (source : Text) (ranking : Ranking) (definitions : List Definition) :
    arrangedParts source ranking definitions =
      ((gaps (Text.lines source) definitions).take 1).map (spanText source) ++
        (sortByRank ranking definitions).map (·.text) ++
          (trailingGaps source definitions).map (spanText source) := by
  rw [arrangedParts, trailingGaps, List.map_take]
  simp only [← List.map_drop, List.filter_map]
  rfl

section Emitted

variable {source : Text} {definitions : List Definition}

theorem emitted_sublist (source : Text) (definitions : List Definition) :
    ((gaps (Text.lines source) definitions).take 1 ++ trailingGaps source definitions).Sublist
      (gaps (Text.lines source) definitions) := by
  have parts : ((gaps (Text.lines source) definitions).take 1 ++
      trailingGaps source definitions).Sublist ((gaps (Text.lines source) definitions).take 1 ++
        (gaps (Text.lines source) definitions).drop 1) :=
    List.filter_sublist.append_left _
  rwa [List.take_append_drop] at parts

/-- A gap with a nonblank line is not left out. -/
theorem mem_emitted {gap : Span} (member : gap ∈ gaps (Text.lines source) definitions) {line : Text}
    (inGap : line ∈ gap.slice (Text.lines source)) (nonblank : Text.trim line ≠ []) :
    gap ∈ (gaps (Text.lines source) definitions).take 1 ++ trailingGaps source definitions := by
  rw [← List.take_append_drop 1 (gaps (Text.lines source) definitions), List.mem_append] at member
  rw [List.mem_append]
  refine member.imp_right fun later => List.mem_filter.2 ⟨later, ?_⟩
  rw [Bool.not_eq_true', Bool.eq_false_iff, ne_eq, spanText, Text.isBlankText_unlines]
  intro blank
  have dropped := List.filter_eq_nil_iff.1 blank line inGap
  rw [Bool.not_eq_true, Bool.not_eq_false', ← Text.trim_eq_nil_iff] at dropped
  exact nonblank dropped

end Emitted

/-- For any file, ranking and list of definitions, the arranged file is made of some gaps, the
texts of the definitions sorted stably by rank, and some gaps, set apart by empty lines.  The
located ranges start at different lines, the gaps are nonempty stretches of the file that stand
apart in their order, and each nonblank line of the file that is in no located range is in exactly
one of them. -/
theorem arrange_accounts_for_lines (source : Text) (ranking : Ranking)
    (definitions : List Definition) :
    ∃ (leading : List Span) (sorted : List Definition) (trailing : List Span),
      arrange source ranking definitions = List.intercalate ['\n', '\n']
        (leading.map (spanText source) ++ sorted.map Definition.text ++
          trailing.map (spanText source)) ∧
      SortedStably ranking definitions sorted ∧
      Located (Text.lines source) definitions (locateAll (Text.lines source) [] definitions) ∧
      Apart (leading ++ trailing) ∧
      (∀ gap ∈ leading ++ trailing,
        gap.start < gap.stop ∧ gap.stop ≤ (Text.lines source).length) ∧
      ∀ index line, (Text.lines source)[index]? = some line → Text.trim line ≠ [] →
        covered (locateAll (Text.lines source) [] definitions) index = false →
          ∃! gap, gap ∈ leading ++ trailing ∧ gap.start ≤ index ∧ index < gap.stop := by
  have emitted := emitted_sublist source definitions
  refine ⟨(gaps (Text.lines source) definitions).take 1, sortByRank ranking definitions,
    trailingGaps source definitions, ?_, sortedStably_sortByRank ranking definitions,
    located_locateAll (Text.lines source) definitions,
    (apart_gaps (Text.lines source) definitions).sublist emitted,
    fun gap member => bounds_of_mem_gaps (Text.lines source) definitions gap
      (emitted.subset member),
    ?_⟩
  · rw [arrange, arrangedParts_eq_spans]
  · intro index line here nonblank free
    have within := (List.getElem?_eq_some_iff.1 here).1
    obtain ⟨gap, ⟨member, start, stop⟩, unique⟩ := existsUnique_gap within free
    refine ⟨gap, ⟨?_, start, stop⟩, ?_⟩
    · exact mem_emitted member (mem_slice_of_getElem? here start stop) nonblank
    · rintro other ⟨otherMember, holds⟩
      exact unique other ⟨emitted.subset otherMember, holds⟩

/-- A file with one function inside another. -/
def nestedSource : Text :=
  "int f() \x7b\nint g() \x7b\n\x7d\nint k;\n\x7d\nint m;".toList

def nestedDefinitions : List Definition :=
  [⟨"g".toList, "g()".toList, "int g() \x7b\n\x7d".toList, 1⟩,
   ⟨"f".toList, "f()".toList, "int f() \x7b\nint g() \x7b\n\x7d\nint k;\n\x7d".toList, 0⟩]

/-- Two located ranges overlap, and all lines behind the inner one are a gap. -/
theorem arrange_accounts_for_lines_nested :
    locateAll (Text.lines nestedSource) [] nestedDefinitions = [⟨1, 3⟩, ⟨0, 5⟩] ∧
      arrange nestedSource (Catalog.ofList [("f()".toList, 0)]) nestedDefinitions =
        ("int k;\n\x7d\nint m;\n\nint f() \x7b\nint g() \x7b\n\x7d\nint k;\n\x7d\n\n".toList ++
          "int g() \x7b\n\x7d".toList) ∧
      ∃ (leading : List Span) (sorted : List Definition) (trailing : List Span),
        arrange nestedSource (Catalog.ofList [("f()".toList, 0)]) nestedDefinitions =
          List.intercalate ['\n', '\n'] (leading.map (spanText nestedSource) ++
            sorted.map Definition.text ++ trailing.map (spanText nestedSource)) ∧
        ∃! gap, gap ∈ leading ++ trailing ∧ gap.start ≤ 5 ∧ 5 < gap.stop := by
  obtain ⟨leading, sorted, trailing, whole, _, _, _, _, once⟩ :=
    arrange_accounts_for_lines nestedSource (Catalog.ofList [("f()".toList, 0)]) nestedDefinitions
  refine ⟨by decide +kernel, by decide +kernel, leading, sorted, trailing, whole, ?_⟩
  exact once 5 "int m;".toList (by decide +kernel) (by decide +kernel) (by decide +kernel)

end HeaderOrder
