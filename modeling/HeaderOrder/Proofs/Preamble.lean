import HeaderOrder.Proofs.GreedyBlocks
import HeaderOrder.Proofs.Reassembly

/-!
# What stands above the definitions

An arranged file begins with the first gap, and then come the definitions.  If the file begins
with some text, then the first gap is this text, up to the first located definition.  If the file
begins with a definition, then nothing stands in front of it, and the first gap is a stretch from
further down: it is moved above all definitions.

Which of the two is the case shows on the first line alone.  A definition is looked for from the
top, so the first line is taken as soon as the text of any definition begins with it.
-/

namespace HeaderOrder

/-- Whether the first of the lines can be taken for the first line of one of the definitions. -/
def BeginsWithOne (lines : List Text) (definitions : List Definition) : Prop :=
  ∃ line ∈ lines.head?, beginsDefinition line = true ∧
    ∃ definition ∈ definitions, line <+: definition.text

/-- The gap that stands above the definitions in an arranged file, if there is one. -/
def leadingGap (source : Text) (definitions : List Definition) : List Span :=
  (gaps (Text.lines source) definitions).take 1

/-! ## Where a definition is located at the latest -/

section Locating

variable {lines : List Text} {index : Nat} {line : Text}

theorem prefix_locateAll (lines : List Text) (ranges : List Span) (definitions : List Definition) :
    ranges <+: locateAll lines ranges definitions := by
  induction definitions generalizing ranges with
  | nil => exact List.prefix_rfl
  | cons definition rest ih =>
      rw [locateAll]
      split
      · exact (List.prefix_append ranges _).trans (ih _)
      · exact ih ranges

/-- A line that begins the text and that no range covers is the one, or an earlier line is. -/
theorem exists_headLine?_le (here : lines[index]? = some line)
    (begins : beginsDefinition line = true) {text : Text} (shared : line <+: text)
    {ranges : List Span} (free : covered ranges index = false) :
    ∃ start ≤ index, headLine? lines ranges text = some start := by
  let accepts : Text × Nat → Bool := fun entry =>
    entry.1.isPrefixOf text && !covered ranges entry.2 && (Head.ofLine? entry.1).isSome
  have accepted : accepts (line, index) = true := by
    simp [accepts, shared, free, begins]
  have member : (line, index) ∈ lines.zipIdx := List.mem_zipIdx_iff_getElem?.2 here
  cases found : lines.zipIdx.find? accepts with
  | none => exact absurd accepted (List.find?_eq_none.1 found _ member)
  | some entry =>
      refine ⟨entry.2, ?_, congrArg (Option.map Prod.snd) found⟩
      obtain ⟨-, place, inside, isEntry, earlier⟩ := List.find?_eq_some_iff_getElem.1 found
      have start : entry.2 = place := by
        rw [← isEntry, List.getElem_zipIdx, Nat.zero_add]
      rw [start]
      by_contra behind
      have refused := earlier index (Nat.lt_of_not_le behind)
      obtain ⟨within, same⟩ := List.getElem?_eq_some_iff.1 here
      rw [List.getElem_zipIdx, Nat.zero_add, same, accepted] at refused
      cases refused

/-- If the text of a definition begins with a line, then something is located there or before. -/
theorem exists_start_le (here : lines[index]? = some line) (begins : beginsDefinition line = true)
    {definition : Definition} (shared : line <+: definition.text) {definitions : List Definition}
    (listed : definition ∈ definitions) (ranges : List Span) :
    ∃ range ∈ locateAll lines ranges definitions, range.start ≤ index := by
  induction definitions generalizing ranges with
  | nil => cases listed
  | cons next rest ih =>
      rcases List.mem_cons.1 listed with rfl | later
      · cases taken : covered ranges index with
        | true =>
            obtain ⟨range, member, holds⟩ := List.any_eq_true.1 taken
            rw [Bool.and_eq_true, decide_eq_true_eq] at holds
            exact ⟨range, (prefix_locateAll lines ranges _).subset member, holds.1⟩
        | false =>
            obtain ⟨start, before, found⟩ := exists_headLine?_le here begins shared taken
            rw [locateAll, found]
            refine ⟨rangeFrom lines start, ?_, before⟩
            apply (prefix_locateAll lines _ rest).subset
            exact List.mem_append_right _ (List.mem_singleton_self _)
      · rw [locateAll]
        split
        · exact ih later _
        · exact ih later ranges

/-- Something is located at the first line exactly if it can be taken for the first line of a
definition. -/
theorem exists_start_eq_zero_iff (lines : List Text) (definitions : List Definition) :
    (∃ range ∈ locateAll lines [] definitions, range.start = 0) ↔
      BeginsWithOne lines definitions := by
  constructor
  · rintro ⟨range, member, atTop⟩
    obtain ⟨-, definition, listed, line, here, begins, shared⟩ :=
      (located_locateAll lines definitions).found range member
    rw [atTop, ← List.head?_eq_getElem?] at here
    exact ⟨line, here, begins, definition, listed, shared⟩
  · rintro ⟨line, here, begins, definition, listed, shared⟩
    rw [Option.mem_def, List.head?_eq_getElem?] at here
    obtain ⟨range, member, atTop⟩ := exists_start_le here begins shared listed []
    exact ⟨range, member, Nat.le_zero.1 atTop⟩

end Locating

/-! ## The first gap -/

section FirstGap

variable {lines : List Text} {definitions : List Definition}

/-- A located range that no other starts before. -/
structure FirstLocated (lines : List Text) (definitions : List Definition) (first : Span) :
    Prop where
  located : first ∈ locateAll lines [] definitions
  least : ∀ range ∈ locateAll lines [] definitions, first.start ≤ range.start

theorem exists_firstLocated (some : locateAll lines [] definitions ≠ []) :
    ∃ first rest, locatedRanges lines definitions = first :: rest ∧
      FirstLocated lines definitions first := by
  have perm := locatedRanges_perm lines definitions
  cases sorted : locatedRanges lines definitions with
  | nil =>
      rw [sorted] at perm
      exact absurd perm.symm.eq_nil some
  | cons first rest =>
      have ordered := pairwise_locatedRanges lines definitions
      rw [sorted] at perm ordered
      refine ⟨first, rest, rfl, perm.subset (List.mem_cons_self ..), fun range member => ?_⟩
      rcases List.mem_cons.1 (perm.symm.subset member) with rfl | later
      · exact Nat.le_refl _
      · exact (List.pairwise_cons.1 ordered).1 range later

theorem FirstLocated.start_eq_zero_iff {first : Span}
    (isFirst : FirstLocated lines definitions first) :
    first.start = 0 ↔ BeginsWithOne lines definitions := by
  rw [← exists_start_eq_zero_iff]
  constructor
  · exact fun atTop => ⟨first, isFirst.located, atTop⟩
  · rintro ⟨range, member, atTop⟩
    exact Nat.le_zero.1 (atTop ▸ isFirst.least range member)

theorem take_gaps_of_pos {first : Span} {rest : List Span}
    (sorted : locatedRanges lines definitions = first :: rest) (below : 0 < first.start) :
    (gaps lines definitions).take 1 = [⟨0, first.start⟩] := by
  rw [gaps, sorted, gapsFrom, if_pos below]
  rfl

/-- If something is located at the first line, then every gap stood below it. -/
theorem pos_of_mem_gaps {first : Span} {rest : List Span}
    (sorted : locatedRanges lines definitions = first :: rest) (atTop : first.start = 0) :
    ∀ gap ∈ gaps lines definitions, 0 < gap.start := by
  have proper : ∀ range ∈ first :: rest, 0 < range.stop := by
    intro range member
    rw [← sorted, (locatedRanges_perm lines definitions).mem_iff] at member
    exact Nat.zero_lt_of_lt ((located_locateAll lines definitions).lt_stop range member)
  obtain ⟨here, later⟩ := List.forall_mem_cons.1 proper
  rw [gaps, sorted, gapsFrom, if_neg (by omega), List.nil_append]
  exact le_start_of_mem_gapsFrom here later

end FirstGap

/-! ## Definitions of the file -/

/-- The text of a definition begins with the line at which it was found. -/
theorem Definition.exists_line_of_mem {header source : Text} {found : List Definition}
    (extracted : ofSource (Declarations.ofHeader header) source = .ok found)
    {definition : Definition} (member : definition ∈ found) :
    ∃ (index : Nat) (line : Text), (Text.lines source)[index]? = some line ∧
      beginsDefinition line = true ∧ line <+: definition.text := by
  obtain ⟨spans, cut, listed⟩ := ofSource_eq_filterMap header source
  obtain rfl := Except.ok.inj (extracted.symm.trans listed)
  obtain ⟨span, inCut, made⟩ := List.mem_filterMap.1 member
  obtain ⟨first, head, _, here, begins, _, rfl⟩ := of_ofSpan? made
  have bounds := cut.bounds span inCut
  have plain := Text.newline_notMem_of_mem_lines (List.mem_of_getElem? here)
  refine ⟨span.start, first, here, ?_, ?_⟩
  · rw [← Head.isSome_ofLine?, begins]
    rfl
  · have whole : span.slice (Text.lines source) = first :: _ := slice_eq_cons here (by omega)
    dsimp only
    rw [whole]
    exact (Text.isPrefix_unlines_cons first _ plain).2 List.prefix_rfl

/-- Of the definitions of a file, at least one is located. -/
theorem locateAll_ne_nil {header source : Text} {found definitions : List Definition}
    (extracted : Definition.ofSource (Declarations.ofHeader header) source = .ok found)
    (some : definitions ≠ []) (listed : ∀ definition ∈ definitions, definition ∈ found) :
    locateAll (Text.lines source) [] definitions ≠ [] := by
  obtain ⟨definition, others, rfl⟩ := List.exists_cons_of_ne_nil some
  have member := listed definition (List.mem_cons_self ..)
  obtain ⟨index, line, here, begins, shared⟩ := Definition.exists_line_of_mem extracted member
  obtain ⟨range, located, -⟩ := exists_start_le here begins shared (List.mem_cons_self ..) []
  exact List.ne_nil_of_mem located

/-- Some definitions of a file, at least one, are arranged.  Above them stands at most one gap,
and it is from above the first located definition exactly if the first line cannot be taken for
the first line of one of them, or if there are no gaps at all.  In the first case the gap is all
that stood above the first located definition; otherwise no line of the gap did. -/
theorem only_preamble_above_iff {header source : Text} {found definitions : List Definition}
    (extracted : Definition.ofSource (Declarations.ofHeader header) source = .ok found)
    (some : definitions ≠ []) (listed : ∀ definition ∈ definitions, definition ∈ found)
    (ranking : Ranking) :
    arrange source ranking definitions = List.intercalate ['\n', '\n']
      ((leadingGap source definitions).map (spanText source) ++
        (sortByRank ranking definitions).map Definition.text ++
          (trailingGaps source definitions).map (spanText source)) ∧
    ∃ first, FirstLocated (Text.lines source) definitions first ∧
      ((∀ gap ∈ leadingGap source definitions, gap.stop ≤ first.start) ↔
        ¬ BeginsWithOne (Text.lines source) definitions ∨
          gaps (Text.lines source) definitions = []) ∧
      (¬ BeginsWithOne (Text.lines source) definitions →
        leadingGap source definitions = [⟨0, first.start⟩]) ∧
      (BeginsWithOne (Text.lines source) definitions →
        ∀ gap ∈ leadingGap source definitions, first.start < gap.start) := by
  refine ⟨by rw [arrange, arrangedParts_eq_spans]; rfl, ?_⟩
  obtain ⟨first, rest, sorted, isFirst⟩ := exists_firstLocated
    (locateAll_ne_nil extracted some listed)
  have atTop := isFirst.start_eq_zero_iff
  have kept : ¬ BeginsWithOne (Text.lines source) definitions →
      leadingGap source definitions = [⟨0, first.start⟩] := by
    intro text
    exact take_gaps_of_pos sorted (Nat.pos_of_ne_zero (mt atTop.1 text))
  have moved : BeginsWithOne (Text.lines source) definitions →
      ∀ gap ∈ leadingGap source definitions, first.start < gap.start := by
    intro begins gap member
    rw [atTop.2 begins]
    exact pos_of_mem_gaps sorted (atTop.2 begins) gap (List.mem_of_mem_take member)
  refine ⟨first, isFirst, ⟨fun above => ?_, ?_⟩, kept, moved⟩
  · by_contra neither
    obtain ⟨begins, some⟩ := not_or.1 neither
    obtain ⟨gap, others, whole⟩ := List.exists_cons_of_ne_nil some
    have leads : gap ∈ leadingGap source definitions := by
      rw [leadingGap, whole]
      exact List.mem_cons_self ..
    have below := moved (not_not.1 begins) gap leads
    have proper := bounds_of_mem_gaps _ _ gap (List.mem_of_mem_take leads)
    have before := above gap leads
    omega
  · rintro (text | none)
    · rw [kept text]
      exact List.forall_mem_singleton.2 (Nat.le_refl _)
    · rw [leadingGap, none]
      exact List.forall_mem_nil _

/-- A file that begins with a definition. -/
def bareSource : Text :=
  "int A::f() \x7b\n\x7d\nint k;".toList

/-- The last line of the file becomes its first. -/
theorem only_preamble_above_iff_bare :
    ∃ definition, Definition.ofSource (Declarations.ofHeader sampleHeader) bareSource =
        .ok [definition] ∧
      arrange bareSource Catalog.empty [definition] = "int k;\n\nint A::f() \x7b\n\x7d".toList ∧
      ∃ first, FirstLocated (Text.lines bareSource) [definition] first ∧
        ¬ ∀ gap ∈ leadingGap bareSource [definition], gap.stop ≤ first.start := by
  let definition : Definition :=
    ⟨"A::f".toList, "A::f()".toList, "int A::f() \x7b\n\x7d".toList, 0⟩
  have extracted : Definition.ofSource (Declarations.ofHeader sampleHeader) bareSource =
      .ok [definition] := by
    decide +kernel
  obtain ⟨-, first, isFirst, iff, -, -⟩ := only_preamble_above_iff extracted
    (List.cons_ne_nil _ _) (fun _ member => member) Catalog.empty
  refine ⟨definition, extracted, by decide +kernel, first, isFirst, fun above => ?_⟩
  rcases iff.1 above with text | none
  · exact text ⟨"int A::f() \x7b".toList, by decide +kernel, by decide +kernel, definition,
      List.mem_singleton_self _, by decide +kernel⟩
  · exact absurd none (by decide +kernel)

end HeaderOrder
