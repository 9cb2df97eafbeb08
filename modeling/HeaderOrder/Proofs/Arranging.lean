import HeaderOrder.Proofs.Locating

/-!
# What an arranged file consists of

An arranged file is made of gaps and definitions.  Its nonblank lines are those of its parts in
order, for any definitions whatever.  If the definitions are those of a locatable layout, the gaps
that they leave are the gaps of the layout.
-/

namespace HeaderOrder

theorem flatMap_filter_of_nil {α β : Type} {items : List α} {keep : α → Bool} {view : α → List β}
    (dropped : ∀ item ∈ items, keep item = false → view item = []) :
    (items.filter keep).flatMap view = items.flatMap view := by
  induction items with
  | nil => rfl
  | cons item rest ih =>
      have later := ih fun other member => dropped other (List.mem_cons_of_mem _ member)
      cases kept : keep item with
      | true => rw [List.filter_cons_of_pos kept, List.flatMap_cons, List.flatMap_cons, later]
      | false =>
          have empty := dropped item (List.mem_cons_self ..) kept
          rw [List.filter_cons_of_neg (by simp [kept]), List.flatMap_cons, empty, later,
            List.nil_append]

/-- Sorting items that are in order already changes nothing. -/
theorem stableSort_eq_self {α : Type} {le : α → α → Bool} {items : List α}
    (sorted : items.Pairwise fun left right => le left right = true) :
    stableSort le items = items := by
  induction items with
  | nil => rfl
  | cons item rest ih =>
      rw [List.pairwise_cons] at sorted
      rw [stableSort_cons, ih sorted.2, insertSorted_of_le le item rest sorted.1]

theorem keyLe_trans {α : Type} (key : α → Nat) (first second third : α)
    (left : decide (key first ≤ key second) = true)
    (right : decide (key second ≤ key third) = true) : decide (key first ≤ key third) = true :=
  decide_eq_true (Nat.le_trans (of_decide_eq_true left) (of_decide_eq_true right))

theorem keyLe_total {α : Type} (key : α → Nat) (first second : α) :
    (decide (key first ≤ key second) || decide (key second ≤ key first)) = true := by
  rw [Bool.or_eq_true]
  exact (Nat.le_total _ _).imp decide_eq_true decide_eq_true

/-! ## The nonblank lines of an arranged file -/

/-- The lines of the gaps that located definitions leave in a file. -/
def gapSlices (source : Text) (definitions : List Definition) : List (List Text) :=
  (gaps (Text.lines source) definitions).map (·.slice (Text.lines source))

theorem plain_of_mem_gapSlices {source : Text} {definitions : List Definition}
    {slice : List Text} (member : slice ∈ gapSlices source definitions) :
    ∀ line ∈ slice, '\n' ∉ line := by
  obtain ⟨gap, _, rfl⟩ := List.mem_map.1 member
  intro line inSlice
  exact Text.newline_notMem_of_mem_lines (mem_of_mem_slice inSlice)

theorem arrangedParts_eq (source : Text) (ranking : Ranking) (definitions : List Definition) :
    arrangedParts source ranking definitions =
      ((gapSlices source definitions).take 1).map Text.unlines ++
        (sortByRank ranking definitions).map (·.text) ++
          (((gapSlices source definitions).drop 1).map Text.unlines).filter
            (!Text.isBlankText ·) := by
  simp only [arrangedParts, gapSlices, List.map_take, List.map_drop, List.map_map,
    Function.comp_def]

theorem flatMap_nonblankLines_unlines {slices : List (List Text)}
    (plain : ∀ slice ∈ slices, ∀ line ∈ slice, '\n' ∉ line) :
    (slices.map Text.unlines).flatMap Text.nonblankLines = slices.flatMap Text.nonblank := by
  induction slices with
  | nil => rfl
  | cons slice rest ih =>
      rw [List.map_cons, List.flatMap_cons, List.flatMap_cons,
        Text.nonblankLines_unlines (plain slice (List.mem_cons_self ..)),
        ih fun other member => plain other (List.mem_cons_of_mem _ member)]

/-- The nonblank lines of an arranged file: those of the first gap, of the sorted definitions, and
of the other gaps. -/
theorem nonblankLines_arrange (source : Text) (ranking : Ranking)
    (definitions : List Definition) :
    Text.nonblankLines (arrange source ranking definitions) =
      ((gapSlices source definitions).take 1).flatMap Text.nonblank ++
        (sortByRank ranking definitions).flatMap (Text.nonblankLines ·.text) ++
          ((gapSlices source definitions).drop 1).flatMap Text.nonblank := by
  have joined : Text.nonblankLines (arrange source ranking definitions) =
      (arrangedParts source ranking definitions).flatMap Text.nonblankLines := by
    rw [arrange]
    cases parts : arrangedParts source ranking definitions with
    | nil => rfl
    | cons first rest =>
        rw [Text.nonblankLines, Text.lines_intercalate_blank (List.cons_ne_nil _ _),
          Text.nonblank_intercalate, List.flatMap_map]
        rfl
  have plainTake : ∀ slice ∈ (gapSlices source definitions).take 1, ∀ line ∈ slice, '\n' ∉ line :=
    fun _ member => plain_of_mem_gapSlices (List.mem_of_mem_take member)
  have plainDrop : ∀ slice ∈ (gapSlices source definitions).drop 1, ∀ line ∈ slice, '\n' ∉ line :=
    fun _ member => plain_of_mem_gapSlices (List.mem_of_mem_drop member)
  -- What is dropped is blank as a whole, so each of its lines is.
  have kept : ((((gapSlices source definitions).drop 1).map Text.unlines).filter
      (!Text.isBlankText ·)).flatMap Text.nonblankLines =
        (((gapSlices source definitions).drop 1).map Text.unlines).flatMap Text.nonblankLines := by
    apply flatMap_filter_of_nil
    intro text member blank
    obtain ⟨slice, inDrop, rfl⟩ := List.mem_map.1 member
    rw [Text.nonblankLines_unlines (plainDrop slice inDrop)]
    exact (Text.isBlankText_unlines slice).1 (by simpa using blank)
  rw [joined, arrangedParts_eq, List.flatMap_append, List.flatMap_append, kept,
    flatMap_nonblankLines_unlines plainTake, flatMap_nonblankLines_unlines plainDrop,
    List.flatMap_map]

/-- Up to order, an arranged file has the nonblank lines of the gaps and of the definitions. -/
theorem nonblankLines_arrange_perm (source : Text) (ranking : Ranking)
    (definitions : List Definition) :
    (Text.nonblankLines (arrange source ranking definitions)).Perm
      ((gapSlices source definitions).flatMap Text.nonblank ++
        definitions.flatMap (Text.nonblankLines ·.text)) := by
  have sorted : ((sortByRank ranking definitions).flatMap (Text.nonblankLines ·.text)).Perm
      (definitions.flatMap (Text.nonblankLines ·.text)) :=
    (sortByRank_perm ranking definitions).flatMap_right _
  have gaps : (gapSlices source definitions).flatMap Text.nonblank =
      ((gapSlices source definitions).take 1).flatMap Text.nonblank ++
        ((gapSlices source definitions).drop 1).flatMap Text.nonblank := by
    rw [← List.flatMap_append, List.take_append_drop]
  rw [nonblankLines_arrange, gaps, List.append_assoc, List.append_assoc]
  apply List.Perm.append_left
  exact (sorted.append_right _).trans List.perm_append_comm

/-! ## The gaps of a layout -/

/-- What of a definition does not depend on where it stands: its name, signature and text. -/
def Definition.content (definition : Definition) : Text × Text × Text :=
  (definition.name, definition.signature, definition.text)

namespace Layout

variable {declarations : Declarations}

theorem content_definitionsFrom (index : Nat)
    (stretches : List (Gap declarations × Site declarations)) :
    (definitionsFrom index stretches).map Definition.content =
      stretches.map fun stretch => (stretch.2.definition 0).content := by
  induction stretches generalizing index with
  | nil => rfl
  | cons stretch rest ih =>
      rw [definitionsFrom, List.map_cons, List.map_cons, ih]
      rfl

theorem content_definitions (layout : Layout declarations) :
    layout.definitions.map Definition.content =
      layout.sites.map fun site => (site.definition 0).content := by
  rw [definitions, content_definitionsFrom, sites, List.map_map]
  rfl

theorem pairwise_range_definitionsFrom (index : Nat)
    (stretches : List (Gap declarations × Site declarations)) :
    ((definitionsFrom index stretches).map Definition.range).Pairwise
      fun left right => left.start ≤ right.start := by
  induction stretches generalizing index with
  | nil => exact List.Pairwise.nil
  | cons stretch rest ih =>
      rw [definitionsFrom, List.map_cons, List.pairwise_cons]
      refine ⟨?_, ih _⟩
      intro range member
      obtain ⟨later, listed, rfl⟩ := List.mem_map.1 member
      have bound := le_line_of_mem_definitionsFrom listed
      simp only [Definition.range, Site.definition]
      omega

/-- In a locatable layout the located ranges are those of the definitions, in their order. -/
theorem locatedRanges_definitions {layout : Layout declarations} (locatable : layout.Locatable) :
    locatedRanges layout.lines layout.definitions = layout.definitions.map Definition.range := by
  rw [locatedRanges, locatable.locateAll_definitions]
  apply stableSort_eq_self
  have sorted := pairwise_range_definitionsFrom 0 layout.stretches
  exact sorted.imp fun le => decide_eq_true le

/-- The lines of the gaps of a layout, its margin included, without the empty ones. -/
def gapLines (layout : Layout declarations) : List (List Text) :=
  (layout.stretches.map (·.1.lines) ++ [layout.margin.lines]).filter (!·.isEmpty)

theorem slice_gapsFrom (stretches : List (Gap declarations × Site declarations))
    (passed margin : List Text) :
    (gapsFrom (passed ++ (stretches.flatMap stretchLines ++ margin)).length passed.length
        ((definitionsFrom passed.length stretches).map Definition.range)).map
          (·.slice (passed ++ (stretches.flatMap stretchLines ++ margin))) =
      (stretches.map (·.1.lines) ++ [margin]).filter (!·.isEmpty) := by
  induction stretches generalizing passed with
  | nil =>
      cases margin with
      | nil => simp [gapsFrom, definitionsFrom]
      | cons line others =>
          have last := slice_middle passed (line :: others) []
          rw [List.append_nil] at last
          simp only [definitionsFrom, List.map_nil, gapsFrom, List.flatMap_nil, List.nil_append,
            List.length_append]
          rw [if_pos (by simp), List.map_singleton, last]
          rfl
  | cons stretch rest ih =>
      obtain ⟨gap, site⟩ := stretch
      have later := ih (passed ++ stretchLines (gap, site))
      have next : (passed ++ stretchLines (gap, site)).length =
          passed.length + gap.lines.length + site.lines.length := by
        simp [stretchLines, Nat.add_assoc]
      have shape : passed ++ (((gap, site) :: rest).flatMap stretchLines ++ margin) =
          (passed ++ stretchLines (gap, site)) ++ (rest.flatMap stretchLines ++ margin) := by
        simp
      have inside : (Span.mk passed.length (passed.length + gap.lines.length)).slice
          ((passed ++ stretchLines (gap, site)) ++ (rest.flatMap stretchLines ++ margin)) =
            gap.lines := by
        have middle := slice_middle passed gap.lines
          (site.lines ++ (rest.flatMap stretchLines ++ margin))
        simpa [stretchLines] using middle
      rw [next] at later
      rw [definitionsFrom, List.map_cons, Site.range_definition, gapsFrom, List.map_append, shape,
        later, List.map_cons, List.cons_append]
      cases lines : gap.lines with
      | nil => simp
      | cons line others =>
          rw [lines] at inside
          rw [if_pos (by simp), List.map_singleton, inside]
          rfl

/-- In a locatable layout the definitions leave the gaps of the layout. -/
theorem gapSlices_definitions {layout : Layout declarations} (locatable : layout.Locatable)
    {source : Text} (cut : layout.lines = Text.lines source) :
    gapSlices source layout.definitions = layout.gapLines := by
  rw [gapSlices, gaps, ← cut, locatedRanges_definitions locatable]
  exact slice_gapsFrom layout.stretches [] layout.margin.lines

end Layout

end HeaderOrder
