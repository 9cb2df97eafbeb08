import HeaderOrder.Proofs.Arranging

/-!
# An arranged file is read in the order of its ranks

The gaps of a layout are such that they can be moved: the scanner enters and leaves each of them
outside of a block, and finds no declared function in it.  Arranging a file therefore gives a file
with a layout, whose sites are the old ones in the order of their ranks, and reading that file finds
the definitions in this order.
-/

namespace HeaderOrder

namespace Gap

variable {declarations : Declarations}

/-- Gaps one after the other, with an empty line in front of each. -/
def join (gaps : List (Gap declarations)) : Gap declarations :=
  gaps.foldr (fun gap rest => blank ++ gap ++ rest) none

/-- The first of the gaps and an empty line, or nothing if there is no gap. -/
def opening : List (Gap declarations) → Gap declarations
  | [] => none
  | gap :: _ => gap ++ blank

@[simp] theorem lines_join (gaps : List (Gap declarations)) :
    (join gaps).lines = gaps.flatMap ([] :: ·.lines) := by
  induction gaps with
  | nil => rfl
  | cons gap rest ih =>
      have split : (join (gap :: rest)).lines = [[]] ++ gap.lines ++ (join rest).lines := rfl
      rw [split, ih]
      rfl

end Gap

namespace Layout

variable {declarations : Declarations}

/-- The sites of a layout by rank; sites of equal rank keep their order. -/
def sortedSites (ranking : Ranking) (layout : Layout declarations) : List (Site declarations) :=
  layout.sites.mergeSort fun left right =>
    rankLe (ranking.get? left.signature) (ranking.get? right.signature)

/-- The gaps of a layout that does not end in a block, without the empty ones. -/
def gapList (layout : Layout declarations)
    (closed : (Scanner.outside.run 0 layout.lines).1 = .outside) : List (Gap declarations) :=
  (layout.stretches.map (·.1) ++ [layout.lastGap closed]).filter (!·.lines.isEmpty)

/-- The gaps after the first that are not blank. -/
def keptGaps (layout : Layout declarations)
    (closed : (Scanner.outside.run 0 layout.lines).1 = .outside) : List (Gap declarations) :=
  ((layout.gapList closed).drop 1).filter fun gap => !Text.isBlankText (Text.unlines gap.lines)

/-- The layout of the arranged file. -/
def arranged (ranking : Ranking) (layout : Layout declarations)
    (closed : (Scanner.outside.run 0 layout.lines).1 = .outside) : Layout declarations :=
  match layout.sortedSites ranking with
  | [] => layout
  | first :: others =>
      ⟨(Gap.opening (layout.gapList closed), first) :: others.map (Gap.blank, ·),
        (Gap.join (layout.keptGaps closed)).toMargin⟩

theorem sortedSites_perm (ranking : Ranking) (layout : Layout declarations) :
    (layout.sortedSites ranking).Perm layout.sites :=
  List.mergeSort_perm ..

theorem pairwise_sortedSites (ranking : Ranking) (layout : Layout declarations) :
    (layout.sortedSites ranking).Pairwise fun left right =>
      rankLe (ranking.get? left.signature) (ranking.get? right.signature) = true := by
  apply List.pairwise_mergeSort
  · intro first second third left right
    exact rankLe_trans _ _ _ left right
  · intro left right
    exact rankLe_total _ _

/-- Sorting the definitions of a layout is sorting its sites. -/
theorem content_sortByRank (ranking : Ranking) (layout : Layout declarations) :
    (sortByRank ranking layout.definitions).map Definition.content =
      (layout.sortedSites ranking).map fun site => (site.definition 0).content := by
  have definitions := List.map_mergeSort (f := Definition.content) (l := layout.definitions)
    (r := ranking.mayPrecede)
    (s := fun left right => rankLe (ranking.get? left.2.1) (ranking.get? right.2.1))
    fun _ _ _ _ => rfl
  have sites := List.map_mergeSort
    (f := fun site : Site declarations => (site.definition 0).content)
    (l := layout.sites)
    (r := fun left right => rankLe (ranking.get? left.signature) (ranking.get? right.signature))
    (s := fun left right => rankLe (ranking.get? left.2.1) (ranking.get? right.2.1))
    fun _ _ _ _ => rfl
  rw [sortByRank_eq_mergeSort, definitions, content_definitions, ← sites]
  rfl

theorem text_sortByRank (ranking : Ranking) (layout : Layout declarations) :
    (sortByRank ranking layout.definitions).map (·.text) =
      (layout.sortedSites ranking).map Site.text := by
  have contents := congrArg (List.map fun content => content.2.2)
    (layout.content_sortByRank ranking)
  rw [List.map_map, List.map_map] at contents
  exact contents

section Closed

variable {layout : Layout declarations}
  (closed : (Scanner.outside.run 0 layout.lines).1 = .outside)

theorem lines_gapList : (layout.gapList closed).map (·.lines) = layout.gapLines := by
  have all : (layout.stretches.map (·.1) ++ [layout.lastGap closed]).map (·.lines) =
      layout.stretches.map (·.1.lines) ++ [layout.margin.lines] := by
    rw [List.map_append, List.map_map]
    rfl
  rw [gapLines, ← all, List.filter_map]
  rfl

theorem lines_ne_nil_of_mem_gapList {gap : Gap declarations}
    (member : gap ∈ layout.gapList closed) : gap.lines ≠ [] := by
  have kept := (List.mem_filter.1 member).2
  simpa using kept

theorem lines_unlines_of_mem_gapList {gap : Gap declarations}
    (member : gap ∈ layout.gapList closed) : Text.lines (Text.unlines gap.lines) = gap.lines :=
  Text.lines_unlines gap.plain (lines_ne_nil_of_mem_gapList closed member)

/-- The parts of the arranged file, each by its lines. -/
theorem lines_arrangedParts (findable : layout.Findable) {source : Text}
    (cut : layout.lines = Text.lines source) (ranking : Ranking) :
    (arrangedParts source ranking layout.definitions).map Text.lines =
      ((layout.gapList closed).take 1).map (·.lines) ++
        (layout.sortedSites ranking).map Site.lines ++
          (layout.keptGaps closed).map (·.lines) := by
  have firstGap : (((layout.gapList closed).take 1).map (·.lines)).map
      (Text.lines ∘ Text.unlines) = ((layout.gapList closed).take 1).map (·.lines) := by
    rw [List.map_map]
    apply List.map_congr_left
    intro gap member
    exact lines_unlines_of_mem_gapList closed (List.mem_of_mem_take member)
  have otherGaps : ((((layout.gapList closed).drop 1).map (·.lines)).map Text.unlines |>.filter
      (!Text.isBlankText ·)).map Text.lines = (layout.keptGaps closed).map (·.lines) := by
    rw [List.map_map, List.filter_map, List.map_map]
    apply List.map_congr_left
    intro gap member
    exact lines_unlines_of_mem_gapList closed (List.mem_of_mem_drop (List.mem_filter.1 member).1)
  have sites : ((layout.sortedSites ranking).map Site.text).map Text.lines =
      (layout.sortedSites ranking).map Site.lines := by
    rw [List.map_map]
    exact List.map_congr_left fun site _ => site.lines_text
  rw [arrangedParts_eq, gapSlices_definitions findable.locatable cut, text_sortByRank,
    ← lines_gapList closed, List.map_append, List.map_append, List.map_map, sites,
    ← List.map_take, ← List.map_drop, firstGap, otherGaps]

theorem arranged_of_nil {ranking : Ranking} (sorted : layout.sortedSites ranking = []) :
    layout.arranged ranking closed = layout := by
  rw [arranged, sorted]

theorem arranged_of_cons {ranking : Ranking} {first : Site declarations}
    {others : List (Site declarations)} (sorted : layout.sortedSites ranking = first :: others) :
    layout.arranged ranking closed =
      ⟨(Gap.opening (layout.gapList closed), first) :: others.map (Gap.blank, ·),
        (Gap.join (layout.keptGaps closed)).toMargin⟩ := by
  rw [arranged, sorted]

theorem stretches_of_sortedSites_nil {ranking : Ranking}
    (sorted : layout.sortedSites ranking = []) : layout.stretches = [] := by
  have perm := layout.sortedSites_perm ranking
  rw [sorted] at perm
  exact List.map_eq_nil_iff.1 perm.nil_eq.symm

/-- The arranged layout has the lines of the arranged file. -/
theorem lines_arranged (findable : layout.Findable) {source : Text}
    (cut : layout.lines = Text.lines source) (ranking : Ranking) :
    (layout.arranged ranking closed).lines =
      Text.lines (arrange source ranking layout.definitions) := by
  have parts := lines_arrangedParts closed findable cut ranking
  have joined : (arrangedParts source ranking layout.definitions).map Text.lines ≠ [] →
      Text.lines (arrange source ranking layout.definitions) =
        List.intercalate [[]]
          ((arrangedParts source ranking layout.definitions).map Text.lines) := by
    intro nonempty
    exact Text.lines_intercalate_blank fun empty => nonempty (by rw [empty]; rfl)
  cases sorted : layout.sortedSites ranking with
  | nil =>
      -- Without a site the only gap is the whole file.
      have noStretches := stretches_of_sortedSites_nil sorted
      have whole : layout.lines = layout.margin.lines := by
        rw [lines, noStretches]
        rfl
      have some : layout.margin.lines ≠ [] := by
        rw [← whole, cut]
        exact Text.lines_ne_nil source
      have single : layout.gapList closed = [layout.lastGap closed] := by
        rw [gapList, noStretches]
        apply List.filter_cons_of_pos
        simpa [lastGap] using some
      rw [sorted, keptGaps, single] at parts
      rw [arranged_of_nil closed sorted, joined (by rw [parts]; simp), parts, whole]
      simp [lastGap]
  | cons first others =>
      rw [sorted] at parts
      rw [arranged_of_cons closed sorted, joined (by rw [parts]; simp), parts, lines]
      cases layout.gapList closed with
      | nil =>
          simp [Gap.opening, stretchLines, intercalate_cons, List.flatMap_map]
      | cons gap rest =>
          simp [Gap.opening, stretchLines, intercalate_cons, List.flatMap_map]

theorem sites_arranged (ranking : Ranking) :
    (layout.arranged ranking closed).sites = layout.sortedSites ranking := by
  cases sorted : layout.sortedSites ranking with
  | nil =>
      rw [arranged_of_nil closed sorted, sites, stretches_of_sortedSites_nil sorted]
      rfl
  | cons first others =>
      rw [arranged_of_cons closed sorted, sites, List.map_cons, List.map_map]
      exact congrArg (first :: ·) (List.map_id others)

/-- The arranged layout does not end in a block either. -/
theorem closed_arranged (ranking : Ranking) :
    (Scanner.outside.run 0 (layout.arranged ranking closed).lines).1 = .outside := by
  cases sorted : layout.sortedSites ranking with
  | nil =>
      rw [arranged_of_nil closed sorted]
      exact closed
  | cons first others =>
      rw [arranged_of_cons closed sorted]
      apply (run_eq_outside _).2
      exact (Gap.join (layout.keptGaps closed)).closed

theorem mem_otherLines_of_mem_gapList {gap : Gap declarations}
    (listed : gap ∈ layout.gapList closed) {line : Text} (member : line ∈ gap.lines) :
    line ∈ layout.otherLines := by
  rcases List.mem_append.1 (List.mem_filter.1 listed).1 with before | last
  · obtain ⟨stretch, inLayout, same⟩ := List.mem_map.1 before
    subst same
    apply List.mem_append_left
    exact List.mem_flatMap.2 ⟨stretch, inLayout, List.mem_append_left _ member⟩
  · rw [List.mem_singleton.1 last] at member
    exact List.mem_append_right _ member

theorem mem_otherLines_of_mem_body {site : Site declarations} (listed : site ∈ layout.sites)
    {line : Text} (member : line ∈ site.body) : line ∈ layout.otherLines := by
  obtain ⟨stretch, inLayout, same⟩ := List.mem_map.1 listed
  subst same
  apply List.mem_append_left
  exact List.mem_flatMap.2 ⟨stretch, inLayout, List.mem_append_right _ member⟩

/-- Arranging adds no line but empty ones that could be mistaken for a site. -/
theorem mem_otherLines_arranged {ranking : Ranking} {line : Text}
    (member : line ∈ (layout.arranged ranking closed).otherLines) :
    line = [] ∨ line ∈ layout.otherLines := by
  cases sorted : layout.sortedSites ranking with
  | nil =>
      rw [arranged_of_nil closed sorted] at member
      exact Or.inr member
  | cons first others =>
      have inLayout : ∀ site ∈ first :: others, site ∈ layout.sites := by
        intro site listed
        rw [← sorted] at listed
        exact (layout.sortedSites_perm ranking).mem_iff.1 listed
      rw [arranged_of_cons closed sorted, otherLines, List.flatMap_cons] at member
      rcases List.mem_append.1 member with inStretches | inMargin
      · rcases List.mem_append.1 inStretches with inFirst | inOthers
        · rcases List.mem_append.1 inFirst with inOpening | inBody
          · cases gaps : layout.gapList closed with
            | nil =>
                rw [gaps] at inOpening
                cases inOpening
            | cons gap rest =>
                rw [gaps] at inOpening
                rcases List.mem_append.1 inOpening with inGap | inBlank
                · exact Or.inr (mem_otherLines_of_mem_gapList closed
                    (gaps ▸ List.mem_cons_self ..) inGap)
                · exact Or.inl (List.mem_singleton.1 inBlank)
          · exact Or.inr (mem_otherLines_of_mem_body
              (inLayout first (List.mem_cons_self ..)) inBody)
        · rw [List.flatMap_map] at inOthers
          obtain ⟨site, listed, inSite⟩ := List.mem_flatMap.1 inOthers
          rcases List.mem_append.1 inSite with inBlank | inBody
          · exact Or.inl (List.mem_singleton.1 inBlank)
          · exact Or.inr (mem_otherLines_of_mem_body
              (inLayout site (List.mem_cons_of_mem _ listed)) inBody)
      · rw [Gap.lines_join] at inMargin
        obtain ⟨gap, kept, inGap⟩ := List.mem_flatMap.1 inMargin
        have listed : gap ∈ layout.gapList closed :=
          List.mem_of_mem_drop (List.mem_filter.1 kept).1
        rcases List.mem_cons.1 inGap with empty | inLines
        · exact Or.inl empty
        · exact Or.inr (mem_otherLines_of_mem_gapList closed listed inLines)

/-- A findable layout is findable after it is arranged. -/
theorem findable_arranged (findable : layout.Findable) (ranking : Ranking) :
    (layout.arranged ranking closed).Findable := by
  have sameSites : ∀ site, site ∈ (layout.arranged ranking closed).sites ↔ site ∈ layout.sites := by
    intro site
    rw [sites_arranged]
    exact (layout.sortedSites_perm ranking).mem_iff
  constructor
  · intro site listed
    exact findable.opensOne site ((sameSites site).1 listed)
  · intro line member begins site listed
    rcases mem_otherLines_arranged closed member with empty | before
    · rw [empty, beginsDefinition_nil] at begins
      exact Bool.noConfusion begins
    · exact findable.noDecoy line before begins site ((sameSites site).1 listed)

end Closed

end Layout

/-! ## Ranks by position in the header -/

theorem Entries.lookup_zipIdx (keys : List Text) (start : Nat) {key : Text} (member : key ∈ keys) :
    lookup key ((keys.zipIdx start).map fun entry => (entry.1, (entry.2 : Int))) =
      some ((start + keys.idxOf key : Nat) : Int) := by
  induction keys generalizing start with
  | nil => cases member
  | cons first rest ih =>
      rw [List.zipIdx_cons, List.map_cons, lookup, List.idxOf_cons]
      by_cases same : first = key
      · rw [if_pos same, beq_iff_eq.2 same]
        rfl
      · have later : key ∈ rest :=
          (List.mem_cons.1 member).resolve_left fun equal => same equal.symm
        rw [if_neg same, ih (start + 1) later, beq_eq_false_iff_ne.2 same]
        simp only [cond_false, Nat.add_assoc, Nat.add_comm 1]

/-- A declared signature is ranked by its position among the declarations. -/
theorem Catalog.get?_positions (declarations : Declarations) {signature : Text}
    (declared : signature ∈ declarations.keys) :
    declarations.positions.get? signature = some (declarations.keys.idxOf signature : Int) := by
  have found := Entries.lookup_zipIdx declarations.keys 0 declared
  rw [Nat.zero_add] at found
  exact found

/-- Whether a definition's declaration stands no later in the header than another's. -/
def Declarations.inOrder (declarations : Declarations) (left right : Definition) : Bool :=
  declarations.keys.idxOf left.signature ≤ declarations.keys.idxOf right.signature

theorem Declarations.inOrder_trans (declarations : Declarations) (first second third : Definition)
    (left : declarations.inOrder first second = true)
    (right : declarations.inOrder second third = true) :
    declarations.inOrder first third = true :=
  keyLe_trans (fun definition : Definition => declarations.keys.idxOf definition.signature)
    first second third left right

theorem Declarations.inOrder_total (declarations : Declarations) (left right : Definition) :
    (declarations.inOrder left right || declarations.inOrder right left) = true :=
  keyLe_total (fun definition : Definition => declarations.keys.idxOf definition.signature)
    left right

theorem Declarations.pairwise_mergeSort_inOrder (declarations : Declarations)
    (definitions : List Definition) :
    ((definitions.mergeSort declarations.inOrder).map fun definition =>
      declarations.keys.idxOf definition.signature).Pairwise (· ≤ ·) := by
  have sorted := List.pairwise_mergeSort declarations.inOrder_trans declarations.inOrder_total
    definitions
  exact List.pairwise_map.2 (sorted.imp of_decide_eq_true)

theorem Declarations.mayPrecede_positions (declarations : Declarations) {left right : Definition}
    (leftDeclared : left.signature ∈ declarations.keys)
    (rightDeclared : right.signature ∈ declarations.keys) :
    Ranking.mayPrecede declarations.positions left right = declarations.inOrder left right := by
  rw [Ranking.mayPrecede, Catalog.get?_positions declarations leftDeclared,
    Catalog.get?_positions declarations rightDeclared]
  simp only [rankLe, Declarations.inOrder, Int.ofNat_le]

namespace Layout

variable {declarations : Declarations}

theorem signature_mem_keys_definitionsFrom (index : Nat)
    (stretches : List (Gap declarations × Site declarations)) :
    ∀ definition ∈ definitionsFrom index stretches, definition.signature ∈ declarations.keys := by
  induction stretches generalizing index with
  | nil => exact nofun
  | cons stretch rest ih =>
      intro definition member
      rcases List.mem_cons.1 member with here | later
      · rw [here]
        exact Declarations.mem_keys_of_signatureFor stretch.2.declared
      · exact ih _ definition later

/-- Ranked by position, the definitions of a layout are sorted by their declarations. -/
theorem sortByRank_positions (layout : Layout declarations) :
    sortByRank declarations.positions layout.definitions =
      layout.definitions.mergeSort declarations.inOrder := by
  have declared := signature_mem_keys_definitionsFrom 0 layout.stretches
  have same := List.map_mergeSort (f := id) (l := layout.definitions)
    (r := Ranking.mayPrecede declarations.positions) (s := declarations.inOrder)
    fun left leftIn right rightIn => declarations.mayPrecede_positions
      (declared left leftIn) (declared right rightIn)
  rw [List.map_id, List.map_id] at same
  rw [sortByRank_eq_mergeSort, same]

end Layout

/-- In a file that opens one brace on the first line of each definition, has no decoy and does not
end in a block, arranging by the header leads to a file in which the same definitions are found,
with the same names, signatures and texts, in the order of their declarations and otherwise as
before. -/
theorem ofSource_arrange (header source : Text) :
    ∃ definitions, Definition.ofSource (Declarations.ofHeader header) source = .ok definitions ∧
      (OpensOneBrace source definitions → NoDecoy source definitions → EndsOutside source →
        ∃ found, Definition.ofSource (Declarations.ofHeader header)
            (arrange source (Declarations.ofHeader header).positions definitions) = .ok found ∧
          found.map Definition.content =
            (definitions.mergeSort (Declarations.ofHeader header).inOrder).map
              Definition.content ∧
          (∀ definition ∈ found, definition.signature ∈ (Declarations.ofHeader header).keys) ∧
          (found.map fun definition =>
            (Declarations.ofHeader header).keys.idxOf definition.signature).Pairwise (· ≤ ·)) := by
  obtain ⟨layout, cut⟩ := Layout.exists_of_source header source
  refine ⟨layout.definitions, layout.ofSource_eq cut, ?_⟩
  intro opensOne noDecoy endsOutside
  have findable := (layout.findable_iff cut).2 ⟨opensOne, noDecoy⟩
  have closed : (Scanner.outside.run 0 layout.lines).1 = .outside := cut ▸ endsOutside
  let ranking := (Declarations.ofHeader header).positions
  let after := layout.arranged ranking closed
  have contents : after.definitions.map Definition.content =
      (layout.definitions.mergeSort (Declarations.ofHeader header).inOrder).map
        Definition.content := by
    rw [← layout.sortByRank_positions, layout.content_sortByRank, after.content_definitions,
      Layout.sites_arranged closed ranking]
  refine ⟨after.definitions,
    after.ofSource_eq (Layout.lines_arranged closed findable cut ranking), contents,
    Layout.signature_mem_keys_definitionsFrom 0 after.stretches, ?_⟩
  have positions := congrArg (List.map fun content =>
    (Declarations.ofHeader header).keys.idxOf content.2.1) contents
  rw [List.map_map, List.map_map] at positions
  have sorted := (Declarations.ofHeader header).pairwise_mergeSort_inOrder layout.definitions
  exact positions ▸ sorted

theorem ofSource_arrange_sample :
    OpensOneBrace sampleSource sampleDefinitions ∧ NoDecoy sampleSource sampleDefinitions ∧
      EndsOutside sampleSource ∧
      ∃ found, Definition.ofSource (Declarations.ofHeader sampleHeader)
          (arrange sampleSource (Declarations.ofHeader sampleHeader).positions
            sampleDefinitions) = .ok found ∧
        found.map Definition.content = (sampleDefinitions.map Definition.content).reverse := by
  obtain ⟨definitions, run, sound⟩ := ofSource_arrange sampleHeader sampleSource
  rw [ofSource_sample] at run
  cases run
  obtain ⟨found, again, contents, _, _⟩ :=
    sound opensOneBrace_sample noDecoy_sample endsOutside_sample
  have sorted : stableSort (Declarations.ofHeader sampleHeader).inOrder sampleDefinitions =
      sampleDefinitions.reverse := by
    decide +kernel
  rw [← stableSort_eq_mergeSort _ (Declarations.inOrder_trans _) (Declarations.inOrder_total _),
    sorted, List.map_reverse] at contents
  exact ⟨opensOneBrace_sample, noDecoy_sample, endsOutside_sample, found, again, contents⟩

end HeaderOrder
