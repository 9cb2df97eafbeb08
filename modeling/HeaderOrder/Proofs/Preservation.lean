import HeaderOrder.Proofs.Arranging
import Mathlib.Data.List.Perm.Basic

/-!
# Arranging permutes the nonblank lines

If a file's definitions open one brace on their first lines and no other line can be mistaken for
one of these, the definitions are located exactly where they were found.  Gaps and definitions
then share the lines of the file among them, so that an arrangement, by any ranking, moves
nonblank lines and neither loses nor adds one.
-/

namespace HeaderOrder

namespace Layout

variable {declarations : Declarations}

theorem slice_range_definitionsFrom (stretches : List (Gap declarations × Site declarations))
    (passed rest : List Text) :
    ∀ definition ∈ definitionsFrom passed.length stretches,
      definition.range.slice (passed ++ (stretches.flatMap stretchLines ++ rest)) =
        Text.lines definition.text := by
  induction stretches generalizing passed with
  | nil => exact nofun
  | cons stretch others ih =>
      obtain ⟨gap, site⟩ := stretch
      intro definition member
      rcases List.mem_cons.1 member with here | later
      · subst here
        have text : Text.lines (site.definition (passed.length + gap.lines.length)).text =
            site.lines := site.lines_text
        have middle := slice_middle (passed ++ gap.lines) site.lines
          (others.flatMap stretchLines ++ rest)
        rw [Site.range_definition, text, ← List.length_append]
        simpa [stretchLines] using middle
      · have next : passed.length + gap.lines.length + site.lines.length =
            (passed ++ stretchLines (gap, site)).length := by
          simp [stretchLines, Nat.add_assoc]
        rw [next] at later
        have sliced := ih (passed ++ stretchLines (gap, site)) definition later
        simpa using sliced

/-- The range of a definition holds the lines of its text. -/
theorem slice_range_definitions (layout : Layout declarations) :
    ∀ definition ∈ layout.definitions,
      definition.range.slice layout.lines = Text.lines definition.text :=
  slice_range_definitionsFrom layout.stretches [] layout.margin.lines

theorem flatMap_nonblankLines_definitions (layout : Layout declarations) :
    layout.definitions.flatMap (Text.nonblankLines ·.text) =
      layout.sites.flatMap fun site => Text.nonblank site.lines := by
  have contents := congrArg (List.flatMap fun content => Text.nonblankLines content.2.2)
    layout.content_definitions
  rw [List.flatMap_map, List.flatMap_map] at contents
  have lines : ∀ site : Site declarations,
      Text.nonblankLines (site.definition 0).content.2.2 = Text.nonblank site.lines := by
    intro site
    exact congrArg Text.nonblank site.lines_text
  simp only [lines] at contents
  exact contents

theorem flatMap_nonblank_gapLines (layout : Layout declarations) :
    layout.gapLines.flatMap Text.nonblank =
      (layout.stretches.flatMap fun stretch => Text.nonblank stretch.1.lines) ++
        Text.nonblank layout.margin.lines := by
  have all : layout.gapLines.flatMap Text.nonblank =
      (layout.stretches.map (·.1.lines) ++ [layout.margin.lines]).flatMap Text.nonblank := by
    apply flatMap_filter_of_nil
    intro lines _ dropped
    have empty : lines = [] := by simpa using dropped
    rw [empty]
    rfl
  rw [all, List.flatMap_append, List.flatMap_map, List.flatMap_singleton]

/-- Gaps and sites share the nonblank lines of a layout. -/
theorem nonblank_lines_perm (layout : Layout declarations) :
    (Text.nonblank layout.lines).Perm
      (layout.gapLines.flatMap Text.nonblank ++
        layout.definitions.flatMap (Text.nonblankLines ·.text)) := by
  have inTurn : Text.nonblank layout.lines =
      (layout.stretches.flatMap fun stretch =>
        Text.nonblank stretch.1.lines ++ Text.nonblank stretch.2.lines) ++
          Text.nonblank layout.margin.lines := by
    rw [lines, Text.nonblank_append, Text.nonblank_flatMap]
    simp only [stretchLines, Text.nonblank_append]
  have apart := List.flatMap_append_perm layout.stretches
    (fun stretch => Text.nonblank stretch.1.lines) (fun stretch => Text.nonblank stretch.2.lines)
  rw [inTurn, flatMap_nonblank_gapLines, flatMap_nonblankLines_definitions, sites,
    List.flatMap_map, List.append_assoc]
  have marginLast := apart.symm.append_right (Text.nonblank layout.margin.lines)
  rw [List.append_assoc] at marginLast
  exact marginLast.trans (List.perm_append_comm.append_left _)

/-- An arrangement of a findable layout permutes its nonblank lines. -/
theorem nonblankLines_arrange_perm {layout : Layout declarations} (findable : layout.Findable)
    {source : Text} (cut : layout.lines = Text.lines source) (ranking : Ranking) :
    (Text.nonblankLines (arrange source ranking layout.definitions)).Perm
      (Text.nonblankLines source) := by
  have parts := HeaderOrder.nonblankLines_arrange_perm source ranking layout.definitions
  rw [gapSlices_definitions findable.locatable cut] at parts
  have whole := layout.nonblank_lines_perm
  rw [cut] at whole
  exact parts.trans whole.symm

end Layout

/-- The definitions of a file can be found, and if each opens one brace on its first line and there
is no decoy, then each is located at the lines that its text was cut from, and every arrangement has
the nonblank lines of the file, each as often as before. -/
theorem arrange_permutes_nonblankLines (header source : Text) :
    ∃ definitions, Definition.ofSource (Declarations.ofHeader header) source = .ok definitions ∧
      (OpensOneBrace source definitions → NoDecoy source definitions →
        locateAll (Text.lines source) [] definitions = definitions.map Definition.range ∧
        (∀ definition ∈ definitions,
          Text.unlines (definition.range.slice (Text.lines source)) = definition.text) ∧
        ∀ ranking : Ranking,
          (Text.nonblankLines (arrange source ranking definitions)).Perm
            (Text.nonblankLines source)) := by
  obtain ⟨layout, cut⟩ := Layout.exists_of_source header source
  refine ⟨layout.definitions, layout.ofSource_eq cut, ?_⟩
  intro opensOne noDecoy
  have findable := (layout.findable_iff cut).2 ⟨opensOne, noDecoy⟩
  refine ⟨?_, ?_, ?_⟩
  · rw [← cut]
    exact Layout.locateAll_definitions findable
  · intro definition member
    rw [← cut, layout.slice_range_definitions definition member, Text.unlines_lines]
  · intro ranking
    exact Layout.nonblankLines_arrange_perm findable cut ranking

theorem arrange_permutes_nonblankLines_sample :
    OpensOneBrace sampleSource sampleDefinitions ∧ NoDecoy sampleSource sampleDefinitions ∧
      locateAll (Text.lines sampleSource) [] sampleDefinitions = [⟨1, 5⟩, ⟨7, 9⟩] ∧
      (Text.nonblankLines (arrange sampleSource (Declarations.ofHeader sampleHeader).positions
        sampleDefinitions)).Perm (Text.nonblankLines sampleSource) := by
  obtain ⟨definitions, found, sound⟩ := arrange_permutes_nonblankLines sampleHeader sampleSource
  rw [ofSource_sample] at found
  cases found
  obtain ⟨located, _, permuted⟩ := sound opensOneBrace_sample noDecoy_sample
  exact ⟨opensOneBrace_sample, noDecoy_sample, located, permuted _⟩

end HeaderOrder
