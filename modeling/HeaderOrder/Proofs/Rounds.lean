import HeaderOrder.Pipeline
import HeaderOrder.Proofs.Preservation
import HeaderOrder.Proofs.Reordering

/-!
# Arranging again

A file that was arranged once is settled: its sites are in order, nothing but blank lines stands
between them, and if nothing stands before them there is nothing nonblank after them either.  The
text of a settled file can still change, since empty lines are put around gaps that have some
already, but its nonblank lines and its definitions stay.  Settledness and findability survive a
round, so this holds for any number of rounds.
-/

namespace HeaderOrder

namespace Layout

variable {declarations : Declarations} {ranking : Ranking} {layout : Layout declarations}

/-- A layout whose sites are in order and whose gaps an arrangement leaves where they are, up to
blank lines. -/
structure Settled (ranking : Ranking) (layout : Layout declarations) : Prop where
  sorted : layout.sortedSites ranking = layout.sites
  blankBetween : ∀ stretch ∈ layout.stretches.tail, Text.nonblank stretch.1.lines = []
  blankAround : ∀ stretch ∈ layout.stretches.head?, stretch.1.lines = [] →
    Text.nonblank layout.margin.lines = []

/-! ## An arranged layout is settled -/

theorem sortedSites_eq_of_sites_eq {other : Layout declarations}
    (same : other.sites = layout.sortedSites ranking) :
    other.sortedSites ranking = other.sites := by
  rw [sortedSites, same]
  exact List.mergeSort_of_pairwise (layout.pairwise_sortedSites ranking)

theorem settled_arranged (closed : (Scanner.outside.run 0 layout.lines).1 = .outside) :
    (layout.arranged ranking closed).Settled ranking := by
  have sorted := sortedSites_eq_of_sites_eq (sites_arranged closed ranking)
  cases sites : layout.sortedSites ranking with
  | nil =>
      have noStretches := stretches_of_sortedSites_nil sites
      rw [arranged_of_nil closed sites] at sorted ⊢
      refine ⟨sorted, ?_, ?_⟩
      · intro stretch member
        rw [noStretches] at member
        cases member
      · intro stretch member
        rw [noStretches] at member
        cases member
  | cons first others =>
      rw [arranged_of_cons closed sites] at sorted ⊢
      refine ⟨sorted, ?_, ?_⟩
      · intro stretch member
        obtain ⟨site, _, same⟩ := List.mem_map.1 member
        rw [← same]
        rfl
      · intro stretch member empty
        rw [List.head?_cons, Option.mem_some_iff] at member
        subst member
        -- A gap in front is followed by an empty line, so there was no gap at all.
        cases gaps : layout.gapList closed with
        | nil =>
            have none : layout.keptGaps closed = [] := by rw [keptGaps, gaps]; rfl
            rw [none]
            rfl
        | cons gap rest =>
            rw [gaps] at empty
            simp [Gap.opening] at empty

/-! ## A settled layout keeps its nonblank lines -/

theorem flatMap_sortByRank (ranking : Ranking) (layout : Layout declarations) :
    (sortByRank ranking layout.definitions).flatMap (Text.nonblankLines ·.text) =
      (layout.sortedSites ranking).flatMap fun site => Text.nonblank site.lines := by
  have texts := congrArg (List.flatMap Text.nonblankLines) (layout.text_sortByRank ranking)
  rw [List.flatMap_map, List.flatMap_map] at texts
  have lines : ∀ site : Site declarations,
      Text.nonblankLines site.text = Text.nonblank site.lines := by
    intro site
    exact congrArg Text.nonblank site.lines_text
  simp only [lines] at texts
  exact texts

/-- The lines before the first site; there need not be a site. -/
def preamble (layout : Layout declarations) : List Text :=
  (layout.stretches.head?.map (·.1.lines)).getD []

theorem Settled.nonblank_lines (settled : layout.Settled ranking) :
    Text.nonblank layout.lines =
      Text.nonblank layout.preamble ++
        (layout.sites.flatMap fun site => Text.nonblank site.lines) ++
          Text.nonblank layout.margin.lines := by
  rw [lines, Text.nonblank_append, Text.nonblank_flatMap, preamble, sites]
  cases stretches : layout.stretches with
  | nil => rfl
  | cons stretch rest =>
      have between : (rest.flatMap fun other => Text.nonblank (stretchLines other)) =
          rest.flatMap fun other => Text.nonblank other.2.lines := by
        apply List.flatMap_congr
        intro other member
        have blank := settled.blankBetween other (by rw [stretches]; exact member)
        rw [stretchLines, Text.nonblank_append, blank, List.nil_append]
      rw [List.flatMap_cons, between, stretchLines, Text.nonblank_append, List.map_cons,
        List.flatMap_cons, List.flatMap_map]
      simp

theorem Settled.nonblank_gaps (settled : layout.Settled ranking) :
    layout.gapLines.flatMap Text.nonblank =
      Text.nonblank layout.preamble ++ Text.nonblank layout.margin.lines := by
  rw [flatMap_nonblank_gapLines, preamble]
  cases stretches : layout.stretches with
  | nil => rfl
  | cons stretch rest =>
      have between : (rest.flatMap fun other => Text.nonblank other.1.lines) = [] := by
        apply List.flatMap_eq_nil_iff.2
        intro other member
        exact settled.blankBetween other (by rw [stretches]; exact member)
      rw [List.flatMap_cons, between, List.append_nil]
      rfl

/-- The first gap and the others, of a settled layout with a site. -/
theorem Settled.nonblank_take_drop (settled : layout.Settled ranking) (some : layout.sites ≠ []) :
    (layout.gapLines.take 1).flatMap Text.nonblank = Text.nonblank layout.preamble ∧
      (layout.gapLines.drop 1).flatMap Text.nonblank = Text.nonblank layout.margin.lines := by
  have together := settled.nonblank_gaps
  cases stretches : layout.stretches with
  | nil => exact absurd (by rw [sites, stretches]; rfl) some
  | cons stretch rest =>
      have preambleEq : layout.preamble = stretch.1.lines := by rw [preamble, stretches]; rfl
      cases lines : stretch.1.lines with
      | nil =>
          -- Nothing before the first site: all gaps are blank, whichever comes first.
          have blank : Text.nonblank layout.margin.lines = [] :=
            settled.blankAround stretch (by rw [stretches]; rfl) lines
          rw [preambleEq, lines, blank] at together
          have each := List.flatMap_eq_nil_iff.1 together
          rw [preambleEq, lines, blank]
          constructor
          · apply List.flatMap_eq_nil_iff.2
            intro slice member
            exact each slice (List.mem_of_mem_take member)
          · apply List.flatMap_eq_nil_iff.2
            intro slice member
            exact each slice (List.mem_of_mem_drop member)
      | cons line others =>
          have split : layout.gapLines = stretch.1.lines ::
              (rest.map (·.1.lines) ++ [layout.margin.lines]).filter (!·.isEmpty) := by
            rw [gapLines, stretches, List.map_cons, List.cons_append]
            apply List.filter_cons_of_pos
            rw [lines]
            rfl
          rw [split, List.flatMap_cons, preambleEq] at together
          rw [split, preambleEq]
          exact ⟨List.flatMap_singleton .., List.append_cancel_left together⟩

/-- Arranging a settled layout keeps the sequence of its nonblank lines. -/
theorem Settled.nonblankLines_arrange (settled : layout.Settled ranking)
    (findable : layout.Findable) {source : Text} (cut : layout.lines = Text.lines source) :
    Text.nonblankLines (arrange source ranking layout.definitions) = Text.nonblankLines source := by
  have before : Text.nonblankLines source = Text.nonblank layout.lines := by
    rw [Text.nonblankLines, cut]
  rw [HeaderOrder.nonblankLines_arrange, gapSlices_definitions findable.locatable cut,
    flatMap_sortByRank, settled.sorted, before, settled.nonblank_lines]
  by_cases none : layout.sites = []
  · rw [none, List.flatMap_nil, List.append_nil, List.append_nil, ← List.flatMap_append,
      List.take_append_drop, settled.nonblank_gaps]
  · obtain ⟨first, others⟩ := settled.nonblank_take_drop none
    rw [first, others]

end Layout

/-! ## Runs of several rounds -/

namespace Round

variable {declarations : Declarations}

/-- One round on a file with a layout. -/
theorem of_layout (layout : Layout declarations) {source : Text}
    (cut : layout.lines = Text.lines source) :
    ∃ report, Round.of declarations source =
      .ok ⟨layout.definitions, report,
        arrange source declarations.positions layout.definitions⟩ := by
  refine ⟨Report.messages declarations.positions layout.definitions, ?_⟩
  rw [Round.of, layout.ofSource_eq cut]
  rfl

theorem iterate_succ {count : Nat} {source : Text} {round : Round} {later : List Round}
    (first : Round.of declarations source = .ok round)
    (rest : iterate declarations count round.result = .ok later) :
    iterate declarations (count + 1) source = .ok (round :: later) := by
  rw [iterate, first]
  show (iterate declarations count round.result >>= fun later => _) = _
  rw [rest]
  rfl

/-- From a settled file on, every round finds the same definitions and keeps the nonblank lines. -/
theorem iterate_of_settled (layout : Layout declarations) (findable : layout.Findable)
    (closed : (Scanner.outside.run 0 layout.lines).1 = .outside)
    (settled : layout.Settled declarations.positions) {source : Text}
    (cut : layout.lines = Text.lines source) (count : Nat) :
    ∃ rounds, iterate declarations count source = .ok rounds ∧ rounds.length = count ∧
      ∀ round ∈ rounds, Text.nonblankLines round.result = Text.nonblankLines source ∧
        round.definitions.map Definition.content =
          layout.definitions.map Definition.content := by
  induction count generalizing layout source with
  | zero => exact ⟨[], rfl, rfl, nofun⟩
  | succ count ih =>
      obtain ⟨report, first⟩ := of_layout layout cut
      let after := layout.arranged declarations.positions closed
      have sameSites : after.sites = layout.sites :=
        (Layout.sites_arranged closed _).trans settled.sorted
      have sameContents : after.definitions.map Definition.content =
          layout.definitions.map Definition.content := by
        rw [after.content_definitions, layout.content_definitions, sameSites]
      have sameLines := settled.nonblankLines_arrange findable cut
      obtain ⟨later, run, length, kept⟩ := ih after (Layout.findable_arranged closed findable _)
        (Layout.closed_arranged closed _) (Layout.settled_arranged closed)
        (Layout.lines_arranged closed findable cut _)
      refine ⟨_, iterate_succ first run, by rw [List.length_cons, length], ?_⟩
      intro round member
      rcases List.mem_cons.1 member with here | inLater
      · subst here
        exact ⟨sameLines, rfl⟩
      · obtain ⟨lines, contents⟩ := kept round inLater
        exact ⟨lines.trans sameLines, contents.trans sameContents⟩

end Round

/-- In a file that opens one brace on the first line of each definition, has no decoy and does not
end in a block, each round after the first changes nothing but blank lines, and all of them find the
same definitions. -/
theorem iterate_changes_only_blank_lines (header source : Text) :
    ∃ definitions, Definition.ofSource (Declarations.ofHeader header) source = .ok definitions ∧
      (OpensOneBrace source definitions → NoDecoy source definitions → EndsOutside source →
        ∀ count, ∃ rounds,
          Round.iterate (Declarations.ofHeader header) (count + 1) source = .ok rounds ∧
          rounds.length = count + 1 ∧
          (∀ (index : Nat) (within : index + 1 < rounds.length),
            Text.nonblankLines rounds[index + 1].result =
              Text.nonblankLines rounds[index].result) ∧
          ∀ (left right : Nat) (leftWithin : left < rounds.length)
            (rightWithin : right < rounds.length), 1 ≤ left → 1 ≤ right →
              rounds[left].definitions.map Definition.content =
                rounds[right].definitions.map Definition.content) := by
  obtain ⟨layout, cut⟩ := Layout.exists_of_source header source
  refine ⟨layout.definitions, layout.ofSource_eq cut, ?_⟩
  intro opensOne noDecoy endsOutside count
  have findable := (layout.findable_iff cut).2 ⟨opensOne, noDecoy⟩
  have closed : (Scanner.outside.run 0 layout.lines).1 = .outside := cut ▸ endsOutside
  obtain ⟨report, first⟩ := Round.of_layout layout cut
  obtain ⟨later, run, length, kept⟩ := Round.iterate_of_settled
    (layout.arranged (Declarations.ofHeader header).positions closed)
    (Layout.findable_arranged closed findable _) (Layout.closed_arranged closed _)
    (Layout.settled_arranged closed) (Layout.lines_arranged closed findable cut _) count
  refine ⟨_, Round.iterate_succ first run, by rw [List.length_cons, length], ?_, ?_⟩
  · intro index within
    have inLater : index < later.length := Nat.lt_of_succ_lt_succ within
    have next := (kept later[index] (List.getElem_mem inLater)).1
    cases index with
    | zero => exact next
    | succ index =>
        have before : index < later.length := Nat.lt_of_succ_lt inLater
        exact next.trans (kept later[index] (List.getElem_mem before)).1.symm
  · intro left right leftWithin rightWithin leftLater rightLater
    cases left with
    | zero => exact absurd leftLater (by decide)
    | succ left =>
        cases right with
        | zero => exact absurd rightLater (by decide)
        | succ right =>
            have leftIn : left < later.length := Nat.lt_of_succ_lt_succ leftWithin
            have rightIn : right < later.length := Nat.lt_of_succ_lt_succ rightWithin
            exact (kept later[left] (List.getElem_mem leftIn)).2.trans
              (kept later[right] (List.getElem_mem rightIn)).2.symm

theorem iterate_changes_only_blank_lines_sample :
    OpensOneBrace sampleSource sampleDefinitions ∧ NoDecoy sampleSource sampleDefinitions ∧
      EndsOutside sampleSource ∧
      ∃ first second third,
        Round.iterate (Declarations.ofHeader sampleHeader) 3 sampleSource =
          .ok [first, second, third] ∧
        Text.nonblankLines second.result = Text.nonblankLines first.result ∧
        Text.nonblankLines third.result = Text.nonblankLines second.result ∧
        second.definitions.map Definition.content = third.definitions.map Definition.content := by
  obtain ⟨definitions, run, sound⟩ := iterate_changes_only_blank_lines sampleHeader sampleSource
  rw [ofSource_sample] at run
  cases run
  obtain ⟨rounds, ran, length, lines, contents⟩ :=
    sound opensOneBrace_sample noDecoy_sample endsOutside_sample 2
  obtain ⟨first, second, third, rfl⟩ := List.length_eq_three.1 length
  exact ⟨opensOneBrace_sample, noDecoy_sample, endsOutside_sample, first, second, third, ran,
    lines 0 (by simp), lines 1 (by simp),
    contents 1 2 (by simp) (by simp) (by decide) (by decide)⟩

end HeaderOrder
