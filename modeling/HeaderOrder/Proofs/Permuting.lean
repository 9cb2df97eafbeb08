import HeaderOrder.Proofs.Rounds
import Mathlib.Data.List.Sort

/-!
# The order in which definitions stood does not matter

An arranged file shows two things of the file that it was made of: the gaps, in their order, and
the definitions, sorted by rank.  If each definition has a declaration of its own there is only
one way to sort them.  A file in which the definitions stand one after the other, each followed by
an empty line, has the same gaps in whatever order they stand, so that all its permutations are
arranged to one text.  The bodies may hold anything, lines that look like heads of definitions
included.
-/

namespace HeaderOrder

namespace Layout

variable {declarations : Declarations}

/-! ## What an arranged file depends on -/

/-- Two files with the same gaps and the same sorted sites are arranged to the same text. -/
theorem arrange_congr {layout other : Layout declarations} {ranking : Ranking}
    {source source' : Text} (locatable : layout.Locatable) (cut : layout.lines = Text.lines source)
    (locatable' : other.Locatable) (cut' : other.lines = Text.lines source')
    (gaps : layout.gapLines = other.gapLines)
    (sites : layout.sortedSites ranking = other.sortedSites ranking) :
    arrange source ranking layout.definitions = arrange source' ranking other.definitions := by
  rw [arrange, arrange, arrangedParts_eq, arrangedParts_eq, gapSlices_definitions locatable cut,
    gapSlices_definitions locatable' cut', text_sortByRank, text_sortByRank, gaps, sites]

/-- A site whose signature comes no later in the header than another's, and no earlier, has the same
signature. -/
theorem signature_eq_of_rankLe {left right : Site declarations}
    (le : rankLe (declarations.positions.get? left.signature)
      (declarations.positions.get? right.signature) = true)
    (ge : rankLe (declarations.positions.get? right.signature)
      (declarations.positions.get? left.signature) = true) : left.signature = right.signature := by
  have leftDeclared := Declarations.mem_keys_of_signatureFor left.declared
  have rightDeclared := Declarations.mem_keys_of_signatureFor right.declared
  rw [Catalog.get?_positions _ leftDeclared, Catalog.get?_positions _ rightDeclared] at le ge
  simp only [rankLe, decide_eq_true_eq, Int.ofNat_le] at le ge
  exact (List.idxOf_inj leftDeclared).1 (Nat.le_antisymm le ge)

/-- Sites of different declarations can be sorted by the header in one way only. -/
theorem sortedSites_eq_of_perm {layout other : Layout declarations}
    (permuted : layout.sites.Perm other.sites)
    (distinct : (layout.sites.map Site.signature).Nodup) :
    layout.sortedSites declarations.positions = other.sortedSites declarations.positions := by
  have inLayout := layout.sortedSites_perm declarations.positions
  have inOther := other.sortedSites_perm declarations.positions
  refine List.Perm.eq_of_pairwise ?_ (layout.pairwise_sortedSites _) (other.pairwise_sortedSites _)
    (inLayout.trans (permuted.trans inOther.symm))
  intro left right leftIn rightIn le ge
  have leftListed := inLayout.mem_iff.1 leftIn
  have rightListed := permuted.mem_iff.2 (inOther.mem_iff.1 rightIn)
  exact List.inj_on_of_nodup_map distinct leftListed rightListed (signature_eq_of_rankLe le ge)

/-! ## Sites one after the other -/

/-- A preamble, sites with an empty line after each of them, and an ending. -/
def spaced (preamble : Gap declarations) (first : Site declarations)
    (others : List (Site declarations)) (ending : Margin declarations) : Layout declarations :=
  ⟨(preamble, first) :: others.map (Gap.blank, ·), Gap.blank.before ending⟩

variable {preamble : Gap declarations} {first : Site declarations}
  {others : List (Site declarations)} {ending : Margin declarations}

theorem sites_spaced : (spaced preamble first others ending).sites = first :: others := by
  simp [spaced, sites]

theorem lines_spaced :
    (spaced preamble first others ending).lines =
      preamble.lines ++ (first :: others).flatMap (fun site => site.lines ++ [[]]) ++
        ending.lines := by
  -- The empty line after a site is the one before the next.
  have shifted : ∀ rest : List (Site declarations),
      (rest.map (Gap.blank, ·)).flatMap stretchLines ++ [[]] =
        [[]] ++ rest.flatMap fun site => site.lines ++ [[]] := by
    intro rest
    induction rest with
    | nil => rfl
    | cons site rest ih =>
        rw [List.map_cons, List.flatMap_cons, List.append_assoc, ih]
        simp [stretchLines]
  have last := congrArg (· ++ ending.lines) (shifted others)
  simp only [List.append_assoc] at last
  rw [lines, spaced, List.flatMap_cons, Gap.lines_before, Gap.lines_blank, List.append_assoc, last]
  simp [stretchLines]

theorem gapLines_spaced :
    (spaced preamble first others ending).gapLines =
      (preamble.lines :: List.replicate others.length [[]] ++
        [[] :: ending.lines]).filter (!·.isEmpty) := by
  have blanks : (others.map fun site => ((Gap.blank : Gap declarations), site)).map (·.1.lines) =
      List.replicate others.length [[]] := by
    rw [List.map_map]
    exact List.map_const ..
  rw [gapLines, spaced, List.map_cons, blanks]
  rfl

theorem locatable_spaced (opensOne : ∀ site ∈ first :: others, braceBalance site.first = 1)
    (harmless : ∀ line ∈ preamble.lines, Site.Harmless (first :: others) line) :
    (spaced preamble first others ending).Locatable where
  opensOne := by rwa [sites_spaced]
  harmless := by
    rw [sites_spaced]
    refine List.forall_mem_cons.2 ⟨harmless, ?_⟩
    intro stretch member line inGap begins
    obtain ⟨site, -, rfl⟩ := List.mem_map.1 member
    rw [List.mem_singleton.1 inGap, beginsDefinition_nil] at begins
    cases begins

end Layout

/-! ## Permuted files -/

/-- The text of a preamble, of definitions with an empty line after each of them, and of an
ending. -/
def spacedFile (preamble : List Text) (definitions : List (List Text)) (ending : List Text) :
    Text :=
  Text.unlines (preamble ++ definitions.flatMap (· ++ [[]]) ++ ending)

theorem Layout.lines_spacedFile {declarations : Declarations} (preamble : Gap declarations)
    (first : Site declarations) (others : List (Site declarations)) (ending : Margin declarations) :
    (Layout.spaced preamble first others ending).lines =
      Text.lines (spacedFile preamble.lines ((first :: others).map Site.lines) ending.lines) := by
  have text : spacedFile preamble.lines ((first :: others).map Site.lines) ending.lines =
      Text.unlines (Layout.spaced preamble first others ending).lines := by
    rw [spacedFile, List.flatMap_map, Layout.lines_spaced]
  have nonempty : (Layout.spaced preamble first others ending).lines ≠ [] := by
    rw [Layout.lines_spaced]
    simp [Site.lines]
  rw [text, Text.lines_unlines (Layout.plain _) nonempty]

/-- Permuting the definitions of a file does not change the arranged file. -/
theorem Layout.arrange_spaced_perm {declarations : Declarations} (preamble : Gap declarations)
    (ending : Margin declarations) {first first' : Site declarations}
    {others others' : List (Site declarations)} (same : (first :: others).Perm (first' :: others'))
    (opensOne : ∀ site ∈ first :: others, braceBalance site.first = 1)
    (distinct : ((first :: others).map Site.signature).Nodup)
    (harmless : ∀ line ∈ preamble.lines, Site.Harmless (first :: others) line) :
    arrange (spacedFile preamble.lines ((first :: others).map Site.lines) ending.lines)
        declarations.positions (Layout.spaced preamble first others ending).definitions =
      arrange (spacedFile preamble.lines ((first' :: others').map Site.lines) ending.lines)
        declarations.positions (Layout.spaced preamble first' others' ending).definitions := by
  have opensOne' : ∀ site ∈ first' :: others', braceBalance site.first = 1 := fun site member =>
    opensOne site (same.mem_iff.2 member)
  have harmless' : ∀ line ∈ preamble.lines, Site.Harmless (first' :: others') line :=
    fun line member begins site listed => harmless line member begins site (same.mem_iff.2 listed)
  have lengths : others.length = others'.length := Nat.succ.inj same.length_eq
  apply Layout.arrange_congr (Layout.locatable_spaced opensOne harmless)
    (Layout.lines_spacedFile ..) (Layout.locatable_spaced opensOne' harmless')
    (Layout.lines_spacedFile ..)
  · rw [Layout.gapLines_spaced, Layout.gapLines_spaced, lengths]
  · apply Layout.sortedSites_eq_of_perm
    · rwa [Layout.sites_spaced, Layout.sites_spaced]
    · rwa [Layout.sites_spaced]

/-- The first of several rounds on a file with a layout, and the rounds after it. -/
theorem Round.iterate_layout {declarations : Declarations} (layout : Layout declarations)
    {source : Text} (cut : layout.lines = Text.lines source) {count : Nat} {later : List Round}
    (rest : Round.iterate declarations count
      (arrange source declarations.positions layout.definitions) = .ok later) :
    ∃ round, Round.iterate declarations (count + 1) source = .ok (round :: later) ∧
      round.result = arrange source declarations.positions layout.definitions := by
  obtain ⟨report, first⟩ := Round.of_layout layout cut
  exact ⟨_, Round.iterate_succ first rest, rfl⟩

/-- A file can be arranged any number of times. -/
theorem Round.exists_iterate (header : Text) (count : Nat) (source : Text) :
    ∃ rounds, Round.iterate (Declarations.ofHeader header) count source = .ok rounds := by
  induction count generalizing source with
  | zero => exact ⟨[], rfl⟩
  | succ count ih =>
      obtain ⟨layout, cut⟩ := Layout.exists_of_source header source
      obtain ⟨later, rest⟩ := ih
        (arrange source (Declarations.ofHeader header).positions layout.definitions)
      obtain ⟨round, run, -⟩ := Round.iterate_layout layout cut rest
      exact ⟨round :: later, run⟩

theorem Round.length_of_iterate {declarations : Declarations} {count : Nat} {source : Text}
    {rounds : List Round} (run : Round.iterate declarations count source = .ok rounds) :
    rounds.length = count := by
  induction count generalizing source rounds with
  | zero =>
      cases run
      rfl
  | succ count ih =>
      rw [Round.iterate] at run
      cases first : Round.of declarations source with
      | error error =>
          rw [first] at run
          cases run
      | ok round =>
          rw [first] at run
          cases rest : Round.iterate declarations count round.result with
          | error error =>
              simp [bind, Except.bind, rest] at run
          | ok later =>
              simp only [bind, Except.bind, rest, pure, Except.pure, Except.ok.injEq] at run
              rw [← run, List.length_cons, ih rest]

/-- A file consists of a preamble without a declared function, of definitions of different
declared functions, each followed by an empty line, and of an ending.  Each definition's first
line opens one brace, and no line of the preamble could be taken for one of these lines.  Then in
whatever order the definitions stand, the file can be arranged any number of times, and every
round gives the same text. -/
theorem iterate_permuted_definitions (header : Text)
    (preamble : Gap (Declarations.ofHeader header)) (ending : Margin (Declarations.ofHeader header))
    {sites permuted : List (Site (Declarations.ofHeader header))} (same : sites.Perm permuted)
    (opensOne : ∀ site ∈ sites, braceBalance site.first = 1)
    (distinct : (sites.map Site.signature).Nodup)
    (harmless : ∀ line ∈ preamble.lines, beginsDefinition line = true →
      ∀ site ∈ sites, ¬ line <+: site.first)
    (count : Nat) :
    ∃ rounds rounds',
      Round.iterate (Declarations.ofHeader header) count
        (spacedFile preamble.lines (sites.map Site.lines) ending.lines) = .ok rounds ∧
      Round.iterate (Declarations.ofHeader header) count
        (spacedFile preamble.lines (permuted.map Site.lines) ending.lines) = .ok rounds' ∧
      rounds.length = count ∧ rounds.map Round.result = rounds'.map Round.result := by
  cases sites with
  | nil =>
      obtain rfl := List.nil_perm.1 same
      obtain ⟨rounds, run⟩ := Round.exists_iterate header count
        (spacedFile preamble.lines [] ending.lines)
      exact ⟨rounds, rounds, run, run, Round.length_of_iterate run, rfl⟩
  | cons first others =>
      cases permuted with
      | nil => exact absurd (List.perm_nil.1 same) (List.cons_ne_nil _ _)
      | cons first' others' =>
          have arranged := Layout.arrange_spaced_perm preamble ending same opensOne distinct
            harmless
          cases count with
          | zero => exact ⟨[], [], rfl, rfl, rfl, rfl⟩
          | succ count =>
              obtain ⟨later, rest⟩ := Round.exists_iterate header count
                (arrange (spacedFile preamble.lines ((first :: others).map Site.lines) ending.lines)
                  (Declarations.ofHeader header).positions
                  (Layout.spaced preamble first others ending).definitions)
              obtain ⟨round, run, result⟩ := Round.iterate_layout _
                (Layout.lines_spacedFile preamble first others ending) rest
              rw [arranged] at rest
              obtain ⟨round', run', result'⟩ := Round.iterate_layout _
                (Layout.lines_spacedFile preamble first' others' ending) rest
              refine ⟨round :: later, round' :: later, run, run', Round.length_of_iterate run, ?_⟩
              rw [List.map_cons, List.map_cons, result, result', arranged]

/-- A definition whose body holds the first line of the next. -/
def nestingSite : Site (Declarations.ofHeader sampleHeader) where
  head := ⟨"A::f".toList, []⟩
  signature := "A::f()".toList
  first := "int A::f() \x7b".toList
  body := ["int A::g() \x7b".toList, "\x7d".toList, "\x7d".toList]
  plain := by decide
  begins := by decide +kernel
  closes := by decide
  declared := by decide +kernel

def emptySite : Site (Declarations.ofHeader sampleHeader) where
  head := ⟨"A::g".toList, []⟩
  signature := "A::g()".toList
  first := "int A::g() \x7b".toList
  body := ["\x7d".toList]
  plain := by decide
  begins := by decide +kernel
  closes := by decide
  declared := by decide +kernel

def includeLine : Gap (Declarations.ofHeader sampleHeader) :=
  Gap.ofLine "#x".toList (by decide) (by decide +kernel)

def noEnding : Margin (Declarations.ofHeader sampleHeader) := Gap.none.toMargin

theorem iterate_permuted_definitions_nesting :
    ∃ rounds rounds',
      Round.iterate (Declarations.ofHeader sampleHeader) 2
        "#x\nint A::f() \x7b\nint A::g() \x7b\n\x7d\n\x7d\n\nint A::g() \x7b\n\x7d\n".toList =
          .ok rounds ∧
      Round.iterate (Declarations.ofHeader sampleHeader) 2
        "#x\nint A::g() \x7b\n\x7d\n\nint A::f() \x7b\nint A::g() \x7b\n\x7d\n\x7d\n".toList =
          .ok rounds' ∧
      rounds.length = 2 ∧ rounds.map Round.result = rounds'.map Round.result := by
  have text : "#x\nint A::f() \x7b\nint A::g() \x7b\n\x7d\n\x7d\n\nint A::g() \x7b\n\x7d\n".toList =
      spacedFile includeLine.lines ([nestingSite, emptySite].map Site.lines) noEnding.lines := by
    decide +kernel
  have text' :
      "#x\nint A::g() \x7b\n\x7d\n\nint A::f() \x7b\nint A::g() \x7b\n\x7d\n\x7d\n".toList =
      spacedFile includeLine.lines ([emptySite, nestingSite].map Site.lines) noEnding.lines := by
    decide +kernel
  have opensOne : ∀ site ∈ [nestingSite, emptySite], braceBalance site.first = 1 := by
    decide +kernel
  have distinct : ([nestingSite, emptySite].map Site.signature).Nodup := by
    decide +kernel
  have harmless : ∀ line ∈ includeLine.lines, beginsDefinition line = true →
      ∀ site ∈ [nestingSite, emptySite], ¬ line <+: site.first := by
    decide +kernel
  have swapped : [nestingSite, emptySite].Perm [emptySite, nestingSite] := List.Perm.swap ..
  rw [text, text']
  exact iterate_permuted_definitions sampleHeader includeLine noEnding swapped opensOne distinct
    harmless 2

end HeaderOrder
