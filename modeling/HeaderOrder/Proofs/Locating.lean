import HeaderOrder.Proofs.Regular

/-!
# Definitions are located where they were found

Definitions are found by one scan of a file and located again by another search, line by line and
by a test of prefixes.  In a locatable layout both agree.  The search for the definitions is an
induction over the sites, with `Site.Searched` as the invariant: when the search for one of them
starts, every line before it is either covered by the range of an earlier one or harmless, which
means that it cannot be taken for the first line of any site.
-/

namespace HeaderOrder

/-- The range of the lines that a definition's text was cut from. -/
def Definition.range (definition : Definition) : Span :=
  ⟨definition.line.toNat, definition.line.toNat + (Text.lines definition.text).length⟩

theorem covered_append_singleton (ranges : List Span) (range : Span) (index : Nat) :
    covered (ranges ++ [range]) index =
      (covered ranges index || (decide (range.start ≤ index) && decide (index < range.stop))) := by
  simp [covered]

theorem mem_of_mem_slice {span : Span} {line : Text} {lines : List Text}
    (member : line ∈ span.slice lines) : line ∈ lines :=
  List.mem_of_mem_drop (List.mem_of_mem_take member)

namespace Site

variable {declarations : Declarations}

theorem range_definition (site : Site declarations) (index : Nat) :
    (site.definition index).range = ⟨index, index + site.lines.length⟩ := by
  have text : Text.lines (site.definition index).text = site.lines := site.lines_text
  rw [Definition.range, text]
  rfl

/-- A line that begins a site's text begins its first line. -/
theorem isPrefix_text (site : Site declarations) {line : Text} (plain : '\n' ∉ line) :
    line <+: site.text ↔ line <+: site.first :=
  Text.isPrefix_unlines_cons site.first site.body plain

/-- A line that cannot be taken for the first line of any of the sites. -/
def Harmless (sites : List (Site declarations)) (line : Text) : Prop :=
  beginsDefinition line = true → ∀ site ∈ sites, ¬ line <+: site.first

/-- The state of the search when it has come past some lines: each of them is covered by the ranges
located so far or is harmless, and these ranges reach no further. -/
structure Searched (sites : List (Site declarations)) (passed : List Text) (ranges : List Span) :
    Prop where
  plain : ∀ line ∈ passed, '\n' ∉ line
  skipped : ∀ entry ∈ passed.zipIdx, covered ranges entry.2 = true ∨ Harmless sites entry.1
  clear : ∀ index, passed.length ≤ index → covered ranges index = false

/-- The search goes on past a gap of harmless lines. -/
theorem Searched.gap {sites : List (Site declarations)} {passed : List Text} {ranges : List Span}
    (searched : Searched sites passed ranges) (gap : Gap declarations)
    (harmless : ∀ line ∈ gap.lines, Harmless sites line) :
    Searched sites (passed ++ gap.lines) ranges where
  plain := by
    intro line member
    exact (List.mem_append.1 member).elim (searched.plain line) (gap.plain line)
  skipped := by
    intro entry member
    rw [List.zipIdx_append] at member
    cases List.mem_append.1 member with
    | inl before => exact searched.skipped entry before
    | inr inGap => exact Or.inr (harmless entry.1 (List.fst_mem_of_mem_zipIdx inGap))
  clear := by
    intro index beyond
    rw [List.length_append] at beyond
    exact searched.clear index (Nat.le_of_add_right_le beyond)

/-- The search goes on past a site when its range is located. -/
theorem Searched.site {sites : List (Site declarations)} {passed : List Text} {ranges : List Span}
    (searched : Searched sites passed ranges) (site : Site declarations) :
    Searched sites (passed ++ site.lines) (ranges ++ [(site.definition passed.length).range]) where
  plain := by
    intro line member
    exact (List.mem_append.1 member).elim (searched.plain line) (site.plain line)
  skipped := by
    intro entry member
    rw [covered_append_singleton, range_definition, Bool.or_eq_true]
    rw [List.zipIdx_append, Nat.zero_add] at member
    cases List.mem_append.1 member with
    | inl before => exact (searched.skipped entry before).imp_left Or.inl
    | inr inSite =>
        have bounds := List.mem_zipIdx inSite
        refine Or.inl (Or.inr ?_)
        simp only [Bool.and_eq_true, decide_eq_true_eq]
        exact ⟨bounds.1, bounds.2.1⟩
  clear := by
    intro index beyond
    rw [List.length_append] at beyond
    rw [covered_append_singleton, range_definition,
      searched.clear index (Nat.le_of_add_right_le beyond), Bool.false_or, Bool.and_eq_false_iff]
    exact Or.inr (decide_eq_false (Nat.not_lt.2 beyond))

/-- The search for a site passes over what is covered or harmless and stops at the site. -/
theorem headLine?_eq {sites : List (Site declarations)} {site : Site declarations}
    (listed : site ∈ sites) {passed : List Text} {ranges : List Span}
    (searched : Searched sites passed ranges) (rest : List Text) :
    headLine? (passed ++ (site.lines ++ rest)) ranges site.text = some passed.length := by
  have nothingBefore : passed.zipIdx.find? (fun entry =>
      entry.1.isPrefixOf site.text && !covered ranges entry.2 && (Head.ofLine? entry.1).isSome) =
        none := by
    apply List.find?_eq_none.2
    intro entry member accepted
    have inPassed : entry.1 ∈ passed := List.fst_mem_of_mem_zipIdx member
    simp only [Bool.and_eq_true, Bool.not_eq_true', List.isPrefixOf_iff_prefix,
      Head.isSome_ofLine?] at accepted
    rcases searched.skipped entry member with taken | harmless
    · rw [taken] at accepted
      exact Bool.noConfusion accepted.1.2
    · have begins := (site.isPrefix_text (searched.plain entry.1 inPassed)).1 accepted.1.1
      exact harmless accepted.2 site listed begins
  have acceptsFirst : (site.first.isPrefixOf site.text && !covered ranges passed.length &&
      (Head.ofLine? site.first).isSome) = true := by
    have begins : site.first <+: site.text :=
      (site.isPrefix_text (site.plain site.first (List.mem_cons_self ..))).2 List.prefix_rfl
    rw [List.isPrefixOf_iff_prefix.2 begins, searched.clear _ Nat.le.refl, site.begins]
    rfl
  rw [headLine?, List.zipIdx_append, List.find?_append, nothingBefore, Nat.zero_add, lines,
    List.cons_append, List.zipIdx_cons, Option.none_or, List.find?_cons]
  simp only [acceptsFirst]
  rfl

/-- The end of a site is found if its first line opens one brace. -/
theorem rangeFrom_eq (site : Site declarations) (opensOne : braceBalance site.first = 1)
    (passed rest : List Text) :
    rangeFrom (passed ++ (site.lines ++ rest)) passed.length =
      ⟨passed.length, passed.length + site.lines.length⟩ := by
  have depth : (0 : Int) + braceBalance site.first = 1 := by rw [opensOne]; rfl
  have length : extent 0 (site.lines ++ rest) = site.lines.length := by
    rw [lines, List.cons_append, extent]
    simp only [depth]
    rw [if_neg (by decide), extent_append_of_closes site.closes, List.length_cons, Nat.add_comm]
  rw [rangeFrom, List.drop_left, length]

end Site

namespace Layout

variable {declarations : Declarations}

theorem plain (layout : Layout declarations) : ∀ line ∈ layout.lines, '\n' ∉ line := by
  intro line member
  rcases List.mem_append.1 member with inStretches | inMargin
  · obtain ⟨stretch, _, inStretch⟩ := List.mem_flatMap.1 inStretches
    rcases List.mem_append.1 inStretch with inGap | inSite
    · exact stretch.1.plain line inGap
    · exact stretch.2.plain line inSite
  · exact layout.margin.plain line inMargin

theorem locateAll_stretches {sites : List (Site declarations)}
    (opensOne : ∀ site ∈ sites, braceBalance site.first = 1)
    (stretches : List (Gap declarations × Site declarations)) (rest : List Text)
    (listed : ∀ stretch ∈ stretches, stretch.2 ∈ sites)
    (harmless : ∀ stretch ∈ stretches, ∀ line ∈ stretch.1.lines, Site.Harmless sites line)
    {passed : List Text} {ranges : List Span} (searched : Site.Searched sites passed ranges) :
    locateAll (passed ++ (stretches.flatMap stretchLines ++ rest)) ranges
        (definitionsFrom passed.length stretches) =
      ranges ++ (definitionsFrom passed.length stretches).map Definition.range := by
  induction stretches generalizing passed ranges with
  | nil => simp [definitionsFrom, locateAll]
  | cons stretch others ih =>
      obtain ⟨gap, site⟩ := stretch
      have here : site ∈ sites := listed (gap, site) (List.mem_cons_self ..)
      have beforeSite := searched.gap gap (harmless (gap, site) (List.mem_cons_self ..))
      have found := Site.headLine?_eq here beforeSite (others.flatMap stretchLines ++ rest)
      have range := site.rangeFrom_eq (opensOne site here) (passed ++ gap.lines)
        (others.flatMap stretchLines ++ rest)
      rw [← Site.range_definition] at range
      have later := ih (fun stretch member => listed stretch (List.mem_cons_of_mem _ member))
        (fun stretch member => harmless stretch (List.mem_cons_of_mem _ member))
        (beforeSite.site site)
      have shape : passed ++ (((gap, site) :: others).flatMap stretchLines ++ rest) =
          (passed ++ gap.lines) ++ (site.lines ++ (others.flatMap stretchLines ++ rest)) := by
        simp [stretchLines]
      have next : ((passed ++ gap.lines) ++ site.lines).length =
          (passed ++ gap.lines).length + site.lines.length := List.length_append
      have text : (site.definition (passed ++ gap.lines).length).text = site.text := rfl
      rw [List.append_assoc (passed ++ gap.lines), next] at later
      rw [shape, definitionsFrom, ← List.length_append, locateAll, text, found]
      simp only
      rw [range, later, List.map_cons, List.append_assoc, List.singleton_append]

/-- A layout whose sites are met in their order when they are searched by their first lines.  What
stands in bodies and in the margin does not matter. -/
structure Locatable (layout : Layout declarations) : Prop where
  opensOne : ∀ site ∈ layout.sites, braceBalance site.first = 1
  harmless : ∀ stretch ∈ layout.stretches, ∀ line ∈ stretch.1.lines,
    Site.Harmless layout.sites line

theorem Findable.locatable {layout : Layout declarations} (findable : layout.Findable) :
    layout.Locatable where
  opensOne := findable.opensOne
  harmless := by
    intro stretch member line inGap begins
    apply findable.noDecoy line ?_ begins
    apply List.mem_append_left
    exact List.mem_flatMap.2 ⟨stretch, member, List.mem_append_left _ inGap⟩

/-- In a locatable layout every definition is located at the lines that it was cut from. -/
theorem Locatable.locateAll_definitions {layout : Layout declarations}
    (locatable : layout.Locatable) :
    locateAll layout.lines [] layout.definitions = layout.definitions.map Definition.range := by
  have start : Site.Searched layout.sites [] [] :=
    ⟨List.forall_mem_nil _, List.forall_mem_nil _, fun _ _ => rfl⟩
  have located := locateAll_stretches locatable.opensOne layout.stretches layout.margin.lines
    (fun stretch member => List.mem_map_of_mem member) locatable.harmless start
  simpa [lines, definitions] using located

theorem locateAll_definitions {layout : Layout declarations} (findable : layout.Findable) :
    locateAll layout.lines [] layout.definitions = layout.definitions.map Definition.range :=
  findable.locatable.locateAll_definitions

end Layout

end HeaderOrder
