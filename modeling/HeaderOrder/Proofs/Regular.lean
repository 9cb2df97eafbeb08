import HeaderOrder.Proofs.Layout

/-!
# Regular files

Three conditions under which a file can be arranged without harm.  Each definition's first line
opens exactly one brace; no other line could be taken for the first line of a definition; and the
file does not end inside a block.  They are stated for a file and a list of definitions, by line
numbers.  On a layout they speak of sites and gaps instead, and no line number is left.
-/

namespace HeaderOrder

/-- The line of a file at which a definition starts. -/
def Definition.startLine (source : Text) (definition : Definition) : Text :=
  (Text.lines source).getD definition.line.toNat []

/-- The lines at which none of the definitions starts.  The first line has the given index. -/
def linesElsewhere (definitions : List Definition) (index : Nat) (lines : List Text) : List Text :=
  ((lines.zipIdx index).filter fun entry =>
    definitions.all fun definition => definition.line != entry.2).map (·.1)

/-- Each definition's first line opens one brace more than it closes. -/
def OpensOneBrace (source : Text) (definitions : List Definition) : Prop :=
  ∀ definition ∈ definitions, braceBalance (definition.startLine source) = 1

/-- No line that can begin a definition, and begins none of these, begins the first line of one. -/
def NoDecoy (source : Text) (definitions : List Definition) : Prop :=
  ∀ line ∈ linesElsewhere definitions 0 (Text.lines source), beginsDefinition line = true →
    ∀ definition ∈ definitions, ¬ line <+: definition.startLine source

/-- The scan of a file ends outside of a block. -/
def EndsOutside (source : Text) : Prop :=
  (Scanner.outside.run 0 (Text.lines source)).1 = .outside

instance (source : Text) (definitions : List Definition) :
    Decidable (OpensOneBrace source definitions) :=
  inferInstanceAs (Decidable (∀ definition ∈ definitions, _ = _))

instance (source : Text) (definitions : List Definition) : Decidable (NoDecoy source definitions) :=
  inferInstanceAs (Decidable (∀ line ∈ linesElsewhere definitions 0 (Text.lines source), _ → _))

instance (source : Text) : Decidable (EndsOutside source) :=
  inferInstanceAs (Decidable (_ = _))

/-! ## Lines elsewhere -/

theorem linesElsewhere_append (definitions : List Definition) (index : Nat)
    (left right : List Text) :
    linesElsewhere definitions index (left ++ right) =
      linesElsewhere definitions index left ++
        linesElsewhere definitions (index + left.length) right := by
  simp only [linesElsewhere, List.zipIdx_append, List.filter_append, List.map_append]

/-- Where no definition starts, every line is elsewhere. -/
theorem linesElsewhere_eq_self {definitions : List Definition} {index : Nat} {lines : List Text}
    (apart : ∀ definition ∈ definitions,
      definition.line < index ∨ ((index + lines.length : Nat) : Int) ≤ definition.line) :
    linesElsewhere definitions index lines = lines := by
  have kept : (lines.zipIdx index).filter (fun entry =>
      definitions.all fun definition => definition.line != entry.2) = lines.zipIdx index := by
    apply List.filter_eq_self.2
    intro entry member
    have bounds := List.mem_zipIdx member
    apply List.all_eq_true.2
    intro definition listed
    have place := apart definition listed
    simp only [bne_iff_ne, ne_eq]
    omega
  rw [linesElsewhere, kept]
  exact List.zipIdx_map_fst index lines

theorem linesElsewhere_singleton_of_mem {definitions : List Definition} (definition : Definition)
    (listed : definition ∈ definitions) {index : Nat} (starts : definition.line = index)
    (line : Text) : linesElsewhere definitions index [line] = [] := by
  have dropped : (definitions.all fun other => other.line != (index : Int)) = false := by
    apply List.all_eq_false.2
    exact ⟨definition, listed, by simp [starts]⟩
  simp [linesElsewhere, dropped]

namespace Layout

variable {declarations : Declarations}

/-- The lines of a layout that are not the first line of a site. -/
def otherLines (layout : Layout declarations) : List Text :=
  layout.stretches.flatMap (fun stretch => stretch.1.lines ++ stretch.2.body) ++
    layout.margin.lines

theorem le_line_of_mem_definitionsFrom {index : Nat}
    {stretches : List (Gap declarations × Site declarations)} {definition : Definition}
    (member : definition ∈ definitionsFrom index stretches) : (index : Int) ≤ definition.line := by
  induction stretches generalizing index with
  | nil => cases member
  | cons stretch rest ih =>
      cases List.mem_cons.1 member with
      | inl here =>
          subst here
          simp only [Site.definition]
          omega
      | inr later =>
          have bound := ih later
          omega

/-- Of a gap and a site, only the first line of the site is dropped, if every definition starts
before the gap, at the site, or after it. -/
theorem linesElsewhere_stretch {definitions : List Definition} {index : Nat}
    {gap : Gap declarations} {site : Site declarations}
    (here : site.definition (index + gap.lines.length) ∈ definitions)
    (places : ∀ definition ∈ definitions, definition.line < index ∨
      definition.line = (index + gap.lines.length : Nat) ∨
        ((index + gap.lines.length + site.lines.length : Nat) : Int) ≤ definition.line) :
    linesElsewhere definitions index (stretchLines (gap, site)) = gap.lines ++ site.body := by
  have gapKept : linesElsewhere definitions index gap.lines = gap.lines := by
    apply linesElsewhere_eq_self
    intro definition member
    have place := places definition member
    omega
  have firstDropped : linesElsewhere definitions (index + gap.lines.length) [site.first] = [] :=
    linesElsewhere_singleton_of_mem _ here rfl site.first
  have bodyKept : linesElsewhere definitions (index + gap.lines.length + 1) site.body =
      site.body := by
    apply linesElsewhere_eq_self
    intro definition member
    have place := places definition member
    simp only [Site.lines, List.length_cons] at place
    omega
  have split : stretchLines (gap, site) = gap.lines ++ ([site.first] ++ site.body) := rfl
  rw [split, linesElsewhere_append, linesElsewhere_append, gapKept, firstDropped,
    List.length_singleton, bodyKept, List.nil_append]

theorem linesElsewhere_stretches (stretches : List (Gap declarations × Site declarations))
    (margin : Margin declarations) (index : Nat) (earlier : List Definition)
    (before : ∀ definition ∈ earlier, definition.line < index) :
    linesElsewhere (earlier ++ definitionsFrom index stretches) index
        (stretches.flatMap stretchLines ++ margin.lines) =
      stretches.flatMap (fun stretch => stretch.1.lines ++ stretch.2.body) ++ margin.lines := by
  induction stretches generalizing index earlier with
  | nil =>
      apply linesElsewhere_eq_self
      intro definition member
      rw [definitionsFrom, List.append_nil] at member
      exact Or.inl (before definition member)
  | cons stretch rest ih =>
      obtain ⟨gap, site⟩ := stretch
      let here := site.definition (index + gap.lines.length)
      let next := index + gap.lines.length + site.lines.length
      have places : ∀ definition ∈ earlier ++ here :: definitionsFrom next rest,
          definition.line < index ∨ definition.line = (index + gap.lines.length : Nat) ∨
            (next : Int) ≤ definition.line := by
        intro definition member
        rcases List.mem_append.1 member with old | new
        · exact Or.inl (before definition old)
        · rcases List.mem_cons.1 new with atSite | later
          · subst atSite
            exact Or.inr (Or.inl rfl)
          · exact Or.inr (Or.inr (le_line_of_mem_definitionsFrom later))
      have stretchKept := linesElsewhere_stretch
        (List.mem_append_right earlier (List.mem_cons_self ..)) places
      have passed : ∀ definition ∈ earlier ++ [here], definition.line < next := by
        intro definition member
        simp only [next, Site.lines, List.length_cons]
        cases List.mem_append.1 member with
        | inl old =>
            have bound := before definition old
            omega
        | inr new =>
            rw [List.mem_singleton.1 new]
            simp only [here, Site.definition]
            omega
      have restKept := ih next (earlier ++ [here]) passed
      rw [List.append_assoc, List.singleton_append] at restKept
      have length : index + (stretchLines (gap, site)).length = next := by
        rw [stretchLines, List.length_append, ← Nat.add_assoc]
      rw [List.flatMap_cons, List.flatMap_cons, List.append_assoc, List.append_assoc,
        definitionsFrom, linesElsewhere_append, stretchKept, length, restKept]

/-- The lines at which no definition of a layout starts are those that begin no site. -/
theorem linesElsewhere_definitions (layout : Layout declarations) :
    linesElsewhere layout.definitions 0 layout.lines = layout.otherLines :=
  linesElsewhere_stretches layout.stretches layout.margin 0 [] nofun

theorem startLine_definitionsFrom (stretches : List (Gap declarations × Site declarations))
    (passed rest : List Text) {source : Text}
    (cut : passed ++ stretches.flatMap stretchLines ++ rest = Text.lines source) :
    (definitionsFrom passed.length stretches).map (Definition.startLine source) =
      stretches.map (·.2.first) := by
  induction stretches generalizing passed with
  | nil => rfl
  | cons stretch others ih =>
      obtain ⟨gap, site⟩ := stretch
      have here : (site.definition (passed.length + gap.lines.length)).startLine source =
          site.first := by
        have shape : Text.lines source =
            (passed ++ gap.lines) ++
              site.first :: (site.body ++ others.flatMap stretchLines ++ rest) := by
          rw [← cut]
          simp [stretchLines, Site.lines]
        have place : (site.definition (passed.length + gap.lines.length)).line.toNat =
            (passed ++ gap.lines).length := by
          rw [List.length_append]
          exact Int.toNat_natCast _
        rw [Definition.startLine, shape, place, List.getD_eq_getElem?_getD,
          List.getElem?_append_right (Nat.le_refl _), Nat.sub_self]
        rfl
      have later := ih (passed ++ stretchLines (gap, site)) (by rw [← cut]; simp)
      simp only [stretchLines, List.length_append, ← Nat.add_assoc] at later
      rw [definitionsFrom, List.map_cons, List.map_cons, here, later]

/-- Each definition of a layout starts at the first line of its site. -/
theorem startLine_definitions (layout : Layout declarations) {source : Text}
    (cut : layout.lines = Text.lines source) :
    layout.definitions.map (Definition.startLine source) = layout.sites.map (·.first) := by
  have starts := startLine_definitionsFrom layout.stretches [] layout.margin.lines cut
  rw [definitions, sites, List.map_map]
  exact starts

/-! ## The conditions on a layout -/

/-- A layout whose sites can all be found again by their first lines. -/
structure Findable (layout : Layout declarations) : Prop where
  opensOne : ∀ site ∈ layout.sites, braceBalance site.first = 1
  noDecoy : ∀ line ∈ layout.otherLines, beginsDefinition line = true →
    ∀ site ∈ layout.sites, ¬ line <+: site.first

theorem findable_iff (layout : Layout declarations) {source : Text}
    (cut : layout.lines = Text.lines source) :
    layout.Findable ↔
      OpensOneBrace source layout.definitions ∧ NoDecoy source layout.definitions := by
  have starts := layout.startLine_definitions cut
  have opens : OpensOneBrace source layout.definitions ↔
      ∀ site ∈ layout.sites, braceBalance site.first = 1 := by
    have mapped := congrArg (fun lines => ∀ line ∈ lines, braceBalance line = 1) starts
    simp only [List.forall_mem_map] at mapped
    exact iff_of_eq mapped
  have decoys : ∀ line, (∀ definition ∈ layout.definitions,
      ¬ line <+: definition.startLine source) ↔ ∀ site ∈ layout.sites, ¬ line <+: site.first := by
    intro line
    have mapped := congrArg (fun lines => ∀ start ∈ lines, ¬ line <+: start) starts
    simp only [List.forall_mem_map] at mapped
    exact iff_of_eq mapped
  have elsewhere := layout.linesElsewhere_definitions
  rw [cut] at elsewhere
  rw [opens, NoDecoy, elsewhere]
  simp only [decoys]
  exact ⟨fun findable => ⟨findable.opensOne, findable.noDecoy⟩,
    fun ⟨opensOne, noDecoy⟩ => ⟨opensOne, noDecoy⟩⟩

/-- The margin of a layout whose scan ends outside of a block, as a gap. -/
def lastGap (layout : Layout declarations)
    (closed : (Scanner.outside.run 0 layout.lines).1 = .outside) : Gap declarations :=
  { layout.margin with closed := layout.run_eq_outside.1 closed }

end Layout

/-! ## A regular file -/

/-- A header that declares two functions of a class. -/
def sampleHeader : Text :=
  "class A \x7b\nint g();\nint f();\n\x7d;".toList

/-- A file that defines them in the other order, with a function between them that is not
declared. -/
def sampleSource : Text :=
  "#x\nint A::f() \x7b\n\x7b\n\x7d\n\x7d\nint u() \x7b\n\x7d\nint A::g() \x7b\n\x7d\nint k;".toList

def sampleDefinitions : List Definition :=
  [⟨"A::f".toList, "A::f()".toList, "int A::f() \x7b\n\x7b\n\x7d\n\x7d".toList, 1⟩,
   ⟨"A::g".toList, "A::g()".toList, "int A::g() \x7b\n\x7d".toList, 7⟩]

theorem ofSource_sample : Definition.ofSource (Declarations.ofHeader sampleHeader) sampleSource =
    .ok sampleDefinitions := by
  decide +kernel

theorem opensOneBrace_sample : OpensOneBrace sampleSource sampleDefinitions := by
  decide +kernel

theorem noDecoy_sample : NoDecoy sampleSource sampleDefinitions := by
  decide +kernel

theorem endsOutside_sample : EndsOutside sampleSource := by
  decide +kernel

end HeaderOrder
