import HeaderOrder.Proofs.Lines
import HeaderOrder.Proofs.Matching
import HeaderOrder.Proofs.Scanning

/-!
# Layouts of an implementation file

Seen from the declarations of a header, an implementation file is a sequence of definitions of
declared functions, the *sites*, with *gaps* before and between them and a *margin* after the
last.  A gap may hold anything that the scanner passes without finding a declared function and
without being left inside a block; the margin may end inside one.  Each part carries the proof
that it is what it claims to be, so a file that is put together from such parts is scanned part by
part.

Two facts tie layouts to the program.  Every file has a layout, and the definitions that are found
in a file are the sites of any layout of it.
-/

namespace HeaderOrder

/-- Lines in which the scanner finds no declared function. -/
structure Margin (declarations : Declarations) where
  lines : List Text
  plain : ∀ line ∈ lines, '\n' ∉ line
  foreign : ∀ index, ∀ block ∈ (Scanner.outside.run index lines).2,
    declarations.signatureFor block.head.name block.head.params = .ok none

/-- Lines in which the scanner finds no declared function, and after which it is in no block. -/
structure Gap (declarations : Declarations) extends Margin declarations where
  closed : ∀ index, (Scanner.outside.run index lines).1 = .outside

/-- The lines of one definition of a declared function. -/
structure Site (declarations : Declarations) where
  head : Head
  signature : Text
  first : Text
  body : List Text
  plain : ∀ line ∈ first :: body, '\n' ∉ line
  begins : Head.ofLine? first = some head
  closes : Closes 1 body
  declared : declarations.signatureFor head.name head.params = .ok (some signature)

variable {declarations : Declarations}

theorem Definition.ofBlocks_foreign {blocks : List Block}
    (foreign : ∀ block ∈ blocks,
      declarations.signatureFor block.head.name block.head.params = .ok none)
    (rest : List Block) : ofBlocks declarations (blocks ++ rest) = ofBlocks declarations rest := by
  induction blocks with
  | nil => rfl
  | cons block others ih =>
      have later := ih fun other member => foreign other (List.mem_cons_of_mem _ member)
      rw [List.cons_append, ofBlocks, foreign block (List.mem_cons_self ..), later]
      cases ofBlocks declarations rest with
      | error error => rfl
      | ok definitions => rfl

/-- The definition in a block, if the block belongs to a declaration. -/
def Definition.ofBlock? (declarations : Declarations) (block : Block) : Option Definition :=
  (declarations.signatureFor block.head.name block.head.params).toOption.join.map (ofBlock block)

/-- Where every block can be matched, the definitions are those of the blocks that belong to a
declaration. -/
theorem Definition.ofBlocks_eq
    (decided : ∀ name params, ∃ found, declarations.signatureFor name params = .ok found)
    (blocks : List Block) :
    ofBlocks declarations blocks = .ok (blocks.filterMap (ofBlock? declarations)) := by
  induction blocks with
  | nil => rfl
  | cons block rest ih =>
      obtain ⟨found, answered⟩ := decided block.head.name block.head.params
      have here : ofBlock? declarations block = found.map (ofBlock block) := by
        rw [ofBlock?, answered]
        rfl
      rw [ofBlocks, answered, ih, List.filterMap_cons, here]
      cases found with
      | none => rfl
      | some signature => rfl

namespace Gap

theorem run_append (gap : Gap declarations) (index : Nat) (rest : List Text) :
    Scanner.outside.run index (gap.lines ++ rest) =
      ((Scanner.outside.run (index + gap.lines.length) rest).1,
        (Scanner.outside.run index gap.lines).2 ++
          (Scanner.outside.run (index + gap.lines.length) rest).2) := by
  rw [Scanner.run_append, gap.closed]

def none : Gap declarations where
  lines := []
  plain := nofun
  foreign := nofun
  closed _ := rfl

def blank : Gap declarations where
  lines := [[]]
  plain line member := by
    rw [List.mem_singleton.1 member]
    exact List.not_mem_nil
  foreign _ block member := by
    simp [Scanner.run, Scanner.step] at member
  closed _ := by
    simp [Scanner.run, Scanner.step]

/-- The lines of a gap, and then those of a margin. -/
def before (gap : Gap declarations) (margin : Margin declarations) : Margin declarations where
  lines := gap.lines ++ margin.lines
  plain line member := (List.mem_append.1 member).elim (gap.plain line) (margin.plain line)
  foreign index block member := by
    rw [run_append] at member
    rcases List.mem_append.1 member with inGap | inMargin
    · exact gap.foreign index block inGap
    · exact margin.foreign _ block inMargin

def append (left right : Gap declarations) : Gap declarations where
  toMargin := left.before right.toMargin
  closed index := by
    rw [before, run_append]
    exact right.closed _

instance : Append (Gap declarations) := ⟨append⟩

@[simp] theorem lines_none : (none : Gap declarations).lines = [] := rfl

@[simp] theorem lines_blank : (blank : Gap declarations).lines = [[]] := rfl

@[simp] theorem lines_before (gap : Gap declarations) (margin : Margin declarations) :
    (gap.before margin).lines = gap.lines ++ margin.lines := rfl

@[simp] theorem lines_append (left right : Gap declarations) :
    (left ++ right).lines = left.lines ++ right.lines := rfl

/-- A line that holds no head. -/
def ofLine (line : Text) (plain : '\n' ∉ line) (headless : Head.ofLine? line = Option.none) :
    Gap declarations where
  lines := [line]
  plain other member := by
    rw [List.mem_singleton.1 member]
    exact plain
  foreign _ block member := by
    simp [Scanner.run, Scanner.step, headless] at member
  closed _ := by
    simp [Scanner.run, Scanner.step, headless]

end Gap

/-- A head and the lines that close its block are read as that block. -/
theorem Scanner.run_outside_of_closes {first : Text} {head : Head} {body : List Text}
    (begins : Head.ofLine? first = some head) (closes : Closes 1 body) (index : Nat) :
    Scanner.outside.run index (first :: body) = (.outside, [⟨index, head, first :: body⟩]) := by
  simp only [Scanner.run, Scanner.step, begins]
  rw [Scanner.run_inside_of_closes closes]
  rfl

/-- The definition of a function that the header does not declare. -/
def Gap.ofBlock (first : Text) (body : List Text) (head : Head)
    (plain : ∀ line ∈ first :: body, '\n' ∉ line) (begins : Head.ofLine? first = some head)
    (closes : Closes 1 body)
    (undeclared : declarations.signatureFor head.name head.params = .ok Option.none) :
    Gap declarations where
  lines := first :: body
  plain := plain
  foreign index block member := by
    rw [Scanner.run_outside_of_closes begins closes] at member
    rw [List.mem_singleton.1 member]
    exact undeclared
  closed index := by
    rw [Scanner.run_outside_of_closes begins closes]

/-- A head whose block never ends, with all that follows it. -/
def Margin.ofOpen (first : Text) (rest : List Text) (head : Head)
    (plain : ∀ line ∈ first :: rest, '\n' ∉ line) (begins : Head.ofLine? first = some head)
    (stays : ∀ block index, ((Scanner.inside block 1).run index rest).2 = []) :
    Margin declarations where
  lines := first :: rest
  plain := plain
  foreign index block member := by
    simp only [Scanner.run, Scanner.step, begins, stays] at member
    cases member

namespace Site

def lines (site : Site declarations) : List Text :=
  site.first :: site.body

def text (site : Site declarations) : Text :=
  Text.unlines site.lines

/-- The definition at a site whose first line has the given index. -/
def definition (site : Site declarations) (index : Nat) : Definition :=
  ⟨site.head.name, site.signature, site.text, index⟩

theorem lines_text (site : Site declarations) : Text.lines site.text = site.lines :=
  Text.lines_unlines site.plain (List.cons_ne_nil _ _)

theorem run_append (site : Site declarations) (index : Nat) (rest : List Text) :
    Scanner.outside.run index (site.lines ++ rest) =
      ((Scanner.outside.run (index + site.lines.length) rest).1,
        ⟨index, site.head, site.lines⟩ ::
          (Scanner.outside.run (index + site.lines.length) rest).2) := by
  have alone : Scanner.outside.run index site.lines =
      (.outside, [⟨index, site.head, site.lines⟩]) :=
    Scanner.run_outside_of_closes site.begins site.closes index
  rw [Scanner.run_append, alone]
  rfl

end Site

/-- A file as gaps and sites in turn, and a margin at the end. -/
structure Layout (declarations : Declarations) where
  stretches : List (Gap declarations × Site declarations)
  margin : Margin declarations

namespace Layout

/-- The lines of a gap and the site after it. -/
def stretchLines (stretch : Gap declarations × Site declarations) : List Text :=
  stretch.1.lines ++ stretch.2.lines

def lines (layout : Layout declarations) : List Text :=
  layout.stretches.flatMap stretchLines ++ layout.margin.lines

def sites (layout : Layout declarations) : List (Site declarations) :=
  layout.stretches.map (·.2)

/-- The definitions at the sites, if the lines before them are so many. -/
def definitionsFrom (index : Nat) :
    List (Gap declarations × Site declarations) → List Definition
  | [] => []
  | (gap, site) :: rest =>
      site.definition (index + gap.lines.length) ::
        definitionsFrom (index + gap.lines.length + site.lines.length) rest

def definitions (layout : Layout declarations) : List Definition :=
  definitionsFrom 0 layout.stretches

/-! ## The definitions that are found are the sites -/

theorem ofBlocks_run (stretches : List (Gap declarations × Site declarations))
    (margin : Margin declarations) (index : Nat) :
    Definition.ofBlocks declarations
        (Scanner.outside.run index (stretches.flatMap stretchLines ++ margin.lines)).2 =
      .ok (definitionsFrom index stretches) := by
  induction stretches generalizing index with
  | nil =>
      have none := Definition.ofBlocks_foreign (margin.foreign index) []
      rw [List.append_nil] at none
      exact none
  | cons stretch rest ih =>
      obtain ⟨gap, site⟩ := stretch
      rw [List.flatMap_cons, stretchLines, List.append_assoc, List.append_assoc, gap.run_append,
        site.run_append, Definition.ofBlocks_foreign (gap.foreign index), Definition.ofBlocks,
        site.declared, ih]
      rfl

/-- The definitions found in a file are the sites of its layout. -/
theorem ofSource_eq (layout : Layout declarations) {source : Text}
    (cut : layout.lines = Text.lines source) :
    Definition.ofSource declarations source = .ok layout.definitions := by
  rw [Definition.ofSource, blocksOf, ← cut]
  exact ofBlocks_run layout.stretches layout.margin 0

/-! ## Every file has a layout -/

/-- A layout with a gap put in front of it. -/
def after (gap : Gap declarations) (layout : Layout declarations) : Layout declarations :=
  match layout.stretches with
  | [] => ⟨[], gap.before layout.margin⟩
  | (next, site) :: rest => ⟨(gap ++ next, site) :: rest, layout.margin⟩

theorem lines_after (gap : Gap declarations) (layout : Layout declarations) :
    (after gap layout).lines = gap.lines ++ layout.lines := by
  obtain ⟨stretches, margin⟩ := layout
  cases stretches with
  | nil => rfl
  | cons stretch rest => simp [after, lines, stretchLines]

theorem exists_of_lines
    (decided : ∀ name params, ∃ found, declarations.signatureFor name params = .ok found)
    (cut : List Text) (plain : ∀ line ∈ cut, '\n' ∉ line) :
    ∃ layout : Layout declarations, layout.lines = cut := by
  induction cut using Scanner.stretch_induction with
  | nil => exact ⟨⟨[], Gap.none.toMargin⟩, rfl⟩
  | headless line rest begins ih =>
      obtain ⟨layout, same⟩ := ih fun other member => plain other (List.mem_cons_of_mem _ member)
      refine ⟨after (Gap.ofLine line (plain line (List.mem_cons_self ..)) begins) layout, ?_⟩
      rw [lines_after, same]
      rfl
  | unclosed first rest head begins stays =>
      exact ⟨⟨[], Margin.ofOpen first rest head plain begins
        fun block index => (stays block index).2⟩, rfl⟩
  | block first body rest head begins closes ih =>
      have plainBlock : ∀ line ∈ first :: body, '\n' ∉ line := fun line member =>
        plain line (List.mem_append_left rest member)
      obtain ⟨layout, same⟩ := ih fun line member =>
        plain line (List.mem_append_right (first :: body) member)
      obtain ⟨found, decision⟩ := decided head.name head.params
      cases found with
      | none =>
          refine ⟨after (Gap.ofBlock first body head plainBlock begins closes decision) layout, ?_⟩
          rw [lines_after, same]
          rfl
      | some signature =>
          let site : Site declarations :=
            ⟨head, signature, first, body, plainBlock, begins, closes, decision⟩
          refine ⟨⟨(Gap.none, site) :: layout.stretches, layout.margin⟩, ?_⟩
          rw [← same]
          simp [lines, stretchLines, Site.lines, site]

/-- Every file has a layout by the declarations of a header. -/
theorem exists_of_source (header source : Text) :
    ∃ layout : Layout (Declarations.ofHeader header), layout.lines = Text.lines source :=
  exists_of_lines (Declarations.exists_signatureFor header) (Text.lines source)
    fun _ member => Text.newline_notMem_of_mem_lines member

/-! ## What is at a site -/

theorem run_lines (stretches : List (Gap declarations × Site declarations))
    (margin : Margin declarations) (index : Nat) :
    ∃ later, (Scanner.outside.run index (stretches.flatMap stretchLines ++ margin.lines)).1 =
      (Scanner.outside.run later margin.lines).1 := by
  induction stretches generalizing index with
  | nil => exact ⟨index, rfl⟩
  | cons stretch rest ih =>
      obtain ⟨gap, site⟩ := stretch
      rw [List.flatMap_cons, stretchLines, List.append_assoc, List.append_assoc, gap.run_append,
        site.run_append]
      exact ih _

/-- The scanner ends in no block exactly if the margin is closed as a gap is. -/
theorem run_eq_outside (layout : Layout declarations) :
    (Scanner.outside.run 0 layout.lines).1 = .outside ↔
      ∀ index, (Scanner.outside.run index layout.margin.lines).1 = .outside := by
  obtain ⟨later, same⟩ := run_lines layout.stretches layout.margin 0
  rw [lines, same]
  constructor
  · intro outside index
    rw [Scanner.run_outside_eq_outside] at outside ⊢
    exact outside
  · intro outside
    exact outside later

end Layout

end HeaderOrder
