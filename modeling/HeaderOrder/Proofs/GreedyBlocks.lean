import HeaderOrder.Proofs.Accounting
import Mathlib.Algebra.Ring.Int.Defs

/-!
# The blocks of a file, said without a scanner

The scanner is a machine that reads line by line, but what it finds can be said by line numbers
alone.  The next block starts at the first line that can begin a definition.  It ends at the first
later line after which no brace is open, where the start counts as one open brace whatever it
holds.  The search goes on behind that line, until no line begins a definition or a block has no
end.

`GreedyCut` is this rule.  It determines the blocks, and the scanner finds exactly these; a
definition is then what stands in a block whose head belongs to a declaration.
-/

namespace HeaderOrder

/-- Whether the line with this index can begin a definition. -/
def beginsAt (lines : List Text) (index : Nat) : Bool :=
  lines[index]?.any beginsDefinition

/-- How many braces are open after the line `index`, if the earlier line `start` opens one. -/
def depthAt (lines : List Text) (start index : Nat) : Int :=
  1 + (((Span.mk (start + 1) (index + 1)).slice lines).map braceBalance).sum

/-- The first line from `position` on that can begin a definition. -/
structure NextStart (lines : List Text) (position start : Nat) : Prop where
  reached : position ≤ start
  begins : beginsAt lines start = true
  first : ∀ index, position ≤ index → index < start → beginsAt lines index = false

/-- The first line after `start` after which no brace is open. -/
structure NextEnd (lines : List Text) (start last : Nat) : Prop where
  later : start < last
  within : last < lines.length
  balanced : depthAt lines start last = 0
  first : ∀ index, start < index → index < last → depthAt lines start index ≠ 0

/-- The spans of the blocks from a line on. -/
inductive GreedyCut (lines : List Text) : Nat → List Span → Prop where
  /-- No line begins a definition any more. -/
  | noStart {position : Nat} (none : ∀ start, ¬ NextStart lines position start) :
      GreedyCut lines position []
  /-- The next block has no end. -/
  | noEnd {position start : Nat} (starts : NextStart lines position start)
      (never : ∀ last, ¬ NextEnd lines start last) : GreedyCut lines position []
  /-- The next block, and those behind its end. -/
  | block {position start last : Nat} {rest : List Span} (starts : NextStart lines position start)
      (ends : NextEnd lines start last) (later : GreedyCut lines (last + 1) rest) :
      GreedyCut lines position (⟨start, last + 1⟩ :: rest)

/-! ## The rule determines the blocks -/

section Rule

variable {lines : List Text} {position start : Nat} {spans : List Span}

theorem lt_length_of_beginsAt (begins : beginsAt lines start = true) : start < lines.length := by
  rw [beginsAt, Option.any_eq_true] at begins
  obtain ⟨line, found, -⟩ := begins
  exact (List.getElem?_eq_some_iff.1 found).1

theorem NextStart.eq {other : Nat} (left : NextStart lines position start)
    (right : NextStart lines position other) : start = other := by
  rcases Nat.lt_trichotomy start other with before | same | behind
  · have headless := right.first start left.reached before
    rw [left.begins] at headless
    cases headless
  · exact same
  · have headless := left.first other right.reached behind
    rw [right.begins] at headless
    cases headless

theorem NextEnd.eq {last other : Nat} (left : NextEnd lines start last)
    (right : NextEnd lines start other) : last = other := by
  rcases Nat.lt_trichotomy last other with before | same | behind
  · exact absurd left.balanced (right.first last left.later before)
  · exact same
  · exact absurd right.balanced (left.first other right.later behind)

/-- There is one way to cut lines into blocks. -/
theorem GreedyCut.eq {others : List Span} (left : GreedyCut lines position spans)
    (right : GreedyCut lines position others) : spans = others := by
  induction left generalizing others with
  | noStart none =>
      cases right with
      | noStart _ => rfl
      | noEnd _ _ => rfl
      | block starts _ _ => exact absurd starts (none _)
  | noEnd starts never =>
      cases right with
      | noStart _ => rfl
      | noEnd _ _ => rfl
      | block otherStarts ends _ =>
          cases starts.eq otherStarts
          exact absurd ends (never _)
  | block starts ends _ ih =>
      cases right with
      | noStart none => exact absurd starts (none _)
      | noEnd otherStarts never =>
          cases starts.eq otherStarts
          exact absurd ends (never _)
      | block otherStarts otherEnds otherLater =>
          cases starts.eq otherStarts
          cases ends.eq otherEnds
          rw [ih otherLater]

/-- A line that cannot begin a definition is passed over. -/
theorem GreedyCut.skip (headless : beginsAt lines position = false)
    (cut : GreedyCut lines (position + 1) spans) : GreedyCut lines position spans := by
  have passed : ∀ {start}, NextStart lines (position + 1) start →
      NextStart lines position start := by
    intro start starts
    refine ⟨Nat.le_of_succ_le starts.reached, starts.begins, ?_⟩
    intro index reached before
    rcases Nat.eq_or_lt_of_le reached with rfl | behind
    · exact headless
    · exact starts.first index behind before
  cases cut with
  | noStart none =>
      refine .noStart fun start starts => none start ⟨?_, starts.begins, ?_⟩
      · refine Nat.lt_of_le_of_ne starts.reached fun here => ?_
        have begins := starts.begins
        rw [← here, headless] at begins
        cases begins
      · exact fun index reached => starts.first index (Nat.le_of_succ_le reached)
  | noEnd starts never => exact .noEnd (passed starts) never
  | block starts ends later => exact .block (passed starts) ends later

/-- Every block lies in the lines that are left and has at least two of them. -/
theorem GreedyCut.bounds (cut : GreedyCut lines position spans) :
    ∀ span ∈ spans,
      position ≤ span.start ∧ span.start + 2 ≤ span.stop ∧ span.stop ≤ lines.length := by
  induction cut with
  | noStart _ => exact List.forall_mem_nil _
  | noEnd _ _ => exact List.forall_mem_nil _
  | block starts ends _ ih =>
      have reached := starts.reached
      have later := ends.later
      refine List.forall_mem_cons.2 ⟨⟨reached, Nat.succ_le_succ later, ends.within⟩, ?_⟩
      intro span member
      obtain ⟨beyond, size⟩ := ih span member
      exact ⟨by omega, size⟩

theorem GreedyCut.apart (cut : GreedyCut lines position spans) : Apart spans := by
  induction cut with
  | noStart _ => exact List.Pairwise.nil
  | noEnd _ _ => exact List.Pairwise.nil
  | block _ _ later ih =>
      exact List.pairwise_cons.2 ⟨fun span member => (later.bounds span member).1, ih⟩

/-- Behind a start without an end there is no block, whichever block the start was looked for
after. -/
theorem GreedyCut.stop_le {place : Nat} (cut : GreedyCut lines position spans)
    (resumed : place ∈ position :: spans.map Span.stop) (starts : NextStart lines place start)
    (never : ∀ last, ¬ NextEnd lines start last) : ∀ span ∈ spans, span.stop ≤ start := by
  induction cut with
  | noStart _ => exact List.forall_mem_nil _
  | noEnd _ _ => exact List.forall_mem_nil _
  | @block position first last rest blockStarts ends later ih =>
      cases List.mem_cons.1 resumed with
      | inl here =>
          subst here
          cases starts.eq blockStarts
          exact absurd ends (never last)
      | inr behind =>
          have passed : last + 1 ≤ place := by
            rcases List.mem_cons.1 behind with rfl | further
            · exact Nat.le_refl _
            · obtain ⟨span, member, rfl⟩ := List.mem_map.1 further
              have bounds := later.bounds span member
              omega
          exact List.forall_mem_cons.2 ⟨Nat.le_trans passed starts.reached, ih behind⟩

end Rule

/-! ## The scanner follows the rule -/

/-- Lines close a block exactly if the count of open braces is zero after the last of them, and
after no other. -/
theorem closes_take_iff {depth : Int} {lines : List Text} {count : Nat}
    (within : count < lines.length) :
    Closes depth (lines.take (count + 1)) ↔
      depth + ((lines.take (count + 1)).map braceBalance).sum = 0 ∧
        ∀ earlier, earlier < count →
          depth + ((lines.take (earlier + 1)).map braceBalance).sum ≠ 0 := by
  induction lines generalizing depth count with
  | nil => exact absurd within (Nat.not_lt_zero _)
  | cons line rest ih =>
      simp only [List.take_succ_cons, List.map_cons, List.sum_cons, ← Int.add_assoc, Closes]
      cases count with
      | zero => simp [Closes]
      | succ count =>
          have some : rest.take (count + 1) ≠ [] := by
            rw [ne_eq, ← List.length_eq_zero_iff, List.length_take]
            rw [List.length_cons] at within
            omega
          split
          · next zero =>
              constructor
              · intro empty
                exact absurd empty some
              · rintro ⟨-, others⟩
                exact absurd (by simpa using zero) (others 0 (Nat.zero_lt_succ _))
          · next stillOpen =>
              rw [ih (Nat.lt_of_succ_lt_succ within)]
              refine and_congr_right fun _ => ⟨?_, ?_⟩
              · intro others earlier before
                cases earlier with
                | zero => simpa using stillOpen
                | succ earlier => exact others earlier (Nat.lt_of_succ_lt_succ before)
              · intro others earlier before
                exact others (earlier + 1) (Nat.succ_lt_succ before)

theorem nextEnd_iff {lines : List Text} {start count : Nat} :
    NextEnd lines start (start + 1 + count) ↔
      count < (lines.drop (start + 1)).length ∧
        Closes 1 ((lines.drop (start + 1)).take (count + 1)) := by
  have depths : ∀ further, depthAt lines start (start + 1 + further) =
      1 + (((lines.drop (start + 1)).take (further + 1)).map braceBalance).sum := by
    intro further
    rw [depthAt, Span.slice, Nat.add_assoc (start + 1), Nat.add_sub_cancel_left]
  constructor
  · intro ends
    have within : count < (lines.drop (start + 1)).length := by
      have bound := ends.within
      rw [List.length_drop]
      omega
    refine ⟨within, (closes_take_iff within).2 ⟨?_, ?_⟩⟩
    · rw [← depths]
      exact ends.balanced
    · intro earlier before
      rw [← depths]
      exact ends.first _ (by omega) (by omega)
  · rintro ⟨within, closes⟩
    obtain ⟨zero, others⟩ := (closes_take_iff within).1 closes
    rw [List.length_drop] at within
    refine ⟨by omega, by omega, (depths count).trans zero, ?_⟩
    intro index behind before
    obtain ⟨earlier, rfl⟩ := Nat.exists_eq_add_of_le (Nat.succ_le_of_lt behind)
    rw [Nat.succ_eq_add_one, depths]
    exact others earlier (by omega)

/-- The lines of a block in the file. -/
def Block.span (block : Block) : Span :=
  ⟨block.start, block.start + block.lines.length⟩

section Run

variable {passed rest body : List Text} {first : Text} {head : Head}

theorem Scanner.run_headless (headless : Head.ofLine? first = none) (index : Nat) :
    (Scanner.outside.run index (first :: rest)).2 = (Scanner.outside.run (index + 1) rest).2 := by
  simp [Scanner.run, Scanner.step, headless]

theorem Scanner.run_unclosed (begins : Head.ofLine? first = some head)
    (stays : ∀ block index, ((Scanner.inside block 1).run index rest).2 = []) (index : Nat) :
    (Scanner.outside.run index (first :: rest)).2 = [] := by
  simp [Scanner.run, Scanner.step, begins, stays]

theorem Scanner.run_block (begins : Head.ofLine? first = some head) (closes : Closes 1 body)
    (index : Nat) :
    (Scanner.outside.run index (first :: (body ++ rest))).2 =
      ⟨index, head, first :: body⟩ ::
        (Scanner.outside.run (index + (first :: body).length) rest).2 := by
  rw [← List.cons_append, Scanner.run_append, Scanner.run_outside_of_closes begins closes]
  rfl

theorem nextStart_of_ofLine? (begins : Head.ofLine? first = some head) :
    NextStart (passed ++ first :: rest) passed.length passed.length := by
  refine ⟨Nat.le_refl _, ?_, fun index reached before => absurd reached (Nat.not_le_of_lt before)⟩
  have holds := Head.isSome_ofLine? first
  rw [begins] at holds
  simp [beginsAt, ← holds]

theorem drop_behind_start : (passed ++ first :: rest).drop (passed.length + 1) = rest := by
  rw [← List.singleton_append, ← List.append_assoc]
  exact List.drop_left' List.length_append

theorem nextEnd_of_closes (closes : Closes 1 body) :
    NextEnd (passed ++ first :: (body ++ rest)) passed.length (passed.length + body.length) := by
  cases body with
  | nil => exact closes.elim
  | cons line others =>
      have place : passed.length + (line :: others).length = passed.length + 1 + others.length := by
        rw [List.length_cons, Nat.add_comm others.length, Nat.add_assoc]
      rw [place, nextEnd_iff, drop_behind_start]
      refine ⟨?_, ?_⟩
      · rw [List.length_append, List.length_cons]
        omega
      · rw [List.take_left' List.length_cons]
        exact closes

theorem not_nextEnd_of_stays
    (stays : ∀ block index, ((Scanner.inside block 1).run index rest).2 = []) (last : Nat) :
    ¬ NextEnd (passed ++ first :: rest) passed.length last := by
  intro ends
  obtain ⟨count, rfl⟩ := Nat.exists_eq_add_of_le (Nat.succ_le_of_lt ends.later)
  rw [Nat.succ_eq_add_one, nextEnd_iff, drop_behind_start] at ends
  -- The scanner would have left the block behind these lines.
  have nothing := stays ⟨0, ⟨[], []⟩, []⟩ 0
  rw [← List.take_append_drop (count + 1) rest, Scanner.run_append,
    Scanner.run_inside_of_closes ends.2] at nothing
  cases nothing

end Run

/-- The scanner finds the blocks of the rule. -/
theorem greedyCut_run (passed lines : List Text) :
    GreedyCut (passed ++ lines) passed.length
      ((Scanner.outside.run passed.length lines).2.map Block.span) := by
  induction lines using Scanner.stretch_induction generalizing passed with
  | nil =>
      refine .noStart fun start starts => ?_
      have bound := lt_length_of_beginsAt starts.begins
      rw [List.append_nil] at bound
      exact absurd starts.reached (Nat.not_le_of_lt bound)
  | headless line rest headless ih =>
      have further := ih (passed ++ [line])
      rw [List.append_assoc, List.singleton_append, List.length_append,
        List.length_singleton] at further
      have passes : beginsAt (passed ++ line :: rest) passed.length = false := by
        have holds := Head.isSome_ofLine? line
        rw [headless] at holds
        simp [beginsAt, ← holds]
      rw [Scanner.run_headless headless]
      exact further.skip passes
  | unclosed first rest head begins stays =>
      have inside := fun block index => (stays block index).2
      rw [Scanner.run_unclosed begins inside]
      exact .noEnd (nextStart_of_ofLine? begins) (not_nextEnd_of_stays inside)
  | block first body rest head begins closes ih =>
      have further := ih (passed ++ first :: body)
      rw [List.append_assoc, List.cons_append, List.length_append] at further
      rw [Scanner.run_block begins closes]
      exact .block (nextStart_of_ofLine? begins) (nextEnd_of_closes closes) further

/-- Whether a block holds the lines of its span, and the head that is read off the first of them. -/
structure Block.ReadFrom (lines : List Text) (block : Block) : Prop where
  head : lines[block.start]?.bind Head.ofLine? = some block.head
  text : block.span.slice lines = block.lines

theorem readFrom_run (passed lines : List Text) :
    ∀ block ∈ (Scanner.outside.run passed.length lines).2, block.ReadFrom (passed ++ lines) := by
  induction lines using Scanner.stretch_induction generalizing passed with
  | nil => exact List.forall_mem_nil _
  | headless line rest headless ih =>
      have further := ih (passed ++ [line])
      rw [List.append_assoc, List.singleton_append, List.length_append,
        List.length_singleton] at further
      rw [Scanner.run_headless headless]
      exact further
  | unclosed first rest head begins stays =>
      rw [Scanner.run_unclosed begins fun block index => (stays block index).2]
      exact List.forall_mem_nil _
  | block first body rest head begins closes ih =>
      have further := ih (passed ++ first :: body)
      rw [List.append_assoc, List.cons_append, List.length_append] at further
      rw [Scanner.run_block begins closes]
      refine List.forall_mem_cons.2 ⟨⟨?_, ?_⟩, further⟩
      · simp [begins]
      · exact slice_middle passed (first :: body) rest

/-! ## The definitions of a file -/

/-- The definition in the lines of a span, if the head on the first of them belongs to a
declaration. -/
def Definition.ofSpan? (declarations : Declarations) (lines : List Text) (span : Span) :
    Option Definition := do
  let head ← lines[span.start]?.bind Head.ofLine?
  let signature ← (declarations.signatureFor head.name head.params).toOption.join
  return ⟨head.name, signature, Text.unlines (span.slice lines), span.start⟩

theorem Definition.ofSpan?_span {declarations : Declarations} {lines : List Text} {block : Block}
    (read : block.ReadFrom lines) :
    ofSpan? declarations lines block.span = ofBlock? declarations block := by
  have head : lines[block.span.start]?.bind Head.ofLine? = some block.head := read.head
  rw [ofSpan?, head, read.text, ofBlock?, Option.map_eq_bind]
  rfl

theorem Definition.of_ofSpan? {declarations : Declarations} {lines : List Text} {span : Span}
    {definition : Definition} (found : ofSpan? declarations lines span = some definition) :
    ∃ first head signature, lines[span.start]? = some first ∧ Head.ofLine? first = some head ∧
      declarations.signatureFor head.name head.params = .ok (some signature) ∧
        definition = ⟨head.name, signature, Text.unlines (span.slice lines), span.start⟩ := by
  obtain ⟨head, read, matched⟩ := Option.bind_eq_some_iff.1 found
  obtain ⟨signature, answered, made⟩ := Option.bind_eq_some_iff.1 matched
  obtain ⟨first, here, begins⟩ := Option.bind_eq_some_iff.1 read
  refine ⟨first, head, signature, here, begins, ?_, (Option.some.inj made).symm⟩
  cases answer : declarations.signatureFor head.name head.params with
  | error error =>
      rw [answer] at answered
      cases answered
  | ok belongs =>
      rw [answer] at answered
      exact congrArg Except.ok answered

/-- The definitions of a file are those in its blocks, cut by the rule. -/
theorem Definition.ofSource_eq_filterMap (header source : Text) :
    ∃ spans, GreedyCut (Text.lines source) 0 spans ∧
      ofSource (Declarations.ofHeader header) source =
        .ok (spans.filterMap (ofSpan? (Declarations.ofHeader header) (Text.lines source))) := by
  refine ⟨(blocksOf source).map Block.span, greedyCut_run [] (Text.lines source), ?_⟩
  have read := readFrom_run [] (Text.lines source)
  have blocks := ofBlocks_eq (Declarations.exists_signatureFor header) (blocksOf source)
  rw [ofSource, blocks, List.filterMap_map]
  refine congrArg Except.ok (List.filterMap_congr fun block member => ?_)
  exact (ofSpan?_span (read block member)).symm

/-- A file is cut into blocks by line numbers, in one way.  Its definitions are, in their order,
those in the blocks whose head belongs to a declaration, with the name in the head, the
declaration's signature, the lines of the block and the number of its first line.  So their line
numbers increase, the blocks stand apart and have at least two lines each, and behind a start
without an end nothing is found. -/
theorem ofSource_cuts_greedily (header source : Text) :
    ∃ spans definitions,
      (∀ others, GreedyCut (Text.lines source) 0 others ↔ others = spans) ∧
      Definition.ofSource (Declarations.ofHeader header) source = .ok definitions ∧
      definitions = spans.filterMap
        (Definition.ofSpan? (Declarations.ofHeader header) (Text.lines source)) ∧
      (definitions.Pairwise fun left right => left.line < right.line) ∧
      Apart spans ∧
      (∀ span ∈ spans, span.start + 2 ≤ span.stop ∧ span.stop ≤ (Text.lines source).length) ∧
      ∀ place start, place ∈ 0 :: spans.map Span.stop → NextStart (Text.lines source) place start →
        (∀ last, ¬ NextEnd (Text.lines source) start last) →
          ∀ definition ∈ definitions, definition.line < start := by
  obtain ⟨spans, cut, found⟩ := Definition.ofSource_eq_filterMap header source
  have bounds := cut.bounds
  refine ⟨spans, _, ?_, found, rfl, ?_, cut.apart, fun span member => (bounds span member).2, ?_⟩
  · intro others
    constructor
    · exact fun other => other.eq cut
    · rintro rfl
      exact cut
  · -- A block starts behind the end of the one before it, and so behind its start.
    have ordered : spans.Pairwise fun left right => left.start < right.start := by
      refine cut.apart.imp_of_mem fun {left right} member _ behind => ?_
      have size := bounds left member
      omega
    refine ordered.filterMap _ ?_
    intro left right before definition inLeft other inRight
    obtain ⟨_, _, _, _, _, _, rfl⟩ := Definition.of_ofSpan? inLeft
    obtain ⟨_, _, _, _, _, _, rfl⟩ := Definition.of_ofSpan? inRight
    exact Int.ofNat_lt.2 before
  · intro place start resumed starts never definition member
    obtain ⟨span, inCut, made⟩ := List.mem_filterMap.1 member
    obtain ⟨_, _, _, _, _, _, rfl⟩ := Definition.of_ofSpan? made
    have size := bounds span inCut
    have before := cut.stop_le resumed starts never span inCut
    exact Int.ofNat_lt.2 (by omega)

/-- A file in which a block closes more braces than it opens before it ends, a block belongs to no
declaration, and a block has no end. -/
def overclosedSource : Text :=
  String.toList
    "int A::f() \x7b\n\x7d \x7d\n\x7b\nint u() \x7b\n\x7d\nint A::g() \x7b\nint A::f() \x7b\n\x7d"

theorem ofSource_cuts_greedily_overclosed :
    GreedyCut (Text.lines overclosedSource) 0 [⟨0, 3⟩, ⟨3, 5⟩] ∧
      NextStart (Text.lines overclosedSource) 5 5 ∧
      (∀ last, ¬ NextEnd (Text.lines overclosedSource) 5 last) ∧
      Definition.ofSource (Declarations.ofHeader sampleHeader) overclosedSource =
        .ok [⟨"A::f".toList, "A::f()".toList, "int A::f() \x7b\n\x7d \x7d\n\x7b".toList, 0⟩] ∧
      ∃ definitions, Definition.ofSource (Declarations.ofHeader sampleHeader) overclosedSource =
        .ok definitions ∧ ∀ definition ∈ definitions, definition.line < 5 := by
  have cut : GreedyCut (Text.lines overclosedSource) 0 [⟨0, 3⟩, ⟨3, 5⟩] := by
    have blocks : (blocksOf overclosedSource).map Block.span = [⟨0, 3⟩, ⟨3, 5⟩] := by
      decide +kernel
    rw [← blocks]
    exact greedyCut_run [] (Text.lines overclosedSource)
  have starts : NextStart (Text.lines overclosedSource) 5 5 :=
    ⟨Nat.le_refl _, by decide +kernel,
      fun index reached before => absurd reached (Nat.not_le_of_lt before)⟩
  have never : ∀ last, ¬ NextEnd (Text.lines overclosedSource) 5 last := by
    intro last ends
    have length : (Text.lines overclosedSource).length = 8 := by decide +kernel
    have stillOpen : ∀ index < 8, 5 < index →
        depthAt (Text.lines overclosedSource) 5 index ≠ 0 := by
      decide +kernel
    exact stillOpen last (length ▸ ends.within) ends.later ends.balanced
  obtain ⟨spans, definitions, unique, found, -, -, -, -, behind⟩ :=
    ofSource_cuts_greedily sampleHeader overclosedSource
  obtain rfl := (unique _).1 cut
  refine ⟨cut, starts, never, by decide +kernel, definitions, found, ?_⟩
  exact behind 5 5 (by decide) starts never

end HeaderOrder
