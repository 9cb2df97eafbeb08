import HeaderOrder.Proofs.Regular

/-!
# Files one after the other

The definitions of two files put one after the other are those of the first and then those of the
second, further down by the lines of the first.  It takes one condition: the scan of the first
file ends outside of a block.  Then nothing is carried over, since the scanner outside of a block
has no count, no head and no lines to remember.  How the second file ends does not matter.

This holds for any declarations.  If a block cannot be matched, then the first such block decides
the error, in whichever file it stands.
-/

namespace HeaderOrder

/-- A definition found so many lines further down. -/
def Definition.moved (offset : Nat) (definition : Definition) : Definition :=
  { definition with line := definition.line + offset }

/-! ## Blocks -/

section Blocks

variable {left : Text}

/-- Behind a file whose scan ends outside of a block, the scanner reads as from the start. -/
theorem run_append_newline (outside : EndsOutside left) (right : Text) :
    Scanner.outside.run 0 (Text.lines (left ++ '\n' :: right)) =
      ((Scanner.outside.run 0 (Text.lines right)).1.moved (Text.lines left).length,
        blocksOf left ++ (blocksOf right).map (Block.moved (Text.lines left).length)) := by
  have behind : Scanner.outside.run (0 + (Text.lines left).length) (Text.lines right) = _ :=
    Scanner.run_moved .outside (Text.lines left).length 0 (Text.lines right)
  rw [Text.lines_append_newline, Scanner.run_append, outside, behind]
  rfl

theorem blocksOf_append_newline (outside : EndsOutside left) (right : Text) :
    blocksOf (left ++ '\n' :: right) =
      blocksOf left ++ (blocksOf right).map (Block.moved (Text.lines left).length) := by
  rw [blocksOf, run_append_newline outside]

/-- Two files one after the other end as the second does. -/
theorem endsOutside_append_newline_iff (outside : EndsOutside left) (right : Text) :
    EndsOutside (left ++ '\n' :: right) ↔ EndsOutside right := by
  rw [EndsOutside, run_append_newline outside]
  exact Scanner.moved_eq_outside

end Blocks

/-! ## Definitions -/

namespace Definition

variable {declarations : Declarations}

theorem ofBlock_moved (offset : Nat) (block : Block) (signature : Text) :
    ofBlock (block.moved offset) signature = (ofBlock block signature).moved offset := by
  rw [ofBlock, ofBlock, moved, Definition.mk.injEq]
  exact ⟨rfl, rfl, rfl, Int.natCast_add _ _⟩

/-- Moving blocks moves their definitions, and changes no match. -/
theorem ofBlocks_map_moved (offset : Nat) (blocks : List Block) :
    ofBlocks declarations (blocks.map (Block.moved offset)) =
      (ofBlocks declarations blocks).map (List.map (moved offset)) := by
  induction blocks with
  | nil => rfl
  | cons block rest ih =>
      have head : (block.moved offset).head = block.head := rfl
      rw [List.map_cons, ofBlocks, ofBlocks, ih, head]
      cases declarations.signatureFor block.head.name block.head.params with
      | error error => rfl
      | ok found =>
          cases ofBlocks declarations rest with
          | error error => rfl
          | ok definitions =>
              cases found with
              | none => rfl
              | some signature =>
                  refine congrArg Except.ok ?_
                  exact congrArg (· :: definitions.map (moved offset))
                    (ofBlock_moved offset block signature)

/-- The definitions in two stretches of blocks; an error in the first comes first. -/
theorem ofBlocks_append (left right : List Block) :
    ofBlocks declarations (left ++ right) = (do
      let before ← ofBlocks declarations left
      let after ← ofBlocks declarations right
      return before ++ after) := by
  induction left with
  | nil =>
      rw [List.nil_append]
      cases ofBlocks declarations right with
      | error error => rfl
      | ok definitions => rfl
  | cons block rest ih =>
      rw [List.cons_append, ofBlocks, ofBlocks, ih]
      cases declarations.signatureFor block.head.name block.head.params with
      | error error => rfl
      | ok found =>
          cases ofBlocks declarations rest with
          | error error => rfl
          | ok before =>
              cases ofBlocks declarations right with
              | error error => rfl
              | ok after =>
                  exact congrArg Except.ok (List.append_assoc ..).symm

/-- The definitions of two files one after the other, by any declarations. -/
theorem ofSource_append_newline {left : Text} (outside : EndsOutside left) (right : Text) :
    ofSource declarations (left ++ '\n' :: right) = (do
      let before ← ofSource declarations left
      let after ← ofSource declarations right
      return before ++ after.map (moved (Text.lines left).length)) := by
  rw [ofSource, ofSource, ofSource, blocksOf_append_newline outside, ofBlocks_append,
    ofBlocks_map_moved]
  cases ofBlocks declarations (blocksOf right) with
  | error error => rfl
  | ok definitions => rfl

end Definition

/-- If the scan of a file ends outside of a block, then the definitions of this file and another
one after it are the definitions of the first and those of the second, whose line numbers grow by
the number of lines of the first.  Whether the scan of both ends outside of a block is decided by
the second. -/
theorem ofSource_concatenation (header : Text) {left : Text} (outside : EndsOutside left)
    (right : Text) :
    ∃ before after,
      Definition.ofSource (Declarations.ofHeader header) left = .ok before ∧
      Definition.ofSource (Declarations.ofHeader header) right = .ok after ∧
      Definition.ofSource (Declarations.ofHeader header) (left ++ '\n' :: right) =
        .ok (before ++ after.map (Definition.moved (Text.lines left).length)) ∧
      (EndsOutside (left ++ '\n' :: right) ↔ EndsOutside right) := by
  have decided := Declarations.exists_signatureFor header
  have before := Definition.ofBlocks_eq decided (blocksOf left)
  have after := Definition.ofBlocks_eq decided (blocksOf right)
  refine ⟨_, _, before, after, ?_, endsOutside_append_newline_iff outside right⟩
  rw [Definition.ofSource_append_newline outside, Definition.ofSource, before, Definition.ofSource,
    after]
  rfl

/-- A file that breaks off inside of a block. -/
def brokenSource : Text :=
  "int A::g() \x7b\n\x7d\nint A::f() \x7b".toList

theorem ofSource_concatenation_broken :
    EndsOutside sampleSource ∧ ¬ EndsOutside (sampleSource ++ '\n' :: brokenSource) ∧
      Definition.ofSource (Declarations.ofHeader sampleHeader)
          (sampleSource ++ '\n' :: brokenSource) =
        .ok (sampleDefinitions ++
          [⟨"A::g".toList, "A::g()".toList, "int A::g() \x7b\n\x7d".toList, 10⟩]) := by
  have found : Definition.ofSource (Declarations.ofHeader sampleHeader) brokenSource =
      .ok [⟨"A::g".toList, "A::g()".toList, "int A::g() \x7b\n\x7d".toList, 0⟩] := by
    decide +kernel
  have breaksOff : ¬ EndsOutside brokenSource := by
    decide +kernel
  have length : (Text.lines sampleSource).length = 10 := by
    decide +kernel
  obtain ⟨before, after, first, second, both, ends⟩ :=
    ofSource_concatenation sampleHeader endsOutside_sample brokenSource
  obtain rfl := Except.ok.inj (ofSource_sample.symm.trans first)
  obtain rfl := Except.ok.inj (found.symm.trans second)
  refine ⟨endsOutside_sample, mt ends.1 breaksOff, ?_⟩
  rw [both, length]
  rfl

end HeaderOrder
