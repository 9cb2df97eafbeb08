import HeaderOrder.Proofs.Defaults
import HeaderOrder.Proofs.Layout
import HeaderOrder.Proofs.MemberHeads
import HeaderOrder.Proofs.Outline

/-!
# Definitions of declared member functions are found

Two patterns read a member function: one its declaration in the header, the other the head of its
definition.  On lines in the usual layout both give the name and the parameters that are written
there, and the normal form of the parameters is the same with default values and without.  So the
definition has the very signature that the declaration was recorded under, whatever else stands in
the two files.
-/

namespace HeaderOrder

open Text

/-! ## The head of a member function's definition -/

/-- The line that begins the definition of a member function. -/
structure MemberLine where
  indent : Indent
  result : Identifier
  qualifier : Identifier
  name : Identifier
  params : Text
  closed : ')' ∉ params

namespace MemberLine

def content (line : MemberLine) : Text :=
  line.result.text ++ ' ' :: (line.qualifier.text ++ ':' :: ':' ::
    (line.name.text ++ '(' :: (line.params ++ [')', ' ', '{'])))

def text (line : MemberLine) : Text :=
  line.indent.text ++ line.content

theorem matches_content (line : MemberLine) :
    Grammar.memberHead.Matches line.content
      [line.qualifier.text, line.name.text, line.params] := by
  have last : (Pattern.sequence (Grammar.memberTrailers ++ [.exactly ['{']])).Matches ['{'] [] :=
    Grammar.matches_sequence_append Grammar.memberTrailers rfl (Grammar.matches_sequence_mark '{')
  have whole := Grammar.matches_memberHead (Or.inr ⟨rfl, rfl⟩) (Or.inr ⟨rfl, rfl⟩)
    (Grammar.matches_resultType line.result.valid)
    (Grammar.matches_qualifiedName ⟨none, line.qualifier⟩) line.name.valid line.closed
    isBlank_of_mem_space last
  rw [List.nil_append, List.nil_append, List.append_assoc] at whole
  exact whole

theorem captures?_text (line : MemberLine) :
    Grammar.memberHead.captures? line.text =
      some [line.qualifier.text, line.name.text, line.params] := by
  have captured := Grammar.captures?_memberHead line.indent.blank line.matches_content []
  rwa [List.append_nil] at captured

theorem ofLine?_text (line : MemberLine) :
    Head.ofLine? line.text =
      some ⟨qualified line.qualifier.text line.name.text, line.params⟩ := by
  rw [Head.ofLine?, Head.member?, line.captures?_text]
  rfl

/-- The head of a definition whose parameters are listed without default values. -/
def ofPieces (indent : Indent) (result qualifier name : Identifier) (pieces : List Params.Piece) :
    MemberLine where
  indent := indent
  result := result
  qualifier := qualifier
  name := name
  params := Params.listed (pieces.map Params.Piece.text)
  closed := by
    intro member
    obtain ⟨param, inParams, inParam⟩ := (mem_intercalate_iff (by decide)).1 member
    obtain ⟨piece, _, rfl⟩ := List.mem_map.1 inParams
    exact absurd (piece.undelimited ')' inParam) (by decide)

end MemberLine

/-! ## Blocks that are found -/

section Blocks

variable {declarations : Declarations}

/-- Where every block can be matched, each block of a declared function gives a definition. -/
theorem Definition.exists_ofBlocks
    (decided : ∀ name params, ∃ found, declarations.signatureFor name params = .ok found)
    (blocks : List Block) :
    ∃ definitions, ofBlocks declarations blocks = .ok definitions ∧
      ∀ block ∈ blocks, ∀ signature,
        declarations.signatureFor block.head.name block.head.params = .ok (some signature) →
          ofBlock block signature ∈ definitions := by
  refine ⟨_, ofBlocks_eq decided blocks, ?_⟩
  intro block member signature declared
  refine List.mem_filterMap.2 ⟨block, member, ?_⟩
  rw [ofBlock?, declared]
  rfl

/-- A closed block at which the scanner arrives outside of any other is a block of the file. -/
theorem mem_blocksOf {source first : Text} {head : Head} {before body after : List Text}
    (cut : Text.lines source = before ++ (first :: body ++ after))
    (outside : (Scanner.outside.run 0 before).1 = .outside)
    (begins : Head.ofLine? first = some head) (closes : Closes 1 body) :
    ⟨before.length, head, first :: body⟩ ∈ blocksOf source := by
  rw [blocksOf, cut, Scanner.run_append, outside, Scanner.run_append,
    Scanner.run_outside_of_closes begins closes]
  simp

end Blocks

/-! ## Members of a rendered header -/

theorem Item.declared_subset_declaredBy {items : List Item} {item : Item} (member : item ∈ items)
    (innermost : Option Text) :
    item.declared innermost ⊆ Item.declaredBy innermost items := by
  induction items with
  | nil => cases member
  | cons first rest ih =>
      rw [Item.declaredBy]
      rcases List.mem_cons.1 member with rfl | later
      · exact List.subset_append_left ..
      · exact List.subset_append_of_subset_right _ (ih later)

/-- A declaration in a class outside of every namespace is recorded under the class. -/
theorem Declarations.get?_ofHeader_render {items : List Item} {head : ClassLine}
    {members : List Member} {closing : Indent}
    (inHeader : Item.classBlock head members closing ∈ items) {line : DeclarationLine}
    (inClass : Member.declaration line ∈ members) :
    (Declarations.ofHeader (Item.render items)).get?
        (Signature.of (qualified head.name.text line.name.text) line.params) =
      some (qualified head.name.text line.name.text) := by
  have declared : (Signature.of (qualified head.name.text line.name.text) line.params,
      qualified head.name.text line.name.text) ∈ Item.declaredBy none items := by
    apply Item.declared_subset_declaredBy inHeader
    exact List.mem_flatMap.2 ⟨_, inClass, List.mem_singleton_self _⟩
  rw [Declarations.ofHeader_eq_insertAll]
  refine Catalog.get?_insertAll ?_ (Or.inr (List.mem_map_of_mem declared))
  intro pair member same
  rw [Item.name_of_mem_declaredBy (by simp) items pair member, same,
    ← Item.name_of_mem_declaredBy (by simp) items _ declared]

/-- A header in the usual layout declares a member function, with default values or without, in a
class outside of every namespace.  A file has, where the scanner is outside of a block, the head
of that function's definition without the default values, and the lines that close its block.
Then the declaration is recorded, and the definitions of the file can be found; among them is this
one, with the signature that the declaration is recorded under, all of its lines, and the line it
starts at. -/
theorem exists_definition_of_declared_member {items : List Item} {head : ClassLine}
    {members : List Member} {closing : Indent}
    (inHeader : Item.classBlock head members closing ∈ items) {declared : DeclarationLine}
    (inClass : Member.declaration declared ∈ members) {pieces : List Params.Piece}
    (written : declared.params = Params.listed (pieces.map Params.Piece.written))
    {indent : Indent} {result : Identifier} {source : Text} {before body after : List Text}
    (cut : Text.lines source = before ++
      ((MemberLine.ofPieces indent result head.name declared.name pieces).text :: body ++ after))
    (outside : (Scanner.outside.run 0 before).1 = .outside) (closes : Closes 1 body) :
    (Declarations.ofHeader (Item.render items)).get?
        (Signature.of (qualified head.name.text declared.name.text) declared.params) =
      some (qualified head.name.text declared.name.text) ∧
    ∃ definitions,
      Definition.ofSource (Declarations.ofHeader (Item.render items)) source = .ok definitions ∧
      ⟨qualified head.name.text declared.name.text,
        Signature.of (qualified head.name.text declared.name.text) declared.params,
        Text.unlines
          ((MemberLine.ofPieces indent result head.name declared.name pieces).text :: body),
        before.length⟩ ∈ definitions := by
  have recorded := Declarations.get?_ofHeader_render inHeader inClass
  refine ⟨recorded, ?_⟩
  let line := MemberLine.ofPieces indent result head.name declared.name pieces
  have block := mem_blocksOf cut outside line.ofLine?_text closes
  -- Both spellings of the parameters have one normal form, so the signature is found directly.
  have signature : Signature.of (qualified head.name.text declared.name.text) line.params =
      Signature.of (qualified head.name.text declared.name.text) declared.params := by
    rw [Signature.of, Signature.of, written, Params.normalize_listed_written]
    rfl
  have matched : (Declarations.ofHeader (Item.render items)).signatureFor
      (qualified head.name.text declared.name.text) line.params =
        .ok (some (Signature.of (qualified head.name.text declared.name.text)
          declared.params)) := by
    rw [Declarations.signatureFor, signature, recorded]
  obtain ⟨definitions, found, all⟩ := Definition.exists_ofBlocks
    (Declarations.exists_signatureFor (Item.render items)) (blocksOf source)
  exact ⟨definitions, found, all _ block _ matched⟩

def scalePieces : List Params.Piece :=
  [⟨"int by".toList, none, by decide, by simp; decide, by decide, by simp [Params.isDelimiter],
     by simp⟩,
   ⟨"int to".toList, some "f(2".toList, by decide, by simp; decide, by decide,
     by simp [Params.isDelimiter], by simp [Params.isDelimiter]⟩]

def scaleDeclaration : DeclarationLine where
  indent := ⟨"  ".toList, by simp; decide, by decide⟩
  result := ⟨"void".toList, by decide⟩
  name := ⟨"scale".toList, by decide⟩
  params := Params.listed (scalePieces.map Params.Piece.written)
  closed := by decide
  braceless := by decide
  plain := by decide

/-- The class that declares `scale`, with a base class. -/
def shapeHead : ClassLine :=
  ⟨Indent.none, ⟨"Shape".toList, by decide⟩, some ⟨"Base".toList, by decide⟩⟩

/-- A header with that class after a namespace. -/
def shapeItems : List Item :=
  [.namespaceBlock ⟨Indent.none, ⟨"n".toList, by decide⟩⟩ [] Indent.none,
   .classBlock shapeHead [.declaration scaleDeclaration] Indent.none]

def scaleLine : MemberLine :=
  .ofPieces Indent.none ⟨"void".toList, by decide⟩ shapeHead.name scaleDeclaration.name scalePieces

theorem exists_definition_of_declared_member_scale :
    ∃ definitions,
      Definition.ofSource
        (Declarations.ofHeader ("namespace n \x7b\n\x7d\nclass Shape : public Base \x7b\n".toList ++
          "  void scale(int by, int to = f(2);\n\x7d;".toList))
        "int u() \x7b\n\x7d\nvoid Shape::scale(int by, int to) \x7b\n\x7d\n".toList =
          .ok definitions ∧
      ⟨"Shape::scale".toList, "Shape::scale(int,intto)".toList,
        "void Shape::scale(int by, int to) \x7b\n\x7d".toList, 2⟩ ∈ definitions := by
  have inHeader : Item.classBlock shapeHead [.declaration scaleDeclaration] Indent.none ∈
      shapeItems := List.mem_cons_of_mem _ (List.mem_singleton_self _)
  have header : "namespace n \x7b\n\x7d\nclass Shape : public Base \x7b\n".toList ++
      "  void scale(int by, int to = f(2);\n\x7d;".toList = Item.render shapeItems := by
    decide +kernel
  have cut : Text.lines
      "int u() \x7b\n\x7d\nvoid Shape::scale(int by, int to) \x7b\n\x7d\n".toList =
        ["int u() \x7b".toList, "\x7d".toList] ++
          (scaleLine.text :: ["\x7d".toList] ++ [[]]) := by
    decide +kernel
  have definition : (⟨"Shape::scale".toList, "Shape::scale(int,intto)".toList,
      "void Shape::scale(int by, int to) \x7b\n\x7d".toList, 2⟩ : Definition) =
        ⟨qualified shapeHead.name.text scaleDeclaration.name.text,
          Signature.of (qualified shapeHead.name.text scaleDeclaration.name.text)
            scaleDeclaration.params,
          Text.unlines (scaleLine.text :: ["\x7d".toList]), 2⟩ := by
    decide +kernel
  rw [header, definition]
  exact (exists_definition_of_declared_member inHeader (List.mem_singleton_self _) rfl cut
    (by decide +kernel) (by decide +kernel)).2

end HeaderOrder
