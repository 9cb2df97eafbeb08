import HeaderOrder.Block
import HeaderOrder.Matching

/-!
# Definitions of an implementation file

The definitions of a file are its blocks whose head belongs to a declaration of the header.
-/

namespace HeaderOrder

/-- A definition that belongs to a declaration: its name, the declaration's signature, its text, and
the index of the line at which it starts. -/
structure Definition where
  name : Text
  signature : Text
  text : Text
  line : Int
  deriving Repr, DecidableEq

namespace Definition

/-- A definition in short, by its name and line. -/
def summary (definition : Definition) : Text :=
  "FunctionInfo(name=".toList ++ definition.name ++ ", index=".toList ++
    Text.ofInt definition.line ++ [')']

/-- The definition in a block, with the signature of its declaration. -/
def ofBlock (block : Block) (signature : Text) : Definition :=
  ⟨block.head.name, signature, Text.unlines block.lines, block.start⟩

/-- The definitions in blocks, without the blocks that belong to no declaration. -/
def ofBlocks (declarations : Declarations) : List Block → Except MatchError (List Definition)
  | [] => .ok []
  | block :: rest => do
      let signature ← declarations.signatureFor block.head.name block.head.params
      let others ← ofBlocks declarations rest
      return (signature.map (ofBlock block)).toList ++ others

/-- The definitions of an implementation file that belong to a declaration. -/
def ofSource (declarations : Declarations) (source : Text) : Except MatchError (List Definition) :=
  ofBlocks declarations (blocksOf source)

end Definition

end HeaderOrder
