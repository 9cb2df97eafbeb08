import HeaderOrder.Grammar
import HeaderOrder.Signature

/-!
# Heads and blocks of an implementation file

The line that begins a definition names the function and its parameters: it holds the head of the
definition.  An implementation file is cut into blocks, one for each definition.  A block starts
at a line that holds the head of a definition and ends at the first later line that brings the
count of open braces back to zero, where the head's line counts as one open brace.  A block that
never ends is dropped, and so is all that follows its head.
-/

namespace HeaderOrder

/-! ## Heads -/

/-- The name and the parameters in the head of a definition. -/
structure Head where
  name : Text
  params : Text
  deriving Repr, DecidableEq

namespace Head

def member? (line : Text) : Option Head :=
  match Grammar.memberHead.captures? line with
  | some [qualifier, name, params] => some ⟨qualified qualifier name, params⟩
  | _ => none

def free? (line : Text) : Option Head :=
  match Grammar.freeHead.captures? line with
  | some [name, params] => some ⟨name, params⟩
  | _ => none

/-- The head of a definition on a line; of a member function, if it can be read so. -/
def ofLine? (line : Text) : Option Head :=
  (member? line).or (free? line)

end Head

/-! ## Blocks -/

/-- How many more braces a line opens than it closes. -/
def braceBalance (line : Text) : Int :=
  (line.count '{' : Int) - (line.count '}' : Int)

/-- A definition's lines: where they start, the head on the first of them, and all of them. -/
structure Block where
  start : Nat
  head : Head
  lines : List Text
  deriving Repr, DecidableEq

/-- The state of the cut into blocks: between blocks, or in a block with so many open braces. -/
inductive Scanner where
  | outside
  | inside (block : Block) (depth : Int)
  deriving Repr, DecidableEq

namespace Scanner

/-- Read the line with the given index; a block that ends there is returned. -/
def step (scanner : Scanner) (index : Nat) (line : Text) : Scanner × Option Block :=
  match scanner with
  | .outside =>
      match Head.ofLine? line with
      | some head => (.inside ⟨index, head, [line]⟩ 1, none)
      | none => (.outside, none)
  | .inside block depth =>
      let grown := { block with lines := block.lines ++ [line] }
      let remaining := depth + braceBalance line
      if remaining = 0 then (.outside, some grown) else (.inside grown remaining, none)

/-- Read lines, the first of which has the given index: the state at their end, and the blocks that
ended among them. -/
def run (scanner : Scanner) (index : Nat) : List Text → Scanner × List Block
  | [] => (scanner, [])
  | line :: rest =>
      let after := scanner.step index line
      let final := after.1.run (index + 1) rest
      (final.1, after.2.toList ++ final.2)

end Scanner

def blocksOf (source : Text) : List Block :=
  (Scanner.outside.run 0 (Text.lines source)).2

end HeaderOrder
