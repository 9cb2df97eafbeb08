import HeaderOrder.Arrangement
import HeaderOrder.Files.Access

/-!
# From a header to an arranged file

One round takes the definitions of an implementation file, ranks them by the position of their
declarations in the header, and arranges the file.  Several rounds feed each result to the next.
While definitions are put in order, three lists are reported: the definitions as they stood, the
ranking, and the definitions as they will stand.

A job is what the command line and the window have in common: it reads a header and an
implementation file, and says in the same words how it went.
-/

namespace HeaderOrder

/-! ## The report on an arrangement -/

namespace Report

/-- A definition by its signature and its line. -/
def place (definition : Definition) : Text :=
  definition.signature ++ " (Line: ".toList ++ Text.ofInt definition.line ++ [')']

def item (text : Text) : Text :=
  "  - ".toList ++ text

def rank (entry : Text × Int) : Text :=
  entry.1 ++ " (Order: ".toList ++ Text.ofInt entry.2 ++ [')']

/-- The entries of a ranking by rank; entries of equal rank keep their order. -/
def sortedEntries (ranking : Ranking) : List (Text × Int) :=
  stableSort (fun left right => left.2 ≤ right.2) ranking.entries

/-- The messages of the report, in order. -/
def messages (ranking : Ranking) (definitions : List Definition) : List Text :=
  ["\n--- Function Reordering Analysis ---".toList,
   "Original function order in the .cpp file:".toList] ++
  definitions.map (item ∘ place) ++
  ["\nFunction order in the .h file (desired order):".toList] ++
  (sortedEntries ranking).map (item ∘ rank) ++
  ["\nReordered function order in the .cpp file:".toList] ++
  (sortByRank ranking definitions).map (item ∘ Definition.signature) ++
  ["--- End of Function Reordering Analysis ---\n".toList]

end Report

/-! ## Rounds -/

/-- The outcome of arranging a file once: the definitions found, the report, and the new text. -/
structure Round where
  definitions : List Definition
  report : List Text
  result : Text
  deriving Repr, DecidableEq

namespace Round

def of (declarations : Declarations) (source : Text) : Except MatchError Round := do
  let definitions ← Definition.ofSource declarations source
  let ranking := declarations.positions
  return ⟨definitions, Report.messages ranking definitions, arrange source ranking definitions⟩

/-- Arrange a file `count` times, each time the result of the time before. -/
def iterate (declarations : Declarations) : Nat → Text → Except MatchError (List Round)
  | 0, _ => .ok []
  | count + 1, source => do
      let round ← of declarations source
      let later ← iterate declarations count round.result
      return round :: later

end Round

/-! ## Jobs -/

namespace Job

/-- The texts of the header and the implementation file. -/
def readInputs (files : FileTree) (header implementation : Text) :
    Except FileError (Text × Text) := do
  let headerText ← files.readText header
  let source ← files.readText implementation
  return (headerText, source)

def noDefinitions : Text :=
  "Warning: No function implementations found in source file".toList

/-- The message about an error after the files were read. -/
def processingError (message : Text) : Text :=
  "Error processing files: ".toList ++ message

def success (path : Text) : Text :=
  "Successfully reordered functions in ".toList ++ path

end Job

end HeaderOrder
