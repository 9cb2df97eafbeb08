import HeaderOrder.CommandLine.Arguments
import HeaderOrder.Window.Session

/-!
# Runs of the command line

A run takes arguments, a file tree and its write protection, and gives an exit code, what is
printed, and the tree after it.  The only change that a run makes to the tree is to write the
arranged text to one file, as its last act but for a message.

Whatever a run prints is accepted.  A run that could not print the message after the write would end
as a failed one with the file already written; such a run is not described here.
-/

namespace HeaderOrder.CommandLine

open HeaderOrder.Job

/-- Why a run breaks off before it ends with an exit code of its own. -/
inductive Breakdown where
  /-- The word in place of the implementation file was dropped, so that there is no path to
  check. -/
  | noPath
  deriving Repr, DecidableEq

def Breakdown.message : Breakdown → Text
  | .noPath => "'list' object has no attribute 'endswith'".toList

/-- What a run leaves behind. -/
structure Outcome where
  exitCode : Nat
  printed : Text
  complaint : Text
  files : FileTree
  windows : List (List Window.Call)
  breakdown : Option Breakdown
  deriving Repr, DecidableEq

/-- A run that prints and ends with an exit code. -/
def Outcome.of (files : FileTree) (exitCode : Nat) (printed : Text) : Outcome :=
  ⟨exitCode, printed, [], files, [], none⟩

def Outcome.broken (files : FileTree) (breakdown : Breakdown) : Outcome :=
  ⟨1, [], breakdown.message ++ ['\n'], files, [], some breakdown⟩

def printedLine (text : Text) : Text :=
  text ++ ['\n']

def Outcome.failed (files : FileTree) (message : Text) : Outcome :=
  .of files 1 (printedLine message)

/-- The short form of the arguments. -/
def usage : Text :=
  "usage: CppParser.py [-h] [-o OUTPUT] [--dry-run] header implementation\n".toList

def help : Text :=
  usage ++
  ("\n" ++
   "Reorder C++ functions in implementation file to match header file order\n" ++
   "\n" ++
   "positional arguments:\n" ++
   "  header                Path to the header file (.h)\n" ++
   "  implementation        Path to the implementation file (.cpp)\n" ++
   "\n" ++
   "options:\n" ++
   "  -h, --help            show this help message and exit\n" ++
   "  -o OUTPUT, --output OUTPUT\n" ++
   "                        Output file (defaults to overwriting implementation\n" ++
   "                        file)\n" ++
   "  --dry-run             Print result without writing to file\n").toList

def Outcome.refused (files : FileTree) (error : UsageError) : Outcome :=
  ⟨2, [], usage ++ "CppParser.py: error: ".toList ++ error.message ++ ['\n'], files, [],
    none⟩

def hasExtension (extensions : List String) (path : Text) : Bool :=
  extensions.any fun extension => extension.toList.isSuffixOf path

/-- The file to write: the output path, or the implementation file if that path is missing or
empty. -/
def outputPath (output : Option Text) (implementation : Text) : Text :=
  match output with
  | none => implementation
  | some [] => implementation
  | some path => path

/-- What is printed first if the header declares nothing. -/
def declarationWarning (declarations : Declarations) : Text :=
  if declarations.isEmpty then
    printedLine "Warning: No function declarations found in header file".toList
  else
    []

/-- Arrange a file and print or write the result. -/
def deliver (files : FileTree) (declarations : Declarations) (source : Text) (dryRun : Bool)
    (path : Text) (protection : Protection) : Outcome :=
  let warning := declarationWarning declarations
  match Round.of declarations source with
  | .error error => .of files 1 (warning ++ printedLine (processingError error.message))
  | .ok round =>
      if round.definitions.isEmpty then
        .of files 0 (warning ++ printedLine noDefinitions)
      else if dryRun then
        .of files 0 (warning ++ printedLine round.result)
      else
        match files.writeTextUnder protection path round.result with
        | .error error => .of files 1 (warning ++ printedLine (processingError error.message))
        | .ok written => .of written 0 (warning ++ printedLine (success path))

/-- Check the paths, read the files and arrange them. -/
def executeFor (files : FileTree) (header implementation : Text) (output : Option Text)
    (dryRun : Bool) (protection : Protection) : Outcome :=
  if !hasExtension [".cpp", ".cc"] implementation then
    .failed files
      ("Error: Implementation file should have .cpp or .cc extension: ".toList ++ implementation)
  else if !files.isFile header then
    .failed files ("Error: Header file not found: ".toList ++ header)
  else if !files.isFile implementation then
    .failed files ("Error: Implementation file not found: ".toList ++ implementation)
  else
    match readInputs files header implementation with
    | .error error => .failed files ("Error reading files: ".toList ++ error.message)
    | .ok (headerText, source) =>
        deliver files (Declarations.ofHeader headerText) source dryRun
          (outputPath output implementation) protection

def execute (files : FileTree) (command : Command) (protection : Protection) : Outcome :=
  if !hasExtension [".h", ".hpp"] command.header then
    .failed files
      ("Error: Header file should have .h or .hpp extension: ".toList ++ command.header)
  else
    match command.implementation with
    | none => .broken files .noPath
    | some implementation =>
        executeFor files command.header implementation command.output command.dryRun protection

def runArguments (files : FileTree) (arguments : List Text) (protection : Protection) : Outcome :=
  match parseArguments arguments with
  | .error error => .refused files error
  | .ok .help => .of files 0 help
  | .ok (.other command) => execute files command protection

/-- Open the window, which is closed at once. -/
def openWindow (files : FileTree) : Outcome :=
  ⟨0, [], [], files, [Window.opening], none⟩

/-- Run with arguments, or open the window if there are none. -/
def run (files : FileTree) (arguments : List Text) (protection : Protection := Protection.none) :
    Outcome :=
  if arguments.isEmpty then openWindow files else runArguments files arguments protection

end HeaderOrder.CommandLine
