import HeaderOrder.CommandLine.Run
import HeaderOrder.Window.Session

/-!
# The program

With arguments the program runs the command line on the files of the disk.  Without arguments it
opens a session on the terminal, in which each line of input is an action: `header PATH` and
`source PATH` choose files, `process` processes them.

The files that a run can touch are loaded into a file tree first, and what the run changed in the
tree is written back after it.
-/

namespace HeaderOrder.Main

def diskPath (location : Location) : String :=
  String.ofList ('/' :: List.intercalate ['/'] location)

/-- The tree of the working directory, with nothing loaded yet. -/
def workingTree : IO FileTree := do
  let directory ← IO.currentDir
  return FileTree.bare (FileTree.pathParts directory.toString.toList)

/-- Load what stands at a location of the disk. -/
def loadLocation (tree : FileTree) (location : Location) : IO FileTree := do
  let path := (← IO.currentDir) / diskPath location
  if ← path.isDir then
    return tree.set location .directory
  else if ← path.pathExists then
    return tree.set location (.file (← IO.FS.readBinFile path).toList)
  else
    return tree

/-- Load what stands on the way along a path. -/
def loadPath (tree : FileTree) (path : Text) : IO FileTree := do
  let mut loaded := tree
  let mut here := tree.startOf path
  for part in FileTree.pathParts path do
    here := FileTree.enter here part
    loaded ← loadLocation loaded here
  return loaded

/-- Write back what changed in a tree. -/
def commit (before after : FileTree) : IO Unit := do
  for (location, node) in after.changesSince before do
    match node with
    | .directory => IO.FS.createDir (diskPath location)
    | .file bytes => IO.FS.writeBinFile (diskPath location) ⟨bytes.toArray⟩

def pathsOf (arguments : List Text) : List Text :=
  match CommandLine.parseArguments arguments with
  | .ok (.other command) =>
      command.header :: command.implementation.toList ++ command.output.toList
  | _ => []

/-- Run the command line on the disk. -/
def runCommand (arguments : List Text) : IO UInt32 := do
  let files ← (pathsOf arguments).foldlM loadPath (← workingTree)
  let outcome := CommandLine.run files arguments
  commit files outcome.files
  IO.print (String.ofList outcome.printed)
  IO.eprint (String.ofList outcome.complaint)
  return outcome.exitCode.toUInt32

/-- The action that a line of input asks for. -/
def actionOfLine? (line : Text) : Option Window.Action :=
  let word := line.takeWhile (!Text.isBlank ·)
  let path := Text.trim (line.dropWhile (!Text.isBlank ·))
  if word = "header".toList then some (.browseHeader path)
  else if word = "source".toList then some (.browseSource path)
  else if word = "process".toList then some .process
  else none

/-- The paths that an action may follow. -/
def pathsFor (session : Window.Session) : Window.Action → List Text
  | .browseHeader answer =>
      (((Path.ofText answer).withSuffix? ".cpp".toList).map (·.toText)).toList
  | .process =>
      [session.headerPath, session.sourcePath, Window.Session.logFile,
       (Window.Session.resultPath session.outputFolder session.sourcePath).toText]
  | _ => []

/-- Take actions from the terminal until it ends. -/
partial def runSession (session : Window.Session) : IO UInt32 := do
  let line ← (← IO.getStdin).getLine
  if line.isEmpty then
    return 0
  match actionOfLine? line.toList with
  | none => runSession session
  | some action =>
      let files ← (pathsFor session action).foldlM loadPath (← workingTree)
      let step := { session with files := files }.step action
      commit files step.session.files
      for dialog in step.dialogs do
        IO.println (String.ofList (dialog.title ++ ": ".toList ++ dialog.text))
      if let some failure := step.failure then
        IO.println (String.ofList failure.message)
      if action = .process then
        IO.print (String.ofList step.session.log)
      IO.println (String.ofList step.session.status.label)
      runSession step.session

/-- Run with arguments, or open a session if there are none. -/
def start (arguments : List Text) : IO UInt32 := do
  if arguments.isEmpty then
    runSession (Window.Session.new (← workingTree))
  else
    runCommand arguments

end HeaderOrder.Main

def main (arguments : List String) : IO UInt32 :=
  HeaderOrder.Main.start (arguments.map (·.toList))
