import HeaderOrder.Files.Basic

/-!
# Access to files by path

A path is followed from the root if it starts with a slash, else from the working directory.  All
its parts but the last must lead through directories; two dots lead to the directory above.  A slash
at the end asks for a directory.

The lengths of a path and of each name in it are limited.  A path that is too long leads nowhere; a
name that is too long is found out when the directory that it should stand in has been reached.

A file that can be opened for writing takes the whole of its text: that a disk is full or a device
fails is left out, so a write that fails leaves the tree as it was.
-/

namespace HeaderOrder.FileTree

/-- The location that a part of a path leads to. -/
def enter (here : Location) (part : Text) : Location :=
  if part = ['.'] then here
  else if part = ['.', '.'] then here.dropLast
  else here ++ [part]

/-- The greatest length of a path, in bytes. -/
def longestPath : Nat := 4095

/-- The greatest length of a name, in bytes. -/
def longestName : Nat := 255

def fits (limit : Nat) (text : Text) : Bool :=
  (Text.Utf8.encode text).length ≤ limit

/-- Look a part of a path up in a directory: where it leads, and what stands there.  `path` is what
an error names. -/
def look (tree : FileTree) (path : Text) (here : Location) (part : Text) :
    Except FileError (Location × Option Node) :=
  if fits longestName part then .ok (enter here part, tree.get? (enter here part))
  else .error (.nameTooLong path)

/-- Follow parts through directories. -/
def walk (tree : FileTree) (path : Text) (here : Location) :
    List Text → Except FileError Location
  | [] => .ok here
  | part :: rest =>
      match tree.look path here part with
      | .error error => .error error
      | .ok (there, some .directory) => tree.walk path there rest
      | .ok (_, some (.file _)) => .error (.notDirectory path)
      | .ok (_, none) => .error (.missing path)

/-- The parts of a path, without the empty ones. -/
def pathParts (path : Text) : List Text :=
  (path.splitOn '/').filter (· != [])

/-- Where the following of a path starts. -/
def startOf (tree : FileTree) (path : Text) : Location :=
  if path.head? = some '/' then [] else tree.workingDirectory

/-- Whether a path asks for a directory. -/
def isSlashed (path : Text) : Bool :=
  path.getLast? = some '/'

/-- The directory that the last part of a path is looked up in, and that part.  The path of the root
has no last part, and leads to where a single dot leads. -/
def approach (tree : FileTree) (path : Text) : Except FileError (Location × Text) :=
  if path.contains '\x00' then .error .nullInPath
  else if path = [] then .error (.missing path)
  else if !fits longestPath path then .error (.nameTooLong path)
  else
    match tree.walk path (tree.startOf path) (pathParts path).dropLast with
    | .error error => .error error
    | .ok directory => .ok (directory, (pathParts path).getLast?.getD ['.'])

/-- Where a path leads, and what stands there; there need not be anything. -/
def target (tree : FileTree) (path : Text) : Except FileError (Location × Option Node) :=
  match tree.approach path with
  | .error error => .error error
  | .ok (directory, last) => tree.look path directory last

/-- What a path leads to, if it leads to anything of the kind that it asks for. -/
def node? (tree : FileTree) (path : Text) : Option Node :=
  match tree.target path with
  | .ok (_, some .directory) => some .directory
  | .ok (_, some (.file bytes)) => if isSlashed path then none else some (.file bytes)
  | _ => none

/-- Whether there is anything at a path.  It cannot be told if a name is too long. -/
def isThere (tree : FileTree) (path : Text) : Except FileError Bool :=
  match tree.target path with
  | .error (.nameTooLong path) => .error (.nameTooLong path)
  | _ => .ok (tree.node? path).isSome

def isFile (tree : FileTree) (path : Text) : Bool :=
  match tree.node? path with
  | some (.file _) => true
  | _ => false

def readBytes (tree : FileTree) (path : Text) : Except FileError (List UInt8) :=
  match tree.target path with
  | .error error => .error error
  | .ok (_, none) => .error (.missing path)
  | .ok (_, some .directory) => .error (.isDirectory path)
  | .ok (_, some (.file bytes)) =>
      if isSlashed path then .error (.notDirectory path) else .ok bytes

/-- The text of the file at a path, with single line breaks. -/
def readText (tree : FileTree) (path : Text) : Except FileError Text :=
  match tree.readBytes path with
  | .error error => .error error
  | .ok bytes =>
      match Text.Utf8.decode bytes with
      | .error error => .error (.undecodable error)
      | .ok text => .ok (Text.unifyNewlines text)

/-- Where a file can be written by a path, and the bytes that stand there so far.  A path that asks
for a directory is refused before its last part is looked up. -/
def writable (tree : FileTree) (path : Text) : Except FileError (Location × List UInt8) :=
  match tree.approach path with
  | .error error => .error error
  | .ok (directory, last) =>
      if isSlashed path then .error (.isDirectory path)
      else
        match tree.look path directory last with
        | .error error => .error error
        | .ok (_, some .directory) => .error (.isDirectory path)
        | .ok (location, some (.file bytes)) => .ok (location, bytes)
        | .ok (location, none) => .ok (location, [])

/-- Make the text the whole content of the file at a path. -/
def writeText (tree : FileTree) (path text : Text) : Except FileError FileTree :=
  match tree.writable path with
  | .error error => .error error
  | .ok (location, _) => .ok (tree.set location (.file (Text.Utf8.encode text)))

/-- Whether protection lets a location be written: what stands there must not be protected, nor, if
nothing does, the directory that it would be made in. -/
def mayWrite (tree : FileTree) (protection : Protection) (location : Location) : Bool :=
  match tree.get? location with
  | some _ => !protection location
  | none => !protection location.dropLast

/-- Make the text the whole content of the file at a path, as far as protection lets it. -/
def writeTextUnder (tree : FileTree) (protection : Protection) (path text : Text) :
    Except WriteError FileTree :=
  match tree.writable path with
  | .error error => .error (.unusable error)
  | .ok (location, _) =>
      if tree.mayWrite protection location then
        .ok (tree.set location (.file (Text.Utf8.encode text)))
      else
        .error (.denied path)

def appendText (tree : FileTree) (path text : Text) : Except FileError FileTree :=
  match tree.writable path with
  | .error error => .error error
  | .ok (location, bytes) => .ok (tree.set location (.file (bytes ++ Text.Utf8.encode text)))

/-- Make the directory at a path, unless it is there already. -/
def makeDirectory (tree : FileTree) (path : Text) : Except FileError FileTree :=
  match tree.target path with
  | .error error => .error error
  | .ok (_, some .directory) => .ok tree
  | .ok (_, some (.file _)) => .error (.inTheWay path)
  | .ok (location, none) => .ok (tree.set location .directory)

/-- Put a node at a path under the working directory, with the directories on the way. -/
def place (tree : FileTree) (parts : List Text) (node : Node) : FileTree :=
  let above := (Location.way parts.dropLast).map (tree.workingDirectory ++ ·)
  let prepared := above.foldl (fun tree location => tree.set location .directory) tree
  prepared.set (tree.workingDirectory ++ parts) node

/-- What is new or changed in a tree since `earlier`. -/
def changesSince (tree earlier : FileTree) : List (Location × Node) :=
  tree.nodes.entries.filter fun entry => earlier.get? entry.1 != some entry.2

/-- What is new or changed under the working directory, by the names that lead there from it. -/
def changesHere (tree earlier : FileTree) : List (List Text × Node) :=
  let base := tree.workingDirectory
  ((tree.changesSince earlier).filter (base.isPrefixOf ·.1)).map fun entry =>
    (entry.1.drop base.length, entry.2)

end HeaderOrder.FileTree
