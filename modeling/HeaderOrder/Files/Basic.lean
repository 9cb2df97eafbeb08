import HeaderOrder.Catalog
import HeaderOrder.Text.Quoted
import HeaderOrder.Text.Utf8

/-!
# File trees and file errors

A file tree says what stands at each location: a file with its bytes, or a directory.  A location
is the list of names that lead to it from the root; the root is always a directory.

Links, owners and times are left out.  Every file can be read and every directory can be searched;
which locations must not be written is no part of the tree but said beside it, by a `Protection`.
-/

namespace HeaderOrder

/-- What can stand at a location. -/
inductive Node where
  | file (bytes : List UInt8)
  | directory
  deriving Repr, DecidableEq

/-- The names that lead from the root to a place. -/
abbrev Location := List Text

/-- The locations on the way from below the root to a location, itself included. -/
def Location.way (location : Location) : List Location :=
  (List.range location.length).map fun count => location.take (count + 1)

/-- A tree of files and directories, and the directory from which relative paths start. -/
structure FileTree where
  nodes : Catalog Location Node
  workingDirectory : Location
  deriving Repr, DecidableEq

namespace FileTree

def get? (tree : FileTree) (location : Location) : Option Node :=
  match location with
  | [] => some .directory
  | _ => tree.nodes.get? location

def set (tree : FileTree) (location : Location) (node : Node) : FileTree :=
  { tree with nodes := tree.nodes.insert location node }

/-- The tree of nothing but a working directory and the directories above it. -/
def bare (workingDirectory : Location) : FileTree :=
  ⟨Catalog.ofList ((Location.way workingDirectory).map fun location => (location, .directory)),
   workingDirectory⟩

@[simp] theorem get?_set_of_ne (tree : FileTree) (location query : Location) (node : Node)
    (differ : location ≠ query) : (tree.set location node).get? query = tree.get? query := by
  cases query with
  | nil => rfl
  | cons name rest => simp [get?, set, Catalog.get?_insert, differ]

end FileTree

/-- Which locations are write-protected.  A protected file keeps its bytes, and in a protected
directory nothing is made. -/
abbrev Protection := Location → Bool

def Protection.none : Protection := fun _ => false

/-- Why a path cannot be used as asked. -/
inductive FileError where
  /-- Nothing stands there. -/
  | missing (path : Text)
  /-- Something stands there already, and is no directory. -/
  | inTheWay (path : Text)
  /-- A file stands where a directory is needed. -/
  | notDirectory (path : Text)
  /-- A directory stands where a file is needed. -/
  | isDirectory (path : Text)
  /-- The path, or a name in it, is longer than any can be. -/
  | nameTooLong (path : Text)
  /-- No file can have such a path. -/
  | nullInPath
  /-- The file's bytes are no text. -/
  | undecodable (error : Text.Utf8.DecodeError)
  deriving Repr, DecidableEq

namespace FileError

/-- The text of an error of the system, with its number and the path in question. -/
def system (number : Nat) (text : String) (path : Text) : Text :=
  "[Errno ".toList ++ Text.ofNat number ++ "] ".toList ++ text.toList ++ ": ".toList ++
    Text.quoted path

def message : FileError → Text
  | .missing path => system 2 "No such file or directory" path
  | .inTheWay path => system 17 "File exists" path
  | .notDirectory path => system 20 "Not a directory" path
  | .isDirectory path => system 21 "Is a directory" path
  | .nameTooLong path => system 36 "File name too long" path
  | .nullInPath => "embedded null byte".toList
  | .undecodable error => error.message

end FileError

/-- Why a text cannot be written where write protection is in force. -/
inductive WriteError where
  /-- The path cannot be used so. -/
  | unusable (error : FileError)
  /-- What the path leads to is protected. -/
  | denied (path : Text)
  deriving Repr, DecidableEq

def WriteError.message : WriteError → Text
  | .unusable error => error.message
  | .denied path => FileError.system 13 "Permission denied" path

end HeaderOrder
