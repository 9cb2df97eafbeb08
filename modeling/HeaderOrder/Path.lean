import HeaderOrder.Text.Quoted

/-!
# Paths

A path is taken apart by its text alone, without a look at the files.  Empty parts and parts that
are a single dot are dropped, parts that are two dots are kept.  A path may have a root, which is
one slash, or two if the text starts with exactly two.
-/

namespace HeaderOrder

/-- A path: its root, which is empty for a relative path, and its parts. -/
structure Path where
  root : Text
  parts : List Text
  deriving Repr, DecidableEq

namespace Path

/-- The root that a text starts with. -/
def rootOf (text : Text) : Text :=
  match (text.takeWhile (· == '/')).length with
  | 0 => []
  | 2 => ['/', '/']
  | _ => ['/']

/-- The parts of a text between slashes that name something. -/
def partsOf (text : Text) : List Text :=
  (text.splitOn '/').filter fun part => part != [] && part != ['.']

def ofText (text : Text) : Path :=
  ⟨rootOf text, partsOf text⟩

/-- The text of a path; the empty relative path is a single dot. -/
def toText (path : Path) : Text :=
  match path.root ++ List.intercalate ['/'] path.parts with
  | [] => ['.']
  | text => text

/-- The last part of a path, if it has any. -/
def name? (path : Path) : Option Text :=
  path.parts.getLast?

/-- The path of the directory that holds a path; a path without parts is its own. -/
def parent (path : Path) : Path :=
  { path with parts := path.parts.dropLast }

def child (path : Path) (part : Text) : Path :=
  { path with parts := path.parts ++ [part] }

/-- A name without its suffix.  The suffix starts at the last dot, unless that is the first or the
last character of the name. -/
def stem (name : Text) : Text :=
  let suffix := (name.reverse.takeWhile (· != '.')).length
  let rest := name.length - suffix
  -- `rest` characters end with the last dot, or are none if there is no dot
  if 2 ≤ rest && suffix != 0 then name.take (rest - 1) else name

/-- A path with the suffix of its name replaced, if it has a name. -/
def withSuffix? (path : Path) (suffix : Text) : Option Path :=
  path.name?.map fun name => path.parent.child (stem name ++ suffix)

/-- The path with its kind, as messages show it. -/
def shown (path : Path) : Text :=
  "PosixPath(".toList ++ Text.quoted path.toText ++ [')']

@[simp] theorem parent_child (path : Path) (part : Text) : (path.child part).parent = path := by
  simp [parent, child]

@[simp] theorem name?_child (path : Path) (part : Text) : (path.child part).name? = some part := by
  simp [name?, child]

end Path

end HeaderOrder
