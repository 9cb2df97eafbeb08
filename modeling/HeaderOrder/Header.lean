import HeaderOrder.Catalog
import HeaderOrder.Grammar
import HeaderOrder.Signature

/-!
# Declarations of a header

A header is read line by line.  The scope at a line is the stack of open namespaces and the class,
if any; heads of namespaces and classes open them, a line with only `}` closes the innermost
namespace, and a line with only `};` closes the class.  A declaration on a line is recorded under
its signature, qualified by the class and by the innermost namespace.
-/

namespace HeaderOrder

/-- What encloses a line of a header: the open namespaces, the innermost first, and the class. -/
structure Scope where
  namespaces : List Text
  inClass : Option Text
  deriving Repr, DecidableEq

namespace Scope

/-- Outside of every namespace and class. -/
def outermost : Scope := ⟨[], none⟩

/-- The scope after the namespace that a line opens, if it opens one. -/
def openNamespace (scope : Scope) (line : Text) : Scope :=
  match Grammar.namespaceHead.captures? line with
  | some [name] => { scope with namespaces := name :: scope.namespaces }
  | _ => scope

/-- The scope after the end of the innermost namespace, if a line ends it. -/
def closeNamespace (scope : Scope) (line : Text) : Scope :=
  if Text.trim line = ['}'] then { scope with namespaces := scope.namespaces.tail } else scope

/-- The scope after the class that a line opens, if it opens one. -/
def openClass (scope : Scope) (line : Text) : Scope :=
  match Grammar.classHead.captures? line with
  | some [name] => { scope with inClass := some name }
  | _ => scope

/-- The scope after the end of the class, if a line ends it. -/
def closeClass (scope : Scope) (line : Text) : Scope :=
  if Text.trim line = ['}', ';'] then { scope with inClass := none } else scope

/-- The scope in which a declaration on this line stands, and in which the next line is read. -/
def advance (scope : Scope) (line : Text) : Scope :=
  (((scope.openNamespace line).closeNamespace line).openClass line).closeClass line

/-- A name under the class of a scope. -/
def underClass (scope : Scope) (name : Text) : Text :=
  match scope.inClass with
  | some className => qualified className name
  | none => name

/-- A name under the class and the innermost namespace of a scope. -/
def qualify (scope : Scope) (name : Text) : Text :=
  match scope.namespaces with
  | innermost :: _ => qualified innermost (scope.underClass name)
  | [] => scope.underClass name

end Scope

/-- The declarations of a header: for each signature the qualified name that it was made of, in the
order of the declarations. -/
abbrev Declarations := Catalog Text Text

namespace Declarations

/-- Record the declaration of a line that stands in the given scope. -/
def record (declarations : Declarations) (scope : Scope) (line : Text) : Declarations :=
  match Grammar.declaration.captures? line with
  | some [name, params] =>
      let fullName := scope.qualify name
      declarations.insert (Signature.of fullName params) fullName
  | _ => declarations

/-- Read lines from a scope on, and add their declarations. -/
def readLines (scope : Scope) (declarations : Declarations) : List Text → Declarations
  | [] => declarations
  | line :: rest =>
      readLines (scope.advance line) (declarations.record (scope.advance line) line) rest

def ofHeader (header : Text) : Declarations :=
  readLines Scope.outermost Catalog.empty (Text.lines header)

end Declarations

end HeaderOrder
