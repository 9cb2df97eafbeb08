import HeaderOrder.Params

/-!
# Signatures

A signature identifies a function: its qualified name, and its parameters in normal form between
parentheses.  Overloads of one name have different signatures if their parameters differ in normal
form.
-/

namespace HeaderOrder

/-- The mark between a qualifier and a name. -/
def qualifierMark : Text := "::".toList

/-- A name under a qualifier. -/
def qualified (qualifier name : Text) : Text :=
  qualifier ++ qualifierMark ++ name

namespace Signature

/-- The signature of a function with this name and these parameters. -/
def of (name params : Text) : Text :=
  name ++ ['('] ++ Params.normalize params ++ [')']

/-- The text between the first and the second opening parenthesis of a signature, or up to its end
if there is only one.  A text without a parenthesis has none. -/
def params? (signature : Text) : Option Text :=
  match signature.splitOn '(' with
  | _ :: params :: _ => some params
  | _ => none

end Signature

/-- The part of a qualified name after its last qualifier; `current` holds, backwards, the part
read so far. -/
def simpleNameFrom (current : Text) : Text → Text
  | ':' :: ':' :: rest => simpleNameFrom [] rest
  | character :: rest => simpleNameFrom (character :: current) rest
  | [] => current.reverse

/-- The part of a qualified name after its last qualifier. -/
def simpleName (name : Text) : Text :=
  simpleNameFrom [] name

end HeaderOrder
