import HeaderOrder.Text.Basic
import HeaderOrder.Text.Word

/-!
# Parameter lists in normal form

Two parameter lists are taken for the same if their normal forms are equal.  A parameter text is
cut into clauses at the delimiters `,` and `)`.  In every clause the default value is dropped; in a
clause that a delimiter closes, a name after the type is dropped too; last go the blanks.  The last
clause of a text is open, since no delimiter follows it, and keeps its name.
-/

namespace HeaderOrder.Params

open HeaderOrder.Text

/-- Whether a character closes a clause. -/
def isDelimiter (character : Char) : Bool :=
  character == ',' || character == ')'

/-- A parameter text cut at its delimiters: the clauses that a delimiter closes, each with its
delimiter, and the open clause at the end. -/
structure Clauses where
  closed : List (Text × Char)
  last : Text
  deriving Repr, DecidableEq

namespace Clauses

/-- Put one character in front of a cut text. -/
def push (character : Char) (clauses : Clauses) : Clauses :=
  if isDelimiter character then
    ⟨([], character) :: clauses.closed, clauses.last⟩
  else
    match clauses.closed with
    | [] => ⟨[], character :: clauses.last⟩
    | (clause, delimiter) :: rest => ⟨(character :: clause, delimiter) :: rest, clauses.last⟩

def ofText (text : Text) : Clauses :=
  text.foldr push ⟨[], []⟩

def toText (clauses : Clauses) : Text :=
  clauses.closed.flatMap (fun clause => clause.1 ++ [clause.2]) ++ clauses.last

@[simp] theorem toText_push (character : Char) (clauses : Clauses) :
    (push character clauses).toText = character :: clauses.toText := by
  obtain ⟨closed, last⟩ := clauses
  cases closed <;> simp only [push, toText] <;> split <;> simp

/-- Cutting a text loses nothing. -/
@[simp] theorem toText_ofText (text : Text) : (ofText text).toText = text := by
  induction text with
  | nil => rfl
  | cons character rest ih =>
      rw [ofText, List.foldr_cons, toText_push, ← ofText, ih]

end Clauses

/-- A clause without its default value: everything from the first `=` on, and the blanks before it,
if there is anything after that `=`. -/
def dropDefault (clause : Text) : Text :=
  match clause.dropWhile (· != '=') with
  | _ :: _ :: _ => trimEnd (clause.takeWhile (· != '='))
  | _ => clause

/-- A clause without its last word and the blanks before it, if a word stands before those. -/
def dropName (clause : Text) : Text :=
  let backwards := clause.reverse
  let name := backwards.takeWhile isWord
  let beforeName := backwards.dropWhile isWord
  let gap := beforeName.takeWhile isBlank
  let type := beforeName.dropWhile isBlank
  if !name.isEmpty && !gap.isEmpty && type.head?.any isWord then type.reverse else clause

def dropBlanks (text : Text) : Text :=
  text.filter (!isBlank ·)

/-- The normal form of a clause that a delimiter closes. -/
def normalizeClosed (clause : Text) : Text :=
  dropBlanks (dropName (dropDefault clause))

/-- The normal form of the open clause at the end. -/
def normalizeLast (clause : Text) : Text :=
  dropBlanks (dropDefault clause)

/-- The clauses in normal form, with their delimiters. -/
def Clauses.normalize (clauses : Clauses) : Clauses :=
  ⟨clauses.closed.map fun clause => (normalizeClosed clause.1, clause.2),
   normalizeLast clauses.last⟩

def normalize (params : Text) : Text :=
  (Clauses.ofText params).normalize.toText

/-- Whether two parameter texts have the same normal form. -/
def same (left right : Text) : Bool :=
  normalize left == normalize right

theorem same_eq_true (left right : Text) :
    same left right = true ↔ normalize left = normalize right := by
  simp [same]

end HeaderOrder.Params
