import HeaderOrder.Pattern.Search
import HeaderOrder.Text.Word

/-!
# The lines of C++ that matter

Five patterns say which lines of a C++ file open a class or a namespace, declare a function, or
begin the definition of one.  Each is looked for inside one line, at any place of it.

The patterns follow the usual layout and not the whole language: a declaration is complete on its
line, a definition has its opening brace on the line of its name, a type is a name or a name with
one qualifier, and parameters end at the first closing parenthesis.
-/

namespace HeaderOrder.Grammar

open Pattern

def blanks : Pattern := .run Text.isBlank

/-- At least one blank. -/
def blanks1 : Pattern := .run1 Text.isBlank

/-- A nonempty run of word characters. -/
def word : Pattern := .run1 Text.isWord

/-- An identifier: a word that starts with an ASCII letter or an underscore. -/
def identifier : Pattern := .one Text.isIdentifierStart ++ .run Text.isWord

/-- An identifier with at most one qualifier in front of it. -/
def qualifiedName : Pattern :=
  identifier ++ .optional (.exactly "::".toList ++ identifier)

/-- A word that may stand in front, set off by blanks. -/
def leading (text : String) : Pattern :=
  .optional (.exactly text.toList ++ blanks1)

/-- A word that may follow, with the blanks after it. -/
def trailing (text : String) : Pattern :=
  .optional (.exactly text.toList ++ blanks)

/-- A mark of equality and a word after it, which may follow a declaration. -/
def assigned (text : String) : Pattern :=
  .optional (.sequence [.exactly ['='], blanks, .exactly text.toList, blanks])

/-- A result type and the blanks after it. -/
def resultType : Pattern := qualifiedName ++ blanks1

/-- Parameters in parentheses, as a group, and the blanks after them. -/
def parameters : Pattern :=
  .sequence [.exactly ['('], .group (.run (· != ')')), .exactly [')'], blanks]

def access : Pattern :=
  .either (.exactly "public".toList)
    (.either (.exactly "protected".toList) (.exactly "private".toList))

/-- A base class after a class's name, with its access. -/
def baseClass : Pattern :=
  .sequence [.exactly [':'], blanks, access, blanks1, word, blanks]

/-- The head of a class, with the class's name as its group. -/
def classHead : Pattern :=
  .sequence [.exactly "class".toList, blanks1, .group word, blanks, .optional baseClass,
    .exactly ['{']]

/-- The head of a namespace, with the namespace's name as its group. -/
def namespaceHead : Pattern :=
  .sequence [.exactly "namespace".toList, blanks1, .group word, blanks, .exactly ['{']]

/-- The declaration of a function, with its name and its parameters as groups. -/
def declaration : Pattern :=
  .sequence [leading "virtual", leading "static", leading "const", leading "inline",
    leading "explicit", .optional resultType, .group identifier, blanks, parameters,
    trailing "const", trailing "noexcept", trailing "override", trailing "final",
    assigned "0", assigned "default", assigned "delete", .exactly [';']]

/-- The head of a member function's definition, with the qualifier, the name and the parameters as
groups. -/
def memberHead : Pattern :=
  .sequence [leading "static", leading "inline", .optional resultType,
    .group qualifiedName, blanks, .exactly "::".toList, blanks, .group identifier, blanks,
    parameters, trailing "const", trailing "noexcept", trailing "override", trailing "final",
    trailing "try", .exactly ['{']]

/-- The head of a free function's definition, with the name and the parameters as groups.  Here the
result type is required. -/
def freeHead : Pattern :=
  .sequence [leading "static", leading "inline", resultType, .group identifier, blanks,
    parameters, trailing "const", trailing "noexcept", trailing "try", .exactly ['{']]

end HeaderOrder.Grammar
