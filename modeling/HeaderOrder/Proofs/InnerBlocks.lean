import HeaderOrder.Proofs.Outline

/-!
# What a block inside a scope leaves behind

The reader of a header counts no braces.  It takes every line with only `}` for the end of the
innermost namespace and every line with only `};` for the end of the class, whatever these lines
close.  A block that is properly nested and closed therefore still changes the scope around it:
each function body in it takes a namespace away, and a type in it takes the class away
(`Scope.after_linesOf`).  A declaration after the block keeps its qualified name exactly if what
was taken away does not show in that name.
-/

namespace HeaderOrder

open Text

/-! ## Blocks -/

/-- The head of a type; one of a class or of an `enum class` is read as that of a class, others are
not. -/
structure TypeLine where
  text : Text
  noNamespace : Grammar.namespaceHead.occursIn text = false
  noNamespaceEnd : trim text ≠ ['}']
  noClassEnd : trim text ≠ ['}', ';']

/-- What may stand between two lines of a header, properly nested: single lines, namespaces, types
that are closed by `};`, and function bodies that are closed by `}`. -/
inductive Nested where
  | single (line : PlainLine)
  | namespaceBlock (head : NamespaceLine) (inner : List Nested) (closing : Indent)
  | typeBlock (head : TypeLine) (inner : List Nested) (closing : Indent)
  | bodyBlock (head : PlainLine) (inner : List Nested) (closing : Indent)

mutual

def Nested.lines : Nested → List Text
  | .single line => [line.text]
  | .namespaceBlock head inner closing =>
      head.text :: (Nested.linesOf inner ++ [closing.closing []])
  | .typeBlock head inner closing =>
      head.text :: (Nested.linesOf inner ++ [closing.closing [';']])
  | .bodyBlock head inner closing =>
      head.text :: (Nested.linesOf inner ++ [closing.closing []])

def Nested.linesOf : List Nested → List Text
  | [] => []
  | block :: rest => block.lines ++ Nested.linesOf rest

end

mutual

def Nested.bodies : Nested → Nat
  | .single _ => 0
  | .namespaceBlock _ inner _ => Nested.bodiesOf inner
  | .typeBlock _ inner _ => Nested.bodiesOf inner
  | .bodyBlock _ inner _ => Nested.bodiesOf inner + 1

def Nested.bodiesOf : List Nested → Nat
  | [] => 0
  | block :: rest => block.bodies + Nested.bodiesOf rest

end

mutual

def Nested.holdsType : Nested → Bool
  | .single _ => false
  | .namespaceBlock _ inner _ => Nested.holdTypes inner
  | .typeBlock _ _ _ => true
  | .bodyBlock _ inner _ => Nested.holdTypes inner

def Nested.holdTypes : List Nested → Bool
  | [] => false
  | block :: rest => block.holdsType || Nested.holdTypes rest

end

/-! ## The scope after blocks -/

namespace Scope

/-- The scope after lines. -/
def after (scope : Scope) (lines : List Text) : Scope :=
  lines.foldl advance scope

@[simp] theorem after_nil (scope : Scope) : scope.after [] = scope := rfl

@[simp] theorem after_cons (scope : Scope) (line : Text) (rest : List Text) :
    scope.after (line :: rest) = (scope.advance line).after rest := rfl

@[simp] theorem after_append (scope : Scope) (left right : List Text) :
    scope.after (left ++ right) = (scope.after left).after right :=
  List.foldl_append

/-- A scope without so many of its namespaces, from the innermost on, and without its class if that
is said. -/
def without (scope : Scope) (count : Nat) (noClass : Bool) : Scope :=
  ⟨scope.namespaces.drop count, if noClass then none else scope.inClass⟩

theorem without_without (scope : Scope) (count further : Nat) (noClass noClassEither : Bool) :
    (scope.without count noClass).without further noClassEither =
      scope.without (count + further) (noClass || noClassEither) := by
  cases noClass <;> cases noClassEither <;> simp [without, List.drop_drop]

theorem namespaces_advance_typeLine (scope : Scope) (line : TypeLine) :
    (scope.advance line.text).namespaces = scope.namespaces := by
  have silent := Pattern.captures?_eq_none_of_occursIn line.noNamespace
  rw [advance, scope.openNamespace_eq_self silent, closeNamespace, if_neg line.noNamespaceEnd,
    closeClass, if_neg line.noClassEnd, openClass]
  split <;> rfl

mutual

/-- A block takes away a namespace for each function body in it, and the class if there is a type in
it. -/
theorem after_lines (scope : Scope) (block : Nested) :
    scope.after block.lines = scope.without block.bodies block.holdsType := by
  cases block with
  | single line => exact scope.advance_plainLine line
  | namespaceBlock head inner closing =>
      rw [Nested.lines, after_cons, after_append, advance_namespaceLine, after_linesOf, after_cons,
        after_nil, advance_namespaceEnd, without, List.tail_drop, Nested.bodies, Nested.holdsType]
      rfl
  | typeBlock head inner closing =>
      rw [Nested.lines, after_cons, after_append, after_linesOf, after_cons, after_nil,
        advance_classEnd, without, namespaces_advance_typeLine, Nested.bodies, Nested.holdsType]
      rfl
  | bodyBlock head inner closing =>
      rw [Nested.lines, after_cons, after_append, advance_plainLine, after_linesOf, after_cons,
        after_nil, advance_namespaceEnd, without, List.tail_drop, Nested.bodies, Nested.holdsType]
      rfl

theorem after_linesOf (scope : Scope) (blocks : List Nested) :
    scope.after (Nested.linesOf blocks) =
      scope.without (Nested.bodiesOf blocks) (Nested.holdTypes blocks) := by
  cases blocks with
  | nil => rfl
  | cons block rest =>
      rw [Nested.linesOf, after_append, after_lines, after_linesOf, without_without,
        Nested.bodiesOf, Nested.holdTypes]

end

/-! ## Names of scopes -/

/-- Whether all names of a scope are of a kind. -/
structure Named (kind : Text → Prop) (scope : Scope) : Prop where
  namespaces : ∀ name ∈ scope.namespaces, kind name
  inClass : ∀ name ∈ scope.inClass, kind name

theorem named_outermost (kind : Text → Prop) : outermost.Named kind := ⟨nofun, nofun⟩

/-- A name that is captured after a keyword is a word. -/
theorem isWord_of_captures? {keyword : Text} {pattern : Pattern}
    (reads : KeywordPattern keyword pattern) {line name : Text}
    (captured : pattern.captures? line = some [name]) :
    ∀ character ∈ name, isWord character = true := by
  obtain ⟨_, _, _, -, found⟩ := Pattern.matches_of_captures? captured
  obtain ⟨_, other, _, -, -, -, word, -, -, same⟩ := reads _ _ found
  obtain rfl := List.singleton_inj.1 same
  exact word

section

variable {kind : Text → Prop}
  (words : ∀ name : Text, (∀ character ∈ name, isWord character = true) → kind name)
include words

theorem named_openNamespace {scope : Scope} (named : scope.Named kind) (line : Text) :
    (scope.openNamespace line).Named kind := by
  rw [openNamespace]
  split
  · next name captured =>
      have word := isWord_of_captures? NamespaceLine.keywordPattern_namespaceHead captured
      exact ⟨List.forall_mem_cons.2 ⟨words name word, named.namespaces⟩, named.inClass⟩
  · exact named

theorem named_openClass {scope : Scope} (named : scope.Named kind) (line : Text) :
    (scope.openClass line).Named kind := by
  rw [openClass]
  split
  · next name captured =>
      have word := isWord_of_captures? ClassLine.keywordPattern_classHead captured
      exact ⟨named.namespaces, fun other member => Option.some.inj member ▸ words name word⟩
  · exact named

theorem named_advance {scope : Scope} (named : scope.Named kind) (line : Text) :
    (scope.advance line).Named kind := by
  have opened := named_openNamespace words named line
  have closed : ((scope.openNamespace line).closeNamespace line).Named kind := by
    rw [closeNamespace]
    split
    · exact ⟨fun name member => opened.namespaces name (List.mem_of_mem_tail member),
        opened.inClass⟩
    · exact opened
  have classOpened := named_openClass words closed line
  rw [advance, closeClass]
  split
  · exact ⟨classOpened.namespaces, fun name member => absurd member (Option.not_mem_none name)⟩
  · exact classOpened

/-- Reading lines brings only words into the names of a scope. -/
theorem named_after {scope : Scope} (named : scope.Named kind) (lines : List Text) :
    (scope.after lines).Named kind := by
  induction lines generalizing scope with
  | nil => exact named
  | cons line rest ih => exact ih (named_advance words named line)

end

/-- Whether no name of a scope is itself qualified. -/
structure Simple (scope : Scope) : Prop where
  namespaces : ∀ name ∈ scope.namespaces, ':' ∉ name
  inClass : ∀ name ∈ scope.inClass, ':' ∉ name

theorem simple_after {scope : Scope} (simple : scope.Simple) (lines : List Text) :
    (scope.after lines).Simple := by
  have colonless : ∀ name : Text, (∀ character ∈ name, isWord character = true) → ':' ∉ name :=
    fun name word member => absurd (word _ member) (by decide)
  have named := named_after colonless ⟨simple.namespaces, simple.inClass⟩ lines
  exact ⟨named.namespaces, named.inClass⟩

theorem ne_qualified (qualifier name : Text) : name ≠ qualified qualifier name := by
  intro same
  have lengths := congrArg List.length same
  have marks : qualifierMark.length = 2 := rfl
  rw [qualified, List.length_append, List.length_append] at lengths
  omega

theorem qualifiedBy_inj {left right : Option Text} {name : Text} :
    qualifiedBy left name = qualifiedBy right name ↔ left = right := by
  constructor
  · intro same
    cases left with
    | none =>
        cases right with
        | none => rfl
        | some text => exact absurd same (ne_qualified text name)
    | some text =>
        cases right with
        | none => exact absurd same.symm (ne_qualified text name)
        | some other =>
            exact congrArg some (List.append_cancel_right (List.append_cancel_right same))
  · rintro rfl
    rfl

theorem count_colon_qualified {qualifier : Text} (simple : ':' ∉ qualifier) (name : Text) :
    (qualified qualifier name).count ':' = name.count ':' + 2 := by
  have none := List.count_eq_zero.2 simple
  simp [qualified, qualifierMark, none]

/-- A name under a class is not the name without it, unless a namespace was added. -/
theorem qualifiedBy_ne_qualified {left right : Option Text} {className : Text}
    (simpleLeft : ∀ text ∈ left, ':' ∉ text) (simpleRight : ∀ text ∈ right, ':' ∉ text)
    (simpleClass : ':' ∉ className) (notAdded : right = none → left = none) (name : Text) :
    qualifiedBy left name ≠ qualifiedBy right (qualified className name) := by
  intro same
  have colons := congrArg (List.count ':') same
  cases right with
  | none =>
      rw [notAdded rfl, qualifiedBy, qualifiedBy, count_colon_qualified simpleClass] at colons
      omega
  | some outer =>
      rw [qualifiedBy, count_colon_qualified (simpleRight outer rfl),
        count_colon_qualified simpleClass] at colons
      cases left with
      | none =>
          rw [qualifiedBy] at colons
          omega
      | some text =>
          rw [qualifiedBy, count_colon_qualified (simpleLeft text rfl)] at colons
          omega

/-- Taking namespaces and the class away leaves a qualified name as it is exactly if neither the
class nor the innermost namespace changes. -/
theorem qualify_without_eq_iff {scope : Scope} (simple : scope.Simple) (count : Nat)
    (noClass : Bool) (name : Text) :
    (scope.without count noClass).qualify name = scope.qualify name ↔
      (noClass = true → scope.inClass = none) ∧
        (scope.namespaces.drop count).head? = scope.namespaces.head? := by
  obtain ⟨namespaces, inClass⟩ := scope
  have innermost : ∀ text ∈ namespaces.head?, ':' ∉ text := fun text member =>
    simple.namespaces text (List.mem_of_mem_head? member)
  have remaining : ∀ text ∈ (namespaces.drop count).head?, ':' ∉ text := fun text member =>
    simple.namespaces text (List.mem_of_mem_drop (List.mem_of_mem_head? member))
  have notAdded : namespaces.head? = none → (namespaces.drop count).head? = none := by
    intro outermost
    rw [List.head?_eq_none_iff.1 outermost, List.drop_nil]
    rfl
  rw [qualify_eq, qualify_eq]
  cases noClass with
  | false => exact qualifiedBy_inj.trans ⟨fun same => ⟨nofun, same⟩, And.right⟩
  | true =>
      cases inClass with
      | none => exact qualifiedBy_inj.trans ⟨fun same => ⟨fun _ => rfl, same⟩, And.right⟩
      | some className =>
          have changed := qualifiedBy_ne_qualified remaining innermost
            (simple.inClass className rfl) notAdded name
          constructor
          · intro same
            exact absurd same changed
          · rintro ⟨classless, -⟩
            cases classless rfl

end Scope

/-! ## Declarations after blocks -/

namespace Declarations

theorem readLines_append (scope : Scope) (declarations : Declarations) (left right : List Text) :
    readLines scope declarations (left ++ right) =
      readLines (scope.after left) (readLines scope declarations left) right := by
  induction left generalizing scope declarations with
  | nil => rfl
  | cons line rest ih => exact ih _ _

/-- A declaration is recorded under its name in the scope that the lines before it leave. -/
theorem ofHeader_declaration {header : Text} {before after : List Text} {line : DeclarationLine}
    (cut : Text.lines header = before ++ line.text :: after) :
    ofHeader header =
      readLines (Scope.outermost.after before)
        ((readLines Scope.outermost Catalog.empty before).insert
          (Signature.of ((Scope.outermost.after before).qualify line.name.text) line.params)
          ((Scope.outermost.after before).qualify line.name.text))
        after := by
  rw [ofHeader, cut, readLines_append, readLines, Scope.advance_declaration, record_declaration]

end Declarations

/-- A declaration stands after blocks that are properly nested and closed.  It is recorded as if
it stood in a scope without a namespace for each function body in the blocks and, if they hold a
type, without the class.  This gives the name that it has without the blocks exactly if no type
was closed in a class and the function bodies leave a namespace of the same name innermost, or
there was none. -/
theorem declaration_after_inner_blocks {header pruned : Text} {before after : List Text}
    {blocks : List Nested} {line : DeclarationLine} {scope left : Scope}
    (cut : Text.lines header = before ++ Nested.linesOf blocks ++ line.text :: after)
    (cutPruned : Text.lines pruned = before ++ line.text :: after)
    (enclosing : scope = Scope.outermost.after before)
    (remaining : left = scope.without (Nested.bodiesOf blocks) (Nested.holdTypes blocks)) :
    Declarations.ofHeader pruned = Declarations.readLines scope
        ((Declarations.readLines Scope.outermost Catalog.empty before).insert
          (Signature.of (scope.qualify line.name.text) line.params) (scope.qualify line.name.text))
        after ∧
    Declarations.ofHeader header = Declarations.readLines left
        ((Declarations.readLines Scope.outermost Catalog.empty
            (before ++ Nested.linesOf blocks)).insert
          (Signature.of (left.qualify line.name.text) line.params) (left.qualify line.name.text))
        after ∧
    (left.qualify line.name.text = scope.qualify line.name.text ↔
      (Nested.holdTypes blocks = true → scope.inClass = none) ∧
        (scope.namespaces.drop (Nested.bodiesOf blocks)).head? = scope.namespaces.head?) := by
  subst remaining enclosing
  have outermost : Scope.outermost.Simple := ⟨by simp [Scope.outermost], by simp [Scope.outermost]⟩
  have simple := Scope.simple_after outermost before
  have read := Declarations.ofHeader_declaration cut
  rw [Scope.after_append, Scope.after_linesOf] at read
  exact ⟨Declarations.ofHeader_declaration cutPruned, read,
    Scope.qualify_without_eq_iff simple _ _ _⟩

def enumBlock : Nested :=
  .typeBlock ⟨"enum class E \x7b".toList, by decide +kernel, by decide +kernel, by decide +kernel⟩
    [.single ⟨"X".toList, by decide +kernel, by decide +kernel, by decide +kernel,
      by decide +kernel⟩]
    Indent.none

/-- The declaration of a function without parameters. -/
def plainDeclaration : DeclarationLine :=
  ⟨Indent.none, ⟨"void".toList, rfl⟩, ⟨"f".toList, rfl⟩, [], by decide, by decide,
    Indent.none.plain⟩

/-- An enumeration in a class takes the class away from the declarations after it. -/
theorem declaration_after_inner_blocks_enum :
    (Declarations.ofHeader "class A \x7b\nvoid f();\n\x7d;".toList).entries =
        [("A::f()".toList, "A::f".toList)] ∧
      (Declarations.ofHeader
          "class A \x7b\nenum class E \x7b\nX\n\x7d;\nvoid f();\n\x7d;".toList).entries =
        [("f()".toList, "f".toList)] ∧
      Nested.holdTypes [enumBlock] = true ∧
      (Scope.outermost.after ["class A \x7b".toList]).inClass = some ['A'] := by
  have cut : Text.lines "class A \x7b\nenum class E \x7b\nX\n\x7d;\nvoid f();\n\x7d;".toList =
      ["class A \x7b".toList] ++ Nested.linesOf [enumBlock] ++
        plainDeclaration.text :: ["\x7d;".toList] := by
    decide +kernel
  have cutPruned : Text.lines "class A \x7b\nvoid f();\n\x7d;".toList =
      ["class A \x7b".toList] ++ plainDeclaration.text :: ["\x7d;".toList] := by
    decide +kernel
  obtain ⟨pruned, whole, -⟩ := declaration_after_inner_blocks cut cutPruned rfl rfl
  rw [pruned, whole]
  decide +kernel

end HeaderOrder
