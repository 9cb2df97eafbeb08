import HeaderOrder.Header
import HeaderOrder.Proofs.Lines
import HeaderOrder.Proofs.Shapes

/-!
# What the lines of a header do

The lines of a header in the usual layout: heads of namespaces and classes, the lines that close
them, and one-line declarations, each indented at will.  Each kind of line carries the proof that
it is well formed, and for each the effect on the scope is settled once (`Scope.advance_*`).
Names may be any identifiers, keywords included: what a pattern finds depends on where a word
stands and not on which word it is.
-/

namespace HeaderOrder

open Text

/-! ## Trimming -/

namespace Text

theorem mem_trim {text : Text} {character : Char} (member : character ∈ text)
    (visible : isBlank character = false) : character ∈ trim text := by
  have keeps : ∀ {items : Text}, character ∈ items → character ∈ items.dropWhile isBlank := by
    intro items inItems
    rw [← List.takeWhile_append_dropWhile (p := isBlank) (l := items)] at inItems
    rcases List.mem_append.1 inItems with before | after
    · have blank := List.mem_takeWhile_imp before
      rw [visible] at blank
      cases blank
    · exact after
  simp only [trim, trimEnd, trimStart, List.mem_reverse]
  exact keeps (List.mem_reverse.2 (keeps member))

theorem trim_ne_of_mem {text other : Text} (character : Char) (member : character ∈ text)
    (visible : isBlank character = false) (absent : character ∉ other) : trim text ≠ other := by
  intro same
  exact absent (same ▸ mem_trim member visible)

/-- Indentation goes, if what follows neither starts nor ends with a blank. -/
theorem trim_append {indent text : Text} (blank : ∀ character ∈ indent, isBlank character = true)
    (starts : ∀ character ∈ text.head?, isBlank character = false)
    (ends : ∀ character ∈ text.getLast?, isBlank character = false) :
    trim (indent ++ text) = text := by
  have keeps : ∀ {items : Text}, (∀ character ∈ items.head?, isBlank character = false) →
      items.dropWhile isBlank = items := by
    intro items visible
    cases items with
    | nil => rfl
    | cons first rest => rw [List.dropWhile_cons_of_neg (by simp [visible first rfl])]
  rw [trim, trimStart, List.dropWhile_append_of_pos blank, keeps starts, trimEnd,
    keeps (by simpa using ends), List.reverse_reverse]

end Text

/-! ## Parts of lines -/

structure Identifier where
  text : Text
  valid : isIdentifier text = true

/-- What stands in front of a line: blanks, without a line break. -/
structure Indent where
  text : Text
  blank : ∀ character ∈ text, isBlank character = true
  plain : '\n' ∉ text

def Indent.none : Indent := ⟨[], List.forall_mem_nil _, List.not_mem_nil⟩

namespace Identifier

theorem notMem (identifier : Identifier) (character : Char) (foreign : isWord character = false) :
    character ∉ identifier.text :=
  notMem_of_isIdentifier identifier.valid character foreign

end Identifier

/-- A pattern whose matches do not start with a blank is not found inside the indentation. -/
theorem Pattern.silent_of_blank {pattern : Pattern} {indent rest : Text}
    (blank : ∀ character ∈ indent, isBlank character = true)
    (starts : ∀ taken groups, pattern.Matches taken groups →
      ∃ first others, taken = first :: others ∧ isBlank first = false) :
    ∀ left right, indent = left ++ right → right ≠ [] → ¬ pattern.Begins (right ++ rest) := by
  rintro left right rfl some ⟨taken, after, groups, same, found⟩
  obtain ⟨first, others, rfl, visible⟩ := starts taken groups found
  obtain ⟨blankFirst, further, rfl⟩ := List.exists_cons_of_ne_nil some
  have equal : blankFirst = first := (List.cons.inj same).1
  have here := blank blankFirst (by simp)
  rw [equal, visible] at here
  cases here

/-! ## Lines that a pattern cannot match -/

/-- A line without a character that every match holds is not matched. -/
theorem captures?_eq_none_of_notMem {pattern : Pattern} (mark : Char)
    (holds : ∀ taken groups, pattern.Matches taken groups → mark ∈ taken) {line : Text}
    (absent : mark ∉ line) : pattern.captures? line = none := by
  apply Pattern.captures?_eq_none
  rintro before rest rfl ⟨taken, after, groups, rfl, found⟩
  exact absent (by simp [holds taken groups found])

namespace Grammar

theorem captures?_declaration_eq_none {line : Text} (absent : '(' ∉ line) :
    declaration.captures? line = none := by
  apply captures?_eq_none_of_notMem '(' ?_ absent
  intro taken groups found
  obtain ⟨lead, name, gap, params, tail, rfl, -⟩ := of_matches_declaration found
  simp

theorem captures?_namespaceHead_eq_none {line : Text} (absent : '{' ∉ line) :
    namespaceHead.captures? line = none := by
  apply captures?_eq_none_of_notMem '{' ?_ absent
  intro taken groups found
  obtain ⟨gap, name, after, rfl, -⟩ := matches_namespaceHead.1 found
  simp

theorem captures?_classHead_eq_none {line : Text} (absent : '{' ∉ line) :
    classHead.captures? line = none := by
  apply captures?_eq_none_of_notMem '{' ?_ absent
  intro taken groups found
  obtain ⟨gap, name, after, base, rfl, -⟩ := matches_classHead.1 found
  simp

end Grammar

/-! ## Declarations -/

/-- A declaration on one line. -/
structure DeclarationLine where
  indent : Indent
  result : Identifier
  name : Identifier
  params : Text
  closed : ')' ∉ params
  braceless : '{' ∉ params
  plain : '\n' ∉ params

namespace DeclarationLine

def content (line : DeclarationLine) : Text :=
  line.result.text ++ ' ' :: (line.name.text ++ '(' :: (line.params ++ [')', ';']))

def text (line : DeclarationLine) : Text :=
  line.indent.text ++ line.content

/-- However a declaration is read, its name and parameters are what they are. -/
theorem groups_of_matches (line : DeclarationLine) {taken after : Text} {groups : List Text}
    (split : line.content = taken ++ after) (found : Grammar.declaration.Matches taken groups) :
    groups = [line.name.text, line.params] := by
  obtain ⟨lead, name, gap, params, tail, rfl, leads, valid, blank, closed, rfl⟩ :=
    Grammar.of_matches_declaration found
  -- Both cuts at the first parenthesis are the same.
  have cut : line.result.text ++ ' ' :: line.name.text ++ '(' :: (line.params ++ [')', ';']) =
      lead ++ (name ++ gap) ++ '(' :: (params ++ ')' :: (tail ++ after)) := by
    simpa [content] using split
  obtain ⟨front, back⟩ := append_cons_inj_of_notMem
    (by simp [line.result.notMem '(' (by decide), line.name.notMem '(' (by decide)])
    (by simp [leads.noParenthesis, notMem_of_isIdentifier valid '(' (by decide),
      notMem_of_blank blank '(' (by decide)]) cut
  obtain rfl := (append_cons_inj_of_notMem line.closed closed back).1
  obtain rfl := leads.name_eq valid blank line.name.valid front
  rfl

theorem captures?_text (line : DeclarationLine) :
    Grammar.declaration.captures? line.text = some [line.name.text, line.params] := by
  have starts : ∀ taken groups, Grammar.declaration.Matches taken groups →
      ∃ first others, taken = first :: others ∧ isBlank first = false := by
    intro taken groups found
    obtain ⟨lead, name, gap, params, tail, rfl, leads, valid, -⟩ :=
      Grammar.of_matches_declaration found
    exact leads.exists_cons valid
  have whole := Grammar.matches_declaration line.result.valid line.name.valid line.closed
  apply Pattern.captures?_append (Pattern.silent_of_blank line.indent.blank starts)
  · exact ⟨line.content, [], _, (List.append_nil _).symm, whole⟩
  · intro taken after groups split found
    exact line.groups_of_matches split found

theorem brace_notMem (line : DeclarationLine) : '{' ∉ line.text := by
  simp [text, content, notMem_of_blank line.indent.blank '{' (by decide), line.braceless,
    line.result.notMem '{' (by decide), line.name.notMem '{' (by decide)]

theorem newline_notMem (line : DeclarationLine) : '\n' ∉ line.text := by
  simp [text, content, line.indent.plain, line.plain, line.result.notMem '\n' (by decide),
    line.name.notMem '\n' (by decide)]

theorem parenthesis_mem (line : DeclarationLine) : '(' ∈ line.text := by
  simp [text, content]

end DeclarationLine

/-! ## Names after a keyword -/

/-- After a keyword and a space, only the next identifier can be read as the name. -/
theorem Identifier.eq_of_keyword (name : Identifier) {gap found rest after : Text}
    (blank : ∀ character ∈ gap, isBlank character = true) (some : found ≠ [])
    (word : ∀ character ∈ found, isWord character = true)
    (restStop : ∀ character ∈ rest.head?, isWord character = false)
    (afterStop : ∀ character ∈ after.head?, isWord character = false)
    (same : ' ' :: (name.text ++ rest) = gap ++ (found ++ after)) : found = name.text := by
  have visible : ∀ {text others : Text}, text ≠ [] → (∀ character ∈ text, isWord character = true) →
      ∀ character ∈ (text ++ others).head?, isBlank character = false := by
    intro text others nonempty allWord character member
    obtain ⟨first, further, rfl⟩ := List.exists_cons_of_ne_nil nonempty
    exact isBlank_of_isWord (allWord character (List.mem_of_mem_head? member))
  have spaced : [' '] ++ (name.text ++ rest) = gap ++ (found ++ after) := same
  have names : name.text ++ rest = found ++ after :=
    (append_inj_of_head isBlank isBlank_of_mem_space
      (visible (ne_nil_of_isIdentifier name.valid) (isWord_of_mem_identifier name.valid)) blank
      (visible some word) spaced).2
  exact (append_inj_of_head isWord (isWord_of_mem_identifier name.valid) restStop word afterStop
    names).1.symm

/-- A pattern for a keyword, a name after it, and something that does not go on with the name.
Only the name is captured. -/
def KeywordPattern (keyword : Text) (pattern : Pattern) : Prop :=
  ∀ taken groups, pattern.Matches taken groups → ∃ gap name after,
    taken = keyword ++ (gap ++ (name ++ after)) ∧ (∀ character ∈ gap, isBlank character = true) ∧
    name ≠ [] ∧ (∀ character ∈ name, isWord character = true) ∧ after ≠ [] ∧
    (∀ character ∈ after.head?, isWord character = false) ∧ groups = [name]

/-- After blanks the name does not go on. -/
theorem isWord_head_append_blank {gap rest : Text}
    (blank : ∀ character ∈ gap, isBlank character = true)
    (stop : ∀ character ∈ rest.head?, isWord character = false) :
    ∀ character ∈ (gap ++ rest).head?, isWord character = false := by
  intro character member
  cases gap with
  | nil => exact stop character member
  | cons first others => exact isWord_of_isBlank (blank character (List.mem_of_mem_head? member))

/-- The name after a keyword is captured, wherever the line starts. -/
theorem KeywordPattern.captures?_line {keyword : Text} {pattern : Pattern}
    (reads : KeywordPattern keyword pattern) (valid : isIdentifier keyword = true) (indent : Indent)
    (name : Identifier) {rest : Text} (stop : ∀ character ∈ rest.head?, isWord character = false)
    (whole : pattern.Matches (keyword ++ ' ' :: (name.text ++ rest)) [name.text]) :
    pattern.captures? (indent.text ++ (keyword ++ ' ' :: (name.text ++ rest))) =
      some [name.text] := by
  have starts : ∀ taken groups, pattern.Matches taken groups →
      ∃ first others, taken = first :: others ∧ isBlank first = false := by
    intro taken groups found
    obtain ⟨gap, name, after, rfl, -⟩ := reads taken groups found
    exact Grammar.Leads.nil.exists_cons valid
  apply Pattern.captures?_append (Pattern.silent_of_blank indent.blank starts)
  · exact ⟨_, [], _, (List.append_nil _).symm, whole⟩
  · intro taken further groups split found
    obtain ⟨gap, other, after, rfl, blank, some, word, nonempty, afterStop, rfl⟩ :=
      reads taken groups found
    obtain ⟨first, others, rfl⟩ := List.exists_cons_of_ne_nil nonempty
    have stopThere : ∀ character ∈ (first :: others ++ further).head?, isWord character = false :=
      afterStop
    simp only [List.append_assoc] at split
    rw [name.eq_of_keyword blank some word stop stopThere (List.append_cancel_left split)]

/-- The only mark of its kind in a line, at the end of the line. -/
theorem eq_of_append_mark (mark : Char) {front before rest : Text} (absent : mark ∉ front)
    (same : front ++ [mark] = before ++ mark :: rest) : front = before := by
  rcases List.eq_nil_or_concat rest with rfl | ⟨others, last, rfl⟩
  · exact (List.append_inj' same rfl).1
  · have longer : front ++ [mark] = (before ++ mark :: others) ++ [last] := by simpa using same
    have equal := (List.append_inj' longer rfl).1
    exact absurd (by simp [equal]) absent

/-- Before the brace that ends a line, only the last identifier can be read as the name, so a
keyword in front of the name ends where the text in front of that identifier does. -/
theorem Identifier.keyword_eq (name : Identifier) (front keyword : Text)
    {before gap found after rest : Text}
    (braceless : '{' ∉ front)
    (frontEnd : ∀ character ∈ front.getLast?, isBlank character = false)
    (keywordValid : isIdentifier keyword = true)
    (wide : gap ≠ []) (blank : ∀ character ∈ gap, isBlank character = true) (some : found ≠ [])
    (word : ∀ character ∈ found, isWord character = true)
    (blankAfter : ∀ character ∈ after, isBlank character = true)
    (same : front ++ (' ' :: (name.text ++ [' ', '{'])) =
      before ++ (keyword ++ (gap ++ (found ++ (after ++ '{' :: rest))))) :
    before ++ keyword = front := by
  have nameWord := isWord_of_mem_identifier name.valid
  have space : ∀ character ∈ [' '], isWord character = false :=
    List.forall_mem_singleton.2 (by decide)
  have upToBrace : front ++ ' ' :: (name.text ++ [' ']) =
      before ++ (keyword ++ (gap ++ (found ++ after))) := by
    apply eq_of_append_mark '{'
    · simp [braceless, name.notMem '{' (by decide)]
    · simpa using same
  have spaced : (front ++ [' '] ++ name.text) ++ [' '] =
      (before ++ keyword ++ gap ++ found) ++ after := by
    simpa using upToBrace
  obtain ⟨upToName, -⟩ := append_inj_of_last isBlank (isBlank_last_identifier _ name.valid)
    isBlank_of_mem_space (forall_last_append some fun _ member => isBlank_of_isWord (word _ member))
    blankAfter spaced
  obtain ⟨upToGap, -⟩ := append_inj_of_last isWord
    (forall_last_append (List.cons_ne_nil _ _) space) nameWord
    (forall_last_append wide fun _ member => isWord_of_isBlank (blank _ member)) word upToName
  exact (append_inj_of_last isBlank frontEnd isBlank_of_mem_space
    (isBlank_last_identifier before keywordValid) blank upToGap).1.symm

/-! ## Heads of namespaces -/

structure NamespaceLine where
  indent : Indent
  name : Identifier

namespace NamespaceLine

def text (line : NamespaceLine) : Text :=
  line.indent.text ++ ("namespace".toList ++ ' ' :: (line.name.text ++ [' ', '{']))

theorem keywordPattern_namespaceHead :
    KeywordPattern "namespace".toList Grammar.namespaceHead := by
  intro taken groups found
  obtain ⟨gap, name, after, rfl, -, blank, some, word, blankAfter, rfl⟩ :=
    Grammar.matches_namespaceHead.1 found
  exact ⟨gap, name, after ++ ['{'], rfl, blank, some, word, by simp,
    isWord_head_append_blank blankAfter (by simp; decide), rfl⟩

theorem captures?_text (line : NamespaceLine) :
    Grammar.namespaceHead.captures? line.text = some [line.name.text] := by
  refine keywordPattern_namespaceHead.captures?_line (by decide) line.indent line.name
    (by simp; decide) ?_
  exact Grammar.matches_namespaceHead.2 ⟨[' '], line.name.text, [' '], rfl, by simp,
    isBlank_of_mem_space, ne_nil_of_isIdentifier line.name.valid,
    isWord_of_mem_identifier line.name.valid, isBlank_of_mem_space, rfl⟩

theorem captures?_classHead (line : NamespaceLine) :
    Grammar.classHead.captures? line.text = none := by
  apply Pattern.captures?_eq_none
  rintro before tail split ⟨taken, rest, groups, rfl, found⟩
  obtain ⟨gap, name, after, base, rfl, wide, blank, some, word, blankAfter, based, -⟩ :=
    Grammar.matches_classHead.1 found
  -- The line holds no colon, so there is no base class.
  have noColon : ':' ∉ line.text := by
    simp [text, notMem_of_blank line.indent.blank ':' (by decide), line.name.notMem ':' (by decide)]
  rcases Grammar.base_eq_nil_or_colon based with rfl | ⟨further, rfl⟩
  · have ended := line.name.keyword_eq (line.indent.text ++ "namespace".toList) "class".toList
      (by simp [notMem_of_blank line.indent.blank '{' (by decide)])
      (isBlank_last_identifier _ (by decide)) (by decide) wide blank some word blankAfter
      (by simpa [text] using split)
    have last := congrArg List.getLast? ended
    rw [List.getLast?_append, List.getLast?_append] at last
    exact absurd (show Option.some 's' = Option.some 'e' from last) (by decide)
  · exact noColon (by simp [split])

theorem parenthesis_notMem (line : NamespaceLine) : '(' ∉ line.text := by
  simp [text, notMem_of_blank line.indent.blank '(' (by decide), line.name.notMem '(' (by decide)]

theorem newline_notMem (line : NamespaceLine) : '\n' ∉ line.text := by
  simp [text, line.indent.plain, line.name.notMem '\n' (by decide)]

theorem brace_mem (line : NamespaceLine) : '{' ∈ line.text := by
  simp [text]

end NamespaceLine

/-! ## Heads of classes -/

/-- The head of a class, which may have a public base class. -/
structure ClassLine where
  indent : Indent
  name : Identifier
  base : Option Identifier

namespace ClassLine

/-- The base class in the head of a class, and the space after it. -/
def baseText : Option Identifier → Text
  | none => []
  | some base => ": public ".toList ++ (base.text ++ [' '])

@[simp] theorem baseText_none : baseText none = [] := rfl

@[simp] theorem baseText_some (base : Identifier) :
    baseText (some base) = ": public ".toList ++ (base.text ++ [' ']) := rfl

def text (line : ClassLine) : Text :=
  line.indent.text ++
    ("class".toList ++ ' ' :: (line.name.text ++ ' ' :: (baseText line.base ++ ['{'])))

theorem matches_baseText (base : Option Identifier) :
    (Pattern.optional Grammar.baseClass).Matches (baseText base) [] := by
  cases base with
  | none => exact Or.inr ⟨rfl, rfl⟩
  | some base => exact Grammar.matches_publicBase base.valid

theorem keywordPattern_classHead : KeywordPattern "class".toList Grammar.classHead := by
  intro taken groups found
  obtain ⟨gap, name, after, base, rfl, -, blank, some, word, blankAfter, based, rfl⟩ :=
    Grammar.matches_classHead.1 found
  refine ⟨gap, name, after ++ (base ++ ['{']), rfl, blank, some, word, by simp,
    isWord_head_append_blank blankAfter ?_, rfl⟩
  rcases Grammar.base_eq_nil_or_colon based with rfl | ⟨further, rfl⟩
  · simp; decide
  · simp; decide

theorem captures?_text (line : ClassLine) :
    Grammar.classHead.captures? line.text = some [line.name.text] := by
  refine keywordPattern_classHead.captures?_line (by decide) line.indent line.name
    (by simp; decide) ?_
  exact Grammar.matches_classHead.2 ⟨[' '], line.name.text, [' '], baseText line.base, rfl, by simp,
    isBlank_of_mem_space, ne_nil_of_isIdentifier line.name.valid,
    isWord_of_mem_identifier line.name.valid, isBlank_of_mem_space, matches_baseText line.base, rfl⟩

theorem captures?_namespaceHead (line : ClassLine) :
    Grammar.namespaceHead.captures? line.text = none := by
  apply Pattern.captures?_eq_none
  rintro before tail split ⟨taken, rest, groups, rfl, found⟩
  obtain ⟨gap, name, after, rfl, wide, blank, some, word, blankAfter, -⟩ :=
    Grammar.matches_namespaceHead.1 found
  have noBrace := notMem_of_blank line.indent.blank '{' (by decide)
  -- The identifier before the brace is the class or its base; no `namespace` stands in front of it.
  cases based : line.base with
  | none =>
      have ended := line.name.keyword_eq (line.indent.text ++ "class".toList) "namespace".toList
        (by simp [noBrace]) (isBlank_last_identifier _ (by decide)) (by decide)
        wide blank some word blankAfter (by simpa [text, based] using split)
      have last := congrArg List.getLast? ended
      rw [List.getLast?_append, List.getLast?_append] at last
      exact absurd (show Option.some 'e' = Option.some 's' from last) (by decide)
  | some base =>
      have ended := base.keyword_eq
        ((line.indent.text ++ ("class".toList ++ ' ' :: (line.name.text ++ [' ', ':', ' ']))) ++
          "public".toList)
        "namespace".toList (by simp [noBrace, line.name.notMem '{' (by decide)])
        (isBlank_last_identifier _ (by decide)) (by decide)
        wide blank some word blankAfter (by simpa [text, based] using split)
      have last := congrArg List.getLast? ended
      rw [List.getLast?_append, List.getLast?_append] at last
      exact absurd (show Option.some 'e' = Option.some 'c' from last) (by decide)

theorem parenthesis_notMem (line : ClassLine) : '(' ∉ line.text := by
  cases based : line.base with
  | none =>
      simp [text, based, notMem_of_blank line.indent.blank '(' (by decide),
        line.name.notMem '(' (by decide)]
  | some base =>
      simp [text, based, notMem_of_blank line.indent.blank '(' (by decide),
        line.name.notMem '(' (by decide), base.notMem '(' (by decide)]

theorem newline_notMem (line : ClassLine) : '\n' ∉ line.text := by
  cases based : line.base with
  | none =>
      simp [text, based, line.indent.plain, line.name.notMem '\n' (by decide)]
  | some base =>
      simp [text, based, line.indent.plain, line.name.notMem '\n' (by decide),
        base.notMem '\n' (by decide)]

theorem brace_mem (line : ClassLine) : '{' ∈ line.text := by
  simp [text]

end ClassLine

/-! ## The other lines -/

/-- The line that closes a block with a brace and what follows the brace. -/
def Indent.closing (indent : Indent) (mark : Text) : Text :=
  indent.text ++ '}' :: mark

namespace Indent

theorem notMem_closing (indent : Indent) (mark : Text) (character : Char)
    (visible : isBlank character = false) (absent : character ∉ '}' :: mark) :
    character ∉ indent.closing mark := by
  rw [closing, List.mem_append]
  exact not_or.2 ⟨notMem_of_blank indent.blank character visible, absent⟩

theorem trim_closing (indent : Indent) (mark : Text)
    (ends : ∀ character ∈ ('}' :: mark).getLast?, isBlank character = false) :
    trim (indent.closing mark) = '}' :: mark :=
  trim_append indent.blank (by simp; decide) ends

theorem newline_notMem_closing (indent : Indent) (mark : Text) (absent : '\n' ∉ '}' :: mark) :
    '\n' ∉ indent.closing mark := by
  rw [closing, List.mem_append]
  exact not_or.2 ⟨indent.plain, absent⟩

end Indent

/-- A line that opens no namespace and no class and closes nothing. -/
structure PlainLine where
  text : Text
  noNamespace : Grammar.namespaceHead.occursIn text = false
  noClass : Grammar.classHead.occursIn text = false
  noNamespaceEnd : trim text ≠ ['}']
  noClassEnd : trim text ≠ ['}', ';']

/-- A line that declares nothing either. -/
structure NeutralLine extends PlainLine where
  noDeclaration : Grammar.declaration.occursIn text = false
  plain : '\n' ∉ text

theorem Pattern.captures?_eq_none_of_occursIn {pattern : Pattern} {text : Text}
    (absent : pattern.occursIn text = false) : pattern.captures? text = none := by
  rw [← Pattern.isSome_captures?] at absent
  exact Option.isNone_iff_eq_none.1 (Option.isSome_eq_false_iff.1 absent)

/-! ## What each line does to the scope -/

namespace Scope

theorem openNamespace_eq_self {line : Text} (scope : Scope)
    (silent : Grammar.namespaceHead.captures? line = none) : scope.openNamespace line = scope := by
  rw [openNamespace, silent]

theorem openClass_eq_self {line : Text} (scope : Scope)
    (silent : Grammar.classHead.captures? line = none) : scope.openClass line = scope := by
  rw [openClass, silent]

/-- A line that opens and closes nothing leaves the scope as it is. -/
theorem advance_eq_self {line : Text} (scope : Scope)
    (noNamespace : Grammar.namespaceHead.captures? line = none)
    (noClass : Grammar.classHead.captures? line = none) (noNamespaceEnd : trim line ≠ ['}'])
    (noClassEnd : trim line ≠ ['}', ';']) : scope.advance line = scope := by
  rw [advance, scope.openNamespace_eq_self noNamespace, closeNamespace, if_neg noNamespaceEnd,
    scope.openClass_eq_self noClass, closeClass, if_neg noClassEnd]

theorem advance_declaration (scope : Scope) (line : DeclarationLine) :
    scope.advance line.text = scope := by
  apply advance_eq_self
  · exact Grammar.captures?_namespaceHead_eq_none line.brace_notMem
  · exact Grammar.captures?_classHead_eq_none line.brace_notMem
  · exact trim_ne_of_mem '(' line.parenthesis_mem (by decide) (by decide)
  · exact trim_ne_of_mem '(' line.parenthesis_mem (by decide) (by decide)

theorem advance_plainLine (scope : Scope) (line : PlainLine) : scope.advance line.text = scope :=
  scope.advance_eq_self (Pattern.captures?_eq_none_of_occursIn line.noNamespace)
    (Pattern.captures?_eq_none_of_occursIn line.noClass) line.noNamespaceEnd line.noClassEnd

/-- The head of a namespace opens it. -/
theorem advance_namespaceLine (scope : Scope) (line : NamespaceLine) :
    scope.advance line.text = { scope with namespaces := line.name.text :: scope.namespaces } := by
  have noNamespaceEnd : trim line.text ≠ ['}'] :=
    trim_ne_of_mem '{' line.brace_mem (by decide) (by decide)
  have noClassEnd : trim line.text ≠ ['}', ';'] :=
    trim_ne_of_mem '{' line.brace_mem (by decide) (by decide)
  rw [advance, openNamespace, line.captures?_text, closeNamespace, if_neg noNamespaceEnd,
    openClass_eq_self _ line.captures?_classHead, closeClass, if_neg noClassEnd]

/-- The head of a class opens it. -/
theorem advance_classLine (scope : Scope) (line : ClassLine) :
    scope.advance line.text = { scope with inClass := some line.name.text } := by
  have noNamespaceEnd : trim line.text ≠ ['}'] :=
    trim_ne_of_mem '{' line.brace_mem (by decide) (by decide)
  have noClassEnd : trim line.text ≠ ['}', ';'] :=
    trim_ne_of_mem '{' line.brace_mem (by decide) (by decide)
  rw [advance, openNamespace_eq_self _ line.captures?_namespaceHead, closeNamespace,
    if_neg noNamespaceEnd, openClass, line.captures?_text, closeClass, if_neg noClassEnd]

/-- A line with only a closing brace ends the innermost namespace. -/
theorem advance_namespaceEnd (scope : Scope) (indent : Indent) :
    scope.advance (indent.closing []) = { scope with namespaces := scope.namespaces.tail } := by
  have trimmed := indent.trim_closing [] (by simp; decide)
  have braceless := indent.notMem_closing [] '{' (by decide) (by decide)
  rw [advance, scope.openNamespace_eq_self (Grammar.captures?_namespaceHead_eq_none braceless),
    closeNamespace, if_pos trimmed,
    openClass_eq_self _ (Grammar.captures?_classHead_eq_none braceless), closeClass, trimmed,
    if_neg (by decide)]

/-- A line with only a closing brace and a semicolon ends the class. -/
theorem advance_classEnd (scope : Scope) (indent : Indent) :
    scope.advance (indent.closing [';']) = { scope with inClass := none } := by
  have trimmed := indent.trim_closing [';'] (by simp; decide)
  have braceless := indent.notMem_closing [';'] '{' (by decide) (by decide)
  rw [advance, scope.openNamespace_eq_self (Grammar.captures?_namespaceHead_eq_none braceless),
    closeNamespace, trimmed, if_neg (by decide),
    openClass_eq_self _ (Grammar.captures?_classHead_eq_none braceless), closeClass, trimmed,
    if_pos rfl]

end Scope

end HeaderOrder
