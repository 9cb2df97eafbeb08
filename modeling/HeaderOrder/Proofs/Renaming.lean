import HeaderOrder.Proofs.Fallback
import HeaderOrder.Proofs.ParamLists

/-!
# Names of parameters

A definition may give its parameters other names than its declaration does.  The normal form is
meant to be without names, and two lists of the same types would then always agree.  A name is
dropped, though, only if a delimiter follows it and a word stands before it.  The last name of a
list has no delimiter after it, and a name behind the mark of a pointer or a reference has no word
before it: these names stay.

So the two lists agree exactly if the names that stay are the same in both, and exactly then the
declaration is found for the definition.
-/

namespace HeaderOrder

namespace Params

open Text

/-! ## Types and named parameters -/

/-- The mark of a pointer or of a reference. -/
inductive Mark where
  | pointer
  | reference

def Mark.symbol : Mark → Char
  | .pointer => '*'
  | .reference => '&'

/-- A type: words, and after them a mark if there is one, set off by any number of spaces. -/
structure ParamType where
  words : Words
  mark : Option (Nat × Mark)

namespace ParamType

/-- The text of the mark, with the spaces in front of it. -/
def markText : Option (Nat × Mark) → Text
  | some (spaces, mark) => List.replicate spaces ' ' ++ [mark.symbol]
  | none => []

def text (type : ParamType) : Text :=
  type.words.text ++ markText type.mark

/-- The text of a type without its blanks. -/
def solid (type : ParamType) : Text :=
  type.words.glued ++ (type.mark.map (·.2.symbol)).toList

theorem dropBlanks_text (type : ParamType) : dropBlanks type.text = type.solid := by
  obtain ⟨words, mark⟩ := type
  rw [text, solid, dropBlanks_append, words.dropBlanks_text]
  rcases mark with _ | ⟨spaces, mark⟩
  · rfl
  · have blank : ∀ character ∈ List.replicate spaces ' ', isBlank character = true := by
      intro character member
      rw [List.eq_of_mem_replicate member]
      decide
    have symbol : dropBlanks [mark.symbol] = [mark.symbol] := by cases mark <;> decide
    rw [markText, dropBlanks_append, dropBlanks_of_blank blank, symbol]
    rfl

end ParamType

/-- A parameter with a name. -/
structure Param where
  type : ParamType
  name : Identifier

namespace Param

def text (param : Param) : Text :=
  param.type.text ++ [' '] ++ param.name.text

/-- The normal form of a parameter in the last clause. -/
def lastForm (param : Param) : Text :=
  param.type.solid ++ param.name.text

/-- The normal form of a parameter in a closed clause. -/
def closedForm (param : Param) : Text :=
  if param.type.mark.isSome then param.lastForm else param.type.solid

theorem isWord_or_mem (param : Param) :
    ∀ character ∈ param.text, isWord character = true ∨ character ∈ [' ', '*', '&'] := by
  obtain ⟨⟨words, mark⟩, name⟩ := param
  intro character member
  simp only [text, ParamType.text, List.mem_append, List.mem_singleton] at member
  rcases member with ((inWords | inMark) | rfl) | inName
  · exact (words.isWord_or_eq_space character inWords).imp_right (by simp +contextual)
  · rcases mark with _ | ⟨spaces, mark⟩
    · cases inMark
    · rcases List.mem_append.1 inMark with inSpaces | isSymbol
      · simp [List.eq_of_mem_replicate inSpaces]
      · cases mark <;> simp [List.mem_singleton.1 isSymbol, Mark.symbol]
  · simp
  · exact Or.inl (isWord_of_mem_identifier name.valid character inName)

theorem notMem_text (param : Param) (character : Char) (foreign : isWord character = false)
    (other : character ∉ [' ', '*', '&']) : character ∉ param.text := by
  intro member
  rcases param.isWord_or_mem character member with word | mark
  · rw [foreign] at word
    cases word
  · exact other mark

theorem dropBlanks_text (param : Param) : dropBlanks param.text = param.lastForm := by
  rw [text, dropBlanks_append, dropBlanks_append, param.type.dropBlanks_text,
    dropBlanks_of_blank isBlank_of_mem_space, dropBlanks_identifier, List.append_nil, lastForm]

/-- A name stays behind a mark and goes behind a word. -/
theorem normalizeClosed_text (param : Param) {lead : Text}
    (blank : ∀ character ∈ lead, isBlank character = true) :
    normalizeClosed (lead ++ param.text) = param.closedForm := by
  obtain ⟨⟨words, mark⟩, name⟩ := param
  rcases mark with _ | ⟨spaces, mark⟩
  · have whole : text ⟨⟨words, none⟩, name⟩ = (words.concat name).text := by
      simp [text, ParamType.text, ParamType.markText, words.text_concat]
    rw [whole, words.normalizeClosed_concat name blank]
    simp [closedForm, ParamType.solid]
  · let marked : Param := ⟨⟨words, some (spaces, mark)⟩, name⟩
    have noMark := marked.notMem_text '=' (by decide) (by decide)
    have symbolLast : ∀ character ∈ (lead ++ marked.type.text).getLast?,
        isWord character = false ∧ isBlank character = false := by
      have whole : lead ++ marked.type.text =
          lead ++ words.text ++ List.replicate spaces ' ' ++ [mark.symbol] := by
        simp [marked, ParamType.text, ParamType.markText]
      rw [whole, List.getLast?_concat]
      rintro _ ⟨⟩
      cases mark <;> decide
    have stays : dropName (lead ++ marked.text) = lead ++ marked.text := by
      have kept := dropName_eq_self symbolLast isBlank_of_mem_space
        (isWord_of_mem_identifier name.valid)
      simpa [text] using kept
    rw [normalizeClosed_append_blank blank noMark stays, marked.dropBlanks_text]
    rfl

theorem readsAs : ReadsAs text closedForm lastForm where
  undelimited param character member := by
    rcases param.isWord_or_mem character member with word | mark
    · exact isDelimiter_of_isWord word
    · simp only [List.mem_cons, List.not_mem_nil, or_false] at mark
      rcases mark with rfl | rfl | rfl <;> decide
  closed_eq param lead blank := param.normalizeClosed_text blank
  last_eq param lead blank := by
    rw [normalizeLast_append_blank blank (param.notMem_text '=' (by decide) (by decide)),
      param.dropBlanks_text]
  closed_ne_nil param := by
    rw [closedForm, lastForm]
    split <;> simp [ParamType.solid, param.type.words.glued_ne_nil]
  last_ne_nil param := by
    simp [lastForm, ParamType.solid, param.type.words.glued_ne_nil]

theorem notMem_listed {params : List Param} (character : Char)
    (foreign : isWord character = false) (other : character ∉ [' ', '*', '&'])
    (noComma : character ≠ ',') : character ∉ listed (params.map Param.text) := by
  have apart : character ∉ [',', ' '] := by
    simp only [List.mem_cons, List.not_mem_nil, or_false, not_or] at other ⊢
    exact ⟨noComma, other.1⟩
  rw [listed, mem_intercalate_iff apart]
  rintro ⟨part, inList, member⟩
  obtain ⟨param, -, rfl⟩ := List.mem_map.1 inList
  exact param.notMem_text character foreign other member

end Param

/-! ## Two names for each parameter -/

/-- A parameter with the name that it has in a declaration and the one in a definition. -/
structure Renaming where
  type : ParamType
  declared : Identifier
  defined : Identifier

namespace Renaming

def inDeclaration (param : Renaming) : Param :=
  ⟨param.type, param.declared⟩

def inDefinition (param : Renaming) : Param :=
  ⟨param.type, param.defined⟩

/-- The parameters of a list whose names stay: those with a mark, and the last. -/
def keepingNames (params : List Renaming) : List Renaming :=
  params.dropLast.filter (·.type.mark.isSome) ++ params.getLast?.toList

theorem lastForm_eq_iff (param : Renaming) :
    param.inDeclaration.lastForm = param.inDefinition.lastForm ↔
      param.declared.text = param.defined.text := by
  simp [Param.lastForm, inDeclaration, inDefinition]

theorem closedForm_eq_iff (param : Renaming) :
    param.inDeclaration.closedForm = param.inDefinition.closedForm ↔
      (param.type.mark.isSome = true → param.declared.text = param.defined.text) := by
  have last := param.lastForm_eq_iff
  cases marked : param.type.mark.isSome with
  | false => simp [Param.closedForm, inDeclaration, inDefinition, marked]
  | true => simpa [Param.closedForm, inDeclaration, inDefinition, marked] using last

/-- The forms of the parameters agree exactly if the names that stay do. -/
theorem formsOf_eq_iff (params : List Renaming) :
    formsOf Param.closedForm Param.lastForm (params.map inDeclaration) =
        formsOf Param.closedForm Param.lastForm (params.map inDefinition) ↔
      ∀ param ∈ keepingNames params, param.declared.text = param.defined.text := by
  induction params with
  | nil => simp [formsOf, keepingNames]
  | cons param others ih =>
      cases others with
      | nil => simpa [formsOf, keepingNames] using param.lastForm_eq_iff
      | cons next rest =>
          have later : keepingNames (param :: next :: rest) =
              [param].filter (·.type.mark.isSome) ++ keepingNames (next :: rest) := by
            rw [keepingNames, keepingNames, List.dropLast_cons_of_ne_nil (List.cons_ne_nil _ _),
              List.getLast?_cons_cons, ← List.append_assoc, ← List.filter_append,
              List.singleton_append]
          simp only [List.map_cons] at ih ⊢
          rw [formsOf, formsOf, List.cons.injEq, param.closedForm_eq_iff, later,
            List.forall_mem_append, ← ih]
          simp

end Renaming

end Params

open Params in
/-- The parameters of a declaration and of a definition have the same types, and names of their
own.  The two lists are taken for the same exactly if the names that stay are the same: those
behind the mark of a pointer or a reference, and the last.  Exactly then the definition belongs to
the declaration, whatever else the header declares. -/
theorem renaming_matches_iff (params : List Renaming) :
    (same (listed (params.map (·.inDeclaration.text))) (listed (params.map (·.inDefinition.text))) =
        true ↔
      ∀ param ∈ Renaming.keepingNames params, param.declared.text = param.defined.text) ∧
    ∀ header name,
      Signature.of name (listed (params.map (·.inDeclaration.text))) ∈
        (Declarations.ofHeader header).keys →
      ((Declarations.ofHeader header).signatureFor name
            (listed (params.map (·.inDefinition.text))) =
          .ok (some (Signature.of name (listed (params.map (·.inDeclaration.text))))) ↔
        ∀ param ∈ Renaming.keepingNames params, param.declared.text = param.defined.text) := by
  have declared : params.map (·.inDeclaration.text) =
      (params.map Renaming.inDeclaration).map Param.text := by simp
  have defined : params.map (·.inDefinition.text) =
      (params.map Renaming.inDefinition).map Param.text := by simp
  rw [declared, defined]
  have equal := (Param.readsAs.normalize_listed_eq_iff _ _).trans (Renaming.formsOf_eq_iff params)
  refine ⟨(same_eq_true _ _).trans equal, fun header name known => ?_⟩
  refine (Declarations.signatureFor_eq_declared_iff known ?_ ?_).trans equal
  · exact Param.notMem_listed '(' (by decide) (by decide) (by decide)
  · exact Param.notMem_listed ')' (by decide) (by decide) (by decide)

/-- One parameter with a name of its own in a definition. -/
def renamedCount : List Params.Renaming :=
  [⟨⟨⟨Params.intWord, []⟩, none⟩, ⟨"a".toList, rfl⟩, ⟨"b".toList, rfl⟩⟩]

/-- Parameters of which only the first is renamed, and stands behind a word. -/
def renamedWidth : List Params.Renaming :=
  [⟨⟨⟨Params.unsignedWord, [Params.intWord]⟩, none⟩, ⟨"width".toList, rfl⟩,
     ⟨"columns".toList, rfl⟩⟩,
   ⟨⟨⟨⟨"Image".toList, rfl⟩, []⟩, some (1, .reference)⟩, ⟨"image".toList, rfl⟩,
     ⟨"image".toList, rfl⟩⟩]

theorem renaming_matches_iff_width :
    Params.same "int a".toList "int b".toList = false ∧
      (Declarations.ofHeader "void f(int a);".toList).signatureFor "f".toList "int b".toList ≠
        .ok (some "f(inta)".toList) ∧
      Params.same "unsigned int width, Image & image".toList
        "unsigned int columns, Image & image".toList = true ∧
      (Declarations.ofHeader "void f(unsigned int width, Image & image);".toList).signatureFor
          "f".toList "unsigned int columns, Image & image".toList =
        .ok (some "f(unsignedint,Image&image)".toList) := by
  have countDeclared : Params.listed (renamedCount.map (·.inDeclaration.text)) =
      "int a".toList := by
    decide +kernel
  have countDefined : Params.listed (renamedCount.map (·.inDefinition.text)) = "int b".toList := by
    decide +kernel
  have countSignature : Signature.of "f".toList "int a".toList = "f(inta)".toList := by
    decide +kernel
  have countKnown : "f(inta)".toList ∈ (Declarations.ofHeader "void f(int a);".toList).keys := by
    decide +kernel
  have widthDeclared : Params.listed (renamedWidth.map (·.inDeclaration.text)) =
      "unsigned int width, Image & image".toList := by
    decide +kernel
  have widthDefined : Params.listed (renamedWidth.map (·.inDefinition.text)) =
      "unsigned int columns, Image & image".toList := by
    decide +kernel
  have widthSignature : Signature.of "f".toList "unsigned int width, Image & image".toList =
      "f(unsignedint,Image&image)".toList := by
    decide +kernel
  have widthKnown : "f(unsignedint,Image&image)".toList ∈
      (Declarations.ofHeader "void f(unsigned int width, Image & image);".toList).keys := by
    decide +kernel
  have apart : ¬ ∀ param ∈ Params.Renaming.keepingNames renamedCount,
      param.declared.text = param.defined.text := by
    decide +kernel
  have together : ∀ param ∈ Params.Renaming.keepingNames renamedWidth,
      param.declared.text = param.defined.text := by
    decide +kernel
  obtain ⟨count, countMatched⟩ := renaming_matches_iff renamedCount
  obtain ⟨width, widthMatched⟩ := renaming_matches_iff renamedWidth
  have countFound := countMatched "void f(int a);".toList "f".toList
  have widthFound := widthMatched "void f(unsigned int width, Image & image);".toList "f".toList
  rw [countDeclared, countDefined] at count
  rw [countDeclared, countDefined, countSignature] at countFound
  rw [widthDeclared, widthDefined] at width
  rw [widthDeclared, widthDefined, widthSignature] at widthFound
  exact ⟨eq_false_of_ne_true (mt count.1 apart), mt (countFound countKnown).1 apart,
    width.2 together, (widthFound widthKnown).2 together⟩

end HeaderOrder
