import HeaderOrder.Proofs.InnerBlocks
import HeaderOrder.Proofs.NormalForms
import HeaderOrder.Proofs.Permuting

/-!
# The signatures of a header

Whatever a header holds, each signature read from it is the qualified name that it is recorded
with and parameters in normal form between parentheses.  A name is made of words and of marks
between them, and a parameter list ends at the first closing parenthesis, so the two parts can be
told apart again.

Three things follow.  A signature always has a parameter list to compare, so arranging a file
never fails; the name of a signature is what stands before its first parenthesis; and a signature
that is declared again is recorded with the name that it had, so declarations only ever add
entries at the end.
-/

namespace HeaderOrder

open Text

/-! ## Names and parameters -/

/-- Whether a text has the parts that a signature is made of. -/
structure Signature.Parts (signature name params : Text) : Prop where
  whole : signature = name ++ '(' :: (params ++ [')'])
  nameClosed : '(' ∉ name
  nameSolid : ∀ character ∈ name, isBlank character = false
  paramsClosed : ')' ∉ params
  paramsSolid : ∀ character ∈ params, isBlank character = false
  normal : Params.normalize params = params

theorem Signature.Parts.name_eq {signature name params : Text}
    (parts : Signature.Parts signature name params) : Signature.name signature = name := by
  have made : signature = Signature.of name params := by
    simp [Signature.of, parts.normal, parts.whole]
  rw [made]
  exact Signature.name_of parts.nameClosed params

/-- Whether a character may stand in a qualified name. -/
def isNameCharacter (character : Char) : Bool :=
  isWord character || character == ':'

theorem isBlank_of_isNameCharacter {character : Char} (fits : isNameCharacter character = true) :
    isBlank character = false := by
  rw [isNameCharacter, Bool.or_eq_true, beq_iff_eq] at fits
  rcases fits with word | rfl
  · exact isBlank_of_isWord word
  · decide

theorem isNameCharacter_of_mem_qualifiedBy {qualifier : Option Text} {name : Text}
    (outer : ∀ text ∈ qualifier, ∀ character ∈ text, isWord character = true)
    (inner : ∀ character ∈ name, isNameCharacter character = true) :
    ∀ character ∈ qualifiedBy qualifier name, isNameCharacter character = true := by
  cases qualifier with
  | none => exact inner
  | some text =>
      simp only [qualifiedBy, qualified, List.forall_mem_append]
      refine ⟨⟨?_, ?_⟩, inner⟩
      · intro character member
        simp [isNameCharacter, outer text rfl character member]
      · intro character member
        have colon : character = ':' := by simpa [qualifierMark] using member
        rw [colon]
        rfl

/-- A name that is qualified in a scope is made of words and of the marks between them. -/
theorem Scope.isNameCharacter_of_mem_qualify {scope : Scope}
    (named : scope.Named fun name => ∀ character ∈ name, isWord character = true) {name : Text}
    (word : ∀ character ∈ name, isWord character = true) :
    ∀ character ∈ scope.qualify name, isNameCharacter character = true := by
  rw [Scope.qualify_eq]
  apply isNameCharacter_of_mem_qualifiedBy
  · exact fun text member => named.namespaces text (List.mem_of_mem_head? member)
  · apply isNameCharacter_of_mem_qualifiedBy named.inClass
    intro character member
    simp [isNameCharacter, word character member]

/-- The signature of a declaration has the parts of one, in any scope whose names are words. -/
theorem Signature.parts_of_captures? {scope : Scope}
    (named : scope.Named fun name => ∀ character ∈ name, isWord character = true)
    {line name params : Text}
    (captured : Grammar.declaration.captures? line = some [name, params]) :
    Signature.Parts (Signature.of (scope.qualify name) params) (scope.qualify name)
      (Params.normalize params) := by
  obtain ⟨valid, closed⟩ := Grammar.of_captures?_declaration captured
  have fits := Scope.isNameCharacter_of_mem_qualify named (isWord_of_mem_identifier valid)
  exact {
    whole := by simp [Signature.of]
    nameClosed := fun member => absurd (fits _ member) (by decide)
    nameSolid := fun character member => isBlank_of_isNameCharacter (fits character member)
    paramsClosed := fun member => closed ((Params.normalize_sublist params).subset member)
    paramsSolid := fun _ member => Params.isBlank_of_mem_normalize member
    normal := Params.normalize_normalize params }

/-! ## Declarations read line by line -/

namespace Declarations

/-- Whether every signature has the name that it is recorded with as a part. -/
def Shaped (declarations : Declarations) : Prop :=
  ∀ entry ∈ declarations.entries, ∃ params, Signature.Parts entry.1 entry.2 params

theorem shaped_empty : Shaped Catalog.empty := nofun

/-- Recording a line keeps the shape of the signatures and adds at most one entry, at the end. -/
theorem shaped_record {declarations : Declarations} (shaped : declarations.Shaped) {scope : Scope}
    (named : scope.Named fun name => ∀ character ∈ name, isWord character = true) (line : Text) :
    (declarations.record scope line).Shaped ∧
      declarations.entries <+: (declarations.record scope line).entries := by
  rw [record]
  split
  · next name params captured =>
      have parts := Signature.parts_of_captures? named captured
      constructor
      · intro entry member
        cases Entries.mem_put member with
        | inl inserted => exact inserted ▸ ⟨_, parts⟩
        | inr before => exact shaped entry before
      · by_cases known : Signature.of (scope.qualify name) params ∈ declarations.keys
        · -- The name is recovered from the signature, so the old value is the new one.
          have unchanged := Entries.put_eq_self known fun entry member same => by
            obtain ⟨_, old⟩ := shaped entry member
            rw [← old.name_eq, same, parts.name_eq]
          exact (congrArg (declarations.entries <+: ·) unchanged).mpr List.prefix_rfl
        · have added := Entries.put_of_notMem (scope.qualify name) known
          exact (congrArg (declarations.entries <+: ·) added).mpr (List.prefix_append _ _)
  · exact ⟨shaped, List.prefix_rfl⟩

theorem shaped_readLines {declarations : Declarations} (shaped : declarations.Shaped)
    {scope : Scope} (named : scope.Named fun name => ∀ character ∈ name, isWord character = true)
    (lines : List Text) :
    (readLines scope declarations lines).Shaped ∧
      declarations.entries <+: (readLines scope declarations lines).entries := by
  induction lines generalizing scope declarations with
  | nil => exact ⟨shaped, List.prefix_rfl⟩
  | cons line rest ih =>
      have here := Scope.named_advance (fun _ word => word) named line
      obtain ⟨recorded, grown⟩ := shaped_record shaped here line
      obtain ⟨read, further⟩ := ih recorded here
      exact ⟨read, grown.trans further⟩

/-- The signatures of a header have the parts of one. -/
theorem shaped_ofHeader (header : Text) : (ofHeader header).Shaped :=
  (shaped_readLines shaped_empty (Scope.named_outermost _) (Text.lines header)).1

/-- What has been read of a header stays as it is when the rest is read. -/
theorem entries_prefix_ofHeader {header : Text} {before after : List Text}
    (cut : Text.lines header = before ++ after) :
    (readLines Scope.outermost Catalog.empty before).entries <+: (ofHeader header).entries := by
  have named : (Scope.outermost.after before).Named fun name =>
      ∀ character ∈ name, isWord character = true :=
    Scope.named_after (fun _ word => word) (Scope.named_outermost _) before
  rw [ofHeader, cut, readLines_append]
  exact (shaped_readLines (shaped_readLines shaped_empty (Scope.named_outermost _) before).1 named
    after).2

end Declarations

/-! ## Arranging never fails -/

/-- Whatever a header and a file hold, the file can be arranged any number of times.  Each
signature of the header has a parameter list and is taken apart into the name that it is recorded
with and parameters in normal form, and reading further lines of the header changes no entry made
before. -/
theorem iterate_always_succeeds (header : Text) :
    (∀ source count, ∃ rounds,
      Round.iterate (Declarations.ofHeader header) count source = .ok rounds ∧
        rounds.length = count) ∧
    (∀ entry ∈ (Declarations.ofHeader header).entries,
      (∃ params, Signature.Parts entry.1 entry.2 params) ∧ Signature.name entry.1 = entry.2 ∧
        (Signature.params? entry.1).isSome = true) ∧
    ∀ before after, Text.lines header = before ++ after →
      (Declarations.readLines Scope.outermost Catalog.empty before).entries <+:
        (Declarations.ofHeader header).entries := by
  refine ⟨?_, ?_, fun before after cut => Declarations.entries_prefix_ofHeader cut⟩
  · intro source count
    obtain ⟨rounds, run⟩ := Round.exists_iterate header count source
    exact ⟨rounds, run, Round.length_of_iterate run⟩
  · intro entry member
    obtain ⟨params, parts⟩ := Declarations.shaped_ofHeader header entry member
    obtain ⟨_, made⟩ := Declarations.fromNames_ofHeader header entry member
    obtain ⟨_, found⟩ := Signature.exists_params? entry.2 _
    exact ⟨⟨params, parts⟩, parts.name_eq, by rw [made, found]; rfl⟩

/-- A header that declares one function twice, with parameters that hold an opening parenthesis. -/
def repeatedHeader : Text :=
  "class A \x7b\nint f(int (*g, int x = (1);\nint f(int(*g , int x);\n\x7d;".toList

theorem iterate_always_succeeds_repeated :
    (Declarations.ofHeader repeatedHeader).entries = [("A::f(int(*g,intx)".toList, "A::f".toList)] ∧
      Signature.name "A::f(int(*g,intx)".toList = "A::f".toList ∧
      (Declarations.readLines Scope.outermost Catalog.empty
        ["class A \x7b".toList, "int f(int (*g, int x = (1);".toList]).entries <+:
          (Declarations.ofHeader repeatedHeader).entries := by
  have entries : (Declarations.ofHeader repeatedHeader).entries =
      [("A::f(int(*g,intx)".toList, "A::f".toList)] := by
    decide +kernel
  have cut : Text.lines repeatedHeader =
      ["class A \x7b".toList, "int f(int (*g, int x = (1);".toList] ++
        ["int f(int(*g , int x);".toList, "\x7d;".toList] := by
    decide +kernel
  obtain ⟨-, shaped, kept⟩ := iterate_always_succeeds repeatedHeader
  refine ⟨entries, ?_, kept _ _ cut⟩
  exact (shaped (_, _) (entries ▸ List.mem_singleton_self _)).2.1

end HeaderOrder
