import HeaderOrder.Proofs.Fallback
import HeaderOrder.Proofs.ParamLists

/-!
# Signatures of overloads

Overloads of one name are told apart by the types of their parameters.  A parameter without a name
is its type, and if the type has several words and a comma follows, the last word is dropped as if
it were the name.  The words that are left are run together.  What a list of types leaves in a
signature is its trace, and two overloads have different signatures exactly if their traces
differ.

Types of one word each leave their whole text, so they are always told apart.
-/

namespace HeaderOrder

theorem Identifier.text_injective : Function.Injective Identifier.text := by
  rintro ⟨left, _⟩ ⟨right, _⟩ equal
  cases equal
  rfl

namespace Params

open Text

/-! ## Traces of types -/

namespace Words

/-- The words without the last, if there are several. -/
def kept (words : Words) : Words :=
  ⟨words.first, words.others.dropLast⟩

def single (word : Identifier) : Words :=
  ⟨word, []⟩

theorem text_single (word : Identifier) : (single word).text = word.text := by
  simp [text_eq, single]

/-- One word alone is not taken for a name. -/
theorem normalizeClosed_single (word : Identifier) {lead : Text}
    (blank : ∀ character ∈ lead, isBlank character = true) :
    normalizeClosed (lead ++ (single word).text) = (single word).glued := by
  have noMark := (single word).notMem_text '=' (by decide) (by decide)
  have stays : dropName (lead ++ (single word).text) = lead ++ (single word).text := by
    have noType : ∀ character ∈ ([] : Text).getLast?,
        isWord character = false ∧ isBlank character = false := nofun
    rw [text_single]
    exact dropName_eq_self noType blank (isWord_of_mem_identifier word.valid)
  rw [normalizeClosed_append_blank blank noMark stays, dropBlanks_text]

theorem normalizeClosed_text (words : Words) {lead : Text}
    (blank : ∀ character ∈ lead, isBlank character = true) :
    normalizeClosed (lead ++ words.text) = words.kept.glued := by
  obtain ⟨first, others⟩ := words
  rcases List.eq_nil_or_concat others with rfl | ⟨init, last, rfl⟩
  · exact normalizeClosed_single first blank
  · rw [List.concat_eq_append]
    have dropped := normalizeClosed_concat ⟨first, init⟩ last blank
    simpa [concat, kept] using dropped

theorem readsAs : ReadsAs text (fun words => words.kept.glued) glued where
  undelimited words := words.undelimited
  closed_eq words lead blank := words.normalizeClosed_text blank
  last_eq words lead blank := by
    rw [normalizeLast_append_blank blank (words.notMem_text '=' (by decide) (by decide)),
      words.dropBlanks_text]
  closed_ne_nil words := words.kept.glued_ne_nil
  last_ne_nil words := words.glued_ne_nil

end Words

/-- What types without names leave in a signature: their words run together, and of each type but
the last not its last word, if it has several. -/
def traces (types : List Words) : List Text :=
  formsOf (fun words => words.kept.glued) Words.glued types

theorem traces_single (words : List Identifier) :
    traces (words.map Words.single) = words.map Identifier.text := by
  have whole : ∀ word : Identifier, (Words.single word).glued = word.text := fun word => by
    simp [Words.glued, Words.toList, Words.single]
  induction words with
  | nil => rfl
  | cons word others ih =>
      cases others with
      | nil => exact congrArg (fun form => [form]) (whole word)
      | cons next rest =>
          have here : traces ((word :: next :: rest).map Words.single) =
              (Words.single word).glued :: traces ((next :: rest).map Words.single) := rfl
          rw [here, ih, whole word, ← List.map_cons]

end Params

open Params in
/-- Types without names make a signature that holds their traces and nothing else of them. -/
theorem Signature.of_listed_eq_iff (name : Text) (types others : List Words) :
    Signature.of name (listed (types.map Words.text)) =
      Signature.of name (listed (others.map Words.text)) ↔ traces types = traces others := by
  have forms := Words.readsAs.normalize_listed_eq_iff types others
  constructor
  · intro equal
    exact forms.1 (Signature.of_inj equal)
  · intro equal
    exact Signature.of_congr (forms.2 equal) name

/-! ## Entries of a header -/

/-- Two entries of a catalog stand in different places exactly if they are different. -/
theorem Catalog.exists_two_places_iff {κ α : Type} {catalog : Catalog κ α} {first second : κ × α}
    (firstIn : first ∈ catalog.entries) (secondIn : second ∈ catalog.entries) :
    (∃ place other : Nat, place ≠ other ∧ catalog.entries[place]? = some first ∧
      catalog.entries[other]? = some second) ↔ first ≠ second := by
  constructor
  · rintro ⟨place, other, apart, atPlace, atOther⟩ rfl
    have bound := (List.getElem?_eq_some_iff.1 atPlace).1
    exact apart ((List.getElem?_inj bound (.of_map _ catalog.nodup)).1 (atPlace.trans atOther.symm))
  · intro differ
    obtain ⟨place, atPlace⟩ := List.getElem?_of_mem firstIn
    obtain ⟨other, atOther⟩ := List.getElem?_of_mem secondIn
    refine ⟨place, other, ?_, atPlace, atOther⟩
    rintro rfl
    exact differ (Option.some.inj (atPlace.symm.trans atOther))

open Params in
/-- Two lists of types without names make the same signature with a name exactly if they have the
same traces; types of one word each do so only if they are the same.  Two overloads that are
declared in the same scope of a header stand in two places among its declarations exactly if their
traces differ. -/
theorem overloads_share_signature_iff (name : Text) (types others : List Words) :
    (Signature.of name (listed (types.map Words.text)) =
        Signature.of name (listed (others.map Words.text)) ↔ traces types = traces others) ∧
    (∀ left right : List Identifier,
      Signature.of name (listed (left.map Identifier.text)) =
        Signature.of name (listed (right.map Identifier.text)) ↔ left = right) ∧
    ∀ (header first second : Text) (before between after : List Text) (scope : Scope)
        (function : Text),
      Text.lines header = before ++ first :: (between ++ second :: after) →
      Scope.outermost.after (before ++ [first]) = scope →
      Scope.outermost.after (before ++ first :: (between ++ [second])) = scope →
      Grammar.declaration.captures? first = some [function, listed (types.map Words.text)] →
      Grammar.declaration.captures? second = some [function, listed (others.map Words.text)] →
      ((∃ place other : Nat, place ≠ other ∧
        (Declarations.ofHeader header).entries[place]? =
          some (Signature.of (scope.qualify function) (listed (types.map Words.text)),
            scope.qualify function) ∧
        (Declarations.ofHeader header).entries[other]? =
          some (Signature.of (scope.qualify function) (listed (others.map Words.text)),
            scope.qualify function)) ↔
        traces types ≠ traces others) := by
  refine ⟨Signature.of_listed_eq_iff name types others, fun left right => ?_, ?_⟩
  · have written : ∀ words : List Identifier,
        words.map Identifier.text = (words.map Words.single).map Words.text := fun words => by
      simp [Words.text_single]
    rw [written, written, Signature.of_listed_eq_iff, traces_single, traces_single]
    exact (List.map_injective_iff.2 Identifier.text_injective).eq_iff
  · intro header first second before between after scope function cut atFirst atSecond declares
      declaresToo
    have cutAgain : Text.lines header = (before ++ first :: between) ++ second :: after := by
      rw [cut, List.append_assoc, List.cons_append]
    have reached : Scope.outermost.after ((before ++ first :: between) ++ [second]) = scope := by
      rw [← atSecond, List.append_assoc, List.cons_append]
    rw [Catalog.exists_two_places_iff
      (Declarations.mem_entries_of_captures? cut atFirst declares)
      (Declarations.mem_entries_of_captures? cutAgain reached declaresToo), ne_eq, Prod.mk.injEq,
      and_iff_left rfl, Signature.of_listed_eq_iff]

def longWord : Identifier := ⟨"long".toList, rfl⟩

def doubleWord : Identifier := ⟨"double".toList, rfl⟩

/-- A type of two words and one of a single word. -/
def integerTypes : List Params.Words :=
  [⟨longWord, [Params.intWord]⟩, .single Params.intWord]

/-- The same with a type that is told from the first only by its last word. -/
def floatingTypes : List Params.Words :=
  [⟨longWord, [doubleWord]⟩, .single Params.intWord]

/-- A header that declares a member function with either list of types, and one with two single
types. -/
def overloadedHeader : Text :=
  ("class A \x7b\nvoid f(long int, int);\nvoid f(long double, int);\n" ++
    "void g(long);\nvoid g(double);\n\x7d;").toList

/-- Overloads on `long int` and `long double` share an entry, overloads on `long` and `double`
have two. -/
theorem overloads_share_signature_iff_long :
    Signature.of "A::f".toList "long int, int".toList =
        Signature.of "A::f".toList "long double, int".toList ∧
      Signature.of "A::g".toList "long".toList ≠ Signature.of "A::g".toList "double".toList ∧
      (Declarations.ofHeader overloadedHeader).entries =
        [("A::f(long,int)".toList, "A::f".toList), ("A::g(long)".toList, "A::g".toList),
          ("A::g(double)".toList, "A::g".toList)] ∧
      ∃ place other : Nat, place ≠ other ∧
        (Declarations.ofHeader overloadedHeader).entries[place]? =
          some (Signature.of "A::g".toList "long".toList, "A::g".toList) ∧
        (Declarations.ofHeader overloadedHeader).entries[other]? =
          some (Signature.of "A::g".toList "double".toList, "A::g".toList) := by
  have integer : Params.listed (integerTypes.map Params.Words.text) = "long int, int".toList := by
    decide +kernel
  have floating : Params.listed (floatingTypes.map Params.Words.text) =
      "long double, int".toList := by
    decide +kernel
  have traces : Params.traces integerTypes = Params.traces floatingTypes := by
    decide +kernel
  have cut : Text.lines overloadedHeader =
      ["class A \x7b".toList, "void f(long int, int);".toList,
        "void f(long double, int);".toList] ++
        "void g(long);".toList :: ([] ++ "void g(double);".toList :: ["\x7d;".toList]) := by
    decide +kernel
  have declares : Grammar.declaration.captures? "void g(long);".toList =
      some ["g".toList, "long".toList] := by
    decide +kernel
  have declaresToo : Grammar.declaration.captures? "void g(double);".toList =
      some ["g".toList, "double".toList] := by
    decide +kernel
  have qualifiedName : Scope.qualify ⟨[], some "A".toList⟩ "g".toList = "A::g".toList := by
    decide +kernel
  obtain ⟨shared, -⟩ := overloads_share_signature_iff "A::f".toList integerTypes floatingTypes
  obtain ⟨-, oneWord, places⟩ :=
    overloads_share_signature_iff "A::g".toList [.single longWord] [.single doubleWord]
  rw [integer, floating] at shared
  have inHeader := (places overloadedHeader _ _ _ _ _ ⟨[], some "A".toList⟩ "g".toList cut
    (by decide +kernel) (by decide +kernel) declares declaresToo).2 (by decide +kernel)
  rw [qualifiedName] at inHeader
  refine ⟨shared.2 traces, fun same => ?_, by decide +kernel, inHeader⟩
  have sameWords := congrArg (·.map Identifier.text) ((oneWord [longWord] [doubleWord]).1 same)
  revert sameWords
  decide +kernel

end HeaderOrder
