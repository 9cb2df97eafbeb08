import HeaderOrder.Proofs.HeaderLines
import HeaderOrder.Proofs.Replacements

/-!
# Lists of parameters and their normal forms

In a list of parameters every one but the last stands in a clause that a comma closes.  The normal
form of the list is made of the forms that its parameters have in their clauses, with a comma
after each but the last, and since no form is empty or holds a comma, it determines these forms
(`normalize_listed_eq_iff`).

A type is made of words.  In a closed clause the last of several words goes, whether it names the
parameter or belongs to the type; behind anything else than a word nothing is taken for a name.
-/

namespace HeaderOrder

/-- Parts that are not empty and do not hold the separator can be told from the joined list. -/
theorem intercalate_inj {α : Type} [DecidableEq α] {separator : α} {left right : List (List α)}
    (plain : ∀ part ∈ left ++ right, separator ∉ part) (some : ∀ part ∈ left ++ right, part ≠ [])
    (same : [separator].intercalate left = [separator].intercalate right) : left = right := by
  rw [List.forall_mem_append] at plain some
  have empty : ∀ {parts : List (List α)}, (∀ part ∈ parts, part ≠ []) →
      [separator].intercalate parts = [] → parts = [] := by
    intro parts nonempty joined
    cases parts with
    | nil => rfl
    | cons first rest =>
        rw [intercalate_cons, List.append_eq_nil_iff] at joined
        exact absurd joined.1 (nonempty first (List.mem_cons_self ..))
  by_cases noLeft : left = []
  · subst noLeft
    exact (empty some.2 same.symm).symm
  · by_cases noRight : right = []
    · subst noRight
      exact empty some.1 same
    · rw [← List.splitOn_intercalate separator plain.1 noLeft, same,
        List.splitOn_intercalate separator plain.2 noRight]

namespace Params

open Text

/-! ## Clauses without a name -/

/-- What stands behind anything else than a word is not taken for a name. -/
theorem dropName_eq_self {front gap name : Text}
    (noWord : ∀ character ∈ front.getLast?, isWord character = false ∧ isBlank character = false)
    (blank : ∀ character ∈ gap, isBlank character = true)
    (word : ∀ character ∈ name, isWord character = true) :
    dropName (front ++ gap ++ name) = front ++ gap ++ name := by
  rcases endsNamed_dropName_or (front ++ gap ++ name) with ⟨gap', name', ends⟩ | same
  · -- A clause is cut in one way into type, gap and name, so the type would be `front`.
    have frontStops : ∀ character ∈ (front ++ gap).getLast?, isWord character = false := by
      by_cases narrow : gap = []
      · subst narrow
        rw [List.append_nil]
        exact fun character member => (noWord character member).1
      · exact forall_last_append narrow fun character member =>
          isWord_of_isBlank (blank character member)
    have typeStops : ∀ character ∈ (dropName (front ++ gap ++ name) ++ gap').getLast?,
        isWord character = false :=
      forall_last_append ends.wide fun character member =>
        isWord_of_isBlank (ends.blank character member)
    obtain ⟨last, isLast, wordLast⟩ := ends.typed
    have typeSolid : ∀ character ∈ (dropName (front ++ gap ++ name)).getLast?,
        isBlank character = false := by
      rw [Option.mem_def.1 isLast]
      rintro _ ⟨⟩
      exact isBlank_of_isWord wordLast
    obtain ⟨upToName, -⟩ := append_inj_of_last isWord frontStops word typeStops ends.word ends.whole
    obtain ⟨type, -⟩ := append_inj_of_last isBlank
      (fun character member => (noWord character member).2) blank typeSolid ends.blank upToName
    rw [← type] at isLast
    rw [(noWord last isLast).1] at wordLast
    cases wordLast
  · exact same

/-- Without a mark of equality only a name is dropped from a closed clause, apart from blanks. -/
theorem normalizeClosed_append_blank {lead clause kept : Text}
    (blank : ∀ character ∈ lead, isBlank character = true) (noMark : '=' ∉ clause)
    (dropped : dropName (lead ++ clause) = lead ++ kept) :
    normalizeClosed (lead ++ clause) = dropBlanks kept := by
  rw [normalizeClosed, dropDefault_eq_self (noMark_append blank noMark), dropped, dropBlanks_append,
    dropBlanks_of_blank blank, List.nil_append]

theorem normalizeLast_append_blank {lead clause : Text}
    (blank : ∀ character ∈ lead, isBlank character = true) (noMark : '=' ∉ clause) :
    normalizeLast (lead ++ clause) = dropBlanks clause := by
  rw [normalizeLast, dropDefault_eq_self (noMark_append blank noMark), dropBlanks_append,
    dropBlanks_of_blank blank, List.nil_append]

/-! ## Forms of the parameters in a list -/

section Forms

variable {α : Type}

/-- The forms of parameters in a list, where one that is not the last stands in a closed clause. -/
def formsOf (closed last : α → Text) : List α → List Text
  | [] => []
  | [param] => [last param]
  | param :: next :: rest => closed param :: formsOf closed last (next :: rest)

/-- Whether parameters, written as texts, have the given normal forms in a closed clause and in
the last one, whatever blanks stand in front of them. -/
structure ReadsAs (text closed last : α → Text) : Prop where
  undelimited : ∀ param, ∀ character ∈ text param, isDelimiter character = false
  closed_eq : ∀ param lead, (∀ character ∈ lead, isBlank character = true) →
    normalizeClosed (lead ++ text param) = closed param
  last_eq : ∀ param lead, (∀ character ∈ lead, isBlank character = true) →
    normalizeLast (lead ++ text param) = last param
  closed_ne_nil : ∀ param, closed param ≠ []
  last_ne_nil : ∀ param, last param ≠ []

namespace ReadsAs

variable {text closed last : α → Text} (reads : ReadsAs text closed last)

include reads

theorem normalize_append_listed (params : List α) (lead : Text)
    (blank : ∀ character ∈ lead, isBlank character = true) :
    normalize (lead ++ listed (params.map text)) =
      [','].intercalate (formsOf closed last params) := by
  induction params generalizing lead with
  | nil =>
      have free : ∀ character ∈ lead, isDelimiter character = false := fun character member =>
        isDelimiter_of_isBlank (blank character member)
      have gone := normalizeLast_append_blank blank List.not_mem_nil
      rw [List.append_nil] at gone
      simpa [listed, formsOf, dropBlanks, gone] using normalize_eq_last free
  | cons param others ih =>
      have free := free_append blank (reads.undelimited param)
      cases others with
      | nil => simpa [listed, formsOf, reads.last_eq param lead blank] using normalize_eq_last free
      | cons next rest =>
          have later : normalize (' ' :: listed ((next :: rest).map text)) =
              [','].intercalate (formsOf closed last (next :: rest)) :=
            ih [' '] isBlank_of_mem_space
          obtain ⟨first, more, forms⟩ : ∃ first more,
              formsOf closed last (next :: rest) = first :: more := by
            cases rest <;> exact ⟨_, _, rfl⟩
          simp only [List.map_cons, listed_cons_cons, ← List.append_assoc] at later ⊢
          rw [normalize_append free (by decide), later, reads.closed_eq param lead blank, formsOf,
            forms, List.intercalate_cons_cons]
          simp

theorem plain_of_mem_formsOf (params : List α) :
    ∀ form ∈ formsOf closed last params, ',' ∉ form ∧ form ≠ [] := by
  have plain : ∀ {param : α} {form : Text}, form.Sublist (text param) → ',' ∉ form := by
    intro param form part comma
    have delimiter := reads.undelimited param ',' (part.subset comma)
    revert delimiter
    decide
  have plainClosed : ∀ param, ',' ∉ closed param := fun param => by
    rw [← reads.closed_eq param [] nofun]
    exact plain (normalizeClosed_sublist _)
  have plainLast : ∀ param, ',' ∉ last param := fun param => by
    rw [← reads.last_eq param [] nofun]
    exact plain (normalizeLast_sublist _)
  induction params with
  | nil => exact nofun
  | cons param others ih =>
      cases others with
      | nil => exact List.forall_mem_singleton.2 ⟨plainLast param, reads.last_ne_nil param⟩
      | cons next rest =>
          exact List.forall_mem_cons.2 ⟨⟨plainClosed param, reads.closed_ne_nil param⟩, ih⟩

/-- Two lists have the same normal form exactly if their parameters have the same forms. -/
theorem normalize_listed_eq_iff (left right : List α) :
    normalize (listed (left.map text)) = normalize (listed (right.map text)) ↔
      formsOf closed last left = formsOf closed last right := by
  have formOf : ∀ params : List α, normalize (listed (params.map text)) =
      [','].intercalate (formsOf closed last params) := fun params =>
    reads.normalize_append_listed params [] nofun
  rw [formOf, formOf]
  constructor
  · have plain := List.forall_mem_append.2
      ⟨reads.plain_of_mem_formsOf left, reads.plain_of_mem_formsOf right⟩
    exact intercalate_inj (fun form member => (plain form member).1)
      (fun form member => (plain form member).2)
  · exact congrArg _

end ReadsAs

end Forms

/-! ## Words -/

theorem dropBlanks_identifier (word : Identifier) : dropBlanks word.text = word.text :=
  dropBlanks_of_noBlank fun character member =>
    isBlank_of_isWord (isWord_of_mem_identifier word.valid character member)

/-- Words in a row, at least one. -/
structure Words where
  first : Identifier
  others : List Identifier

namespace Words

def toList (words : Words) : List Identifier :=
  words.first :: words.others

/-- The text of words, with a space between any two. -/
def text (words : Words) : Text :=
  List.intercalate [' '] (words.toList.map Identifier.text)

def concat (words : Words) (last : Identifier) : Words :=
  ⟨words.first, words.others ++ [last]⟩

/-- The words with nothing between them. -/
def glued (words : Words) : Text :=
  words.toList.flatMap Identifier.text

theorem text_eq (words : Words) :
    words.text = words.first.text ++ words.others.flatMap fun word => ' ' :: word.text := by
  rw [text, toList, List.map_cons, intercalate_cons, List.flatMap_map]
  rfl

theorem text_concat (words : Words) (last : Identifier) :
    (words.concat last).text = words.text ++ [' '] ++ last.text := by
  simp [text_eq, concat]

theorem isWord_or_eq_space (words : Words) :
    ∀ character ∈ words.text, isWord character = true ∨ character = ' ' := by
  intro character member
  rw [text_eq, List.mem_append, List.mem_flatMap] at member
  rcases member with inFirst | ⟨word, -, inWord⟩
  · exact Or.inl (isWord_of_mem_identifier words.first.valid character inFirst)
  · rcases List.mem_cons.1 inWord with space | inside
    · exact Or.inr space
    · exact Or.inl (isWord_of_mem_identifier word.valid character inside)

theorem notMem_text (words : Words) (character : Char) (foreign : isWord character = false)
    (visible : character ≠ ' ') : character ∉ words.text := by
  intro member
  rcases words.isWord_or_eq_space character member with word | space
  · rw [foreign] at word
    cases word
  · exact visible space

theorem undelimited (words : Words) : ∀ character ∈ words.text, isDelimiter character = false := by
  intro character member
  rcases words.isWord_or_eq_space character member with word | rfl
  · exact isDelimiter_of_isWord word
  · decide

theorem dropBlanks_text (words : Words) : dropBlanks words.text = words.glued := by
  have others : ∀ more : List Identifier,
      dropBlanks (more.flatMap fun word => ' ' :: word.text) = more.flatMap Identifier.text := by
    intro more
    induction more with
    | nil => rfl
    | cons word rest ih =>
        rw [List.flatMap_cons, dropBlanks_append, ih, List.flatMap_cons, ← List.singleton_append,
          dropBlanks_append, dropBlanks_of_blank isBlank_of_mem_space, dropBlanks_identifier,
          List.nil_append]
  rw [text_eq, dropBlanks_append, dropBlanks_identifier, others, glued, toList, List.flatMap_cons]

theorem glued_ne_nil (words : Words) : words.glued ≠ [] := by
  simp [glued, toList, ne_nil_of_isIdentifier words.first.valid]

theorem exists_last_text (words : Words) : ∃ last ∈ words.text.getLast?, isWord last = true := by
  obtain ⟨front, word, ends⟩ : ∃ front, ∃ word : Identifier, words.text = front ++ word.text := by
    obtain ⟨first, others⟩ := words
    rcases List.eq_nil_or_concat others with rfl | ⟨init, last, rfl⟩
    · exact ⟨[], first, by simp [text_eq]⟩
    · rw [List.concat_eq_append]
      exact ⟨_, last, text_concat ⟨first, init⟩ last⟩
  have some := ne_nil_of_isIdentifier word.valid
  refine ⟨word.text.getLast some, ?_, isWord_of_mem_identifier word.valid _ (List.getLast_mem some)⟩
  rw [ends, List.getLast?_append, List.getLast?_eq_some_getLast some]
  rfl

/-- Behind words, a further word is dropped from a closed clause. -/
theorem normalizeClosed_concat (words : Words) (last : Identifier) {lead : Text}
    (blank : ∀ character ∈ lead, isBlank character = true) :
    normalizeClosed (lead ++ (words.concat last).text) = words.glued := by
  have ends : EndsNamed (lead ++ (words.concat last).text) (lead ++ words.text)
      [' '] last.text := by
    refine ⟨by simp [text_concat], ?_, List.cons_ne_nil _ _, isBlank_of_mem_space,
      ne_nil_of_isIdentifier last.valid, isWord_of_mem_identifier last.valid⟩
    obtain ⟨final, isLast, wordLast⟩ := words.exists_last_text
    exact ⟨final, by simp [List.getLast?_append, Option.mem_def.1 isLast], wordLast⟩
  have noMark := (words.concat last).notMem_text '=' (by decide) (by decide)
  rw [normalizeClosed_append_blank blank noMark ends.dropName_eq, dropBlanks_text]

end Words

def intWord : Identifier :=
  ⟨"int".toList, rfl⟩

def unsignedWord : Identifier :=
  ⟨"unsigned".toList, rfl⟩

end Params

end HeaderOrder
