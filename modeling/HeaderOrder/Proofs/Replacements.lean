import HeaderOrder.Proofs.Matching
import HeaderOrder.Proofs.NormalForms

/-!
# The normal form as three replacements

The normal form of a parameter text is defined clause by clause.  It can also be had by three
replacements over the whole text: every default value by nothing, then every type with a name in
front of a delimiter by the type, then every stretch of blanks by nothing.  A replacement goes
from left to right, and each time takes the leftmost occurrence of its pattern, by the preferred
reading.

The two agree because no occurrence reaches over a delimiter, and each ends where its clause ends
(`ReplacesInClauses`).  A name is looked for in front of a delimiter only.  A default value has
many readings that start at the same place, and the preferred one reaches to the end of the
clause, whichever way the blanks around the mark of equality are read.
-/

namespace HeaderOrder

namespace Pattern

/-! ## Replacing -/

/-- The preferred of those readings from the start of a text after which the text goes on as
required. -/
def readingBefore? (pattern : Pattern) (required : Text → Bool) (text : Text) : Option Reading :=
  (pattern.readings ⟨0, text⟩).find? fun reading => required reading.stop.rest

/-- Replace all occurrences of a pattern in a text whose first `taken` characters belong to an
occurrence that was replaced before. -/
def replaceFrom (pattern : Pattern) (required : Text → Bool) : Nat → Text → Text
  | _, [] => []
  | taken + 1, _ :: rest => pattern.replaceFrom required taken rest
  | 0, character :: rest =>
      match pattern.readingBefore? required (character :: rest) with
      | some reading =>
          reading.groups.flatMap (·.slice (character :: rest)) ++
            pattern.replaceFrom required (reading.stop.offset - 1) rest
      | none => character :: pattern.replaceFrom required 0 rest

/-- Replace all occurrences of a pattern after which the text goes on as required, from left to
right, each by the texts of its groups. -/
def replaceAll (pattern : Pattern) (required : Text → Bool) (text : Text) : Text :=
  pattern.replaceFrom required 0 text

/-- Nothing is required of the text after an occurrence. -/
def anything (_ : Text) : Bool := true

section Replacing

variable {pattern : Pattern} {required : Text → Bool}

theorem exists_of_readingBefore? {text : Text} {reading : Reading}
    (found : pattern.readingBefore? required text = some reading) :
    ∃ taken rest, text = taken ++ rest ∧ reading.stop = ⟨taken.length, rest⟩ ∧
      required rest = true ∧ pattern.Matches taken (reading.groups.map (·.slice text)) := by
  have member : reading ∈ pattern.readings ⟨([] : Text).length, text⟩ :=
    List.mem_of_find?_eq_some found
  obtain ⟨taken, rest, split, stop, matched⟩ := matches_of_mem_readings member
  have follows := List.find?_some found
  rw [stop] at follows
  exact ⟨taken, rest, split, stop, follows, matched⟩

theorem readingBefore?_eq_none_iff {text : Text} :
    pattern.readingBefore? required text = none ↔
      ∀ taken rest groups, text = taken ++ rest → pattern.Matches taken groups →
        required rest = false := by
  rw [readingBefore?, List.find?_eq_none]
  constructor
  · rintro refused taken rest groups rfl matched
    obtain ⟨reading, member, stop, -⟩ := exists_mem_readings matched [] rest
    have here := refused reading member
    rwa [stop, Bool.not_eq_true] at here
  · intro silent reading member
    have fromStart : reading ∈ pattern.readings ⟨([] : Text).length, text⟩ := member
    obtain ⟨taken, rest, split, stop, matched⟩ := matches_of_mem_readings fromStart
    rw [stop, Bool.not_eq_true]
    exact silent taken rest _ split matched

theorem replaceFrom_append (taken rest : Text) :
    pattern.replaceFrom required taken.length (taken ++ rest) =
      pattern.replaceAll required rest := by
  induction taken with
  | nil => rfl
  | cons character others ih => exact ih

/-- A character at which no occurrence begins is kept. -/
theorem replaceAll_of_none {character : Char} {rest : Text}
    (silent : pattern.readingBefore? required (character :: rest) = none) :
    pattern.replaceAll required (character :: rest) =
      character :: pattern.replaceAll required rest := by
  rw [replaceAll, replaceFrom, silent]
  rfl

/-- An occurrence at the start of a text is replaced, and then the rest. -/
theorem replaceAll_of_reading {taken rest : Text} {reading : Reading}
    (found : pattern.readingBefore? required (taken ++ rest) = some reading)
    (stop : reading.stop = ⟨taken.length, rest⟩) (some : taken ≠ []) :
    pattern.replaceAll required (taken ++ rest) =
      reading.groups.flatMap (·.slice (taken ++ rest)) ++ pattern.replaceAll required rest := by
  obtain ⟨character, others, rfl⟩ := List.exists_cons_of_ne_nil some
  rw [List.cons_append] at found ⊢
  rw [replaceAll, replaceFrom, found]
  dsimp only
  rw [stop]
  exact congrArg (_ ++ ·) (replaceFrom_append others rest)

end Replacing

/-! ## Preferred readings -/

theorem readingBefore?_anything (pattern : Pattern) (text : Text) :
    pattern.readingBefore? anything text = (pattern.readings ⟨0, text⟩).head? := by
  rw [readingBefore?]
  cases pattern.readings ⟨0, text⟩ with
  | nil => rfl
  | cons reading others => rfl

/-- The preferred reading of two patterns in sequence ends with the preferred reading of the
second. -/
theorem exists_of_head?_readings_append {first second : Pattern} {place : Place} {reading : Reading}
    (preferred : ((first ++ second).readings place).head? = some reading) :
    ∃ before ∈ first.readings place, ∃ after,
      (second.readings before.stop).head? = some after ∧
        reading = ⟨after.stop, before.groups ++ after.groups⟩ := by
  rw [readings_append, List.head?_flatMap] at preferred
  obtain ⟨before, member, later⟩ := List.exists_of_findSome?_eq_some preferred
  rw [List.head?_map] at later
  obtain ⟨after, head, rfl⟩ := Option.map_eq_some_iff.1 later
  exact ⟨before, member, after, head, rfl⟩

/-- The preferred run is as long as it can be. -/
theorem head?_runStops (accepts : Char → Bool) (nearer : List Place) (offset : Nat) (text : Text) :
    (runStops accepts nearer offset text).head? =
      some ⟨offset + (text.takeWhile accepts).length, text.dropWhile accepts⟩ := by
  induction text generalizing nearer offset with
  | nil => rfl
  | cons character rest ih =>
      rw [runStops]
      split
      · next accepted =>
          rw [ih, List.takeWhile_cons_of_pos accepted, List.dropWhile_cons_of_pos accepted,
            List.length_cons, Nat.add_assoc, Nat.add_comm 1]
      · next refused =>
          rw [List.takeWhile_cons_of_neg refused, List.dropWhile_cons_of_neg refused]
          rfl

theorem rest_of_head?_run1 {accepts : Char → Bool} {place : Place} {reading : Reading}
    (preferred : ((run1 accepts).readings place).head? = some reading) :
    reading.stop.rest = place.rest.dropWhile accepts := by
  obtain ⟨before, member, after, later, rfl⟩ := exists_of_head?_readings_append preferred
  rw [readings, List.head?_map, head?_runStops, Option.map_some, Option.some.injEq] at later
  rw [← later]
  rw [readings] at member
  split at member
  · cases member
  · next character rest whole =>
      split at member
      · next accepted =>
          rw [List.mem_singleton.1 member, whole, List.dropWhile_cons_of_pos accepted]
      · cases member

end Pattern

namespace Params

open Text Pattern

/-- Whether a text starts with a delimiter. -/
def startsDelimited (text : Text) : Bool :=
  text.head?.any isDelimiter

/-- A default value, with the mark of equality and the blanks around it. -/
def defaultValue : Pattern :=
  Grammar.blanks ++ .exactly ['='] ++ Grammar.blanks ++ .run1 (!isDelimiter ·)

/-- The last word of a type, as a group, and a name after it. -/
def typeAndName : Pattern :=
  .group Grammar.word ++ Grammar.blanks1 ++ Grammar.word

/-- A text is cut in one way only at its first delimiter. -/
theorem clause_inj {clause rest clause' rest' : Text}
    (free : ∀ character ∈ clause, isDelimiter character = false)
    (closed : ∀ character ∈ rest.head?, isDelimiter character = true)
    (free' : ∀ character ∈ clause', isDelimiter character = false)
    (closed' : ∀ character ∈ rest'.head?, isDelimiter character = true)
    (same : clause ++ rest = clause' ++ rest') : clause = clause' ∧ rest = rest' :=
  append_inj_of_head (!isDelimiter ·) (by simpa using free) (by simpa using closed)
    (by simpa using free') (by simpa using closed') same

/-- What a replacement does inside a clause: an occurrence ends where its clause ends, `drop`
takes the occurrence that a clause is to its groups, and passes over the characters at which none
begins. -/
structure ReplacesInClauses (pattern : Pattern) (required : Text → Bool) (drop : Text → Text) :
    Prop where
  within : ∀ {taken groups}, pattern.Matches taken groups →
    taken ≠ [] ∧ ∀ character ∈ taken, isDelimiter character = false
  ends : ∀ {text reading}, pattern.readingBefore? required text = some reading →
    ∀ character ∈ reading.stop.rest.head?, isDelimiter character = true
  nil : drop [] = []
  captured : ∀ {clause groups}, pattern.Matches clause groups → groups.flatten = drop clause
  kept : ∀ {character others}, (∀ other ∈ character :: others, isDelimiter other = false) →
    (∀ groups, ¬ pattern.Matches (character :: others) groups) →
      drop (character :: others) = character :: drop others

section InClauses

variable {pattern : Pattern} {required : Text → Bool} {drop : Text → Text}

theorem ReplacesInClauses.replaceAll_append (replaces : ReplacesInClauses pattern required drop)
    {clause rest : Text} (free : ∀ character ∈ clause, isDelimiter character = false)
    (closed : ∀ character ∈ rest.head?, isDelimiter character = true)
    (follows : required rest = true) :
    pattern.replaceAll required (clause ++ rest) =
      drop clause ++ pattern.replaceAll required rest := by
  induction clause with
  | nil => rw [replaces.nil]; rfl
  | cons character others ih =>
      cases found : pattern.readingBefore? required (character :: others ++ rest) with
      | some reading =>
          obtain ⟨taken, after, whole, stop, -, matched⟩ := exists_of_readingBefore? found
          have afterClosed := replaces.ends found
          rw [stop] at afterClosed
          obtain ⟨rfl, rfl⟩ := clause_inj free closed (replaces.within matched).2 afterClosed whole
          rw [replaceAll_of_reading found stop (List.cons_ne_nil _ _), List.flatMap_def,
            replaces.captured matched]
      | none =>
          have later := ih fun other member => free other (List.mem_cons_of_mem _ member)
          have unmatched : ∀ groups, ¬ pattern.Matches (character :: others) groups := by
            intro groups matched
            rw [readingBefore?_eq_none_iff.1 found _ _ _ rfl matched] at follows
            cases follows
          rw [replaces.kept free unmatched, List.cons_append, List.cons_append, ← later]
          exact replaceAll_of_none found

/-- A delimiter stays where it is. -/
theorem ReplacesInClauses.replaceAll_delimiter (replaces : ReplacesInClauses pattern required drop)
    {delimiter : Char} (closes : isDelimiter delimiter = true) (rest : Text) :
    pattern.replaceAll required (delimiter :: rest) =
      delimiter :: pattern.replaceAll required rest := by
  refine replaceAll_of_none (readingBefore?_eq_none_iff.2
    fun taken after groups whole matched => ?_)
  obtain ⟨some, free⟩ := replaces.within matched
  obtain ⟨first, others, rfl⟩ := List.exists_cons_of_ne_nil some
  obtain ⟨rfl, -⟩ := List.cons.inj whole
  rw [free delimiter (List.mem_cons_self ..)] at closes
  cases closes

/-- A clause that a delimiter closes is replaced by itself, and then the rest. -/
theorem ReplacesInClauses.replaceAll_closed (replaces : ReplacesInClauses pattern required drop)
    {clause : Text} (free : ∀ character ∈ clause, isDelimiter character = false) {delimiter : Char}
    (closes : isDelimiter delimiter = true) {rest : Text}
    (follows : required (delimiter :: rest) = true) :
    pattern.replaceAll required (clause ++ delimiter :: rest) =
      drop clause ++ delimiter :: pattern.replaceAll required rest := by
  rw [replaces.replaceAll_append free (by simpa using closes) follows,
    replaces.replaceAll_delimiter closes]

end InClauses

/-! ## Default values -/

/-- Whether a clause is a default value with nothing but blanks in front of its mark. -/
structure OnlyDefault (clause gap value : Text) : Prop where
  whole : clause = gap ++ '=' :: value
  blank : ∀ character ∈ gap, isBlank character = true
  given : value ≠ []

theorem OnlyDefault.dropDefault_eq {clause gap value : Text} (only : OnlyDefault clause gap value) :
    dropDefault clause = [] := by
  have dropped := dropDefault_append (List.not_mem_nil (a := '=')) nofun only.blank only.given
  rw [List.nil_append] at dropped
  rw [only.whole, dropped]

theorem trimEnd_cons {character : Char} {text : Text}
    (visible : ¬ ∀ other ∈ character :: text, isBlank other = true) :
    trimEnd (character :: text) = character :: trimEnd text := by
  rw [trimEnd, trimEnd, List.reverse_cons, List.dropWhile_append]
  split
  · next gone =>
      rw [List.isEmpty_iff, List.dropWhile_eq_nil_iff] at gone
      have first : ¬ isBlank character = true := by
        intro blank
        refine visible (List.forall_mem_cons.2 ⟨blank, fun other member => ?_⟩)
        exact gone other (List.mem_reverse.2 member)
      rw [List.dropWhile_cons_of_neg first, List.dropWhile_eq_nil_iff.2 gone]
      rfl
  · rw [List.reverse_append]
    rfl

/-- A character in front of a clause stays there, unless a default value begins with it. -/
theorem dropDefault_cons {character : Char} {clause : Text}
    (none : ∀ gap value, ¬ OnlyDefault (character :: clause) gap value) :
    dropDefault (character :: clause) = character :: dropDefault clause := by
  by_cases mark : character = '='
  · subst mark
    cases clause with
    | nil => rfl
    | cons next rest =>
        exact absurd ⟨rfl, nofun, List.cons_ne_nil next rest⟩ (none [] (next :: rest))
  · have other : (character != '=') = true := bne_iff_ne.2 mark
    have behind : (character :: clause).dropWhile (· != '=') = clause.dropWhile (· != '=') :=
      List.dropWhile_cons_of_pos other
    have front : (character :: clause).takeWhile (· != '=') =
        character :: clause.takeWhile (· != '=') :=
      List.takeWhile_cons_of_pos other
    rw [dropDefault, dropDefault, behind, front]
    split
    · next equality value more rest =>
        apply trimEnd_cons
        intro blank
        refine none (character :: clause.takeWhile (· != '=')) (value :: more) ⟨?_, blank, ?_⟩
        · have first := List.head?_dropWhile_not (· != '=') clause
          rw [rest] at first
          obtain rfl : equality = '=' := by simpa using first
          rw [List.cons_append, ← rest, List.takeWhile_append_dropWhile]
        · exact List.cons_ne_nil _ _
    · rfl

/-! ## Default values, over the whole text -/

theorem matches_defaultValue {taken : Text} {groups : List Text} :
    defaultValue.Matches taken groups ↔
      groups = [] ∧ ∃ gap value, OnlyDefault taken gap value ∧
        ∀ character ∈ value, isDelimiter character = false := by
  constructor
  · rintro ⟨_, value, _, _, rfl, rfl, ⟨_, inner, _, _, rfl, rfl,
      ⟨gap, _, _, _, rfl, rfl, ⟨blank, rfl⟩, rfl, rfl⟩, innerBlank, rfl⟩, run⟩
    obtain ⟨some, free, rfl⟩ := Grammar.matches_run1.1 run
    refine ⟨rfl, gap, inner ++ value, ⟨by simp, blank, by simp [some]⟩, ?_⟩
    refine List.forall_mem_append.2 ⟨fun character member => ?_, fun character member => ?_⟩
    · exact isDelimiter_of_isBlank (innerBlank character member)
    · simpa using free character member
  · rintro ⟨rfl, gap, value, ⟨rfl, blank, given⟩, free⟩
    have run : (run1 (!isDelimiter ·)).Matches value [] := by
      refine Grammar.matches_run1.2 ⟨given, fun character member => ?_, rfl⟩
      simp [free character member]
    have front : Grammar.blanks.Matches gap [] := ⟨blank, rfl⟩
    have mark : (Pattern.exactly ['=']).Matches ['='] [] := ⟨rfl, rfl⟩
    have inner : Grammar.blanks.Matches [] [] := ⟨nofun, rfl⟩
    have whole := ((front.append mark).append inner).append run
    simpa [defaultValue] using whole

/-- The preferred reading of a default value reaches to the end of its clause. -/
theorem delimiter_after_defaultValue {text : Text} {reading : Reading}
    (found : defaultValue.readingBefore? anything text = some reading) :
    ∀ character ∈ reading.stop.rest.head?, isDelimiter character = true := by
  rw [readingBefore?_anything] at found
  obtain ⟨before, -, after, preferred, rfl⟩ := exists_of_head?_readings_append found
  intro character member
  rw [rest_of_head?_run1 preferred] at member
  have refused := List.head?_dropWhile_not (!isDelimiter ·) before.stop.rest
  rw [member] at refused
  simpa using refused

theorem replacesInClauses_defaultValue : ReplacesInClauses defaultValue anything dropDefault where
  within matched := by
    obtain ⟨-, gap, value, only, free⟩ := matches_defaultValue.1 matched
    rw [only.whole]
    exact ⟨by simp, free_append only.blank (List.forall_mem_cons.2 ⟨by decide, free⟩)⟩
  ends := delimiter_after_defaultValue
  nil := rfl
  captured matched := by
    obtain ⟨rfl, gap, value, only, -⟩ := matches_defaultValue.1 matched
    exact only.dropDefault_eq.symm
  kept free unmatched := by
    refine dropDefault_cons fun gap value only => ?_
    refine unmatched [] (matches_defaultValue.2 ⟨rfl, gap, value, only, fun character member => ?_⟩)
    apply free
    rw [only.whole]
    exact List.mem_append_right _ (List.mem_cons_of_mem _ member)

theorem replaceAll_defaultValue_last {clause : Text}
    (free : ∀ character ∈ clause, isDelimiter character = false) :
    defaultValue.replaceAll anything clause = dropDefault clause := by
  have dropped : defaultValue.replaceAll anything (clause ++ []) = dropDefault clause ++ [] :=
    replacesInClauses_defaultValue.replaceAll_append free nofun rfl
  rwa [List.append_nil, List.append_nil] at dropped

/-! ## Names -/

/-- Whether a clause ends with a name that stands after a type. -/
structure EndsNamed (clause type gap name : Text) : Prop where
  whole : clause = type ++ gap ++ name
  typed : ∃ last ∈ type.getLast?, isWord last = true
  wide : gap ≠ []
  blank : ∀ character ∈ gap, isBlank character = true
  named : name ≠ []
  word : ∀ character ∈ name, isWord character = true

theorem EndsNamed.dropName_eq {clause type gap name : Text}
    (ends : EndsNamed clause type gap name) : dropName clause = type := by
  obtain ⟨rfl, ⟨last, isLast, wordLast⟩, wide, blank, named, word⟩ := ends
  have words : ∀ character ∈ name.reverse, isWord character = true := by simpa using word
  have blanks : ∀ character ∈ gap.reverse, isBlank character = true := by simpa using blank
  have typeLast : type.reverse.head? = some last := by rwa [List.head?_reverse]
  have wordStops : ∀ character ∈ (gap.reverse ++ type.reverse).head?, isWord character = false := by
    rw [List.head?_append_of_ne_nil _ (List.reverse_ne_nil_iff.2 wide)]
    exact fun character member =>
      isWord_of_isBlank (blanks character (List.mem_of_mem_head? member))
  have blankStops : ∀ character ∈ type.reverse.head?, isBlank character = false := by
    rw [typeLast]
    rintro _ ⟨⟩
    exact isBlank_of_isWord wordLast
  have backwards : (type ++ gap ++ name).reverse =
      name.reverse ++ (gap.reverse ++ type.reverse) := by
    simp
  rw [dropName, backwards, takeWhile_append_of_head _ words wordStops,
    dropWhile_append_of_head _ words wordStops, takeWhile_append_of_head _ blanks blankStops,
    dropWhile_append_of_head _ blanks blankStops, typeLast]
  simp [wide, named, wordLast]

/-- A clause loses a name that stands after a type, or nothing. -/
theorem endsNamed_dropName_or (clause : Text) :
    (∃ gap name, EndsNamed clause (dropName clause) gap name) ∨ dropName clause = clause := by
  rw [dropName]
  split
  · next parts =>
      simp only [Bool.and_eq_true, Bool.not_eq_true', List.isEmpty_eq_false_iff, Option.any_eq_true]
        at parts
      obtain ⟨⟨named, wide⟩, last, isLast, wordLast⟩ := parts
      refine Or.inl ⟨((clause.reverse.dropWhile isWord).takeWhile isBlank).reverse,
        (clause.reverse.takeWhile isWord).reverse, ?_, ⟨last, ?_, wordLast⟩, ?_, ?_, ?_, ?_⟩
      · rw [← List.reverse_append, List.takeWhile_append_dropWhile, ← List.reverse_append,
          List.takeWhile_append_dropWhile, List.reverse_reverse]
      · rwa [List.getLast?_reverse]
      · exact List.reverse_ne_nil_iff.2 wide
      · exact fun character member => List.mem_takeWhile_imp (List.mem_reverse.1 member)
      · exact List.reverse_ne_nil_iff.2 named
      · exact fun character member => List.mem_takeWhile_imp (List.mem_reverse.1 member)
  · exact Or.inr rfl

theorem EndsNamed.type_ne_nil {clause type gap name : Text}
    (ends : EndsNamed clause type gap name) : type ≠ [] := by
  rintro rfl
  obtain ⟨_, ⟨⟩, _⟩ := ends.typed

theorem endsNamed_cons_iff {character : Char} {clause type gap name : Text} (some : type ≠ []) :
    EndsNamed (character :: clause) (character :: type) gap name ↔
      EndsNamed clause type gap name := by
  obtain ⟨second, more, rfl⟩ := List.exists_cons_of_ne_nil some
  constructor
  · rintro ⟨whole, typed, wide, blank, named, word⟩
    exact ⟨by simpa using whole, by simpa using typed, wide, blank, named, word⟩
  · rintro ⟨whole, typed, wide, blank, named, word⟩
    exact ⟨by simp [whole], by simpa using typed, wide, blank, named, word⟩

/-- A character in front of a clause stays there, unless it begins a type of one word and a name
stands after that. -/
theorem dropName_cons {character : Char} {clause : Text}
    (none : ∀ type gap name, EndsNamed (character :: clause) type gap name →
      ¬ ∀ other ∈ type, isWord other = true) :
    dropName (character :: clause) = character :: dropName clause := by
  rcases endsNamed_dropName_or clause with ⟨gap, name, ends⟩ | same
  · exact ((endsNamed_cons_iff ends.type_ne_nil).2 ends).dropName_eq
  · rcases endsNamed_dropName_or (character :: clause) with ⟨gap, name, ends⟩ | unchanged
    · obtain ⟨first, type, cut⟩ := List.exists_cons_of_ne_nil ends.type_ne_nil
      rw [cut] at ends
      obtain ⟨rfl, -⟩ := List.cons.inj (ends.whole.trans (List.append_assoc ..))
      by_cases alone : type = []
      · subst alone
        obtain ⟨last, isLast, wordLast⟩ := ends.typed
        rw [List.getLast?_singleton, Option.mem_some_iff] at isLast
        exact absurd (by simpa [isLast] using wordLast) (none _ _ _ ends)
      · rw [cut, ((endsNamed_cons_iff alone).1 ends).dropName_eq]
    · rw [unchanged, same]

/-! ## Names, over the whole text -/

theorem isDelimiter_of_isWord {character : Char} (word : isWord character = true) :
    isDelimiter character = false := by
  cases delimiter : isDelimiter character with
  | false => rfl
  | true =>
      rw [isDelimiter, Bool.or_eq_true, beq_iff_eq, beq_iff_eq] at delimiter
      rcases delimiter with rfl | rfl <;> revert word <;> decide

theorem matches_typeAndName {taken : Text} {groups : List Text} :
    typeAndName.Matches taken groups ↔
      ∃ type gap name, groups = [type] ∧ EndsNamed taken type gap name ∧
        ∀ character ∈ type, isWord character = true := by
  constructor
  · rintro ⟨_, name, _, _, rfl, rfl, ⟨type, gap, _, _, rfl, rfl, ⟨inner, rfl, typed⟩, spaced⟩,
      named⟩
    obtain ⟨typeSome, typeWord, rfl⟩ := Grammar.matches_run1.1 typed
    obtain ⟨wide, blank, rfl⟩ := Grammar.matches_run1.1 spaced
    obtain ⟨nameSome, nameWord, rfl⟩ := Grammar.matches_run1.1 named
    have last := List.getLast_mem typeSome
    exact ⟨type, gap, name, rfl, ⟨rfl, ⟨_, List.getLast?_eq_some_getLast typeSome,
      typeWord _ last⟩, wide, blank, nameSome, nameWord⟩, typeWord⟩
  · rintro ⟨type, gap, name, rfl, ends, typeWord⟩
    have spaced : Grammar.blanks1.Matches gap [] :=
      Grammar.matches_run1.2 ⟨ends.wide, ends.blank, rfl⟩
    have named : Grammar.word.Matches name [] := Grammar.matches_run1.2 ⟨ends.named, ends.word, rfl⟩
    rw [ends.whole]
    exact ((Grammar.matches_wordGroup ends.type_ne_nil typeWord).append spaced).append named

theorem replacesInClauses_typeAndName : ReplacesInClauses typeAndName startsDelimited dropName where
  within matched := by
    obtain ⟨type, gap, name, -, ends, typeWord⟩ := matches_typeAndName.1 matched
    rw [ends.whole]
    refine ⟨by simp [ends.wide], ?_⟩
    simp only [List.forall_mem_append]
    exact ⟨⟨fun character member => isDelimiter_of_isWord (typeWord character member),
      fun character member => isDelimiter_of_isBlank (ends.blank character member)⟩,
      fun character member => isDelimiter_of_isWord (ends.word character member)⟩
  ends found := by
    obtain ⟨taken, rest, -, stop, follows, -⟩ := exists_of_readingBefore? found
    intro character member
    rw [stop] at member
    rwa [startsDelimited, Option.mem_def.1 member] at follows
  nil := rfl
  captured matched := by
    obtain ⟨type, gap, name, rfl, ends, -⟩ := matches_typeAndName.1 matched
    rw [ends.dropName_eq, List.flatten_singleton]
  kept _ unmatched := by
    refine dropName_cons fun type gap name ends typeWord => ?_
    exact unmatched [type] (matches_typeAndName.2 ⟨type, gap, name, rfl, ends, typeWord⟩)

/-- Without a delimiter there is no occurrence of a type with a name. -/
theorem replaceAll_typeAndName_last {clause : Text}
    (free : ∀ character ∈ clause, isDelimiter character = false) :
    typeAndName.replaceAll startsDelimited clause = clause := by
  induction clause with
  | nil => rfl
  | cons character others ih =>
      have silent : typeAndName.readingBefore? startsDelimited (character :: others) = none := by
        refine readingBefore?_eq_none_iff.2 fun taken rest groups whole _ => ?_
        rw [whole] at free
        cases rest with
        | nil => rfl
        | cons next more => exact free next (List.mem_append_right _ (List.mem_cons_self ..))
      rw [replaceAll_of_none silent,
        ih fun other member => free other (List.mem_cons_of_mem _ member)]

/-! ## Blanks -/

theorem replaceFrom_blanks1 {taken : Nat} {text : Text}
    (blank : ∀ character ∈ text.take taken, isBlank character = true) :
    Grammar.blanks1.replaceFrom anything taken text = dropBlanks text := by
  induction text generalizing taken with
  | nil => cases taken <;> rfl
  | cons character rest ih =>
      cases taken with
      | succ taken =>
          obtain ⟨here, later⟩ := List.forall_mem_cons.1 blank
          rw [replaceFrom, ih later, dropBlanks, dropBlanks,
            List.filter_cons_of_neg (by simp [here])]
      | zero =>
          rw [replaceFrom]
          split
          · next reading found =>
              obtain ⟨run, after, whole, stop, -, matched⟩ := exists_of_readingBefore? found
              obtain ⟨some, runBlank, noGroups⟩ := Grammar.matches_run1.1 matched
              obtain ⟨first, others, rfl⟩ := List.exists_cons_of_ne_nil some
              obtain ⟨rfl, rfl⟩ := List.cons.inj whole
              obtain ⟨here, later⟩ := List.forall_mem_cons.1 runBlank
              rw [List.map_eq_nil_iff.1 noGroups, stop, dropBlanks,
                List.filter_cons_of_neg (by simp [here])]
              apply ih
              simpa using later
          · next silent =>
              have visible : isBlank character = false := by
                cases blank : isBlank character with
                | false => rfl
                | true =>
                    have matched : Grammar.blanks1.Matches [character] [] :=
                      Grammar.matches_run1.2 ⟨List.cons_ne_nil _ _, by simpa using blank, rfl⟩
                    exact readingBefore?_eq_none_iff.1 silent _ rest _ rfl matched
              have later : Grammar.blanks1.replaceFrom anything 0 rest = dropBlanks rest := ih nofun
              rw [later, dropBlanks, dropBlanks, List.filter_cons_of_pos (by simp [visible])]

theorem replaceAll_blanks1 (text : Text) :
    Grammar.blanks1.replaceAll anything text = dropBlanks text :=
  replaceFrom_blanks1 nofun

/-! ## The normal form -/

/-- The normal form is had by three replacements over the whole text. -/
theorem normalize_eq_replaceAll (params : Text) :
    normalize params = Grammar.blanks1.replaceAll anything
      (typeAndName.replaceAll startsDelimited (defaultValue.replaceAll anything params)) := by
  induction params using clause_induction with
  | last clause free =>
      have shorter := (dropDefault_sublist clause).subset
      rw [normalize_eq_last free, normalizeLast, replaceAll_defaultValue_last free,
        replaceAll_typeAndName_last fun character member => free character (shorter member),
        replaceAll_blanks1]
  | closed clause delimiter rest free closes ih =>
      have shorter := (dropDefault_sublist clause).subset
      rw [normalize_append free closes, normalizeClosed,
        replacesInClauses_defaultValue.replaceAll_closed free closes rfl,
        replacesInClauses_typeAndName.replaceAll_closed
          (fun character member => free character (shorter member)) closes closes,
        replaceAll_blanks1, dropBlanks, dropBlanks, List.filter_append,
        List.filter_cons_of_pos (by simp [isBlank_of_isDelimiter closes]), ih, replaceAll_blanks1]
      rfl

/-! ## Lists of parameters -/

/-- The default values of a list are replaced by nothing, and all else is left as it is.  `lead`
is the blank in front of the first parameter. -/
theorem replaceAll_append_listed (lead : Text) (pieces : List Piece)
    (blank : ∀ character ∈ lead, isBlank character = true) :
    defaultValue.replaceAll anything (lead ++ listed (pieces.map Piece.written)) =
      lead ++ listed (pieces.map Piece.text) := by
  induction pieces generalizing lead with
  | nil =>
      have free : ∀ character ∈ lead, isDelimiter character = false :=
        fun character member => isDelimiter_of_isBlank (blank character member)
      have noMark : '=' ∉ lead := notMem_of_blank blank '=' (by decide)
      have alone : defaultValue.replaceAll anything lead = lead := by
        rw [replaceAll_defaultValue_last free, dropDefault_eq_self noMark]
      simpa [listed] using alone
  | cons piece others ih =>
      have free := free_append blank piece.written_undelimited
      have dropped : dropDefault (lead ++ piece.written) = lead ++ piece.text :=
        (piece.dropDefault_written blank).trans (dropDefault_eq_self (piece.noMark_append blank))
      cases others with
      | nil => simpa [listed, dropped] using replaceAll_defaultValue_last free
      | cons next rest =>
          have later : defaultValue.replaceAll anything
              (' ' :: listed ((next :: rest).map Piece.written)) =
                ' ' :: listed ((next :: rest).map Piece.text) :=
            ih [' '] isBlank_of_mem_space
          simp only [List.map_cons, listed_cons_cons, ← List.append_assoc] at later ⊢
          rw [replacesInClauses_defaultValue.replaceAll_closed free (by decide) rfl, later, dropped]

theorem replaceAll_listed_written (pieces : List Piece) :
    defaultValue.replaceAll anything (listed (pieces.map Piece.written)) =
      listed (pieces.map Piece.text) :=
  replaceAll_append_listed [] pieces nofun

end Params

open Params in
/-- Default values have no part in matching.  They are what the first replacement takes from a
list of parameters, no more and no less, so the other two are left with the list as it is without
them.  The list has the same normal form and the same signature with default values and without,
and the same declaration is found for it. -/
theorem matching_ignores_defaults (name : Text) (pieces : List Piece) :
    defaultValue.replaceAll Pattern.anything (listed (pieces.map Piece.written)) =
        listed (pieces.map Piece.text) ∧
      normalize (listed (pieces.map Piece.written)) =
        Grammar.blanks1.replaceAll Pattern.anything
          (typeAndName.replaceAll startsDelimited (listed (pieces.map Piece.text))) ∧
      normalize (listed (pieces.map Piece.written)) = normalize (listed (pieces.map Piece.text)) ∧
      same (listed (pieces.map Piece.written)) (listed (pieces.map Piece.text)) = true ∧
      Signature.of name (listed (pieces.map Piece.written)) =
        Signature.of name (listed (pieces.map Piece.text)) ∧
      ∀ declarations : Declarations,
        declarations.signatureFor name (listed (pieces.map Piece.written)) =
            declarations.signatureFor name (listed (pieces.map Piece.text)) ∧
          (Signature.of name (listed (pieces.map Piece.written)) ∈ declarations.keys →
            declarations.signatureFor name (listed (pieces.map Piece.text)) =
              .ok (some (Signature.of name (listed (pieces.map Piece.written))))) := by
  have taken := replaceAll_listed_written pieces
  have equal := normalize_listed_written pieces
  refine ⟨taken, by rw [normalize_eq_replaceAll, taken], equal, (same_eq_true _ _).2 equal,
    Signature.of_congr equal name, fun declarations => ?_⟩
  have alike := declarations.signatureFor_congr equal name
  refine ⟨alike, fun declared => ?_⟩
  rw [← alike]
  exact Declarations.signatureFor_of_mem declared

/-- Parameters whose default values hold marks of equality and blanks. -/
def comparedPieces : List Params.Piece :=
  [⟨"bool less".toList, some "a == b".toList, by decide, by simp; decide, by decide,
     by simp [Params.isDelimiter], by simp [Params.isDelimiter]⟩,
   ⟨"int high".toList, some " f(2 ".toList, by decide, by simp; decide, by decide,
     by simp [Params.isDelimiter], by simp [Params.isDelimiter]⟩]

theorem matching_ignores_defaults_compared :
    Params.normalize "bool less = a == b, int high =  f(2 ".toList =
        Params.normalize "bool less, int high".toList ∧
      (Declarations.ofHeader "void f(bool less = a == b, int high =  f(2 );".toList).signatureFor
          "f".toList "bool less, int high".toList =
        .ok (some "f(bool,inthigh)".toList) := by
  have written : Params.listed (comparedPieces.map Params.Piece.written) =
      "bool less = a == b, int high =  f(2 ".toList := by
    decide +kernel
  have bare : Params.listed (comparedPieces.map Params.Piece.text) =
      "bool less, int high".toList := by
    decide +kernel
  have signature : Signature.of "f".toList "bool less = a == b, int high =  f(2 ".toList =
      "f(bool,inthigh)".toList := by
    decide +kernel
  have declared : "f(bool,inthigh)".toList ∈
      (Declarations.ofHeader "void f(bool less = a == b, int high =  f(2 );".toList).keys := by
    decide +kernel
  obtain ⟨-, -, equal, -, -, matched⟩ := matching_ignores_defaults "f".toList comparedPieces
  rw [written, bare] at equal
  rw [written, bare, signature] at matched
  exact ⟨equal, (matched _).2 declared⟩

end HeaderOrder
