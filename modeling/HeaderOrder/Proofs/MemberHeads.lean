import HeaderOrder.Proofs.HeaderLines

/-!
# Heads of member functions

The head of a member function's definition has many parts that may be left out, and a result type,
a qualifier and a name look alike.  Its groups are nevertheless the same however it is read
(`Grammar.groups_eq_of_matches_memberHead`).  The first parenthesis ends the name, and the first
one that closes ends the parameters.  The name is the last word before its parenthesis.  The
qualifier is what stands before the two colons, back to the nearest blank: there is none inside a
qualifier, and whatever may stand in front of it ends with one.  Which words these are plays no
part, so any of the names may be a keyword of the grammar.

No reading starts inside the indentation, so a search finds every head that is written in a line,
with its groups as they are written.
-/

namespace HeaderOrder

open Text

namespace Grammar

open Pattern

/-! ## Only one way to read a head -/

/-- A name with at most one qualifier is made of word characters and colons. -/
theorem isWord_or_colon_of_mem {taken : Text} {groups : List Text}
    (found : qualifiedName.Matches taken groups) :
    ∀ character ∈ taken, isWord character = true ∨ character = ':' := by
  obtain ⟨-, outer, valid, shape⟩ := of_matches_qualifiedName found
  have inOuter := isWord_of_mem_identifier valid
  intro character member
  rcases shape with rfl | ⟨inner, innerValid, rfl⟩
  · exact Or.inl (inOuter character member)
  · have inInner := isWord_of_mem_identifier innerValid
    simp only [List.mem_append, List.mem_cons] at member
    rcases member with early | colon | colon | late
    · exact Or.inl (inOuter character early)
    · exact Or.inr colon
    · exact Or.inr colon
    · exact Or.inl (inInner character late)

theorem isBlank_of_mem_qualifiedName {taken : Text} {groups : List Text}
    (found : qualifiedName.Matches taken groups) :
    ∀ character ∈ taken, isBlank character = false := by
  intro character member
  rcases isWord_or_colon_of_mem found character member with word | rfl
  · exact isBlank_of_isWord word
  · decide

/-- A text that ends with a qualifier does not end with a blank. -/
theorem isBlank_last_qualifiedName (front : Text) {taken : Text} {groups : List Text}
    (found : qualifiedName.Matches taken groups) :
    ∀ character ∈ (front ++ taken).getLast?, isBlank character = false := by
  refine forall_last_append ?_ (isBlank_of_mem_qualifiedName found)
  obtain ⟨-, outer, valid, rfl | ⟨inner, -, rfl⟩⟩ := of_matches_qualifiedName found
  · exact ne_nil_of_isIdentifier valid
  · simp

namespace MemberName

variable (named : MemberName)

theorem parenthesis_notMem : '(' ∉ named.text := by
  have outside : '(' ∉ named.qualifier := by
    intro member
    exact absurd (isWord_or_colon_of_mem named.qualifies '(' member) (by decide)
  simp [text, outside, named.leads.noParenthesis, notMem_of_blank named.blankBefore '(' (by decide),
    notMem_of_blank named.blankAfter '(' (by decide),
    notMem_of_isIdentifier named.valid '(' (by decide),
    notMem_of_blank named.blankGap '(' (by decide)]

theorem exists_cons (rest : Text) :
    ∃ first others, named.text ++ rest = first :: others ∧ isBlank first = false := by
  obtain ⟨-, outer, valid, shape⟩ := of_matches_qualifiedName named.qualifies
  obtain ⟨later, split⟩ : ∃ later, named.qualifier = outer ++ later := by
    rcases shape with same | ⟨inner, -, same⟩
    · exact ⟨[], by rw [same, List.append_nil]⟩
    · exact ⟨_, same⟩
  simp only [text, split, List.append_assoc]
  exact named.leads.exists_cons valid

/-- Neither a colon nor a blank belongs to a word. -/
theorem isWord_last_mark (front : Text) :
    ∀ character ∈ (front ++ ':' :: named.after).getLast?, isWord character = false := by
  refine forall_last_append (List.cons_ne_nil _ _) (List.forall_mem_cons.2 ⟨by decide, ?_⟩)
  intro character member
  exact isWord_of_isBlank (named.blankAfter character member)

variable {named} {other : MemberName}

/-- The name is the last word, and what stands before it is the same up to the two colons. -/
theorem name_inj (same : named.text = other.text) :
    named.name = other.name ∧ named.lead ++ (named.qualifier ++ named.before) =
      other.lead ++ (other.qualifier ++ other.before) := by
  have cut : (named.lead ++ (named.qualifier ++ (named.before ++ [':'])) ++ ':' :: named.after) ++
        (named.name ++ named.gap) =
      (other.lead ++ (other.qualifier ++ (other.before ++ [':'])) ++ ':' :: other.after) ++
        (other.name ++ other.gap) := by
    simpa [text] using same
  obtain ⟨upToName, names⟩ := lastIdentifier_inj (named.isWord_last_mark _) named.valid
    named.blankGap (other.isWord_last_mark _) other.valid other.blankGap cut
  -- The blanks after the colons go first, and then the colons.
  have colons : ∀ front : Text, ∀ character ∈ (front ++ [':', ':']).getLast?,
      isBlank character = false := by
    intro front
    exact forall_last_append (List.cons_ne_nil _ _) (by simp; decide)
  have marks : (named.lead ++ (named.qualifier ++ named.before) ++ [':', ':']) ++ named.after =
      (other.lead ++ (other.qualifier ++ other.before) ++ [':', ':']) ++ other.after := by
    simpa using upToName
  obtain ⟨upToMark, -⟩ := append_inj_of_last isBlank (colons _) named.blankAfter (colons _)
    other.blankAfter marks
  exact ⟨names, List.append_cancel_right upToMark⟩

/-- The qualifier reaches back to the nearest blank. -/
theorem qualifier_inj (same : named.lead ++ (named.qualifier ++ named.before) =
    other.lead ++ (other.qualifier ++ other.before)) : named.qualifier = other.qualifier := by
  rw [← List.append_assoc, ← List.append_assoc] at same
  obtain ⟨upToQualifier, -⟩ := append_inj_of_last isBlank
    (isBlank_last_qualifiedName _ named.qualifies) named.blankBefore
    (isBlank_last_qualifiedName _ other.qualifies) other.blankBefore same
  have leadEnd : ∀ {lead : Text}, Leads lead →
      ∀ character ∈ lead.getLast?, (!isBlank character) = false := by
    intro lead leads character member
    rw [leads.ends character member]
    rfl
  have visible : ∀ {qualifier : Text}, qualifiedName.Matches qualifier [] →
      ∀ character ∈ qualifier, (!isBlank character) = true := by
    intro qualifier qualifies character member
    rw [isBlank_of_mem_qualifiedName qualifies character member]
    rfl
  exact (append_inj_of_last (!isBlank ·) (leadEnd named.leads) (visible named.qualifies)
    (leadEnd other.leads) (visible other.qualifies) upToQualifier).2

end MemberName

/-- All heads of member functions that can be read from one place have the same groups. -/
theorem groups_eq_of_matches_memberHead {taken rest taken' rest' : Text}
    {groups groups' : List Text} (found : memberHead.Matches taken groups)
    (found' : memberHead.Matches taken' groups')
    (same : taken ++ rest = taken' ++ rest') : groups = groups' := by
  obtain ⟨named, params, tail, rfl, closed, rfl⟩ := of_matches_memberHead found
  obtain ⟨named', params', tail', rfl, closed', rfl⟩ := of_matches_memberHead found'
  have cut : named.text ++ '(' :: (params ++ ')' :: (tail ++ rest)) =
      named'.text ++ '(' :: (params' ++ ')' :: (tail' ++ rest')) := by
    simpa using same
  obtain ⟨fronts, backs⟩ :=
    append_cons_inj_of_notMem named.parenthesis_notMem named'.parenthesis_notMem cut
  obtain ⟨lists, -⟩ := append_cons_inj_of_notMem closed closed' backs
  obtain ⟨names, upToMark⟩ := MemberName.name_inj fronts
  rw [MemberName.qualifier_inj upToMark, names, lists]

/-- A head is found after any indentation and before any rest of the line, with its own groups. -/
theorem captures?_memberHead {indent taken : Text} {groups : List Text}
    (blank : ∀ character ∈ indent, isBlank character = true)
    (found : memberHead.Matches taken groups) (rest : Text) :
    memberHead.captures? (indent ++ (taken ++ rest)) = some groups := by
  have starts : ∀ taken groups, memberHead.Matches taken groups →
      ∃ first others, taken = first :: others ∧ isBlank first = false := by
    intro taken groups matched
    obtain ⟨named, params, tail, rfl, -⟩ := of_matches_memberHead matched
    exact named.exists_cons _
  apply Pattern.captures?_append (Pattern.silent_of_blank blank starts)
  · exact ⟨taken, rest, groups, rfl, found⟩
  · intro other after others same matched
    exact groups_eq_of_matches_memberHead matched found same.symm

end Grammar

/-! ## Parts of heads -/

/-- Blanks, possibly none. -/
structure Blanks where
  text : Text
  blank : ∀ character ∈ text, isBlank character = true

/-- Blanks that set two words apart, at least one. -/
structure Separator extends Blanks where
  some : text ≠ []

/-- A text that is set off by blanks after it. -/
def Separator.after (separator : Separator) (text : Text) : Text :=
  text ++ separator.text

/-- A name with at most one qualifier in front of it. -/
structure QualifiedName where
  outer : Option Identifier
  name : Identifier

def QualifiedName.text (qualifiedName : QualifiedName) : Text :=
  match qualifiedName.outer with
  | none => qualifiedName.name.text
  | some outer => qualified outer.text qualifiedName.name.text

/-- The words that may stand between a member function's parameters and its opening brace. -/
def memberSpecifiers : List String :=
  ["const", "noexcept", "override", "final", "try"]

/-- Words in a row, with the blanks after each. -/
def specifierText (specifiers : List (String × Blanks)) : Text :=
  specifiers.flatMap fun (word, blanks) => word.toList ++ blanks.text

namespace Grammar

open Pattern

theorem matches_qualifiedName (name : QualifiedName) : qualifiedName.Matches name.text [] := by
  obtain ⟨outer, inner⟩ := name
  have last : identifier.Matches inner.text [] := matches_identifier.2 ⟨inner.valid, rfl⟩
  cases outer with
  | none =>
      refine ⟨inner.text, [], [], [], ?_, rfl, last, Or.inr ⟨rfl, rfl⟩⟩
      exact (List.append_nil _).symm
  | some outer =>
      have first : identifier.Matches outer.text [] := matches_identifier.2 ⟨outer.valid, rfl⟩
      have mark : (Pattern.exactly "::".toList).Matches qualifierMark [] := ⟨rfl, rfl⟩
      have whole := first.append (mark.append last)
      rw [← List.append_assoc] at whole
      obtain ⟨left, right, _, _, split, groups, here, later⟩ := whole
      exact ⟨left, right, _, _, split, groups, here, Or.inl later⟩

/-- What is set off by blanks may stand in front. -/
theorem matches_setOff {body : Pattern} {text : Text} (found : body.Matches text [])
    (separator : Separator) :
    (Pattern.optional (body ++ blanks1)).Matches (separator.after text) [] := by
  have wide : blanks1.Matches separator.text [] :=
    matches_run1.2 ⟨separator.some, separator.blank, rfl⟩
  exact Or.inl (found.append wide)

theorem matches_leading (keyword : String) (separator : Option Separator) :
    (leading keyword).Matches (separator.elim [] (·.after keyword.toList)) [] := by
  cases separator with
  | none => exact Or.inr ⟨rfl, rfl⟩
  | some separator =>
      have written : (Pattern.exactly keyword.toList).Matches keyword.toList [] := ⟨rfl, rfl⟩
      exact matches_setOff written separator

/-- Some of the words that may follow, in their order and each with blanks after it, are read by the
patterns for all of them. -/
theorem matches_specifiers {specifiers : List (String × Blanks)} {words : List String}
    (ordered : (specifiers.map Prod.fst).Sublist words) {rest : List Pattern} {tail : Text}
    {groups : List Text} (last : (sequence rest).Matches tail groups) :
    (sequence (words.map trailing ++ rest)).Matches (specifierText specifiers ++ tail) groups := by
  induction words generalizing specifiers with
  | nil =>
      rw [List.map_eq_nil_iff.1 (List.sublist_nil.1 ordered)]
      exact last
  | cons word others ih =>
      rcases List.sublist_cons_iff.1 ordered with absent | ⟨later, present, follows⟩
      · have passed : (trailing word).Matches [] [] := Or.inr ⟨rfl, rfl⟩
        exact passed.append (ih absent)
      · obtain ⟨⟨first, gap⟩, remaining, rfl, rfl, rfl⟩ := List.map_eq_cons_iff.1 present
        have written : (Pattern.exactly first.toList).Matches first.toList [] := ⟨rfl, rfl⟩
        have spaced : blanks.Matches gap.text [] := ⟨gap.blank, rfl⟩
        have here : (trailing first).Matches (first.toList ++ gap.text) [] :=
          Or.inl (written.append spaced)
        have whole := here.append (ih follows)
        rw [← List.append_assoc] at whole
        exact whole

end Grammar

/-! ## Heads as they are written -/

/-- The head of a member function's definition.  `static`, `inline` and a result type may stand in
front, each with blanks after it, and some of the words of `memberSpecifiers` may follow the
parameters. -/
structure MemberHead where
  static : Option Separator
  inline : Option Separator
  result : Option (QualifiedName × Separator)
  qualifier : QualifiedName
  name : Identifier
  params : Text
  closed : ')' ∉ params
  space : Blanks
  specifiers : List (String × Blanks)
  ordered : (specifiers.map Prod.fst).Sublist memberSpecifiers

namespace MemberHead

def text (head : MemberHead) : Text :=
  head.static.elim [] (·.after "static".toList) ++ (head.inline.elim [] (·.after "inline".toList) ++
    (head.result.elim [] (fun (type, separator) => separator.after type.text) ++
      (head.qualifier.text ++ ':' :: ':' :: (head.name.text ++ '(' :: (head.params ++ ')' ::
        (head.space.text ++ (specifierText head.specifiers ++ ['{'])))))))

theorem matches_text (head : MemberHead) :
    Grammar.memberHead.Matches head.text [head.qualifier.text, head.name.text, head.params] := by
  have typed : (Pattern.optional Grammar.resultType).Matches
      (head.result.elim [] fun (type, separator) => separator.after type.text) [] := by
    cases head.result with
    | none => exact Or.inr ⟨rfl, rfl⟩
    | some part => exact Grammar.matches_setOff (Grammar.matches_qualifiedName part.1) part.2
  exact Grammar.matches_memberHead (Grammar.matches_leading "static" head.static)
    (Grammar.matches_leading "inline" head.inline) typed
    (Grammar.matches_qualifiedName head.qualifier) head.name.valid head.closed head.space.blank
    (Grammar.matches_specifiers head.ordered (Grammar.matches_sequence_mark '{'))

end MemberHead

/-- In a line with the head of a member function's definition, after any indentation and with
anything after the brace, a search for such a head captures the qualifier, the name and the
parameters that are written there; and this is the head that the line is read as. -/
theorem written_member_head_captured (indent : Blanks) (head : MemberHead) (rest : Text) :
    Grammar.memberHead.captures? (indent.text ++ (head.text ++ rest)) =
        some [head.qualifier.text, head.name.text, head.params] ∧
      Head.ofLine? (indent.text ++ (head.text ++ rest)) =
        some ⟨qualified head.qualifier.text head.name.text, head.params⟩ := by
  have captured := Grammar.captures?_memberHead indent.blank head.matches_text rest
  refine ⟨captured, ?_⟩
  rw [Head.ofLine?, Head.member?, captured]
  rfl

-- Each name here is a word that has a place of its own in the pattern.
example : Grammar.memberHead.captures?
    "\tstatic inline static::inline const::try::static(int (*p, \x7b) const try\x7b".toList =
      some ["const::try".toList, "static".toList, "int (*p, \x7b".toList] := by
  decide +kernel

end HeaderOrder
