import HeaderOrder.Proofs.Heads
import HeaderOrder.Proofs.Languages

/-!
# The shapes of the grammar

What the patterns of the grammar match, said without patterns: a head of a namespace is the
keyword, blanks, a word, blanks and a brace, and so on for the other patterns and their parts.  A
keyword or a result type that may stand in front of a function's name leaves no trace in the
captured groups, so all that is kept of it is what `Leads` says.

Where a text is cut in two by a class of characters, the cut is unique (`append_inj_of_head`,
`append_inj_of_last`).  This is how a match is compared with the line that it is looked for in.
-/

namespace HeaderOrder

/-! ## Cuts by a class of characters -/

section Cuts

variable {α : Type} (accepts : α → Bool) {left right left' right' : List α}

theorem takeWhile_append_of_head (all : ∀ item ∈ left, accepts item = true)
    (stop : ∀ item ∈ right.head?, accepts item = false) :
    (left ++ right).takeWhile accepts = left := by
  rw [List.takeWhile_append_of_pos all]
  cases right with
  | nil => simp
  | cons item rest => simp [stop item rfl]

theorem dropWhile_append_of_head (all : ∀ item ∈ left, accepts item = true)
    (stop : ∀ item ∈ right.head?, accepts item = false) :
    (left ++ right).dropWhile accepts = right := by
  rw [List.dropWhile_append_of_pos all]
  cases right with
  | nil => rfl
  | cons item rest => simp [stop item rfl]

/-- A list is cut in one way only into items of a class and a rest that does not start with one. -/
theorem append_inj_of_head (all : ∀ item ∈ left, accepts item = true)
    (stop : ∀ item ∈ right.head?, accepts item = false)
    (all' : ∀ item ∈ left', accepts item = true)
    (stop' : ∀ item ∈ right'.head?, accepts item = false)
    (same : left ++ right = left' ++ right') : left = left' ∧ right = right' := by
  have lefts : left = left' := by
    rw [← takeWhile_append_of_head accepts all stop, same,
      takeWhile_append_of_head accepts all' stop']
  subst lefts
  exact ⟨rfl, List.append_cancel_left same⟩

/-- A list is cut in one way only into a rest that does not end with an item of a class and items of
that class. -/
theorem append_inj_of_last (stop : ∀ item ∈ left.getLast?, accepts item = false)
    (all : ∀ item ∈ right, accepts item = true)
    (stop' : ∀ item ∈ left'.getLast?, accepts item = false)
    (all' : ∀ item ∈ right', accepts item = true)
    (same : left ++ right = left' ++ right') : left = left' ∧ right = right' := by
  have reversed : right.reverse ++ left.reverse = right'.reverse ++ left'.reverse := by
    rw [← List.reverse_append, same, List.reverse_append]
  have cut := append_inj_of_head accepts (by simpa using all) (by simpa using stop)
    (by simpa using all') (by simpa using stop') reversed
  exact ⟨List.reverse_injective cut.2, List.reverse_injective cut.1⟩

/-- A list is cut in one way only at the first place of an item. -/
theorem append_cons_inj_of_notMem [DecidableEq α] {mark : α} (absent : mark ∉ left)
    (absent' : mark ∉ left') (same : left ++ mark :: right = left' ++ mark :: right') :
    left = left' ∧ right = right' := by
  have other : ∀ {items : List α}, mark ∉ items → ∀ item ∈ items, (item != mark) = true := by
    intro items missing item member
    exact bne_iff_ne.2 fun equal => missing (equal ▸ member)
  have cut := append_inj_of_head (· != mark) (other absent) (by simp) (other absent')
    (by simp) same
  exact ⟨cut.1, (List.cons.inj cut.2).2⟩

/-- What holds of all items at the end holds of the last. -/
theorem forall_last_append {holds : α → Prop} (some : right ≠ [])
    (all : ∀ item ∈ right, holds item) : ∀ item ∈ (left ++ right).getLast?, holds item := by
  intro item member
  rw [List.getLast?_append, List.getLast?_eq_some_getLast some] at member
  exact all item (Option.some.inj member ▸ List.getLast_mem some)

end Cuts

namespace Text

/-! ## Words and identifiers -/

/-- The blank characters by their code points. -/
theorem toNat_mem_of_isBlank {character : Char} (blank : isBlank character = true) :
    character.toNat ∈ List.range' 0x09 5 ++ List.range' 0x1C 5 ++
      [0x85, 0xA0, 0x1680, 0x2028, 0x2029, 0x202F, 0x205F, 0x3000] ++ List.range' 0x2000 11 := by
  obtain ⟨range, listed, bounds⟩ := (inRanges_eq_true _ _).1 blank
  simp only [blankRanges, List.mem_cons, List.not_mem_nil, or_false] at listed
  simp only [List.mem_append, List.mem_range'_1, List.mem_cons, List.not_mem_nil, or_false]
  rcases listed with rfl | rfl | rfl | rfl | rfl | rfl | rfl | rfl | rfl | rfl <;>
    dsimp only at bounds <;> omega

/-- No blank stands in a word. -/
theorem isWord_of_isBlank {character : Char} (blank : isBlank character = true) :
    isWord character = false := by
  have none : ∀ code ∈ List.range' 0x09 5 ++ List.range' 0x1C 5 ++
      [0x85, 0xA0, 0x1680, 0x2028, 0x2029, 0x202F, 0x205F, 0x3000] ++ List.range' 0x2000 11,
      isWord (Char.ofNat code) = false := by
    decide +kernel
  have here := none character.toNat (toNat_mem_of_isBlank blank)
  rwa [Char.ofNat_toNat] at here

theorem isBlank_of_isWord {character : Char} (word : isWord character = true) :
    isBlank character = false := by
  cases blank : isBlank character with
  | false => rfl
  | true => exact absurd word (by simp [isWord_of_isBlank blank])

/-- Whether a text is an identifier. -/
def isIdentifier : Text → Bool
  | [] => false
  | first :: rest => isIdentifierStart first && rest.all isWord

theorem isWord_of_mem_identifier {text : Text} (identifier : isIdentifier text = true) :
    ∀ character ∈ text, isWord character = true := by
  cases text with
  | nil => cases identifier
  | cons first rest =>
      simp only [isIdentifier, Bool.and_eq_true, List.all_eq_true] at identifier
      exact List.forall_mem_cons.2
        ⟨isWord_of_isIdentifierStart first identifier.1, identifier.2⟩

theorem ne_nil_of_isIdentifier {text : Text} (identifier : isIdentifier text = true) :
    text ≠ [] := by
  rintro rfl
  cases identifier

theorem notMem_of_isIdentifier {text : Text} (identifier : isIdentifier text = true)
    (character : Char) (foreign : isWord character = false) : character ∉ text := by
  intro member
  rw [isWord_of_mem_identifier identifier character member] at foreign
  cases foreign

/-- A text that ends with an identifier does not end with a blank. -/
theorem isBlank_last_identifier (front : Text) {text : Text}
    (identifier : isIdentifier text = true) :
    ∀ character ∈ (front ++ text).getLast?, isBlank character = false := by
  refine forall_last_append (ne_nil_of_isIdentifier identifier) ?_
  intro character member
  exact isBlank_of_isWord (isWord_of_mem_identifier identifier character member)

theorem isBlank_of_mem_space : ∀ character ∈ [' '], isBlank character = true :=
  List.forall_mem_singleton.2 (by decide)

theorem notMem_of_blank {text : Text} (blank : ∀ character ∈ text, isBlank character = true)
    (character : Char) (visible : isBlank character = false) : character ∉ text := by
  intro member
  rw [blank character member] at visible
  cases visible

end Text

namespace Grammar

open Pattern Text

/-! ## Parts -/

/-- A pattern without groups captures nothing. -/
theorem groups_eq_nil_of_matches {pattern : Pattern} (counted : pattern.groupCount? = some 0)
    {taken : Text} {groups : List Text} (found : pattern.Matches taken groups) : groups = [] := by
  obtain ⟨reading, member, -, captured⟩ := exists_mem_readings found [] []
  have none := length_groups_of_mem_readings counted member
  rw [← captured, List.length_eq_zero_iff.1 none, List.map_nil]

theorem matches_run1 {accepts : Char → Bool} {taken : Text} {groups : List Text} :
    (run1 accepts).Matches taken groups ↔
      taken ≠ [] ∧ (∀ character ∈ taken, accepts character = true) ∧ groups = [] := by
  constructor
  · rintro ⟨_, rest, _, _, rfl, rfl, ⟨⟨first, rfl, accepted⟩, rfl⟩, others, rfl⟩
    exact ⟨List.cons_ne_nil _ _, List.forall_mem_cons.2 ⟨accepted, others⟩, rfl⟩
  · rintro ⟨some, all, rfl⟩
    obtain ⟨first, rest, rfl⟩ := List.exists_cons_of_ne_nil some
    obtain ⟨accepted, others⟩ := List.forall_mem_cons.1 all
    exact ⟨[first], rest, [], [], rfl, rfl, ⟨⟨first, rfl, accepted⟩, rfl⟩, others, rfl⟩

theorem matches_identifier {taken : Text} {groups : List Text} :
    identifier.Matches taken groups ↔ isIdentifier taken = true ∧ groups = [] := by
  constructor
  · rintro ⟨_, rest, _, _, rfl, rfl, ⟨⟨first, rfl, starts⟩, rfl⟩, others, rfl⟩
    refine ⟨?_, rfl⟩
    simp only [List.singleton_append, isIdentifier, Bool.and_eq_true, List.all_eq_true]
    exact ⟨starts, others⟩
  · rintro ⟨valid, rfl⟩
    cases taken with
    | nil => cases valid
    | cons first rest =>
        simp only [isIdentifier, Bool.and_eq_true, List.all_eq_true] at valid
        exact ⟨[first], rest, [], [], rfl, rfl, ⟨⟨first, rfl, valid.1⟩, rfl⟩, valid.2, rfl⟩

theorem matches_parameters {taken : Text} {groups : List Text} :
    parameters.Matches taken groups ↔
      ∃ params gap, taken = '(' :: (params ++ ')' :: gap) ∧ ')' ∉ params ∧
        (∀ character ∈ gap, isBlank character = true) ∧ groups = [params] := by
  have inside : ∀ params : Text,
      (∀ character ∈ params, (character != ')') = true) ↔ ')' ∉ params := by
    intro params
    simp only [bne_iff_ne]
    exact ⟨fun other member => other _ member rfl,
      fun absent _ member equal => absent (equal ▸ member)⟩
  constructor
  · rintro ⟨_, _, _, _, rfl, rfl, ⟨rfl, rfl⟩, params, _, _, _, rfl, rfl, ⟨_, rfl, others, rfl⟩,
      _, _, _, _, rfl, rfl, ⟨rfl, rfl⟩, gap, _, _, _, rfl, rfl, ⟨blank, rfl⟩, rfl, rfl⟩
    exact ⟨params, gap, by simp, (inside params).1 others, blank, rfl⟩
  · rintro ⟨params, gap, rfl, closed, blank, rfl⟩
    exact ⟨['('], _, [], [params], rfl, rfl, ⟨rfl, rfl⟩, params, _, [params], [], rfl, rfl,
      ⟨[], rfl, (inside params).2 closed, rfl⟩, [')'], _, [], [], rfl, rfl, ⟨rfl, rfl⟩,
      gap, [], [], [], by simp, rfl, ⟨blank, rfl⟩, rfl, rfl⟩

/-! ## What may stand in front of a name -/

/-- What is known of the text in front of a function's name: it holds no parenthesis, does not start
with a blank, and is set off by one. -/
structure Leads (text : Text) : Prop where
  noParenthesis : '(' ∉ text
  starts : ∀ character ∈ text.head?, isIdentifierStart character = true
  ends : ∀ character ∈ text.getLast?, isBlank character = true

theorem Leads.nil : Leads [] := ⟨List.not_mem_nil, nofun, nofun⟩

theorem Leads.append {left right : Text} (before : Leads left) (after : Leads right) :
    Leads (left ++ right) where
  noParenthesis member :=
    (List.mem_append.1 member).elim before.noParenthesis after.noParenthesis
  starts character member := by
    rw [List.head?_append] at member
    cases left with
    | nil => exact after.starts character member
    | cons first rest => exact before.starts character member
  ends character member := by
    rw [List.getLast?_append] at member
    cases last : right.getLast? with
    | none =>
        rw [last] at member
        exact before.ends character member
    | some other =>
        rw [last] at member
        exact after.ends character (last ▸ member)

/-- A nonempty text set off by blanks. -/
theorem Leads.of_gap {text gap : Text} (noParenthesis : '(' ∉ text) (some : text ≠ [])
    (starts : ∀ character ∈ text.head?, isIdentifierStart character = true) (wide : gap ≠ [])
    (blank : ∀ character ∈ gap, isBlank character = true) : Leads (text ++ gap) where
  noParenthesis member :=
    (List.mem_append.1 member).elim noParenthesis (notMem_of_blank blank '(' (by decide))
  starts character member := by
    obtain ⟨first, rest, rfl⟩ := List.exists_cons_of_ne_nil some
    exact starts character member
  ends := forall_last_append wide blank

/-- What stands in front of a name together with the name starts with no blank. -/
theorem Leads.exists_cons {lead name rest : Text} (leads : Leads lead)
    (valid : isIdentifier name = true) :
    ∃ first others, lead ++ (name ++ rest) = first :: others ∧ isBlank first = false := by
  cases lead with
  | nil =>
      obtain ⟨first, others, rfl⟩ := List.exists_cons_of_ne_nil (ne_nil_of_isIdentifier valid)
      refine ⟨first, others ++ rest, rfl, isBlank_of_isWord ?_⟩
      exact isWord_of_mem_identifier valid first (List.mem_cons_self ..)
  | cons first others =>
      refine ⟨first, others ++ (name ++ rest), rfl, isBlank_of_isWord ?_⟩
      exact isWord_of_isIdentifierStart first (leads.starts first rfl)

/-- The identifier at the end of a text, up to blanks, is the same however it is cut off. -/
theorem lastIdentifier_inj {front expected space lead name gap : Text}
    (frontEnd : ∀ character ∈ front.getLast?, isWord character = false)
    (named : isIdentifier expected = true) (spaced : ∀ character ∈ space, isBlank character = true)
    (leadEnd : ∀ character ∈ lead.getLast?, isWord character = false)
    (valid : isIdentifier name = true) (blank : ∀ character ∈ gap, isBlank character = true)
    (same : front ++ (expected ++ space) = lead ++ (name ++ gap)) :
    front = lead ∧ expected = name := by
  rw [← List.append_assoc, ← List.append_assoc] at same
  obtain ⟨upToName, -⟩ := append_inj_of_last isBlank (isBlank_last_identifier front named) spaced
    (isBlank_last_identifier lead valid) blank same
  exact append_inj_of_last isWord frontEnd (isWord_of_mem_identifier named) leadEnd
    (isWord_of_mem_identifier valid) upToName

/-- Of a type and a name with a space between them, only the name can be read as the name. -/
theorem Leads.name_eq {lead name gap type expected : Text} (leads : Leads lead)
    (valid : isIdentifier name = true) (blank : ∀ character ∈ gap, isBlank character = true)
    (named : isIdentifier expected = true)
    (same : type ++ ' ' :: expected = lead ++ (name ++ gap)) : name = expected := by
  have spaced : (type ++ [' ']) ++ (expected ++ []) = lead ++ (name ++ gap) := by simpa using same
  have cut := lastIdentifier_inj (by simp; decide) named (List.forall_mem_nil _)
    (fun character member => isWord_of_isBlank (leads.ends character member)) valid blank spaced
  exact cut.2.symm

/-- A pattern for what may stand in front of a name, without groups. -/
def LeadPattern (pattern : Pattern) : Prop :=
  ∀ taken groups, pattern.Matches taken groups → Leads taken ∧ groups = []

theorem leadPattern_leading {keyword : String} (identifier : isIdentifier keyword.toList = true) :
    LeadPattern (leading keyword) := by
  rintro taken groups (⟨_, gap, _, _, rfl, rfl, ⟨rfl, rfl⟩, wide⟩ | ⟨rfl, rfl⟩)
  · obtain ⟨some, blank, rfl⟩ := matches_run1.1 wide
    refine ⟨Leads.of_gap (notMem_of_isIdentifier identifier '(' (by decide))
      (ne_nil_of_isIdentifier identifier) ?_ some blank, rfl⟩
    intro character member
    cases text : keyword.toList with
    | nil => rw [text] at member; cases member
    | cons first rest =>
        rw [text] at member identifier
        simp only [isIdentifier, Bool.and_eq_true] at identifier
        exact Option.some.inj member ▸ identifier.1
  · exact ⟨Leads.nil, rfl⟩

/-- A name with at most one qualifier. -/
theorem of_matches_qualifiedName {taken : Text} {groups : List Text}
    (found : qualifiedName.Matches taken groups) :
    groups = [] ∧ ∃ name, isIdentifier name = true ∧
      (taken = name ∨ ∃ inner, isIdentifier inner = true ∧
        taken = name ++ ':' :: ':' :: inner) := by
  obtain ⟨name, rest, _, _, rfl, rfl, first, second⟩ := found
  obtain ⟨valid, rfl⟩ := matches_identifier.1 first
  rcases second with ⟨_, inner, _, _, rfl, rfl, ⟨rfl, rfl⟩, last⟩ | ⟨rfl, rfl⟩
  · obtain ⟨innerValid, rfl⟩ := matches_identifier.1 last
    exact ⟨rfl, name, valid, Or.inr ⟨inner, innerValid, rfl⟩⟩
  · exact ⟨rfl, name, valid, Or.inl (List.append_nil _)⟩

theorem leadPattern_resultType : LeadPattern (.optional resultType) := by
  rintro taken groups (⟨type, gap, _, _, rfl, rfl, named, wide⟩ | ⟨rfl, rfl⟩)
  · obtain ⟨some, blank, rfl⟩ := matches_run1.1 wide
    obtain ⟨rfl, name, valid, shape⟩ := of_matches_qualifiedName named
    obtain ⟨first, rest, rfl⟩ := List.exists_cons_of_ne_nil (ne_nil_of_isIdentifier valid)
    have starts : isIdentifierStart first = true := by
      simp only [isIdentifier, Bool.and_eq_true] at valid
      exact valid.1
    have closed := notMem_of_isIdentifier valid '(' (by decide)
    refine ⟨Leads.of_gap ?_ ?_ ?_ some blank, rfl⟩
    · rcases shape with rfl | ⟨inner, innerValid, rfl⟩
      · exact closed
      · have innerClosed := notMem_of_isIdentifier innerValid '(' (by decide)
        intro member
        rcases List.mem_append.1 member with before | after
        · exact closed before
        · exact innerClosed (by simpa using after)
    · rcases shape with rfl | ⟨inner, innerValid, rfl⟩ <;> simp
    · intro character member
      rcases shape with rfl | ⟨inner, innerValid, rfl⟩ <;>
        exact Option.some.inj member ▸ starts
  · exact ⟨Leads.nil, rfl⟩

/-- What several patterns in front of a name match together is again such a text. -/
theorem leads_of_matches_sequence {front rest : List Pattern}
    (leads : ∀ pattern ∈ front, LeadPattern pattern) {taken : Text} {groups : List Text}
    (found : (sequence (front ++ rest)).Matches taken groups) :
    ∃ lead later, taken = lead ++ later ∧ Leads lead ∧ (sequence rest).Matches later groups := by
  induction front generalizing taken groups with
  | nil => exact ⟨[], taken, rfl, Leads.nil, found⟩
  | cons pattern others ih =>
      obtain ⟨left, right, leftGroups, rightGroups, rfl, rfl, here, follows⟩ := found
      obtain ⟨before, rfl⟩ := leads pattern (List.mem_cons_self ..) left leftGroups here
      obtain ⟨lead, later, rfl, after, last⟩ :=
        ih (fun other member => leads other (List.mem_cons_of_mem _ member)) follows
      exact ⟨left ++ lead, later, (List.append_assoc ..).symm, before.append after, last⟩

/-- Whether a pattern is there or not at will. -/
def isOptional : Pattern → Bool
  | .optional _ => true
  | _ => false

/-- Optional patterns can be passed over. -/
theorem matches_sequence_append (front : List Pattern) {rest : List Pattern}
    (optional : front.all isOptional = true)
    {taken : Text} {groups : List Text} (found : (sequence rest).Matches taken groups) :
    (sequence (front ++ rest)).Matches taken groups := by
  induction front with
  | nil => exact found
  | cons pattern others ih =>
      rw [List.all_cons, Bool.and_eq_true] at optional
      have here : pattern.Matches [] [] := by
        cases pattern with
        | optional body => exact Or.inr ⟨rfl, rfl⟩
        | _ => cases optional.1
      exact here.append (ih optional.2)

/-! ## Names with parameters -/

/-- A mark at the end. -/
theorem matches_sequence_mark (mark : Char) : (sequence [.exactly [mark]]).Matches [mark] [] :=
  ⟨[mark], [], [], [], rfl, rfl, ⟨rfl, rfl⟩, rfl, rfl⟩

theorem matches_wordGroup {name : Text} (some : name ≠ [])
    (word : ∀ character ∈ name, isWord character = true) :
    (Pattern.group Grammar.word).Matches name [name] :=
  ⟨[], rfl, matches_run1.2 ⟨some, word, rfl⟩⟩

/-- A name with its parameters, and then something without groups: the name stands right before the
first parenthesis, and the parameters reach to the parenthesis that closes it. -/
theorem of_matches_named {rest : List Pattern} (silent : (sequence rest).groupCount? = some 0)
    {taken : Text} {groups : List Text}
    (found : (sequence (.group identifier :: blanks :: parameters :: rest)).Matches taken groups) :
    ∃ name gap params tail, taken = name ++ (gap ++ '(' :: (params ++ ')' :: tail)) ∧
      isIdentifier name = true ∧ (∀ character ∈ gap, isBlank character = true) ∧ ')' ∉ params ∧
        groups = [name, params] := by
  obtain ⟨name, _, _, _, rfl, rfl, ⟨_, rfl, named⟩, gap, _, _, _, rfl, rfl, ⟨blank, rfl⟩,
    called, tail, _, _, rfl, rfl, listed, last⟩ := found
  obtain ⟨valid, rfl⟩ := matches_identifier.1 named
  obtain ⟨params, after, rfl, closed, -, rfl⟩ := matches_parameters.1 listed
  rw [groups_eq_nil_of_matches silent last]
  exact ⟨name, gap, params, after ++ tail, by simp, valid, blank, closed, rfl⟩

theorem matches_named {rest : List Pattern} {name params gap tail : Text}
    (valid : isIdentifier name = true) (closed : ')' ∉ params)
    (blank : ∀ character ∈ gap, isBlank character = true)
    (last : (sequence rest).Matches tail []) :
    (sequence (.group identifier :: blanks :: parameters :: rest)).Matches
      (name ++ '(' :: (params ++ ')' :: (gap ++ tail))) [name, params] := by
  have named : (Pattern.group identifier).Matches name [name] :=
    ⟨[], rfl, matches_identifier.2 ⟨valid, rfl⟩⟩
  have listed : parameters.Matches ('(' :: (params ++ ')' :: gap)) [params] :=
    matches_parameters.2 ⟨params, gap, rfl, closed, blank, rfl⟩
  have none : blanks.Matches [] [] := ⟨nofun, rfl⟩
  have whole := named.append (none.append (listed.append last))
  rw [List.nil_append, List.cons_append, List.append_assoc, List.cons_append] at whole
  exact whole

/-- What may stand in front of a declaration's name. -/
def declarationFront : List Pattern :=
  [leading "virtual", leading "static", leading "const", leading "inline", leading "explicit",
    .optional resultType]

/-- What may stand between a declaration's parameters and its semicolon. -/
def declarationTrailers : List Pattern :=
  [trailing "const", trailing "noexcept", trailing "override", trailing "final",
    assigned "0", assigned "default", assigned "delete"]

theorem declaration_eq :
    declaration = sequence (declarationFront ++
      .group identifier :: blanks :: parameters :: (declarationTrailers ++ [.exactly [';']])) := rfl

theorem leadPattern_of_mem_declarationFront :
    ∀ pattern ∈ declarationFront, LeadPattern pattern := by
  simp only [declarationFront, List.forall_mem_cons, List.not_mem_nil, false_implies,
    implies_true, and_true]
  refine ⟨?_, ?_, ?_, ?_, ?_, leadPattern_resultType⟩ <;> exact leadPattern_leading (by decide)

theorem of_matches_declaration {taken : Text} {groups : List Text}
    (found : declaration.Matches taken groups) :
    ∃ lead name gap params tail, taken = lead ++ (name ++ (gap ++ '(' :: (params ++ ')' :: tail))) ∧
      Leads lead ∧ isIdentifier name = true ∧ (∀ character ∈ gap, isBlank character = true) ∧
        ')' ∉ params ∧ groups = [name, params] := by
  rw [declaration_eq] at found
  obtain ⟨lead, later, rfl, leads, named⟩ :=
    leads_of_matches_sequence leadPattern_of_mem_declarationFront found
  obtain ⟨name, gap, params, tail, rfl, shape⟩ := of_matches_named rfl named
  exact ⟨lead, name, gap, params, tail, rfl, leads, shape⟩

/-- A declaration captures an identifier, and parameters up to the first closing parenthesis. -/
theorem of_captures?_declaration {line name params : Text}
    (captured : declaration.captures? line = some [name, params]) :
    isIdentifier name = true ∧ ')' ∉ params := by
  obtain ⟨_, _, _, -, found⟩ := Pattern.matches_of_captures? captured
  obtain ⟨_, other, _, otherParams, _, -, -, valid, -, closed, same⟩ := of_matches_declaration found
  obtain ⟨rfl, rfl⟩ : name = other ∧ params = otherParams := by simpa using same
  exact ⟨valid, closed⟩

theorem matches_resultType {type : Text} (typed : isIdentifier type = true) :
    (Pattern.optional resultType).Matches (type ++ [' ']) [] := by
  refine Or.inl ⟨type, [' '], [], [], rfl, rfl, ?_,
    matches_run1.2 ⟨by simp, isBlank_of_mem_space, rfl⟩⟩
  exact ⟨type, [], [], [], by simp, rfl, matches_identifier.2 ⟨typed, rfl⟩, Or.inr ⟨rfl, rfl⟩⟩

/-- A result type, a name and parameters make a declaration. -/
theorem matches_declaration {type name params : Text} (typed : isIdentifier type = true)
    (valid : isIdentifier name = true) (closed : ')' ∉ params) :
    declaration.Matches (type ++ ' ' :: (name ++ '(' :: (params ++ [')', ';'])))
      [name, params] := by
  have last : (Pattern.sequence (declarationTrailers ++ [.exactly [';']])).Matches [';'] [] :=
    matches_sequence_append declarationTrailers rfl (matches_sequence_mark ';')
  have named := matches_named valid closed (List.forall_mem_nil _) last
  have whole := (matches_resultType typed).append named
  rw [List.append_assoc] at whole
  rw [declaration_eq]
  exact matches_sequence_append declarationFront.dropLast rfl whole

/-! ## Heads of namespaces and classes -/

theorem matches_namespaceHead {taken : Text} {groups : List Text} :
    namespaceHead.Matches taken groups ↔
      ∃ gap name after, taken = "namespace".toList ++ (gap ++ (name ++ (after ++ ['{']))) ∧
        gap ≠ [] ∧ (∀ character ∈ gap, isBlank character = true) ∧
        name ≠ [] ∧ (∀ character ∈ name, isWord character = true) ∧
        (∀ character ∈ after, isBlank character = true) ∧ groups = [name] := by
  constructor
  · rintro ⟨_, _, _, _, rfl, rfl, ⟨rfl, rfl⟩, gap, _, _, _, rfl, rfl, wide, name, _, _, _, rfl, rfl,
      ⟨_, rfl, named⟩, after, _, _, _, rfl, rfl, ⟨blank, rfl⟩, _, _, _, _, rfl, rfl, ⟨rfl, rfl⟩,
      rfl, rfl⟩
    obtain ⟨some, allBlank, rfl⟩ := matches_run1.1 wide
    obtain ⟨nonempty, allWord, rfl⟩ := matches_run1.1 named
    exact ⟨gap, name, after, rfl, some, allBlank, nonempty, allWord, blank, rfl⟩
  · rintro ⟨gap, name, after, rfl, some, allBlank, nonempty, allWord, blank, rfl⟩
    have keyword : (Pattern.exactly "namespace".toList).Matches "namespace".toList [] := ⟨rfl, rfl⟩
    have wide : blanks1.Matches gap [] := matches_run1.2 ⟨some, allBlank, rfl⟩
    have spaced : blanks.Matches after [] := ⟨blank, rfl⟩
    exact keyword.append (wide.append ((matches_wordGroup nonempty allWord).append
      (spaced.append (matches_sequence_mark '{'))))

/-- The head of a class, with a base class or without. -/
theorem matches_classHead {taken : Text} {groups : List Text} :
    classHead.Matches taken groups ↔
      ∃ gap name after base,
        taken = "class".toList ++ (gap ++ (name ++ (after ++ (base ++ ['{'])))) ∧
        gap ≠ [] ∧ (∀ character ∈ gap, isBlank character = true) ∧
        name ≠ [] ∧ (∀ character ∈ name, isWord character = true) ∧
        (∀ character ∈ after, isBlank character = true) ∧
        (Pattern.optional baseClass).Matches base [] ∧ groups = [name] := by
  constructor
  · rintro ⟨_, _, _, _, rfl, rfl, ⟨rfl, rfl⟩, gap, _, _, _, rfl, rfl, wide, name, _, _, _, rfl, rfl,
      ⟨_, rfl, named⟩, after, _, _, _, rfl, rfl, ⟨blank, rfl⟩, base, _, _, _, rfl, rfl, based,
      _, _, _, _, rfl, rfl, ⟨rfl, rfl⟩, rfl, rfl⟩
    obtain ⟨some, allBlank, rfl⟩ := matches_run1.1 wide
    obtain ⟨nonempty, allWord, rfl⟩ := matches_run1.1 named
    obtain rfl := groups_eq_nil_of_matches rfl based
    exact ⟨gap, name, after, base, rfl, some, allBlank, nonempty, allWord, blank, based, rfl⟩
  · rintro ⟨gap, name, after, base, rfl, some, allBlank, nonempty, allWord, blank, based, rfl⟩
    have keyword : (Pattern.exactly "class".toList).Matches "class".toList [] := ⟨rfl, rfl⟩
    have wide : blanks1.Matches gap [] := matches_run1.2 ⟨some, allBlank, rfl⟩
    have spaced : blanks.Matches after [] := ⟨blank, rfl⟩
    exact keyword.append (wide.append ((matches_wordGroup nonempty allWord).append
      (spaced.append (based.append (matches_sequence_mark '{')))))

/-- A base class starts with a colon. -/
theorem base_eq_nil_or_colon {base : Text} {groups : List Text}
    (found : (Pattern.optional baseClass).Matches base groups) :
    base = [] ∨ ∃ rest, base = ':' :: rest := by
  rcases found with ⟨_, rest, _, _, rfl, -, ⟨rfl, -⟩, -⟩ | ⟨rfl, -⟩
  · exact Or.inr ⟨rest, rfl⟩
  · exact Or.inl rfl

/-- A public base class, in the usual spacing. -/
theorem matches_publicBase {base : Text} (valid : isIdentifier base = true) :
    (Pattern.optional baseClass).Matches (": public ".toList ++ (base ++ [' '])) [] := by
  have colon : (Pattern.exactly [':']).Matches [':'] [] := ⟨rfl, rfl⟩
  have space : blanks.Matches [' '] [] := ⟨isBlank_of_mem_space, rfl⟩
  have space1 : blanks1.Matches [' '] [] :=
    matches_run1.2 ⟨by simp, isBlank_of_mem_space, rfl⟩
  have isPublic : access.Matches "public".toList [] := Or.inl ⟨rfl, rfl⟩
  have named : word.Matches base [] :=
    matches_run1.2 ⟨ne_nil_of_isIdentifier valid, isWord_of_mem_identifier valid, rfl⟩
  have last : (sequence [blanks]).Matches [' '] [] := space.append ⟨rfl, rfl⟩
  exact Or.inl (colon.append (space.append (isPublic.append (space1.append (named.append last)))))

/-! ## Heads of member functions -/

/-- What may stand in front of the qualifier of a member function. -/
def memberFront : List Pattern :=
  [leading "static", leading "inline", .optional resultType]

/-- What may stand between a member function's parameters and its opening brace. -/
def memberTrailers : List Pattern :=
  [trailing "const", trailing "noexcept", trailing "override", trailing "final", trailing "try"]

theorem memberHead_eq :
    memberHead = sequence (memberFront ++ .group qualifiedName :: blanks :: .exactly "::".toList ::
      blanks :: .group identifier :: blanks :: parameters ::
        (memberTrailers ++ [.exactly ['{']])) := rfl

theorem leadPattern_of_mem_memberFront : ∀ pattern ∈ memberFront, LeadPattern pattern := by
  simp only [memberFront, List.forall_mem_cons, List.not_mem_nil, false_implies, implies_true,
    and_true]
  exact ⟨leadPattern_leading (by decide), leadPattern_leading (by decide), leadPattern_resultType⟩

/-- What stands before the parameters of a member function: the qualifier, two colons and the
name, with blanks around them, and in front of these what may stand there. -/
structure MemberName where
  lead : Text
  qualifier : Text
  before : Text
  after : Text
  name : Text
  gap : Text
  leads : Leads lead
  qualifies : qualifiedName.Matches qualifier []
  blankBefore : ∀ character ∈ before, isBlank character = true
  blankAfter : ∀ character ∈ after, isBlank character = true
  valid : isIdentifier name = true
  blankGap : ∀ character ∈ gap, isBlank character = true

def MemberName.text (named : MemberName) : Text :=
  named.lead ++ (named.qualifier ++ (named.before ++ ':' :: ':' ::
    (named.after ++ (named.name ++ named.gap))))

theorem of_matches_memberHead {taken : Text} {groups : List Text}
    (found : memberHead.Matches taken groups) :
    ∃ (named : MemberName) (params tail : Text),
      taken = named.text ++ '(' :: (params ++ ')' :: tail) ∧
      ')' ∉ params ∧ groups = [named.qualifier, named.name, params] := by
  rw [memberHead_eq] at found
  obtain ⟨lead, later, rfl, leads, rest⟩ :=
    leads_of_matches_sequence leadPattern_of_mem_memberFront found
  obtain ⟨qualifier, _, _, _, rfl, rfl, ⟨_, rfl, qualifies⟩, before, _, _, _, rfl, rfl,
    ⟨blankBefore, rfl⟩, _, _, _, _, rfl, rfl, ⟨rfl, rfl⟩, after, _, _, _, rfl, rfl,
    ⟨blankAfter, rfl⟩, called⟩ := rest
  obtain rfl := (of_matches_qualifiedName qualifies).1
  obtain ⟨name, gap, params, tail, rfl, valid, blankGap, closed, rfl⟩ := of_matches_named rfl called
  exact ⟨⟨lead, qualifier, before, after, name, gap, leads, qualifies, blankBefore, blankAfter,
    valid, blankGap⟩, params, tail, by simp [MemberName.text], closed, rfl⟩

/-- A qualified name, parameters and a brace begin a member function, together with what may stand
in front of the qualifier and before the brace. -/
theorem matches_memberHead {static inline result qualifier name params gap tail : Text}
    (marked : (leading "static").Matches static []) (inlined : (leading "inline").Matches inline [])
    (typed : (Pattern.optional resultType).Matches result [])
    (qualifies : qualifiedName.Matches qualifier []) (valid : isIdentifier name = true)
    (closed : ')' ∉ params) (blank : ∀ character ∈ gap, isBlank character = true)
    (last : (Pattern.sequence (memberTrailers ++ [.exactly ['{']])).Matches tail []) :
    memberHead.Matches (static ++ (inline ++ (result ++ (qualifier ++ ':' :: ':' ::
      (name ++ '(' :: (params ++ ')' :: (gap ++ tail))))))) [qualifier, name, params] := by
  have captured : (Pattern.group qualifiedName).Matches qualifier [qualifier] :=
    ⟨[], rfl, qualifies⟩
  have none : blanks.Matches [] [] := ⟨nofun, rfl⟩
  have mark : (Pattern.exactly "::".toList).Matches [':', ':'] [] := ⟨rfl, rfl⟩
  have called := matches_named valid closed blank last
  exact marked.append (inlined.append (typed.append
    (captured.append (none.append (mark.append (none.append called))))))

/-! ## Heads of free functions -/

/-- What stands in front of the name of a free function. -/
def freeFront : List Pattern :=
  [leading "static", leading "inline", resultType]

/-- What may stand between a free function's parameters and its opening brace. -/
def freeTrailers : List Pattern :=
  [trailing "const", trailing "noexcept", trailing "try"]

theorem freeHead_eq :
    freeHead = sequence (freeFront ++
      .group identifier :: blanks :: parameters :: (freeTrailers ++ [.exactly ['{']])) := rfl

theorem leadPattern_of_mem_freeFront : ∀ pattern ∈ freeFront, LeadPattern pattern := by
  simp only [freeFront, List.forall_mem_cons, List.not_mem_nil, false_implies, implies_true,
    and_true]
  refine ⟨leadPattern_leading (by decide), leadPattern_leading (by decide), ?_⟩
  exact fun taken groups found => leadPattern_resultType taken groups (Or.inl found)

theorem of_matches_freeHead {taken : Text} {groups : List Text}
    (found : freeHead.Matches taken groups) :
    ∃ lead name gap params tail, taken = lead ++ (name ++ (gap ++ '(' :: (params ++ ')' :: tail))) ∧
      Leads lead ∧ isIdentifier name = true ∧ (∀ character ∈ gap, isBlank character = true) ∧
        ')' ∉ params ∧ groups = [name, params] := by
  rw [freeHead_eq] at found
  obtain ⟨lead, later, rfl, leads, named⟩ :=
    leads_of_matches_sequence leadPattern_of_mem_freeFront found
  obtain ⟨name, gap, params, tail, rfl, shape⟩ := of_matches_named rfl named
  exact ⟨lead, name, gap, params, tail, rfl, leads, shape⟩

end Grammar

end HeaderOrder
