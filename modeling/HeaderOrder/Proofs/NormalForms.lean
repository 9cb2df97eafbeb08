import HeaderOrder.Proofs.Defaults

/-!
# Normal forms of parameters

A normal form holds no blanks and is a part of the text that it was made of.  It has the
delimiters of that text, no more and no fewer, and is cut into the normal forms of its clauses.  A
clause in normal form has nothing left to lose: no value stands after its mark of equality, and
without blanks no name can be told from its type.  A text of such clauses is settled.  Normal
forms are settled, and a settled text is its own normal form, so a second round changes nothing.

Every fact about all parameter texts is proved for an open clause and for a closed one in front of a
text that has it (`clause_induction`).
-/

namespace HeaderOrder.Params

open Text

/-- What holds of every open clause, and of every text whose rest after the first delimiter has it,
holds of every text. -/
theorem clause_induction {holds : Text → Prop}
    (last : ∀ clause, (∀ character ∈ clause, isDelimiter character = false) → holds clause)
    (closed : ∀ clause delimiter rest, (∀ character ∈ clause, isDelimiter character = false) →
      isDelimiter delimiter = true → holds rest → holds (clause ++ delimiter :: rest))
    (text : Text) : holds text := by
  -- `begun` is what has been read of the first clause.
  have extended : ∀ begun : Text, (∀ character ∈ begun, isDelimiter character = false) →
      holds (begun ++ text) := by
    induction text with
    | nil =>
        intro begun free
        rw [List.append_nil]
        exact last begun free
    | cons character rest ih =>
        intro begun free
        cases delimiter : isDelimiter character with
        | true => exact closed begun character rest free delimiter (ih [] nofun)
        | false =>
            rw [← List.singleton_append, ← List.append_assoc]
            apply ih
            exact List.forall_mem_append.2 ⟨free, List.forall_mem_singleton.2 delimiter⟩
  exact extended [] nofun

/-! ## Parts of a clause -/

theorem trimEnd_sublist (text : Text) : (trimEnd text).Sublist text := by
  have dropped := (List.dropWhile_sublist isBlank (l := text.reverse)).reverse
  rwa [List.reverse_reverse] at dropped

theorem dropDefault_sublist (clause : Text) : (dropDefault clause).Sublist clause := by
  rw [dropDefault]
  split
  · exact (trimEnd_sublist _).trans (List.takeWhile_sublist _)
  · exact List.Sublist.refl clause

theorem dropName_sublist (clause : Text) : (dropName clause).Sublist clause := by
  rw [dropName]
  split
  · have dropped := ((List.dropWhile_sublist isBlank).trans
      (List.dropWhile_sublist isWord (l := clause.reverse))).reverse
    rwa [List.reverse_reverse] at dropped
  · exact List.Sublist.refl clause

theorem normalizeClosed_sublist (clause : Text) : (normalizeClosed clause).Sublist clause :=
  List.filter_sublist.trans ((dropName_sublist _).trans (dropDefault_sublist clause))

theorem normalizeLast_sublist (clause : Text) : (normalizeLast clause).Sublist clause :=
  List.filter_sublist.trans (dropDefault_sublist clause)

theorem isBlank_of_mem_dropBlanks {text : Text} {character : Char}
    (member : character ∈ dropBlanks text) : isBlank character = false := by
  simpa using (List.mem_filter.1 member).2

theorem dropBlanks_append (left right : Text) :
    dropBlanks (left ++ right) = dropBlanks left ++ dropBlanks right :=
  List.filter_append left right

theorem dropBlanks_of_blank {gap : Text} (blank : ∀ character ∈ gap, isBlank character = true) :
    dropBlanks gap = [] :=
  List.filter_eq_nil_iff.2 fun character member => by simp [blank character member]

/-! ## Clauses in normal form -/

theorem dropLast_sublist_dropLast {left right : Text} (part : left.Sublist right) :
    left.dropLast.Sublist right.dropLast := by
  have tails := part.reverse.tail.reverse
  rwa [List.tail_reverse, List.tail_reverse, List.reverse_reverse, List.reverse_reverse] at tails

/-- A clause without blanks, in which a mark of equality can only be the last character. -/
structure Bare (clause : Text) : Prop where
  noBlank : ∀ character ∈ clause, isBlank character = false
  noValue : '=' ∉ clause.dropLast

theorem dropDefault_of_noValue {clause : Text} (noValue : '=' ∉ clause.dropLast) :
    dropDefault clause = clause := by
  rcases List.eq_nil_or_concat clause with rfl | ⟨front, last, rfl⟩
  · rfl
  · rw [List.concat_eq_append, List.dropLast_concat] at noValue
    have other : ∀ character ∈ front, (character != '=') = true := by
      intro character member
      exact bne_iff_ne.2 fun equal => noValue (equal ▸ member)
    rw [dropDefault, List.concat_eq_append, List.dropWhile_append_of_pos other]
    cases mark : last != '=' <;> simp [mark]

theorem noValue_dropDefault (clause : Text) : '=' ∉ (dropDefault clause).dropLast := by
  rw [dropDefault]
  split
  · intro member
    have taken := (trimEnd_sublist _).subset ((List.dropLast_sublist _).subset member)
    simpa using List.mem_takeWhile_imp taken
  · next short =>
      -- At most one character is left from the first mark on, so the mark is the last character.
      intro member
      have cut := List.takeWhile_append_dropWhile (p := (· != '=')) (l := clause)
      rcases rest : clause.dropWhile (· != '=') with _ | ⟨mark, _ | ⟨next, others⟩⟩
      · rw [rest, List.append_nil] at cut
        rw [← cut] at member
        simpa using List.mem_takeWhile_imp ((List.dropLast_sublist _).subset member)
      · rw [rest] at cut
        rw [← cut, List.dropLast_concat] at member
        simpa using List.mem_takeWhile_imp member
      · exact short _ _ _ rest

theorem bare_normalizeLast (clause : Text) : Bare (normalizeLast clause) where
  noBlank _ member := isBlank_of_mem_dropBlanks member
  noValue member := noValue_dropDefault clause
    ((dropLast_sublist_dropLast List.filter_sublist).subset member)

theorem bare_normalizeClosed (clause : Text) : Bare (normalizeClosed clause) where
  noBlank _ member := isBlank_of_mem_dropBlanks member
  noValue member := by
    have part : (normalizeClosed clause).Sublist (dropDefault clause) :=
      List.filter_sublist.trans (dropName_sublist _)
    exact noValue_dropDefault clause ((dropLast_sublist_dropLast part).subset member)

theorem dropName_of_noBlank {clause : Text}
    (noBlank : ∀ character ∈ clause, isBlank character = false) : dropName clause = clause := by
  have gap : (clause.reverse.dropWhile isWord).takeWhile isBlank = [] := by
    rw [List.takeWhile_eq_nil_iff]
    intro long blank
    have member := (List.dropWhile_sublist isWord).subset (List.get_mem _ ⟨0, long⟩)
    rw [noBlank _ (List.mem_reverse.1 member)] at blank
    cases blank
  simp only [dropName, gap, List.isEmpty_nil, Bool.not_true, Bool.and_false, Bool.false_and,
    Bool.false_eq_true, if_false]

theorem dropBlanks_of_noBlank {text : Text}
    (noBlank : ∀ character ∈ text, isBlank character = false) : dropBlanks text = text :=
  List.filter_eq_self.2 fun character member => by simp [noBlank character member]

theorem Bare.normalizeLast_eq {clause : Text} (bare : Bare clause) :
    normalizeLast clause = clause := by
  rw [normalizeLast, dropDefault_of_noValue bare.noValue, dropBlanks_of_noBlank bare.noBlank]

theorem Bare.normalizeClosed_eq {clause : Text} (bare : Bare clause) :
    normalizeClosed clause = clause := by
  rw [normalizeClosed, dropDefault_of_noValue bare.noValue, dropName_of_noBlank bare.noBlank,
    dropBlanks_of_noBlank bare.noBlank]

/-! ## Parameter texts in normal form -/

/-- A normal form is a part of the text that it was made of. -/
theorem normalize_sublist (params : Text) : (normalize params).Sublist params := by
  induction params using clause_induction with
  | last clause free =>
      rw [normalize_eq_last free]
      exact normalizeLast_sublist clause
  | closed clause delimiter rest free closes ih =>
      rw [normalize_append free closes]
      exact (normalizeClosed_sublist clause).append (ih.cons_cons delimiter)

theorem filter_isDelimiter_eq_nil {clause part : Text}
    (free : ∀ character ∈ clause, isDelimiter character = false) (taken : part.Sublist clause) :
    part.filter isDelimiter = [] :=
  List.filter_eq_nil_iff.2 fun character member => by simp [free character (taken.subset member)]

/-- A normal form has the delimiters of the text that it was made of. -/
theorem filter_isDelimiter_normalize (params : Text) :
    (normalize params).filter isDelimiter = params.filter isDelimiter := by
  induction params using clause_induction with
  | last clause free =>
      rw [normalize_eq_last free, filter_isDelimiter_eq_nil free (normalizeLast_sublist clause),
        filter_isDelimiter_eq_nil free (List.Sublist.refl clause)]
  | closed clause delimiter rest free closes ih =>
      rw [normalize_append free closes, List.filter_append, List.filter_append,
        filter_isDelimiter_eq_nil free (normalizeClosed_sublist clause),
        filter_isDelimiter_eq_nil free (List.Sublist.refl clause), List.filter_cons_of_pos closes,
        List.filter_cons_of_pos closes, ih]

theorem mem_normalize_of_isDelimiter {character : Char} (delimiter : isDelimiter character = true)
    (params : Text) : character ∈ normalize params ↔ character ∈ params := by
  have kept := congrArg (character ∈ ·) (filter_isDelimiter_normalize params)
  simpa [List.mem_filter, delimiter] using kept

/-! ## Settled texts -/

/-- A parameter text with nothing left to drop: it holds no blank, and what stands right after a
mark of equality, if anything does, is a delimiter. -/
structure Settled (params : Text) : Prop where
  noBlank : ∀ character ∈ params, isBlank character = false
  noValue : ∀ before after, params = before ++ '=' :: after →
    ∀ character ∈ after.head?, isDelimiter character = true

/-- A clause without delimiters is settled exactly if it is bare. -/
theorem settled_iff_bare {clause : Text}
    (free : ∀ character ∈ clause, isDelimiter character = false) :
    Settled clause ↔ Bare clause := by
  constructor
  · rintro ⟨noBlank, noValue⟩
    refine ⟨noBlank, fun marked => ?_⟩
    -- The character after the mark would have to be a delimiter.
    obtain ⟨before, after, front⟩ := List.append_of_mem marked
    rcases List.eq_nil_or_concat clause with rfl | ⟨others, last, rfl⟩
    · cases marked
    · rw [List.concat_eq_append, List.dropLast_concat] at front
      have whole : others.concat last = before ++ '=' :: (after ++ [last]) := by simp [front]
      obtain ⟨next, further, goesOn⟩ : ∃ next further, after ++ [last] = next :: further :=
        List.exists_cons_of_ne_nil (by simp)
      rw [goesOn] at whole
      have delimiter := noValue before (next :: further) whole next rfl
      rw [free next (by rw [whole]; simp)] at delimiter
      cases delimiter
  · rintro ⟨noBlank, noValue⟩
    refine ⟨noBlank, ?_⟩
    rintro before after rfl character member
    have some : after ≠ [] := List.ne_nil_of_mem (List.mem_of_mem_head? member)
    rw [List.dropLast_append_of_ne_nil (List.cons_ne_nil _ _),
      List.dropLast_cons_of_ne_nil some] at noValue
    simp at noValue

/-- A text is settled exactly if it is so on both sides of a delimiter. -/
theorem settled_append_iff {clause rest : Text} {delimiter : Char}
    (closes : isDelimiter delimiter = true) :
    Settled (clause ++ delimiter :: rest) ↔ Settled clause ∧ Settled rest := by
  have noMark : delimiter ≠ '=' := by
    rintro rfl
    cases closes
  constructor
  · rintro ⟨noBlank, noValue⟩
    rw [List.forall_mem_append, List.forall_mem_cons] at noBlank
    refine ⟨⟨noBlank.1, ?_⟩, ⟨noBlank.2.2, ?_⟩⟩
    · rintro before after rfl character member
      apply noValue before (after ++ delimiter :: rest) (by simp)
      rw [List.head?_append, Option.mem_def.1 member]
      rfl
    · rintro before after rfl
      exact noValue (clause ++ delimiter :: before) after (by simp)
  · rintro ⟨left, right⟩
    refine ⟨?_, fun before after whole => ?_⟩
    · rw [List.forall_mem_append, List.forall_mem_cons]
      exact ⟨left.noBlank, isBlank_of_isDelimiter closes, right.noBlank⟩
    · rcases List.append_eq_append_iff.1 whole with ⟨cut, rfl, later⟩ | ⟨cut, rfl, here⟩
      · cases cut with
        | nil => exact absurd (List.cons.inj later).1 noMark
        | cons first others => exact right.noValue others after (List.cons.inj later).2
      · cases cut with
        | nil => exact absurd (List.cons.inj here).1.symm noMark
        | cons first others =>
            obtain ⟨rfl, rfl⟩ := List.cons.inj here
            cases others with
            | nil =>
                rintro _ ⟨⟩
                exact closes
            | cons next further =>
                rintro _ ⟨⟩
                exact left.noValue before (next :: further) rfl next rfl

/-- A normal form is settled. -/
theorem settled_normalize (params : Text) : Settled (normalize params) := by
  induction params using clause_induction with
  | last clause free =>
      have part := (normalizeLast_sublist clause).subset
      rw [normalize_eq_last free]
      exact (settled_iff_bare fun character member => free character (part member)).2
        (bare_normalizeLast clause)
  | closed clause delimiter rest free closes ih =>
      have part := (normalizeClosed_sublist clause).subset
      rw [normalize_append free closes, settled_append_iff closes]
      exact ⟨(settled_iff_bare fun character member => free character (part member)).2
        (bare_normalizeClosed clause), ih⟩

/-- A settled text is its own normal form. -/
theorem Settled.normalize_eq {params : Text} (settled : Settled params) :
    normalize params = params := by
  induction params using clause_induction with
  | last clause free =>
      rw [normalize_eq_last free]
      exact ((settled_iff_bare free).1 settled).normalizeLast_eq
  | closed clause delimiter rest free closes ih =>
      obtain ⟨left, right⟩ := (settled_append_iff closes).1 settled
      rw [normalize_append free closes, ((settled_iff_bare free).1 left).normalizeClosed_eq,
        ih right]

theorem isBlank_of_mem_normalize {params : Text} {character : Char}
    (member : character ∈ normalize params) : isBlank character = false :=
  (settled_normalize params).noBlank character member

/-- A normal form is its own normal form. -/
theorem normalize_normalize (params : Text) : normalize (normalize params) = normalize params :=
  (settled_normalize params).normalize_eq

/-- A normal form is its own normal form.  It is a part of the text that it was made of, in which
every delimiter is kept and no blank; what stands right after a mark of equality in it is a
delimiter, if anything stands there.  The normal forms are the texts of which the last two things
are true. -/
theorem normalize_settles (params : Text) :
    normalize (normalize params) = normalize params ∧
      (∀ character ∈ normalize params, isBlank character = false) ∧
      (normalize params).Sublist params ∧
      (normalize params).filter isDelimiter = params.filter isDelimiter ∧
      (∀ before after, normalize params = before ++ '=' :: after →
        ∀ character ∈ after.head?, character = ',' ∨ character = ')') ∧
      (normalize params = params ↔ Settled params) := by
  have settled := settled_normalize params
  refine ⟨normalize_normalize params, settled.noBlank, normalize_sublist params,
    filter_isDelimiter_normalize params, ?_, ?_, Settled.normalize_eq⟩
  · intro before after whole character member
    simpa [isDelimiter] using settled.noValue before after whole character member
  · intro same
    rw [← same]
    exact settled

theorem normalize_settles_open_marks :
    normalize "int a =, T b = c = 1) d= , u =".toList = "inta=,T)d,u=".toList ∧
      normalize "inta=,T)d,u=".toList = "inta=,T)d,u=".toList ∧
      "inta=,T)d,u=".toList.Sublist "int a =, T b = c = 1) d= , u =".toList ∧
      Settled "inta=,T)d,u=".toList := by
  have form : normalize "int a =, T b = c = 1) d= , u =".toList = "inta=,T)d,u=".toList := by
    decide +kernel
  obtain ⟨again, -, part, -⟩ := normalize_settles "int a =, T b = c = 1) d= , u =".toList
  rw [form] at again part
  exact ⟨form, again, part, (normalize_settles "inta=,T)d,u=".toList).2.2.2.2.2.1 again⟩

end HeaderOrder.Params
