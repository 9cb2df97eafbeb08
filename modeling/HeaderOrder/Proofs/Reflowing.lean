import HeaderOrder.Proofs.Matching
import HeaderOrder.Proofs.NormalForms

/-!
# Blanks between the words of a parameter list

A text is reflowed by writing other blanks wherever blanks stand: more of them or fewer, a line
break for a space, but never none, and none where there were none.

Everything that the normal form does to a clause can be followed on both texts at once.  The
clause is read up to a mark, a word or a blank, from either end, and tests of this kind do not
tell one blank from another (`takeWhile`, `dropWhile`); whether anything is found is the same on
both sides, since no gap is closed or opened.  What is left on the two sides again differs in
blanks only, and in the end the blanks go.
-/

namespace HeaderOrder

namespace Params

open Text

/-- Whether a text is a gap between words: blanks, at least one. -/
structure IsGap (text : Text) : Prop where
  some : text ≠ []
  blank : ∀ character ∈ text, isBlank character = true

/-- Whether two texts are the same up to the blanks in their gaps.  Gaps side by side are one gap,
so a stretch of blanks as long as it goes may be replaced at once or in pieces. -/
inductive Reflowed : Text → Text → Prop where
  | nil : Reflowed [] []
  | visible {character : Char} {left right : Text} :
      isBlank character = false → Reflowed left right →
      Reflowed (character :: left) (character :: right)
  | gap {gap other left right : Text} :
      IsGap gap → IsGap other → Reflowed left right → Reflowed (gap ++ left) (other ++ right)

namespace Reflowed

variable {left right : Text}

theorem append {left' right' : Text} (front : Reflowed left right) (back : Reflowed left' right') :
    Reflowed (left ++ left') (right ++ right') := by
  induction front with
  | nil => exact back
  | visible seen _ ih => exact .visible seen ih
  | gap wide wideOther _ ih =>
      rw [List.append_assoc, List.append_assoc]
      exact .gap wide wideOther ih

theorem of_isGap {gap other : Text} (wide : IsGap gap) (wideOther : IsGap other) :
    Reflowed gap other := by
  have alone := Reflowed.gap wide wideOther .nil
  rwa [List.append_nil, List.append_nil] at alone

theorem refl (text : Text) : Reflowed text text := by
  induction text with
  | nil => exact .nil
  | cons character rest ih =>
      cases blank : isBlank character with
      | false => exact .visible blank ih
      | true =>
          have wide : IsGap [character] := ⟨by simp, List.forall_mem_singleton.2 blank⟩
          exact .gap wide wide ih

theorem reverse (reflowed : Reflowed left right) : Reflowed left.reverse right.reverse := by
  induction reflowed with
  | nil => exact .nil
  | visible seen _ ih =>
      rw [List.reverse_cons, List.reverse_cons]
      exact ih.append (.visible seen .nil)
  | gap wide wideOther _ ih =>
      rw [List.reverse_append, List.reverse_append]
      refine ih.append (of_isGap ⟨?_, ?_⟩ ⟨?_, ?_⟩)
      · exact List.reverse_ne_nil_iff.2 wide.some
      · simpa using wide.blank
      · exact List.reverse_ne_nil_iff.2 wideOther.some
      · simpa using wideOther.blank

/-! ## What can be told from a text -/

theorem eq_nil_iff (reflowed : Reflowed left right) : left = [] ↔ right = [] := by
  cases reflowed with
  | nil => exact Iff.rfl
  | visible _ _ => simp
  | gap wide wideOther _ => simp [wide.some, wideOther.some]

theorem isEmpty_eq (reflowed : Reflowed left right) : left.isEmpty = right.isEmpty := by
  rw [Bool.eq_iff_iff, List.isEmpty_iff, List.isEmpty_iff]
  exact reflowed.eq_nil_iff

/-- A character that is no blank stays at the start. -/
theorem exists_of_cons {character : Char} (seen : isBlank character = false)
    (reflowed : Reflowed (character :: left) right) :
    ∃ rest, right = character :: rest ∧ Reflowed left rest := by
  generalize start : character :: left = text at reflowed
  cases reflowed with
  | nil => cases start
  | visible _ later =>
      obtain ⟨rfl, rfl⟩ := List.cons.inj start
      exact ⟨_, rfl, later⟩
  | @gap gap _ _ _ wide _ _ =>
      obtain ⟨first, others, rfl⟩ := List.exists_cons_of_ne_nil wide.some
      have blank := wide.blank first (List.mem_cons_self ..)
      rw [← (List.cons.inj start).1, seen] at blank
      cases blank

theorem dropBlanks_eq (reflowed : Reflowed left right) : dropBlanks left = dropBlanks right := by
  induction reflowed with
  | nil => rfl
  | visible seen _ ih =>
      rw [dropBlanks, dropBlanks, List.filter_cons, List.filter_cons, ← dropBlanks,
        ← dropBlanks, ih]
  | gap wide wideOther _ ih =>
      rw [dropBlanks_append, dropBlanks_append, dropBlanks_of_blank wide.blank,
        dropBlanks_of_blank wideOther.blank, ih]

/-! ## Tests that take all blanks alike -/

section Tests

variable {accepts : Char → Bool} {onBlanks : Bool}

theorem takeWhile_dropWhile
    (alike : ∀ character, isBlank character = true → accepts character = onBlanks)
    (reflowed : Reflowed left right) :
    Reflowed (left.takeWhile accepts) (right.takeWhile accepts) ∧
      Reflowed (left.dropWhile accepts) (right.dropWhile accepts) := by
  induction reflowed with
  | nil => exact ⟨.nil, .nil⟩
  | @visible character left right seen rest ih =>
      cases taken : accepts character with
      | true =>
          rw [List.takeWhile_cons_of_pos taken, List.takeWhile_cons_of_pos taken,
            List.dropWhile_cons_of_pos taken, List.dropWhile_cons_of_pos taken]
          exact ⟨.visible seen ih.1, ih.2⟩
      | false =>
          have refused : ¬ accepts character = true := by simp [taken]
          rw [List.takeWhile_cons_of_neg refused, List.takeWhile_cons_of_neg refused,
            List.dropWhile_cons_of_neg refused, List.dropWhile_cons_of_neg refused]
          exact ⟨.nil, .visible seen rest⟩
  | @gap gap other left right wide wideOther rest ih =>
      cases onBlanks with
      | true =>
          have all : ∀ {text : Text}, IsGap text → ∀ character ∈ text, accepts character = true :=
            fun blanks character member => alike character (blanks.blank character member)
          rw [List.takeWhile_append_of_pos (all wide), List.takeWhile_append_of_pos (all wideOther),
            List.dropWhile_append_of_pos (all wide), List.dropWhile_append_of_pos (all wideOther)]
          exact ⟨.gap wide wideOther ih.1, ih.2⟩
      | false =>
          -- Neither text is read beyond the start of the gap.
          have stops : ∀ {text more : Text}, IsGap text →
              (text ++ more).takeWhile accepts = [] ∧
                (text ++ more).dropWhile accepts = text ++ more := by
            intro text more blanks
            obtain ⟨first, others, rfl⟩ := List.exists_cons_of_ne_nil blanks.some
            have refused := alike first (blanks.blank first (List.mem_cons_self ..))
            simp [refused]
          rw [(stops wide).1, (stops wide).2, (stops wideOther).1, (stops wideOther).2]
          exact ⟨.nil, .gap wide wideOther rest⟩

theorem any_head?_eq (refused : ∀ character, isBlank character = true → accepts character = false)
    (reflowed : Reflowed left right) : left.head?.any accepts = right.head?.any accepts := by
  cases reflowed with
  | nil => rfl
  | visible _ _ => rfl
  | gap wide wideOther _ =>
      have none : ∀ {text more : Text}, IsGap text → (text ++ more).head?.any accepts = false := by
        intro text more blanks
        obtain ⟨first, others, rfl⟩ := List.exists_cons_of_ne_nil blanks.some
        exact refused first (blanks.blank first (List.mem_cons_self ..))
      rw [none wide, none wideOther]

end Tests

/-! ## The steps of the normal form -/

theorem trimEnd (reflowed : Reflowed left right) : Reflowed (trimEnd left) (trimEnd right) :=
  (takeWhile_dropWhile (fun _ blank => blank) reflowed.reverse).2.reverse

/-- Whether a mark of equality has a value does not depend on the blanks around it, since a blank
after it is as much of a value as a word. -/
theorem dropDefault (reflowed : Reflowed left right) :
    Reflowed (dropDefault left) (dropDefault right) := by
  have noMark : ∀ character, isBlank character = true → (character != '=') = true := by
    intro character blank
    refine bne_iff_ne.2 ?_
    rintro rfl
    revert blank
    decide
  obtain ⟨before, fromMark⟩ := takeWhile_dropWhile noMark reflowed
  have mark := List.head?_dropWhile_not (· != '=') left
  rw [Params.dropDefault, Params.dropDefault]
  rcases cut : left.dropWhile (· != '=') with _ | ⟨first, value⟩
  · rw [cut] at fromMark
    rw [fromMark.eq_nil_iff.1 rfl]
    exact reflowed
  · rw [cut] at fromMark mark
    obtain rfl : first = '=' := by simpa using mark
    obtain ⟨value', same, values⟩ := fromMark.exists_of_cons (by decide)
    rw [same]
    cases value with
    | nil =>
        rw [values.eq_nil_iff.1 rfl]
        exact reflowed
    | cons next more =>
        obtain ⟨next', more', rfl⟩ :=
          List.exists_cons_of_ne_nil (mt values.eq_nil_iff.2 (List.cons_ne_nil next more))
        exact before.trimEnd

theorem dropName (reflowed : Reflowed left right) : Reflowed (dropName left) (dropName right) := by
  obtain ⟨name, beforeName⟩ :=
    takeWhile_dropWhile (fun _ blank => isWord_of_isBlank blank) reflowed.reverse
  obtain ⟨gap, type⟩ := takeWhile_dropWhile (fun _ blank => blank) beforeName
  simp only [Params.dropName, name.isEmpty_eq, gap.isEmpty_eq,
    type.any_head?_eq fun _ blank => isWord_of_isBlank blank]
  split
  · exact type.reverse
  · exact reflowed

theorem normalizeLast_eq (reflowed : Reflowed left right) :
    normalizeLast left = normalizeLast right :=
  reflowed.dropDefault.dropBlanks_eq

theorem normalizeClosed_eq (reflowed : Reflowed left right) :
    normalizeClosed left = normalizeClosed right :=
  reflowed.dropDefault.dropName.dropBlanks_eq

/-- Both texts are cut at the same delimiters into clauses that differ in blanks only. -/
theorem normalize_eq (reflowed : Reflowed left right) : normalize left = normalize right := by
  have undelimited : ∀ character, isBlank character = true → (!isDelimiter character) = true :=
    fun _ blank => by simp [isDelimiter_of_isBlank blank]
  have free : ∀ text : Text, ∀ character ∈ text.takeWhile (!isDelimiter ·),
      isDelimiter character = false := fun text character member => by
    simpa using List.mem_takeWhile_imp member
  induction left using clause_induction generalizing right with
  | last clause freeLeft =>
      have whole : clause.dropWhile (!isDelimiter ·) = [] :=
        List.dropWhile_eq_nil_iff.2 fun character member => by simp [freeLeft character member]
      have none := (takeWhile_dropWhile undelimited reflowed).2
      rw [whole] at none
      have freeRight : ∀ character ∈ right, isDelimiter character = false := by
        simpa using List.dropWhile_eq_nil_iff.1 (none.eq_nil_iff.1 rfl)
      rw [normalize_eq_last freeLeft, normalize_eq_last freeRight, reflowed.normalizeLast_eq]
  | closed clause delimiter rest freeLeft closes ih =>
      have all : ∀ character ∈ clause, (!isDelimiter character) = true := fun character member => by
        simp [freeLeft character member]
      have stop : ∀ character ∈ (delimiter :: rest).head?, (!isDelimiter character) = false := by
        rintro _ ⟨⟩
        simp [closes]
      obtain ⟨first, later⟩ := takeWhile_dropWhile undelimited reflowed
      rw [takeWhile_append_of_head _ all stop] at first
      rw [dropWhile_append_of_head _ all stop] at later
      obtain ⟨rest', cut, others⟩ := later.exists_of_cons (isBlank_of_isDelimiter closes)
      rw [← List.takeWhile_append_dropWhile (p := (!isDelimiter ·)) (l := right), cut,
        normalize_append freeLeft closes, normalize_append (free right) closes,
        first.normalizeClosed_eq, ih others]

end Reflowed

end Params

open Params in
/-- Blanks have no part in matching, as long as there are blanks where there were blanks.  Two
parameter lists that differ in the blanks of their gaps have the same normal form and the same
signature, and the same declaration is found for them. -/
theorem matching_ignores_reflowing {left right : Text} (reflowed : Reflowed left right) :
    normalize left = normalize right ∧
      same left right = true ∧
      ∀ name, Signature.of name left = Signature.of name right ∧
        ∀ declarations : Declarations,
          declarations.signatureFor name left = declarations.signatureFor name right := by
  have equal := reflowed.normalize_eq
  exact ⟨equal, (same_eq_true _ _).2 equal, fun name =>
    ⟨Signature.of_congr equal name, fun declarations => declarations.signatureFor_congr equal name⟩⟩

theorem matching_ignores_reflowing_line_breaks :
    Params.same "int x = ,T\ty".toList "int\n\tx =\u3000\u3000,T  y".toList = true ∧
      Signature.of "f".toList "int\n\tx =\u3000\u3000,T  y".toList = "f(int,Ty)".toList := by
  have narrow : "int x = ,T\ty".toList =
      "int".toList ++ ([' '] ++ ("x =".toList ++ ([' '] ++
        (",T".toList ++ (['\t'] ++ ['y']))))) := by
    decide +kernel
  have broad : "int\n\tx =\u3000\u3000,T  y".toList =
      "int".toList ++ (['\n', '\t'] ++ ("x =".toList ++ (['\u3000', '\u3000'] ++
        (",T".toList ++ ([' ', ' '] ++ ['y']))))) := by
    decide +kernel
  have space : Params.IsGap [' '] := ⟨by simp, by simp; decide⟩
  have spaces : Params.IsGap [' ', ' '] := ⟨by simp, by simp; decide⟩
  have tab : Params.IsGap ['\t'] := ⟨by simp, by simp; decide⟩
  have lineBreak : Params.IsGap ['\n', '\t'] := ⟨by simp, by simp; decide⟩
  have wideSpaces : Params.IsGap ['\u3000', '\u3000'] := ⟨by simp, by simp; decide⟩
  have reflowed : Params.Reflowed "int x = ,T\ty".toList "int\n\tx =\u3000\u3000,T  y".toList := by
    rw [narrow, broad]
    refine (Params.Reflowed.refl _).append (.gap space lineBreak ?_)
    refine (Params.Reflowed.refl _).append (.gap space wideSpaces ?_)
    exact (Params.Reflowed.refl _).append (.gap tab spaces (Params.Reflowed.refl _))
  have signature : Signature.of "f".toList "int x = ,T\ty".toList = "f(int,Ty)".toList := by
    decide +kernel
  obtain ⟨-, compared, signatures⟩ := matching_ignores_reflowing reflowed
  exact ⟨compared, (signatures "f".toList).1.symm.trans signature⟩

end HeaderOrder
