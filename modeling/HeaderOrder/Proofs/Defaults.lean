import HeaderOrder.Proofs.Lines
import HeaderOrder.Proofs.Shapes
import HeaderOrder.Signature
import Mathlib.Data.List.TakeWhile

/-!
# Default values and the normal form of parameters

A parameter text is normalized clause by clause: `normalize_append` takes the first clause off,
and everything about a list of parameters follows from it by induction over the list.  Default
values are the first thing that a clause loses, so a list of parameters has the same normal form
with and without them, and a declaration and a definition that differ in default values only have
the same signature.
-/

namespace HeaderOrder.Params

open Text

namespace Clauses

/-- A text without delimiters is one open clause. -/
theorem ofText_eq_last {clause : Text}
    (free : ∀ character ∈ clause, isDelimiter character = false) :
    ofText clause = ⟨[], clause⟩ := by
  induction clause with
  | nil => rfl
  | cons character rest ih =>
      have here := free character (List.mem_cons_self ..)
      have later : rest.foldr push ⟨[], []⟩ = ⟨[], rest⟩ :=
        ih fun other member => free other (List.mem_cons_of_mem _ member)
      rw [ofText, List.foldr_cons, later, push, here]
      rfl

/-- The first delimiter closes the first clause. -/
theorem ofText_append {clause : Text} (free : ∀ character ∈ clause, isDelimiter character = false)
    {delimiter : Char} (closes : isDelimiter delimiter = true) (rest : Text) :
    ofText (clause ++ delimiter :: rest) =
      ⟨(clause, delimiter) :: (ofText rest).closed, (ofText rest).last⟩ := by
  induction clause with
  | nil =>
      rw [List.nil_append, ofText, List.foldr_cons, push, if_pos closes]
      rfl
  | cons character others ih =>
      have here := free character (List.mem_cons_self ..)
      have later := ih fun other member => free other (List.mem_cons_of_mem _ member)
      rw [ofText] at later
      rw [List.cons_append, ofText, List.foldr_cons, later, push, here]
      rfl

end Clauses

theorem normalize_eq_last {clause : Text}
    (free : ∀ character ∈ clause, isDelimiter character = false) :
    normalize clause = normalizeLast clause := by
  rw [normalize, Clauses.ofText_eq_last free]
  rfl

/-- A parameter text is normalized clause by clause. -/
theorem normalize_append {clause : Text}
    (free : ∀ character ∈ clause, isDelimiter character = false) {delimiter : Char}
    (closes : isDelimiter delimiter = true) (rest : Text) :
    normalize (clause ++ delimiter :: rest) =
      normalizeClosed clause ++ delimiter :: normalize rest := by
  rw [normalize, Clauses.ofText_append free closes]
  simp [Clauses.normalize, Clauses.toText, normalize]

/-! ## Dropping a default value -/

theorem trimEnd_append_blank {text : Text} {gap : Text}
    (ends : ∀ character ∈ text.getLast?, isBlank character = false)
    (blank : ∀ character ∈ gap, isBlank character = true) : trimEnd (text ++ gap) = text := by
  have blanks : ∀ character ∈ gap.reverse, isBlank character = true := by simpa using blank
  rw [trimEnd, List.reverse_append, List.dropWhile_append_of_pos blanks]
  rcases List.eq_nil_or_concat text with rfl | ⟨others, last, rfl⟩
  · rfl
  · have visible : isBlank last = false := ends last (by simp)
    simp [visible]

theorem dropDefault_eq_self {clause : Text} (plain : '=' ∉ clause) :
    dropDefault clause = clause := by
  have nothing : clause.dropWhile (· != '=') = [] := by
    refine List.dropWhile_eq_nil_iff.2 fun character member => ?_
    exact bne_iff_ne.2 fun equal => plain (equal ▸ member)
  rw [dropDefault, nothing]

/-- A default value goes, and with it the blanks in front of its mark. -/
theorem dropDefault_append {clause gap value : Text} (plain : '=' ∉ clause)
    (ends : ∀ character ∈ clause.getLast?, isBlank character = false)
    (blank : ∀ character ∈ gap, isBlank character = true) (given : value ≠ []) :
    dropDefault (clause ++ gap ++ '=' :: value) = clause := by
  have front : ∀ character ∈ clause ++ gap, (character != '=') = true := by
    intro character member
    refine bne_iff_ne.2 fun equal => ?_
    subst equal
    rcases List.mem_append.1 member with inClause | inGap
    · exact plain inClause
    · exact notMem_of_blank blank '=' (by decide) inGap
  obtain ⟨first, rest, rfl⟩ := List.exists_cons_of_ne_nil given
  have before : (clause ++ gap ++ '=' :: first :: rest).takeWhile (· != '=') = clause ++ gap :=
    takeWhile_append_of_head _ front (by simp)
  have after : (clause ++ gap ++ '=' :: first :: rest).dropWhile (· != '=') =
      '=' :: first :: rest := by
    rw [List.dropWhile_append_of_pos front]
    rfl
  rw [dropDefault, after, before]
  exact trimEnd_append_blank ends blank

theorem noMark_append {lead clause : Text} (blank : ∀ character ∈ lead, isBlank character = true)
    (noMark : '=' ∉ clause) : '=' ∉ lead ++ clause := by
  rw [List.mem_append]
  exact not_or.2 ⟨notMem_of_blank blank '=' (by decide), noMark⟩

/-! ## Lists of parameters -/

/-- One parameter of a list, and its default value if it has one. -/
structure Piece where
  text : Text
  value : Option Text
  nonempty : text ≠ []
  ends : ∀ character ∈ text.getLast?, isBlank character = false
  noDefault : '=' ∉ text
  undelimited : ∀ character ∈ text, isDelimiter character = false
  valueUndelimited : ∀ text ∈ value, ∀ character ∈ text, isDelimiter character = false

def Piece.written (piece : Piece) : Text :=
  match piece.value with
  | some value => piece.text ++ [' '] ++ '=' :: ' ' :: value
  | none => piece.text

def listed (params : List Text) : Text :=
  List.intercalate [',', ' '] params

theorem Piece.noMark_append (piece : Piece) {lead : Text}
    (blank : ∀ character ∈ lead, isBlank character = true) : '=' ∉ lead ++ piece.text :=
  Params.noMark_append blank piece.noDefault

/-- Whatever blanks stand in front, a parameter with its default is its text as far as the normal
form goes. -/
theorem Piece.dropDefault_written (piece : Piece) {lead : Text}
    (blank : ∀ character ∈ lead, isBlank character = true) :
    dropDefault (lead ++ piece.written) = dropDefault (lead ++ piece.text) := by
  have plain := piece.noMark_append blank
  have ends : ∀ character ∈ (lead ++ piece.text).getLast?, isBlank character = false := by
    intro character member
    rw [List.getLast?_append, List.getLast?_eq_some_getLast piece.nonempty] at member
    apply piece.ends
    rw [List.getLast?_eq_some_getLast piece.nonempty]
    exact member
  rw [dropDefault_eq_self plain, written]
  split
  · next value _ =>
      rw [← List.append_assoc, ← List.append_assoc]
      exact dropDefault_append plain ends isBlank_of_mem_space (List.cons_ne_nil _ _)
  · exact dropDefault_eq_self plain

theorem Piece.written_undelimited (piece : Piece) :
    ∀ character ∈ piece.written, isDelimiter character = false := by
  intro character member
  rw [written] at member
  split at member
  · next value given =>
      simp only [List.append_assoc, List.mem_append, List.mem_cons, List.not_mem_nil, or_false]
        at member
      rcases member with inText | rfl | rfl | rfl | inValue
      · exact piece.undelimited character inText
      · decide
      · decide
      · decide
      · exact piece.valueUndelimited value given character inValue
  · exact piece.undelimited character member

theorem isBlank_of_isDelimiter {character : Char} (delimiter : isDelimiter character = true) :
    isBlank character = false := by
  rw [isDelimiter, Bool.or_eq_true, beq_iff_eq, beq_iff_eq] at delimiter
  rcases delimiter with rfl | rfl <;> decide

theorem isDelimiter_of_isBlank {character : Char} (blank : isBlank character = true) :
    isDelimiter character = false := by
  cases delimiter : isDelimiter character with
  | false => rfl
  | true =>
      rw [isBlank_of_isDelimiter delimiter] at blank
      cases blank

theorem free_append {lead text : Text} (blank : ∀ character ∈ lead, isBlank character = true)
    (free : ∀ character ∈ text, isDelimiter character = false) :
    ∀ character ∈ lead ++ text, isDelimiter character = false :=
  List.forall_mem_append.2
    ⟨fun character member => isDelimiter_of_isBlank (blank character member), free⟩

theorem listed_cons_cons (param next : Text) (others : List Text) :
    listed (param :: next :: others) = param ++ ',' :: ' ' :: listed (next :: others) := by
  simp [listed, List.intercalate]

/-- The clauses of a list are its parameters, each with the blank in front of it: `lead` is the
one of the first. -/
theorem normalize_append_listed (lead : Text) (pieces : List Piece)
    (blank : ∀ character ∈ lead, isBlank character = true) :
    normalize (lead ++ listed (pieces.map Piece.written)) =
      normalize (lead ++ listed (pieces.map Piece.text)) := by
  induction pieces generalizing lead with
  | nil => rfl
  | cons piece others ih =>
      have written := free_append blank piece.written_undelimited
      have bare := free_append blank piece.undelimited
      have same := piece.dropDefault_written blank
      cases others with
      | nil =>
          have alone : normalize (lead ++ piece.written) = normalize (lead ++ piece.text) := by
            rw [normalize_eq_last written, normalize_eq_last bare, normalizeLast, same,
              normalizeLast]
          simpa [listed] using alone
      | cons next rest =>
          have later : normalize (' ' :: listed ((next :: rest).map Piece.written)) =
              normalize (' ' :: listed ((next :: rest).map Piece.text)) :=
            ih [' '] isBlank_of_mem_space
          simp only [List.map_cons, listed_cons_cons, ← List.append_assoc] at later ⊢
          rw [normalize_append written (by decide), normalize_append bare (by decide), later,
            normalizeClosed, same, normalizeClosed]

/-- Default values are no part of the normal form. -/
theorem normalize_listed_written (pieces : List Piece) :
    normalize (listed (pieces.map Piece.written)) = normalize (listed (pieces.map Piece.text)) :=
  normalize_append_listed [] pieces nofun

end HeaderOrder.Params
