import HeaderOrder.Text.Basic
import Mathlib.Data.List.TakeWhile

/-!
# Lines and the texts made of them

Cutting a text into lines and joining lines into a text undo each other, as long as no line holds a
line break and there is at least one line.  Texts set apart by an empty line have the lines of these
texts, with an empty line between them.

A line is blank if nothing is left of it after trimming.  The nonblank lines of a text are what an
arrangement may move but must not lose, so the last part of this module says how they are gathered
from the parts of a text.
-/

namespace HeaderOrder

theorem intercalate_cons {α : Type} (separator first : List α) (rest : List (List α)) :
    separator.intercalate (first :: rest) = first ++ rest.flatMap (separator ++ ·) := by
  induction rest generalizing first with
  | nil => simp
  | cons second others ih =>
      rw [List.intercalate_cons_cons, ih, List.flatMap_cons, List.append_assoc, List.append_assoc]

theorem mem_intercalate_iff {α : Type} {separator : List α} {parts : List (List α)} {item : α}
    (other : item ∉ separator) :
    item ∈ separator.intercalate parts ↔ ∃ part ∈ parts, item ∈ part := by
  cases parts with
  | nil => simp
  | cons first rest => simp [intercalate_cons, other]

/-- No part of a text between separators holds a separator. -/
theorem notMem_of_mem_splitOn {separator : Char} {text part : List Char}
    (member : part ∈ text.splitOn separator) : separator ∉ part := by
  induction text generalizing part with
  | nil =>
      rw [List.splitOn_nil, List.mem_singleton] at member
      subst member
      exact List.not_mem_nil
  | cons character rest ih =>
      rw [List.splitOn_cons_eq_if_modifyHead] at member
      by_cases atCut : character = separator
      · rw [if_pos (beq_iff_eq.2 atCut), List.mem_cons] at member
        rcases member with empty | later
        · subst empty
          exact List.not_mem_nil
        · exact ih later
      · rw [if_neg (fun equal => atCut (beq_iff_eq.1 equal))] at member
        obtain ⟨first, others, cut⟩ := List.exists_cons_of_ne_nil
          (List.splitOn_ne_nil separator rest)
        rw [cut, List.modifyHead_cons, List.mem_cons] at member
        rcases member with extended | later
        · subst extended
          intro found
          rcases List.mem_cons.1 found with equal | inside
          · exact atCut equal.symm
          · exact ih (by rw [cut]; exact List.mem_cons_self ..) inside
        · exact ih (by rw [cut]; exact List.mem_cons_of_mem _ later)

namespace Text

/-! ## Cutting and joining -/

@[simp] theorem unlines_lines (text : Text) : unlines (lines text) = text :=
  List.intercalate_splitOn '\n'

theorem lines_ne_nil (text : Text) : lines text ≠ [] :=
  List.splitOn_ne_nil '\n' text

theorem lines_unlines {cut : List Text} (plain : ∀ line ∈ cut, '\n' ∉ line) (nonempty : cut ≠ []) :
    lines (unlines cut) = cut :=
  List.splitOn_intercalate '\n' plain nonempty

/-- A line break separates the lines before it from the lines after it. -/
theorem lines_append_newline (left right : Text) :
    lines (left ++ '\n' :: right) = lines left ++ lines right :=
  List.splitOn_append_cons_self left right

/-- No line of a text holds a line break. -/
theorem newline_notMem_of_mem_lines {text line : Text} (member : line ∈ lines text) :
    '\n' ∉ line :=
  notMem_of_mem_splitOn member

/-- A line begins a text of several lines exactly if it begins the first of them. -/
theorem isPrefix_unlines_cons {line : Text} (first : Text) (rest : List Text)
    (plain : '\n' ∉ line) : line <+: unlines (first :: rest) ↔ line <+: first := by
  cases rest with
  | nil => rw [unlines_singleton]
  | cons second others =>
      have joined : unlines (first :: second :: others) =
          first ++ '\n' :: unlines (second :: others) := by
        simp [unlines, List.intercalate_cons_cons]
      rw [joined]
      constructor
      · intro begins
        rcases List.prefix_or_prefix_of_prefix begins (List.prefix_append first _) with
          short | long
        · exact short
        · -- A line longer than the first one would have to hold the break after it.
          obtain ⟨beyond, rfl⟩ := long
          rw [List.prefix_append_right_inj] at begins
          cases beyond with
          | nil => simp
          | cons next further =>
              have equal : next = '\n' := (List.cons_prefix_cons.1 begins).1
              subst equal
              exact absurd (List.mem_append_right first (List.mem_cons_self ..)) plain
      · intro begins
        exact begins.trans (List.prefix_append first _)

/-- Texts set apart by an empty line. -/
theorem lines_intercalate_blank {parts : List Text} (nonempty : parts ≠ []) :
    lines (List.intercalate ['\n', '\n'] parts) = List.intercalate [[]] (parts.map lines) := by
  induction parts with
  | nil => exact absurd rfl nonempty
  | cons first rest ih =>
      cases rest with
      | nil => simp
      | cons second others =>
          rw [List.intercalate_cons_cons, List.map_cons, List.map_cons,
            List.intercalate_cons_cons, ← List.map_cons, ← ih (List.cons_ne_nil _ _)]
          simp only [List.append_assoc, List.cons_append, List.nil_append]
          rw [lines_append_newline, ← List.nil_append ('\n' :: _), lines_append_newline, lines_nil]
          rfl

/-! ## Blank lines -/

/-- Nothing is left of a text after trimming exactly if it holds nothing but blanks. -/
theorem trim_eq_nil_iff (text : Text) : trim text = [] ↔ isBlankText text = true := by
  simp only [trim, trimEnd, trimStart, isBlankText, List.reverse_eq_nil_iff,
    List.dropWhile_eq_nil_iff, List.mem_reverse, List.all_eq_true]
  constructor
  · intro blank
    have none : text.dropWhile isBlank = [] := by
      by_contra some
      have first := List.head_dropWhile_not isBlank some
      rw [blank _ (List.head_mem some)] at first
      exact Bool.noConfusion first
    exact List.dropWhile_eq_nil_iff.1 none
  · intro blank character member
    exact blank character ((List.dropWhile_suffix isBlank).subset member)

def nonblank (cut : List Text) : List Text :=
  cut.filter (!isBlankText ·)

def nonblankLines (text : Text) : List Text :=
  nonblank (lines text)

@[simp] theorem nonblank_singleton_nil : nonblank [[]] = [] := rfl

@[simp] theorem nonblank_append (left right : List Text) :
    nonblank (left ++ right) = nonblank left ++ nonblank right :=
  List.filter_append left right

theorem nonblank_flatMap {α : Type} (items : List α) (cutOf : α → List Text) :
    nonblank (items.flatMap cutOf) = items.flatMap fun item => nonblank (cutOf item) := by
  simp only [nonblank, List.filter_flatMap]

/-- Empty lines between stretches of lines add nothing nonblank. -/
theorem nonblank_intercalate (stretches : List (List Text)) :
    nonblank (List.intercalate [[]] stretches) = stretches.flatMap nonblank := by
  induction stretches with
  | nil => rfl
  | cons first rest ih =>
      cases rest with
      | nil => simp
      | cons second others =>
          rw [List.intercalate_cons_cons, nonblank_append, nonblank_append, ih,
            nonblank_singleton_nil, List.append_nil, ← List.flatMap_cons]

/-- Joining lines into a text keeps the nonblank ones, also if there are no lines at all. -/
theorem nonblankLines_unlines {cut : List Text} (plain : ∀ line ∈ cut, '\n' ∉ line) :
    nonblankLines (unlines cut) = nonblank cut := by
  by_cases empty : cut = []
  · subst empty
    rfl
  · rw [nonblankLines, lines_unlines plain empty]

/-- Lines joined into a text are a blank text exactly if every one of them is blank. -/
theorem isBlankText_unlines (cut : List Text) :
    isBlankText (unlines cut) = true ↔ nonblank cut = [] := by
  induction cut with
  | nil => exact ⟨fun _ => rfl, fun _ => rfl⟩
  | cons first rest ih =>
      have split : nonblank (first :: rest) = nonblank [first] ++ nonblank rest :=
        nonblank_append [first] rest
      have single : nonblank [first] = [] ↔ isBlankText first = true := by
        cases blank : isBlankText first <;> simp [nonblank, blank]
      rw [split, List.append_eq_nil_iff, single, ← ih]
      cases rest with
      | nil => simp [isBlankText]
      | cons second others =>
          have broken : isBlank '\n' = true := by decide
          simp [unlines, isBlankText, List.intercalate_cons_cons, broken]

end Text

end HeaderOrder
