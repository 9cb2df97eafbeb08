import HeaderOrder.Pattern.Basic

/-!
# Searching a text for a pattern

A search takes the leftmost place of a text from which the pattern can be read at all, and there
the preferred reading.
-/

namespace HeaderOrder

/-- An occurrence of a pattern in a text: its span, and the spans of its groups. -/
structure Occurrence where
  span : Span
  groups : List Span
  deriving Repr, DecidableEq

def Occurrence.captures (occurrence : Occurrence) (text : Text) : List Text :=
  occurrence.groups.map (·.slice text)

namespace Pattern

/-- The occurrence that starts at a place, by the preferred reading from there. -/
def occurrenceAt? (pattern : Pattern) (place : Place) : Option Occurrence :=
  (pattern.readings place).head?.map fun reading =>
    ⟨⟨place.offset, reading.stop.offset⟩, reading.groups⟩

/-- The leftmost occurrence in a text whose first character stands at `offset`. -/
def searchFrom (pattern : Pattern) (offset : Nat) : Text → Option Occurrence
  | [] => pattern.occurrenceAt? ⟨offset, []⟩
  | character :: rest =>
      match pattern.occurrenceAt? ⟨offset, character :: rest⟩ with
      | some occurrence => some occurrence
      | none => pattern.searchFrom (offset + 1) rest

/-- The leftmost occurrence of a pattern in a text. -/
def search? (pattern : Pattern) (text : Text) : Option Occurrence :=
  pattern.searchFrom 0 text

def occursIn (pattern : Pattern) (text : Text) : Bool :=
  (pattern.search? text).isSome

/-- The texts of the groups of the leftmost occurrence. -/
def captures? (pattern : Pattern) (text : Text) : Option (List Text) :=
  (pattern.search? text).map (·.captures text)

/-- A pattern occurs exactly where its captures are defined. -/
theorem isSome_captures? (pattern : Pattern) (text : Text) :
    (pattern.captures? text).isSome = pattern.occursIn text := by
  simp [captures?, occursIn]

end Pattern

end HeaderOrder
