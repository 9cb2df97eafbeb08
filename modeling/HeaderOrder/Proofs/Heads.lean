import HeaderOrder.Block
import Mathlib.Data.List.Basic

/-!
# Which lines hold the head of a definition

A head is read off a line as soon as one of the two head patterns occurs in it.  This needs that an
occurrence always reports all groups of its pattern: none of them stands in an optional part.
`Pattern.groupCount?` computes the number of groups for the patterns of which this is true.
-/

namespace HeaderOrder

namespace Pattern

/-- How many groups a pattern reports, if that does not depend on the way it is read. -/
def groupCount? : Pattern → Option Nat
  | .exactly _ => some 0
  | .one _ => some 0
  | .run _ => some 0
  | .seq first second =>
      match first.groupCount?, second.groupCount? with
      | some before, some after => some (before + after)
      | _, _ => none
  | .either first second =>
      if first.groupCount? = second.groupCount? then first.groupCount? else none
  | .optional body => if body.groupCount? = some 0 then some 0 else none
  | .group body => body.groupCount?.map (· + 1)

/-- Every reading reports as many groups as the pattern has. -/
theorem length_groups_of_mem_readings {pattern : Pattern} {count : Nat} {place : Place}
    {reading : Reading} (counted : pattern.groupCount? = some count)
    (member : reading ∈ pattern.readings place) : reading.groups.length = count := by
  induction pattern generalizing count place reading with
  | exactly text =>
      simp only [readings] at member
      split at member
      · rw [List.mem_singleton] at member
        subst member
        exact Option.some.inj counted
      · exact absurd member List.not_mem_nil
  | one accepts =>
      simp only [readings] at member
      split at member
      · exact absurd member List.not_mem_nil
      · split at member
        · rw [List.mem_singleton] at member
          subst member
          exact Option.some.inj counted
        · exact absurd member List.not_mem_nil
  | run accepts =>
      obtain ⟨stop, _, rfl⟩ := List.mem_map.1 member
      exact Option.some.inj counted
  | seq first second firstIH secondIH =>
      obtain ⟨before, found, after, follows, rfl⟩ := mem_readings_append.1 member
      simp only [groupCount?] at counted
      split at counted
      · next left right leftCount rightCount =>
          rw [← Option.some.inj counted, List.length_append, firstIH leftCount found,
            secondIH rightCount follows]
      · exact absurd counted (by simp)
  | either first second firstIH secondIH =>
      simp only [groupCount?] at counted
      split at counted
      · next same =>
          rcases List.mem_append.1 member with left | right
          · exact firstIH counted left
          · exact secondIH (same ▸ counted) right
      · exact absurd counted (by simp)
  | optional body ih =>
      simp only [groupCount?] at counted
      split at counted
      · next groupless =>
          rw [← Option.some.inj counted]
          rcases mem_readings_optional.1 member with present | rfl
          · exact ih groupless present
          · rfl
      · exact absurd counted (by simp)
  | group body ih =>
      obtain ⟨inner, innerCount, rfl⟩ := Option.map_eq_some_iff.1 counted
      obtain ⟨before, found, rfl⟩ := List.mem_map.1 member
      rw [List.length_cons, ih innerCount found]

theorem exists_mem_readings_of_searchFrom {pattern : Pattern} {offset : Nat} {text : Text}
    {occurrence : Occurrence} (found : pattern.searchFrom offset text = some occurrence) :
    ∃ place, ∃ reading ∈ pattern.readings place, occurrence.groups = reading.groups := by
  induction text generalizing offset with
  | nil =>
      obtain ⟨reading, first, rfl⟩ := Option.map_eq_some_iff.1 found
      exact ⟨_, reading, List.mem_of_head? first, rfl⟩
  | cons character rest ih =>
      simp only [searchFrom] at found
      split at found
      · next here atPlace =>
          rw [← Option.some.inj found]
          obtain ⟨reading, first, rfl⟩ := Option.map_eq_some_iff.1 atPlace
          exact ⟨_, reading, List.mem_of_head? first, rfl⟩
      · exact ih found

/-- A search captures one text for each group of the pattern. -/
theorem length_of_captures? {pattern : Pattern} {count : Nat} {text : Text} {captured : List Text}
    (counted : pattern.groupCount? = some count) (found : pattern.captures? text = some captured) :
    captured.length = count := by
  obtain ⟨occurrence, searched, rfl⟩ := Option.map_eq_some_iff.1 found
  obtain ⟨place, reading, member, groups⟩ := exists_mem_readings_of_searchFrom searched
  rw [Occurrence.captures, List.length_map, groups, length_groups_of_mem_readings counted member]

end Pattern

/-- Whether a line can begin a definition: one of the two head patterns occurs in it. -/
def beginsDefinition (line : Text) : Bool :=
  Grammar.memberHead.occursIn line || Grammar.freeHead.occursIn line

namespace Head

theorem isSome_member? (line : Text) :
    (member? line).isSome = Grammar.memberHead.occursIn line := by
  rw [← Pattern.isSome_captures?, member?]
  cases captured : Grammar.memberHead.captures? line with
  | none => rfl
  | some captures =>
      have three : captures.length = 3 := Pattern.length_of_captures? rfl captured
      obtain ⟨qualifier, name, params, rfl⟩ := List.length_eq_three.1 three
      rfl

theorem isSome_free? (line : Text) : (free? line).isSome = Grammar.freeHead.occursIn line := by
  rw [← Pattern.isSome_captures?, free?]
  cases captured : Grammar.freeHead.captures? line with
  | none => rfl
  | some captures =>
      have two : captures.length = 2 := Pattern.length_of_captures? rfl captured
      obtain ⟨name, params, rfl⟩ := List.length_eq_two.1 two
      rfl

/-- A line holds a head exactly if it can begin a definition. -/
@[simp] theorem isSome_ofLine? (line : Text) : (ofLine? line).isSome = beginsDefinition line := by
  rw [ofLine?, Option.isSome_or, isSome_member?, isSome_free?, beginsDefinition]

/-- The empty line holds no head. -/
@[simp] theorem ofLine?_nil : ofLine? [] = none := rfl

end Head

@[simp] theorem beginsDefinition_nil : beginsDefinition [] = false := rfl

end HeaderOrder
