import HeaderOrder.Pattern.Search
import Mathlib.Data.List.Basic

/-!
# The language of a pattern

The readings of a pattern carry offsets and stand in order of preference.  Which stretches of text
a pattern matches, and which texts its groups then capture, depends on neither: `Pattern.Matches`
says it by recursion on the pattern alone.

Readings and matches agree in both directions.  A search therefore finds something exactly if some
stretch of the text matches, and what it captures is settled as soon as the first place is known at
which a match begins and all matches from there capture the same texts.  The order of preference is
then out of the picture.
-/

namespace HeaderOrder.Pattern

/-- Whether a pattern matches a whole text, with these texts captured by its groups. -/
def Matches : Pattern → Text → List Text → Prop
  | .exactly text, taken, groups => taken = text ∧ groups = []
  | .one accepts, taken, groups =>
      (∃ character, taken = [character] ∧ accepts character) ∧ groups = []
  | .run accepts, taken, groups => (∀ character ∈ taken, accepts character) ∧ groups = []
  | .seq first second, taken, groups =>
      ∃ left right leftGroups rightGroups, taken = left ++ right ∧
        groups = leftGroups ++ rightGroups ∧ first.Matches left leftGroups ∧
          second.Matches right rightGroups
  | .either first second, taken, groups =>
      first.Matches taken groups ∨ second.Matches taken groups
  | .optional body, taken, groups => body.Matches taken groups ∨ taken = [] ∧ groups = []
  | .group body, taken, groups => ∃ inner, groups = taken :: inner ∧ body.Matches taken inner

/-- Whether a pattern matches some first part of a text. -/
def Begins (pattern : Pattern) (text : Text) : Prop :=
  ∃ taken rest groups, text = taken ++ rest ∧ pattern.Matches taken groups

/-- One match after the other. -/
theorem Matches.append {first second : Pattern} {left right : Text}
    {leftGroups rightGroups : List Text} (here : first.Matches left leftGroups)
    (later : second.Matches right rightGroups) :
    (first ++ second).Matches (left ++ right) (leftGroups ++ rightGroups) :=
  ⟨left, right, leftGroups, rightGroups, rfl, rfl, here, later⟩

/-! ## Readings are matches -/

theorem mem_runStops {accepts : Char → Bool} {nearer : List Place} {offset : Nat} {text : Text}
    {stop : Place} :
    stop ∈ runStops accepts nearer offset text ↔
      stop ∈ nearer ∨ ∃ taken rest, text = taken ++ rest ∧
        (∀ character ∈ taken, accepts character) ∧ stop = ⟨offset + taken.length, rest⟩ := by
  induction text generalizing nearer offset with
  | nil =>
      rw [runStops, List.mem_cons, or_comm]
      apply or_congr_right
      constructor
      · intro same
        exact ⟨[], [], rfl, nofun, same⟩
      · rintro ⟨taken, rest, split, -, same⟩
        obtain ⟨rfl, rfl⟩ := List.append_eq_nil_iff.1 split.symm
        exact same
  | cons character others ih =>
      have stopHere : stop = ⟨offset, character :: others⟩ → ∃ taken rest,
          character :: others = taken ++ rest ∧ (∀ character ∈ taken, accepts character) ∧
            stop = ⟨offset + taken.length, rest⟩ :=
        fun same => ⟨[], character :: others, rfl, nofun, same⟩
      rw [runStops]
      split
      · next accepted =>
          rw [ih, List.mem_cons]
          constructor
          · rintro ((here | passed) | ⟨taken, rest, rfl, all, same⟩)
            · exact Or.inr (stopHere here)
            · exact Or.inl passed
            · refine Or.inr ⟨character :: taken, rest, rfl, ?_, ?_⟩
              · exact List.forall_mem_cons.2 ⟨accepted, all⟩
              · rw [same, List.length_cons, Nat.add_assoc, Nat.add_comm 1]
          · rintro (passed | ⟨taken, rest, split, all, same⟩)
            · exact Or.inl (Or.inr passed)
            · cases taken with
              | nil => exact Or.inl (Or.inl (by rw [same]; simp [split]))
              | cons first taken =>
                  obtain ⟨rfl, rfl⟩ := List.cons.inj split
                  refine Or.inr ⟨taken, rest, rfl, fun other member =>
                    all other (List.mem_cons_of_mem _ member), ?_⟩
                  rw [same, List.length_cons, Nat.add_assoc, Nat.add_comm 1]
      · next refused =>
          rw [List.mem_cons, or_comm]
          apply or_congr_right
          constructor
          · exact stopHere
          · rintro ⟨taken, rest, split, all, same⟩
            cases taken with
            | nil => rw [same]; simp [split]
            | cons first taken =>
                obtain ⟨rfl, -⟩ := List.cons.inj split
                exact absurd (all _ (List.mem_cons_self ..)) refused

/-- A reading stops after a stretch that the pattern matches, and its groups are the texts captured
there. -/
theorem matches_of_mem_readings {pattern : Pattern} {before text : Text} {reading : Reading}
    (member : reading ∈ pattern.readings ⟨before.length, text⟩) :
    ∃ taken rest, text = taken ++ rest ∧ reading.stop = ⟨(before ++ taken).length, rest⟩ ∧
      pattern.Matches taken (reading.groups.map (·.slice (before ++ text))) := by
  induction pattern generalizing before text reading with
  | exactly expected =>
      simp only [readings] at member
      split at member
      · next begins =>
          obtain ⟨rest, rfl⟩ := List.isPrefixOf_iff_prefix.1 begins
          rw [List.mem_singleton.1 member]
          exact ⟨expected, rest, rfl, by simp, rfl, rfl⟩
      · cases member
  | one accepts =>
      simp only [readings] at member
      split at member
      · cases member
      · next character rest =>
          split at member
          · next accepted =>
              rw [List.mem_singleton.1 member]
              exact ⟨[character], rest, rfl, by simp, ⟨character, rfl, accepted⟩, rfl⟩
          · cases member
  | run accepts =>
      obtain ⟨stop, reached, rfl⟩ := List.mem_map.1 member
      rcases mem_runStops.1 reached with passed | ⟨taken, rest, rfl, all, rfl⟩
      · cases passed
      · exact ⟨taken, rest, rfl, by simp, all, rfl⟩
  | seq first second firstIH secondIH =>
      obtain ⟨here, found, later, follows, rfl⟩ := mem_readings_append.1 member
      obtain ⟨left, middle, rfl, stop, matchesLeft⟩ := firstIH found
      rw [stop] at follows
      obtain ⟨right, rest, rfl, laterStop, matchesRight⟩ := secondIH follows
      rw [List.append_assoc] at laterStop matchesRight
      refine ⟨left ++ right, rest, (List.append_assoc ..).symm, laterStop, ?_⟩
      rw [List.map_append]
      exact matchesLeft.append matchesRight
  | either first second firstIH secondIH =>
      rcases List.mem_append.1 member with inFirst | inSecond
      · obtain ⟨taken, rest, split, stop, found⟩ := firstIH inFirst
        exact ⟨taken, rest, split, stop, Or.inl found⟩
      · obtain ⟨taken, rest, split, stop, found⟩ := secondIH inSecond
        exact ⟨taken, rest, split, stop, Or.inr found⟩
  | optional body ih =>
      rcases mem_readings_optional.1 member with present | rfl
      · obtain ⟨taken, rest, split, stop, found⟩ := ih present
        exact ⟨taken, rest, split, stop, Or.inl found⟩
      · exact ⟨[], text, rfl, by simp, Or.inr ⟨rfl, rfl⟩⟩
  | group body ih =>
      obtain ⟨inner, found, rfl⟩ := List.mem_map.1 member
      obtain ⟨taken, rest, rfl, stop, matched⟩ := ih found
      refine ⟨taken, rest, rfl, stop, _, ?_, matched⟩
      rw [stop, List.length_append, List.map_cons, slice_middle]

/-- Whatever stretch a pattern matches at a place, some reading takes it and captures the same
texts. -/
theorem exists_mem_readings {pattern : Pattern} {taken : Text} {groups : List Text}
    (found : pattern.Matches taken groups) (before rest : Text) :
    ∃ reading ∈ pattern.readings ⟨before.length, taken ++ rest⟩,
      reading.stop = ⟨(before ++ taken).length, rest⟩ ∧
        reading.groups.map (·.slice (before ++ (taken ++ rest))) = groups := by
  induction pattern generalizing taken groups before rest with
  | exactly expected =>
      obtain ⟨rfl, rfl⟩ := found
      have begins : taken.isPrefixOf (taken ++ rest) = true :=
        List.isPrefixOf_iff_prefix.2 (List.prefix_append taken rest)
      refine ⟨⟨⟨(before ++ taken).length, rest⟩, []⟩, ?_, rfl, rfl⟩
      rw [readings, if_pos begins, List.drop_left, List.length_append]
      exact List.mem_singleton_self _
  | one accepts =>
      obtain ⟨⟨character, rfl, accepted⟩, rfl⟩ := found
      refine ⟨⟨⟨(before ++ [character]).length, rest⟩, []⟩, ?_, rfl, rfl⟩
      simp [readings, accepted]
  | run accepts =>
      obtain ⟨all, rfl⟩ := found
      refine ⟨⟨⟨(before ++ taken).length, rest⟩, []⟩, List.mem_map_of_mem ?_, rfl, rfl⟩
      exact mem_runStops.2 (Or.inr ⟨taken, rest, rfl, all, by rw [List.length_append]⟩)
  | seq first second firstIH secondIH =>
      obtain ⟨left, right, _, _, rfl, rfl, matchesLeft, matchesRight⟩ := found
      obtain ⟨here, inFirst, stop, captured⟩ := firstIH matchesLeft before (right ++ rest)
      obtain ⟨later, inSecond, laterStop, laterCaptured⟩ :=
        secondIH matchesRight (before ++ left) rest
      rw [← List.append_assoc] at inFirst captured
      rw [← stop] at inSecond
      rw [List.append_assoc, ← List.append_assoc left] at laterCaptured
      refine ⟨⟨later.stop, here.groups ++ later.groups⟩,
        mem_readings_append.2 ⟨here, inFirst, later, inSecond, rfl⟩, ?_, ?_⟩
      · rw [laterStop, List.append_assoc]
      · rw [List.append_assoc] at captured
        rw [List.map_append, laterCaptured, ← captured, List.append_assoc left]
  | either first second firstIH secondIH =>
      rcases found with matchesFirst | matchesSecond
      · obtain ⟨reading, member, stop⟩ := firstIH matchesFirst before rest
        exact ⟨reading, List.mem_append_left _ member, stop⟩
      · obtain ⟨reading, member, stop⟩ := secondIH matchesSecond before rest
        exact ⟨reading, List.mem_append_right _ member, stop⟩
  | optional body ih =>
      rcases found with present | ⟨rfl, rfl⟩
      · obtain ⟨reading, member, stop⟩ := ih present before rest
        exact ⟨reading, mem_readings_optional.2 (Or.inl member), stop⟩
      · refine ⟨⟨⟨before.length, rest⟩, []⟩, mem_readings_optional.2 (Or.inr rfl), ?_, rfl⟩
        rw [List.append_nil]
  | group body ih =>
      obtain ⟨inner, rfl, matched⟩ := found
      obtain ⟨reading, member, stop, captured⟩ := ih matched before rest
      refine ⟨_, List.mem_map_of_mem member, stop, ?_⟩
      rw [List.map_cons, captured, stop, List.length_append, slice_middle]

/-! ## Searches -/

theorem isSome_occurrenceAt? (pattern : Pattern) (before text : Text) :
    (pattern.occurrenceAt? ⟨before.length, text⟩).isSome = true ↔ pattern.Begins text := by
  rw [occurrenceAt?, Option.isSome_map, List.isSome_head?]
  constructor
  · intro some
    obtain ⟨reading, member⟩ := List.exists_mem_of_ne_nil _ some
    obtain ⟨taken, rest, split, -, found⟩ := matches_of_mem_readings member
    exact ⟨taken, rest, _, split, found⟩
  · rintro ⟨taken, rest, groups, rfl, found⟩
    obtain ⟨reading, member, -⟩ := exists_mem_readings found before rest
    exact List.ne_nil_of_mem member

/-- A search passes over the places at which no match begins. -/
theorem searchFrom_append {pattern : Pattern} (before : Text) {skipped rest : Text}
    (silent : ∀ left right, skipped = left ++ right → right ≠ [] →
      ¬ pattern.Begins (right ++ rest)) :
    pattern.searchFrom before.length (skipped ++ rest) =
      pattern.searchFrom (before ++ skipped).length rest := by
  induction skipped generalizing before with
  | nil => simp
  | cons character others ih =>
      have nothing : pattern.occurrenceAt? ⟨before.length, character :: (others ++ rest)⟩ =
          none := by
        rw [← Option.not_isSome_iff_eq_none, isSome_occurrenceAt?]
        exact silent [] (character :: others) rfl (List.cons_ne_nil _ _)
      have later := ih (before ++ [character]) fun left right split =>
        silent (character :: left) right (by rw [split, List.cons_append])
      rw [List.length_append, List.length_singleton, List.append_assoc, List.singleton_append]
        at later
      rw [List.cons_append, searchFrom, nothing]
      exact later

/-- What a search captures, if the first place is known at which a match begins and all matches from
there capture the same texts. -/
theorem captures?_append {pattern : Pattern} {skipped rest : Text} {captured : List Text}
    (silent : ∀ left right, skipped = left ++ right → right ≠ [] → ¬ pattern.Begins (right ++ rest))
    (begins : pattern.Begins rest)
    (only : ∀ taken after groups, rest = taken ++ after → pattern.Matches taken groups →
      groups = captured) :
    pattern.captures? (skipped ++ rest) = some captured := by
  have found := (isSome_occurrenceAt? pattern skipped rest).2 begins
  obtain ⟨occurrence, here⟩ := Option.isSome_iff_exists.1 found
  have searched : pattern.search? (skipped ++ rest) = some occurrence := by
    have passed := searchFrom_append [] silent
    rw [List.length_nil, List.nil_append] at passed
    rw [search?, passed]
    cases rest with
    | nil => exact here
    | cons character others => rw [searchFrom, here]
  obtain ⟨reading, preferred, rfl⟩ := Option.map_eq_some_iff.1 here
  obtain ⟨taken, after, split, -, matched⟩ :=
    matches_of_mem_readings (List.mem_of_head? preferred)
  rw [captures?, searched, Option.map_some]
  exact congrArg some (only taken after _ split matched)

/-- A search finds what occurs at some place of the text. -/
theorem occurrenceAt?_of_searchFrom {pattern : Pattern} (before : Text) {text : Text}
    {occurrence : Occurrence} (found : pattern.searchFrom before.length text = some occurrence) :
    ∃ skipped rest, text = skipped ++ rest ∧
      pattern.occurrenceAt? ⟨(before ++ skipped).length, rest⟩ = some occurrence := by
  induction text generalizing before with
  | nil => exact ⟨[], [], rfl, by simpa [searchFrom] using found⟩
  | cons character others ih =>
      rw [searchFrom] at found
      split at found
      · next here atPlace =>
          exact ⟨[], character :: others, rfl, by simpa [← Option.some.inj found] using atPlace⟩
      · rw [show before.length + 1 = (before ++ [character]).length by simp] at found
        obtain ⟨skipped, rest, rfl, atPlace⟩ := ih _ found
        refine ⟨character :: skipped, rest, rfl, ?_⟩
        rw [List.append_assoc] at atPlace
        exact atPlace

/-- A search captures the groups of a match somewhere in the text. -/
theorem matches_of_captures? {pattern : Pattern} {text : Text} {captured : List Text}
    (found : pattern.captures? text = some captured) :
    ∃ before taken after, text = before ++ (taken ++ after) ∧ pattern.Matches taken captured := by
  obtain ⟨occurrence, searched, rfl⟩ := Option.map_eq_some_iff.1 found
  obtain ⟨before, rest, rfl, here⟩ := occurrenceAt?_of_searchFrom [] searched
  obtain ⟨reading, preferred, rfl⟩ := Option.map_eq_some_iff.1 here
  obtain ⟨taken, after, rfl, -, matched⟩ := matches_of_mem_readings (List.mem_of_head? preferred)
  exact ⟨before, taken, after, rfl, matched⟩

/-- A pattern of which no stretch of a text is a match is not found in it. -/
theorem captures?_eq_none {pattern : Pattern} {text : Text}
    (silent : ∀ before rest, text = before ++ rest → ¬ pattern.Begins rest) :
    pattern.captures? text = none := by
  cases found : pattern.captures? text with
  | none => rfl
  | some captured =>
      obtain ⟨before, taken, after, split, matched⟩ := matches_of_captures? found
      exact absurd ⟨taken, after, captured, rfl, matched⟩ (silent before _ split)

end HeaderOrder.Pattern
