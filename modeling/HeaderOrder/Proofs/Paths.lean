import HeaderOrder.Path
import HeaderOrder.Proofs.Files
import HeaderOrder.Proofs.Lines

/-!
# Names at the end of paths

What stands after the last slash of a text is the name of the path that it spells, unless it is
empty or a single dot.  The text of an entry of a directory ends with the name of that entry,
whichever way the directory is spelled, so a file that is written there stands at a location with
that name.

A path has no empty parts and no single dots.  Its text leads through the parts of the path, and
the text of an entry through the parts of the directory and then the name.
-/

namespace HeaderOrder

/-! ## The part after the last slash -/

/-- A text has a part after its last slash, or has no slash and is that part. -/
theorem exists_lastPart (text : Text) :
    ∃ name, (text.splitOn '/').getLast? = some name ∧ '/' ∉ name ∧
      (text = name ∨ ∃ front, text = front ++ '/' :: name) := by
  by_cases slashed : '/' ∈ text
  · obtain ⟨after, before, reversed, plain⟩ :=
      List.eq_append_cons_of_mem (List.mem_reverse.2 slashed)
    have cut : text = before.reverse ++ '/' :: after.reverse := by
      rw [← List.reverse_reverse text, reversed]
      simp
    have plain' : '/' ∉ after.reverse := fun member => plain (List.mem_reverse.1 member)
    refine ⟨after.reverse, ?_, plain', Or.inr ⟨before.reverse, cut⟩⟩
    rw [cut, List.splitOn_append_cons_self, List.splitOn_eq_singleton plain', List.getLast?_concat]
  · refine ⟨text, ?_, slashed, Or.inl rfl⟩
    rw [List.splitOn_eq_singleton slashed, List.getLast?_singleton]

/-- The last part of a text ends as the text does, if the ending has no slash. -/
theorem suffix_lastPart {text name ending : Text}
    (cut : text = name ∨ ∃ front, text = front ++ '/' :: name) (ends : ending <:+ text)
    (plain : '/' ∉ ending) : ending <:+ name := by
  rcases cut with rfl | ⟨front, rfl⟩
  · exact ends
  · have tail : '/' :: name <:+ front ++ '/' :: name := List.suffix_append front _
    rcases List.suffix_or_suffix_of_suffix tail ends with long | short
    · exact absurd (long.subset (List.mem_cons_self ..)) plain
    · rcases List.suffix_cons_iff.1 short with rfl | within
      · exact absurd (List.mem_cons_self ..) plain
      · exact within

theorem Path.name?_ofText {text name : Text} (last : (text.splitOn '/').getLast? = some name)
    (nonempty : name ≠ []) (noDot : name ≠ ['.']) : (ofText text).name? = some name := by
  obtain ⟨earlier, cut⟩ := List.getLast?_eq_some_iff.1 last
  rw [name?, ofText, partsOf, cut, List.filter_append]
  simp [nonempty, noDot]

/-! ## The parts of a path and its text -/

theorem Path.plain_of_mem_partsOf {text part : Text} (member : part ∈ partsOf text) :
    part ≠ [] ∧ part ≠ ['.'] ∧ '/' ∉ part := by
  obtain ⟨within, named⟩ := List.mem_filter.1 member
  simp only [Bool.and_eq_true, bne_iff_ne] at named
  exact ⟨named.1, named.2, notMem_of_mem_splitOn within⟩

theorem Path.rootOf_cases (text : Text) :
    rootOf text = [] ∨ rootOf text = ['/'] ∨ rootOf text = ['/', '/'] := by
  unfold rootOf
  split <;> simp

namespace FileTree

theorem pathParts_slash (text : Text) : pathParts ('/' :: text) = pathParts text := by
  have cut := List.splitOn_append_cons_self (a := '/') [] text
  rw [List.nil_append, List.splitOn_nil] at cut
  rw [pathParts, cut, List.filter_append]
  rfl

/-- A root in front of a text does not change its parts. -/
theorem pathParts_rootOf_append (root text : Text) :
    pathParts (Path.rootOf root ++ text) = pathParts text := by
  rcases Path.rootOf_cases root with same | same | same
  · rw [same, List.nil_append]
  · rw [same, List.cons_append, pathParts_slash, List.nil_append]
  · rw [same, List.cons_append, pathParts_slash, List.cons_append, pathParts_slash, List.nil_append]

/-- Parts that are joined by slashes are the parts of the joined text. -/
theorem pathParts_intercalate {parts : List Text} (plain : ∀ part ∈ parts, part ≠ [] ∧ '/' ∉ part) :
    pathParts (List.intercalate ['/'] parts) = parts := by
  cases parts with
  | nil => rfl
  | cons first rest =>
      rw [pathParts, List.splitOn_intercalate '/' (fun part member => (plain part member).2)
        (by simp), List.filter_eq_self]
      intro part member
      exact bne_iff_ne.2 (plain part member).1

end FileTree

/-! ## Entries of directories -/

theorem Path.toText_child (folder : Text) {name : Text} (nonempty : name ≠ []) :
    ((ofText folder).child name).toText =
      rootOf folder ++ List.intercalate ['/'] (partsOf folder ++ [name]) := by
  have some : rootOf folder ++ List.intercalate ['/'] (partsOf folder ++ [name]) ≠ [] := by
    cases parts : partsOf folder with
    | nil => simp [nonempty]
    | cons first rest => simp [intercalate_cons]
  rw [toText, child, ofText]
  split
  · exact absurd ‹_› some
  · rfl

theorem Path.toText_ne_nil (path : Path) : path.toText ≠ [] := by
  unfold toText
  split
  · simp
  · assumption

theorem Path.toText_ofText {folder : Text} (some : partsOf folder ≠ []) :
    (ofText folder).toText = rootOf folder ++ List.intercalate ['/'] (partsOf folder) := by
  obtain ⟨first, rest, parts⟩ := List.exists_cons_of_ne_nil some
  have member : first ∈ partsOf folder := by
    rw [parts]
    exact List.mem_cons_self ..
  have nonempty := (plain_of_mem_partsOf member).1
  rw [toText, ofText]
  split
  · next empty => simp [parts, intercalate_cons, nonempty] at empty
  · rfl

/-- The text of an entry is that of the folder, a slash and the entry's name. -/
theorem Path.toText_child_of_ne {folder name : Text} (nonempty : name ≠ [])
    (some : partsOf folder ≠ []) :
    ((ofText folder).child name).toText = (ofText folder).toText ++ '/' :: name := by
  obtain ⟨first, rest, parts⟩ := List.exists_cons_of_ne_nil some
  rw [toText_child folder nonempty, toText_ofText some, parts]
  simp [intercalate_cons]

theorem Path.plain_of_mem_child (folder : Text) {name : Text} (plain : '/' ∉ name)
    (nonempty : name ≠ []) : ∀ part ∈ partsOf folder ++ [name], part ≠ [] ∧ '/' ∉ part := by
  intro part member
  rcases List.mem_append.1 member with within | last
  · obtain ⟨some, -, unslashed⟩ := plain_of_mem_partsOf within
    exact ⟨some, unslashed⟩
  · rw [List.mem_singleton.1 last]
    exact ⟨nonempty, plain⟩

theorem FileTree.pathParts_child (folder : Text) {name : Text} (plain : '/' ∉ name)
    (nonempty : name ≠ []) :
    pathParts ((Path.ofText folder).child name).toText = Path.partsOf folder ++ [name] := by
  rw [Path.toText_child folder nonempty, pathParts_rootOf_append,
    pathParts_intercalate (Path.plain_of_mem_child folder plain nonempty)]

theorem FileTree.pathParts_toText {folder : Text} (some : Path.partsOf folder ≠ []) :
    pathParts (Path.ofText folder).toText = Path.partsOf folder := by
  rw [Path.toText_ofText some, pathParts_rootOf_append, pathParts_intercalate]
  intro part member
  obtain ⟨nonempty, -, unslashed⟩ := Path.plain_of_mem_partsOf member
  exact ⟨nonempty, unslashed⟩

theorem FileTree.getLast?_pathParts_child (folder : Text) {name : Text} (plain : '/' ∉ name)
    (nonempty : name ≠ []) :
    (pathParts ((Path.ofText folder).child name).toText).getLast? = some name := by
  rw [pathParts_child folder plain nonempty, List.getLast?_concat]

/-- A file that can be written stands at a location with the last name of its path. -/
theorem FileTree.getLast?_of_writable {tree : FileTree} {path name : Text} {location : Location}
    {bytes : List UInt8} (room : tree.writable path = .ok (location, bytes))
    (last : (pathParts path).getLast? = some name) (noDot : name ≠ ['.'])
    (noDots : name ≠ ['.', '.']) : location.getLast? = some name := by
  obtain ⟨directory, part, reached, -, -, rfl, -⟩ := of_writable room
  have same : part = name := by
    obtain ⟨-, -, -, -, ends⟩ := approach_eq_ok.1 reached
    rw [← ends, last, Option.getD_some]
  rw [same, enter, if_neg noDot, if_neg noDots, List.getLast?_concat]

end HeaderOrder
