import HeaderOrder.Proofs.Matching
import HeaderOrder.Proofs.Paths

/-!
# Directories on the way

In a tree everything stands in a directory.  A path leads through directories, so the last part of
a path to a file is its name, and never one or two dots, which lead to directories.  To write a
file or to make a directory keeps a tree one.

A file that is written where no directory stood is on the way of no path, neither before nor
after.  So a path leads to another place exactly if it does so after the write.
-/

namespace HeaderOrder.FileTree

/-- Whether relative paths start in a directory, and whatever stands in the tree stands in one. -/
structure IsTree (tree : FileTree) : Prop where
  start : tree.get? tree.workingDirectory = some .directory
  inside : ∀ entry ∈ tree.nodes.entries, tree.get? entry.1.dropLast = some .directory

instance (tree : FileTree) : Decidable tree.IsTree :=
  decidable_of_iff
    (tree.get? tree.workingDirectory = some .directory ∧
      ∀ entry ∈ tree.nodes.entries, tree.get? entry.1.dropLast = some .directory)
    ⟨fun both => ⟨both.1, both.2⟩, fun isTree => ⟨isTree.start, isTree.inside⟩⟩

/-- Whether two paths lead to the same place, and there to the same node. -/
def SamePlace (tree : FileTree) (path other : Text) : Prop :=
  ∃ found, tree.target path = .ok found ∧ tree.target other = .ok found

/-! ## Ways through directories -/

/-- The path that is named in errors does not matter for where a walk leads. -/
theorem walk_of_walk {tree : FileTree} {path : Text} {here there : Location} {parts : List Text}
    (walked : tree.walk path here parts = .ok there) (other : Text) :
    tree.walk other here parts = .ok there := by
  induction parts generalizing here with
  | nil => exact walked
  | cons part rest ih =>
      obtain ⟨short, found, onward⟩ := walk_cons_eq_ok.1 walked
      exact walk_cons_eq_ok.2 ⟨short, found, ih onward⟩

/-- A walk leads from one directory to another. -/
theorem get?_of_walk {tree : FileTree} {path : Text} {here there : Location} {parts : List Text}
    (walked : tree.walk path here parts = .ok there) (first : tree.get? here = some .directory) :
    tree.get? there = some .directory := by
  induction parts generalizing here with
  | nil =>
      cases walked
      exact first
  | cons part rest ih =>
      obtain ⟨-, found, onward⟩ := walk_cons_eq_ok.1 walked
      exact ih onward found

/-- A walk along one part more ends in the directory that this part leads to. -/
theorem exists_of_walk_concat {tree : FileTree} {path last : Text} {here there : Location}
    {parts : List Text} (walked : tree.walk path here (parts ++ [last]) = .ok there) :
    ∃ directory, tree.walk path here parts = .ok directory ∧ fits longestName last = true ∧
      enter directory last = there ∧ tree.get? there = some .directory := by
  induction parts generalizing here with
  | nil =>
      obtain ⟨short, found, onward⟩ := walk_cons_eq_ok.1 walked
      cases onward
      exact ⟨here, rfl, short, rfl, found⟩
  | cons part rest ih =>
      obtain ⟨short, found, onward⟩ := walk_cons_eq_ok.1 walked
      obtain ⟨directory, before, ends⟩ := ih onward
      exact ⟨directory, walk_cons_eq_ok.2 ⟨short, found, before⟩, ends⟩

namespace IsTree

variable {tree : FileTree}

theorem parent (isTree : tree.IsTree) {location : Location} {node : Node}
    (found : tree.get? location = some node) : tree.get? location.dropLast = some .directory := by
  cases location with
  | nil => rfl
  | cons name rest =>
      obtain ⟨entry, member, same⟩ := List.mem_map.1 (Entries.mem_map_fst_of_lookup found)
      rw [← same]
      exact isTree.inside entry member

theorem get?_startOf (isTree : tree.IsTree) (path : Text) :
    tree.get? (tree.startOf path) = some .directory := by
  unfold startOf
  split
  · rfl
  · exact isTree.start

theorem get?_of_approach (isTree : tree.IsTree) {path last : Text} {directory : Location}
    (reached : tree.approach path = .ok (directory, last)) :
    tree.get? directory = some .directory := by
  obtain ⟨-, -, -, walked, -⟩ := approach_eq_ok.1 reached
  exact get?_of_walk walked (isTree.get?_startOf path)

/-- One dot and two dots lead to directories, so the last part of any other way is a name. -/
theorem enter_eq (isTree : tree.IsTree) {directory : Location} {last : Text}
    (within : tree.get? directory = some .directory)
    (free : tree.get? (enter directory last) ≠ some .directory) :
    last ≠ ['.'] ∧ last ≠ ['.', '.'] ∧ enter directory last = directory ++ [last] := by
  have noDot : last ≠ ['.'] := by
    rintro rfl
    exact free within
  have noDots : last ≠ ['.', '.'] := by
    rintro rfl
    exact free (isTree.parent within)
  refine ⟨noDot, noDots, ?_⟩
  rw [enter, if_neg noDot, if_neg noDots]

/-- A path that leads to no directory leads to a name in one. -/
theorem exists_of_target (isTree : tree.IsTree) {path : Text} {location : Location}
    {node : Option Node} (reached : tree.target path = .ok (location, node))
    (free : node ≠ some .directory) :
    ∃ directory last, tree.approach path = .ok (directory, last) ∧
      tree.get? directory = some .directory ∧ location = directory ++ [last] ∧
      last ≠ ['.'] ∧ last ≠ ['.', '.'] := by
  obtain ⟨directory, last, approached, -, rfl, found⟩ := target_eq_ok.1 reached
  have within := isTree.get?_of_approach approached
  obtain ⟨noDot, noDots, same⟩ := isTree.enter_eq within (found ▸ free)
  exact ⟨directory, last, approached, within, same, noDot, noDots⟩

/-! ## Changes that keep a tree one -/

theorem set (isTree : tree.IsTree) {location : Location}
    (free : tree.get? location ≠ some .directory)
    (within : tree.get? location.dropLast = some .directory) (node : Node) :
    (tree.set location node).IsTree := by
  have stays : ∀ other, tree.get? other = some .directory →
      (tree.set location node).get? other = some .directory := by
    intro other found
    have differ : location ≠ other := by
      rintro rfl
      exact free found
    rw [get?_set_of_ne tree location other node differ, found]
  constructor
  · exact stays _ isTree.start
  · intro entry member
    rcases Entries.mem_put member with rfl | before
    · exact stays _ within
    · exact stays _ (isTree.inside entry before)

theorem set_of_target (isTree : tree.IsTree) {path : Text} {location : Location}
    {old : Option Node} (reached : tree.target path = .ok (location, old))
    (free : old ≠ some .directory) (node : Node) : (tree.set location node).IsTree := by
  obtain ⟨directory, last, -, within, rfl, -, -⟩ := isTree.exists_of_target reached free
  apply isTree.set
  · exact get?_of_target reached ▸ free
  · rw [List.dropLast_concat]
    exact within

theorem writeText (isTree : tree.IsTree) {written : FileTree} {path text : Text}
    (wrote : tree.writeText path text = .ok written) : written.IsTree := by
  obtain ⟨location, _, room, rfl⟩ := of_writeText wrote
  obtain ⟨old, reached, free⟩ := target_of_writable room
  exact isTree.set_of_target reached free _

theorem appendText (isTree : tree.IsTree) {extended : FileTree} {path text : Text}
    (wrote : tree.appendText path text = .ok extended) : extended.IsTree := by
  obtain ⟨location, _, room, rfl⟩ := of_appendText wrote
  obtain ⟨old, reached, free⟩ := target_of_writable room
  exact isTree.set_of_target reached free _

theorem makeDirectory (isTree : tree.IsTree) {prepared : FileTree} {path : Text}
    (made : tree.makeDirectory path = .ok prepared) : prepared.IsTree := by
  rcases makeDirectory_cases made with ⟨_, _, rfl⟩ | ⟨location, reached, rfl⟩
  · exact isTree
  · exact isTree.set_of_target reached (by simp) _

end IsTree

/-! ## Ways beside a file -/

theorem walk_of_set_file {tree : FileTree} {location : Location} {bytes : List UInt8} {path : Text}
    {here there : Location} {parts : List Text} (below : location ≠ [])
    (walked : (tree.set location (.file bytes)).walk path here parts = .ok there) :
    tree.walk path here parts = .ok there := by
  induction parts generalizing here with
  | nil => exact walked
  | cons part rest ih =>
      obtain ⟨short, found, onward⟩ := walk_cons_eq_ok.1 walked
      have differ : location ≠ enter here part := by
        intro same
        rw [← same, get?_set_self tree _ below] at found
        cases found
      rw [get?_set_of_ne tree location _ _ differ] at found
      exact walk_cons_eq_ok.2 ⟨short, found, ih onward⟩

/-- A path leads to another place exactly if it does so after a file was written. -/
theorem target_set_file_iff {tree : FileTree} {location : Location}
    (free : tree.get? location ≠ some .directory) (bytes : List UInt8) {path : Text}
    {found : Location × Option Node} (differ : location ≠ found.1) :
    (tree.set location (.file bytes)).target path = .ok found ↔ tree.target path = .ok found := by
  have below : location ≠ [] := by
    rintro rfl
    exact free rfl
  constructor
  · intro reached
    obtain ⟨place, node⟩ := found
    obtain ⟨directory, last, approached, short, rfl, same⟩ := target_eq_ok.1 reached
    obtain ⟨plain, nonempty, fitting, walked, ends⟩ := approach_eq_ok.1 approached
    rw [get?_set_of_ne tree location _ _ differ] at same
    have before := approach_eq_ok.2
      ⟨plain, nonempty, fitting, walk_of_set_file below walked, ends⟩
    exact target_eq_ok.2 ⟨directory, last, before, short, rfl, same⟩
  · intro reached
    exact target_set_of_ne tree _ free reached differ

/-! ## Files and their folders -/

/-- Bytes are read by a path that leads to a file and asks for no directory. -/
theorem readBytes_eq_ok {tree : FileTree} {path : Text} {bytes : List UInt8} :
    tree.readBytes path = .ok bytes ↔
      isSlashed path = false ∧
        ∃ location, tree.target path = .ok (location, some (.file bytes)) := by
  unfold readBytes
  cases tree.target path with
  | error error => simp
  | ok found =>
      obtain ⟨location, node⟩ := found
      cases node with
      | none => simp
      | some node =>
          cases node with
          | directory => simp
          | file content => cases isSlashed path <;> simp

theorem writeText_of_target {tree : FileTree} {path : Text} {location : Location}
    {bytes : List UInt8} (reached : tree.target path = .ok (location, some (.file bytes)))
    (unslashed : isSlashed path = false) (text : Text) :
    tree.writeText path text = .ok (tree.set location (.file (Text.Utf8.encode text))) := by
  obtain ⟨directory, last, approached, short, rfl, found⟩ := target_eq_ok.1 reached
  simp only [writeText, writable, approached, unslashed, look, short, found, if_true,
    Bool.false_eq_true, if_false]

theorem makeDirectory_of_target {tree : FileTree} {path : Text} {location : Location}
    (reached : tree.target path = .ok (location, some .directory)) :
    tree.makeDirectory path = .ok tree := by
  rw [makeDirectory, reached]

theorem exists_readBytes_of_readText {tree : FileTree} {path text : Text}
    (read : tree.readText path = .ok text) : ∃ bytes, tree.readBytes path = .ok bytes := by
  unfold readText at read
  cases found : tree.readBytes path with
  | error error => simp [found] at read
  | ok bytes => exact ⟨bytes, rfl⟩

/-- The path of a file has a name after its last slash. -/
theorem IsTree.exists_name {tree : FileTree} (isTree : tree.IsTree)
    {path : Text} {bytes : List UInt8} (read : tree.readBytes path = .ok bytes) :
    ∃ name, (Path.ofText path).name? = some name ∧ name ≠ [] ∧ '/' ∉ name ∧
      name ≠ ['.'] ∧ name ≠ ['.', '.'] := by
  obtain ⟨unslashed, location, reached⟩ := readBytes_eq_ok.1 read
  obtain ⟨directory, last, approached, -, -, noDot, noDots⟩ :=
    isTree.exists_of_target reached (by simp)
  obtain ⟨-, some, -, -, ends⟩ := approach_eq_ok.1 approached
  obtain ⟨name, lastPart, plain, cut⟩ := exists_lastPart path
  have nonempty : name ≠ [] := by
    rintro rfl
    rcases cut with rfl | ⟨front, rfl⟩
    · exact some rfl
    · simp [isSlashed] at unslashed
  have same : last = name := by
    obtain ⟨earlier, parts⟩ := List.getLast?_eq_some_iff.1 lastPart
    rw [← ends, pathParts, parts, List.filter_append]
    simp [nonempty]
  subst same
  exact ⟨last, Path.name?_ofText lastPart nonempty noDot, nonempty, plain, noDot, noDots⟩

theorem fits_of_append {limit : Nat} {text rest : Text} (short : fits limit (text ++ rest) = true) :
    fits limit text = true := by
  have both := of_decide_eq_true short
  rw [Text.Utf8.encode, List.flatMap_append, List.length_append] at both
  exact decide_eq_true (Nat.le_trans (Nat.le_add_right _ _) both)

theorem isSlashed_child (folder : Text) {name : Text} (plain : '/' ∉ name) (nonempty : name ≠ []) :
    isSlashed ((Path.ofText folder).child name).toText = false := by
  obtain ⟨front, ends⟩ : ∃ front, ((Path.ofText folder).child name).toText = front ++ name := by
    by_cases bare : Path.partsOf folder = []
    · exact ⟨Path.rootOf folder, by rw [Path.toText_child folder nonempty, bare]; simp⟩
    · exact ⟨(Path.ofText folder).toText ++ ['/'], by simp [Path.toText_child_of_ne nonempty bare]⟩
  rw [isSlashed, ends, decide_eq_false_iff_not, List.getLast?_append,
    List.getLast?_eq_some_getLast nonempty, Option.some_or]
  intro last
  exact plain (Option.some.inj last ▸ List.getLast_mem nonempty)

/-- The way to an entry of a folder without parts starts in that folder. -/
theorem IsTree.target_of_partsOf_nil {tree : FileTree} (isTree : tree.IsTree) {folder name : Text}
    (plain : '/' ∉ name) (nonempty : name ≠ []) (bare : Path.partsOf folder = []) :
    tree.target (Path.ofText folder).toText =
      .ok (tree.startOf ((Path.ofText folder).child name).toText, some .directory) := by
  rw [Path.toText_child folder nonempty, Path.toText, Path.ofText, bare, List.nil_append,
    List.intercalate_singleton]
  rcases Path.rootOf_cases folder with root | root | root
  · have relative : name.head? ≠ some '/' := fun first => plain (List.mem_of_mem_head? first)
    have start : tree.startOf ([] ++ name) = tree.workingDirectory := if_neg relative
    rw [root, start]
    refine target_eq_ok.2 ⟨tree.workingDirectory, ['.'], ?_, by decide, rfl, isTree.start⟩
    exact approach_eq_ok.2 ⟨by decide, by decide, by decide, rfl, rfl⟩
  · rw [root]
    refine target_eq_ok.2 ⟨[], ['.'], ?_, by decide, rfl, rfl⟩
    exact approach_eq_ok.2 ⟨by decide, by decide, by decide, rfl, rfl⟩
  · rw [root]
    refine target_eq_ok.2 ⟨[], ['.'], ?_, by decide, rfl, rfl⟩
    exact approach_eq_ok.2 ⟨by decide, by decide, by decide, rfl, rfl⟩

/-- The way to an entry of a folder leads to the folder first. -/
theorem IsTree.target_of_approach_child {tree : FileTree} (isTree : tree.IsTree) {folder : Text}
    {name last : Text} {directory : Location} (plain : '/' ∉ name) (nonempty : name ≠ [])
    (approached : tree.approach ((Path.ofText folder).child name).toText = .ok (directory, last)) :
    last = name ∧ tree.target (Path.ofText folder).toText = .ok (directory, some .directory) := by
  obtain ⟨noNull, -, short, walked, ends⟩ := approach_eq_ok.1 approached
  rw [pathParts_child folder plain nonempty, List.getLast?_concat, Option.getD_some] at ends
  rw [pathParts_child folder plain nonempty, List.dropLast_concat] at walked
  refine ⟨ends.symm, ?_⟩
  by_cases bare : Path.partsOf folder = []
  · rw [bare] at walked
    cases walked
    exact isTree.target_of_partsOf_nil plain nonempty bare
  · have joined := Path.toText_child_of_ne nonempty bare
    have parts := pathParts_toText bare
    have some : (Path.ofText folder).toText ≠ [] := Path.toText_ne_nil _
    rw [joined] at noNull short walked
    have start : tree.startOf ((Path.ofText folder).toText ++ '/' :: name) =
        tree.startOf (Path.ofText folder).toText := by
      obtain ⟨first, rest, text⟩ := List.exists_cons_of_ne_nil some
      rw [text]
      rfl
    obtain ⟨front, part, cut⟩ := (List.eq_nil_or_concat (Path.partsOf folder)).resolve_left bare
    rw [List.concat_eq_append] at cut
    rw [start, cut] at walked
    obtain ⟨before, onward, fitting, entered, found⟩ := exists_of_walk_concat walked
    refine target_eq_ok.2 ⟨before, part, approach_eq_ok.2 ⟨?_, some, fits_of_append short, ?_, ?_⟩,
      fitting, entered, found⟩
    · exact fun member => noNull (List.mem_append_left _ member)
    · rw [parts, cut, List.dropLast_concat]
      exact walk_of_walk onward _
    · rw [parts, cut, List.getLast?_concat, Option.getD_some]

end HeaderOrder.FileTree
