import HeaderOrder.Files.Access
import HeaderOrder.Proofs.Utf8

/-!
# Reading what was written

A file is written at a location where no directory stands, and a path leads through directories
only.  So writing by a path does not change where any path leads, and the text that was written is
read there, as long as it has no carriage returns for reading to unify.  A directory is made only
where nothing stands.  Write protection only ever turns a write into a failure, and then nothing
changes.
-/

namespace HeaderOrder.FileTree

theorem get?_set_self (tree : FileTree) {location : Location} (node : Node)
    (below : location ≠ []) : (tree.set location node).get? location = some node := by
  cases location with
  | nil => exact absurd rfl below
  | cons name rest => simp [get?, set, Catalog.get?_insert]

/-! ## Where a path leads -/

/-- A walk goes on from each part that leads to a directory. -/
theorem walk_cons_eq_ok {tree : FileTree} {path part : Text} {here there : Location}
    {rest : List Text} :
    tree.walk path here (part :: rest) = .ok there ↔
      fits longestName part = true ∧ tree.get? (enter here part) = some .directory ∧
        tree.walk path (enter here part) rest = .ok there := by
  rw [walk, look]
  cases short : fits longestName part with
  | false => simp
  | true =>
      simp only [if_true]
      cases tree.get? (enter here part) with
      | none => simp
      | some node => cases node <;> simp

theorem approach_eq_ok {tree : FileTree} {path last : Text} {directory : Location} :
    tree.approach path = .ok (directory, last) ↔
      '\x00' ∉ path ∧ path ≠ [] ∧ fits longestPath path = true ∧
        tree.walk path (tree.startOf path) (pathParts path).dropLast = .ok directory ∧
        (pathParts path).getLast?.getD ['.'] = last := by
  unfold approach
  split_ifs with null empty long
  · simp [List.contains_iff_mem.1 null]
  · simp [empty]
  · simp_all
  · have plain : '\x00' ∉ path := fun member => null (List.contains_iff_mem.2 member)
    have short : fits longestPath path = true := by simpa using long
    cases tree.walk path (tree.startOf path) (pathParts path).dropLast with
    | error error => simp
    | ok there => simp [plain, empty, short]

theorem target_eq_ok {tree : FileTree} {path : Text} {location : Location} {node : Option Node} :
    tree.target path = .ok (location, node) ↔
      ∃ directory last, tree.approach path = .ok (directory, last) ∧ fits longestName last = true ∧
        enter directory last = location ∧ tree.get? location = node := by
  unfold target
  cases tree.approach path with
  | error error => simp
  | ok place =>
      obtain ⟨directory, last⟩ := place
      dsimp only [look]
      cases short : fits longestName last with
      | false => simp [short]
      | true =>
          rw [if_pos rfl]
          constructor
          · intro reached
            cases reached
            exact ⟨directory, last, rfl, short, rfl, rfl⟩
          · rintro ⟨_, _, same, -, rfl, rfl⟩
            cases same
            rfl

theorem get?_of_target {tree : FileTree} {path : Text} {location : Location} {node : Option Node}
    (reached : tree.target path = .ok (location, node)) : tree.get? location = node := by
  obtain ⟨_, _, _, _, _, found⟩ := target_eq_ok.1 reached
  exact found

/-! ## Where a path leads after a write -/

/-- A walk that meets only directories meets them still after a write elsewhere. -/
theorem walk_set (tree : FileTree) {location : Location} (node : Node)
    (free : tree.get? location ≠ some .directory) {path : Text} {here there : Location}
    {parts : List Text} (walked : tree.walk path here parts = .ok there) :
    (tree.set location node).walk path here parts = .ok there := by
  induction parts generalizing here with
  | nil => exact walked
  | cons part rest ih =>
      obtain ⟨short, found, onward⟩ := walk_cons_eq_ok.1 walked
      have differ : location ≠ enter here part := by
        intro same
        rw [same, found] at free
        exact free rfl
      refine walk_cons_eq_ok.2 ⟨short, ?_, ih onward⟩
      rw [get?_set_of_ne tree location _ node differ, found]

theorem approach_set (tree : FileTree) {location : Location} (node : Node)
    (free : tree.get? location ≠ some .directory) {path : Text} {found : Location × Text}
    (reached : tree.approach path = .ok found) :
    (tree.set location node).approach path = .ok found := by
  obtain ⟨plain, nonempty, short, walked, last⟩ := approach_eq_ok.1 reached
  exact approach_eq_ok.2 ⟨plain, nonempty, short, walk_set tree node free walked, last⟩

/-- Where a file can be written, its path leads to that place, which is no directory, and asks for
no directory. -/
theorem of_writable {tree : FileTree} {path : Text} {location : Location} {bytes : List UInt8}
    (room : tree.writable path = .ok (location, bytes)) :
    ∃ directory last, tree.approach path = .ok (directory, last) ∧ isSlashed path = false ∧
      fits longestName last = true ∧ location = enter directory last ∧
        tree.get? location ≠ some .directory := by
  unfold writable at room
  cases reached : tree.approach path with
  | error error => simp [reached] at room
  | ok found =>
      obtain ⟨directory, last⟩ := found
      rw [reached] at room
      dsimp only at room
      refine ⟨directory, last, rfl, ?_⟩
      cases slashed : isSlashed path with
      | true => simp [slashed] at room
      | false =>
          rw [slashed] at room
          cases short : fits longestName last with
          | false => simp [look, short] at room
          | true =>
              cases met : tree.get? (enter directory last) with
              | none =>
                  simp [look, short, met] at room
                  simp [← room.1, met]
              | some node =>
                  cases node with
                  | directory => simp [look, short, met] at room
                  | file old =>
                      simp [look, short, met] at room
                      simp [← room.1, met]

theorem ne_nil_of_writable {tree : FileTree} {path : Text} {location : Location}
    {bytes : List UInt8} (room : tree.writable path = .ok (location, bytes)) : location ≠ [] := by
  obtain ⟨_, _, _, _, _, _, free⟩ := of_writable room
  rintro rfl
  exact free rfl

theorem target_of_writable {tree : FileTree} {path : Text} {location : Location}
    {bytes : List UInt8} (room : tree.writable path = .ok (location, bytes)) :
    ∃ node, tree.target path = .ok (location, node) ∧ node ≠ some .directory := by
  obtain ⟨directory, last, reached, -, short, rfl, free⟩ := of_writable room
  refine ⟨_, ?_, free⟩
  simp only [target, reached, look, short, if_true]

/-- A path that leads to no directory leads to whatever is put in the place that it leads to. -/
theorem target_set {tree : FileTree} {path : Text} {location : Location} {old : Option Node}
    (reached : tree.target path = .ok (location, old)) (free : old ≠ some .directory)
    (node : Node) :
    (tree.set location node).target path = .ok (location, some node) := by
  have vacant : tree.get? location ≠ some .directory := get?_of_target reached ▸ free
  have below : location ≠ [] := by
    rintro rfl
    exact vacant rfl
  obtain ⟨directory, last, approached, short, rfl, -⟩ := target_eq_ok.1 reached
  exact target_eq_ok.2 ⟨directory, last, approach_set tree node vacant approached, short, rfl,
    get?_set_self tree node below⟩

/-- A path still leads where a file was written by it. -/
theorem target_set_self {tree : FileTree} {path : Text} {location : Location} {bytes : List UInt8}
    (room : tree.writable path = .ok (location, bytes)) (node : Node) :
    (tree.set location node).target path = .ok (location, some node) := by
  obtain ⟨old, reached, free⟩ := target_of_writable room
  exact target_set reached free node

/-- A path leads to the same node after a write elsewhere. -/
theorem target_set_of_ne (tree : FileTree) {location : Location} (node : Node)
    (free : tree.get? location ≠ some .directory) {path : Text} {found : Location × Option Node}
    (reached : tree.target path = .ok found) (differ : location ≠ found.1) :
    (tree.set location node).target path = .ok found := by
  obtain ⟨place, old⟩ := found
  obtain ⟨directory, last, approached, short, rfl, same⟩ := target_eq_ok.1 reached
  refine target_eq_ok.2 ⟨directory, last, approach_set tree node free approached, short, rfl, ?_⟩
  rw [get?_set_of_ne tree location _ node differ, same]

theorem of_writeText {tree written : FileTree} {path text : Text}
    (wrote : tree.writeText path text = .ok written) :
    ∃ location bytes, tree.writable path = .ok (location, bytes) ∧
      written = tree.set location (.file (Text.Utf8.encode text)) := by
  unfold writeText at wrote
  cases room : tree.writable path with
  | error error => simp [room] at wrote
  | ok place =>
      simp only [room, Except.ok.injEq] at wrote
      exact ⟨place.1, place.2, rfl, wrote.symm⟩

/-- A write under protection is a write to a place that protection leaves open. -/
theorem writeTextUnder_eq_ok {tree written : FileTree} {protection : Protection}
    {path text : Text} :
    tree.writeTextUnder protection path text = .ok written ↔
      tree.writeText path text = .ok written ∧
        ∃ location bytes, tree.writable path = .ok (location, bytes) ∧
          tree.mayWrite protection location = true := by
  unfold writeTextUnder writeText
  cases tree.writable path with
  | error error => simp
  | ok place =>
      obtain ⟨location, bytes⟩ := place
      cases allowed : tree.mayWrite protection location with
      | false => simp [allowed]
      | true => simp [allowed]

/-- What is written under protection would be written without it too. -/
theorem writeText_of_writeTextUnder {tree written : FileTree} {protection : Protection}
    {path text : Text} (wrote : tree.writeTextUnder protection path text = .ok written) :
    tree.writeText path text = .ok written :=
  (writeTextUnder_eq_ok.1 wrote).1

/-- Where protection forbids writing, everything stays as it is. -/
theorem get?_of_writeTextUnder {tree written : FileTree} {protection : Protection}
    {path text : Text} (wrote : tree.writeTextUnder protection path text = .ok written)
    {location : Location} (forbidden : tree.mayWrite protection location = false) :
    written.get? location = tree.get? location := by
  obtain ⟨whole, place, _, room, allowed⟩ := writeTextUnder_eq_ok.1 wrote
  obtain ⟨place', _, room', rfl⟩ := of_writeText whole
  cases room.symm.trans room'
  have differ : place ≠ location := by
    rintro rfl
    cases forbidden.symm.trans allowed
  exact get?_set_of_ne tree place location _ differ

/-- Without protection nothing but the path decides. -/
theorem writeTextUnder_none (tree : FileTree) (path text : Text) :
    tree.writeTextUnder .none path text = (tree.writeText path text).mapError .unusable := by
  have allowed : ∀ location, tree.mayWrite .none location = true := by
    intro location
    unfold mayWrite
    cases tree.get? location <;> rfl
  unfold writeTextUnder writeText
  cases tree.writable path with
  | error error => rfl
  | ok place => simp [allowed, Except.mapError]

theorem of_appendText {tree extended : FileTree} {path text : Text}
    (wrote : tree.appendText path text = .ok extended) :
    ∃ location bytes, tree.writable path = .ok (location, bytes) ∧
      extended = tree.set location (.file (bytes ++ Text.Utf8.encode text)) := by
  unfold appendText at wrote
  cases room : tree.writable path with
  | error error => simp [room] at wrote
  | ok place =>
      simp only [room, Except.ok.injEq] at wrote
      exact ⟨place.1, place.2, rfl, wrote.symm⟩

/-- To make a directory leaves the tree as it is if there is one, or puts one where the path
leads. -/
theorem makeDirectory_cases {tree prepared : FileTree} {path : Text}
    (made : tree.makeDirectory path = .ok prepared) :
    (∃ location, tree.target path = .ok (location, some .directory) ∧ prepared = tree) ∨
      ∃ location, tree.target path = .ok (location, none) ∧
        prepared = tree.set location .directory := by
  unfold makeDirectory at made
  cases reached : tree.target path with
  | error error => simp [reached] at made
  | ok found =>
      obtain ⟨location, node⟩ := found
      cases node with
      | none =>
          simp only [reached, Except.ok.injEq] at made
          exact Or.inr ⟨location, rfl, made.symm⟩
      | some node =>
          cases node with
          | file bytes => simp [reached] at made
          | directory =>
              simp only [reached, Except.ok.injEq] at made
              exact Or.inl ⟨location, rfl, made.symm⟩

/-- To make a directory leaves the tree as it is, or fills a free location. -/
theorem of_makeDirectory {tree prepared : FileTree} {path : Text}
    (made : tree.makeDirectory path = .ok prepared) :
    prepared = tree ∨
      ∃ location, tree.get? location = none ∧ prepared = tree.set location .directory := by
  rcases makeDirectory_cases made with ⟨location, -, same⟩ | ⟨location, reached, same⟩
  · exact Or.inl same
  · exact Or.inr ⟨location, get?_of_target reached, same⟩

theorem readBytes_of_target {tree : FileTree} {path : Text} {location : Location}
    {bytes : List UInt8} (reached : tree.target path = .ok (location, some (.file bytes)))
    (unslashed : isSlashed path = false) : tree.readBytes path = .ok bytes := by
  rw [readBytes, reached]
  simp only [unslashed, Bool.false_eq_true, if_false]

/-- A text without carriage returns is read where it was written. -/
theorem readText_of_writeText {tree written : FileTree} {path text : Text}
    (wrote : tree.writeText path text = .ok written) (plain : '\r' ∉ text) :
    written.readText path = .ok text := by
  obtain ⟨location, old, room, rfl⟩ := of_writeText wrote
  obtain ⟨_, _, _, unslashed, _⟩ := of_writable room
  rw [readText, readBytes_of_target (target_set_self room _) unslashed]
  simp only [Text.Utf8.decode_encode, Text.unifyNewlines_eq_self text plain]

end HeaderOrder.FileTree
