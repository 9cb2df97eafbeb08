import HeaderOrder.Proofs.Browsing
import HeaderOrder.Proofs.Effects
import HeaderOrder.Proofs.History
import HeaderOrder.Proofs.Trees

/-!
# What processing does to its inputs

The window writes to three places: the log file, the output folder if it is not there yet, and the
result, which has the name of the implementation file and stands in the output folder.  So a file
that is read can be overwritten in two ways.  It can be the log file, which is emptied before
anything is read; or it can stand where the result is written.

The second happens if the file is in the output folder itself.  That folder is set when a header
is chosen in the dialog, and is empty until then, which stands for the working directory.
-/

namespace HeaderOrder.Window

/-- Whether an action is one that the window offers: to choose or to type the path of the header
or of the implementation file, and to process the files.  The output folder cannot be typed. -/
def Action.isManual : Action → Bool
  | .browseHeader _ => true
  | .browseSource _ => true
  | .edit field _ => field ≠ .outputFolder
  | .process => true
  | _ => false

namespace Session

open HeaderOrder.Job

/-! ## What every act of a run keeps -/

/-- What every act of a run into a folder keeps: messages, settings of the status, entries in the
log file, the making of the folder and the writing of the result. -/
structure KeptByActs (folder source : Text) (motive : Session → Prop) : Prop where
  say : ∀ session message, motive session → motive (session.say message)
  setStatus : ∀ session status, motive session → motive (session.setStatus status)
  note : ∀ session text files, motive session → session.files.appendText logFile text = .ok files →
    motive { session with files := files }
  prepare : ∀ session files, motive session →
    session.files.makeDirectory (Path.ofText folder).toText = .ok files →
    motive { session with files := files }
  deliver : ∀ session text files, motive session →
    session.files.writeText (resultPath folder source).toText text = .ok files →
    motive { session with files := files }

theorem keeps_attempt {motive : Session → Prop} {session : Session}
    {change : Except FileError FileTree} {next : Session → Session × Option Failure}
    (stays : motive session)
    (goes : ∀ files, change = .ok files → motive (next { session with files := files }).1) :
    motive (session.attempt change next).1 := by
  cases change with
  | error error => exact stays
  | ok files => exact goes files rfl

namespace KeptByActs

variable {folder source : Text} {motive : Session → Prop}

theorem sayAll (kept : KeptByActs folder source motive) {session : Session} (first : motive session)
    (messages : List Text) : motive (session.sayAll messages) := by
  induction messages generalizing session with
  | nil => exact first
  | cons message rest ih => exact ih (kept.say session message first)

theorem arrangeInto (kept : KeptByActs folder source motive) {session : Session}
    (first : motive session) (declarations : Declarations) (round : Round) :
    motive (session.arrangeInto declarations round folder source).1 := by
  unfold Session.arrangeInto
  apply keeps_attempt first
  intro noted wrote
  have told := kept.sayAll (kept.note _ _ _ first wrote) round.report
  apply keeps_attempt told
  intro prepared made
  have ready := kept.prepare _ _ told made
  apply keeps_attempt ready
  intro written put
  have done := kept.deliver _ _ _ ready put
  cases Definition.ofSource declarations round.result with
  | error error => exact done
  | ok arranged =>
      apply keeps_attempt done
      intro ended listed
      exact kept.setStatus _ _ (kept.say _ _ (kept.note _ _ _ done listed))

/-- What every act keeps, a run keeps. -/
theorem run (kept : KeptByActs folder source motive) {session : Session} (first : motive session)
    (header : Text) : motive (session.run header source folder) := by
  have worked : motive (session.work header source folder).1 := by
    unfold Session.work
    cases readInputs session.files header source with
    | error error => exact first
    | ok texts =>
        obtain ⟨headerText, sourceText⟩ := texts
        dsimp only
        cases Round.of (Declarations.ofHeader headerText) sourceText with
        | error error => exact first
        | ok round =>
            dsimp only
            split
            · exact kept.setStatus _ _ (kept.say _ _ first)
            · exact kept.arrangeInto first _ round
  unfold Session.run
  cases outcome : session.work header source folder with
  | mk ended failure =>
      rw [outcome] at worked
      cases failure with
      | none => exact worked
      | some failure => exact kept.setStatus _ _ (kept.say _ _ worked)

end KeptByActs

/-! ## Files that a run leaves alone -/

/-- Whether a path leads to a file with these bytes, which is neither the log file nor where the
result would be written. -/
structure Aside (path result : Text) (location : Location) (bytes : List UInt8)
    (session : Session) : Prop where
  isTree : session.files.IsTree
  reached : session.files.target path = .ok (location, some (.file bytes))
  notLogged : logLocation session.files ≠ location
  notResult : ∀ node, session.files.target result ≠ .ok (location, node)

theorem aside_note {path result text : Text} {location : Location} {bytes : List UInt8}
    {session : Session} {files : FileTree} (aside : Aside path result location bytes session)
    (wrote : session.files.appendText logFile text = .ok files) :
    Aside path result location bytes { session with files := files } := by
  obtain ⟨content, rfl, free⟩ := of_appendText_logFile wrote
  constructor
  · exact aside.isTree.appendText wrote
  · exact FileTree.target_set_of_ne _ _ free aside.reached aside.notLogged
  · exact aside.notLogged
  · intro node again
    exact aside.notResult node ((FileTree.target_set_file_iff free content aside.notLogged).1 again)

/-- A folder that is made is empty, so that no file that was there before is in it. -/
theorem aside_prepare {path name folder : Text} {location : Location} {bytes : List UInt8}
    {session : Session} {files : FileTree} (plain : '/' ∉ name) (nonempty : name ≠ [])
    (aside : Aside path ((Path.ofText folder).child name).toText location bytes session)
    (made : session.files.makeDirectory (Path.ofText folder).toText = .ok files) :
    Aside path ((Path.ofText folder).child name).toText location bytes
      { session with files := files } := by
  have isTree := aside.isTree.makeDirectory made
  have here := FileTree.get?_of_target aside.reached
  rcases FileTree.makeDirectory_cases made with ⟨_, _, rfl⟩ | ⟨fresh, vacant, rfl⟩
  · exact aside
  · have nothing := FileTree.get?_of_target vacant
    have differ : fresh ≠ location := by
      rintro rfl
      rw [nothing] at here
      cases here
    have stays := FileTree.target_set_of_ne _ .directory (by simp [nothing]) aside.reached differ
    refine ⟨isTree, stays, aside.notLogged, ?_⟩
    intro node again
    have found : node = some (.file bytes) :=
      (FileTree.get?_of_target again).symm.trans (FileTree.get?_of_target stays)
    obtain ⟨directory, last, approached, -, rfl, -, -⟩ :=
      isTree.exists_of_target again (by simp [found])
    obtain ⟨-, leads⟩ := isTree.target_of_approach_child plain nonempty approached
    cases leads.symm.trans (FileTree.target_set vacant (by simp) .directory)
    -- The file stood in the folder before the folder was made.
    have before := aside.isTree.parent here
    rw [List.dropLast_concat, nothing] at before
    cases before

theorem aside_deliver {path result text : Text} {location : Location} {bytes : List UInt8}
    {session : Session} {files : FileTree} (aside : Aside path result location bytes session)
    (put : session.files.writeText result text = .ok files) :
    Aside path result location bytes { session with files := files } := by
  have isTree := aside.isTree.writeText put
  obtain ⟨place, _, room, rfl⟩ := FileTree.of_writeText put
  obtain ⟨old, leads, free⟩ := FileTree.target_of_writable room
  have differ : place ≠ location := by
    rintro rfl
    exact aside.notResult old leads
  have vacant : session.files.get? place ≠ some .directory := FileTree.get?_of_target leads ▸ free
  refine ⟨isTree, FileTree.target_set_of_ne _ _ vacant aside.reached differ, aside.notLogged, ?_⟩
  intro node again
  cases again.symm.trans (FileTree.target_set leads free _)
  exact differ rfl

/-- A run leaves a file alone that is neither the log file nor in the place of the result. -/
theorem keptByActs_aside {path name folder source : Text} {location : Location}
    {bytes : List UInt8} (plain : '/' ∉ name) (nonempty : name ≠ [])
    (named : resultPath folder source = (Path.ofText folder).child name) :
    KeptByActs folder source
      (Aside path ((Path.ofText folder).child name).toText location bytes) := by
  constructor
  · intro session message aside
    exact ⟨aside.isTree, aside.reached, aside.notLogged, aside.notResult⟩
  · intro session status aside
    exact ⟨aside.isTree, aside.reached, aside.notLogged, aside.notResult⟩
  · intro session text files aside wrote
    exact aside_note aside wrote
  · intro session files aside made
    exact aside_prepare plain nonempty aside made
  · intro session text files aside put
    rw [named] at put
    exact aside_deliver aside put

/-! ## Files in the place of the result -/

/-- A run that arranges definitions puts the result in the place of a file that its path leads
to. -/
theorem target_arrangeInto {session : Session} {path name folder source : Text}
    {location : Location} {bytes : List UInt8} (isTree : session.files.IsTree) (plain : '/' ∉ name)
    (nonempty : name ≠ [])
    (named : resultPath folder source = (Path.ofText folder).child name)
    (free : session.files.get? (logLocation session.files) ≠ some .directory)
    (notLogged : logLocation session.files ≠ location)
    (reached : session.files.target path = .ok (location, some (.file bytes)))
    (same : session.files.target ((Path.ofText folder).child name).toText =
      .ok (location, some (.file bytes)))
    (declarations : Declarations) (round : Round) :
    (session.arrangeInto declarations round folder source).1.files.target path =
      .ok (location, some (.file (Text.Utf8.encode round.result))) := by
  obtain ⟨content, wrote⟩ := exists_appendText_logFile (entryOf round) free
  have below : logLocation session.files ≠ [] := by simp [logLocation]
  have noted := isTree.appendText wrote
  have leads := FileTree.target_set_of_ne _ (.file content) free same notLogged
  obtain ⟨directory, last, approached, -, -, -, -⟩ := noted.exists_of_target leads (by simp)
  obtain ⟨-, opened⟩ := noted.target_of_approach_child plain nonempty approached
  have made := FileTree.makeDirectory_of_target opened
  have put := FileTree.writeText_of_target leads (FileTree.isSlashed_child folder plain nonempty)
    round.result
  have replaced := FileTree.target_set
    (FileTree.target_set_of_ne _ (.file content) free reached notLogged) (by simp)
    (.file (Text.Utf8.encode round.result))
  have logged : ((session.files.set (logLocation session.files) (.file content)).set location
      (.file (Text.Utf8.encode round.result))).get? (logLocation session.files) ≠
        some .directory := by
    rw [FileTree.get?_set_of_ne _ _ _ _ (Ne.symm notLogged), FileTree.get?_set_self _ _ below]
    simp
  rw [entryOf] at wrote
  rw [arrangeInto, wrote, named]
  simp only [attempt, sayAll_eq, made, put]
  cases Definition.ofSource declarations round.result with
  | error error => exact replaced
  | ok arranged =>
      obtain ⟨more, listed⟩ := exists_appendText_logFile
        (listing "--- Functions in CPP After Sorting ---" arranged) logged
      dsimp only
      rw [listed]
      exact FileTree.target_set_of_ne _ _ logged replaced notLogged

/-! ## What is arranged -/

/-- Whether there are definitions to arrange in the files at two paths, and they are arranged in a
round. -/
def Arranges (files : FileTree) (header source : Text) (round : Round) : Prop :=
  ∃ headerText sourceText, readInputs files header source = .ok (headerText, sourceText) ∧
    Round.of (Declarations.ofHeader headerText) sourceText = .ok round ∧ round.definitions ≠ []

theorem arranges_unique {files : FileTree} {header source : Text} {round other : Round}
    (arranges : Arranges files header source round) (too : Arranges files header source other) :
    other = round := by
  obtain ⟨_, _, read, made, -⟩ := arranges
  obtain ⟨_, _, readToo, madeToo, -⟩ := too
  cases read.symm.trans readToo
  exact Except.ok.inj (madeToo.symm.trans made)

/-- A header or an implementation file that is empty leaves nothing to arrange. -/
theorem not_arranges_of_empty {files : FileTree} {header source : Text}
    (empty : files.readText header = .ok [] ∨ files.readText source = .ok []) (round : Round) :
    ¬ Arranges files header source round := by
  rintro ⟨headerText, sourceText, read, made, some⟩
  obtain ⟨readHeader, readSource⟩ := readInputs_eq_ok.1 read
  obtain ⟨same, again, found, declared⟩ := Round.exists_of_header headerText sourceText
  cases made.symm.trans again
  rcases empty with empty | empty
  · cases readHeader.symm.trans empty
    cases declared some
  · cases readSource.symm.trans empty
    exact some (Except.ok.inj found).symm

theorem files_finish (outcome : Session × Option Failure) :
    (finish outcome).files = outcome.1.files := by
  obtain ⟨session, failure⟩ := outcome
  cases failure <;> rfl

/-- A run leaves the files as they are, or goes on to arrange definitions. -/
theorem files_run_cases (session : Session) (header source folder : Text) :
    ((∀ round, ¬ Arranges session.files header source round) ∧
        (session.run header source folder).files = session.files) ∨
      ∃ declarations round, Arranges session.files header source round ∧
        (session.run header source folder).files =
          (session.arrangeInto declarations round folder source).1.files := by
  cases read : readInputs session.files header source with
  | error error =>
      left
      refine ⟨?_, files_run_of_unreadable read folder⟩
      rintro round ⟨_, _, readToo, -⟩
      cases read.symm.trans readToo
  | ok texts =>
      obtain ⟨headerText, sourceText⟩ := texts
      obtain ⟨round, made, found, -⟩ := Round.exists_of_header headerText sourceText
      by_cases none : round.definitions = []
      · left
        refine ⟨?_, files_run_of_unmatched read (none ▸ found) folder⟩
        rintro other ⟨_, _, readToo, madeToo, some⟩
        cases read.symm.trans readToo
        cases made.symm.trans madeToo
        exact some none
      · right
        refine ⟨Declarations.ofHeader headerText, round, ⟨_, _, read, made, none⟩, ?_⟩
        rw [run, files_finish, work, read]
        simp only [made, List.isEmpty_eq_false_iff.2 none, Bool.false_eq_true, if_false]

/-- A run overwrites a file other than the log file exactly if it puts a different result in its
place. -/
theorem readBytes_run_iff {session : Session} {path header source folder : Text}
    {location : Location} {bytes : List UInt8} (isTree : session.files.IsTree)
    (free : session.files.get? (logLocation session.files) ≠ some .directory)
    (unslashed : FileTree.isSlashed path = false)
    (reached : session.files.target path = .ok (location, some (.file bytes)))
    (notLogged : logLocation session.files ≠ location) :
    (session.run header source folder).files.readBytes path ≠ .ok bytes ↔
      ∃ round, Arranges session.files header source round ∧
        session.files.SamePlace path (resultPath folder source).toText ∧
        Text.Utf8.encode round.result ≠ bytes := by
  rcases files_run_cases session header source folder with
    ⟨nothing, unchanged⟩ | ⟨declarations, round, arranges, changed⟩
  · have kept : session.files.readBytes path = .ok bytes :=
      FileTree.readBytes_eq_ok.2 ⟨unslashed, location, reached⟩
    rw [unchanged]
    constructor
    · intro differs
      exact absurd kept differs
    · rintro ⟨round, arranges, -⟩
      exact absurd arranges (nothing round)
  · obtain ⟨_, _, read, -, -⟩ := id arranges
    obtain ⟨_, readSource⟩ := FileTree.exists_readBytes_of_readText (readInputs_eq_ok.1 read).2
    obtain ⟨name, isName, nonempty, plain, -, -⟩ := isTree.exists_name readSource
    have named : resultPath folder source = (Path.ofText folder).child name := by
      rw [resultPath, isName]
    rw [changed]
    by_cases same : session.files.SamePlace path (resultPath folder source).toText
    · obtain ⟨found, leads, result⟩ := id same
      cases reached.symm.trans leads
      rw [named] at result
      have replaced := target_arrangeInto isTree plain nonempty named free notLogged reached result
        declarations round
      rw [FileTree.readBytes_eq_ok.2 ⟨unslashed, location, replaced⟩]
      constructor
      · intro differs
        exact ⟨round, arranges, same, fun equal => differs (congrArg Except.ok equal)⟩
      · rintro ⟨other, too, -, differs⟩ equal
        cases arranges_unique arranges too
        exact differs (Except.ok.inj equal)
    · have notResult : ∀ node,
          session.files.target ((Path.ofText folder).child name).toText ≠ .ok (location, node) := by
        intro node leads
        have found := (FileTree.get?_of_target leads).symm.trans (FileTree.get?_of_target reached)
        rw [found, ← named] at leads
        exact same ⟨_, reached, leads⟩
      have kept := (keptByActs_aside plain nonempty named).arrangeInto
        ⟨isTree, reached, notLogged, notResult⟩ declarations round
      rw [FileTree.readBytes_eq_ok.2 ⟨unslashed, location, kept.reached⟩]
      simp [same]

/-! ## The button -/

theorem begins_iff {session : Session} :
    session.Begins ↔ session.headerPath ≠ [] ∧ session.sourcePath ≠ [] ∧
      session.files.get? (logLocation session.files) ≠ some .directory := by
  constructor
  · rintro ⟨header, source, emptied, wrote⟩
    obtain ⟨location, _, room, -⟩ := FileTree.of_writeText wrote
    obtain ⟨node, reached, free⟩ := FileTree.target_of_writable room
    cases (target_logFile session.files).symm.trans reached
    exact ⟨header, source, free⟩
  · rintro ⟨header, source, free⟩
    exact ⟨header, source, _, writeText_logFile free⟩

/-- The button processes the files, or leaves them and the output folder as they are if the
processing does not begin. -/
theorem step_process_cases (session : Session) :
    (session.Begins ∧ session.step .process =
        quiet (session.begun.run session.headerPath session.sourcePath session.outputFolder)) ∨
      (¬ session.Begins ∧ (session.step .process).session.files = session.files ∧
        (session.step .process).session.outputFolder = session.outputFolder) := by
  by_cases begins : session.Begins
  · obtain ⟨header, source, free⟩ := begins_iff.1 begins
    exact Or.inl ⟨begins, step_process header source free⟩
  · refine Or.inr ⟨begins, ?_⟩
    unfold step act process
    dsimp only
    split_ifs with noHeader noSource
    · exact ⟨rfl, rfl⟩
    · exact ⟨rfl, rfl⟩
    · rw [List.isEmpty_iff] at noHeader noSource
      cases emptied : session.files.writeText logFile [] with
      | error error => exact ⟨rfl, rfl⟩
      | ok files => exact absurd ⟨noHeader, noSource, files, emptied⟩ begins

theorem isTree_begun {session : Session} (isTree : session.files.IsTree) (begins : session.Begins) :
    session.begun.files.IsTree := by
  obtain ⟨-, -, free⟩ := begins_iff.1 begins
  exact isTree.writeText (writeText_logFile free)

/-- Whether the button overwrites a file with other bytes.  The file is the log file, which is
emptied; or definitions are arranged and the result, which is put in its place, differs from
it. -/
def Overwrites (session : Session) (path : Text) (bytes : List UInt8) : Prop :=
  session.Begins ∧
    ((session.files.SamePlace path logFile ∧ bytes ≠ []) ∨
      ∃ round, Arranges session.begun.files session.headerPath session.sourcePath round ∧
        session.files.SamePlace path (resultPath session.outputFolder session.sourcePath).toText ∧
        Text.Utf8.encode round.result ≠ bytes)

/-- The log file is empty when it is read as an input, so that nothing is arranged and it stays
empty. -/
theorem overwrites_iff_of_logged {session : Session} {path : Text} {bytes : List UInt8}
    (begins : session.Begins) (isInput : path = session.headerPath ∨ path = session.sourcePath)
    (unslashed : FileTree.isSlashed path = false)
    (reached : session.files.target path =
      .ok (logLocation session.files, some (.file bytes))) :
    (session.begun.run session.headerPath session.sourcePath session.outputFolder).files.readBytes
        path ≠ .ok bytes ↔ session.Overwrites path bytes := by
  have emptied : session.begun.files.readBytes path = .ok [] :=
    FileTree.readBytes_eq_ok.2 ⟨unslashed, _, FileTree.target_set reached (by simp) (.file [])⟩
  have blank : session.begun.files.readText path = .ok [] := by
    rw [FileTree.readText, emptied]
    rfl
  have nothing := not_arranges_of_empty
    (isInput.imp (fun same => same ▸ blank) (fun same => same ▸ blank))
  have logged : session.files.SamePlace path logFile := by
    refine ⟨_, reached, ?_⟩
    rw [target_logFile, FileTree.get?_of_target reached]
  have unchanged : (session.begun.run session.headerPath session.sourcePath
      session.outputFolder).files = session.begun.files := by
    rcases files_run_cases session.begun session.headerPath session.sourcePath
      session.outputFolder with ⟨-, unchanged⟩ | ⟨_, round, arranges, -⟩
    · exact unchanged
    · exact absurd arranges (nothing round)
  rw [unchanged, emptied, Overwrites]
  constructor
  · intro differs
    exact ⟨begins, Or.inl ⟨logged, fun none => differs (none ▸ rfl)⟩⟩
  · rintro ⟨-, ⟨-, some⟩ | ⟨round, arranges, -⟩⟩ equal
    · exact some (Except.ok.inj equal).symm
    · exact nothing round arranges

/-- Where the log file does not stand, paths lead to the same places before and after it is
emptied. -/
theorem overwrites_iff_of_not_logged {session : Session} {path : Text} {location : Location}
    {bytes : List UInt8} (isTree : session.files.IsTree) (begins : session.Begins)
    (unslashed : FileTree.isSlashed path = false)
    (reached : session.files.target path = .ok (location, some (.file bytes)))
    (notLogged : logLocation session.files ≠ location) :
    (session.begun.run session.headerPath session.sourcePath session.outputFolder).files.readBytes
        path ≠ .ok bytes ↔ session.Overwrites path bytes := by
  obtain ⟨-, -, free⟩ := begins_iff.1 begins
  have below : logLocation session.files ≠ [] := by simp [logLocation]
  have begunFree : session.begun.files.get? (logLocation session.files) ≠ some .directory := by
    simp [begun, setStatus, FileTree.get?_set_self _ _ below]
  have leads {other : Text} :
      session.begun.files.target other = .ok (location, some (.file bytes)) ↔
      session.files.target other = .ok (location, some (.file bytes)) :=
    FileTree.target_set_file_iff free [] notLogged
  have places {other : Text} :
      session.begun.files.SamePlace path other ↔ session.files.SamePlace path other := by
    constructor
    · rintro ⟨found, here, there⟩
      cases (leads.2 reached).symm.trans here
      exact ⟨_, reached, leads.1 there⟩
    · rintro ⟨found, here, there⟩
      cases reached.symm.trans here
      exact ⟨_, leads.2 reached, leads.2 there⟩
  have apart : ¬ session.files.SamePlace path logFile := by
    rintro ⟨found, here, there⟩
    cases reached.symm.trans here
    have same := Except.ok.inj ((target_logFile session.files).symm.trans there)
    exact notLogged (congrArg Prod.fst same)
  rw [readBytes_run_iff (isTree_begun isTree begins) begunFree unslashed (leads.2 reached)
    notLogged, Overwrites]
  simp only [places, apart, false_and, false_or, begins, true_and]

/-- What the button does to a file that it reads, in any session. -/
theorem readBytes_process_iff {session : Session} (isTree : session.files.IsTree) {path : Text}
    {bytes : List UInt8} (isInput : path = session.headerPath ∨ path = session.sourcePath)
    (read : session.files.readBytes path = .ok bytes) :
    (session.step .process).session.files.readBytes path ≠ .ok bytes ↔
      session.Overwrites path bytes := by
  rcases step_process_cases session with ⟨begins, ends⟩ | ⟨idle, unchanged, -⟩
  · obtain ⟨unslashed, location, reached⟩ := FileTree.readBytes_eq_ok.1 read
    rw [ends]
    by_cases logged : logLocation session.files = location
    · subst logged
      exact overwrites_iff_of_logged begins isInput unslashed reached
    · exact overwrites_iff_of_not_logged isTree begins unslashed reached logged
  · rw [unchanged]
    constructor
    · intro differs
      exact absurd read differs
    · intro overwrites
      exact absurd overwrites.1 idle

/-! ## Sessions by hand -/

theorem keptByActs_isTree (folder source : Text) :
    KeptByActs folder source fun session => session.files.IsTree := by
  constructor
  · intro session message isTree
    exact isTree
  · intro session status isTree
    exact isTree
  · intro session text files isTree wrote
    exact isTree.appendText wrote
  · intro session files isTree made
    exact isTree.makeDirectory made
  · intro session text files isTree put
    exact isTree.writeText put

theorem keptByActs_outputFolder (folder source chosen : Text) :
    KeptByActs folder source fun session => session.outputFolder = chosen := by
  constructor <;> intros <;> assumption

theorem isTree_step {session : Session} {action : Action} (manual : action.isManual = true)
    (isTree : session.files.IsTree) : (session.step action).session.files.IsTree := by
  cases action with
  | browseHeader answer =>
      unfold step act
      dsimp only
      split_ifs
      · exact isTree
      · rw [session_chooseHeader]
        split <;> exact isTree
  | browseSource answer =>
      unfold step act
      dsimp only
      split_ifs <;> exact isTree
  | edit field text => cases field <;> exact isTree
  | process =>
      rcases step_process_cases session with ⟨begins, ends⟩ | ⟨-, unchanged, -⟩
      · rw [ends]
        exact (keptByActs_isTree _ _).run (isTree_begun isTree begins) _
      · rw [unchanged]
        exact isTree
  | run | say | note | interfere => cases manual

/-- Only the choice of a header sets the output folder. -/
theorem outputFolder_step (session : Session) {action : Action} (manual : action.isManual = true) :
    (session.step action).session.outputFolder = session.outputFolder ∨
      ∃ header, action = .browseHeader header ∧
        (session.step action).session.outputFolder = folderBeside header := by
  cases action with
  | browseHeader answer =>
      unfold step act
      dsimp only
      split_ifs
      · exact Or.inl rfl
      · rw [session_chooseHeader]
        split
        · exact Or.inl rfl
        · exact Or.inr ⟨answer, rfl, rfl⟩
        · exact Or.inr ⟨answer, rfl, rfl⟩
  | browseSource answer =>
      left
      unfold step act
      dsimp only
      split_ifs <;> rfl
  | edit field text =>
      left
      cases field with
      | headerPath | sourcePath => rfl
      | outputFolder => simp [Action.isManual] at manual
  | process =>
      left
      rcases step_process_cases session with ⟨-, ends⟩ | ⟨-, -, unchanged⟩
      · rw [ends]
        have first : session.begun.outputFolder = session.outputFolder := rfl
        exact (keptByActs_outputFolder _ _ session.outputFolder).run first _
      · exact unchanged
  | run | say | note | interfere => cases manual

/-- What holds in every session by hand that began with a tree: the files are a tree, and the output
folder is not set yet or is beside a header that was chosen. -/
theorem after_manual {files : FileTree} (isTree : files.IsTree) {actions : List Action}
    (manual : ∀ action ∈ actions, action.isManual = true) :
    ((new files).after actions).files.IsTree ∧
      (((new files).after actions).outputFolder = [] ∨
        ∃ header, .browseHeader header ∈ actions ∧
          ((new files).after actions).outputFolder = folderBeside header) := by
  apply after_induction (motive := fun session => session.files.IsTree ∧
    (session.outputFolder = [] ∨
      ∃ header, .browseHeader header ∈ actions ∧ session.outputFolder = folderBeside header))
  · exact ⟨isTree, Or.inl rfl⟩
  · intro action member session kept
    obtain ⟨isTree, folder⟩ := kept
    refine ⟨isTree_step (manual action member) isTree, ?_⟩
    rcases outputFolder_step session (manual action member) with
      same | ⟨header, rfl, set⟩
    · rw [same]
      exact folder
    · exact Or.inr ⟨header, member, set⟩

/-- In a session by hand, the button overwrites a file that it reads with other bytes in two cases
only.  The file is the log file; or it stands where the result is written, in the output folder,
which is not set before a header is chosen in the dialog and is then beside that header. -/
theorem process_changes_input_iff {files : FileTree} (isTree : files.IsTree) {actions : List Action}
    (manual : ∀ action ∈ actions, action.isManual = true) {session : Session}
    (after : session = (new files).after actions) {path : Text} {bytes : List UInt8}
    (isInput : path = session.headerPath ∨ path = session.sourcePath)
    (read : session.files.readBytes path = .ok bytes) :
    ((session.step .process).session.files.readBytes path ≠ .ok bytes ↔
        session.Overwrites path bytes) ∧
      (session.outputFolder = [] ∨
        ∃ header, .browseHeader header ∈ actions ∧ session.outputFolder = folderBeside header) := by
  subst after
  obtain ⟨isTree, folder⟩ := after_manual isTree manual
  exact ⟨readBytes_process_iff isTree isInput read, folder⟩

def swappedBytes : List UInt8 :=
  Text.Utf8.encode "void g() \x7b\n\x7d\nvoid f() \x7b\n\x7d".toList

/-- A session in which the paths of the swapped files were typed. -/
def typedSession : Session :=
  (new CommandLine.swappedFiles).after
    [.edit .headerPath "a.h".toList, .edit .sourcePath "a.cpp".toList]

/-- A session in which the header of the swapped files was chosen in the dialog. -/
def browsedSession : Session :=
  (new CommandLine.swappedFiles).after [.browseHeader "a.h".toList]

/-- The implementation file is overwritten if its path was typed, and kept if its header was
chosen. -/
theorem process_changes_input_typed :
    (typedSession.sourcePath = "a.cpp".toList ∧
        typedSession.files.readBytes "a.cpp".toList = .ok swappedBytes ∧
        (typedSession.step .process).session.files.readBytes "a.cpp".toList =
          .ok (Text.Utf8.encode CommandLine.swappedResult) ∧
        typedSession.Overwrites "a.cpp".toList swappedBytes) ∧
      browsedSession.sourcePath = "a.cpp".toList ∧
        browsedSession.files.readBytes "a.cpp".toList = .ok swappedBytes ∧
        ¬ browsedSession.Overwrites "a.cpp".toList swappedBytes := by
  have isTree : CommandLine.swappedFiles.IsTree := by decide +kernel
  have typed : typedSession.files.readBytes "a.cpp".toList = .ok swappedBytes := by decide +kernel
  have browsed : browsedSession.files.readBytes "a.cpp".toList = .ok swappedBytes := by
    decide +kernel
  have overwritten : (typedSession.step .process).session.files.readBytes "a.cpp".toList =
      .ok (Text.Utf8.encode CommandLine.swappedResult) := by decide +kernel
  have kept : (browsedSession.step .process).session.files.readBytes "a.cpp".toList =
      .ok swappedBytes := by decide +kernel
  have given : typedSession.sourcePath = "a.cpp".toList := by decide +kernel
  have found : browsedSession.sourcePath = "a.cpp".toList := by decide +kernel
  have differs : Text.Utf8.encode CommandLine.swappedResult ≠ swappedBytes := by decide +kernel
  refine ⟨⟨given, typed, overwritten, ?_⟩, found, browsed, ?_⟩
  · apply (process_changes_input_iff isTree (by decide) rfl (Or.inr given.symm) typed).1.1
    intro same
    exact differs (Except.ok.inj (overwritten.symm.trans same))
  · intro overwrites
    exact (process_changes_input_iff isTree (by decide) rfl (Or.inr found.symm) browsed).1.2
      overwrites kept

end Session

end HeaderOrder.Window
