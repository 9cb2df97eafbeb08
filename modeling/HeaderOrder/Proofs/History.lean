import HeaderOrder.Proofs.Sessions

/-!
# Processing without a past

To process files, a session first empties its log area and its log file.  From there on nothing is
left of what was logged before: two sessions with the same paths, over the same files but for
their log files, go through the same acts and end alike.

Two trees are alike if the same stands at each location.  They need not be equal, for a tree
remembers the order in which its nodes were first put, and a log file that was there before is an
older node than one that is made now.  Nothing that is done with a tree by a path depends on that
order.
-/

namespace HeaderOrder

/-! ## Trees that are alike -/

namespace FileTree

/-- Whether the same stands at each location of two trees, and relative paths start at the same
one. -/
structure Alike (one other : FileTree) : Prop where
  start : one.workingDirectory = other.workingDirectory
  nodes : ∀ location, one.get? location = other.get? location

/-- Whether two changes of trees fail with the same error or give trees that are alike. -/
inductive Alike.Changes : Except FileError FileTree → Except FileError FileTree → Prop
  | error (error : FileError) : Changes (.error error) (.error error)
  | ok {one other : FileTree} (alike : one.Alike other) : Changes (.ok one) (.ok other)

namespace Alike

variable {one other : FileTree}

theorem set (alike : one.Alike other) (location : Location) (node : Node) :
    (one.set location node).Alike (other.set location node) := by
  constructor
  · exact alike.start
  · intro query
    by_cases same : location = query
    · subst same
      cases location with
      | nil => rfl
      | cons name rest => rw [get?_set_self _ _ (by simp), get?_set_self _ _ (by simp)]
    · rw [get?_set_of_ne _ _ _ _ same, get?_set_of_ne _ _ _ _ same]
      exact alike.nodes query

theorem look (alike : one.Alike other) (path : Text) (here : Location) (part : Text) :
    one.look path here part = other.look path here part := by
  unfold FileTree.look
  rw [alike.nodes]

theorem walk (alike : one.Alike other) (path : Text) (here : Location) (parts : List Text) :
    one.walk path here parts = other.walk path here parts := by
  induction parts generalizing here with
  | nil => rfl
  | cons part rest ih => simp only [FileTree.walk, alike.look, ih]

theorem approach (alike : one.Alike other) (path : Text) :
    one.approach path = other.approach path := by
  unfold FileTree.approach startOf
  rw [alike.start, alike.walk]

theorem target (alike : one.Alike other) (path : Text) : one.target path = other.target path := by
  simp only [FileTree.target, alike.approach, alike.look]

theorem readBytes (alike : one.Alike other) (path : Text) :
    one.readBytes path = other.readBytes path := by
  simp only [FileTree.readBytes, alike.target]

theorem readText (alike : one.Alike other) (path : Text) :
    one.readText path = other.readText path := by
  simp only [FileTree.readText, alike.readBytes]

theorem readInputs (alike : one.Alike other) (header source : Text) :
    Job.readInputs one header source = Job.readInputs other header source := by
  simp only [Job.readInputs, alike.readText]

theorem writable (alike : one.Alike other) (path : Text) :
    one.writable path = other.writable path := by
  simp only [FileTree.writable, alike.approach, alike.look]

theorem writeText (alike : one.Alike other) (path text : Text) :
    Changes (one.writeText path text) (other.writeText path text) := by
  unfold FileTree.writeText
  rw [alike.writable]
  cases other.writable path with
  | error error => exact .error error
  | ok place => exact .ok (alike.set place.1 _)

theorem appendText (alike : one.Alike other) (path text : Text) :
    Changes (one.appendText path text) (other.appendText path text) := by
  unfold FileTree.appendText
  rw [alike.writable]
  cases other.writable path with
  | error error => exact .error error
  | ok place => exact .ok (alike.set place.1 _)

theorem makeDirectory (alike : one.Alike other) (path : Text) :
    Changes (one.makeDirectory path) (other.makeDirectory path) := by
  unfold FileTree.makeDirectory
  rw [alike.target]
  cases other.target path with
  | error error => exact .error error
  | ok found =>
      obtain ⟨location, node⟩ := found
      cases node with
      | none => exact .ok (alike.set location .directory)
      | some node =>
          cases node with
          | directory => exact .ok alike
          | file bytes => exact .error _

end Alike

end FileTree

/-! ## Sessions that are alike -/

namespace Window.Session

/-- Whether two sessions differ at most in the order of the nodes of their trees. -/
structure Alike (one other : Session) : Prop where
  shown : other = { one with files := other.files }
  files : one.files.Alike other.files

/-- Whether work in two sessions ends alike and with the same failure, if any. -/
structure Alike.Outcomes (one other : Session × Option Failure) : Prop where
  sessions : one.1.Alike other.1
  failures : one.2 = other.2

namespace Alike

variable {one other : Session}

theorem withFiles (alike : one.Alike other) {files filesToo : FileTree}
    (same : files.Alike filesToo) :
    ({ one with files := files }).Alike { other with files := filesToo } := by
  constructor
  · rw [alike.shown]
  · exact same

theorem say (alike : one.Alike other) (message : Text) :
    (one.say message).Alike (other.say message) := by
  constructor
  · rw [alike.shown]
    rfl
  · exact alike.files

theorem sayAll (alike : one.Alike other) (messages : List Text) :
    (one.sayAll messages).Alike (other.sayAll messages) := by
  induction messages generalizing one other with
  | nil => exact alike
  | cons message rest ih => exact ih (alike.say message)

theorem setStatus (alike : one.Alike other) (status : Status) :
    (one.setStatus status).Alike (other.setStatus status) := by
  constructor
  · rw [alike.shown]
    rfl
  · exact alike.files

theorem attempt (alike : one.Alike other) {change changeToo : Except FileError FileTree}
    (changes : FileTree.Alike.Changes change changeToo)
    {next : Session → Session × Option Failure}
    (goes : ∀ {one other : Session}, one.Alike other → Outcomes (next one) (next other)) :
    Outcomes (one.attempt change next) (other.attempt changeToo next) := by
  cases changes with
  | error error => exact ⟨alike, rfl⟩
  | ok same => exact goes (alike.withFiles same)

theorem arrangeInto (alike : one.Alike other) (declarations : Declarations) (round : Round)
    (folder source : Text) :
    Outcomes (one.arrangeInto declarations round folder source)
      (other.arrangeInto declarations round folder source) := by
  unfold Session.arrangeInto
  apply alike.attempt (alike.files.appendText ..)
  intro one other alike
  have told := alike.sayAll round.report
  apply told.attempt (told.files.makeDirectory _)
  intro one other alike
  apply alike.attempt (alike.files.writeText ..)
  intro one other alike
  cases Definition.ofSource declarations round.result with
  | error error => exact ⟨alike, rfl⟩
  | ok arranged =>
      apply alike.attempt (alike.files.appendText ..)
      intro one other alike
      exact ⟨(alike.say _).setStatus .ready, rfl⟩

theorem work (alike : one.Alike other) (header source folder : Text) :
    Outcomes (one.work header source folder) (other.work header source folder) := by
  unfold Session.work
  rw [alike.files.readInputs]
  cases Job.readInputs other.files header source with
  | error error => exact ⟨alike, rfl⟩
  | ok texts =>
      obtain ⟨headerText, sourceText⟩ := texts
      dsimp only
      cases Round.of (Declarations.ofHeader headerText) sourceText with
      | error error => exact ⟨alike, rfl⟩
      | ok round =>
          dsimp only
          split
          · exact ⟨(alike.say _).setStatus .ready, rfl⟩
          · exact alike.arrangeInto ..

theorem run (alike : one.Alike other) (header source folder : Text) :
    (one.run header source folder).Alike (other.run header source folder) := by
  have ends := alike.work header source folder
  unfold Session.run
  cases outcome : one.work header source folder with
  | mk ended failure =>
      cases outcomeToo : other.work header source folder with
      | mk endedToo failureToo =>
          rw [outcome, outcomeToo] at ends
          obtain ⟨sessions, rfl⟩ := ends
          cases failure with
          | none => exact sessions
          | some failure => exact (sessions.say _).setStatus .ready

end Alike

/-! ## The beginning -/

/-- The log file is emptied in its place, whatever it held, unless a directory stands there. -/
theorem writeText_logFile {files : FileTree}
    (free : files.get? (logLocation files) ≠ some .directory) :
    files.writeText logFile [] = .ok (files.set (logLocation files) (.file [])) := by
  obtain ⟨bytes, room⟩ := exists_writable_logFile free
  rw [FileTree.writeText, room]
  rfl

/-- A session in which the processing of files has begun. -/
def begun (session : Session) : Session :=
  { session with
    statuses := []
    log := []
    files := session.files.set (logLocation session.files) (.file []) }.setStatus .processing

theorem step_process {session : Session} (header : session.headerPath ≠ [])
    (source : session.sourcePath ≠ [])
    (free : session.files.get? (logLocation session.files) ≠ some .directory) :
    session.step .process =
      quiet (session.begun.run session.headerPath session.sourcePath session.outputFolder) := by
  rw [← List.isEmpty_eq_false_iff] at header source
  simp only [step, act, process, header, source, writeText_logFile free, Bool.false_eq_true,
    if_false]
  rfl

/-- Trees that differ only in their log files are alike once these are emptied. -/
theorem alike_emptied {one other : FileTree} (start : one.workingDirectory = other.workingDirectory)
    (elsewhere : ∀ location, location ≠ logLocation one → one.get? location = other.get? location) :
    (one.set (logLocation one) (.file [])).Alike (other.set (logLocation other) (.file [])) := by
  have place : logLocation other = logLocation one := by rw [logLocation, ← start, logLocation]
  have below : logLocation one ≠ [] := by simp [logLocation]
  rw [place]
  constructor
  · exact start
  · intro location
    by_cases same : location = logLocation one
    · rw [same, FileTree.get?_set_self one _ below, FileTree.get?_set_self other _ below]
    · rw [FileTree.get?_set_of_ne _ _ _ _ (Ne.symm same),
        FileTree.get?_set_of_ne _ _ _ _ (Ne.symm same)]
      exact elsewhere location same

/-- Processing does not depend on what happened before.  Two sessions with the same paths, over
the same files but for their log files, which may hold anything or be missing, process the files
in the same way: the log area, the log file, the status, the files and what is reported are the
same after it. -/
theorem process_forgets_history {one other : Session} (header : one.headerPath = other.headerPath)
    (source : one.sourcePath = other.sourcePath) (folder : one.outputFolder = other.outputFolder)
    (headerGiven : one.headerPath ≠ []) (sourceGiven : one.sourcePath ≠ [])
    (start : one.files.workingDirectory = other.files.workingDirectory)
    (elsewhere : ∀ location, location ≠ logLocation one.files →
      one.files.get? location = other.files.get? location)
    (free : one.files.get? (logLocation one.files) ≠ some .directory)
    (freeToo : other.files.get? (logLocation other.files) ≠ some .directory) :
    (one.step .process).session.log = (other.step .process).session.log ∧
      (one.step .process).session.files.readBytes logFile =
        (other.step .process).session.files.readBytes logFile ∧
      (one.step .process).session.status = (other.step .process).session.status ∧
      (one.step .process).session.files.Alike (other.step .process).session.files ∧
      (one.step .process).statuses = (other.step .process).statuses ∧
      (one.step .process).dialogs = (other.step .process).dialogs ∧
      (one.step .process).failure = (other.step .process).failure := by
  have begin : one.begun.Alike other.begun := by
    constructor
    · unfold begun setStatus
      rw [header, source, folder]
    · exact alike_emptied start elsewhere
  have ends := begin.run one.headerPath one.sourcePath one.outputFolder
  rw [step_process headerGiven sourceGiven free,
    step_process (header ▸ headerGiven) (source ▸ sourceGiven) freeToo, ← header, ← source,
    ← folder]
  generalize one.begun.run one.headerPath one.sourcePath one.outputFolder = ended at ends
  generalize other.begun.run one.headerPath one.sourcePath one.outputFolder = endedToo at ends
  dsimp only [quiet, Step.statuses]
  refine ⟨?_, ends.files.readBytes logFile, ?_, ends.files, ?_, rfl, rfl⟩
  all_goals rw [ends.shown]

/-- A window whose result will take the place of its log file, which is not there yet. -/
def unloggedSession : Session :=
  { new (CommandLine.swappedFiles.place ["d".toList, logFile]
      (.file (Text.Utf8.encode "void g() \x7b\n\x7d\nvoid f() \x7b\n\x7d".toList))) with
    headerPath := "a.h".toList
    sourcePath := "d/log.txt".toList }

/-- The same window after something was logged. -/
def loggedSession : Session :=
  { unloggedSession with
    log := "old\n".toList
    files := unloggedSession.files.set (logLocation unloggedSession.files)
      (.file (Text.Utf8.encode "old".toList)) }

/-- Nothing of an old log is left even where the result is written over the log file. -/
theorem process_forgets_history_logged :
    (loggedSession.step .process).session.log = (unloggedSession.step .process).session.log ∧
      (loggedSession.step .process).session.files.readBytes logFile =
        (unloggedSession.step .process).session.files.readBytes logFile ∧
      (unloggedSession.step .process).session.files.readBytes logFile =
        .ok (Text.Utf8.encode (CommandLine.swappedResult ++
          "--- Functions in CPP After Sorting ---\nf() (Line: 0)\ng() (Line: 3)\n".toList)) := by
  have elsewhere : ∀ location, location ≠ logLocation loggedSession.files →
      loggedSession.files.get? location = unloggedSession.files.get? location := by
    unfold loggedSession
    generalize unloggedSession = session
    intro location differ
    exact FileTree.get?_set_of_ne _ _ _ _ (Ne.symm differ)
  have forgets := @process_forgets_history loggedSession unloggedSession rfl rfl rfl (by decide)
    (by decide) rfl elsewhere (by decide +kernel) (by decide +kernel)
  exact ⟨forgets.1, forgets.2.1, by decide +kernel⟩

end Window.Session

end HeaderOrder
