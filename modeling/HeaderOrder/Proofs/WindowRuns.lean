import HeaderOrder.Proofs.Commands
import HeaderOrder.Proofs.Paths
import HeaderOrder.Window.Session

/-!
# The window beside the command line

The window arranges the same two files as the command line, but it writes the result into a
folder, under the name of the implementation file, and it keeps a log file.  It first notes the
definitions in the log file, then makes the folder, writes the result, finds the definitions again
and notes them a second time.

Of these five acts only the first three can fail.  The definitions of any text can be found by the
declarations of a header, and the log file can be written a second time because neither the folder
nor the result comes to stand in its place.  So where the command line writes a text, the window
writes the same text or reports which of the three acts failed.
-/

namespace HeaderOrder

namespace Window.Session

open HeaderOrder.Job HeaderOrder.CommandLine

/-! ## The log area -/

theorem sayAll_eq (session : Session) (messages : List Text) :
    session.sayAll messages =
      { session with log := session.log ++ messages.flatMap (· ++ ['\n']) } := by
  induction messages generalizing session with
  | nil => simp [sayAll]
  | cons message rest ih =>
      have first : session.sayAll (message :: rest) = (session.say message).sayAll rest := rfl
      rw [first, ih]
      simp [say]

/-- Whether a session has gone on to write into its log area, with this message last. -/
def Reports (session after : Session) (message : Text) : Prop :=
  ∃ earlier, after.log = session.log ++ earlier ++ message ++ ['\n']

/-! ## The log file -/

/-- Where the log file stands. -/
def logLocation (files : FileTree) : Location :=
  files.workingDirectory ++ [logFile]

theorem approach_logFile (files : FileTree) :
    files.approach logFile = .ok (files.workingDirectory, logFile) := by
  have parts : FileTree.pathParts logFile = [logFile] := by decide
  have start : files.startOf logFile = files.workingDirectory := rfl
  have null : '\x00' ∉ logFile := by decide
  have nonempty : logFile ≠ [] := by decide
  have short : FileTree.fits FileTree.longestPath logFile = true := by decide
  simp [FileTree.approach, parts, start, null, nonempty, short, FileTree.walk]

theorem target_logFile (files : FileTree) :
    files.target logFile = .ok (logLocation files, files.get? (logLocation files)) := by
  have short : FileTree.fits FileTree.longestName logFile = true := by decide
  rw [FileTree.target, approach_logFile]
  simp only [FileTree.look, short, if_true]
  rfl

/-- The log file can be written, unless a directory stands in its place. -/
theorem exists_writable_logFile {files : FileTree}
    (free : files.get? (logLocation files) ≠ some .directory) :
    ∃ bytes, files.writable logFile = .ok (logLocation files, bytes) := by
  have short : FileTree.fits FileTree.longestName logFile = true := by decide
  have unslashed : FileTree.isSlashed logFile = false := by decide
  have place : FileTree.enter files.workingDirectory logFile = logLocation files := rfl
  simp only [FileTree.writable, approach_logFile, unslashed, Bool.false_eq_true, if_false,
    FileTree.look, short, if_true, place]
  cases found : files.get? (logLocation files) with
  | none => exact ⟨_, rfl⟩
  | some node =>
      cases node with
      | directory => exact absurd found free
      | file bytes => exact ⟨_, rfl⟩

theorem exists_appendText_logFile {files : FileTree} (text : Text)
    (free : files.get? (logLocation files) ≠ some .directory) :
    ∃ bytes, files.appendText logFile text = .ok (files.set (logLocation files) (.file bytes)) := by
  obtain ⟨bytes, room⟩ := exists_writable_logFile free
  exact ⟨_, by rw [FileTree.appendText, room]⟩

theorem of_appendText_logFile {files noted : FileTree} {text : Text}
    (wrote : files.appendText logFile text = .ok noted) :
    ∃ bytes, noted = files.set (logLocation files) (.file bytes) ∧
      files.get? (logLocation files) ≠ some .directory := by
  obtain ⟨location, bytes, room, same⟩ := FileTree.of_appendText wrote
  obtain ⟨node, reached, free⟩ := FileTree.target_of_writable room
  cases (target_logFile files).symm.trans reached
  exact ⟨_, same, free⟩

/-! ## The result -/

/-- What keeps a session from putting a text into a folder, after an entry in the log file. -/
inductive Obstacle (files : FileTree) (entry folder result text : Text) (error : FileError) : Prop
  /-- The log file cannot be written. -/
  | unloggable (failed : files.appendText logFile entry = .error error)
  /-- The folder cannot be made. -/
  | noFolder (noted : FileTree) (wrote : files.appendText logFile entry = .ok noted)
      (failed : noted.makeDirectory folder = .error error)
  /-- The result cannot be written. -/
  | unwritable (noted prepared : FileTree) (wrote : files.appendText logFile entry = .ok noted)
      (made : noted.makeDirectory folder = .ok prepared)
      (failed : prepared.writeText result text = .error error)

/-- The entry of the log file about the definitions of a round. -/
def entryOf (round : Round) : Text :=
  listing "--- Functions in CPP Before Sorting ---" round.definitions

/-- After the result was written the log file can be written again, and the result stays in its
file. -/
theorem exists_appendText_after {files noted prepared written : FileTree}
    {entry folder result text name : Text} (wrote : files.appendText logFile entry = .ok noted)
    (made : noted.makeDirectory folder = .ok prepared)
    (put : prepared.writeText result text = .ok written)
    (last : (FileTree.pathParts result).getLast? = some name) (noDot : name ≠ ['.'])
    (noDots : name ≠ ['.', '.']) (other : name ≠ logFile) (later : Text) :
    ∃ ended, written.appendText logFile later = .ok ended ∧
      ended.readBytes result = .ok (Text.Utf8.encode text) := by
  obtain ⟨bytes, rfl, -⟩ := of_appendText_logFile wrote
  have logged : prepared.get? (logLocation prepared) = some (.file bytes) := by
    have below : logLocation files ≠ [] := by simp [logLocation]
    have here := FileTree.get?_set_self files (.file bytes) below
    rcases FileTree.of_makeDirectory made with rfl | ⟨fresh, none, rfl⟩
    · exact here
    · have differ : fresh ≠ logLocation files := by
        rintro rfl
        cases here.symm.trans none
      exact (FileTree.get?_set_of_ne _ _ _ _ differ).trans here
  obtain ⟨location, old, room, rfl⟩ := FileTree.of_writeText put
  have apart : location ≠ logLocation prepared := by
    intro same
    have named := FileTree.getLast?_of_writable room last noDot noDots
    rw [same, logLocation, List.getLast?_concat] at named
    exact other (Option.some.inj named).symm
  have free : (prepared.set location (.file (Text.Utf8.encode text))).get? (logLocation prepared) ≠
      some .directory := by
    rw [FileTree.get?_set_of_ne _ _ _ _ apart, logged]
    simp
  obtain ⟨more, appended⟩ := exists_appendText_logFile later free
  obtain ⟨_, _, _, unslashed, _⟩ := FileTree.of_writable room
  have stays := FileTree.target_set_of_ne _ (.file more) free (FileTree.target_set_self room _)
    (Ne.symm apart)
  exact ⟨_, appended, FileTree.readBytes_of_target stays unslashed⟩

/-! ## Runs with definitions -/

/-- Whether a session has put a text into a file and said so. -/
structure Delivers (session after : Session) (result text : Text) : Prop where
  written : after.files.readBytes result = .ok (Text.Utf8.encode text)
  reported : session.Reports after (success result)

/-- Whether a session has met an obstacle on the way to its result and said so. -/
def Hindered (session after : Session) (folder result text : Text) : Prop :=
  ∃ entry error, Obstacle session.files entry folder result text error ∧
    session.Reports after (processingError error.message)

theorem reports_finish {session stopped : Session} {failure : Failure}
    (continued : session.log <+: stopped.log) :
    session.Reports (finish (stopped, some failure)) (processingError failure.message) := by
  obtain ⟨earlier, same⟩ := continued
  exact ⟨earlier, by rw [same]; rfl⟩

theorem hindered_of_obstacle {session : Session} (declarations : Declarations) {round : Round}
    {folder source : Text} {error : FileError}
    (obstacle : Obstacle session.files (entryOf round) (Path.ofText folder).toText
      (resultPath folder source).toText round.result error) :
    session.Hindered (finish (session.arrangeInto declarations round folder source))
      (Path.ofText folder).toText (resultPath folder source).toText round.result := by
  refine ⟨_, error, obstacle, ?_⟩
  cases obstacle with
  | unloggable failed =>
      rw [entryOf] at failed
      rw [arrangeInto, failed]
      exact reports_finish List.prefix_rfl
  | noFolder noted wrote failed =>
      rw [entryOf] at wrote
      rw [arrangeInto, wrote]
      simp only [attempt, sayAll_eq, failed]
      exact reports_finish (List.prefix_append ..)
  | unwritable noted prepared wrote made failed =>
      rw [entryOf] at wrote
      rw [arrangeInto, wrote]
      simp only [attempt, sayAll_eq, made, failed]
      exact reports_finish (List.prefix_append ..)

/-- A file with the extension of an implementation file is neither a directory nor the log file by
its name. -/
theorem ne_of_hasExtension {name : Text} (extension : hasExtension [".cpp", ".cc"] name = true) :
    name ≠ [] ∧ name ≠ ['.'] ∧ name ≠ ['.', '.'] ∧ name ≠ logFile := by
  refine ⟨?_, ?_, ?_, ?_⟩
  all_goals
    rintro rfl
    cases extension

/-- A session that arranges definitions puts the result into the folder or meets an obstacle. -/
theorem finish_arrangeInto (session : Session) (headerText : Text) (round : Round) (folder : Text)
    {source name : Text} (last : (source.splitOn '/').getLast? = some name) (plain : '/' ∉ name)
    (extension : hasExtension [".cpp", ".cc"] name = true) :
    session.Delivers
        (finish (session.arrangeInto (Declarations.ofHeader headerText) round folder source))
        ((Path.ofText folder).child name).toText round.result ∨
      session.Hindered
        (finish (session.arrangeInto (Declarations.ofHeader headerText) round folder source))
        (Path.ofText folder).toText ((Path.ofText folder).child name).toText round.result := by
  obtain ⟨nonempty, noDot, noDots, other⟩ := ne_of_hasExtension extension
  have path : resultPath folder source = (Path.ofText folder).child name := by
    rw [resultPath, Path.name?_ofText last nonempty noDot]
  rw [← path]
  cases wrote : session.files.appendText logFile (entryOf round) with
  | error error => exact Or.inr (hindered_of_obstacle _ (.unloggable wrote))
  | ok noted =>
      cases made : noted.makeDirectory (Path.ofText folder).toText with
      | error error => exact Or.inr (hindered_of_obstacle _ (.noFolder noted wrote made))
      | ok prepared =>
          cases put : prepared.writeText (resultPath folder source).toText round.result with
          | error error =>
              exact Or.inr (hindered_of_obstacle _ (.unwritable noted prepared wrote made put))
          | ok written =>
              left
              obtain ⟨again, _, found, _⟩ := Round.exists_of_header headerText round.result
              have named := FileTree.getLast?_pathParts_child folder plain nonempty
              rw [← path] at named
              obtain ⟨ended, noted', stands⟩ := exists_appendText_after wrote made put named noDot
                noDots other (listing "--- Functions in CPP After Sorting ---" again.definitions)
              rw [entryOf] at wrote
              have done :
                  session.arrangeInto (Declarations.ofHeader headerText) round folder source =
                  (({ session.sayAll round.report with files := ended }.say
                    (success (resultPath folder source).toText)).setStatus .ready, none) := by
                rw [arrangeInto, wrote]
                simp only [attempt, sayAll_eq, made, put, found, noted']
              rw [done, sayAll_eq]
              exact ⟨stands, _, rfl⟩

/-! ## Runs that write nothing -/

theorem files_run_of_unreadable {session : Session} {header source : Text} {error : FileError}
    (failed : readInputs session.files header source = .error error) (folder : Text) :
    (session.run header source folder).files = session.files := by
  rw [run, work, failed]
  rfl

theorem files_run_of_unmatched {session : Session} {header source headerText sourceText : Text}
    (read : readInputs session.files header source = .ok (headerText, sourceText))
    (none : Definition.ofSource (Declarations.ofHeader headerText) sourceText = .ok [])
    (folder : Text) : (session.run header source folder).files = session.files := by
  obtain ⟨round, made, found, -⟩ := Round.exists_of_header headerText sourceText
  have empty : round.definitions = [] := Except.ok.inj (found.symm.trans none)
  rw [run, work, read]
  simp only [made, empty, List.isEmpty_nil, if_true]
  rfl

end Window.Session

namespace CommandLine

open HeaderOrder.Job

/-! ## Both kinds of runs -/

/-- Whether a run reported that it found no definitions. -/
def Outcome.FoundNothing (outcome : Outcome) : Prop :=
  outcome.exitCode = 0 ∧ ∃ declarations,
    outcome.printed = declarationWarning declarations ++ printedLine noDefinitions

/-- Whether a run reported that it could not read its files. -/
def Outcome.CouldNotRead (outcome : Outcome) : Prop :=
  outcome.exitCode = 1 ∧ ∃ message, outcome.printed = printedLine (readingError ++ message)

theorem exists_of_foundNothing {files : FileTree} {header source : Text} {output : Option Text}
    {protection : Protection}
    (reported : (execute files ⟨header, some source, output, false⟩ protection).FoundNothing) :
    ∃ headerText sourceText, readInputs files header source = .ok (headerText, sourceText) ∧
      Definition.ofSource (Declarations.ofHeader headerText) sourceText = .ok [] := by
  obtain ⟨succeeded, declarations, printed⟩ := reported
  cases progress files header (some source) with
  | refused outcome failed unchanged other ends =>
      rw [ends, failed] at succeeded
      cases succeeded
  | unreadable path error given failed ends =>
      rw [ends] at succeeded
      cases succeeded
  | unmatched path headerText sourceText given read none ends =>
      cases given
      exact ⟨headerText, sourceText, read, none⟩
  | arranged path headerText sourceText round given _ extension read made found some ends =>
      rw [ends] at succeeded printed
      cases write : files.writeTextUnder protection (outputPath output path) round.result with
      | error error => simp [handOver, write, Outcome.of] at succeeded
      | ok written =>
          simp only [handOver, write, Outcome.of, Bool.false_eq_true, if_false] at printed
          exact absurd printed.symm (printed_unmatched_ne declarations _)

theorem exists_of_couldNotRead {files : FileTree} {header source : Text} {output : Option Text}
    {protection : Protection}
    (reported : (execute files ⟨header, some source, output, false⟩ protection).CouldNotRead) :
    ∃ error, readInputs files header source = .error error := by
  obtain ⟨failing, message, printed⟩ := reported
  cases progress files header (some source) with
  | refused outcome failed unchanged other ends =>
      rw [ends] at printed
      exact absurd printed (other message)
  | unreadable path error given failed ends =>
      cases given
      exact ⟨error, failed⟩
  | unmatched path headerText sourceText given read none ends =>
      rw [ends] at failing
      cases failing
  | arranged path headerText sourceText round given _ extension read made found some ends =>
      rw [ends] at failing printed
      cases write : files.writeTextUnder protection (outputPath output path) round.result with
      | error error =>
          simp only [handOver, write, Outcome.of, Bool.false_eq_true, if_false] at printed
          exact absurd printed (printedLine_append_ne (by decide +kernel) error.message message)
      | ok written => simp [handOver, write, Outcome.of] at failing

/-- The part of a path after its last slash has the extension of the path. -/
theorem hasExtension_lastPart {path name : Text}
    (cut : path = name ∨ ∃ front, path = front ++ '/' :: name)
    (extension : hasExtension [".cpp", ".cc"] path = true) :
    hasExtension [".cpp", ".cc"] name = true := by
  have plain : ∀ ending ∈ [".cpp", ".cc"], '/' ∉ ending.toList := by decide
  obtain ⟨ending, member, ends⟩ := List.any_eq_true.1 extension
  refine List.any_eq_true.2 ⟨ending, member, ?_⟩
  rw [List.isSuffixOf_iff_suffix] at ends ⊢
  exact suffix_lastPart cut ends (plain ending member)

/-- The window and the command line give the same text.  What a run of the command line writes to
its output path, the window writes into its folder, to the file with the name of the
implementation file; or it reports the obstacle that it met, which is the log file, the folder or
that file.  Where the command line finds no definitions or cannot read its files, the window
leaves all files as they are. -/
theorem window_run_agrees (session : Window.Session) (folder : Text) {arguments : List Text}
    {header source output : Text}
    (asked : parseArguments arguments = .ok (.other ⟨header, some source, some output, false⟩)) :
    (∀ text, (run session.files arguments).Wrote session.files output text →
      ∃ name, (source.splitOn '/').getLast? = some name ∧
        (session.Delivers (session.run header source folder)
            ((Path.ofText folder).child name).toText text ∨
          session.Hindered (session.run header source folder) (Path.ofText folder).toText
            ((Path.ofText folder).child name).toText text)) ∧
      ((run session.files arguments).FoundNothing ∨ (run session.files arguments).CouldNotRead →
        (session.run header source folder).files = session.files) := by
  rw [run_eq_execute asked]
  constructor
  · intro text wrote
    obtain ⟨_, headerText, sourceText, round, given, extension, read, made, some, -, rfl, -⟩ :=
      exists_of_wrote wrote
    cases given
    obtain ⟨name, last, plain, cut⟩ := exists_lastPart source
    have worked : session.run header source folder = Window.Session.finish
        (session.arrangeInto (Declarations.ofHeader headerText) round folder source) := by
      rw [Window.Session.run, Window.Session.work, read]
      simp only [made, List.isEmpty_iff, some, if_false]
    rw [worked]
    exact ⟨name, last, session.finish_arrangeInto headerText round folder last plain
      (hasExtension_lastPart cut extension)⟩
  · rintro (reported | reported)
    · obtain ⟨_, _, read, none⟩ := exists_of_foundNothing reported
      exact Window.Session.files_run_of_unmatched read none folder
    · obtain ⟨_, failed⟩ := exists_of_couldNotRead reported
      exact Window.Session.files_run_of_unreadable failed folder

/-- A new window over a directory with a header, its implementation file and a file that is no
text. -/
def swappedSession : Window.Session :=
  Window.Session.new (swappedFiles.place ["u.cc".toList] (.file [255]))

/-- A folder that is not there yet takes the result, and a file that is no text leaves everything
as it was. -/
theorem window_run_agrees_swapped :
    (run swappedSession.files ["a.h".toList, "a.cpp".toList, "-ob.cpp".toList]).Wrote
        swappedSession.files "b.cpp".toList swappedResult ∧
      (∃ name, ("a.cpp".toList.splitOn '/').getLast? = some name ∧
        (swappedSession.Delivers (swappedSession.run "a.h".toList "a.cpp".toList "out/".toList)
            ((Path.ofText "out/".toList).child name).toText swappedResult ∨
          swappedSession.Hindered (swappedSession.run "a.h".toList "a.cpp".toList "out/".toList)
            (Path.ofText "out/".toList).toText ((Path.ofText "out/".toList).child name).toText
            swappedResult)) ∧
      (swappedSession.run "a.h".toList "a.cpp".toList "out/".toList).files.readBytes
        "out/a.cpp".toList = .ok (Text.Utf8.encode swappedResult) ∧
      (run swappedSession.files ["a.h".toList, "u.cc".toList, "-ob.cpp".toList]).CouldNotRead ∧
      (swappedSession.run "a.h".toList "u.cc".toList "out/".toList).files =
        swappedSession.files := by
  have asked : parseArguments ["a.h".toList, "a.cpp".toList, "-ob.cpp".toList] =
      .ok (.other ⟨"a.h".toList, some "a.cpp".toList, some "b.cpp".toList, false⟩) := by
    decide +kernel
  have askedOther : parseArguments ["a.h".toList, "u.cc".toList, "-ob.cpp".toList] =
      .ok (.other ⟨"a.h".toList, some "u.cc".toList, some "b.cpp".toList, false⟩) := by
    decide +kernel
  have wrote : (run swappedSession.files ["a.h".toList, "a.cpp".toList, "-ob.cpp".toList]).Wrote
      swappedSession.files "b.cpp".toList swappedResult :=
    ⟨by decide +kernel, by decide +kernel, by decide +kernel⟩
  have unread :
      (run swappedSession.files ["a.h".toList, "u.cc".toList, "-ob.cpp".toList]).CouldNotRead :=
    ⟨by decide +kernel,
      "'utf-8' codec can't decode byte 0xff in position 0: invalid start byte".toList,
      by decide +kernel⟩
  exact ⟨wrote, (window_run_agrees swappedSession "out/".toList asked).1 swappedResult wrote,
    by decide +kernel, unread,
    (window_run_agrees swappedSession "out/".toList askedOther).2 (Or.inr unread)⟩

end CommandLine

end HeaderOrder
