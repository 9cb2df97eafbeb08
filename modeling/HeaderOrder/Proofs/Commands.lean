import HeaderOrder.CommandLine.Run
import HeaderOrder.Proofs.Arguments
import HeaderOrder.Proofs.Files
import HeaderOrder.Proofs.Rounds

/-!
# How far a command comes

A command is checked, its files are read, the definitions are found, and the arranged text is
printed or written.  `progress` says once at which of these stages a command can end and how it
ends there.  Only the last stage looks at the output path and at whether the command is a dry run,
and by then all that can still fail is to write the file.

So a dry run and the run itself part only there: what the run writes is what the dry run prints, and
where the run fails earlier the dry run fails in the same way.
-/

namespace HeaderOrder

/-! ## Rounds by the declarations of a header -/

/-- A file can be arranged by a header, and a header without declarations finds no definitions. -/
theorem Round.exists_of_header (header source : Text) :
    ∃ round, Round.of (Declarations.ofHeader header) source = .ok round ∧
      Definition.ofSource (Declarations.ofHeader header) source = .ok round.definitions ∧
      (round.definitions ≠ [] → (Declarations.ofHeader header).isEmpty = false) := by
  obtain ⟨layout, cut⟩ := Layout.exists_of_source header source
  obtain ⟨report, round⟩ := Round.of_layout layout cut
  refine ⟨_, round, layout.ofSource_eq cut, ?_⟩
  intro some
  obtain ⟨definition, member⟩ := List.exists_mem_of_ne_nil _ some
  have declared := Layout.signature_mem_keys_definitionsFrom 0 layout.stretches definition member
  rw [Catalog.isEmpty, List.isEmpty_eq_false_iff]
  intro none
  rw [Catalog.keys, none] at declared
  cases declared

theorem FileTree.writeText_inj {tree written : FileTree} {path left right : Text}
    (wroteLeft : tree.writeText path left = .ok written)
    (wroteRight : tree.writeText path right = .ok written) : left = right := by
  obtain ⟨location, _, room, rfl⟩ := of_writeText wroteLeft
  obtain ⟨location', _, room', same⟩ := of_writeText wroteRight
  cases room.symm.trans room'
  have nodes := congrArg (FileTree.get? · location) same
  simp only [get?_set_self tree _ (ne_nil_of_writable room), Option.some.injEq,
    Node.file.injEq] at nodes
  have decoded := congrArg Text.Utf8.decode nodes
  rw [Text.Utf8.decode_encode, Text.Utf8.decode_encode] at decoded
  exact Except.ok.inj decoded

namespace CommandLine

open HeaderOrder.Job

/-! ## Messages that differ at their start -/

theorem printedLine_append_ne {left right : Text} (differ : ¬ left <+: right ∧ ¬ right <+: left)
    (leftRest rightRest : Text) :
    printedLine (left ++ leftRest) ≠ printedLine (right ++ rightRest) := by
  intro same
  have begins : left <+: printedLine (left ++ leftRest) := by simp [printedLine]
  have begins' : right <+: printedLine (left ++ leftRest) := by
    rw [same]
    simp [printedLine]
  exact (List.prefix_or_prefix_of_prefix begins begins').elim differ.1 differ.2

/-- The start of the message about a file that cannot be read. -/
def readingError : Text := "Error reading files: ".toList

/-- The start of the message about a file that was written. -/
def successStart : Text := "Successfully reordered functions in ".toList

def noDeclarations : Text := "Warning: No function declarations found in header file".toList

/-- A run without definitions does not report a file. -/
theorem printed_unmatched_ne (declarations : Declarations) (path : Text) :
    declarationWarning declarations ++ printedLine noDefinitions ≠ printedLine (success path) := by
  cases empty : declarations.isEmpty with
  | true =>
      have warned : declarationWarning declarations = printedLine noDeclarations := by
        rw [declarationWarning, empty]
        rfl
      have differ : ¬ noDeclarations <+: successStart ∧ ¬ successStart <+: noDeclarations := by
        decide +kernel
      have other := printedLine_append_ne differ ('\n' :: noDefinitions) path
      rw [printedLine, List.append_assoc] at other
      rw [warned, printedLine, printedLine, List.append_assoc]
      exact other
  | false =>
      have warned : declarationWarning declarations = [] := by
        rw [declarationWarning, empty]
        rfl
      have differ : ¬ noDefinitions <+: successStart ∧ ¬ successStart <+: noDefinitions := by
        decide +kernel
      have other := printedLine_append_ne differ [] path
      rw [List.append_nil] at other
      rw [warned]
      exact other

/-! ## Stages of a command -/

/-- Print or write a round that found definitions. -/
def handOver (files : FileTree) (round : Round) (dryRun : Bool) (path : Text)
    (protection : Protection) : Outcome :=
  if dryRun then
    .of files 0 (printedLine round.result)
  else
    match files.writeTextUnder protection path round.result with
    | .error error => .of files 1 (printedLine (processingError error.message))
    | .ok written => .of written 0 (printedLine (success path))

/-- How far a command with these paths comes, whatever its output and whether it is a dry run, and
whatever is protected. -/
inductive Progress (files : FileTree) (header : Text) (implementation : Option Text) : Prop
  /-- A path is missing, has the wrong extension, or is that of no file. -/
  | refused (outcome : Outcome) (failed : outcome.exitCode = 1) (unchanged : outcome.files = files)
      (other : ∀ message, outcome.printed ≠ printedLine (readingError ++ message))
      (ends : ∀ output dryRun protection,
        execute files ⟨header, implementation, output, dryRun⟩ protection = outcome)
  /-- A file cannot be read. -/
  | unreadable (source : Text) (error : FileError) (given : implementation = some source)
      (failed : readInputs files header source = .error error)
      (ends : ∀ output dryRun protection,
        execute files ⟨header, implementation, output, dryRun⟩ protection =
          .failed files (readingError ++ error.message))
  /-- No definition belongs to a declaration. -/
  | unmatched (source headerText sourceText : Text) (given : implementation = some source)
      (read : readInputs files header source = .ok (headerText, sourceText))
      (none : Definition.ofSource (Declarations.ofHeader headerText) sourceText = .ok [])
      (ends : ∀ output dryRun protection,
        execute files ⟨header, implementation, output, dryRun⟩ protection =
          .of files 0
            (declarationWarning (Declarations.ofHeader headerText) ++ printedLine noDefinitions))
  /-- The definitions are arranged. -/
  | arranged (source headerText sourceText : Text) (round : Round)
      (given : implementation = some source)
      (headerExtension : hasExtension [".h", ".hpp"] header = true)
      (extension : hasExtension [".cpp", ".cc"] source = true)
      (read : readInputs files header source = .ok (headerText, sourceText))
      (made : Round.of (Declarations.ofHeader headerText) sourceText = .ok round)
      (found : Definition.ofSource (Declarations.ofHeader headerText) sourceText =
        .ok round.definitions)
      (some : round.definitions ≠ [])
      (ends : ∀ output dryRun protection,
        execute files ⟨header, implementation, output, dryRun⟩ protection =
          handOver files round dryRun (outputPath output source) protection)

/-- A run that fails with a message of another kind is none that could not read its files. -/
theorem Progress.of_failed {files : FileTree} {header : Text} {implementation : Option Text}
    (start : String) (differ : ¬ start.toList <+: readingError ∧ ¬ readingError <+: start.toList)
    (path : Text) (ends : ∀ output dryRun protection,
      execute files ⟨header, implementation, output, dryRun⟩ protection =
        .failed files (start.toList ++ path)) : Progress files header implementation :=
  .refused (.failed files (start.toList ++ path)) rfl rfl
    (fun message => printedLine_append_ne differ path message) ends

theorem deliver_of_round {files : FileTree} {declarations : Declarations} {source : Text}
    {round : Round} (made : Round.of declarations source = .ok round)
    (some : round.definitions ≠ []) (declared : declarations.isEmpty = false) (dryRun : Bool)
    (path : Text) (protection : Protection) :
    deliver files declarations source dryRun path protection =
      handOver files round dryRun path protection := by
  have silent : declarationWarning declarations = [] := by simp [declarationWarning, declared]
  cases dryRun with
  | true => simp [deliver, handOver, made, some, silent]
  | false =>
      cases write : files.writeTextUnder protection path round.result with
      | error error => simp [deliver, handOver, made, some, silent, write]
      | ok written => simp [deliver, handOver, made, some, silent, write]

/-- The stages of a command whose paths are those of files. -/
theorem progress_of_files {files : FileTree} {header source : Text}
    (headerExtension : hasExtension [".h", ".hpp"] header = true)
    (extension : hasExtension [".cpp", ".cc"] source = true)
    (ends : ∀ output dryRun protection,
      execute files ⟨header, some source, output, dryRun⟩ protection =
        match readInputs files header source with
        | .error error => .failed files (readingError ++ error.message)
        | .ok (headerText, sourceText) =>
            deliver files (Declarations.ofHeader headerText) sourceText dryRun
              (outputPath output source) protection) :
    Progress files header (some source) := by
  cases read : readInputs files header source with
  | error error =>
      rw [read] at ends
      exact .unreadable source error rfl read ends
  | ok texts =>
      obtain ⟨headerText, sourceText⟩ := texts
      rw [read] at ends
      obtain ⟨round, made, found, declared⟩ := Round.exists_of_header headerText sourceText
      by_cases none : round.definitions = []
      · refine .unmatched source headerText sourceText rfl read (none ▸ found) ?_
        intro output dryRun protection
        rw [ends output dryRun protection]
        simp only [deliver, made, none, List.isEmpty_nil, if_true]
      · refine .arranged source headerText sourceText round rfl headerExtension extension read
          made found none ?_
        intro output dryRun protection
        rw [ends output dryRun protection]
        exact deliver_of_round made none (declared none) dryRun _ protection

/-- The stages at which a command can end. -/
theorem progress (files : FileTree) (header : Text) (implementation : Option Text) :
    Progress files header implementation := by
  cases headerExtension : hasExtension [".h", ".hpp"] header with
  | false =>
      apply Progress.of_failed "Error: Header file should have .h or .hpp extension: "
        (by decide +kernel) header
      intro output dryRun protection
      simp only [execute, headerExtension, Bool.not_false, if_true]
  | true =>
      cases implementation with
      | none =>
          refine .refused (.broken files .noPath) rfl rfl ?_ ?_
          · intro message
            simp [Outcome.broken, printedLine]
          · intro output dryRun protection
            simp only [execute, headerExtension, Bool.not_true, Bool.false_eq_true, if_false]
      | some source =>
          have checked : ∀ output dryRun protection,
              execute files ⟨header, some source, output, dryRun⟩ protection =
                executeFor files header source output dryRun protection := by
            intro output dryRun protection
            simp only [execute, headerExtension, Bool.not_true, Bool.false_eq_true, if_false]
          cases extension : hasExtension [".cpp", ".cc"] source with
          | false =>
              apply Progress.of_failed
                "Error: Implementation file should have .cpp or .cc extension: "
                (by decide +kernel) source
              intro output dryRun protection
              rw [checked, executeFor, extension]
              rfl
          | true =>
              cases isHeader : files.isFile header with
              | false =>
                  apply Progress.of_failed "Error: Header file not found: " (by decide +kernel)
                    header
                  intro output dryRun protection
                  rw [checked, executeFor, extension, isHeader]
                  rfl
              | true =>
                  cases isSource : files.isFile source with
                  | false =>
                      apply Progress.of_failed "Error: Implementation file not found: "
                        (by decide +kernel) source
                      intro output dryRun protection
                      rw [checked, executeFor, extension, isHeader, isSource]
                      rfl
                  | true =>
                      apply progress_of_files headerExtension extension
                      intro output dryRun protection
                      rw [checked, executeFor, extension, isHeader, isSource]
                      rfl

/-! ## Runs that write -/

theorem run_eq_execute {arguments : List Text} {command : Command}
    (asked : parseArguments arguments = .ok (.other command)) (files : FileTree)
    (protection : Protection) :
    run files arguments protection = execute files command protection := by
  cases arguments with
  | nil =>
      have refused : parseArguments [] =
          .error (.missingWords ["header".toList, "implementation".toList]) := rfl
      rw [refused] at asked
      cases asked
  | cons word rest =>
      rw [run, runArguments, asked]
      rfl

/-- Whether a run wrote a text to a path and said so. -/
structure Outcome.Wrote (outcome : Outcome) (files : FileTree) (path text : Text) : Prop where
  succeeded : outcome.exitCode = 0
  reported : outcome.printed = printedLine (success path)
  written : files.writeText path text = .ok outcome.files

theorem success_inj {left right : Text}
    (same : printedLine (success left) = printedLine (success right)) : left = right :=
  List.append_cancel_left (List.append_cancel_right same)

theorem wrote_handOver_iff {files : FileTree} {round : Round} {path other text : Text}
    {protection : Protection} :
    (handOver files round false path protection).Wrote files other text ↔
      other = path ∧ text = round.result ∧
        ∃ written, files.writeTextUnder protection path text = .ok written := by
  cases write : files.writeTextUnder protection path round.result with
  | error error =>
      have failed : handOver files round false path protection =
          .of files 1 (printedLine (processingError error.message)) := by
        simp [handOver, write]
      rw [failed]
      constructor
      · rintro ⟨succeeded, -, -⟩
        cases succeeded
      · rintro ⟨-, rfl, written, wrote⟩
        cases write.symm.trans wrote
  | ok written =>
      have succeeded : handOver files round false path protection =
          .of written 0 (printedLine (success path)) := by
        simp [handOver, write]
      rw [succeeded]
      constructor
      · rintro ⟨-, reported, wrote⟩
        obtain rfl := success_inj reported
        obtain rfl := FileTree.writeText_inj wrote (FileTree.writeText_of_writeTextUnder write)
        exact ⟨rfl, rfl, written, write⟩
      · rintro ⟨rfl, rfl, -⟩
        exact ⟨rfl, rfl, FileTree.writeText_of_writeTextUnder write⟩

/-- A run that wrote a text has arranged the definitions that it found, and a dry run of the same
command prints that text. -/
theorem exists_of_wrote {files : FileTree} {header : Text} {implementation output : Option Text}
    {path text : Text} {protection : Protection}
    (wrote : (execute files ⟨header, implementation, output, false⟩ protection).Wrote files path
      text) :
    ∃ source headerText sourceText round, implementation = some source ∧
      hasExtension [".cpp", ".cc"] source = true ∧
      readInputs files header source = .ok (headerText, sourceText) ∧
      Round.of (Declarations.ofHeader headerText) sourceText = .ok round ∧
      round.definitions ≠ [] ∧ path = outputPath output source ∧ text = round.result ∧
      execute files ⟨header, implementation, output, true⟩ protection =
        .of files 0 (printedLine text) := by
  cases progress files header implementation with
  | refused outcome failed unchanged other ends =>
      have succeeded := wrote.succeeded
      rw [ends, failed] at succeeded
      cases succeeded
  | unreadable source error given failed ends =>
      have succeeded := wrote.succeeded
      rw [ends] at succeeded
      cases succeeded
  | unmatched source headerText sourceText given read none ends =>
      have reported := wrote.reported
      rw [ends] at reported
      exact absurd reported (printed_unmatched_ne _ path)
  | arranged source headerText sourceText round given _ extension read made found some ends =>
      rw [ends] at wrote
      obtain ⟨same, rfl, -⟩ := wrote_handOver_iff.1 wrote
      exact ⟨source, headerText, sourceText, round, given, extension, read, made, some, same, rfl,
        ends output true protection⟩

/-! ## Dry runs -/

/-- What a dry run tells about the run of the same command under the same protection. -/
structure Foretells (files : FileTree) (protection : Protection) (command : Command)
    (real dry : Outcome) : Prop where
  written : ∀ path text, real.Wrote files path text →
    dry.exitCode = 0 ∧ dry.printed = printedLine text
  idle : real.exitCode = 0 → (∀ path text, ¬ real.Wrote files path text) →
    dry.exitCode = 0 ∧ dry.printed = real.printed
  failed : real.exitCode = 1 → dry = real ∨
    dry.exitCode = 0 ∧ ∃ source text error, command.implementation = some source ∧
      files.writeTextUnder protection (outputPath command.output source) text = .error error ∧
      dry.printed = printedLine text ∧
      real.printed = printedLine (processingError error.message)

theorem foretells_execute (files : FileTree) (protection : Protection) (header : Text)
    (implementation output : Option Text) :
    Foretells files protection ⟨header, implementation, output, false⟩
      (execute files ⟨header, implementation, output, false⟩ protection)
      (execute files ⟨header, implementation, output, true⟩ protection) where
  written path text wrote := by
    obtain ⟨_, _, _, _, _, _, _, _, _, _, _, dry⟩ := exists_of_wrote wrote
    rw [dry]
    exact ⟨rfl, rfl⟩
  idle succeeded silent := by
    cases progress files header implementation with
    | refused outcome failed unchanged other ends =>
        rw [ends] at succeeded ⊢
        exact ⟨succeeded, by rw [ends]⟩
    | unreadable source error given failed ends =>
        rw [ends] at succeeded
        cases succeeded
    | unmatched source headerText sourceText given read none ends =>
        rw [ends, ends]
        exact ⟨rfl, rfl⟩
    | arranged source headerText sourceText round given _ extension read made found some ends =>
        rw [ends] at succeeded
        -- To succeed is to write, which did not happen.
        cases write : files.writeTextUnder protection (outputPath output source) round.result with
        | error error =>
            simp [handOver, write, Outcome.of] at succeeded
        | ok written =>
            refine absurd ?_ (silent (outputPath output source) round.result)
            rw [ends]
            exact wrote_handOver_iff.2 ⟨rfl, rfl, written, write⟩
  failed failing := by
    cases progress files header implementation with
    | refused outcome failed unchanged other ends => exact Or.inl (by rw [ends, ends])
    | unreadable source error given failed ends => exact Or.inl (by rw [ends, ends])
    | unmatched source headerText sourceText given read none ends =>
        exact Or.inl (by rw [ends, ends])
    | arranged source headerText sourceText round given _ extension read made found some ends =>
        right
        rw [ends] at failing
        rw [ends, ends]
        refine ⟨rfl, source, round.result, ?_⟩
        cases write : files.writeTextUnder protection (outputPath output source) round.result with
        | error error => exact ⟨error, given, rfl, rfl, by simp [handOver, write, Outcome.of]⟩
        | ok written => simp [handOver, write, Outcome.of] at failing

/-- A dry run foretells the run of the same command.  What the run writes the dry run prints;
where the run writes nothing and succeeds, the dry run says the same; and where the run fails, the
dry run fails in the same way, unless nothing but the writing failed.  Putting the option for a
dry run in front of any arguments asks for the same command as a dry run. -/
theorem dry_run_foretells (files : FileTree) (protection : Protection) {arguments : List Text}
    {command : Command} (asked : parseArguments arguments = .ok (.other command))
    (writes : command.dryRun = false) :
    parseArguments (dryRunOption :: arguments) = .ok (.other { command with dryRun := true }) ∧
      ∀ dryArguments, parseArguments dryArguments = .ok (.other { command with dryRun := true }) →
        Foretells files protection command (run files arguments protection)
          (run files dryArguments protection) := by
  refine ⟨parseArguments_dry asked, ?_⟩
  intro dryArguments askedDry
  rw [run_eq_execute asked, run_eq_execute askedDry]
  obtain ⟨header, implementation, output, dryRun⟩ := command
  subst writes
  exact foretells_execute files protection header implementation output

/-- A directory with a header, and with a file that defines its functions in the other order. -/
def swappedFiles : FileTree :=
  (((FileTree.bare ["w".toList]).place ["a.h".toList]
    (.file (Text.Utf8.encode "void f();\nvoid g();".toList))).place ["a.cpp".toList]
      (.file (Text.Utf8.encode "void g() \x7b\n\x7d\nvoid f() \x7b\n\x7d".toList))).place
        ["d".toList] .directory

/-- That file in the order of the header. -/
def swappedResult : Text := "void f() \x7b\n\x7d\n\nvoid g() \x7b\n\x7d".toList

/-- A dry run of a command that writes a file, and one of a command whose output is a directory. -/
theorem dry_run_foretells_swapped :
    ((run swappedFiles
          ["a.h".toList, "--dry-run".toList, "a.cpp".toList, "-ob.cpp".toList]).exitCode = 0 ∧
      (run swappedFiles
          ["a.h".toList, "--dry-run".toList, "a.cpp".toList, "-ob.cpp".toList]).printed =
        printedLine swappedResult) ∧
    (run swappedFiles ["a.h".toList, "a.cpp".toList, "-od".toList]).exitCode = 1 ∧
      (run swappedFiles ["a.h".toList, "a.cpp".toList, "--dry-run".toList, "-od".toList]).exitCode =
        0 := by
  have asked : parseArguments ["a.h".toList, "a.cpp".toList, "-ob.cpp".toList] =
      .ok (.other ⟨"a.h".toList, some "a.cpp".toList, some "b.cpp".toList, false⟩) := by
    decide +kernel
  have askedDry : parseArguments
      ["a.h".toList, "--dry-run".toList, "a.cpp".toList, "-ob.cpp".toList] =
      .ok (.other ⟨"a.h".toList, some "a.cpp".toList, some "b.cpp".toList, true⟩) := by
    decide +kernel
  have wrote : (run swappedFiles ["a.h".toList, "a.cpp".toList, "-ob.cpp".toList]).Wrote
      swappedFiles "b.cpp".toList swappedResult :=
    ⟨by decide +kernel, by decide +kernel, by decide +kernel⟩
  have foretells := (dry_run_foretells swappedFiles .none asked rfl).2 _ askedDry
  exact ⟨foretells.written _ _ wrote, by decide +kernel, by decide +kernel⟩

end CommandLine

end HeaderOrder
