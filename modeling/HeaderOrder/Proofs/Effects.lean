import HeaderOrder.Proofs.Commands

/-!
# What a run does to the files

The only act of a run that touches the files is to write the arranged text to one path.  A run
that fails has not come so far, or has failed in this act and left everything as it was: the path
leads to no place for a file, or the place is protected.  A run that succeeds changes at most what
stands where that path leads, and nothing that is protected.

The path is the last value given to the output option, unless that value is empty or `--`, which
both stand for no value: an earlier value is then not taken up again, and the implementation file
is written.
-/

namespace HeaderOrder

theorem Job.readInputs_eq_ok {files : FileTree} {header implementation headerText source : Text} :
    readInputs files header implementation = .ok (headerText, source) ↔
      files.readText header = .ok headerText ∧ files.readText implementation = .ok source := by
  cases readHeader : files.readText header with
  | error error => simp [readInputs, readHeader, bind, Except.bind]
  | ok first =>
      cases readSource : files.readText implementation with
      | error error => simp [readInputs, readHeader, readSource, bind, Except.bind]
      | ok second =>
          simp [readInputs, readHeader, readSource, bind, Except.bind, pure, Except.pure]

namespace CommandLine

open HeaderOrder.Job

/-! ## The path that is written -/

/-- The path that a run writes, by the values given to the output option: the last of them, or the
implementation file if there is none or the last one is empty or `--`. -/
def destination (values : List Text) (implementation : Text) : Text :=
  match values.getLast? with
  | none => implementation
  | some value => if value = [] ∨ value = separator then implementation else value

theorem outputPath_eq_destination (values : List Text) (implementation : Text) :
    outputPath (values.foldl (fun _ value => Given.keptValue value) none) implementation =
      destination values implementation := by
  rcases List.eq_nil_or_concat values with rfl | ⟨earlier, value, rfl⟩
  · rfl
  · rw [List.concat_eq_append, List.foldl_append, List.foldl_cons, List.foldl_nil, destination,
      List.getLast?_concat, Given.keptValue]
    by_cases dropped : value = separator
    · simp [dropped, outputPath]
    · cases value with
      | nil => simp [dropped, outputPath]
      | cons first rest => simp [dropped, outputPath]

/-! ## Commands and the files -/

/-- A command leaves the files as they are, or it is no dry run, finds definitions, succeeds, and
writes the arranged text. -/
theorem execute_files_cases (files : FileTree) (command : Command) (protection : Protection) :
    (execute files command protection).files = files ∨
      ∃ (source headerText sourceText : Text) (round : Round), command.dryRun = false ∧
        command.implementation = some source ∧
        hasExtension [".h", ".hpp"] command.header = true ∧
        hasExtension [".cpp", ".cc"] source = true ∧
        readInputs files command.header source = .ok (headerText, sourceText) ∧
        Definition.ofSource (Declarations.ofHeader headerText) sourceText = .ok round.definitions ∧
        round.definitions ≠ [] ∧ (execute files command protection).exitCode = 0 ∧
        files.writeTextUnder protection (outputPath command.output source) round.result =
          .ok (execute files command protection).files := by
  obtain ⟨header, implementation, output, dryRun⟩ := command
  cases progress files header implementation with
  | refused outcome failed unchanged other ends => exact Or.inl (by rw [ends, unchanged])
  | unreadable source error given failed ends =>
      left
      rw [ends]
      rfl
  | unmatched source headerText sourceText given read none ends =>
      left
      rw [ends]
      rfl
  | arranged source headerText sourceText round given headerExtension extension read made found some
      ends =>
      rw [ends]
      cases dryRun with
      | true => exact Or.inl rfl
      | false =>
          cases write : files.writeTextUnder protection (outputPath output source)
              round.result with
          | error error => exact Or.inl (by simp [handOver, write, Outcome.of])
          | ok written =>
              right
              refine ⟨source, headerText, sourceText, round, rfl, given, headerExtension, extension,
                read, found, some, ?_, ?_⟩
              · simp [handOver, write, Outcome.of]
              · simp [handOver, write, Outcome.of]

/-- A word in the form of an option is the path of no file. -/
theorem hasExtension_option :
    ∀ word ∈ ["-h".toList, "--help".toList, "--dry-run".toList],
      hasExtension [".h", ".hpp"] word = false ∧ hasExtension [".cpp", ".cc"] word = false := by
  decide +kernel

/-- What a run with these arguments leaves of the files. -/
structure Spares (files : FileTree) (protection : Protection) (arguments : List Text)
    (outcome : Outcome) : Prop where
  failed : outcome.exitCode ≠ 0 → outcome.files = files
  succeeded : outcome.exitCode = 0 → outcome.files = files ∨
    ∃ words command implementation location node,
      Word.classifyAll (splitAtSeparator arguments).1 = .ok words ∧
      parseArguments arguments = .ok (.other command) ∧
      command.implementation = some implementation ∧
      files.target (destination (outputValues words) implementation) = .ok (location, node) ∧
      node ≠ some .directory ∧
      ∀ other, other ≠ location → outcome.files.get? other = files.get? other
  guarded : ∀ location, files.mayWrite protection location = false →
    outcome.files.get? location = files.get? location
  help : "-h".toList ∈ arguments ∨ "--help".toList ∈ arguments ∨
    parseArguments arguments = .ok .help → outcome.files = files
  dryRun : "--dry-run".toList ∈ arguments ∨
    (∃ command, parseArguments arguments = .ok (.other command) ∧ command.dryRun = true) →
      outcome.files = files
  unmatched : ∀ command implementation header source,
    parseArguments arguments = .ok (.other command) →
    command.implementation = some implementation →
    files.readText command.header = .ok header → files.readText implementation = .ok source →
    Definition.ofSource (Declarations.ofHeader header) source = .ok [] → outcome.files = files

theorem Spares.of_unchanged {files : FileTree} {outcome : Outcome} (protection : Protection)
    (arguments : List Text) (unchanged : outcome.files = files) :
    Spares files protection arguments outcome where
  failed _ := unchanged
  succeeded _ := Or.inl unchanged
  guarded _ _ := by rw [unchanged]
  help _ := unchanged
  dryRun _ := unchanged
  unmatched _ _ _ _ _ _ _ _ _ := unchanged

/-- Arguments that make a command with paths of files hold no word that calls for help, and the
word for a dry run only in a dry run. -/
theorem option_notMem {arguments : List Text} {command : Command} {source : Text}
    (asked : parseArguments arguments = .ok (.other command))
    (given : command.implementation = some source)
    (headerExtension : hasExtension [".h", ".hpp"] command.header = true)
    (extension : hasExtension [".cpp", ".cc"] source = true) :
    "-h".toList ∉ arguments ∧ "--help".toList ∉ arguments ∧
      ("--dry-run".toList ∈ arguments → command.dryRun = true) := by
  obtain ⟨words, classified, noHelp, dryRun, -, rest⟩ := means_of_parseArguments asked
  -- A word of this kind cannot be a path, so it was classified as the option that it is.
  have isOption : ∀ word ∈ ["-h".toList, "--help".toList, "--dry-run".toList], word ∈ arguments →
      ∃ meaning ∈ words, Word.classify word = .ok meaning := by
    intro word listed member
    have other : word ≠ separator := by
      rintro rfl
      revert listed
      decide
    obtain ⟨noHeader, noSource⟩ := hasExtension_option word listed
    rcases classified_or_path classified rest member other with found | isHeader | isSource
    · exact found
    · rw [← isHeader, headerExtension] at noHeader
      cases noHeader
    · rw [given] at isSource
      rw [← Option.some.inj isSource, extension] at noSource
      cases noSource
  have short : Word.classify "-h".toList = .ok (.shortHelp none) := by decide
  have long : Word.classify "--help".toList = .ok (.option .help none) := by decide
  have dry : Word.classify "--dry-run".toList = .ok (.option .dryRun none) := by decide
  refine ⟨?_, ?_, ?_⟩
  · intro member
    obtain ⟨meaning, found, same⟩ := isOption _ (by simp) member
    cases short.symm.trans same
    exact noHelp.1 found
  · intro member
    obtain ⟨meaning, found, same⟩ := isOption _ (by simp) member
    cases long.symm.trans same
    exact noHelp.2 found
  · intro member
    obtain ⟨meaning, found, same⟩ := isOption _ (by simp) member
    cases dry.symm.trans same
    rw [dryRun]
    exact List.contains_iff_mem.2 found

theorem spares_execute (files : FileTree) (protection : Protection) {arguments : List Text}
    {command : Command} (asked : parseArguments arguments = .ok (.other command)) :
    Spares files protection arguments (execute files command protection) := by
  rcases execute_files_cases files command protection with unchanged | ⟨source, headerText,
    sourceText, round, writes, given, headerExtension, extension, read, found, some, succeeded,
    wrote⟩
  · exact .of_unchanged protection arguments unchanged
  · obtain ⟨noShort, noLong, dry⟩ := option_notMem asked given headerExtension extension
    refine ⟨fun failed => absurd succeeded failed, fun _ => Or.inr ?_,
      fun _ forbidden => FileTree.get?_of_writeTextUnder wrote forbidden, ?_, ?_, ?_⟩
    · obtain ⟨words, classified, -, -, output, -⟩ := means_of_parseArguments asked
      rw [output, outputPath_eq_destination] at wrote
      obtain ⟨location, _, room, written⟩ :=
        FileTree.of_writeText (FileTree.writeText_of_writeTextUnder wrote)
      obtain ⟨node, leads, free⟩ := FileTree.target_of_writable room
      refine ⟨words, command, source, location, node, classified, asked, given, leads, free, ?_⟩
      intro other differ
      rw [written, FileTree.get?_set_of_ne files location other _ (Ne.symm differ)]
    · rintro (member | member | help)
      · exact absurd member noShort
      · exact absurd member noLong
      · cases asked.symm.trans help
    · rintro (member | ⟨other, same, isDry⟩)
      · cases writes.symm.trans (dry member)
      · cases asked.symm.trans same
        cases writes.symm.trans isDry
    · intro other implementation header text same givenToo readHeader readSource none
      cases asked.symm.trans same
      cases given.symm.trans givenToo
      obtain ⟨readHeader', readSource'⟩ := readInputs_eq_ok.1 read
      cases readHeader'.symm.trans readHeader
      cases readSource'.symm.trans readSource
      exact absurd (Except.ok.inj (found.symm.trans none)) some

/-- Whatever is protected, a run that fails leaves all files and directories as they were.  One
that succeeds changes at most what stands where the last output path leads, or the implementation
file if that path is missing, empty or `--`, and nothing that is protected; and it changes nothing
at all if it shows the help text, is a dry run or finds no definition. -/
theorem run_spares_files (files : FileTree) (protection : Protection) (arguments : List Text) :
    Spares files protection arguments (runArguments files arguments protection) ∧
      Spares files protection arguments (run files arguments protection) := by
  have main : Spares files protection arguments (runArguments files arguments protection) := by
    unfold runArguments
    cases asked : parseArguments arguments with
    | error error => exact .of_unchanged protection arguments rfl
    | ok answer =>
        cases answer with
        | help => exact .of_unchanged protection arguments rfl
        | other command => exact spares_execute files protection asked
  refine ⟨main, ?_⟩
  rw [run]
  split
  · exact .of_unchanged protection arguments rfl
  · exact main

-- Nothing can be made in a protected directory, and a file that stands there is written all the
-- same.
example :
    run swappedFiles ["a.h".toList, "a.cpp".toList, "-od/b.cpp".toList]
        (· == ["w".toList, "d".toList]) =
        .failed swappedFiles
          "Error processing files: [Errno 13] Permission denied: 'd/b.cpp'".toList ∧
      (run swappedFiles ["a.h".toList, "a.cpp".toList] (· == ["w".toList])).exitCode = 0 := by
  decide +kernel

/-- Whether a run succeeds and changes something else than what stands where the last output path
leads that is not empty, or the implementation file if there is none. -/
def StraysFromLastPath (files : FileTree) (arguments : List Text) (implementation : Text) : Prop :=
  (run files arguments).exitCode = 0 ∧ ∃ words location node other,
    Word.classifyAll (splitAtSeparator arguments).1 = .ok words ∧
    files.target (((outputValues words).filter (· ≠ [])).getLast?.getD implementation) =
      .ok (location, node) ∧
    other ≠ location ∧ (run files arguments).files.get? other ≠ files.get? other

/-- The implementation file is written although an output path was given, if an empty value comes
after it, and if the path is `--`. -/
theorem implementation_written_despite_output :
    StraysFromLastPath swappedFiles
        ["a.h".toList, "a.cpp".toList, "-o".toList, "b.cpp".toList, "-o".toList, []]
        "a.cpp".toList ∧
      StraysFromLastPath swappedFiles ["a.h".toList, "a.cpp".toList, "-o--".toList]
        "a.cpp".toList := by
  constructor
  · refine ⟨by decide +kernel, [.plain "a.h".toList, .plain "a.cpp".toList, .option .output none,
      .plain "b.cpp".toList, .option .output none, .plain []], ["w".toList, "b.cpp".toList], none,
      ["w".toList, "a.cpp".toList], ?_⟩
    decide +kernel
  · refine ⟨by decide +kernel, [.plain "a.h".toList, .plain "a.cpp".toList,
      .option .output (some separator)], ["w".toList, separator], none,
      ["w".toList, "a.cpp".toList], ?_⟩
    decide +kernel

end CommandLine

end HeaderOrder
