import HeaderOrder.Proofs.Accounting
import HeaderOrder.Proofs.Commands

/-!
# Runs that write over the implementation file

A run without an output path replaces the implementation file by its arrangement.  What is read
there afterwards is the arranged text, so the run loses just the lines that the arrangement loses.
It loses none if each definition opens one brace on its first line and there is no decoy, and it
does lose lines if a first line opens more: a definition ends where it would end with one open
brace, but the braces of its first line count when its range is located, and the range is then
longer than its text.
-/

namespace HeaderOrder

/-! ## The characters of an arranged file -/

theorem Text.mem_unlines_iff {cut : List Text} {character : Char} (other : character ≠ '\n') :
    character ∈ unlines cut ↔ ∃ line ∈ cut, character ∈ line :=
  mem_intercalate_iff (by simpa using other)

/-- A slice of the lines of a text has no characters of its own. -/
theorem Text.mem_of_mem_unlines_slice {source : Text} {span : Span} {character : Char}
    (other : character ≠ '\n') (member : character ∈ unlines (span.slice (lines source))) :
    character ∈ source := by
  obtain ⟨line, inSlice, inLine⟩ := (mem_unlines_iff other).1 member
  rw [← unlines_lines source]
  exact (mem_unlines_iff other).2 ⟨line, mem_of_mem_slice inSlice, inLine⟩

/-- An arrangement brings in no characters but line breaks. -/
theorem Layout.mem_of_mem_arrange {declarations : Declarations} (layout : Layout declarations)
    {source : Text} (cut : layout.lines = Text.lines source) (ranking : Ranking) {character : Char}
    (other : character ≠ '\n')
    (member : character ∈ arrange source ranking layout.definitions) : character ∈ source := by
  have ofGap : ∀ slice ∈ gapSlices source layout.definitions,
      character ∈ Text.unlines slice → character ∈ source := by
    intro slice inGaps inSlice
    obtain ⟨gap, _, rfl⟩ := List.mem_map.1 inGaps
    exact Text.mem_of_mem_unlines_slice other inSlice
  have ofDefinition : ∀ definition ∈ layout.definitions,
      character ∈ definition.text → character ∈ source := by
    intro definition found inText
    rw [← Text.unlines_lines definition.text, ← layout.slice_range_definitions definition found,
      cut] at inText
    exact Text.mem_of_mem_unlines_slice other inText
  obtain ⟨part, inParts, inPart⟩ := (mem_intercalate_iff (by simpa using other)).1 member
  rw [arrangedParts_eq, List.mem_append, List.mem_append] at inParts
  rcases inParts with (first | sorted) | later
  · obtain ⟨slice, inTake, rfl⟩ := List.mem_map.1 first
    exact ofGap slice (List.mem_of_mem_take inTake) inPart
  · obtain ⟨definition, inSorted, rfl⟩ := List.mem_map.1 sorted
    exact ofDefinition definition ((sortByRank_perm ranking _).mem_iff.1 inSorted) inPart
  · obtain ⟨slice, inDrop, rfl⟩ := List.mem_map.1 (List.mem_of_mem_filter later)
    exact ofGap slice (List.mem_of_mem_drop inDrop) inPart

end HeaderOrder

namespace HeaderOrder.CommandLine

open HeaderOrder.Job

/-! ## What a successful run has done -/

/-- A command that succeeds has read both files. -/
theorem exists_of_execute {files : FileTree} {command : Command} {protection : Protection}
    (succeeded : (execute files command protection).exitCode = 0) :
    ∃ implementation header source, command.implementation = some implementation ∧
      files.readText command.header = .ok header ∧ files.readText implementation = .ok source ∧
        execute files command protection =
          deliver files (Declarations.ofHeader header) source command.dryRun
            (outputPath command.output implementation) protection := by
  unfold execute at succeeded ⊢
  split_ifs at succeeded ⊢ with extension
  · cases succeeded
  · cases given : command.implementation with
    | none =>
        rw [given] at succeeded
        cases succeeded
    | some implementation =>
        rw [given] at succeeded
        dsimp only at succeeded ⊢
        unfold executeFor at succeeded ⊢
        split_ifs at succeeded ⊢
        · cases succeeded
        · cases succeeded
        · cases succeeded
        · cases header : files.readText command.header with
          | error error =>
              simp [readInputs, header, bind, Except.bind] at succeeded
              cases succeeded
          | ok headerText =>
              cases source : files.readText implementation with
              | error error =>
                  simp [readInputs, header, source, bind, Except.bind] at succeeded
                  cases succeeded
              | ok sourceText =>
                  refine ⟨implementation, headerText, sourceText, rfl, rfl, source, ?_⟩
                  simp [readInputs, header, source, bind, Except.bind, pure, Except.pure]

/-- A successful delivery to a file has written the arranged text there, unless there was nothing to
arrange. -/
theorem of_deliver {files : FileTree} {declarations : Declarations} {source path : Text}
    {protection : Protection} {definitions : List Definition}
    (found : Definition.ofSource declarations source = .ok definitions)
    (succeeded : (deliver files declarations source false path protection).exitCode = 0) :
    definitions = [] ∧ (deliver files declarations source false path protection).files = files ∨
      files.writeText path (arrange source declarations.positions definitions) =
        .ok (deliver files declarations source false path protection).files := by
  have round : Round.of declarations source = .ok ⟨definitions,
      Report.messages declarations.positions definitions,
      arrange source declarations.positions definitions⟩ := by
    rw [Round.of, found]
    rfl
  unfold deliver at succeeded ⊢
  rw [round] at succeeded ⊢
  dsimp only at succeeded ⊢
  cases definitions with
  | nil => exact .inl ⟨rfl, rfl⟩
  | cons definition rest =>
      right
      simp only [List.isEmpty_cons, Bool.false_eq_true, if_false] at succeeded ⊢
      cases wrote : files.writeTextUnder protection path
          (arrange source declarations.positions (definition :: rest)) with
      | error error =>
          rw [wrote] at succeeded
          cases succeeded
      | ok written => exact FileTree.writeText_of_writeTextUnder wrote

theorem plain_of_readText {files : FileTree} {path text : Text}
    (read : files.readText path = .ok text) : '\r' ∉ text := by
  unfold FileTree.readText at read
  cases bytes : files.readBytes path with
  | error error => simp [bytes] at read
  | ok raw =>
      cases decoded : Text.Utf8.decode raw with
      | error error => simp [bytes, decoded] at read
      | ok original =>
          simp only [bytes, decoded, Except.ok.injEq] at read
          rw [← read]
          exact Text.not_mem_unifyNewlines original

/-- After a successful delivery to the file that was arranged, its arrangement is read there. -/
theorem readText_deliver {files : FileTree} {header source path : Text} {protection : Protection}
    (read : files.readText path = .ok source)
    (succeeded :
      (deliver files (Declarations.ofHeader header) source false path protection).exitCode = 0) :
    ∃ layout : Layout (Declarations.ofHeader header), layout.lines = Text.lines source ∧
      (deliver files (Declarations.ofHeader header) source false path protection).files.readText
          path =
        .ok (arrange source (Declarations.ofHeader header).positions layout.definitions) := by
  obtain ⟨layout, cut⟩ := Layout.exists_of_source header source
  refine ⟨layout, cut, ?_⟩
  rcases of_deliver (layout.ofSource_eq cut) succeeded with ⟨none, unchanged⟩ | wrote
  · rw [unchanged, none, arrange_nil]
    exact read
  · apply FileTree.readText_of_writeText wrote
    intro member
    exact plain_of_readText read (layout.mem_of_mem_arrange cut _ (by decide) member)

/-! ## Lines lost by a run in place -/

/-- Whatever is protected, a successful run in place keeps the nonblank lines of the
implementation file exactly if the texts of the definitions give back the nonblank lines that
their located ranges took; it does so if each definition opens one brace on its first line and
there is no decoy. -/
theorem run_in_place_survive_iff {files : FileTree} {protection : Protection}
    {arguments : List Text} {command : Command}
    (asked : parseArguments arguments = .ok (.other command)) (inPlace : command.output = none)
    (writes : command.dryRun = false)
    (succeeded : (run files arguments protection).exitCode = 0) :
    ∃ implementation header before after definitions,
      command.implementation = some implementation ∧
      files.readText command.header = .ok header ∧
      files.readText implementation = .ok before ∧
      (run files arguments protection).files.readText implementation = .ok after ∧
      Definition.ofSource (Declarations.ofHeader header) before = .ok definitions ∧
      (SurviveIn (Text.lines before) (Text.lines after) ↔
        SurviveIn (takenLines before definitions) (definitions.flatMap (Text.lines ·.text))) ∧
      (OpensOneBrace before definitions → NoDecoy before definitions →
        SurviveIn (Text.lines before) (Text.lines after)) := by
  rw [run_eq_execute asked] at succeeded ⊢
  obtain ⟨implementation, header, before, given, headerRead, read, delivered⟩ :=
    exists_of_execute succeeded
  rw [inPlace, writes, outputPath] at delivered
  rw [delivered] at succeeded ⊢
  obtain ⟨layout, cut, after⟩ := readText_deliver read succeeded
  refine ⟨implementation, header, before, _, layout.definitions, given, headerRead, read, after,
    layout.ofSource_eq cut, survive_arrange_iff before _ layout.definitions, ?_⟩
  intro opensOne noDecoy
  have findable := (layout.findable_iff cut).2 ⟨opensOne, noDecoy⟩
  exact survive_of_perm (Layout.nonblankLines_arrange_perm findable cut _)

def crowdedHeader : Text :=
  "class A \x7b\nvoid f();\n\x7d;".toList

/-- A file that opens two braces on the first line of its function. -/
def crowdedSource : Text :=
  "int g;\nvoid A::f() \x7b if (g) \x7b\n  g = 0;\n\x7d\n\x7d".toList

def crowdedFiles : FileTree :=
  ((FileTree.bare ["w".toList]).place ["a.h".toList]
    (.file (Text.Utf8.encode crowdedHeader))).place ["a.cpp".toList]
      (.file (Text.Utf8.encode crowdedSource))

/-- The definition in that file: its text ends where its second brace is closed. -/
def crowdedDefinition : Definition :=
  ⟨"A::f".toList, "A::f()".toList, "void A::f() \x7b if (g) \x7b\n  g = 0;\n\x7d".toList, 1⟩

theorem ofSource_crowded :
    Definition.ofSource (Declarations.ofHeader crowdedHeader) crowdedSource =
      .ok [crowdedDefinition] := by
  decide +kernel

theorem not_survive_crowded : ¬ SurviveIn (takenLines crowdedSource [crowdedDefinition])
    ([crowdedDefinition].flatMap (Text.lines ·.text)) := by
  decide +kernel

/-- A run in place that succeeds and loses the last line of a function. -/
theorem run_in_place_survive_iff_crowded :
    (run crowdedFiles ["a.h".toList, "a.cpp".toList]).exitCode = 0 ∧
      ∃ before after, crowdedFiles.readText "a.cpp".toList = .ok before ∧
        (run crowdedFiles ["a.h".toList, "a.cpp".toList]).files.readText "a.cpp".toList =
          .ok after ∧
        ¬ SurviveIn (Text.lines before) (Text.lines after) := by
  have asked : parseArguments ["a.h".toList, "a.cpp".toList] =
      .ok (.other ⟨"a.h".toList, some "a.cpp".toList, none, false⟩) := by decide +kernel
  have succeeded : (run crowdedFiles ["a.h".toList, "a.cpp".toList]).exitCode = 0 := by
    decide +kernel
  have headerText : crowdedFiles.readText "a.h".toList = .ok crowdedHeader := by decide +kernel
  have sourceText : crowdedFiles.readText "a.cpp".toList = .ok crowdedSource := by decide +kernel
  obtain ⟨implementation, header, before, after, definitions, given, headerRead, read, readAfter,
    found, iff, _⟩ := run_in_place_survive_iff asked rfl rfl succeeded
  cases given
  cases headerText.symm.trans headerRead
  cases sourceText.symm.trans read
  cases ofSource_crowded.symm.trans found
  exact ⟨succeeded, crowdedSource, after, sourceText, readAfter, mt iff.1 not_survive_crowded⟩

end HeaderOrder.CommandLine
