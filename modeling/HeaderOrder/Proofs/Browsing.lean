import HeaderOrder.Proofs.Sessions

/-!
# Choosing headers one after the other

Each time a header is chosen, the implementation file beside it is looked for.  If it is there,
its path is taken along, and so is the path of the folder beside the header.  If it is not there,
the folder is taken and the implementation file of an earlier header stays.  If it cannot be told
whether it is there, both stay.

So the three paths come from three headers: the last one chosen, the last one with an
implementation file beside it, and the last one for which it could be told.  They belong together
only if these agree.
-/

namespace HeaderOrder.Window.Session

/-- The path of the implementation file that belongs to a header: that of the header, with another
suffix.  There is none if the header's path has no name. -/
def sourceBeside? (header : Text) : Option Text :=
  ((Path.ofText header).withSuffix? ".cpp".toList).map Path.toText

/-- Whether the implementation file beside a header is there, if it can be told. -/
def lookBeside? (files : FileTree) (header : Text) : Option Bool :=
  (sourceBeside? header).bind fun source => (files.isThere source).toOption

/-- Whether the paths of a session belong together: the implementation file and the folder are those
beside the header, unless they are not chosen yet. -/
def Paired (session : Session) : Prop :=
  (session.sourcePath = [] ∨ sourceBeside? session.headerPath = some session.sourcePath) ∧
    (session.outputFolder = [] ∨ session.outputFolder = folderBeside session.headerPath)

instance (session : Session) : Decidable session.Paired :=
  inferInstanceAs (Decidable (_ ∧ _))

/-! ## Paths that are not empty -/

theorem ne_nil_of_sourceBeside? {header source : Text}
    (beside : sourceBeside? header = some source) : source ≠ [] := by
  obtain ⟨path, -, rfl⟩ := Option.map_eq_some_iff.1 beside
  exact path.toText_ne_nil

theorem folderBeside_ne_nil (header : Text) : folderBeside header ≠ [] :=
  Path.toText_ne_nil _

/-! ## The choice of a header -/

/-- What the choice of a header changes, by whether the implementation file beside it is there. -/
theorem session_chooseHeader (session : Session) (header : Text) :
    (session.chooseHeader header).session =
      match lookBeside? session.files header with
      | none => { session with headerPath := header }
      | some false =>
          { session with headerPath := header, outputFolder := folderBeside header }
      | some true =>
          { session with
            headerPath := header
            sourcePath := (sourceBeside? header).getD []
            outputFolder := folderBeside header } := by
  unfold chooseHeader lookBeside? sourceBeside?
  cases (Path.ofText header).withSuffix? ".cpp".toList with
  | none => rfl
  | some source =>
      dsimp only [Option.map_some, Option.bind_some]
      cases session.files.isThere source.toText with
      | error error => rfl
      | ok there => cases there <;> rfl

/-- The answers of the dialog that are paths. -/
def chosen (answers : List Text) : List Text :=
  answers.filter (· ≠ [])

/-- The last of the headers for which the implementation file was found. -/
def lastFound? (files : FileTree) (headers : List Text) : Option Text :=
  (headers.filter (lookBeside? files · = some true)).getLast?

/-- The last of the headers for which it could be told whether the implementation file is there. -/
def lastTold? (files : FileTree) (headers : List Text) : Option Text :=
  (headers.filter (lookBeside? files · ≠ none)).getLast?

theorem getLast?_filter_concat (keep : Text → Bool) (headers : List Text) (header : Text) :
    ((headers ++ [header]).filter keep).getLast? =
      if keep header then some header else (headers.filter keep).getLast? := by
  rw [List.filter_append]
  cases kept : keep header <;> simp [kept]

theorem lastFound?_concat (files : FileTree) (headers : List Text) (header : Text) :
    lastFound? files (headers ++ [header]) =
      if lookBeside? files header = some true then some header else lastFound? files headers := by
  rw [lastFound?, getLast?_filter_concat]
  simp only [decide_eq_true_eq]
  rfl

theorem lastTold?_concat (files : FileTree) (headers : List Text) (header : Text) :
    lastTold? files (headers ++ [header]) =
      if lookBeside? files header ≠ none then some header else lastTold? files headers := by
  rw [lastTold?, getLast?_filter_concat]
  simp only [decide_eq_true_eq]
  rfl

/-- Where a session has come to that has chosen these headers. -/
structure HasChosen (files : FileTree) (headers : List Text) (session : Session) : Prop where
  unchanged : session.files = files
  header : session.headerPath = headers.getLast?.getD []
  source : session.sourcePath = ((lastFound? files headers).bind sourceBeside?).getD []
  folder : session.outputFolder = ((lastTold? files headers).map folderBeside).getD []

theorem hasChosen_new (files : FileTree) : HasChosen files [] (new files) :=
  ⟨rfl, rfl, rfl, rfl⟩

theorem hasChosen_chooseHeader {files : FileTree} {headers : List Text} {session : Session}
    (before : HasChosen files headers session) (header : Text) :
    HasChosen files (headers ++ [header]) (session.chooseHeader header).session := by
  have last : header = (headers ++ [header]).getLast?.getD [] := by simp
  obtain ⟨rfl, -, source, folder⟩ := before
  rw [session_chooseHeader]
  cases look : lookBeside? session.files header with
  | none =>
      refine ⟨rfl, last, ?_, ?_⟩
      · rw [lastFound?_concat, if_neg (by simp [look])]
        exact source
      · rw [lastTold?_concat, if_neg (by simp [look])]
        exact folder
  | some there =>
      have told : lastTold? session.files (headers ++ [header]) = some header := by
        rw [lastTold?_concat, if_pos (by simp [look])]
      cases there with
      | false =>
          refine ⟨rfl, last, ?_, ?_⟩
          · rw [lastFound?_concat, if_neg (by simp [look])]
            exact source
          · rw [told]
            rfl
      | true =>
          refine ⟨rfl, last, ?_, ?_⟩
          · rw [lastFound?_concat, if_pos look]
            rfl
          · rw [told]
            rfl

theorem hasChosen_after {files : FileTree} {headers : List Text} {session : Session}
    (before : HasChosen files headers session) (answers : List Text) :
    HasChosen files (headers ++ chosen answers)
      (session.after (answers.map Action.browseHeader)) := by
  induction answers generalizing headers session with
  | nil => simpa [chosen] using before
  | cons answer rest ih =>
      rw [List.map_cons, after_cons]
      have reset : HasChosen files headers { session with statuses := [] } :=
        ⟨before.unchanged, before.header, before.source, before.folder⟩
      cases answer with
      | nil => exact ih reset
      | cons first others =>
          have next := ih (hasChosen_chooseHeader reset (first :: others))
          rw [List.append_assoc] at next
          exact next

/-! ## Paths that belong together -/

theorem exists_of_lastFound? {files : FileTree} {headers : List Text} {earlier : Text}
    (found : lastFound? files headers = some earlier) :
    ∃ source, sourceBeside? earlier = some source ∧
      (files.isThere source).toOption = some true := by
  have member := List.mem_of_getLast? found
  rw [List.mem_filter, decide_eq_true_eq] at member
  exact Option.bind_eq_some_iff.1 member.2

/-- After a sequence of choices the implementation file belongs to the header exactly if it was
found beside this header, or beside none. -/
theorem source_belongs_iff {files : FileTree} {headers : List Text} {session : Session}
    {header : Text} (reached : HasChosen files headers session)
    (last : headers.getLast? = some header) :
    (session.sourcePath = [] ∨ sourceBeside? session.headerPath = some session.sourcePath) ↔
      lookBeside? files header = some true ∨
        ∀ earlier ∈ headers, lookBeside? files earlier ≠ some true := by
  have shown : session.headerPath = header := by rw [reached.header, last, Option.getD_some]
  rw [reached.source, shown]
  cases found : lastFound? files headers with
  | none =>
      have missing : ∀ earlier ∈ headers, lookBeside? files earlier ≠ some true := by
        simpa [lastFound?] using found
      simpa using Or.inr missing
  | some earlier =>
      obtain ⟨source, beside, there⟩ := exists_of_lastFound? found
      have present : ¬ ∀ earlier ∈ headers, lookBeside? files earlier ≠ some true := by
        intro missing
        have member := List.mem_of_getLast? found
        rw [List.mem_filter, decide_eq_true_eq] at member
        exact missing earlier member.1 member.2
      rw [Option.bind_some, beside, Option.getD_some, or_iff_right (ne_nil_of_sourceBeside? beside),
        or_iff_left present]
      constructor
      · intro same
        rw [lookBeside?, same, Option.bind_some, there]
      · intro look
        -- The last header is the last of those found, so it is `earlier` itself.
        obtain ⟨front, rfl⟩ := List.getLast?_eq_some_iff.1 last
        rw [lastFound?_concat, if_pos look] at found
        rw [Option.some.inj found, beside]

/-- After a sequence of choices the folder belongs to the header exactly if it could be told
whether the implementation file is there, or the last header for which it could has the same
folder beside it. -/
theorem folder_belongs_iff {files : FileTree} {headers : List Text} {session : Session}
    {header : Text} (reached : HasChosen files headers session)
    (last : headers.getLast? = some header) :
    (session.outputFolder = [] ∨ session.outputFolder = folderBeside session.headerPath) ↔
      lookBeside? files header ≠ none ∨
        ∀ earlier, lastTold? files headers = some earlier →
          folderBeside earlier = folderBeside header := by
  have shown : session.headerPath = header := by rw [reached.header, last, Option.getD_some]
  rw [reached.folder, shown]
  cases told : lastTold? files headers with
  | none => simp
  | some earlier =>
      rw [Option.map_some, Option.getD_some, or_iff_right (folderBeside_ne_nil earlier)]
      constructor
      · intro same
        right
        intro other equal
        cases equal
        exact same
      · rintro (look | agrees)
        · obtain ⟨front, rfl⟩ := List.getLast?_eq_some_iff.1 last
          rw [lastTold?_concat, if_pos look] at told
          rw [Option.some.inj told]
        · exact agrees earlier rfl

/-- The paths of a session that has only chosen headers belong together exactly if two things hold
of the last header.  Its implementation file was found, or that of no header was; otherwise the
implementation file of another header is kept.  And it could be told whether it is there, or the
folder of the last header for which it could be told is the same; otherwise the folder of another
header is kept. -/
theorem paired_after_browsing_iff (files : FileTree) (answers : List Text) :
    ((new files).after (answers.map Action.browseHeader)).Paired ↔
      ∀ header, (chosen answers).getLast? = some header →
        (lookBeside? files header = some true ∨
          ∀ earlier ∈ chosen answers, lookBeside? files earlier ≠ some true) ∧
        (lookBeside? files header ≠ none ∨
          ∀ earlier, lastTold? files (chosen answers) = some earlier →
            folderBeside earlier = folderBeside header) := by
  have reached : HasChosen files (chosen answers)
      ((new files).after (answers.map Action.browseHeader)) :=
    hasChosen_after (hasChosen_new files) answers
  cases last : (chosen answers).getLast? with
  | none =>
      have nothing : chosen answers = [] := List.getLast?_eq_none_iff.1 last
      rw [nothing] at reached
      have belongs : ((new files).after (answers.map Action.browseHeader)).Paired :=
        ⟨Or.inl reached.source, Or.inl reached.folder⟩
      simpa using belongs
  | some header =>
      constructor
      · intro belongs other same
        cases same
        exact ⟨(source_belongs_iff reached last).1 belongs.1,
          (folder_belongs_iff reached last).1 belongs.2⟩
      · intro agree
        obtain ⟨found, told⟩ := agree header rfl
        exact ⟨(source_belongs_iff reached last).2 found, (folder_belongs_iff reached last).2 told⟩

/-- The implementation file of the first header is kept with the second one, which has none. -/
example :
    ¬ ((new (CommandLine.swappedFiles.place ["b.h".toList] (.file []))).after
      (["a.h".toList, "b.h".toList].map Action.browseHeader)).Paired := by
  decide +kernel

end HeaderOrder.Window.Session
